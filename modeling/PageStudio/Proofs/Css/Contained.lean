import PageStudio.Proofs.Css.Continuation
import PageStudio.Proofs.Css.Identifier
import PageStudio.Proofs.Css.Values

/-!
# Values that end where they are written to end

A value is written into a rule with a semicolon behind it, which ends its declaration only if the
value leaves nothing open: no comment, string, address or escape goes on, and no bracket is waiting
for the one that closes it. Literals are not all like this.

## Main statements

* `declarations?_concat`: a rule body whose values are contained is read as its declarations, and
  what follows is cut into the tokens that it has by itself.
* `declarations?_iff_contained`: a literal can stand in front of every such rule body exactly if it
  is contained.
-/

namespace PageStudio.Css.Lexical

open Style

/-! ## Tokens that end declarations -/

/-- Whether a token can end a declaration. -/
def Token.ends : Token → Bool
  | .semicolon | .closing .curly => true
  | _ => false

/-- No character of a text is a delimiter. -/
def Undelimited (s : List Char) : Prop := ∀ c ∈ s, isDelimiter c = false

instance (s : List Char) : Decidable (Undelimited s) := List.decidableBAll _ _

theorem Undelimited.of_suffix {s t : List Char} (undelimited : Undelimited t) (suffix : s <:+ t) :
    Undelimited s := fun c mem => undelimited c (suffix.subset mem)

/-- A token that begins with another character than a delimiter ends no declaration. -/
theorem ends_of_token {c : Char} {s : List Char} {t : Token} (first : (token c s).1 = some t)
    (plain : isDelimiter c = false) : t.ends = false := by
  rcases token_cases first with word | ⟨-, rfl⟩ | mark
  · revert word
    cases t with
    | closing b => nofun
    | semicolon => nofun
    | _ => exact fun _ => rfl
  · rfl
  · unfold punctuation? at mark
    split at mark
    all_goals cases mark
    all_goals first | rfl | cases plain

theorem ends_of_mem_scan {s : List Char} (undelimited : Undelimited s) :
    ∀ t ∈ (scan s).1, t.ends = false := by
  fun_induction scan s with
  | case1 => exact List.forall_mem_nil _
  | case2 c s t first =>
    intro t' mem
    have same := Option.mem_toList.mp mem
    exact ends_of_token ((congrArg Prod.fst first).trans same) (undelimited c List.mem_cons_self)
  | case3 c s t rest first ih =>
    have behind := within_token c s rest (congrArg Prod.snd first)
    refine List.forall_mem_append.mpr ⟨fun t' mem => ?_, ?_⟩
    · have same := Option.mem_toList.mp mem
      exact ends_of_token ((congrArg Prod.fst first).trans same) (undelimited c List.mem_cons_self)
    · exact ih (undelimited.of_suffix (behind.trans (List.suffix_cons c s)))

/-- Behind a text that ends within a token a semicolon ends no declaration. -/
theorem ends_of_mem_scan_append {s u : List Char} (cut : (scan s).2 = false)
    (undelimited : Undelimited s) (undelimited_u : Undelimited u) :
    ∀ t ∈ (scan (s ++ ';' :: u)).1, t.ends = false := by
  fun_induction scan s with
  | case1 => cases cut
  | case2 c s t first =>
    have behind := (continues_token c s u).cut (congrArg Prod.snd first)
    have plain := undelimited c List.mem_cons_self
    cases followed : token c (s ++ ';' :: u) with
    | mk t' r =>
      rw [followed] at behind
      have here : ∀ t ∈ t'.toList, t.ends = false := fun t mem =>
        ends_of_token ((congrArg Prod.fst followed).trans (Option.mem_toList.mp mem)) plain
      rw [List.cons_append]
      cases r with
      | none =>
        rw [scan_cons_of_none followed]
        exact here
      | some rest =>
        rw [scan_cons followed]
        have later := undelimited_u.of_suffix (behind rest rfl)
        exact List.forall_mem_append.mpr ⟨here, ends_of_mem_scan later⟩
  | case3 c s t rest first ih =>
    have followed := (continues_token c s u).ended rest (congrArg Prod.snd first)
    have behind := within_token c s rest (congrArg Prod.snd first)
    rw [first] at followed
    rw [List.cons_append, scan_cons followed]
    refine List.forall_mem_append.mpr ⟨fun t' mem => ?_, ?_⟩
    · have same := Option.mem_toList.mp mem
      exact ends_of_token ((congrArg Prod.fst first).trans same) (undelimited c List.mem_cons_self)
    · exact ih cut (undelimited.of_suffix (behind.trans (List.suffix_cons c s)))

theorem undelimited_filtered {s : List Char} (undelimited : Undelimited s) :
    Undelimited (filtered s) :=
  forall_mem_filtered (P := fun c => isDelimiter c = false) rfl rfl undelimited

/-! ## Declarations -/

/-- The tokens of a value, and what follows the semicolon behind it. A semicolon between brackets
belongs to the value. -/
def valueTokens (around : List Bracket) : List Token → List Token × List Token
  | [] => ([], [])
  | t :: ts =>
    if around.isEmpty && t.ends then ([], if t = .semicolon then ts else t :: ts)
    else (t :: (valueTokens (nest around t) ts).1, (valueTokens (nest around t) ts).2)

def dropBlankTokens (ts : List Token) : List Token := ts.dropWhile (· = .blank)

/-- Tokens without the blanks around them. -/
def trimTokens (ts : List Token) : List Token :=
  (dropBlankTokens (dropBlankTokens ts).reverse).reverse

/-- A declaration as it is read. -/
structure Declared where
  name : List Char
  value : List Token
deriving DecidableEq

/-- The declaration that tokens begin with, and what follows it. -/
def declaration? (ts : List Token) : Option (Declared × List Token) :=
  match dropBlankTokens ts with
  | .ident n :: ts =>
    match dropBlankTokens ts with
    | .colon :: ts => some (⟨n, trimTokens (valueTokens [] ts).1⟩, (valueTokens [] ts).2)
    | _ => none
  | _ => none

/-- The first `count` declarations of a rule body, and what follows them. -/
def declarations? : (count : Nat) → List Token → Option (List Declared × List Token)
  | 0, ts => some ([], ts)
  | count + 1, ts => do
    let (d, ts) ← declaration? ts
    let (ds, ts) ← declarations? count ts
    return (d :: ds, ts)

/-- What a declaration is meant to be read as. -/
def declared (d : Declaration) : Declared := ⟨d.1.toList, trimTokens (tokens d.2)⟩

/-- Tokens that end no declaration belong to the value that they stand in. -/
theorem valueTokens_append {ts : List Token} (goesOn : ∀ t ∈ ts, t.ends = false)
    (around : List Bracket) (us : List Token) :
    valueTokens around (ts ++ us) =
      (ts ++ (valueTokens (ts.foldl nest around) us).1,
        (valueTokens (ts.foldl nest around) us).2) := by
  induction ts generalizing around with
  | nil => rfl
  | cons t ts ih =>
    have here : ¬(around.isEmpty && t.ends) = true := by
      rw [goesOn t List.mem_cons_self, Bool.and_false]
      exact Bool.noConfusion
    rw [List.cons_append, valueTokens, if_neg here,
      ih fun t mem => goesOn t (List.mem_cons_of_mem _ mem)]
    rfl

theorem valueTokens_of_ends {ts : List Token} (goesOn : ∀ t ∈ ts, t.ends = false)
    (around : List Bracket) : (valueTokens around ts).2 = [] := by
  have whole := valueTokens_append goesOn around []
  rw [List.append_nil] at whole
  rw [whole]
  rfl

/-! ## Contained values -/

/-- A text leaves nothing open and ends no declaration. -/
structure Closed (s : List Char) : Prop where
  /-- No comment, string, address or escape goes on behind it. -/
  whole : (scan s).2 = true
  /-- No bracket is waiting for the one that closes it. -/
  nested : (scan s).1.foldl nest [] = []
  /-- No semicolon or closing brace of its own is a token. -/
  goesOn : ∀ t ∈ (scan s).1, t.ends = false

instance (s : List Char) : Decidable (Closed s) :=
  decidable_of_iff ((scan s).2 = true ∧ (scan s).1.foldl nest [] = [] ∧
      ∀ t ∈ (scan s).1, t.ends = false)
    ⟨fun h => ⟨h.1, h.2.1, h.2.2⟩, fun h => ⟨h.whole, h.nested, h.goesOn⟩⟩

/-- A value can be told from what is written behind it. -/
def Contained (s : String) : Prop := Closed (filtered s.toList)

instance (s : String) : Decidable (Contained s) := inferInstanceAs (Decidable (Closed _))

/-- A declaration is written with a name and a contained value. -/
structure Readable (d : Declaration) : Prop where
  name : IsIdentifier d.1.toList
  value : Contained d.2

/-! ## Values that open nothing -/

/-- Whether a character can open something: a string, a comment, a bracket or an escape. -/
def isOpener (c : Char) : Bool :=
  isQuote c || c = '\\' || c = '/' || c = '(' || c = '[' || c = '\x7b'

theorem exists_name_snd {s : List Char} (noEscape : ∀ c ∈ s, c ≠ '\\') :
    ∃ rest, (name s).2 = some rest := by
  induction s using name.induct with
  | case1 s first => exact ⟨s, by rw [name, first]⟩
  | case2 s c first =>
    cases s with
    | nil => cases first
    | cons d s =>
      have plain : ¬(decide (d = '\\') && isEscaped s) = true := by
        rw [decide_eq_false (noEscape d List.mem_cons_self)]
        exact Bool.noConfusion
      rw [nameChar?, if_neg plain] at first
      split at first
      · cases first
      · cases first
  | case3 s c rest first ih =>
    cases s with
    | nil => cases first
    | cons d s =>
      have behind := (within_nameChar? first rest rfl).trans (List.suffix_cons d s)
      rw [name, first]
      exact ih fun e mem => noEscape e (behind.subset mem)

/-- A text without characters that open something begins with a token that has ended and opens
nothing. -/
theorem exists_token_eq {c : Char} {s : List Char} (plain : ∀ d ∈ c :: s, isOpener d = false) :
    ∃ t rest, token c s = (some t, some rest) ∧ nest [] t = [] := by
  have no : ∀ {d : Char}, isOpener d = true → ∀ e ∈ c :: s, e ≠ d := by
    rintro d opener e mem rfl
    cases opener.symm.trans (plain e mem)
  have ended : ∀ {t : List Char}, t <:+ c :: s → ∃ rest, (name t).2 = some rest := fun suffix =>
    exists_name_snd fun e mem => no (by decide) e (suffix.subset mem)
  have named : ∀ {n r}, r <:+ s → ∃ t rest, nameToken n (some r) = (some t, some rest) ∧
      nest [] t = [] := by
    intro n r suffix
    unfold nameToken
    split
    next rest same =>
      cases same
      have bracket := suffix.trans (List.suffix_cons c s) |>.subset List.mem_cons_self
      exact absurd rfl (no (by decide) '(' bracket)
    next => exact ⟨_, r, rfl, rfl⟩
  unfold token
  split
  · exact ⟨_, _, rfl, rfl⟩
  split
  next quote =>
    have first := plain c List.mem_cons_self
    rw [isOpener, quote] at first
    cases first
  split
  next opens =>
    have slash := of_decide_eq_true (Bool.and_eq_true _ _ ▸ opens).1
    exact absurd slash (no (by decide) c List.mem_cons_self)
  split
  next starts =>
    have behind := (suffix_of_number starts).trans (List.suffix_cons c s)
    unfold numeric
    split
    next digits rest read =>
      rw [read] at behind
      split
      · obtain ⟨after, same⟩ := ended behind
        exact ⟨_, after, Prod.ext rfl same, rfl⟩
      split
      · exact ⟨_, _, rfl, rfl⟩
      · exact ⟨_, _, rfl, rfl⟩
  split
  · exact ⟨_, _, rfl, rfl⟩
  split
  next starts =>
    obtain ⟨rest, same⟩ := ended List.suffix_rfl
    rw [same]
    exact named (within_name_cons (isSome_nameChar? starts) rest same)
  split
  · obtain ⟨rest, same⟩ := ended (List.suffix_cons c s)
    exact ⟨_, rest, Prod.ext rfl same, rfl⟩
  split
  · obtain ⟨rest, same⟩ := ended (List.suffix_cons c s)
    exact ⟨_, rest, Prod.ext rfl same, rfl⟩
  split
  · exact ⟨_, _, rfl, rfl⟩
  · refine ⟨_, s, rfl, ?_⟩
    have first := plain c List.mem_cons_self
    unfold punctuation?
    split
    all_goals first | rfl | cases first

/-- A text in which no character opens anything leaves nothing open. -/
theorem closed_of_plain {s : List Char} (plain : ∀ c ∈ s, isOpener c = false)
    (undelimited : Undelimited s) : Closed s := by
  have both : (scan s).2 = true ∧ (scan s).1.foldl nest [] = [] := by
    fun_induction scan s with
    | case1 => exact ⟨rfl, rfl⟩
    | case2 c s t first =>
      obtain ⟨_, _, same, -⟩ := exists_token_eq plain
      cases first.symm.trans same
    | case3 c s t rest first ih =>
      obtain ⟨t', rest', same, opensNone⟩ := exists_token_eq plain
      cases first.symm.trans same
      have behind := (within_token c s rest (congrArg Prod.snd first)).trans (List.suffix_cons c s)
      obtain ⟨whole, nested⟩ := ih (fun d mem => plain d (behind.subset mem))
        (undelimited.of_suffix behind)
      refine ⟨whole, ?_⟩
      show (scan rest).1.foldl nest (nest [] t') = []
      rw [opensNone, nested]
  exact ⟨both.1, both.2, ends_of_mem_scan undelimited⟩

/-- What a value has to have in it to be no longer contained: a quote, a backslash, a slash or an
opening bracket. -/
theorem contained_of_plain {s : String} (plain : ∀ c ∈ s.toList, isOpener c = false)
    (undelimited : Undelimited s.toList) : Contained s :=
  closed_of_plain (forall_mem_filtered (P := fun c => isOpener c = false) rfl rfl plain)
    (undelimited_filtered undelimited)

/-! ## Reading rule bodies -/

/-- A blank in front of a text is a token, unless the text begins with one. -/
theorem scan_blank (s : List Char) :
    scan (' ' :: s) = scan s ∨ scan (' ' :: s) = (.blank :: (scan s).1, (scan s).2) := by
  have first : scan (' ' :: s) = (.blank :: (scan (dropBlanks s)).1, (scan (dropBlanks s)).2) :=
    scan_cons (t := some .blank) rfl
  cases s with
  | nil => exact .inr first
  | cons c s =>
    by_cases blank : isBlank c = true
    · have token : token c s = (some .blank, some (dropBlanks s)) := if_pos blank
      have rest : dropBlanks (c :: s) = dropBlanks s := List.dropWhile_cons_of_pos blank
      exact .inl (first.trans (rest ▸ (scan_cons token).symm))
    · have rest : dropBlanks (c :: s) = c :: s := List.dropWhile_cons_of_neg blank
      exact .inr (by rw [first, rest])

theorem closed_blank_iff {s : List Char} : Closed (' ' :: s) ↔ Closed s := by
  have iff : Closed (' ' :: s) ↔ (scan (' ' :: s)).2 = true ∧
      (scan (' ' :: s)).1.foldl nest [] = [] ∧ ∀ t ∈ (scan (' ' :: s)).1, t.ends = false :=
    ⟨fun h => ⟨h.whole, h.nested, h.goesOn⟩, fun h => ⟨h.1, h.2.1, h.2.2⟩⟩
  rw [iff]
  rcases scan_blank s with same | blank
  · rw [same]
    exact ⟨fun h => ⟨h.1, h.2.1, h.2.2⟩, fun h => ⟨h.whole, h.nested, h.goesOn⟩⟩
  · rw [blank, List.forall_mem_cons]
    exact ⟨fun h => ⟨h.1, h.2.1, h.2.2.2⟩, fun h => ⟨h.whole, h.nested, rfl, h.goesOn⟩⟩

theorem trimTokens_blank (s : List Char) :
    trimTokens (scan (' ' :: s)).1 = trimTokens (scan s).1 := by
  rcases scan_blank s with same | blank
  · rw [same]
  · rw [blank]
    rfl

theorem scan_name {n : List Char} (identifier : IsIdentifier n) (w : List Char) :
    scan (n ++ ':' :: w) = (.ident n :: .colon :: (scan w).1, (scan w).2) := by
  cases n with
  | nil => cases identifier.starts
  | cons c s =>
    have first : token c (s ++ ':' :: w) = (some (.ident (c :: s)), some (':' :: w)) :=
      token_append identifier rfl nofun
    have second : token ':' w = (some .colon, some w) := rfl
    rw [List.cons_append, scan_cons first, scan_cons second]
    rfl

theorem tokens_blank (s : String) : tokens (" " ++ s) = (scan (' ' :: filtered s.toList)).1 := by
  have chars : (" " ++ s).toList = ' ' :: s.toList := String.toList_append
  rw [tokens, chars, filtered_cons (by decide)]

theorem declaration?_blank (s : String) :
    declaration? (tokens (" " ++ s)) = declaration? (tokens s) := by
  rw [tokens_blank]
  rcases scan_blank (filtered s.toList) with same | blank
  · rw [same]
    rfl
  · rw [blank]
    rfl

/-- The characters that a declaration is cut from. -/
theorem filtered_declarationText {d : Declaration} (plain : ∀ c ∈ d.1.toList, isName c = true)
    (after : String) :
    filtered (declarationText d ++ after).toList = d.1.toList ++
      ':' :: (' ' :: filtered d.2.toList ++ ';' :: filtered (" " ++ after).toList) := by
  have chars : (declarationText d ++ after).toList =
      d.1.toList ++ ':' :: ((' ' :: d.2.toList) ++ ';' :: (" " ++ after).toList) := by
    simp only [declarationText, String.toList_append, List.append_assoc]
    rfl
  rw [chars, filtered_append (by decide), filtered_identifier plain, filtered_cons (by decide),
    filtered_append (by decide), filtered_cons (by decide), filtered_cons (by decide)]

/-- The declaration that a text begins with has the tokens behind its colon up to the semicolon that
ends it. -/
theorem declaration?_eq {d : Declaration} (name : IsIdentifier d.1.toList) (after : String) :
    declaration? (tokens (declarationText d ++ after)) =
      let behind := (scan (' ' :: filtered d.2.toList ++ ';' :: filtered (" " ++ after).toList)).1
      some (⟨d.1.toList, trimTokens (valueTokens [] behind).1⟩, (valueTokens [] behind).2) := by
  rw [tokens, filtered_declarationText name.plain, scan_name name]
  rfl

theorem declaration?_text {d : Declaration} (readable : Readable d) (after : String) :
    declaration? (tokens (declarationText d ++ after)) =
      some (declared d, tokens (" " ++ after)) := by
  obtain ⟨whole, nested, goesOn⟩ := closed_blank_iff.mpr readable.value
  rw [declaration?_eq readable.name]
  simp only [scan_append_semicolon whole, valueTokens_append goesOn, nested]
  have ended : ∀ ts, valueTokens [] (.semicolon :: ts) = ([], ts) := fun _ => rfl
  rw [ended, List.append_nil, trimTokens_blank]
  rfl

/-- A rule body whose values are contained is read as its declarations, and what follows is cut into
the tokens that it has by itself. -/
theorem declarations?_concat {ds : List Declaration} (readable : ∀ d ∈ ds, Readable d)
    (after : String) :
    declarations? ds.length (tokens (" " ++ concat (ds.map declarationText) ++ after)) =
      some (ds.map declared, tokens (" " ++ after)) := by
  induction ds with
  | nil => rfl
  | cons d ds ih =>
    have text : " " ++ concat ((d :: ds).map declarationText) ++ after =
        " " ++ (declarationText d ++ (concat (ds.map declarationText) ++ after)) := by
      rw [String.append_assoc]
      exact congrArg (" " ++ ·) (String.append_assoc ..)
    have first : declaration? (tokens (" " ++ (declarationText d ++
        (concat (ds.map declarationText) ++ after)))) =
          some (declared d, tokens (" " ++ concat (ds.map declarationText) ++ after)) := by
      rw [declaration?_blank, declaration?_text (readable d List.mem_cons_self),
        String.append_assoc]
    rw [text, List.length_cons, declarations?, first]
    show ((declarations? _ _).bind _) = _
    rw [ih fun d' mem => readable d' (List.mem_cons_of_mem _ mem)]
    rfl

/-! ## Literals -/

theorem undelimited_of_isLiteral {v : String} (literal : isLiteral v = true) :
    Undelimited (trimmed v).toList := by
  rw [isLiteral, Bool.and_eq_true, Bool.not_eq_true', List.any_eq_false] at literal
  rw [trimmed, String.toList_ofList]
  exact fun c mem => Bool.eq_false_iff.mpr (literal.1 c mem)

/-- A text without delimiters that is not closed takes in the semicolon behind it, and all that has
no delimiters behind that. -/
theorem valueTokens_of_not_closed {s u : List Char} (undelimited : Undelimited s)
    (undelimited_u : Undelimited u) (notClosed : ¬Closed s) :
    (valueTokens [] (scan (s ++ ';' :: u)).1).2 = [] := by
  have goesOn := ends_of_mem_scan undelimited
  cases whole : (scan s).2 with
  | false => exact valueTokens_of_ends (ends_of_mem_scan_append whole undelimited undelimited_u) []
  | true =>
    rw [scan_append_semicolon whole, valueTokens_append goesOn]
    cases nested : (scan s).1.foldl nest [] with
    | nil => exact absurd ⟨whole, nested, goesOn⟩ notClosed
    | cons b around =>
      -- The semicolon stands between brackets.
      show (valueTokens (b :: around) (scan u).1).2 = []
      exact valueTokens_of_ends (ends_of_mem_scan undelimited_u) _

/-- A literal can stand in front of every rule body exactly if it is contained: then the semicolon
behind it ends its declaration, the declarations behind it are read as they are meant, and all that
follows them is cut into the tokens that it has by itself. -/
theorem declarations?_iff_contained {v : String} (literal : isLiteral v = true) :
    (∀ name : String, IsIdentifier name.toList →
      ∀ ds : List Declaration, (∀ d ∈ ds, Readable d) → ∀ after : String,
        declarations? (ds.length + 1)
            (tokens (" " ++ concat (((name, trimmed v) :: ds).map declarationText) ++ after)) =
          some (((name, trimmed v) :: ds).map declared, tokens (" " ++ after))) ↔
      Contained (trimmed v) := by
  constructor
  · intro reads
    have name : IsIdentifier "top".toList := by decide
    have undelimited := undelimited_filtered (undelimited_of_isLiteral literal)
    by_contra notContained
    have rest := valueTokens_of_not_closed (s := ' ' :: filtered (trimmed v).toList)
      (u := filtered (" " ++ "a").toList) (List.forall_mem_cons.mpr ⟨rfl, undelimited⟩)
      (undelimited_filtered (by decide))
      fun closed => notContained (closed_blank_iff.mp closed)
    have text : " " ++ concat ([("top", trimmed v)].map declarationText) ++ "a" =
        " " ++ (declarationText ("top", trimmed v) ++ "a") := by
      rw [String.append_assoc]
      exact congrArg (fun s => " " ++ (s ++ "a")) (String.append_empty ..)
    have here := reads "top" name [] nofun "a"
    rw [text, List.length_nil, declarations?, declaration?_blank, declaration?_eq name] at here
    have none : tokens (" " ++ "a") = [] :=
      (congrArg Prod.snd (Option.some.inj here)).symm.trans rest
    exact absurd none (by decide +kernel)
  · intro contained name identifier ds readable after
    have body : ∀ d ∈ (name, trimmed v) :: ds, Readable d :=
      List.forall_mem_cons.mpr ⟨⟨identifier, contained⟩, readable⟩
    exact declarations?_concat body after

/-- A literal with a comment, an address, a string and escapes that hide its brackets. -/
def guarded : String := "#f0f /* ( */ url(a\\)b) [\"(\"] \\("

theorem declarations?_iff_contained_guarded :
    isLiteral guarded = true ∧
    declarations? 2 (tokens (" " ++
        concat ([("top", trimmed guarded), ("left", "1px")].map declarationText) ++ "\x7d")) =
      some ([declared ("top", trimmed guarded), declared ("left", "1px")],
        tokens (" " ++ "\x7d")) := by
  have literal : isLiteral guarded = true := by decide
  have contained : Contained (trimmed guarded) := by decide +kernel
  have plain : ∀ c ∈ "1px".toList, isOpener c = false := fun c mem =>
    Bool.eq_false_iff.mpr (List.any_eq_false.mp (by decide) c mem)
  have left : Readable ("left", "1px") := ⟨by decide, contained_of_plain plain (by decide)⟩
  have top : IsIdentifier "top".toList := by decide
  exact ⟨literal, (declarations?_iff_contained literal).mpr contained "top" top [("left", "1px")]
    (List.forall_mem_singleton.mpr left) "\x7d"⟩

/-- A literal can open a comment that takes in the declarations behind it and the end of its
rule. -/
theorem exists_literal_not_contained :
    ∃ v, isLiteral v = true ∧ ¬Contained (trimmed v) ∧
      declarations? 2 (tokens (" " ++
        concat ([("top", trimmed v), ("left", "1px")].map declarationText) ++ "\x7d")) = none :=
  ⟨"#/*", by decide, by decide +kernel, by decide +kernel⟩

end PageStudio.Css.Lexical
