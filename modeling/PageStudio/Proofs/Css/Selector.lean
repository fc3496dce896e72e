import Mathlib.Logic.Relation
import PageStudio.Css.Layout
import PageStudio.Proofs.Css.Identifier

/-!
# What selectors match

A selector is a list of conditions on an element and on those around it. Of the conditions, the ones
on names, ids and classes are told apart here; which others there are, and what they say of an
element, is left open. The selector of a node is its id behind a number sign, and the id is written
into it as it is.

## Main statements

* `isIdentifier_of_mem_scan`: behind a number sign only an identifier is read as itself.
* `matches_selector_iff`: the selector of a node matches the elements with its id, and no others,
  exactly if the id is an identifier.
-/

namespace PageStudio.Css.Lexical

/-! ## Selectors -/

/-- A condition on one element. -/
inductive Condition where
  | universal
  | type (name : List Char)
  | id (name : List Char)
  | hasClass (name : List Char)
  /-- Any other condition, such as one on an attribute or a state, by its tokens. -/
  | other (ts : List Token)
deriving DecidableEq

/-- How elements are related. -/
inductive Combinator where
  | inside
  | child
  | next
  | later
deriving DecidableEq

/-- The conditions on an element and on those around it. -/
inductive Complex where
  | alone (conditions : List Condition)
  | behind (left : Complex) (k : Combinator) (conditions : List Condition)

/-- Where a reader of selectors stands. -/
structure Reading where
  /-- The selectors in front of the last comma. -/
  done : List Complex := []
  /-- What the element is related to. -/
  left : Option (Complex × Combinator) := none
  /-- The conditions on the element so far. -/
  conditions : List Condition := []
  /-- How the next element is related to this one, once something stands between them. -/
  gap : Option Combinator := none
  /-- The tokens of a condition that has begun. -/
  begun : List Token := []
  /-- The brackets that are open in it. -/
  around : List Bracket := []

/-- The selector that has been read. -/
def Reading.complex (r : Reading) : Complex :=
  match r.left with
  | none => .alone r.conditions
  | some (left, k) => .behind left k r.conditions

/-- One more condition. -/
def Reading.add (r : Reading) (c : Condition) : Reading :=
  match r.gap with
  | none => { r with conditions := r.conditions ++ [c], begun := [], around := [] }
  | some k => { done := r.done, left := some (r.complex, k), conditions := [c] }

/-- Whether a condition on the name of an element may follow: it comes first of all. -/
def Reading.isFresh (r : Reading) : Bool := r.conditions.isEmpty || r.gap.isSome

/-- The end of a selector. Only blanks may stand behind its last condition. -/
def Reading.finish? (r : Reading) : Option (List Complex) :=
  if r.begun.isEmpty && !r.conditions.isEmpty && r.gap.all (· = .inside) then
    some (r.done ++ [r.complex])
  else none

def combinator? : Char → Option Combinator
  | '>' => some .child
  | '+' => some .next
  | '~' => some .later
  | _ => none

section

-- Which tokens are conditions of another kind.
variable (known : List Token → Bool)

def Reading.addOther (r : Reading) (ts : List Token) : Option Reading :=
  if known ts then some (r.add (.other ts)) else none

/-- One token read where no condition has begun. -/
def start (r : Reading) (t : Token) : Option Reading :=
  match t with
  | .blank =>
    some (if r.conditions.isEmpty then r else { r with gap := some (r.gap.getD .inside) })
  | .comma => r.finish?.map fun done => { done }
  | .hash n true => some (r.add (.id n))
  | .ident n => if r.isFresh then some (r.add (.type n)) else none
  | .colon => some { r with begun := [.colon] }
  | .opening .square => some { r with begun := [t], around := [.square] }
  | .delim '*' => if r.isFresh then some (r.add .universal) else none
  | .delim '.' => some { r with begun := [t] }
  | .delim c =>
    match combinator? c with
    | some k =>
      if !r.conditions.isEmpty && r.gap.all (· = .inside) then some { r with gap := some k }
      else none
    | none => none
  | _ => none

/-- One token read. -/
def step (r : Reading) (t : Token) : Option Reading :=
  if r.begun.isEmpty then start r t
  else if !r.around.isEmpty then
    if (nest r.around t).isEmpty then r.addOther known (r.begun ++ [t])
    else some { r with begun := r.begun ++ [t], around := nest r.around t }
  else
    match r.begun, t with
    | [.delim _], .ident n => some (r.add (.hasClass n))
    | [.colon], .colon => some { r with begun := [.colon, .colon] }
    | .colon :: _, .ident _ => r.addOther known (r.begun ++ [t])
    | .colon :: _, .function _ => some { r with begun := r.begun ++ [t], around := [.round] }
    | _, _ => none

/-- The selectors that tokens are read as, if they are a list of such. -/
def selectors? (ts : List Token) : Option (List Complex) :=
  (ts.foldlM (step known) {}).bind Reading.finish?

end

/-! ## Matching -/

/-- The elements of a document. -/
structure Dom (α : Type) where
  tag : α → List Char
  id : α → Option String
  classes : α → List (List Char)
  /-- Whether a condition of another kind holds. -/
  holds : α → List Token → Prop
  parent : α → α → Prop
  previous : α → α → Prop

namespace Dom

variable {α : Type} (dom : Dom α)

def Satisfies (e : α) : Condition → Prop
  | .universal => True
  | .type n => dom.tag e = n
  | .id n => dom.id e = some (String.ofList n)
  | .hasClass n => n ∈ dom.classes e
  | .other ts => dom.holds e ts

/-- `dom.Related k f e`: the element `f` stands in front of `e` as the combinator says. -/
def Related : Combinator → α → α → Prop
  | .inside => Relation.TransGen dom.parent
  | .child => dom.parent
  | .next => dom.previous
  | .later => Relation.TransGen dom.previous

def Fits : Complex → α → Prop
  | .alone conditions, e => ∀ c ∈ conditions, dom.Satisfies e c
  | .behind left k conditions, e =>
    (∀ c ∈ conditions, dom.Satisfies e c) ∧ ∃ f, dom.Related k f e ∧ Fits left f

/-- A text is a list of selectors, one of which an element fits. -/
def Matches (known : List Token → Bool) (selector : String) (e : α) : Prop :=
  ∃ list, selectors? known (tokens selector) = some list ∧ ∃ s ∈ list, dom.Fits s e

end Dom

/-! ## Names behind a number sign -/

theorem length_filtered_le (s : List Char) : (filtered s).length ≤ s.length := by
  fun_induction filtered s with
  | case1 => exact Nat.le_refl _
  | case2 s ih => exact Nat.succ_le_succ (ih.trans (Nat.le_succ _))
  | case3 c s _ ih => exact Nat.succ_le_succ ih

/-- A name that ends in an escape that the text cut off. -/
def CutOff (s n : List Char) : Prop := ∃ p, s = p ++ ['\\'] ∧ n = p ++ ['\uFFFD']

/-- A name is no longer than the text that it is read from, and as long only if it is the text, or
its last character is an escape that the text cut off. -/
theorem length_name_le (s : List Char) : (name s).1.length ≤ s.length ∧
    ((name s).1.length = s.length →
      (∀ c ∈ s, isName c = true) ∧ (name s).1 = s ∨ CutOff s (name s).1) := by
  induction s using name.induct with
  | case1 s first =>
    rw [name, first]
    refine ⟨Nat.zero_le _, fun same => .inl ?_⟩
    obtain rfl := List.eq_nil_of_length_eq_zero same.symm
    exact ⟨List.forall_mem_nil _, rfl⟩
  | case2 s c first =>
    cases s with
    | nil => cases first
    | cons d s =>
      have cut : d = '\\' ∧ s = [] ∧ c = '\uFFFD' := by
        rw [nameChar?] at first
        split at first
        · cases first
        · split at first
          next slash =>
            cases s with
            | nil =>
              cases first
              exact ⟨of_decide_eq_true (Bool.and_eq_true _ _ ▸ slash).1, rfl, rfl⟩
            | cons e s =>
              rw [escape] at first
              split at first
              · cases first
              · cases first
          · cases first
      obtain ⟨rfl, rfl, rfl⟩ := cut
      rw [name, first]
      exact ⟨Nat.le_refl _, fun _ => .inr ⟨[], rfl, rfl⟩⟩
  | case3 s c rest first ih =>
    cases s with
    | nil => cases first
    | cons d s =>
      obtain ⟨shorter, same⟩ := ih
      have behind := within_nameChar? first rest rfl
      have bound := behind.length_le
      rw [name.eq_def (d :: s), first]
      refine ⟨(Nat.succ_le_succ shorter).trans (Nat.succ_le_succ bound), fun lengths => ?_⟩
      -- No character is lost, so the first one is no escape.
      have equal : (name rest).1.length = s.length := Nat.succ.inj lengths
      obtain rfl : rest = s := behind.eq_of_length (by omega)
      have plain : isName d = true ∧ c = d := by
        rw [nameChar?] at first
        split at first
        next plain =>
          cases first
          exact ⟨plain, rfl⟩
        next =>
          split at first
          · exact absurd (length_of_escape (Option.some.inj first)) (Nat.lt_irrefl _)
          · cases first
      obtain ⟨plain, rfl⟩ := plain
      rcases same equal with ⟨all, whole⟩ | ⟨p, cut, ends⟩
      · exact .inl ⟨List.forall_mem_cons.mpr ⟨plain, all⟩, congrArg (c :: ·) whole⟩
      · exact .inr ⟨c :: p, congrArg (c :: ·) cut, congrArg (c :: ·) ends⟩

theorem hash_of_token {c : Char} {s n : List Char} {b : Bool}
    (first : (token c s).1 = some (.hash n b)) : n = (name s).1 ∧ b = startsName s := by
  rcases token_cases first with word | ⟨-, same⟩ | mark
  · cases word
  · cases same
    exact ⟨rfl, rfl⟩
  · unfold punctuation? at mark
    split at mark
    all_goals cases mark

/-- Names behind a number sign are shorter than the text. -/
theorem length_of_mem_scan {s n : List Char} {b : Bool} (mem : .hash n b ∈ (scan s).1) :
    n.length < s.length := by
  fun_induction scan s with
  | case1 => cases mem
  | case2 c s t first =>
    obtain rfl := Option.mem_toList.mp mem
    obtain ⟨rfl, -⟩ := hash_of_token (congrArg Prod.fst first)
    exact Nat.lt_succ_of_le (length_name_le s).1
  | case3 c s t rest first ih =>
    rcases List.mem_append.mp mem with here | there
    · obtain rfl := Option.mem_toList.mp here
      obtain ⟨rfl, -⟩ := hash_of_token (congrArg Prod.fst first)
      exact Nat.lt_succ_of_le (length_name_le s).1
    · have behind := (within_token c s rest (congrArg Prod.snd first)).length_le
      exact Nat.lt_succ_of_lt ((ih there).trans_le behind)

/-- Behind a number sign, a text is read as the name of an id only if it is an identifier. -/
theorem isIdentifier_of_mem_scan {s : List Char}
    (mem : .hash s true ∈ (scan (filtered ('#' :: s))).1) : IsIdentifier s := by
  have bound := length_filtered_le s
  rw [filtered_cons (by decide)] at mem
  -- Behind the first token there is no room for a name as long as the text.
  have here : (token '#' (filtered s)).1 = some (.hash s true) := by
    cases first : token '#' (filtered s) with
    | mk t r =>
      cases r with
      | none =>
        rw [scan_cons_of_none first] at mem
        exact Option.mem_toList.mp mem
      | some rest =>
        rw [scan_cons first] at mem
        refine (List.mem_append.mp mem).elim Option.mem_toList.mp fun there => ?_
        have behind := (within_token _ _ rest (congrArg Prod.snd first)).length_le
        have shorter := length_of_mem_scan there
        omega
  obtain ⟨whole, starts⟩ := hash_of_token here
  obtain ⟨shorter, same⟩ := length_name_le (filtered s)
  rw [← whole] at shorter same
  rcases same (by omega) with ⟨plain, kept⟩ | ⟨p, cut, ends⟩
  · exact ⟨(congrArg startsName kept).trans starts.symm, kept ▸ plain⟩
  · -- A character that stands for what is missing is no backslash in the text.
    rw [ends, filtered_append (by decide)] at cut
    have last := congrArg List.getLast? cut
    rw [List.getLast?_append, List.getLast?_append] at last
    cases last

/-- A number sign in front of an identifier makes one token. -/
theorem scan_identifier {n : List Char} (identifier : IsIdentifier n) :
    scan ('#' :: n) = ([.hash n true], true) := by
  have whole : name n = (n, some []) := by
    have read := name_append identifier.plain (w := []) rfl
    rwa [List.append_nil] at read
  have named : (decide ('#' = '#') && (nameChar? n).isSome) = true :=
    isSome_nameChar? identifier.starts
  have first : token '#' n = (some (.hash n true), some []) := by
    show (if (decide ('#' = '#') && (nameChar? n).isSome) = true then
      (some (Token.hash (name n).1 (startsName n)), (name n).2) else _) = _
    rw [if_pos named, whole, identifier.starts]
  rw [scan_cons first, scan]
  rfl

/-! ## Where the ids of selectors come from -/

/-- The conditions on the element itself. -/
def Complex.conditions : Complex → List Condition
  | .alone conditions => conditions
  | .behind _ _ conditions => conditions

/-- What holds for all names of ids. -/
def OfIds (P : List Char → Prop) (conditions : List Condition) : Prop :=
  ∀ n, .id n ∈ conditions → P n

/-- What holds for all names of ids that have been read. -/
structure Reading.OfIds (P : List Char → Prop) (r : Reading) : Prop where
  conditions : Lexical.OfIds P r.conditions
  done : ∀ s ∈ r.done, Lexical.OfIds P s.conditions

variable {P : List Char → Prop} {r r' : Reading} {known : List Token → Bool}

theorem Reading.conditions_complex (r : Reading) : r.complex.conditions = r.conditions := by
  unfold Reading.complex
  split
  · rfl
  · rfl

theorem Reading.OfIds.add (ids : r.OfIds P) {c : Condition} (own : ∀ n, c = .id n → P n) :
    (r.add c).OfIds P := by
  unfold Reading.add
  split
  · refine ⟨fun n mem => ?_, ids.done⟩
    rcases List.mem_append.mp mem with before | last
    · exact ids.conditions n before
    · exact own n (List.mem_singleton.mp last).symm
  · exact ⟨fun n mem => own n (List.mem_singleton.mp mem).symm, ids.done⟩

theorem Reading.OfIds.addOther (ids : r.OfIds P) {ts : List Token}
    (read : r.addOther known ts = some r') : r'.OfIds P := by
  unfold Reading.addOther at read
  split at read
  · cases read
    exact ids.add nofun
  · cases read

theorem Reading.OfIds.finish? (ids : r.OfIds P) {list : List Complex}
    (read : r.finish? = some list) : ∀ s ∈ list, Lexical.OfIds P s.conditions := by
  unfold Reading.finish? at read
  split at read
  · cases read
    refine List.forall_mem_append.mpr ⟨ids.done, List.forall_mem_singleton.mpr ?_⟩
    rw [Reading.conditions_complex]
    exact ids.conditions
  · cases read

theorem Reading.OfIds.start (ids : r.OfIds P) {t : Token} (own : ∀ n, t = .hash n true → P n)
    (read : start r t = some r') : r'.OfIds P := by
  unfold Lexical.start at read
  split at read
  · cases read
    split
    · exact ids
    · exact ⟨ids.conditions, ids.done⟩
  · obtain ⟨list, finished, rfl⟩ := Option.map_eq_some_iff.mp read
    exact ⟨nofun, ids.finish? finished⟩
  next n =>
    cases read
    exact ids.add fun m same => own m (Condition.id.inj same ▸ rfl)
  · split at read
    · cases read
      exact ids.add nofun
    · cases read
  · cases read
    exact ⟨ids.conditions, ids.done⟩
  · cases read
    exact ⟨ids.conditions, ids.done⟩
  · split at read
    · cases read
      exact ids.add nofun
    · cases read
  · cases read
    exact ⟨ids.conditions, ids.done⟩
  · split at read
    · split at read
      · cases read
        exact ⟨ids.conditions, ids.done⟩
      · cases read
    · cases read
  · cases read

theorem Reading.OfIds.step (ids : r.OfIds P) {t : Token} (own : ∀ n, t = .hash n true → P n)
    (read : step known r t = some r') : r'.OfIds P := by
  unfold Lexical.step at read
  split at read
  · exact ids.start own read
  split at read
  · split at read
    · exact ids.addOther read
    · cases read
      exact ⟨ids.conditions, ids.done⟩
  split at read
  · cases read
    exact ids.add nofun
  · cases read
    exact ⟨ids.conditions, ids.done⟩
  · exact ids.addOther read
  · cases read
    exact ⟨ids.conditions, ids.done⟩
  · cases read

/-- The names of ids in selectors are those behind the number signs that they are read from. -/
theorem ofIds_selectors? {ts : List Token} {list : List Complex}
    (read : selectors? known ts = some list) :
    ∀ s ∈ list, OfIds (fun n => .hash n true ∈ ts) s.conditions := by
  have run : ∀ {us : List Token} {r r' : Reading}, (∀ t ∈ us, t ∈ ts) →
      r.OfIds (fun n => .hash n true ∈ ts) → us.foldlM (step known) r = some r' →
      r'.OfIds (fun n => .hash n true ∈ ts) := by
    intro us
    induction us with
    | nil =>
      intro r r' _ ids read
      cases read
      exact ids
    | cons t us ih =>
      intro r r' among ids read
      rw [List.foldlM_cons] at read
      obtain ⟨middle, first, rest⟩ := Option.bind_eq_some_iff.mp read
      have own : ∀ n, t = .hash n true → .hash n true ∈ ts := fun n same =>
        same ▸ among t List.mem_cons_self
      exact ih (fun t' mem => among t' (List.mem_cons_of_mem _ mem)) (ids.step own first) rest
  have empty : Reading.OfIds (fun n => .hash n true ∈ ts) {} :=
    ⟨fun _ mem => (List.not_mem_nil mem).elim, fun _ mem => (List.not_mem_nil mem).elim⟩
  obtain ⟨r, all, finished⟩ := Option.bind_eq_some_iff.mp read
  exact (run (fun _ => id) empty all).finish? finished

/-! ## The selectors of nodes -/

theorem chars_selector (id : String) : (selector id).toList = '#' :: id.toList :=
  String.toList_append

/-- An identifier behind a number sign is a condition on the id. -/
theorem matches_selector {id : String} (identifier : IsIdentifier id.toList) {α : Type}
    (dom : Dom α) (known : List Token → Bool) (e : α) :
    dom.Matches known (selector id) e ↔ dom.id e = some id := by
  have read : tokens (selector id) = [.hash id.toList true] := by
    rw [tokens, chars_selector, filtered_cons (by decide), filtered_identifier identifier.plain,
      scan_identifier identifier]
  have one : selectors? known (tokens (selector id)) = some [.alone [.id id.toList]] := by
    rw [read]
    rfl
  have fits : dom.Fits (.alone [.id id.toList]) e ↔ dom.id e = some id := by
    rw [Dom.Fits, List.forall_mem_singleton, Dom.Satisfies, String.ofList_toList]
  constructor
  · rintro ⟨list, same, s, mem, fit⟩
    cases one.symm.trans same
    rw [List.mem_singleton.mp mem] at fit
    exact fits.mp fit
  · exact fun same => ⟨_, one, _, List.mem_singleton_self _, fits.mpr same⟩

/-- Elements that have nothing but ids, and stand by themselves. -/
def bareElements : Dom (Option String) where
  tag _ := ['p']
  id e := e
  classes _ := []
  holds _ _ := False
  parent _ _ := False
  previous _ _ := False

theorem not_related_bareElements (k : Combinator) (f e : Option String) :
    ¬bareElements.Related k f e := by
  have none : ∀ {f e : Option String}, ¬Relation.TransGen (fun _ _ => False) f e := by
    intro f e related
    induction related with
    | single edge => exact edge
    | tail _ edge => exact edge
  cases k with
  | inside => exact none
  | child => exact id
  | next => exact id
  | later => exact none

/-- A selector that a bare element fits names the id of the element, or fits all bare elements. -/
theorem fits_bareElements {s : Complex} {id : String} (fits : bareElements.Fits s (some id)) :
    .id id.toList ∈ s.conditions ∨ bareElements.Fits s none := by
  cases s with
  | behind left k conditions =>
    obtain ⟨-, f, related, -⟩ := fits
    exact absurd related (not_related_bareElements k f _)
  | alone conditions =>
    by_cases named : .id id.toList ∈ conditions
    · exact .inl named
    refine .inr fun c mem => ?_
    have holds := fits c mem
    cases c with
    | universal => trivial
    | type n => exact holds
    | id n =>
      have same : id = String.ofList n := Option.some.inj holds
      rw [same, String.toList_ofList] at named
      exact absurd mem named
    | hasClass n => cases holds
    | other ts => exact holds.elim

/-- The selector of a node matches the elements with its id, and no others, exactly if the id is an
identifier. -/
theorem matches_selector_iff (known : List Token → Bool) (id : String) :
    (∀ {α : Type} (dom : Dom α) (e : α),
        dom.Matches known (selector id) e ↔ dom.id e = some id) ↔
      IsIdentifier id.toList := by
  refine ⟨fun all => ?_, fun identifier _ dom e => matches_selector identifier dom known e⟩
  obtain ⟨list, read, s, mem, fits⟩ := (all bareElements (some id)).mpr rfl
  rcases fits_bareElements fits with named | other
  · have sign := ofIds_selectors? read s mem _ named
    rw [tokens, chars_selector] at sign
    exact isIdentifier_of_mem_scan sign
  · cases (all bareElements none).mp ⟨list, read, s, mem, other⟩

end PageStudio.Css.Lexical
