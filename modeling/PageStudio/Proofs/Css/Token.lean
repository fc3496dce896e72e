import Mathlib.Data.List.Basic
import Mathlib.Data.List.TakeWhile

/-!
# The tokens of style sheets

How browsers cut a style sheet into tokens. A text can end within a token: within a comment, a
string, an address or an escape. Whatever is written behind it goes on with that token, so a reading
says what stands behind a token only where the token has ended.

## Main statements

* `within_token`: what stands behind a token is the end of the text.
* `token_cases`: which characters begin the tokens that others than words are.
* `scan_cons`: a text has its first token, and then those of what stands behind that.
-/

namespace PageStudio.Css.Lexical

/-! ## The text that is cut -/

/-- The text that is cut: every end of a line is one character, and none is the null character. -/
def filtered : List Char → List Char
  | [] => []
  | '\r' :: '\n' :: s => '\n' :: filtered s
  | c :: s =>
    (if c = '\r' || c = '\x0c' then '\n' else if c = '\x00' then '\uFFFD' else c) :: filtered s

/-- What holds for the characters of a text holds for those that it is cut from. -/
theorem forall_mem_filtered {P : Char → Prop} (line : P '\n') (unknown : P '\uFFFD')
    {s : List Char} (all : ∀ c ∈ s, P c) : ∀ c ∈ filtered s, P c := by
  fun_induction filtered s with
  | case1 => exact all
  | case2 s ih =>
    have rest := (List.forall_mem_cons.mp (List.forall_mem_cons.mp all).2).2
    exact List.forall_mem_cons.mpr ⟨line, ih rest⟩
  | case3 c s notLine ih =>
    obtain ⟨first, rest⟩ := List.forall_mem_cons.mp all
    refine List.forall_mem_cons.mpr ⟨?_, ih rest⟩
    split
    · exact line
    split
    · exact unknown
    · exact first

/-- A character is cut as it is. -/
def IsKept (c : Char) : Prop := c ≠ '\r' ∧ c ≠ '\x0c' ∧ c ≠ '\x00'

instance (c : Char) : Decidable (IsKept c) := inferInstanceAs (Decidable (_ ∧ _))

theorem filtered_cons {c : Char} (kept : IsKept c) (s : List Char) :
    filtered (c :: s) = c :: filtered s := by
  have line : ¬(decide (c = '\r') || decide (c = '\x0c')) = true := by
    rw [decide_eq_false kept.1, decide_eq_false kept.2.1]
    exact Bool.noConfusion
  rw [filtered, if_neg line, if_neg kept.2.2]
  exact fun _ same _ => kept.1 same

/-- The cutting of a text begins anew behind a character that ends no line. -/
theorem filtered_append {c : Char} (other : c ≠ '\n') (s u : List Char) :
    filtered (s ++ c :: u) = filtered s ++ filtered (c :: u) := by
  fun_induction filtered s with
  | case1 => rfl
  | case2 s ih => exact congrArg ('\n' :: ·) ih
  | case3 d s notLine ih =>
    have notLine : ∀ t, d = '\r' → s ++ c :: u = '\n' :: t → False := by
      rintro t rfl same
      cases s with
      | nil => exact other (List.cons.inj same).1
      | cons e s =>
        cases (List.cons.inj same).1
        exact notLine s rfl rfl
    rw [List.cons_append, filtered, ih]
    · rfl
    · exact notLine

/-! ## Characters -/

def isBlank (c : Char) : Bool := c = ' ' || c = '\t' || c = '\n'

def isNameStart (c : Char) : Bool := c.isAlpha || c = '_' || 128 ≤ c.toNat

def isName (c : Char) : Bool := isNameStart c || c.isDigit || c = '-'

def isHex (c : Char) : Bool := c.isDigit || 'a' ≤ c && c ≤ 'f' || 'A' ≤ c && c ≤ 'F'

/-- Whether a character cannot stand in an address without quotes. -/
def isUnprintable (c : Char) : Bool :=
  c.toNat ≤ 8 || c.toNat = 11 || 14 ≤ c.toNat && c.toNat ≤ 31 || c.toNat = 127

def dropBlanks (s : List Char) : List Char := s.dropWhile isBlank

/-! ## Tokens -/

/-- The kinds of brackets. -/
inductive Bracket where
  | round
  | square
  | curly
deriving DecidableEq, Repr

/-- A token. -/
inductive Token where
  | blank
  | ident (name : List Char)
  /-- A name with the bracket behind it. -/
  | function (name : List Char)
  | atKeyword (name : List Char)
  /-- A name behind a number sign, and whether it can be the name of an id. -/
  | hash (name : List Char) (isId : Bool)
  | string (value : List Char)
  /-- A string that the end of its line cut off. -/
  | badString
  | url (value : List Char)
  | badUrl
  | number (digits : List Char)
  | percentage (digits : List Char)
  | dimension (digits unit : List Char)
  | opening (b : Bracket)
  | closing (b : Bracket)
  | colon
  | semicolon
  | comma
  | commentOpening
  | commentClosing
  /-- Any other character. -/
  | delim (c : Char)
deriving DecidableEq, Repr

/-- The brackets that are open behind a token, the innermost first. -/
def nest : List Bracket → Token → List Bracket
  | around, .opening b => b :: around
  | around, .function _ => .round :: around
  | b :: around, .closing b' => if b = b' then around else b :: around
  | around, _ => around

/-- What stands behind a token, unless the text ended within it. -/
abbrev Rest := Option (List Char)

/-- What is cut off first, a comment being no token, and what stands behind it. -/
abbrev Piece := Option Token × Rest

/-! ## What stands behind -/

/-- What stands behind is the end of a text. -/
def Within (r : Rest) (s : List Char) : Prop := ∀ rest ∈ r, rest <:+ s

theorem Within.trans {r : Rest} {s t : List Char} (within : Within r s) (suffix : s <:+ t) :
    Within r t := fun rest mem => (within rest mem).trans suffix

theorem Within.cons {r : Rest} {s : List Char} (within : Within r s) (c : Char) :
    Within r (c :: s) := within.trans (List.suffix_cons c s)

theorem within_none (s : List Char) : Within none s := nofun

theorem within_some {rest s : List Char} (suffix : rest <:+ s) : Within (some rest) s := by
  rintro _ ⟨⟩
  exact suffix

/-! ## Names -/

/-- Whether a backslash in front of a text is an escape. -/
def isEscaped : List Char → Bool
  | [] => true
  | c :: _ => c != '\n'

/-- A beginning of at most `bound` hexadecimal digits, and what follows it. -/
def hexDigits : Nat → List Char → List Char × List Char
  | bound + 1, c :: s =>
    if isHex c then (c :: (hexDigits bound s).1, (hexDigits bound s).2) else ([], c :: s)
  | _, s => ([], s)

def hexValue (c : Char) : Nat :=
  if c.isDigit then c.toNat - 48 else c.toLower.toNat - 87

/-- The character with a number, where there is one. -/
def characterAt (n : Nat) : Char := if n = 0 ∨ ¬ n.isValidChar then '\uFFFD' else Char.ofNat n

/-- The character that a text behind a backslash stands for. A blank behind digits belongs to
them. -/
def escape : List Char → Char × Rest
  | [] => ('\uFFFD', none)
  | c :: s =>
    if isHex c then
      let (digits, rest) := hexDigits 5 s
      let n := (c :: digits).foldl (fun n d => 16 * n + hexValue d) 0
      (characterAt n, some (if rest.head?.any isBlank then rest.tail else rest))
    else (c, some s)

/-- The first character of a name, if there is one. -/
def nameChar? : List Char → Option (Char × Rest)
  | [] => none
  | c :: s =>
    if isName c then some (c, some s)
    else if c = '\\' && isEscaped s then some (escape s)
    else none

/-- Whether a text begins with a character that begins names. -/
def startsLetter : List Char → Bool
  | [] => false
  | c :: s => isNameStart c || c = '\\' && isEscaped s

/-- Whether a text begins with a name. -/
def startsName (s : List Char) : Bool :=
  startsLetter s || ['-'].isPrefixOf s && (startsLetter (s.drop 1) || ['-', '-'].isPrefixOf s)

theorem suffix_of_hexDigits (bound : Nat) (s : List Char) : (hexDigits bound s).2 <:+ s := by
  induction bound generalizing s with
  | zero => exact List.suffix_rfl
  | succ bound ih =>
    cases s with
    | nil => exact List.suffix_rfl
    | cons c s =>
      rw [hexDigits]
      split
      · exact (ih s).trans (List.suffix_cons c s)
      · exact List.suffix_rfl

/-- An escape goes beyond the first character behind its backslash. -/
theorem within_escape_cons (c : Char) (s : List Char) : Within (escape (c :: s)).2 s := by
  rw [escape]
  split
  · refine within_some ?_
    split
    · exact (List.tail_suffix _).trans (suffix_of_hexDigits 5 s)
    · exact suffix_of_hexDigits 5 s
  · exact within_some List.suffix_rfl

theorem within_escape (s : List Char) : Within (escape s).2 s := by
  cases s with
  | nil => exact within_none []
  | cons c s => exact (within_escape_cons c s).cons c

theorem length_of_escape {s rest : List Char} {c : Char} (escaped : escape s = (c, some rest)) :
    rest.length < s.length := by
  cases s with
  | nil => cases escaped
  | cons d s =>
    have behind := within_escape_cons d s rest (congrArg Prod.snd escaped)
    exact Nat.lt_succ_of_le behind.length_le

theorem within_nameChar? {c d : Char} {s : List Char} {r : Rest}
    (first : nameChar? (c :: s) = some (d, r)) : Within r s := by
  rw [nameChar?] at first
  split at first
  · cases first
    exact within_some List.suffix_rfl
  · split at first
    · have same : (escape s).2 = r := congrArg Prod.snd (Option.some.inj first)
      exact same ▸ within_escape s
    · cases first

theorem length_of_nameChar? {s rest : List Char} {c : Char}
    (first : nameChar? s = some (c, some rest)) : rest.length < s.length := by
  cases s with
  | nil => cases first
  | cons d s => exact Nat.lt_succ_of_le (within_nameChar? first rest rfl).length_le

/-- The longest name that a text begins with. -/
def name (s : List Char) : List Char × Rest :=
  match _first : nameChar? s with
  | none => ([], some s)
  | some (c, none) => ([c], none)
  | some (c, some rest) => (c :: (name rest).1, (name rest).2)
termination_by s.length
decreasing_by all_goals exact length_of_nameChar? _first

theorem within_name (s : List Char) : Within (name s).2 s := by
  induction s using name.induct with
  | case1 s first =>
    rw [name, first]
    exact within_some List.suffix_rfl
  | case2 s c first =>
    rw [name, first]
    exact within_none s
  | case3 s c rest first ih =>
    rw [name, first]
    cases s with
    | nil => cases first
    | cons d s => exact (ih.trans (within_nameChar? first rest rfl)).cons d

/-- A text that begins with a name has a first character of one. -/
theorem isSome_nameChar? {s : List Char} (starts : startsName s = true) :
    (nameChar? s).isSome = true := by
  cases s with
  | nil => cases starts
  | cons c s =>
    have first : isName c = true ∨ (c = '\\' && isEscaped s) = true := by
      rw [startsName, Bool.or_eq_true, Bool.and_eq_true] at starts
      rcases starts with letter | ⟨dash, -⟩
      · rw [startsLetter, Bool.or_eq_true] at letter
        refine letter.imp_left fun start => ?_
        rw [isName, start]
        rfl
      · have same := (List.cons_prefix_cons.mp (List.isPrefixOf_iff_prefix.mp dash)).1
        exact .inl (same ▸ rfl)
    rw [nameChar?]
    rcases first with plain | escaped
    · rw [if_pos plain]
      rfl
    · rw [if_pos escaped]
      split
      · rfl
      · rfl

/-- A name with a first character goes beyond it. -/
theorem within_name_cons {c : Char} {s : List Char}
    (first : (nameChar? (c :: s)).isSome = true) : Within (name (c :: s)).2 s := by
  obtain ⟨⟨d, r⟩, read⟩ := Option.isSome_iff_exists.mp first
  have behind := within_nameChar? read
  rw [name, read]
  cases r with
  | none => exact within_none s
  | some rest => exact (within_name rest).trans (behind rest rfl)

/-! ## Strings and addresses -/

/-- One more character in front of a value, where there is a value. -/
def push (c : Char) (r : Option (List Char) × Rest) : Option (List Char) × Rest :=
  (r.1.map (c :: ·), r.2)

/-- The value of a string behind its first quote, if its line does not end before it. -/
def quoted (quote : Char) : List Char → Option (List Char) × Rest
  | [] => (some [], none)
  | c :: s =>
    if c = quote then (some [], some s)
    else if c = '\n' then (none, some (c :: s))
    else if c = '\\' then
      -- A backslash at the end of a line lets the string go on.
      if isEscaped s then
        match _escaped : escape s with
        | (_, none) => (some [], none)
        | (e, some rest) => push e (quoted quote rest)
      else quoted quote (s.drop 1)
    else push c (quoted quote s)
termination_by s => s.length
decreasing_by
  all_goals simp only [List.length_cons, List.length_drop]
  · have := length_of_escape _escaped
    omega
  · omega
  · omega

/-- What stands behind an address that is none. -/
def afterBadUrl : List Char → Rest
  | [] => none
  | c :: s =>
    if c = ')' then some s
    else if c = '\\' && isEscaped s then
      match _escaped : escape s with
      | (_, none) => none
      | (_, some rest) => afterBadUrl rest
    else afterBadUrl s
termination_by s => s.length
decreasing_by
  all_goals simp_wf
  have := length_of_escape _escaped
  omega

/-- An address without quotes, its bracket and the blanks behind that being read already. -/
def url : List Char → Option (List Char) × Rest
  | [] => (some [], none)
  | c :: s =>
    if c = ')' then (some [], some s)
    else if isBlank c then
      match dropBlanks s with
      | [] => (some [], none)
      | d :: rest => if d = ')' then (some [], some rest) else (none, afterBadUrl (d :: rest))
    else if c = '"' || c = '\'' || c = '(' || isUnprintable c then (none, afterBadUrl s)
    else if c = '\\' then
      if isEscaped s then
        match _escaped : escape s with
        | (e, none) => (some [e], none)
        | (e, some rest) => push e (url rest)
      else (none, afterBadUrl s)
    else push c (url s)
termination_by s => s.length
decreasing_by
  all_goals simp_wf
  have := length_of_escape _escaped
  omega

/-- What stands behind a comment. -/
def afterComment : List Char → Rest
  | [] => none
  | c :: s => if c = '*' && ['/'].isPrefixOf s then some (s.drop 1) else afterComment s

theorem within_quoted (quote : Char) (s : List Char) : Within (quoted quote s).2 s := by
  fun_induction quoted quote s with
  | case1 => exact within_none []
  | case2 s => exact within_some (List.suffix_cons quote s)
  | case3 s => exact within_some List.suffix_rfl
  | case4 => exact within_none _
  | case5 s _ e rest escaped _ _ ih =>
    have behind := within_escape s rest (congrArg Prod.snd escaped)
    exact (ih.trans behind).cons '\\'
  | case6 s _ _ _ ih => exact (ih.trans (List.drop_suffix 1 s)).cons '\\'
  | case7 c s _ _ _ ih => exact ih.cons c

theorem within_afterBadUrl (s : List Char) : Within (afterBadUrl s) s := by
  fun_induction afterBadUrl s with
  | case1 => exact within_none []
  | case2 s => exact within_some (List.suffix_cons _ s)
  | case3 => exact within_none _
  | case4 c s _ _ e rest escaped ih =>
    have behind := within_escape s rest (congrArg Prod.snd escaped)
    exact (ih.trans behind).cons c
  | case5 c s _ _ ih => exact ih.cons c

theorem within_url (s : List Char) : Within (url s).2 s := by
  have blanks : ∀ {s t : List Char}, dropBlanks s = t → t <:+ s := fun same =>
    same ▸ List.dropWhile_suffix _
  fun_induction url s with
  | case1 => exact within_none []
  | case2 s => exact within_some (List.suffix_cons _ s)
  | case3 => exact within_none _
  | case4 c s _ _ rest behind =>
    exact (within_some ((List.suffix_cons _ _).trans (blanks behind))).cons c
  | case5 c s _ _ d rest behind => exact ((within_afterBadUrl _).trans (blanks behind)).cons c
  | case6 c s => exact (within_afterBadUrl s).cons c
  | case7 => exact within_none _
  | case8 s _ e rest escaped _ _ _ ih =>
    have behind := within_escape s rest (congrArg Prod.snd escaped)
    exact (ih.trans behind).cons _
  | case9 s => exact (within_afterBadUrl s).cons _
  | case10 c s _ _ _ _ ih => exact ih.cons c

theorem within_afterComment (s : List Char) : Within (afterComment s) s := by
  fun_induction afterComment s with
  | case1 => exact within_none []
  | case2 c s => exact (within_some (List.drop_suffix 1 s)).cons c
  | case3 c s _ ih => exact ih.cons c

/-! ## Numbers -/

/-- A sign and what follows it. -/
def sign : List Char → List Char × List Char
  | c :: s => if c = '+' || c = '-' then ([c], s) else ([], c :: s)
  | [] => ([], [])

def startsDigits (s : List Char) : Bool := s.head?.any Char.isDigit

/-- Digits and what follows them. -/
def digits (s : List Char) : List Char × List Char :=
  (s.takeWhile Char.isDigit, s.dropWhile Char.isDigit)

/-- Digits behind a point, and what follows them. -/
def fraction : List Char → List Char × List Char
  | c :: s =>
    if c = '.' && startsDigits s then (c :: (digits s).1, (digits s).2) else ([], c :: s)
  | [] => ([], [])

/-- An exponent and what follows it. -/
def exponent : List Char → List Char × List Char
  | c :: s =>
    if (c = 'e' || c = 'E') && startsDigits (sign s).2 then
      (c :: (sign s).1 ++ (digits (sign s).2).1, (digits (sign s).2).2)
    else ([], c :: s)
  | [] => ([], [])

/-- Whether a text begins with a number. -/
def startsNumber (s : List Char) : Bool :=
  startsDigits (sign s).2 || !(fraction (sign s).2).1.isEmpty

/-- A number and what follows it. -/
def number (s : List Char) : List Char × List Char :=
  let (before, s) := sign s
  let (whole, s) := digits s
  let (part, s) := fraction s
  let (power, s) := exponent s
  (before ++ whole ++ part ++ power, s)

/-- A number with its unit. -/
def numeric (s : List Char) : Piece :=
  let (n, rest) := number s
  if startsName rest then (some (.dimension n (name rest).1), (name rest).2)
  else if ['%'].isPrefixOf rest then (some (.percentage n), some (rest.drop 1))
  else (some (.number n), some rest)

theorem suffix_of_sign (s : List Char) : (sign s).2 <:+ s := by
  cases s with
  | nil => exact List.suffix_rfl
  | cons c s =>
    rw [sign]
    split
    · exact List.suffix_cons c s
    · exact List.suffix_rfl

theorem suffix_of_digits (s : List Char) : (digits s).2 <:+ s := List.dropWhile_suffix _

theorem suffix_of_fraction (s : List Char) : (fraction s).2 <:+ s := by
  cases s with
  | nil => exact List.suffix_rfl
  | cons c s =>
    rw [fraction]
    split
    · exact (suffix_of_digits s).trans (List.suffix_cons c s)
    · exact List.suffix_rfl

theorem suffix_of_exponent (s : List Char) : (exponent s).2 <:+ s := by
  cases s with
  | nil => exact List.suffix_rfl
  | cons c s =>
    rw [exponent]
    split
    · exact ((suffix_of_digits _).trans (suffix_of_sign s)).trans (List.suffix_cons c s)
    · exact List.suffix_rfl

/-- A number goes beyond the first character that it has. -/
theorem suffix_of_number {c : Char} {s : List Char} (starts : startsNumber (c :: s) = true) :
    (number (c :: s)).2 <:+ s := by
  have behind : (fraction (digits (sign (c :: s)).2).2).2 <:+ s := by
    unfold startsNumber at starts
    by_cases signed : (c = '+' || c = '-') = true
    · have rest : (sign (c :: s)).2 = s := by rw [sign, if_pos signed]
      rw [rest]
      exact (suffix_of_fraction _).trans (suffix_of_digits s)
    · have rest : (sign (c :: s)).2 = c :: s := by rw [sign, if_neg signed]
      rw [rest] at starts ⊢
      by_cases digit : c.isDigit = true
      · have whole : (digits (c :: s)).2 = (digits s).2 := List.dropWhile_cons_of_pos digit
        rw [whole]
        exact (suffix_of_fraction _).trans (suffix_of_digits s)
      · have none : (digits (c :: s)).2 = c :: s := List.dropWhile_cons_of_neg digit
        have point : (c = '.' && startsDigits s) = true := by
          have digits : startsDigits (c :: s) = false := Bool.eq_false_iff.mpr digit
          rw [digits, Bool.false_or, fraction] at starts
          split at starts
          next point => exact point
          next => cases starts
        rw [none, fraction, if_pos point]
        exact suffix_of_digits s
  exact (suffix_of_exponent _).trans behind

theorem within_numeric {c : Char} {s : List Char} (starts : startsNumber (c :: s) = true) :
    Within (numeric (c :: s)).2 s := by
  have behind := suffix_of_number starts
  unfold numeric
  split
  next digits rest read =>
    rw [read] at behind
    split
    · exact (within_name rest).trans behind
    · split
      · exact within_some ((List.drop_suffix 1 rest).trans behind)
      · exact within_some behind

/-! ## First tokens -/

/-- The tokens of one character. -/
def punctuation? : Char → Option Token
  | '(' => some (.opening .round)
  | ')' => some (.closing .round)
  | '[' => some (.opening .square)
  | ']' => some (.closing .square)
  | '\x7b' => some (.opening .curly)
  | '\x7d' => some (.closing .curly)
  | ':' => some .colon
  | ';' => some .semicolon
  | ',' => some .comma
  | _ => none

def isQuote (c : Char) : Bool := c = '"' || c = '\''

/-- Whether a name begins an address, in letters of either case. -/
def isUrlName (n : List Char) : Bool := n.map Char.toLower == ['u', 'r', 'l']

/-- What a name is with what stands behind it: a function, an address, or the name alone. -/
def nameToken (n : List Char) (r : Rest) : Piece :=
  match r with
  | some ('(' :: s) =>
    if isUrlName n && !(dropBlanks s).head?.any isQuote then
      (some ((url (dropBlanks s)).1.elim .badUrl .url), (url (dropBlanks s)).2)
    else (some (.function n), some s)
  | r => (some (.ident n), r)

/-- The first token of a text that begins with `c`, and what stands behind it. -/
def token (c : Char) (s : List Char) : Piece :=
  if isBlank c then (some .blank, some (dropBlanks s))
  else if isQuote c then (some ((quoted c s).1.elim .badString .string), (quoted c s).2)
  else if c = '/' && ['*'].isPrefixOf s then (none, afterComment (s.drop 1))
  else if startsNumber (c :: s) then numeric (c :: s)
  else if c = '-' && ['-', '>'].isPrefixOf s then (some .commentClosing, some (s.drop 2))
  else if startsName (c :: s) then nameToken (name (c :: s)).1 (name (c :: s)).2
  else if c = '#' && (nameChar? s).isSome then
    (some (.hash (name s).1 (startsName s)), (name s).2)
  else if c = '@' && startsName s then (some (.atKeyword (name s).1), (name s).2)
  else if c = '<' && ['!', '-', '-'].isPrefixOf s then (some .commentOpening, some (s.drop 3))
  else (some ((punctuation? c).getD (.delim c)), some s)

theorem within_nameToken {r : Rest} {s : List Char} (within : Within r s) (n : List Char) :
    Within (nameToken n r).2 s := by
  unfold nameToken
  split
  next t =>
    have behind := (List.suffix_cons '(' t).trans (within _ rfl)
    split
    · exact (within_url _).trans ((List.dropWhile_suffix _).trans behind)
    · exact within_some behind
  next => exact within

/-- Whether a token is neither punctuation nor a name behind a number sign. -/
def Token.isWord : Token → Bool
  | .hash .. | .opening _ | .closing _ | .colon | .semicolon | .comma => false
  | _ => true

theorem isWord_of_nameToken {n : List Char} {r : Rest} {t : Token}
    (same : (nameToken n r).1 = some t) : t.isWord = true := by
  unfold nameToken at same
  split at same
  · split at same
    · cases same
      cases (url _).1 <;> rfl
    · cases same
      rfl
  · cases same
    rfl

theorem isWord_of_numeric {s : List Char} {t : Token} (same : (numeric s).1 = some t) :
    t.isWord = true := by
  unfold numeric at same
  split at same
  split at same
  · cases same
    rfl
  · split at same
    all_goals
      cases same
      rfl

/-- Only a number sign begins a name behind one, and only the characters of punctuation are that. -/
theorem token_cases {c : Char} {s : List Char} {t : Token} (first : (token c s).1 = some t) :
    t.isWord = true ∨ c = '#' ∧ t = .hash (name s).1 (startsName s) ∨ punctuation? c = some t := by
  unfold token at first
  split at first
  · cases first
    exact .inl rfl
  split at first
  · cases first
    cases (quoted c s).1 <;> exact .inl rfl
  split at first
  · cases first
  split at first
  · exact .inl (isWord_of_numeric first)
  split at first
  · cases first
    exact .inl rfl
  split at first
  · exact .inl (isWord_of_nameToken first)
  split at first
  next sign =>
    cases first
    exact .inr (.inl ⟨of_decide_eq_true (Bool.and_eq_true _ _ ▸ sign).1, rfl⟩)
  split at first
  · cases first
    exact .inl rfl
  split at first
  · cases first
    exact .inl rfl
  · cases mark : punctuation? c with
    | none =>
      rw [mark] at first
      cases first
      exact .inl rfl
    | some t' =>
      rw [mark] at first
      exact .inr (.inr first)

/-- A token has its first character, and what stands behind it is the end of the rest. -/
theorem within_token (c : Char) (s : List Char) : Within (token c s).2 s := by
  have skip : ∀ n, Within (some (s.drop n)) s := fun n => within_some (List.drop_suffix n s)
  unfold token
  split
  · exact within_some (List.dropWhile_suffix _)
  split
  · exact within_quoted c s
  split
  · exact (within_afterComment _).trans (List.drop_suffix 1 s)
  split
  next starts => exact within_numeric starts
  split
  · exact skip 2
  split
  next starts => exact within_nameToken (within_name_cons (isSome_nameChar? starts)) _
  split
  · exact within_name s
  split
  · exact within_name s
  split
  · exact skip 3
  · exact within_some List.suffix_rfl

/-- The tokens of a text, and whether the last one ends in it. -/
def scan : List Char → List Token × Bool
  | [] => ([], true)
  | c :: s =>
    match _first : token c s with
    | (t, none) => (t.toList, false)
    | (t, some rest) => (t.toList ++ (scan rest).1, (scan rest).2)
termination_by s => s.length
decreasing_by
  all_goals exact Nat.lt_succ_of_le (within_token c s rest (congrArg Prod.snd _first)).length_le

/-- The tokens of a style sheet. -/
def tokens (s : String) : List Token := (scan (filtered s.toList)).1

variable {c : Char} {s rest : List Char} {t : Option Token}

theorem scan_cons (first : token c s = (t, some rest)) :
    scan (c :: s) = (t.toList ++ (scan rest).1, (scan rest).2) := by
  rw [scan, first]

theorem scan_cons_of_none (first : token c s = (t, none)) : scan (c :: s) = (t.toList, false) := by
  rw [scan, first]

end PageStudio.Css.Lexical
