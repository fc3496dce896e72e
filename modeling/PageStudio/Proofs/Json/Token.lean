import PageStudio.Json.Printer
import PageStudio.Json.Token
import PageStudio.Proofs.Text.Piece

/-!
# The tokens of written values

A value that is written over several lines reads as its own tokens. A number needs something behind
it that does not go on with it (`Stops`), as whatever follows a value in a text does; every other
token ends by itself.

## Main statements

* `isToken_quoted`: a text in quotes is a token for that text, whatever its characters are.
* `isToken_natural`: so is a natural number for itself.
* `tokens_pretty`: the tokens of a value are read in its lines.
-/

namespace PageStudio.Json

open Decimal

/-! ## Quoted texts -/

/-- Characters that are read as a piece, and the character that the piece stands for. -/
structure ReadsAs (s : List Char) (p : Piece) (c : Char) : Prop where
  pieces : ∀ rest, quotedPieces? (s ++ rest) =
    (quotedPieces? rest).map fun r => (p :: r.1, r.2)
  text : ∀ ps, pieceText? (p :: ps) = (pieceText? ps).map (c :: ·)

theorem readsAs_short {e c : Char} (stands : unescape? e = some c) :
    ReadsAs ['\\', e] (.char c) c where
  pieces rest := by
    have notUnit : e ≠ 'u' := by
      rintro rfl
      cases stands
    show quotedPieces? ('\\' :: e :: rest) = _
    rw [quotedPieces?.eq_def]
    split
    next h => cases h
    next h => cases h
    next h => cases h; exact absurd rfl notUnit
    next _ same =>
      cases same
      rw [stands]
      cases quotedPieces? rest <;> rfl
    next none same =>
      cases same
      exact (none e rest rfl rfl).elim
  text _ := rfl

theorem readsAs_plain {c : Char} (notQuote : c ≠ '"') (notSlash : c ≠ '\\')
    (notControl : ¬ c.toNat < 32) : ReadsAs [c] (.char c) c where
  pieces rest := by
    show quotedPieces? (c :: rest) = _
    rw [quotedPieces?.eq_def]
    split
    next h => cases h
    next h => cases h; exact absurd rfl notQuote
    next h => cases h; exact absurd rfl notSlash
    next _ same => cases same; exact absurd rfl notSlash
    next same =>
      cases same
      simp only [notControl, notSlash, decide_false, Bool.or_self, if_false, Bool.false_eq_true]
      cases quotedPieces? rest <;> rfl
  text _ := rfl

theorem hexValue?_hexDigit : ∀ n < 16, hexValue? (hexDigit n) = some n := by decide

theorem readsAs_unit {c : Char} (control : c.toNat < 32) :
    ReadsAs ['\\', 'u', '0', '0', hexDigit (c.toNat / 16), hexDigit (c.toNat % 16)]
      (.unit c.toNat) c where
  pieces rest := by
    have zero : hexValue? '0' = some 0 := by decide
    have high := hexValue?_hexDigit (c.toNat / 16) (by omega)
    have low := hexValue?_hexDigit (c.toNat % 16) (by omega)
    have value : unitValue? '0' '0' (hexDigit (c.toNat / 16)) (hexDigit (c.toNat % 16)) =
        some c.toNat := by
      simp only [unitValue?, zero, high, low, Option.bind_eq_bind, Option.bind_some,
        Option.pure_def, Option.some.injEq]
      omega
    show quotedPieces? ('\\' :: 'u' :: '0' :: '0' :: _ :: _ :: rest) = _
    rw [quotedPieces?, value]
    cases quotedPieces? rest <;> rfl
  text ps := by
    rw [pieceText?.eq_def]
    have high : (0xD800 ≤ c.toNat && c.toNat < 0xDC00) = false := by simp; omega
    have low : (0xDC00 ≤ c.toNat && c.toNat < 0xE000) = false := by simp; omega
    simp only [high, low, Char.ofNat_toNat]
    rfl

/-- The letters of short escapes, with the characters that they stand for. -/
def shortEscapes : List (Char × Char) :=
  [('"', '"'), ('\\', '\\'), ('n', '\n'), ('r', '\r'), ('t', '\t'), ('b', '\x08'), ('f', '\x0c')]

theorem shortEscapes_spec : ∀ e ∈ shortEscapes,
    escapeChar e.2 = ['\\', e.1] ∧ unescape? e.1 = some e.2 := by decide

/-- The written form of every character is read back. -/
theorem exists_readsAs (c : Char) : ∃ p, ReadsAs (escapeChar c) p c := by
  by_cases short : c ∈ shortEscapes.map (·.2)
  · obtain ⟨e, mem, rfl⟩ := List.mem_map.mp short
    obtain ⟨written, stands⟩ := shortEscapes_spec e mem
    exact ⟨_, written ▸ readsAs_short stands⟩
  · simp only [shortEscapes, List.map_cons, List.map_nil, List.mem_cons, List.not_mem_nil,
      or_false, not_or] at short
    obtain ⟨quote, slash, n, r, t, b, f⟩ := short
    by_cases control : c.toNat < 32
    · have written : escapeChar c =
          ['\\', 'u', '0', '0', hexDigit (c.toNat / 16), hexDigit (c.toNat % 16)] := by
        simp only [escapeChar, quote, slash, n, r, t, b, f, control, if_false, if_true]
      exact ⟨_, written ▸ readsAs_unit control⟩
    · have written : escapeChar c = [c] := by
        simp only [escapeChar, quote, slash, n, r, t, b, f, control, if_false]
      exact ⟨_, written ▸ readsAs_plain quote slash control⟩

/-- A quoted text is read back. -/
theorem exists_quotedPieces? (s rest : List Char) :
    ∃ pieces, quotedPieces? (s.flatMap escapeChar ++ '"' :: rest) = some (pieces, rest) ∧
      pieceText? pieces = some s := by
  induction s with
  | nil => exact ⟨[], rfl, rfl⟩
  | cons c s ih =>
    obtain ⟨pieces, read, text⟩ := ih
    obtain ⟨p, reads⟩ := exists_readsAs c
    refine ⟨p :: pieces, ?_, ?_⟩
    · rw [List.flatMap_cons, List.append_assoc, reads.pieces, read]
      rfl
    · rw [reads.text, text]
      rfl
/-! ## Numbers -/

/-- A text does not go on with a number that stands in front of it. -/
def Stops (s : List Char) : Prop :=
  ∀ c ∈ s.head?, isDigit c = false ∧ c ≠ '.' ∧ c ≠ 'e' ∧ c ≠ 'E'

instance (s : List Char) : Decidable (Stops s) :=
  inferInstanceAs (Decidable (∀ c ∈ s.head?, isDigit c = false ∧ c ≠ '.' ∧ c ≠ 'e' ∧ c ≠ 'E'))

theorem stops_append {s rest : List Char} (first : Stops s) (then_ : Stops rest) :
    Stops (s ++ rest) := by
  cases s with
  | nil => exact then_
  | cons c s => exact first

/-- The value of digits behind a number that was read already. -/
def goOn (n : Nat) (digits : List Char) : Nat :=
  digits.foldl (fun n c => 10 * n + digitValue c) n

theorem le_goOn (n : Nat) (digits : List Char) : n ≤ goOn n digits := by
  induction digits generalizing n with
  | nil => exact Nat.le_refl n
  | cons c digits ih =>
    have more := ih (10 * n + digitValue c)
    show n ≤ goOn (10 * n + digitValue c) digits
    omega

/-- All digits are taken where their value has 64 bits. -/
theorem takeDigits_append {digits rest : List Char} (all : ∀ c ∈ digits, isDigit c = true)
    (stops : ∀ c ∈ rest.head?, isDigit c = false) {n : Nat}
    (small : goOn n digits < UInt64.size) :
    takeDigits n (digits ++ rest) = (goOn n digits, digits.length, 0, rest) := by
  induction digits generalizing n with
  | nil =>
    cases rest with
    | nil => rfl
    | cons c rest =>
      have other : isDigit c = false := stops c rfl
      show takeDigits n (c :: rest) = (n, 0, 0, c :: rest)
      simp only [takeDigits, other, Bool.false_eq_true, if_false]
  | cons c digits ih =>
    have digit := all c List.mem_cons_self
    have next : n * 10 + digitValue c = 10 * n + digitValue c := by omega
    have small : goOn (10 * n + digitValue c) digits < UInt64.size := small
    have fits := Nat.lt_of_le_of_lt (le_goOn _ digits) small
    have others := ih (fun d mem => all d (List.mem_cons_of_mem _ mem)) small
    simp only [List.cons_append, takeDigits, digit, if_true, next, fits, others]
    rfl

theorem isDigit_of_mem_toDigits {n : Nat} {c : Char} (mem : c ∈ Nat.toDigits 10 n) :
    isDigit c = true :=
  Nat.isDigit_of_mem_toDigits (by omega) (by omega) mem

/-- Only zero is written with a zero in front. -/
theorem head?_toDigits_ne (n : Nat) (positive : n ≠ 0) : (Nat.toDigits 10 n).head? ≠ some '0' := by
  induction n using Nat.strongRecOn with
  | ind n ih =>
    rcases Nat.lt_or_ge n 10 with one | more
    · rw [Nat.toDigits_of_lt_base one]
      have digits : ∀ k < 10, k ≠ 0 → [Nat.digitChar k].head? ≠ some '0' := by decide
      exact digits n one positive
    · rw [Nat.toDigits_of_base_le (by omega) more,
        List.head?_append_of_ne_nil _ Nat.toDigits_ne_nil]
      exact ih (n / 10) (by omega) (by omega)

theorem unsignedDigits_toDigits {n : Nat} (small : n < UInt64.size) {rest : List Char}
    (stops : Stops rest) (negative : Bool) :
    unsigned?.unsignedDigits negative (Nat.toDigits 10 n ++ rest) =
      some (some (integer negative n), rest) := by
  have value : goOn 0 (Nat.toDigits 10 n) = n := natOfDigits_toDigits n
  have taken := takeDigits_append (n := 0) (fun c mem => isDigit_of_mem_toDigits mem)
    (fun c next => (stops c next).1) (by rwa [value])
  have some_digit : (Nat.toDigits 10 n).length ≠ 0 := by
    have positive : 0 < (Nat.toDigits 10 n).length := Nat.length_toDigits_pos
    omega
  unfold unsigned?.unsignedDigits
  rw [taken, value]
  simp only [some_digit, if_false]
  split
  next => exact absurd rfl (stops '.' rfl).2.1
  next => exact absurd rfl (stops 'e' rfl).2.2.1
  next => exact absurd rfl (stops 'E' rfl).2.2.2
  next => rfl

/-- A number of 64 bits is read back from its digits. -/
theorem unsigned?_toDigits {n : Nat} (small : n < UInt64.size) {rest : List Char}
    (stops : Stops rest) (negative : Bool) :
    unsigned? negative (Nat.toDigits 10 n ++ rest) = some (some (integer negative n), rest) := by
  have read := unsignedDigits_toDigits small stops negative
  unfold unsigned?
  split
  next c after same =>
    split
    next digit =>
      -- The zero is the whole number, and no digit follows it.
      have first : (Nat.toDigits 10 n).head? = some '0' := by
        rw [← List.head?_append_of_ne_nil _ Nat.toDigits_ne_nil, same]
        rfl
      obtain rfl : n = 0 := by
        by_contra positive
        exact head?_toDigits_ne n positive first
      obtain rfl : rest = c :: after := (List.cons.inj same).2
      rw [(stops c rfl).1] at digit
      cases digit
    next => exact same ▸ read
  next => exact read

/-! ## Tokens -/

/-- A text is a token, wherever it stops. -/
def IsToken (s : List Char) (t : Token) : Prop :=
  ∃ c s', s = c :: s' ∧ isSpace c = false ∧
    ∀ rest, Stops rest → token? c (s' ++ rest) = some (t, rest)

/-- Whether a number may start with a character. -/
def startsNumber (c : Char) : Bool := isDigit c || c == '-'

/-- A text that starts like a number is a token if it is a number. -/
theorem token?_number {c : Char} (number : startsNumber c = true) (s : List Char) :
    token? c s = (number? (c :: s)).map fun (n, after) => (.number n, after) := by
  have ne : ∀ d : Char, startsNumber d = false → c ≠ d := by
    rintro d other rfl
    exact Bool.noConfusion (number.symm.trans other)
  unfold token?
  split
  all_goals first | exact absurd rfl (ne _ rfl) | rfl

theorem isToken_number {n : Number} {c : Char} {s : List Char} (text : n.text = c :: s)
    (number : startsNumber c = true)
    (read : ∀ rest, Stops rest → number? (n.text ++ rest) = some (some n, rest)) :
    IsToken n.text (.number (some n)) := by
  refine ⟨c, s, text, ?_, fun rest stops => ?_⟩
  · have ne : ∀ d : Char, startsNumber d = false → c ≠ d := by
      rintro d other rfl
      exact Bool.noConfusion (number.symm.trans other)
    simp only [isSpace, ne ' ' rfl, ne '\t' rfl, ne '\n' rfl, ne '\r' rfl, decide_false,
      Bool.or_self]
  · have read := read rest stops
    rw [text] at read
    rw [token?_number number, ← List.cons_append, read]
    rfl

theorem isToken_natural {n : Nat} (small : n < UInt64.size) :
    IsToken (Number.natural n).text (.number (some (.natural n))) := by
  obtain ⟨c, s, digits⟩ := List.exists_cons_of_ne_nil (Nat.toDigits_ne_nil (n := n) (b := 10))
  have digit : isDigit c = true := isDigit_of_mem_toDigits (digits ▸ List.mem_cons_self)
  refine isToken_number digits (by rw [startsNumber, digit, Bool.true_or]) fun rest stops => ?_
  show number? (Nat.toDigits 10 n ++ rest) = _
  unfold number?
  split
  next minus =>
    rw [digits] at minus
    obtain rfl : c = '-' := (List.cons.inj minus).1
    cases digit
  next => exact unsigned?_toDigits small stops false

/-- Where no exponent follows, a floating-point number ends behind its last digit. -/
theorem finishFloat?_of_stops {rest : List Char} (stops : Stops rest) (negative : Bool)
    (significand : Nat) (exponent : Int) :
    finishFloat? negative significand exponent rest =
      some ((scaled? significand exponent).map fun x => .float (if negative then -x else x),
        rest) := by
  show _ = some ((fun e => (scaled? significand e).map fun x =>
    Number.float (if negative then -x else x)) exponent, rest)
  unfold finishFloat?
  generalize (fun e => (scaled? significand e).map fun x =>
    Number.float (if negative then -x else x)) = value
  split
  next => exact absurd rfl (stops 'e' rfl).2.2.1
  next => exact absurd rfl (stops 'E' rfl).2.2.2
  next => rfl

/-- The only floating-point number that is written without being given is fifty. -/
theorem isToken_fifty : IsToken (Number.float 50).text (.number (some (.float 50))) := by
  have text : (Number.float 50).text = "50.0".toList := by decide +kernel
  have value : scaled? 500 (-1) = some 50 := by decide +kernel
  refine isToken_number text rfl fun rest stops => ?_
  have whole : takeDigits 0 (['5', '0'] ++ '.' :: '0' :: rest) = (50, 2, 0, '.' :: '0' :: rest) :=
    takeDigits_append (List.all_eq_true.mp (by decide)) (by simp [isDigit]) (by decide)
  have part : takeDigits 50 (['0'] ++ rest) = (500, 1, 0, rest) :=
    takeDigits_append (List.all_eq_true.mp (by decide)) (fun c next => (stops c next).1)
      (by decide)
  rw [text]
  show unsigned?.unsignedDigits false (['5', '0'] ++ '.' :: '0' :: rest) = _
  unfold unsigned?.unsignedDigits
  rw [whole]
  -- Behind the point there is one digit more.
  let fraction := takeDigits 50 ('0' :: rest)
  show (if fraction.2.1 + fraction.2.2.1 = 0 then none
    else finishFloat? false fraction.1 (((0 : Nat) : Int) - fraction.2.1) fraction.2.2.2) = _
  have read : fraction = (500, 1, 0, rest) := part
  rw [read]
  show finishFloat? false 500 (-1) rest = _
  rw [finishFloat?_of_stops stops, value]
  rfl

theorem isToken_quoted (s : String) : IsToken (quoted s) (.string (some s)) := by
  refine ⟨'"', _, rfl, rfl, fun rest _ => ?_⟩
  obtain ⟨pieces, read, text⟩ := exists_quotedPieces? s.toList rest
  rw [List.append_assoc]
  show (quotedPieces? (s.toList.flatMap escapeChar ++ '"' :: rest)).map _ = _
  rw [read, Option.map_some]
  simp only [text, Option.map_some, String.ofList_toList]

/-! ## Texts of many tokens -/

/-- A text reads as tokens, wherever it stops. -/
def Lexes (s : List Char) (ts : List Token) : Prop :=
  ∀ rest bound, Stops rest → s.length + rest.length ≤ bound →
    ∃ bound', rest.length ≤ bound' ∧
      tokensWithin bound (s ++ rest) = ts ++ tokensWithin bound' rest

theorem IsToken.lexes {s : List Char} {t : Token} (isToken : IsToken s t) : Lexes s [t] := by
  obtain ⟨c, s, rfl, visible, read⟩ := isToken
  intro rest bound stops enough
  rw [List.length_cons] at enough
  obtain ⟨bound, rfl⟩ : ∃ b, bound = b + 1 := ⟨bound - 1, by omega⟩
  refine ⟨bound, by omega, ?_⟩
  have kept : (c :: s ++ rest).dropWhile isSpace = c :: (s ++ rest) :=
    List.dropWhile_cons_of_neg (by rw [visible]; decide)
  simp only [tokensWithin, kept, read rest stops]
  rfl

theorem lexes_nil : Lexes [] [] := fun _ bound _ enough => ⟨bound, by omega, rfl⟩

/-- Blanks in front do not matter. -/
theorem Lexes.skip {s s' : List Char} {ts : List Token} (blank : ∀ c ∈ s, isSpace c = true)
    (lexes : Lexes s' ts) : Lexes (s ++ s') ts := by
  intro rest bound stops enough
  rw [List.length_append] at enough
  obtain ⟨last, left, read⟩ := lexes rest bound stops (by omega)
  refine ⟨last, left, read ▸ ?_⟩
  rw [List.append_assoc]
  cases bound with
  | zero => rfl
  | succ bound =>
    have dropped : (s ++ (s' ++ rest)).dropWhile isSpace = (s' ++ rest).dropWhile isSpace :=
      List.dropWhile_append_of_pos blank
    simp only [tokensWithin, dropped]

theorem Lexes.append {s s' : List Char} {ts ts' : List Token} (first : Lexes s ts)
    (second : Lexes s' ts') (stops : Stops s') : Lexes (s ++ s') (ts ++ ts') := by
  intro rest bound ends enough
  rw [List.length_append] at enough
  obtain ⟨middle, there, here⟩ := first (s' ++ rest) bound (stops_append stops ends)
    (by rw [List.length_append]; omega)
  obtain ⟨last, left, behind⟩ := second rest middle ends (by rwa [List.length_append] at there)
  refine ⟨last, left, ?_⟩
  rw [List.append_assoc, here, behind, List.append_assoc]

/-- A text that reads as tokens has these and no others. -/
theorem Lexes.tokens_eq {s : List Char} {ts : List Token} (lexes : Lexes s ts) :
    tokens s = ts := by
  obtain ⟨bound, -, whole⟩ := lexes [] s.length nofun (Nat.le_refl _)
  have none : tokensWithin bound [] = [] := by
    cases bound <;> rfl
  rw [List.append_nil, none, List.append_nil] at whole
  exact whole

/-! ## Values -/

mutual
/-- The tokens of a value. -/
def valueTokens : Json → List Token
  | .null => [.null]
  | .bool b => [.bool b]
  | .number n => [.number (some n)]
  | .string s => [.string (some s)]
  | .array items => .openArray :: (itemsTokens true items ++ [.closeArray])
  | .object members => .openObject :: (membersTokens true members ++ [.closeObject])

/-- The tokens of items, with a comma in front of each but the first. -/
def itemsTokens (first : Bool) : List Json → List Token
  | [] => []
  | v :: rest => (if first then [] else [.comma]) ++ (valueTokens v ++ itemsTokens false rest)

/-- The tokens of members, with a comma in front of each but the first. -/
def membersTokens (first : Bool) : List (String × Json) → List Token
  | [] => []
  | (k, v) :: rest =>
    (if first then [] else [.comma]) ++
      (.string (some k) :: .colon :: (valueTokens v ++ membersTokens false rest))
end

mutual
/-- All numbers in a value are read back from their own texts. -/
def Legible : Json → Prop
  | .number n => IsToken n.text (.number (some n))
  | .array items => ItemsLegible items
  | .object members => MembersLegible members
  | _ => True

/-- All numbers in items are. -/
def ItemsLegible : List Json → Prop
  | [] => True
  | v :: rest => Legible v ∧ ItemsLegible rest

/-- All numbers in members are. -/
def MembersLegible : List (String × Json) → Prop
  | [] => True
  | (_, v) :: rest => Legible v ∧ MembersLegible rest
end

theorem stops_prettyItems (level : Nat) (first : Bool) (items : List Json) :
    Stops (prettyItems level first items) := by
  cases items with
  | nil => exact nofun
  | cons v rest => cases first <;> simp [prettyItems, newLine, Stops, isDigit]

theorem stops_prettyMembers (level : Nat) (first : Bool) (members : List (String × Json)) :
    Stops (prettyMembers level first members) := by
  cases members with
  | nil => exact nofun
  | cons m rest => cases first <;> simp [prettyMembers, newLine, Stops, isDigit]

theorem isSpace_of_mem_newLine {level : Nat} {c : Char} (mem : c ∈ newLine level) :
    isSpace c = true := by
  rcases List.mem_cons.mp mem with rfl | blank
  · rfl
  · rw [List.eq_of_mem_replicate blank]
    rfl

theorem stops_newLine (level : Nat) (s : List Char) : Stops (newLine level ++ s) := by
  simp [newLine, Stops, isDigit]

/-- What is between brackets, with the closing one on a line of its own. -/
theorem Lexes.enclosed {s : List Char} {ts : List Token} {first last : Char} {t u : Token}
    (opening : IsToken [first] t) (inner : Lexes s ts) (stops : Stops s)
    (closing : IsToken [last] u) (level : Nat) :
    Lexes (first :: (s ++ newLine level ++ [last])) (t :: (ts ++ [u])) := by
  have back := closing.lexes.skip fun c (mem : c ∈ newLine level) => isSpace_of_mem_newLine mem
  have body := inner.append back (stops_newLine level [last])
  rw [List.append_assoc]
  exact opening.lexes.append body (stops_append stops (stops_newLine level [last]))

/-- Brackets around nothing. -/
theorem Lexes.empty {first last : Char} {t u : Token} (opening : IsToken [first] t)
    (closing : IsToken [last] u) (ends : Stops [last]) : Lexes [first, last] [t, u] :=
  opening.lexes.append closing.lexes ends

theorem isToken_openArray : IsToken ['['] .openArray := ⟨'[', [], rfl, rfl, fun _ _ => rfl⟩

theorem isToken_closeArray : IsToken [']'] .closeArray := ⟨']', [], rfl, rfl, fun _ _ => rfl⟩

theorem isToken_openObject : IsToken ['\x7b'] .openObject :=
  ⟨'\x7b', [], rfl, rfl, fun _ _ => rfl⟩

theorem isToken_closeObject : IsToken ['\x7d'] .closeObject :=
  ⟨'\x7d', [], rfl, rfl, fun _ _ => rfl⟩

theorem stops_closeArray : Stops [']'] := fun c same => by cases same; decide

theorem stops_closeObject : Stops ['\x7d'] := fun c same => by cases same; decide

theorem isToken_colon : IsToken [':'] .colon := ⟨':', [], rfl, rfl, fun _ _ => rfl⟩

theorem isToken_comma : IsToken [','] .comma := ⟨',', [], rfl, rfl, fun _ _ => rfl⟩

/-- A new line, with a comma in front of it unless it is the first. -/
theorem Lexes.onNewLine {s : List Char} {ts : List Token} (lexes : Lexes s ts) (level : Nat)
    (first : Bool) : Lexes ((if first then [] else [',']) ++ (newLine level ++ s))
      ((if first then [] else [.comma]) ++ ts) := by
  have line := lexes.skip fun c (mem : c ∈ newLine level) => isSpace_of_mem_newLine mem
  cases first with
  | true => exact line
  | false => exact isToken_comma.lexes.append line (stops_newLine level s)

/-- A value with its name in front of it. -/
theorem Lexes.named {s : List Char} {ts : List Token} (lexes : Lexes s ts) (k : String) :
    Lexes (quoted k ++ (':' :: ' ' :: s)) (.string (some k) :: .colon :: ts) := by
  have blank : Lexes (' ' :: s) ts := lexes.skip (s := [' ']) (List.all_eq_true.mp (by decide))
  have colon := isToken_colon.lexes.append blank fun c same => by cases same; decide
  exact (isToken_quoted k).lexes.append colon fun c same => by cases same; decide

mutual
/-- The lines of a value read as its tokens. -/
theorem lexes_prettyText : (v : Json) → v.Legible → (level : Nat) →
    Lexes (prettyText level v) (valueTokens v)
  | .null, _, _ => IsToken.lexes ⟨'n', "ull".toList, rfl, rfl, fun _ _ => rfl⟩
  | .bool true, _, _ => IsToken.lexes ⟨'t', "rue".toList, rfl, rfl, fun _ _ => rfl⟩
  | .bool false, _, _ => IsToken.lexes ⟨'f', "alse".toList, rfl, rfl, fun _ _ => rfl⟩
  | .number n, legible, _ => IsToken.lexes legible
  | .string s, _, _ => (isToken_quoted s).lexes
  | .array items, legible, level => by
    have inner := lexes_prettyItems items legible (level + 1) true
    have stops := stops_prettyItems (level + 1) true items
    cases items with
    | nil => exact .empty isToken_openArray isToken_closeArray stops_closeArray
    | cons v rest =>
      exact .enclosed isToken_openArray inner stops isToken_closeArray level
  | .object members, legible, level => by
    have inner := lexes_prettyMembers members legible (level + 1) true
    have stops := stops_prettyMembers (level + 1) true members
    cases members with
    | nil => exact .empty isToken_openObject isToken_closeObject stops_closeObject
    | cons m rest =>
      exact .enclosed isToken_openObject inner stops isToken_closeObject level

theorem lexes_prettyItems : (items : List Json) → ItemsLegible items → (level : Nat) →
    (first : Bool) → Lexes (prettyItems level first items) (itemsTokens first items)
  | [], _, _, _ => lexes_nil
  | v :: rest, legible, level, first => by
    have value := (lexes_prettyText v legible.1 level).append
      (lexes_prettyItems rest legible.2 level false) (stops_prettyItems level false rest)
    have line := value.onNewLine level first
    simp only [prettyItems, List.append_assoc]
    exact line

theorem lexes_prettyMembers : (members : List (String × Json)) → MembersLegible members →
    (level : Nat) → (first : Bool) →
    Lexes (prettyMembers level first members) (membersTokens first members)
  | [], _, _, _ => lexes_nil
  | (k, v) :: rest, legible, level, first => by
    have value := (lexes_prettyText v legible.1 level).append
      (lexes_prettyMembers rest legible.2 level false) (stops_prettyMembers level false rest)
    have line := (value.named k).onNewLine level first
    simp only [prettyMembers, List.append_assoc, List.cons_append]
    exact line
end

/-- The tokens of a value are read in its lines. -/
theorem tokens_pretty {v : Json} (legible : v.Legible) :
    tokens v.pretty.toList = valueTokens v := by
  rw [pretty, String.toList_ofList]
  exact (lexes_prettyText v legible 0).tokens_eq

end PageStudio.Json
