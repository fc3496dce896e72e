import PageStudio.Decimal.Reading
import PageStudio.Json.Value

/-!
# JSON tokens

A text is cut into tokens up to the first place where it stops being JSON, which becomes a `fault`.
Two things that only some readers mind are kept in the tokens: a string with an unpaired surrogate
has no text, and a number beyond the floating-point range has no value.
-/

namespace PageStudio.Json

open Decimal

/-- A token. -/
inductive Token where
  | openArray
  | closeArray
  | openObject
  | closeObject
  | colon
  | comma
  | null
  | bool (b : Bool)
  | number (value : Option Number)
  | string (text : Option String)
  | fault

/-! ## Strings -/

/-- A piece of a quoted text: a character, or a 16-bit unit from an escape. -/
inductive Piece where
  | char (c : Char)
  | unit (n : Nat)

/-- The value of a hexadecimal digit of either case. -/
def hexValue? (c : Char) : Option Nat :=
  if '0' ≤ c && c ≤ '9' then some (c.toNat - 48)
  else if 'a' ≤ c && c ≤ 'f' then some (c.toNat - 87)
  else if 'A' ≤ c && c ≤ 'F' then some (c.toNat - 55)
  else none

/-- The value of four hexadecimal digits. -/
def unitValue? (a b c d : Char) : Option Nat := do
  let a ← hexValue? a
  let b ← hexValue? b
  let c ← hexValue? c
  let d ← hexValue? d
  return ((a * 16 + b) * 16 + c) * 16 + d

/-- The character that a letter behind a backslash stands for. -/
def unescape? : Char → Option Char
  | '"' => some '"'
  | '\\' => some '\\'
  | '/' => some '/'
  | 'b' => some '\x08'
  | 'f' => some '\x0c'
  | 'n' => some '\n'
  | 'r' => some '\r'
  | 't' => some '\t'
  | _ => none

/-- The pieces up to the closing quote, and what follows it. Control characters, unknown escapes and
a missing quote have no reading. -/
def quotedPieces? : List Char → Option (List Piece × List Char)
  | [] => none
  | '"' :: rest => some ([], rest)
  | '\\' :: 'u' :: a :: b :: c :: d :: rest => do
    let n ← unitValue? a b c d
    let (pieces, after) ← quotedPieces? rest
    return (.unit n :: pieces, after)
  | '\\' :: e :: rest => do
    let c ← unescape? e
    let (pieces, after) ← quotedPieces? rest
    return (.char c :: pieces, after)
  | c :: rest =>
    if c.toNat < 32 || c = '\\' then none
    else do
      let (pieces, after) ← quotedPieces? rest
      return (.char c :: pieces, after)

/-- The text of the pieces: a high and a low surrogate side by side make one character, and a
surrogate without its partner makes none. -/
def pieceText? : List Piece → Option (List Char)
  | [] => some []
  | .char c :: rest => (pieceText? rest).map (c :: ·)
  | .unit n :: rest =>
    if 0xD800 ≤ n && n < 0xDC00 then
      match rest with
      | .unit m :: rest' =>
        if 0xDC00 ≤ m && m < 0xE000 then
          (pieceText? rest').map (Char.ofNat (0x10000 + (n - 0xD800) * 0x400 + (m - 0xDC00)) :: ·)
        else none
      | _ => none
    else if 0xDC00 ≤ n && n < 0xE000 then none
    else (pieceText? rest).map (Char.ofNat n :: ·)

/-! ## Numbers -/

/-- Takes digits into a significand while it stays below 2^64. The answer is the significand, how
many digits were taken, how many were left over, and what follows the digits. -/
def takeDigits (significand : Nat) : List Char → Nat × Nat × Nat × List Char
  | [] => (significand, 0, 0, [])
  | c :: rest =>
    if isDigit c then
      if significand * 10 + digitValue c < UInt64.size then
        let (s, taken, left, after) := takeDigits (significand * 10 + digitValue c) rest
        (s, taken + 1, left, after)
      else (significand, 0, ((c :: rest).takeWhile isDigit).length, (c :: rest).dropWhile isDigit)
    else (significand, 0, 0, c :: rest)

/-- A power of ten as a floating-point number; from 10^309 on there is none. -/
def powerOfTen (e : Nat) : Float := Float.ofScientific 1 false e

/-- A number divided by a power of ten, in steps that the floating-point range holds. -/
def scaleDown : Nat → Float → Nat → Float
  | 0, x, e => x / powerOfTen e
  | steps + 1, x, e =>
    if e ≤ 308 then x / powerOfTen e
    else if x == 0 then x
    else scaleDown steps (x / powerOfTen 308) (e - 308)

/-- The floating-point number of a significand below 2^64 and a decimal exponent: the significand is
rounded first, and then scaled. None where it lies beyond the range. -/
def scaled? (significand : Nat) (exponent : Int) : Option Float :=
  let x := Float.ofNat significand
  if 0 ≤ exponent then
    if exponent ≤ 308 then
      let y := x * powerOfTen exponent.toNat
      if y.isInf then none else some y
    else if significand = 0 then some x
    else none
  else some (scaleDown ((-exponent).toNat / 308) x (-exponent).toNat)

/-- The sign of an exponent, and what follows it. -/
def exponentSign : List Char → Bool × List Char
  | '+' :: rest => (false, rest)
  | '-' :: rest => (true, rest)
  | s => (false, s)

/-- An exponent, `e` or `E` being read already, and what follows it. -/
def exponent? (s : List Char) : Option (Int × List Char) :=
  let (negative, rest) := exponentSign s
  let digits := rest.takeWhile isDigit
  if digits.isEmpty then none
  else
    let n : Int := natOfDigits digits
    some (if negative then -n else n, rest.dropWhile isDigit)

/-- The number written with a significand, an exponent of its last digit, and a text that may go on
with an exponent. The outer option is whether the text is well formed. -/
def finishFloat? (negative : Bool) (significand : Nat) (exponent : Int) (after : List Char) :
    Option (Option Number × List Char) :=
  let value (e : Int) : Option Number :=
    (scaled? significand e).map fun x => .float (if negative then -x else x)
  match after with
  | 'e' :: rest | 'E' :: rest =>
    (exponent? rest).map fun (e, after) => (value (exponent + e), after)
  | _ => some (value exponent, after)

/-- An integer: one that its range does not hold, and the negative zero, are floating-point. -/
def integer (negative : Bool) (n : Nat) : Number :=
  if !negative then .natural n
  else if n = 0 || UInt64.size / 2 < n then .float (-Float.ofNat n)
  else .negative n

/-- A number, its minus sign being read already, and what follows it. The first digit is a zero only
where it is the only digit in front of the point. -/
def unsigned? (negative : Bool) (s : List Char) : Option (Option Number × List Char) :=
  match s with
  | '0' :: c :: _ => if isDigit c then none else unsignedDigits
  | _ => unsignedDigits
where
  unsignedDigits : Option (Option Number × List Char) :=
    let (whole, taken, left, after) := takeDigits 0 s
    if taken = 0 then none
    else match after with
      | '.' :: fraction =>
        let (significand, places, dropped, after) := takeDigits whole fraction
        if places + dropped = 0 then none
        else finishFloat? negative significand ((left : Int) - places) after
      | 'e' :: _ | 'E' :: _ => finishFloat? negative whole left after
      | _ =>
        if left = 0 then some (some (integer negative whole), after)
        else finishFloat? negative whole left after

/-- A number and what follows it. -/
def number? : List Char → Option (Option Number × List Char)
  | '-' :: rest => unsigned? true rest
  | s => unsigned? false s

/-! ## Tokens -/

/-- Whether a character may stand between tokens. -/
def isSpace (c : Char) : Bool := c = ' ' || c = '\t' || c = '\n' || c = '\r'

/-- The first token of a text that starts with `c`, and what follows it. -/
def token? (c : Char) (rest : List Char) : Option (Token × List Char) :=
  match c, rest with
  | '[', _ => some (.openArray, rest)
  | ']', _ => some (.closeArray, rest)
  | '\x7b', _ => some (.openObject, rest)
  | '\x7d', _ => some (.closeObject, rest)
  | ':', _ => some (.colon, rest)
  | ',', _ => some (.comma, rest)
  | 'n', 'u' :: 'l' :: 'l' :: after => some (.null, after)
  | 't', 'r' :: 'u' :: 'e' :: after => some (.bool true, after)
  | 'f', 'a' :: 'l' :: 's' :: 'e' :: after => some (.bool false, after)
  | '"', _ => (quotedPieces? rest).map fun (pieces, after) =>
      (.string ((pieceText? pieces).map String.ofList), after)
  | _, _ => (number? (c :: rest)).map fun (n, after) => (.number n, after)

/-- The tokens of a text, at most `bound` of them. -/
def tokensWithin : Nat → List Char → List Token
  | 0, _ => []
  | bound + 1, s =>
    match s.dropWhile isSpace with
    | [] => []
    | c :: rest =>
      match token? c rest with
      | some (t, after) => t :: tokensWithin bound after
      | none => [.fault]

/-- The tokens of a text. No token is empty, so there are at most as many as characters. -/
def tokens (s : List Char) : List Token := tokensWithin s.length s

end PageStudio.Json
