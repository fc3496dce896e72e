/-!
# Percent encoding

Text inside a query of a web address: ASCII letters and digits stand for themselves, and every other
byte of the UTF-8 form is a percent sign with two upper-case hexadecimal digits.
-/

namespace PageStudio.Text

/-- A hexadecimal digit in upper case. -/
def upperHexDigit (n : Nat) : Char :=
  if n < 10 then Char.ofNat (48 + n) else Char.ofNat (55 + n)

/-- The encoded form of one byte. -/
def percentByte (b : UInt8) : List Char :=
  let c := Char.ofNat b.toNat
  if b < 128 && c.isAlphanum then [c]
  else ['%', upperHexDigit (b.toNat / 16), upperHexDigit (b.toNat % 16)]

/-- The encoded form of a text. -/
def percentEncode (s : String) : String :=
  String.ofList (s.toUTF8.toList.flatMap percentByte)

end PageStudio.Text
