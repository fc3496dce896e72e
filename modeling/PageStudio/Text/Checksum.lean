/-!
# Checksums

The 32-bit cyclic redundancy check of a text's UTF-8 bytes, with the reflected polynomial
`0xEDB88320`, written in hexadecimal.
-/

namespace PageStudio.Text

/-- One bit of the check: a shift, and the polynomial when a one is shifted out. -/
def checkBit (crc : UInt32) : UInt32 :=
  if crc &&& 1 = 1 then (crc >>> 1) ^^^ 0xEDB88320 else crc >>> 1

/-- One byte of the check: eight bits. -/
def checkByte (crc : UInt32) (byte : UInt8) : UInt32 :=
  let c := crc ^^^ byte.toUInt32
  checkBit (checkBit (checkBit (checkBit (checkBit (checkBit (checkBit (checkBit c)))))))

/-- The check of a text: all ones at the start, and the complement at the end. -/
def checksum (s : String) : UInt32 :=
  s.toUTF8.toList.foldl checkByte 0xFFFFFFFF ^^^ 0xFFFFFFFF

/-- The checksum in lower-case hexadecimal digits, without leading zeros. -/
def checksumHex (s : String) : String :=
  String.ofList (Nat.toDigits 16 (checksum s).toNat)

end PageStudio.Text
