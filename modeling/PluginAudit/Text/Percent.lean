import PluginAudit.Text.Utf8

/-!
# Percent-encoded text

Decoding of `%XX` escapes in addresses.  A percent sign that two hexadecimal
digits do not follow stands for itself.
-/

namespace PluginAudit.Text.Percent

/-- The value of a hexadecimal digit given as a byte. -/
def hexValue? (b : UInt8) : Option UInt8 :=
  if 0x30 ≤ b && b ≤ 0x39 then some (b - 0x30)
  else if 0x41 ≤ b && b ≤ 0x46 then some (b - 0x41 + 10)
  else if 0x61 ≤ b && b ≤ 0x66 then some (b - 0x61 + 10)
  else none

/-- The bytes that a byte sequence with escapes stands for. -/
def decodeBytes : List UInt8 → List UInt8
  | [] => []
  | [b] => [b]
  | [b, c] => [b, c]
  | b :: high :: low :: rest =>
      if b == 0x25 then
        match hexValue? high, hexValue? low with
        | some h, some l => (h * 16 + l) :: decodeBytes rest
        | _, _ => b :: decodeBytes (high :: low :: rest)
      else b :: decodeBytes (high :: low :: rest)
termination_by bytes => bytes.length

/-- The text that a text with escapes stands for. -/
def decode (text : List Char) : List Char :=
  Utf8.decodeLossy (decodeBytes (Utf8.encode text))

end PluginAudit.Text.Percent
