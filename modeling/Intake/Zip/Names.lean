import Intake.Text.Utf8

/-!
# Names of entries

The name of an entry is text in UTF-8 when its flags say so, with replacement characters where its
bytes are not. Without the flag each byte is a character of its own: ASCII below 128, and above it
the character at that place of a fixed list.
-/

namespace Intake.Zip

/-- The characters of the bytes from 128 on. -/
def upperCharacters : String :=
  "ÇüéâäàåçêëèïîìÄÅÉæÆôöòûùÿÖÜ¢£¥₧ƒáíóúñÑªº¿⌐¬½¼¡«»░▒▓│┤╡╢╖╕╣║╗╝╜╛┐└┴┬├─┼╞╟╚╔╩╦╠═╬╧╨╤╥╙╘╒╓╫╪" ++
    "┘┌█▄▌▐▀αßΓπΣσµτΦΘΩδ∞φε∩≡±≥≤⌠⌡÷≈°∙·√ⁿ²■\u00a0"

/-- The character of a byte. -/
def characterOf (byte : UInt8) : Char :=
  if byte < 128 then Char.ofNat byte.toNat
  else (upperCharacters.toList[byte.toNat - 128]?).getD '?'

/-- The name that bytes spell. -/
def nameOf (isUtf8 : Bool) (b : ByteArray) : String :=
  if isUtf8 then Text.decodeLenient b
  else String.ofList (b.toList.map characterOf)

end Intake.Zip
