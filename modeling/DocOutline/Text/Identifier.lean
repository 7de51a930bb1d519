import DocOutline.Text.Word

/-!
# Identifiers

Which characters a Python identifier starts and goes on with: letters and word characters, apart
from a few that do not keep this property under compatibility normalisation, and with a few that
are admitted for old identifiers.
-/

namespace DocOutline

/-- Letters that start no identifier. -/
def nonStartRanges : Ranges :=
  [(0x37A, 0x37A), (0xE33, 0xE33), (0xEB3, 0xEB3), (0x2E2F, 0x2E2F), (0xFC5E, 0xFC63),
  (0xFDFA, 0xFDFB), (0xFE70, 0xFE70), (0xFE72, 0xFE72), (0xFE74, 0xFE74), (0xFE76, 0xFE76),
  (0xFE78, 0xFE78), (0xFE7A, 0xFE7A), (0xFE7C, 0xFE7C), (0xFE7E, 0xFE7E), (0xFF9E, 0xFF9F)]

/-- Characters other than letters that start an identifier. -/
def otherStartRanges : Ranges :=
  [(0x5F, 0x5F), (0x1885, 0x1886), (0x2118, 0x2118), (0x212E, 0x212E)]

/-- Word characters that are no part of an identifier. -/
def nonContinueRanges : Ranges :=
  [(0x37A, 0x37A), (0x488, 0x489), (0x1ABE, 0x1ABE), (0x200C, 0x200D), (0x20DD, 0x20E0),
  (0x20E2, 0x20E4), (0x24B6, 0x24E9), (0x2E2F, 0x2E2F), (0xA670, 0xA672), (0xFC5E, 0xFC63),
  (0xFDFA, 0xFDFB), (0xFE70, 0xFE70), (0xFE72, 0xFE72), (0xFE74, 0xFE74), (0xFE76, 0xFE76),
  (0xFE78, 0xFE78), (0xFE7A, 0xFE7A), (0xFE7C, 0xFE7C), (0xFE7E, 0xFE7E), (0x1F130, 0x1F149),
  (0x1F150, 0x1F169), (0x1F170, 0x1F189)]

/-- Characters other than word characters that are part of an identifier. -/
def otherContinueRanges : Ranges :=
  [(0xB7, 0xB7), (0x387, 0x387), (0x1369, 0x1371), (0x19DA, 0x19DA), (0x2118, 0x2118),
  (0x212E, 0x212E)]

/-- Whether a character can start an identifier. -/
def isIdentifierStart (c : Char) : Bool :=
  (isLetter c && !nonStartRanges.holds c.toNat) || otherStartRanges.holds c.toNat

/-- Whether a character can stand in an identifier behind the first one. -/
def isIdentifierPart (c : Char) : Bool :=
  (isWord c && !nonContinueRanges.holds c.toNat) || otherContinueRanges.holds c.toNat

end DocOutline
