import ImportCensus.Text.Basic
/-!
# Blanks and line ends

The character classes that decide what is trimmed and where a statement may break: the
`White_Space` property, the blanks around an import symbol, and the line terminators.
-/

namespace ImportCensus.Text

def isWhiteSpace (c : Char) : Bool :=
  let n := c.toNat
  (0x09 ≤ n && n ≤ 0x0D) || n = 0x20 || n = 0x85 || n = 0xA0 || n = 0x1680 ||
    (0x2000 ≤ n && n ≤ 0x200A) || n = 0x2028 || n = 0x2029 || n = 0x202F || n = 0x205F ||
    n = 0x3000

/-- A blank around an import symbol: white space other than NEXT LINE, or a byte-order mark. -/
def isBlank (c : Char) : Bool :=
  (isWhiteSpace c && c != '\u0085') || c == '\ufeff'

def isLineEnd (c : Char) : Bool :=
  c == '\n' || c == '\r' || c == '\u2028' || c == '\u2029'

def isAllWhite (text : Text) : Bool :=
  text.all isWhiteSpace

end ImportCensus.Text
