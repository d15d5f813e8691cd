import ImportCensus.Text.Lowercase
import ImportCensus.Text.HiddenTable
/-!
# Quoted text

A text between double quotes on one line: quotes and backslashes are escaped, and every
character that has no glyph of its own is shown by its number.
-/

namespace ImportCensus.Text

def isHidden (c : Char) : Bool :=
  c.toNat < 0x20 || c.toNat = 0x7F || inRanges HiddenTable.ranges c.toNat

def quotedChar (c : Char) : Text :=
  if c = '"' then ['\\', '"']
  else if c = '\\' then ['\\', '\\']
  else if c = '\t' then ['\\', 't']
  else if c = '\r' then ['\\', 'r']
  else if c = '\n' then ['\\', 'n']
  else if c = '\x00' then ['\\', '0']
  else if isHidden c then ['\\', 'u', '\x7b'] ++ Nat.toDigits 16 c.toNat ++ ['\x7d']
  else [c]

def quoted (text : Text) : Text :=
  '"' :: text.flatMap quotedChar ++ ['"']

end ImportCensus.Text
