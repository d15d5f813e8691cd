import ImportCensus.Text.LetterTable
import ImportCensus.Text.Lowercase
/-!
# Letters and numbers

The characters that words and names are made of, in all scripts.
-/

namespace ImportCensus.Text

def isLetter (c : Char) : Bool :=
  c.isAlpha || inRanges LetterTable.letterRanges c.toNat

def isNumber (c : Char) : Bool :=
  c.isDigit || inRanges LetterTable.numberRanges c.toNat

def isLetterOrNumber (c : Char) : Bool :=
  isLetter c || isNumber c

end ImportCensus.Text
