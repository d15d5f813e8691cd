import ImportCensus.Text.Basic
/-!
# Styled text

Terminal text in colour or bold: the styles are switched on before it and off behind it.
-/

namespace ImportCensus.Console

inductive Style
  | bold
  | red
  | green
  | yellow
  | cyan
  deriving DecidableEq, Repr

namespace Style

def code : Style → Nat
  | bold => 1
  | red => 31
  | green => 32
  | yellow => 33
  | cyan => 36

end Style

def switchTo (code : Nat) : Text :=
  '\x1b' :: '[' :: Text.ofNat code ++ ['m']

def paint (styles : List Style) (text : Text) : Text :=
  styles.flatMap (fun s => switchTo s.code) ++ text ++ switchTo 0

end ImportCensus.Console
