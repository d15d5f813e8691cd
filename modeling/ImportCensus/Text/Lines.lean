import ImportCensus.Text.Basic
/-!
# Lines

A text is cut into lines by one separator, chosen once for the whole text: carriage return and
line feed if that pair is found anywhere, else line feed.  Lines are not trimmed.
-/

namespace ImportCensus.Text

def splitCrLf : Text → List Text
  | [] => [[]]
  | '\r' :: '\n' :: rest => [] :: splitCrLf rest
  | c :: rest =>
    match splitCrLf rest with
    | [] => [[c]]
    | line :: lines => (c :: line) :: lines

def crLf : Text := ['\r', '\n']

def lines (text : Text) : List Text :=
  if occursIn crLf text then splitCrLf text else splitOn '\n' text

end ImportCensus.Text
