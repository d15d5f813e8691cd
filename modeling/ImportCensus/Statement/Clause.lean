import ImportCensus.Text.Blank
/-!
# The clause of an import line

The symbol list of a line `import … from …`: the text between the keyword with its blank and the
last point of the same line where an optional `}`, a blank and the word `from` follow.  The
leftmost start wins, and for it the farthest end.
-/

namespace ImportCensus.Statement

def keyword : Text := ['i', 'm', 'p', 'o', 'r', 't']

def fromWord : Text := ['f', 'r', 'o', 'm']

def mentionsImport (line : Text) : Bool :=
  Text.occursIn keyword line

def afterKeyword? (s : Text) : Option Text :=
  if keyword.isPrefixOf s then
    match s.drop keyword.length with
    | c :: rest => if Text.isBlank c then some rest else none
    | [] => none
  else none

/-- The starts that a text after keyword and blank offers: itself, and what follows an opening
brace. -/
def startsAt (s : Text) : List Text :=
  match s with
  | '{' :: rest => [s, rest]
  | _ => [s]

def clauseStarts : Text → List Text
  | [] => []
  | c :: rest =>
    match afterKeyword? (c :: rest) with
    | some s => startsAt s ++ clauseStarts rest
    | none => clauseStarts rest

/-- Whether a clause may end where `rest` follows: an optional `}`, a blank, and `from`. -/
def endsBefore (rest : Text) : Bool :=
  match Text.dropLead ['}'] rest with
  | c :: word => Text.isBlank c && fromWord.isPrefixOf word
  | [] => false

/-- The longest clause at the start of `s` that stays on its line and may end where it does. -/
def longestClause? : Text → Option Text
  | [] => none
  | c :: rest =>
    match if Text.isLineEnd c then none else longestClause? rest with
    | some clause => some (c :: clause)
    | none => if endsBefore (c :: rest) then some [] else none

def clause? (line : Text) : Option Text :=
  (clauseStarts line).findSome? longestClause?

end ImportCensus.Statement
