import ImportCensus.Statement.Clause
/-!
# Fragments

A fragment is a piece of source text believed to hold symbols between commas: a whole import
line, of which the clause counts, or text gathered before a line that names the package.
-/

namespace ImportCensus.Statement

inductive Fragment
  /-- An import line that belongs to the wanted package. -/
  | captured (line : Text)
  /-- Text gathered over several lines, taken as it is. -/
  | raw (text : Text)
  deriving DecidableEq, Repr

namespace Fragment

/-- The text between whose commas the symbols stand: the clause without its first opening and
its first closing brace, or the gathered text. -/
def symbolList : Fragment → Text
  | captured line => (((clause? line).getD []).erase '{').erase '}'
  | raw text => text

def symbols (fragment : Fragment) : List Text :=
  (Text.splitOn ',' fragment.symbolList).map (Text.trim Text.isBlank)

end Fragment

end ImportCensus.Statement
