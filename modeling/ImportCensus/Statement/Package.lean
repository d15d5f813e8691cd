import ImportCensus.Text.Blank
/-!
# The package filter

A line belongs to the wanted package when it ends with the filter text.  Without a filter any
line will do that names a module in single quotes after `from`.
-/

namespace ImportCensus.Statement

/-- The wanted package: the text that its lines end with.  Absent or empty, it is no filter. -/
abbrev PackageFilter := Option Text

def fromQuote : Text := ['f', 'r', 'o', 'm', ' ', '\'']

def closesQuote (s : Text) : Bool :=
  match s.dropWhile fun c => c != '\'' && !Text.isLineEnd c with
  | c :: _ => c == '\''
  | [] => false

def namesModule : Text → Bool
  | [] => false
  | c :: rest =>
    (fromQuote.isPrefixOf (c :: rest) && closesQuote ((c :: rest).drop fromQuote.length)) ||
      namesModule rest

def PackageFilter.admits : PackageFilter → Text → Bool
  | none, line => namesModule line
  | some [], line => namesModule line
  | some name, line => name.isSuffixOf line

end ImportCensus.Statement
