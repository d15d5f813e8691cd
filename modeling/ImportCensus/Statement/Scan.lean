import ImportCensus.Statement.Fragment
import ImportCensus.Statement.Package
import ImportCensus.Text.Lines
/-!
# Scanning lines for imports

The scanner reads a file line by line.  It keeps the text gathered since the last match and a
flag: whether the next line without the keyword may still be gathered.
-/

namespace ImportCensus.Statement

structure Scanner where
  /-- The text gathered so far. -/
  buffer : Text := []
  /-- Whether the next line without the keyword is gathered. -/
  continuing : Bool := true
  /-- The fragments found so far, in the order of their lines. -/
  fragments : List Fragment := []
  deriving DecidableEq, Repr

namespace Scanner

/-- Reads a line with the keyword: a match is a fragment of its own, any other is gathered. -/
def stepImport (s : Scanner) (admitted : Bool) (line : Text) : Scanner :=
  if admitted then
    { s with continuing := false, fragments := s.fragments ++ [.captured line] }
  else
    { s with continuing := true, buffer := s.buffer ++ line }

def flush (s : Scanner) : Scanner :=
  { buffer := [], continuing := false, fragments := s.fragments ++ [.raw s.buffer] }

/-- Forgets gathered text that holds the keyword: its statement never matched. -/
def dropStale (s : Scanner) : Scanner :=
  if mentionsImport s.buffer then { s with buffer := [] } else s

def gather (s : Scanner) (line : Text) : Scanner :=
  if s.continuing then { s with continuing := false, buffer := s.buffer ++ line } else s

/-- Reads a line without the keyword: a match gives out what was gathered, and at most one such
line is gathered after each import line. -/
def stepOther (s : Scanner) (admitted : Bool) (line : Text) : Scanner :=
  ((if admitted then s.flush else s).dropStale).gather line

def step (s : Scanner) (package : PackageFilter) (line : Text) : Scanner :=
  if mentionsImport line then s.stepImport (package.admits line) line
  else s.stepOther (package.admits line) line

def run (s : Scanner) (package : PackageFilter) (lines : List Text) : Scanner :=
  lines.foldl (fun s line => s.step package line) s

end Scanner

def fragments (package : PackageFilter) (text : Text) : List Fragment :=
  (Scanner.run {} package (Text.lines text)).fragments

def imports (package : PackageFilter) (text : Text) : List Text :=
  (fragments package text).flatMap Fragment.symbols

end ImportCensus.Statement
