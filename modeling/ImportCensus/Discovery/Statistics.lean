import ImportCensus.Discovery.Listing
import ImportCensus.Number.Size
/-!
# Counting files

How many files a listing has, how large they are together, and how many there are of each
extension.
-/

namespace ImportCensus.Discovery

structure Statistics where
  files : Nat
  /-- The sum of the sizes, counted in 64 bits. -/
  size : Nat
  /-- The number of files of each extension. -/
  byExtension : List (Text × Nat)
  deriving DecidableEq, Repr

namespace Statistics

def key (f : SourceFile) : Text :=
  if f.extension.isEmpty then "no_extension" else f.extension

def countKey (key : Text) : List (Text × Nat) → List (Text × Nat)
  | [] => [(key, 1)]
  | (k, n) :: rest => if k = key then (k, n + 1) :: rest else (k, n) :: countKey key rest

def sizeBound : Nat := Nat.pow 2 64

def ofFiles (files : List SourceFile) : Statistics where
  files := files.length
  size := files.foldr (fun f total => f.size + total) 0 % sizeBound
  byExtension := files.foldl (fun counts f => countKey (key f) counts) []

/-- The order of counts: the larger first, and by name among equals. -/
def countLe (a b : Text × Nat) : Bool :=
  b.2 < a.2 || (a.2 = b.2 && !List.lex b.1 a.1 (· < ·))

def countText (c : Text × Nat) : Text :=
  ", " ++ c.1 ++ ": " ++ Text.ofNat c.2

def summary (s : Statistics) : Text :=
  "Scan results: " ++ Text.ofNat s.files ++ " files, " ++ Number.sizeText s.size ++
    (s.byExtension.mergeSort countLe).flatMap countText

end Statistics

end ImportCensus.Discovery
