import ImportCensus.Proofs.Statement.RoundTrip
/-!
# Line ends that make no difference

As long as all line ends of a text are of one kind it does not matter of which, nor how many of
them stand behind its last line: an empty line is never wanted, so it gives nothing out, whatever
has been gathered.
-/

namespace ImportCensus.Statement

section LineEnds

variable {package : PackageFilter} {text text' : Text}

theorem passes_nil (package : PackageFilter) : package.passes [] = true :=
  PackageFilter.passes_iff.mpr ⟨mentionsImport_nil, admits_nil package⟩

theorem imports_of_lines_append {n : Nat}
    (h : Text.lines text' = Text.lines text ++ List.replicate n []) :
    imports package text' = imports package text := by
  have hfragments : fragments package text' = fragments package text := by
    rw [fragments, h, Scanner.run_append, Scanner.fragments_run_of_passes, fragments]
    intro line hline
    rw [List.eq_of_mem_replicate hline]
    exact passes_nil package
  rw [imports, hfragments, imports]

/-- A text without carriage returns gives the same symbols with a pair of carriage return and line
feed in place of every line feed, and either form does with any number of line ends of its kind
behind it.  A text without line feeds has both forms in one.  The filter may be any. -/
theorem imports_of_uniform_lineEnds (package : PackageFilter) (h : '\r' ∉ text) (n : Nat) :
    imports package (text ++ List.replicate n '\n') = imports package text ∧
    imports package (Text.withCrLf text ++ (List.replicate n Text.crLf).flatten) =
      imports package text ∧
    ('\n' ∉ text →
      imports package (text ++ (List.replicate n Text.crLf).flatten) = imports package text) := by
  have hpairs : imports package (Text.withCrLf text ++ (List.replicate n Text.crLf).flatten) =
      imports package text := imports_of_lines_append (Text.lines_withCrLf_append h n)
  refine ⟨imports_of_lines_append (Text.lines_append_lineFeeds h n), hpairs, fun hfeed => ?_⟩
  rwa [Text.withCrLf_of_not_mem hfeed] at hpairs

/-- The text ends within a statement. -/
theorem imports_of_uniform_lineEnds_open :
    '\r' ∉ "import \x7ba,\n  b\x7d from 'x'\nimport \x7bc".toList ∧
      imports none "import \x7ba,\r\n  b\x7d from 'x'\r\nimport \x7bc\r\n\r\n" =
        ["import \x7ba".toList, []] := by
  have h : '\r' ∉ "import \x7ba,\n  b\x7d from 'x'\nimport \x7bc".toList := by decide
  have htext : "import \x7ba,\r\n  b\x7d from 'x'\r\nimport \x7bc\r\n\r\n".toList =
      Text.withCrLf "import \x7ba,\n  b\x7d from 'x'\nimport \x7bc" ++
        (List.replicate 2 Text.crLf).flatten := by decide
  refine ⟨h, ?_⟩
  rw [htext, (imports_of_uniform_lineEnds none h 2).2.1]
  decide

end LineEnds

end ImportCensus.Statement
