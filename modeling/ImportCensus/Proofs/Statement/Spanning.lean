import ImportCensus.Proofs.Statement.Scanner
/-!
# Statements over several lines

A statement opens on a line with the keyword and closes on a wanted line without it.  Whatever a
scanner held before, it is empty afterwards and gathers no more; and of the lines between the two
it gives out the first one only.
-/

namespace ImportCensus.Statement

namespace Scanner

variable {s : Scanner} {package : PackageFilter} {opening first closing : Text}
  {between lines : List Text}

theorem run_passes (hcontinuing : s.continuing = false)
    (hbuffer : mentionsImport s.buffer = false)
    (h : ∀ line ∈ lines, package.passes line = true) : s.run package lines = s := by
  induction lines with
  | nil => rfl
  | cons line lines ih =>
    obtain ⟨hline, hrest⟩ := List.forall_mem_cons.mp h
    calc s.run package (line :: lines)
        = (s.step package line).run package lines := rfl
      _ = s.run package lines := by
          rw [step_passes_of_not_continuing hcontinuing hbuffer hline]
      _ = s := ih hrest

/-- The line behind an opening one takes the place of all that was gathered, and stays. -/
theorem run_opens_passes (ho : package.opens opening = true)
    (h : ∀ line ∈ first :: lines, package.passes line = true) :
    s.run package (opening :: first :: lines) =
      { s with buffer := first, continuing := false } := by
  obtain ⟨hfirst, hlines⟩ := List.forall_mem_cons.mp h
  have hstale : mentionsImport (s.buffer ++ opening) = true :=
    mentionsImport_of_isInfix (List.suffix_append _ _).isInfix (PackageFilter.opens_iff.mp ho).1
  have htwo : (s.step package opening).step package first =
      { s with buffer := first, continuing := false } := by
    rw [step_opens ho, step_passes hfirst, fresh, if_pos hstale]
    rfl
  calc s.run package (opening :: first :: lines)
      = ((s.step package opening).step package first).run package lines := rfl
    _ = { s with buffer := first, continuing := false } := by
        rw [htwo]
        exact run_passes rfl (PackageFilter.passes_iff.mp hfirst).1 hlines

/-- From any state a statement over several lines gives one fragment and leaves the scanner empty
and gathering no more.  The fragment is the first line between the two ends, whatever was gathered
before and however many lines follow.  Only where there is no such line does it hold what was
gathered before, with the opening line. -/
theorem run_spanning (s : Scanner) (ho : package.opens opening = true)
    (hb : ∀ line ∈ between, package.passes line = true) (hc : package.closes closing = true) :
    s.run package (opening :: between ++ [closing]) =
      { buffer := []
        continuing := false
        fragments := s.fragments ++ [.raw (between.headD (s.buffer ++ opening))] } := by
  rw [run_concat, step_closes hc]
  cases between with
  | nil =>
    rw [show s.run package [opening] = s.step package opening from rfl, step_opens ho]
    rfl
  | cons first lines =>
    rw [run_opens_passes ho hb]
    rfl

/-- A scanner that has gathered another statement reads one with three lines between its ends. -/
theorem run_spanning_three :
    Scanner.run { buffer := "import \x7bz,", continuing := true, fragments := [] } none
        ("import \x7b".toList :: ["  a,".toList, "  b,".toList, "  c".toList] ++
          ["\x7d from 'pkg'".toList]) =
      { buffer := [], continuing := false, fragments := [.raw "  a,"] } :=
  run_spanning _ (by decide) (by decide) (by decide)

end Scanner

end ImportCensus.Statement
