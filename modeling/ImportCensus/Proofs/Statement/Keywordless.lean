import ImportCensus.Proofs.Statement.Scanner
import ImportCensus.Proofs.Statement.Symbol
/-!
# Texts without the keyword

What a text without statements gives.  Its first line may be gathered and no other one, so every
wanted line gives one fragment: the first of them what was gathered, and each further one nothing
but an empty symbol.  A text gives no symbol at all only if none of its lines is wanted.
-/

namespace ImportCensus.Statement

variable {package : PackageFilter} {text : Text} {lines : List Text}

/-- What is gathered of a text without the keyword: its first line, unless that is wanted. -/
def gathered (package : PackageFilter) : List Text → Text
  | line :: _ => if package.admits line then [] else line
  | [] => []

theorem closes_of_admits {line : Text} (hi : mentionsImport line = false)
    (ha : package.admits line = true) : package.closes line = true :=
  PackageFilter.closes_iff.mpr ⟨hi, ha⟩

theorem passes_of_not_admits {line : Text} (hi : mentionsImport line = false)
    (ha : package.admits line = false) : package.passes line = true :=
  PackageFilter.passes_iff.mpr ⟨hi, ha⟩

namespace Scanner

variable {s : Scanner}

theorem fragments_run_of_not_continuing (hcontinuing : s.continuing = false)
    (hbuffer : mentionsImport s.buffer = false) (h : ∀ line ∈ lines, mentionsImport line = false) :
    (s.run package lines).fragments = s.fragments ++
      ((s.buffer :: List.replicate (lines.countP package.admits) []).take
        (lines.countP package.admits)).map .raw := by
  induction lines generalizing s with
  | nil => simp
  | cons line lines ih =>
    obtain ⟨hi, hrest⟩ := List.forall_mem_cons.mp h
    have hrun : s.run package (line :: lines) = (s.step package line).run package lines := rfl
    cases ha : package.admits line with
    | true =>
      have hstep := step_closes (s := s) (closes_of_admits hi ha)
      rw [hrun, ih (by rw [hstep]) (by rw [hstep, mentionsImport_nil]) hrest, hstep,
        List.countP_cons_of_pos ha]
      simp [← List.replicate_succ]
    | false =>
      have hstep := step_passes_of_not_continuing hcontinuing hbuffer (passes_of_not_admits hi ha)
      rw [hrun, hstep, ih hcontinuing hbuffer hrest, List.countP_cons_of_neg (by simp [ha])]

end Scanner

theorem mentionsImport_gathered (h : ∀ line ∈ lines, mentionsImport line = false) :
    mentionsImport (gathered package lines) = false := by
  unfold gathered
  split
  · split
    · rfl
    · exact h _ List.mem_cons_self
  · rfl

/-- To begin with a line to gather is as good as to have gathered it and to gather no more. -/
theorem run_start {line : Text} (hi : mentionsImport line = false) :
    Scanner.run {} package (line :: lines) =
      Scanner.run { buffer := gathered package (line :: lines), continuing := false } package
        (line :: lines) := by
  have hstep : Scanner.step {} package line =
      Scanner.step { buffer := gathered package (line :: lines), continuing := false } package
        line := by
    cases ha : package.admits line with
    | true =>
      have hc := closes_of_admits hi ha
      rw [Scanner.step_closes hc, Scanner.step_closes hc]
      simp [gathered, ha]
    | false =>
      have hp := passes_of_not_admits hi ha
      rw [Scanner.step_passes hp, Scanner.step_passes hp]
      simp [Scanner.fresh, gathered, ha, hi]
  exact congrArg (Scanner.run · package lines) hstep

theorem fragments_of_not_mentionsImport
    (h : ∀ line ∈ Text.lines text, mentionsImport line = false) :
    fragments package text =
      ((gathered package (Text.lines text) ::
          List.replicate ((Text.lines text).countP package.admits) []).take
        ((Text.lines text).countP package.admits)).map .raw := by
  rw [fragments]
  cases hlines : Text.lines text with
  | nil => rfl
  | cons line lines =>
    rw [hlines] at h
    have hgathered : mentionsImport (gathered package (line :: lines)) = false :=
      mentionsImport_gathered h
    rw [run_start (h line List.mem_cons_self),
      Scanner.fragments_run_of_not_continuing rfl hgathered h, List.nil_append]

namespace Fragment

theorem symbols_raw_nil : (Fragment.raw []).symbols = [[]] := rfl

theorem symbols_ne_nil (fragment : Fragment) : fragment.symbols ≠ [] := by
  simp [symbols, Text.splitOn_ne_nil]

end Fragment

/-- Without the keyword a text gives no symbol exactly if none of its lines is wanted.  Otherwise
it gives those of its first line, unless that is wanted itself, for the first wanted line, and one
empty symbol for each further one. -/
theorem imports_of_not_mentionsImport (package : PackageFilter)
    (h : ∀ line ∈ Text.lines text, mentionsImport line = false) :
    (imports package text = [] ↔ ∀ line ∈ Text.lines text, package.admits line = false) ∧
      ∀ n, (Text.lines text).countP package.admits = n + 1 →
        imports package text =
          (Fragment.raw (gathered package (Text.lines text))).symbols ++ List.replicate n [] := by
  have hfragments : fragments package text = _ := fragments_of_not_mentionsImport h
  have hsome : ∀ n, (Text.lines text).countP package.admits = n + 1 →
      imports package text =
        (Fragment.raw (gathered package (Text.lines text))).symbols ++ List.replicate n [] := by
    intro n hn
    rw [imports, hfragments, hn, List.take_succ_cons]
    simp [Fragment.symbols_raw_nil, List.flatMap_replicate]
  have hnone : (∀ line ∈ Text.lines text, package.admits line = false) ↔
      (Text.lines text).countP package.admits = 0 := by
    simp [List.countP_eq_zero]
  refine ⟨?_, hsome⟩
  rw [hnone]
  cases hcount : (Text.lines text).countP package.admits with
  | zero =>
    rw [imports, hfragments, hcount]
    simp
  | succ n => simp [hsome n hcount, Fragment.symbols_ne_nil]

theorem imports_of_not_mentionsImport_header :
    (∀ line ∈ Text.lines "// header\n\x7d from 'x'\n\x7d from 'y'",
      mentionsImport line = false) ∧
      imports none "// header\n\x7d from 'x'\n\x7d from 'y'" = ["// header".toList, []] := by
  have hlines : Text.lines "// header\n\x7d from 'x'\n\x7d from 'y'" =
      ["// header".toList, "\x7d from 'x'".toList, "\x7d from 'y'".toList] := by decide
  have h : ∀ line ∈ Text.lines "// header\n\x7d from 'x'\n\x7d from 'y'",
      mentionsImport line = false := by
    rw [hlines]
    decide
  refine ⟨h, ((imports_of_not_mentionsImport none h).2 1 ?_).trans ?_⟩
  · rw [hlines]
    decide
  · rw [hlines]
    decide

/-- The end of a statement gives the first line out, though no line has the keyword. -/
theorem not_imports_eq_nil_header :
    ¬ ∀ text : Text, (∀ line ∈ Text.lines text, mentionsImport line = false) →
      imports none text = [] := by
  intro h
  have hlines : Text.lines "// header\n\x7d from 'x'" =
      ["// header".toList, "\x7d from 'x'".toList] := by decide
  have himports : imports none "// header\n\x7d from 'x'" = ["// header".toList] := by decide
  rw [h "// header\n\x7d from 'x'" (by rw [hlines]; decide)] at himports
  cases himports

end ImportCensus.Statement
