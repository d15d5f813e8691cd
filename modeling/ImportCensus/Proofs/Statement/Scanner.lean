import ImportCensus.Statement.Scan
/-!
# One line of the scanner

What a line does to the scanner depends on two questions only: whether it holds the keyword and
whether it belongs to the wanted package.  Each of the four answers has one equation here, so
that no later proof opens `Scanner.step`.
-/

namespace ImportCensus.Statement

/-- A line with the keyword that belongs to another package. -/
def PackageFilter.opens (package : PackageFilter) (line : Text) : Bool :=
  mentionsImport line && !package.admits line

/-- A line of the wanted package without the keyword. -/
def PackageFilter.closes (package : PackageFilter) (line : Text) : Bool :=
  !mentionsImport line && package.admits line

/-- A line of another package without the keyword. -/
def PackageFilter.passes (package : PackageFilter) (line : Text) : Bool :=
  !mentionsImport line && !package.admits line

namespace PackageFilter

variable {package : PackageFilter} {line : Text}

theorem opens_iff :
    package.opens line = true ↔ mentionsImport line = true ∧ package.admits line = false := by
  simp [opens]

theorem closes_iff :
    package.closes line = true ↔ mentionsImport line = false ∧ package.admits line = true := by
  simp [closes]

theorem passes_iff :
    package.passes line = true ↔ mentionsImport line = false ∧ package.admits line = false := by
  simp [passes]

end PackageFilter

theorem mentionsImport_iff {line : Text} : mentionsImport line = true ↔ keyword <:+: line :=
  Text.occursIn_iff

@[simp] theorem mentionsImport_nil : mentionsImport [] = false := rfl

theorem mentionsImport_of_isInfix {s t : Text} (h : s <:+: t) (hs : mentionsImport s = true) :
    mentionsImport t = true :=
  mentionsImport_iff.2 ((mentionsImport_iff.1 hs).trans h)

namespace Scanner

variable {s : Scanner} {package : PackageFilter} {line : Text}

theorem step_captured (hi : mentionsImport line = true) (ha : package.admits line = true) :
    s.step package line =
      { s with continuing := false, fragments := s.fragments ++ [.captured line] } := by
  simp [step, stepImport, hi, ha]

theorem step_opens (h : package.opens line = true) :
    s.step package line = { s with continuing := true, buffer := s.buffer ++ line } := by
  obtain ⟨hi, ha⟩ := PackageFilter.opens_iff.mp h
  simp [step, stepImport, hi, ha]

theorem step_closes (h : package.closes line = true) :
    s.step package line =
      { buffer := [], continuing := false, fragments := s.fragments ++ [.raw s.buffer] } := by
  obtain ⟨hi, ha⟩ := PackageFilter.closes_iff.mp h
  simp [step, stepOther, flush, dropStale, gather, hi, ha]

def fresh (s : Scanner) : Text :=
  if mentionsImport s.buffer then [] else s.buffer

theorem step_passes (h : package.passes line = true) :
    s.step package line =
      { s with continuing := false, buffer := s.fresh ++ if s.continuing then line else [] } := by
  obtain ⟨hi, ha⟩ := PackageFilter.passes_iff.mp h
  obtain ⟨buffer, continuing, fragments⟩ := s
  cases hb : mentionsImport buffer <;> cases continuing <;>
    simp [step, stepOther, dropStale, gather, fresh, hi, ha, hb]

theorem step_passes_of_not_continuing (hcontinuing : s.continuing = false)
    (hbuffer : mentionsImport s.buffer = false) (h : package.passes line = true) :
    s.step package line = s := by
  have hfresh : s.fresh = s.buffer := if_neg (by simp [hbuffer])
  rw [step_passes h, hfresh, hcontinuing, if_neg Bool.false_ne_true, List.append_nil]
  exact congrArg (fun flag => { s with continuing := flag }) hcontinuing.symm

/-- The four kinds of lines. -/
theorem line_kinds (package : PackageFilter) (line : Text) :
    (mentionsImport line = true ∧ package.admits line = true) ∨ package.opens line = true ∨
      package.closes line = true ∨ package.passes line = true := by
  simp only [PackageFilter.opens, PackageFilter.closes, PackageFilter.passes]
  cases mentionsImport line <;> cases package.admits line <;> simp

@[simp] theorem run_nil : s.run package [] = s := rfl

theorem run_concat (lines : List Text) (line : Text) :
    s.run package (lines ++ [line]) = (s.run package lines).step package line := by
  simp [run]

theorem run_append (lines more : List Text) :
    s.run package (lines ++ more) = (s.run package lines).run package more := by
  simp [run]

/-- Where no line gives gathered text out, the fragments are the wanted lines with the keyword. -/
theorem fragments_run_of_not_closes {lines : List Text}
    (h : ∀ line ∈ lines, package.closes line = false) :
    (s.run package lines).fragments =
      s.fragments ++
        (lines.filter fun line => mentionsImport line && package.admits line).map .captured := by
  induction lines generalizing s with
  | nil => simp
  | cons line lines ih =>
    have hrest := ih (s := s.step package line) fun l hl => h l (List.mem_cons_of_mem _ hl)
    rw [show s.run package (line :: lines) = (s.step package line).run package lines from rfl, hrest]
    rcases line_kinds package line with ⟨hi, ha⟩ | ho | hc | hp
    · simp [step_captured hi ha, hi, ha]
    · simp [step_opens ho, PackageFilter.opens_iff.mp ho]
    · rw [h line (by simp)] at hc
      cases hc
    · simp [step_passes hp, PackageFilter.passes_iff.mp hp]

theorem fragments_run_of_passes {lines : List Text}
    (h : ∀ line ∈ lines, package.passes line = true) :
    (s.run package lines).fragments = s.fragments := by
  have hnot : ∀ line ∈ lines, package.admits line = false :=
    fun line hline => (PackageFilter.passes_iff.mp (h line hline)).2
  rw [fragments_run_of_not_closes, List.filter_eq_nil_iff.mpr, List.map_nil, List.append_nil]
  · simpa using fun line hline _ => hnot line hline
  · intro line hline
    rw [PackageFilter.closes, hnot line hline, Bool.and_false]

end Scanner

end ImportCensus.Statement
