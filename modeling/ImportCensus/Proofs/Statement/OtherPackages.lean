import ImportCensus.Proofs.Statement.Sources
import Mathlib.Data.List.Forall2
/-!
# Statements of other packages

Whether a package filter keeps the statements of other packages out of what it lets through.  It
does as long as no such statement is open where a line without the keyword ends with the filter
text; otherwise the text that this line gives out holds the whole statement.  And as long as it
does, what these statements say has no influence on the symbols.
-/

namespace ImportCensus.Statement

/-- A statement of another package that stands complete on its line. -/
def IsForeign (name line : Text) : Prop :=
  mentionsImport line = true ∧ namesModule line = true ∧ ¬ name <:+ line

instance (name line : Text) : Decidable (IsForeign name line) :=
  inferInstanceAs (Decidable (_ ∧ _ ∧ _))

/-- No fragment has a statement of another package in its text. -/
def KeepsOut (name text : Text) : Prop :=
  ∀ fragment ∈ fragments (some name) text, ∀ line ∈ Text.lines text,
    IsForeign name line → ¬ line <:+: fragment.text

/-- Where a line gives gathered text out, no statement of another package is open. -/
def ClosesNoForeign (name : Text) (lines : List Text) : Prop :=
  ∀ i, lineIs (PackageFilter.closes (some name)) lines i = true →
    ∀ line ∈ openLines (some name) (lines.take i), ¬ IsForeign name line

/-- No statement of another package is found in text that is put together from other lines:
neither within one of them nor where two of them meet. -/
def FindsNoForeign (name : Text) (lines : List Text) : Prop :=
  ∀ (i : Nat) (line : Text), lines[i]? = some line → name <:+ line →
    (∀ source ∈ sources (some name) (lines.take i) line, ¬ IsForeign name source) →
      ∀ foreign ∈ lines, IsForeign name foreign →
        ¬ foreign <:+: (sources (some name) (lines.take i) line).flatten

/-- Lines that are the same but for what the statements of other packages say. -/
def SameButForeign (name : Text) : List Text → List Text → Prop :=
  List.Forall₂ fun line line' => line = line' ∨ IsForeign name line ∧ IsForeign name line'

section Lines

variable {name line : Text} {before : List Text}

theorem admits_iff (hname : name ≠ []) :
    PackageFilter.admits (some name) line = true ↔ name <:+ line := by
  obtain ⟨c, rest, rfl⟩ := List.exists_cons_of_ne_nil hname
  exact List.isSuffixOf_iff_suffix

theorem IsForeign.opens (hname : name ≠ []) (h : IsForeign name line) :
    PackageFilter.opens (some name) line = true := by
  rw [PackageFilter.opens_iff, ← Bool.not_eq_true, admits_iff hname]
  exact ⟨h.1, h.2.2⟩

theorem mem_openLines_concat {source : Text} {package : PackageFilter}
    (hi : mentionsImport line = true) (h : source ∈ openLines package before) :
    source ∈ openLines package (before ++ [line]) := by
  rw [openLines_concat_of_mentions hi]
  exact List.mem_append_left _ h

theorem mem_openLines_concat_self {package : PackageFilter} (ho : package.opens line = true) :
    line ∈ openLines package (before ++ [line]) := by
  have hi : mentionsImport line = true := (PackageFilter.opens_iff.mp ho).1
  rw [openLines_concat_of_mentions hi, List.filter_cons_of_pos ho]
  exact List.mem_append_right _ List.mem_cons_self

end Lines

/-! ## What leaks -/

section Leak

variable {name text line foreign : Text} {lines : List Text} {i : Nat}

/-- A line with the keyword that ends with the filter text is no statement of another package, and
neither is the held line. -/
theorem mem_openLines_of_isForeign {before : List Text} {source : Text} (hline : name <:+ line)
    (hsource : source ∈ sources (some name) before line) (h : IsForeign name source) :
    mentionsImport line = false ∧ source ∈ openLines (some name) before := by
  unfold sources at hsource
  split at hsource
  · rw [List.mem_singleton.mp hsource] at h
    exact absurd hline h.2.2
  · rename_i hi
    rcases List.mem_cons.mp hsource with rfl | hopen
    · have hmentions := h.1
      rw [mentionsImport_heldText] at hmentions
      cases hmentions
    · exact ⟨by simpa using hi, hopen⟩

theorem lineIs_closes_iff (hname : name ≠ []) :
    lineIs (PackageFilter.closes (some name)) lines i = true ↔
      ∃ line, lines[i]? = some line ∧ mentionsImport line = false ∧ name <:+ line := by
  rw [lineIs_iff]
  refine exists_congr fun line => and_congr_right fun _ => ?_
  rw [PackageFilter.closes_iff, admits_iff hname]

theorem keepsOut_iff_sources (hname : name ≠ []) :
    KeepsOut name text ↔ ∀ (i : Nat) (line : Text), (Text.lines text)[i]? = some line →
      name <:+ line → ∀ foreign ∈ Text.lines text, IsForeign name foreign →
        ¬ foreign <:+: (sources (some name) ((Text.lines text).take i) line).flatten := by
  constructor
  · intro h i line hline hsuffix foreign hmem hforeign
    obtain ⟨fragment, hfragment⟩ := exists_fragmentAt? ((admits_iff hname).mpr hsuffix)
    rw [← text_of_fragmentAt? hfragment]
    exact h fragment (mem_fragments_iff.mpr ⟨i, line, hline, hfragment⟩) foreign hmem hforeign
  · intro h fragment hfragment foreign hmem hforeign
    obtain ⟨i, line, hline, hfragment⟩ := mem_fragments_iff.mp hfragment
    rw [text_of_fragmentAt? hfragment]
    exact h i line hline ((admits_iff hname).mp (admits_of_fragmentAt? hfragment)) foreign hmem
      hforeign

theorem closesNoForeign_of_keepsOut (hname : name ≠ []) (h : KeepsOut name text) :
    ClosesNoForeign name (Text.lines text) := by
  intro i hcloses foreign hopen hforeign
  obtain ⟨line, hline, hi, hsuffix⟩ := (lineIs_closes_iff hname).mp hcloses
  have hmem : foreign ∈ Text.lines text := List.mem_of_mem_take (mem_of_mem_openLines hopen)
  refine (keepsOut_iff_sources hname).mp h i line hline hsuffix foreign hmem hforeign ?_
  apply List.infix_of_mem_flatten
  simp [sources, hi, hopen]

theorem keepsOut_of_closesNoForeign (hname : name ≠ [])
    (hcloses : ClosesNoForeign name (Text.lines text))
    (hfinds : FindsNoForeign name (Text.lines text)) : KeepsOut name text := by
  refine (keepsOut_iff_sources hname).mpr fun i line hline hsuffix => ?_
  refine hfinds i line hline hsuffix fun source hsource hforeign => ?_
  obtain ⟨hi, hopen⟩ := mem_openLines_of_isForeign hsuffix hsource hforeign
  exact hcloses i ((lineIs_closes_iff hname).mpr ⟨line, hline, hi, hsuffix⟩) source hopen hforeign

end Leak

/-! ## What has no influence -/

/-- Two scanners after lines that are the same but for statements of other packages.  Where their
buffers differ, such a statement is open and both buffers hold the keyword. -/
structure Agrees (name : Text) (before : List Text) (s s' : Scanner) : Prop where
  fragments : s'.fragments = s.fragments
  continuing : s'.continuing = s.continuing
  buffer : s'.buffer = s.buffer ∨
    (∃ line ∈ openLines (some name) before, IsForeign name line) ∧
      mentionsImport s.buffer = true ∧ mentionsImport s'.buffer = true

namespace Agrees

variable {name line line' : Text} {before lines lines' : List Text} {s s' : Scanner}

theorem fresh_eq (h : Agrees name before s s') : s'.fresh = s.fresh := by
  rcases h.buffer with heq | ⟨-, hs, hs'⟩
  · rw [Scanner.fresh, heq, Scanner.fresh]
  · rw [Scanner.fresh, if_pos hs', Scanner.fresh, if_pos hs]

theorem captured (h : Agrees name before s s') (hi : mentionsImport line = true)
    (ha : PackageFilter.admits (some name) line = true) :
    Agrees name (before ++ [line]) (s.step (some name) line) (s'.step (some name) line) := by
  rw [Scanner.step_captured hi ha, Scanner.step_captured hi ha]
  refine ⟨by simp only [h.fragments], rfl, h.buffer.imp_right ?_⟩
  rintro ⟨⟨foreign, hopen, hforeign⟩, hs, hs'⟩
  exact ⟨⟨foreign, mem_openLines_concat hi hopen, hforeign⟩, hs, hs'⟩

theorem opens (h : Agrees name before s s') (ho : PackageFilter.opens (some name) line = true) :
    Agrees name (before ++ [line]) (s.step (some name) line) (s'.step (some name) line) := by
  have hi : mentionsImport line = true := (PackageFilter.opens_iff.mp ho).1
  rw [Scanner.step_opens ho, Scanner.step_opens ho]
  refine ⟨h.fragments, rfl, ?_⟩
  rcases h.buffer with heq | ⟨⟨foreign, hopen, hforeign⟩, hs, hs'⟩
  · exact Or.inl (by simp only [heq])
  · have hmore : ∀ {t : Text}, mentionsImport t = true → mentionsImport (t ++ line) = true :=
      mentionsImport_of_isInfix (List.prefix_append _ _).isInfix
    exact Or.inr ⟨⟨foreign, mem_openLines_concat hi hopen, hforeign⟩, hmore hs, hmore hs'⟩

theorem foreign (h : Agrees name before s s') (hname : name ≠ []) (hf : IsForeign name line)
    (hf' : IsForeign name line') :
    Agrees name (before ++ [line]) (s.step (some name) line) (s'.step (some name) line') := by
  have hmore : ∀ (t : Text) {l : Text}, mentionsImport l = true →
      mentionsImport (t ++ l) = true :=
    fun t _ => mentionsImport_of_isInfix (List.suffix_append t _).isInfix
  rw [Scanner.step_opens (hf.opens hname), Scanner.step_opens (hf'.opens hname)]
  exact ⟨h.fragments, rfl, Or.inr ⟨⟨line, mem_openLines_concat_self (hf.opens hname), hf⟩,
    hmore s.buffer hf.1, hmore s'.buffer hf'.1⟩⟩

theorem closes (h : Agrees name before s s') (hc : PackageFilter.closes (some name) line = true)
    (hnone : ∀ l ∈ openLines (some name) before, ¬ IsForeign name l) :
    Agrees name (before ++ [line]) (s.step (some name) line) (s'.step (some name) line) := by
  have hbuffer : s'.buffer = s.buffer := by
    refine h.buffer.resolve_right ?_
    rintro ⟨⟨foreign, hopen, hforeign⟩, -⟩
    exact hnone foreign hopen hforeign
  rw [Scanner.step_closes hc, Scanner.step_closes hc]
  exact ⟨by simp only [h.fragments, hbuffer], rfl, Or.inl rfl⟩

theorem passes (h : Agrees name before s s')
    (hp : PackageFilter.passes (some name) line = true) :
    Agrees name (before ++ [line]) (s.step (some name) line) (s'.step (some name) line) := by
  rw [Scanner.step_passes hp, Scanner.step_passes hp]
  exact ⟨h.fragments, rfl, Or.inl (by simp only [h.fresh_eq, h.continuing])⟩

theorem step (h : Agrees name before s s') (hname : name ≠ [])
    (hline : line = line' ∨ IsForeign name line ∧ IsForeign name line')
    (hnone : PackageFilter.closes (some name) line = true →
      ∀ l ∈ openLines (some name) before, ¬ IsForeign name l) :
    Agrees name (before ++ [line]) (s.step (some name) line) (s'.step (some name) line') := by
  rcases hline with rfl | ⟨hf, hf'⟩
  · rcases Scanner.line_kinds (some name) line with ⟨hi, ha⟩ | ho | hc | hp
    · exact h.captured hi ha
    · exact h.opens ho
    · exact h.closes hc (hnone hc)
    · exact h.passes hp
  · exact h.foreign hname hf hf'

theorem run (hname : name ≠ []) (hlines : SameButForeign name lines lines')
    (h : Agrees name before s s') (hcloses : ClosesNoForeign name (before ++ lines)) :
    (s'.run (some name) lines').fragments = (s.run (some name) lines).fragments := by
  induction hlines generalizing before s s' with
  | nil => exact h.fragments
  | @cons line line' lines lines' hline _ ih =>
    have hstep := h.step hname hline fun hc => by
      have hat := hcloses before.length
      rw [List.take_left] at hat
      exact hat (by simpa [lineIs] using hc)
    exact ih hstep (by simpa using hcloses)

end Agrees

theorem fragments_congr {name text text' : Text} (hname : name ≠ [])
    (hcloses : ClosesNoForeign name (Text.lines text))
    (h : SameButForeign name (Text.lines text) (Text.lines text')) :
    fragments (some name) text' = fragments (some name) text := by
  have hstart : Agrees name [] {} {} := ⟨rfl, rfl, Or.inl rfl⟩
  exact hstart.run hname h hcloses

/-- A filter keeps the statements of other packages out exactly if none of them is open where a
line without the keyword ends with the filter text, and none of them is found by chance in text
that is put together from other lines.  If none is open at such a line, the symbols are the same
whatever these statements say. -/
theorem keepsOut_iff {name : Text} (hname : name ≠ []) (text : Text) :
    (KeepsOut name text ↔
      ClosesNoForeign name (Text.lines text) ∧ FindsNoForeign name (Text.lines text)) ∧
    (ClosesNoForeign name (Text.lines text) →
      ∀ text', SameButForeign name (Text.lines text) (Text.lines text') →
        imports (some name) text' = imports (some name) text) := by
  refine ⟨⟨fun h => ⟨closesNoForeign_of_keepsOut hname h, ?_⟩, fun ⟨hcloses, hfinds⟩ => ?_⟩,
    fun hcloses text' h => ?_⟩
  · exact fun i line hline hsuffix _ => (keepsOut_iff_sources hname).mp h i line hline hsuffix
  · exact keepsOut_of_closesNoForeign hname hcloses hfinds
  · rw [imports, fragments_congr hname hcloses h, imports]

/-- A line without the keyword between the two takes the open statement away. -/
theorem keepsOut_iff_cleared :
    "'x'".toList ≠ [] ∧
      KeepsOut "'x'" "import \x7ba\x7d from 'y'\n  a\nexport \x7bb\x7d from 'x'" ∧
      imports (some "'x'") "import \x7bc\x7d from 'w'\n  a\nexport \x7bb\x7d from 'x'" =
        imports (some "'x'") "import \x7ba\x7d from 'y'\n  a\nexport \x7bb\x7d from 'x'" := by
  have hname : "'x'".toList ≠ [] := by decide
  have hiff := keepsOut_iff hname "import \x7ba\x7d from 'y'\n  a\nexport \x7bb\x7d from 'x'"
  have hlines : Text.lines "import \x7ba\x7d from 'y'\n  a\nexport \x7bb\x7d from 'x'" =
      ["import \x7ba\x7d from 'y'", "  a", "export \x7bb\x7d from 'x'"] := by decide
  have hlines' : Text.lines "import \x7bc\x7d from 'w'\n  a\nexport \x7bb\x7d from 'x'" =
      ["import \x7bc\x7d from 'w'", "  a", "export \x7bb\x7d from 'x'"] := by decide
  have hgiven : fragments (some "'x'")
      "import \x7ba\x7d from 'y'\n  a\nexport \x7bb\x7d from 'x'" = [.raw "  a"] := by decide
  have hkeeps :
      KeepsOut "'x'" "import \x7ba\x7d from 'y'\n  a\nexport \x7bb\x7d from 'x'" := by
    unfold KeepsOut
    rw [hgiven, hlines]
    decide
  have hsame : SameButForeign "'x'"
      ["import \x7ba\x7d from 'y'", "  a", "export \x7bb\x7d from 'x'"]
      ["import \x7bc\x7d from 'w'", "  a", "export \x7bb\x7d from 'x'"] :=
    .cons (Or.inr (by decide)) (.cons (Or.inl rfl) (.cons (Or.inl rfl) .nil))
  exact ⟨hname, hkeeps, hiff.2 (hiff.1.mp hkeeps).1 _ (by rwa [hlines, hlines'])⟩

/-- A re-export that ends with the filter text gives out a statement before it. -/
theorem not_keepsOut_reexport : ¬ ∀ name text : Text, name ≠ [] → KeepsOut name text := by
  intro h
  have hkeeps := h "'x'"
    "import \x7ba\x7d from 'y'\nimport \x7bb\x7d from 'x'\nexport \x7bc\x7d from 'x'" (by decide)
  have hgiven : Fragment.raw "import \x7ba\x7d from 'y'" ∈ fragments (some "'x'")
      "import \x7ba\x7d from 'y'\nimport \x7bb\x7d from 'x'\nexport \x7bc\x7d from 'x'" := by
    decide
  have hline : "import \x7ba\x7d from 'y'".toList ∈ Text.lines
      "import \x7ba\x7d from 'y'\nimport \x7bb\x7d from 'x'\nexport \x7bc\x7d from 'x'" := by
    decide
  exact hkeeps _ hgiven _ hline (by decide) List.infix_rfl

end ImportCensus.Statement
