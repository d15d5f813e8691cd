import ImportCensus.Proofs.Text.Pieces
import ImportCensus.Statement.Package
import Mathlib.Data.List.TakeWhile
/-!
# Lines that name a module

Without a filter a line is wanted exactly if some `from '` on it is followed by a quote before
its line ends.  Nothing of this stands across a line end, so a line with stray line ends is wanted
exactly if one of the pieces between them is.
-/

namespace ImportCensus.Statement

def stopsName (c : Char) : Bool :=
  c == '\'' || Text.isLineEnd c

def quoted (name : Text) : Text :=
  fromQuote ++ name ++ ['\'']

section Quotes

variable {s name rest line : Text}

theorem closesQuote_iff_find? : closesQuote s = true ↔ s.find? stopsName = some '\'' := by
  have hnot : (fun c => !stopsName c) = fun c => c != '\'' && !Text.isLineEnd c := by
    funext c
    rw [stopsName, Bool.not_or, bne]
  rw [List.find?_eq_head?_dropWhile_not, hnot, closesQuote]
  cases s.dropWhile fun c => c != '\'' && !Text.isLineEnd c <;> simp

theorem closesQuote_append (hname : ∀ c ∈ name, Text.isLineEnd c = false) :
    closesQuote (name ++ '\'' :: rest) = true := by
  rw [closesQuote_iff_find?, List.find?_append]
  cases hfind : name.find? stopsName with
  | none => rfl
  | some c =>
    have hstops : stopsName c = true := List.find?_some hfind
    rw [stopsName, hname c (List.mem_of_find?_eq_some hfind), Bool.or_false, beq_iff_eq] at hstops
    rw [hstops, Option.some_or]

theorem closesQuote_iff :
    closesQuote s = true ↔
      ∃ name rest, s = name ++ '\'' :: rest ∧ ∀ c ∈ name, Text.isLineEnd c = false := by
  constructor
  · intro h
    rw [closesQuote_iff_find?, List.find?_eq_some_iff_append] at h
    obtain ⟨-, name, rest, rfl, hname⟩ := h
    refine ⟨name, rest, rfl, fun c hc => ?_⟩
    have hgoes := hname c hc
    rw [Bool.not_eq_true', stopsName, Bool.or_eq_false_iff] at hgoes
    exact hgoes.2
  · rintro ⟨name, rest, rfl, hname⟩
    exact closesQuote_append hname

theorem closesQuote_of_mem (hq : '\'' ∈ s) (hend : ∀ c ∈ s, Text.isLineEnd c = false) :
    closesQuote s = true := by
  obtain ⟨name, rest, rfl⟩ := List.append_of_mem hq
  exact closesQuote_append fun c hc => hend c (List.mem_append_left _ hc)

theorem namesModule_iff :
    namesModule line = true ↔
      ∃ before rest, line = before ++ (fromQuote ++ rest) ∧ closesQuote rest = true := by
  induction line with
  | nil => simp [namesModule, fromQuote]
  | cons c line ih =>
    rw [namesModule, Bool.or_eq_true, ih, Bool.and_eq_true, List.isPrefixOf_iff_prefix]
    constructor
    · rintro (⟨⟨rest, hrest⟩, hclose⟩ | ⟨before, rest, rfl, hclose⟩)
      · refine ⟨[], rest, hrest.symm, ?_⟩
        rwa [← hrest, List.drop_left] at hclose
      · exact ⟨c :: before, rest, rfl, hclose⟩
    · rintro ⟨before, rest, heq, hclose⟩
      cases before with
      | nil =>
        rw [List.nil_append] at heq
        rw [heq, List.drop_left]
        exact Or.inl ⟨⟨rest, rfl⟩, hclose⟩
      | cons d before => exact Or.inr ⟨before, rest, (List.cons.inj heq).2, hclose⟩

theorem namesModule_iff_quoted :
    namesModule line = true ↔
      ∃ name, (∀ c ∈ name, Text.isLineEnd c = false) ∧ quoted name <:+: line := by
  rw [namesModule_iff]
  constructor
  · rintro ⟨before, rest, rfl, hclose⟩
    obtain ⟨name, after, rfl, hname⟩ := closesQuote_iff.mp hclose
    exact ⟨name, hname, before, after, by simp [quoted]⟩
  · rintro ⟨name, hname, before, after, rfl⟩
    exact ⟨before, name ++ '\'' :: after, by simp [quoted], closesQuote_append hname⟩

end Quotes

/-! ## Stray line ends -/

section Pieces

variable {package : PackageFilter} {line name : Text}

theorem fromQuote_onLine : ∀ c ∈ fromQuote, Text.isLineEnd c = false := by
  simp [fromQuote, Text.isLineEnd]

theorem quoted_onLine (hname : ∀ c ∈ name, Text.isLineEnd c = false) :
    ∀ c ∈ quoted name, Text.isLineEnd c = false := by
  intro c hc
  rw [quoted, List.mem_append, List.mem_append, List.mem_singleton] at hc
  rcases hc with (hc | hc) | rfl
  · exact fromQuote_onLine c hc
  · exact hname c hc
  · decide

theorem namesModule_iff_exists_piece :
    namesModule line = true ↔ ∃ piece ∈ line.splitOnP Text.isLineEnd, namesModule piece = true := by
  simp only [namesModule_iff_quoted]
  constructor
  · rintro ⟨name, hname, hline⟩
    obtain ⟨piece, hpiece, hin⟩ := (Text.exists_mem_splitOnP_iff (quoted_onLine hname)).mpr hline
    exact ⟨piece, hpiece, name, hname, hin⟩
  · rintro ⟨piece, hpiece, name, hname, hin⟩
    have hline := (Text.exists_mem_splitOnP_iff (quoted_onLine hname)).mp ⟨piece, hpiece, hin⟩
    exact ⟨name, hname, hline⟩

theorem admits_of_absent (h : package = none ∨ package = some []) :
    package.admits line = namesModule line := by
  rcases h with rfl | rfl
  · rfl
  · rfl

/-- Without a filter a line is wanted exactly if it has a module's name in single quotes after
`from`, with no line end in the name.  This holds exactly if behind some `from '` the first
character that is a quote or a line end is a quote.  And of a line that is cut at all its line ends
it holds exactly if it holds of one of the pieces. -/
theorem unfiltered_admits_iff (h : package = none ∨ package = some []) (line : Text) :
    (package.admits line = true ↔ ∃ before name after,
      line = before ++ fromQuote ++ name ++ '\'' :: after ∧
        ∀ c ∈ name, Text.isLineEnd c = false) ∧
    (package.admits line = true ↔ ∃ before rest,
      line = before ++ fromQuote ++ rest ∧
        rest.find? (fun c => c == '\'' || Text.isLineEnd c) = some '\'') ∧
    (package.admits line = true ↔
      ∃ piece ∈ line.splitOnP Text.isLineEnd, package.admits piece = true) := by
  simp only [admits_of_absent h]
  refine ⟨?_, ?_, namesModule_iff_exists_piece⟩
  · rw [namesModule_iff_quoted]
    constructor
    · rintro ⟨name, hname, before, after, rfl⟩
      exact ⟨before, name, after, by simp [quoted], hname⟩
    · rintro ⟨before, name, after, rfl, hname⟩
      exact ⟨name, hname, before, after, by simp [quoted]⟩
  · simp only [namesModule_iff, List.append_assoc]
    refine exists_congr fun before => exists_congr fun rest => and_congr_right fun _ => ?_
    exact closesQuote_iff_find?

/-- The first name is cut off by a carriage return, the second one is closed. -/
theorem unfiltered_admits_iff_second :
    (some [] = (none : PackageFilter) ∨ some [] = (some [] : PackageFilter)) ∧
      PackageFilter.admits (some []) "from 'a\r from 'b'" = true ∧
      PackageFilter.admits (some []) "from 'a\r'" = false := by
  have habsent : some [] = (none : PackageFilter) ∨ some [] = (some [] : PackageFilter) := by decide
  have hpieces : ("from 'a\r'".toList).splitOnP Text.isLineEnd = ["from 'a".toList, ['\'']] := by
    decide
  refine ⟨habsent, (unfiltered_admits_iff habsent _).1.mpr
    ⟨"from 'a\r ".toList, ['b'], [], by decide, by simp [Text.isLineEnd]⟩, ?_⟩
  rw [← Bool.not_eq_true, (unfiltered_admits_iff habsent _).2.2, hpieces]
  decide

end Pieces

end ImportCensus.Statement
