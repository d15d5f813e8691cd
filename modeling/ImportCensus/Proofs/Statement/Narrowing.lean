import ImportCensus.Proofs.Statement.OtherPackages
import ImportCensus.Proofs.Statement.RoundTrip
import Mathlib.Data.List.Flatten
import Mathlib.Data.List.Perm.Basic
/-!
# Longer filter texts

Where every line that a filter wants has the keyword, each of them gives its own symbols, whatever
the scanner has gathered.  So a filter that wants fewer of these lines loses the symbols of the
others and no more, although its scanner gathers those lines.
-/

namespace ImportCensus.Statement

def symbolsOf (lines : List Text) : List Text :=
  lines.flatMap fun line => (Fragment.captured line).symbols

def linesEnding (name text : Text) : List Text :=
  (Text.lines text).filter fun line => name <:+ line

section Narrowing

variable {package : PackageFilter} {name longer text : Text}

theorem sublist_symbolsOf_filter (p : Text → Bool) (lines : List Text) :
    (symbolsOf (lines.filter p)).Sublist (symbolsOf lines) :=
  List.filter_sublist.flatMap _

theorem perm_symbolsOf_filter (p : Text → Bool) (lines : List Text) :
    (symbolsOf (lines.filter p) ++ symbolsOf (lines.filter fun line => !p line)).Perm
      (symbolsOf lines) := by
  unfold symbolsOf
  rw [← List.flatMap_append]
  exact (List.filter_append_perm p lines).flatMap_right _

/-- If only lines with the keyword are wanted, no wanted line gives gathered text out. -/
theorem imports_eq_symbolsOf
    (h : ∀ line ∈ Text.lines text, package.admits line = true → mentionsImport line = true) :
    imports package text = symbolsOf ((Text.lines text).filter package.admits) := by
  have hwanted : ∀ line ∈ Text.lines text,
      (mentionsImport line && package.admits line) = package.admits line := by
    intro line hline
    cases ha : package.admits line with
    | true => rw [h line hline ha, Bool.and_true]
    | false => rw [Bool.and_false]
  have hcloses : ∀ line ∈ Text.lines text, package.closes line = false := by
    intro line hline
    rw [← Bool.not_eq_true, PackageFilter.closes_iff]
    rintro ⟨hi, ha⟩
    rw [h line hline ha] at hi
    cases hi
  rw [imports_of_not_closes hcloses, List.filter_congr hwanted, symbolsOf]

theorem imports_eq_symbolsOf_linesEnding (hname : name ≠ [])
    (h : ∀ line ∈ Text.lines text, name <:+ line → mentionsImport line = true) :
    imports (some name) text = symbolsOf (linesEnding name text) := by
  have hadmits : ∀ line ∈ Text.lines text,
      PackageFilter.admits (some name) line = decide (name <:+ line) := by
    intro line _
    rw [Bool.eq_iff_iff, admits_iff hname, decide_eq_true_iff]
  have himport : ∀ line ∈ Text.lines text,
      PackageFilter.admits (some name) line = true → mentionsImport line = true :=
    fun line hline ha => h line hline ((admits_iff hname).mp ha)
  rw [imports_eq_symbolsOf himport, List.filter_congr hadmits, linesEnding]

theorem linesEnding_of_suffix (hsuffix : name <:+ longer) :
    linesEnding longer text = (linesEnding name text).filter fun line => longer <:+ line := by
  rw [linesEnding, linesEnding, List.filter_filter]
  apply List.filter_congr
  intro line _
  rw [← Bool.decide_and, decide_eq_decide]
  exact ⟨fun h => ⟨h, hsuffix.trans h⟩, And.left⟩

/-- Where every line that ends with a filter text has the keyword, a longer filter text gives the
symbols of those of these lines that end with it as well, in their order, and what it loses are the
symbols of the others. -/
theorem imports_of_longer_filter (hname : name ≠ []) (hsuffix : name <:+ longer)
    (h : ∀ line ∈ Text.lines text, name <:+ line → mentionsImport line = true) :
    imports (some name) text = symbolsOf (linesEnding name text) ∧
    imports (some longer) text =
      symbolsOf ((linesEnding name text).filter fun line => longer <:+ line) ∧
    (imports (some longer) text).Sublist (imports (some name) text) ∧
    (imports (some longer) text ++
        symbolsOf ((linesEnding name text).filter fun line => ¬ longer <:+ line)).Perm
      (imports (some name) text) := by
  have hlonger : longer ≠ [] := by
    rintro rfl
    exact hname (List.suffix_nil.mp hsuffix)
  have hfew : imports (some longer) text =
      symbolsOf ((linesEnding name text).filter fun line => longer <:+ line) := by
    rw [← linesEnding_of_suffix hsuffix]
    exact imports_eq_symbolsOf_linesEnding hlonger
      fun line hline hends => h line hline (hsuffix.trans hends)
  have hall : imports (some name) text = symbolsOf (linesEnding name text) :=
    imports_eq_symbolsOf_linesEnding hname h
  refine ⟨hall, hfew, ?_, ?_⟩
  · rw [hfew, hall]
    exact sublist_symbolsOf_filter _ _
  · rw [hfew, hall]
    simpa using perm_symbolsOf_filter (fun line => longer <:+ line) (linesEnding name text)

/-- The longer filter text loses the second statement, and neither wants the third. -/
theorem imports_of_longer_filter_third :
    "h'".toList ≠ [] ∧ "h'".toList <:+ "'oh'".toList ∧
      (∀ line ∈ Text.lines "import a from 'oh'\nimport b from 'ah'\nimport \x7b\n\x7d from 'x'",
        "h'".toList <:+ line → mentionsImport line = true) ∧
      imports (some "'oh'") "import a from 'oh'\nimport b from 'ah'\nimport \x7b\n\x7d from 'x'" =
        ["a".toList] := by
  have hlines :
      Text.lines "import a from 'oh'\nimport b from 'ah'\nimport \x7b\n\x7d from 'x'" =
        ["import a from 'oh'", "import b from 'ah'", "import \x7b", "\x7d from 'x'"] := by
    decide
  have hname : "h'".toList ≠ [] := by decide
  have hsuffix : "h'".toList <:+ "'oh'".toList := by decide
  have h : ∀ line ∈
      Text.lines "import a from 'oh'\nimport b from 'ah'\nimport \x7b\n\x7d from 'x'",
      "h'".toList <:+ line → mentionsImport line = true := by
    rw [hlines]
    decide
  refine ⟨hname, hsuffix, h, ?_⟩
  rw [(imports_of_longer_filter hname hsuffix h).2.1, linesEnding, hlines]
  decide

/-- A line without the keyword gives out what the scanner of the longer filter text has gathered. -/
example : ¬ (imports (some "'x'") "import \x7ba\x7d from 'y'\nexport \x7bb\x7d from 'x'").Sublist
    (imports (some "'") "import \x7ba\x7d from 'y'\nexport \x7bb\x7d from 'x'") := by
  decide

end Narrowing

end ImportCensus.Statement
