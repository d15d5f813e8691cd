import ImportCensus.Proofs.Statement.Clause
import ImportCensus.Proofs.Statement.Package
import ImportCensus.Proofs.Statement.Scanner
import ImportCensus.Proofs.Statement.Symbol
/-!
# Statements on one line

An import statement that stands on one line, in any of its three forms, gives exactly the
symbols that it was written with, among any lines that hold no import of their own.
-/

namespace ImportCensus.Statement

inductive Clause
  | default (symbol : Text)
  | named (first : Text) (others : List Text)
  | both (symbol first : Text) (others : List Text)

namespace Clause

def symbols : Clause → List Text
  | default d => [d]
  | named s others => s :: others
  | both d s others => d :: s :: others

def text : Clause → Text
  | default d => d
  | named s others => '{' :: (listed (s :: others) ++ ['}'])
  | both d s others => d ++ [',', ' '] ++ '{' :: (listed (s :: others) ++ ['}'])

end Clause

/-- An import statement on one line. -/
structure Import where
  clause : Clause
  /-- What follows the quote that opens the module's name. -/
  rest : Text
  plain : ∀ symbol ∈ clause.symbols, IsPlain symbol
  quoted : '\'' ∈ rest
  onLine : ∀ c ∈ rest, Text.isLineEnd c = false
  /-- No other place of the line looks like the end of the clause. -/
  noFrom : ∀ b, Text.isBlank b = true → ¬ b :: fromWord <:+: rest

def Import.line (i : Import) : Text :=
  keyword ++ ' ' :: (i.clause.text ++ ' ' :: (fromQuote ++ i.rest))

/-- A line of a source text: a statement, or a line that the scanner has nothing to do with. -/
inductive SourceLine (package : PackageFilter)
  | statement (i : Import)
  | other (line : Text) (noImport : mentionsImport line = false)
      (notWanted : package.admits line = false) (onLine : '\r' ∉ line ∧ '\n' ∉ line)

namespace SourceLine

variable {package : PackageFilter}

def text : SourceLine package → Text
  | statement i => i.line
  | other line _ _ _ => line

def symbols : SourceLine package → List Text
  | statement i => if package.admits i.line then i.clause.symbols else []
  | other .. => []

end SourceLine

/-! ## The clause -/

theorem not_endsBefore_of_suffix {rest s : Text}
    (h : ∀ b, Text.isBlank b = true → ¬ b :: fromWord <:+: rest)
    (hs : s <:+ fromQuote ++ rest) : endsBefore s = false := by
  rw [← Bool.not_eq_true, endsBefore_iff]
  rintro ⟨b, word, hb, heq⟩
  have hin : b :: fromWord <:+: fromQuote ++ rest := by
    refine List.IsInfix.trans ?_ hs.isInfix
    rcases heq with rfl | rfl
    · exact ⟨[], word, by simp⟩
    · exact ⟨['}'], word, by simp⟩
  have hne : ∀ c, Text.isBlank c = false → b ≠ c := by
    rintro _ hc rfl
    rw [hb] at hc
    cases hc
  have hf := hne 'f' (by decide)
  have hr := hne 'r' (by decide)
  have ho := hne 'o' (by decide)
  have hm := hne 'm' (by decide)
  have hq := hne '\'' (by decide)
  simp only [fromQuote, List.cons_append, List.nil_append, List.infix_cons_iff,
    List.cons_prefix_cons, hf, hr, ho, hm, hq, false_and, false_or] at hin
  rcases hin with ⟨-, hin⟩ | hin
  · simp [fromWord] at hin
  · exact h b hb hin

theorem longestClause?_append {clause rest : Text}
    (hclause : ∀ c ∈ clause, Text.isLineEnd c = false)
    (hrest : ∀ b, Text.isBlank b = true → ¬ b :: fromWord <:+: rest) :
    longestClause? (clause ++ ' ' :: (fromQuote ++ rest)) = some clause := by
  rw [longestClause?_eq_some_iff]
  refine ⟨⟨_, rfl, hclause, ?_⟩, ?_⟩
  · rw [endsBefore_iff]
    exact ⟨' ', ' ' :: '\'' :: rest, by decide, Or.inl rfl⟩
  · intro c s hcut
    apply Nat.le_of_not_lt
    intro hlen
    -- a longer clause would end within what is behind the blank
    have hs : s <:+ fromQuote ++ rest := by
      have hdrop : s = (clause ++ ' ' :: (fromQuote ++ rest)).drop c.length := by
        rw [hcut.whole, List.drop_left]
      obtain ⟨n, hn⟩ : ∃ n, c.length = clause.length + (n + 1) :=
        ⟨c.length - clause.length - 1, by omega⟩
      rw [hdrop, hn, ← List.drop_drop, List.drop_left, List.drop_succ_cons]
      exact List.drop_suffix _ _
    have hnot := not_endsBefore_of_suffix hrest hs
    rw [hcut.ended] at hnot
    cases hnot

/-! ## The symbols of a statement -/

theorem erase_braces {before inside : Text} (hbefore : '{' ∉ before ∧ '}' ∉ before)
    (hinside : '}' ∉ inside) :
    ((before ++ '{' :: (inside ++ ['}'])).erase '{').erase '}' = before ++ inside := by
  rw [List.erase_append_right _ hbefore.1, List.erase_cons_head,
    List.erase_append_right _ hbefore.2, List.erase_append_right _ hinside, List.erase_cons_head,
    List.append_nil]

namespace Clause

variable {c : Clause}

theorem symbols_ne_nil : c.symbols ≠ [] := by
  cases c <;> simp [symbols]

theorem text_onLine (h : ∀ s ∈ c.symbols, IsPlain s) :
    ∀ d ∈ c.text, Text.isLineEnd d = false := by
  have hlisted : ∀ {ss : List Text}, (∀ s ∈ ss, s ∈ c.symbols) →
      ∀ d ∈ '{' :: (listed ss ++ ['}']), Text.isLineEnd d = false := by
    intro ss hss d hd
    rw [List.mem_cons, List.mem_append, List.mem_singleton] at hd
    rcases hd with rfl | hd | rfl
    · decide
    · exact (inner_listed (fun s hs => h s (hss s hs)) d hd).2.2
    · decide
  cases c with
  | default s => exact fun d hd => ((h s (by simp [symbols])).inner d hd).2.2.2
  | named s others => exact hlisted fun _ ht => ht
  | both s t others =>
    intro d hd
    rw [text, List.mem_append, List.mem_append] at hd
    rcases hd with (hd | hd) | hd
    · exact ((h s (by simp [symbols])).inner d hd).2.2.2
    · have hsep : ∀ e ∈ [',', ' '], Text.isLineEnd e = false := by simp [Text.isLineEnd]
      exact hsep d hd
    · exact hlisted (fun _ ht => List.mem_cons_of_mem _ ht) d hd

/-- Without its first pair of braces a clause is the list of its symbols. -/
theorem erase_text (h : ∀ s ∈ c.symbols, IsPlain s) :
    (c.text.erase '{').erase '}' = listed c.symbols := by
  have hnot : ∀ {s}, s ∈ c.symbols → '{' ∉ s ∧ '}' ∉ s := fun hs =>
    ⟨fun hm => ((h _ hs).inner _ hm).2.1 rfl, fun hm => ((h _ hs).inner _ hm).2.2.1 rfl⟩
  have hlisted : ∀ {ss : List Text}, (∀ s ∈ ss, s ∈ c.symbols) → '}' ∉ listed ss :=
    fun hss hm => (inner_listed (fun s hs => h s (hss s hs)) _ hm).2.1 rfl
  cases c with
  | default s =>
    have hs := hnot (s := s) (by simp [symbols])
    rw [text, List.erase_of_not_mem hs.1, List.erase_of_not_mem hs.2, symbols, listed,
      List.intercalate_singleton]
  | named s others =>
    have hempty : '{' ∉ ([] : Text) ∧ '}' ∉ ([] : Text) := by simp
    exact erase_braces hempty (hlisted fun _ ht => ht)
  | both s t others =>
    have hs := hnot (s := s) (by simp [symbols])
    rw [text, erase_braces (by simpa using hs) (hlisted fun _ ht => List.mem_cons_of_mem _ ht),
      symbols, listed_cons_cons]
    simp

end Clause

namespace Import

variable {i : Import} {package : PackageFilter}

theorem mentionsImport_line : mentionsImport i.line = true := by
  rw [mentionsImport_iff, line]
  exact (List.prefix_append _ _).isInfix

theorem admits_none_line : PackageFilter.admits none i.line = true := by
  rw [PackageFilter.admits, namesModule_iff]
  refine ⟨keyword ++ ' ' :: (i.clause.text ++ [' ']), i.rest, ?_, ?_⟩
  · simp [line]
  · exact closesQuote_of_mem i.quoted i.onLine

theorem line_onLine : '\r' ∉ i.line ∧ '\n' ∉ i.line := by
  have hall : ∀ c ∈ i.line, Text.isLineEnd c = false := by
    intro c hc
    have hkeyword : ∀ d ∈ keyword, Text.isLineEnd d = false := by
      simp [keyword, Text.isLineEnd]
    simp only [line, List.mem_append, List.mem_cons] at hc
    rcases hc with hc | rfl | hc | rfl | hc | hc
    · exact hkeyword c hc
    · decide
    · exact Clause.text_onLine i.plain c hc
    · decide
    · exact fromQuote_onLine c hc
    · exact i.onLine c hc
  exact ⟨fun hm => absurd (hall _ hm) (by decide), fun hm => absurd (hall _ hm) (by decide)⟩

theorem clause?_line : clause? i.line = some i.clause.text :=
  clause?_of_longestClause? (by decide)
    (longestClause?_append (Clause.text_onLine i.plain) i.noFrom)

theorem symbols_line : (Fragment.captured i.line).symbols = i.clause.symbols := by
  rw [Fragment.symbols, Fragment.symbolList, clause?_line, Option.getD_some,
    Clause.erase_text i.plain, symbols_listed Clause.symbols_ne_nil i.plain]

end Import

/-! ## A whole text -/

section Source

variable {package : PackageFilter}

theorem imports_of_not_closes {t : Text}
    (h : ∀ line ∈ Text.lines t, package.closes line = false) :
    imports package t =
      ((Text.lines t).filter fun line => mentionsImport line && package.admits line).flatMap
        fun line => (Fragment.captured line).symbols := by
  rw [imports, fragments, Scanner.fragments_run_of_not_closes h, List.nil_append,
    List.flatMap_map]

theorem admits_nil (package : PackageFilter) : package.admits [] = false := by
  match package with
  | none => rfl
  | some [] => rfl
  | some (c :: name) => simp [PackageFilter.admits]

namespace SourceLine

theorem onLine (line : SourceLine package) : '\r' ∉ line.text ∧ '\n' ∉ line.text := by
  cases line with
  | statement i => exact Import.line_onLine
  | other line _ _ honLine => exact honLine

theorem not_closes (line : SourceLine package) : package.closes line.text = false := by
  cases line with
  | statement i => simp [text, PackageFilter.closes, Import.mentionsImport_line]
  | other line _ hwanted _ => simp [text, PackageFilter.closes, hwanted]

theorem flatMap_symbols (source : List (SourceLine package)) :
    ((source.map text).filter fun line => mentionsImport line && package.admits line).flatMap
        (fun line => (Fragment.captured line).symbols) =
      source.flatMap symbols := by
  induction source with
  | nil => rfl
  | cons line source ih =>
    rw [List.map_cons, List.filter_cons, List.flatMap_cons, ← ih]
    cases line with
    | statement i =>
      rw [text, Import.mentionsImport_line, Bool.true_and, symbols]
      split <;> simp [Import.symbols_line]
    | other line hno _ _ => simp [text, symbols, hno]

theorem imports_nil : imports package [] = [] := by
  have hlines : Text.lines [] = [[]] := rfl
  rw [imports_of_not_closes, hlines]
  · rw [List.filter_cons_of_neg (by simp [admits_nil]), List.filter_nil, List.flatMap_nil]
  · rw [hlines, List.forall_mem_singleton, PackageFilter.closes, admits_nil, Bool.and_false]

theorem imports_join {join : List Text → Text} (hnil : join [] = [])
    (hlines : ∀ {parts : List Text}, parts ≠ [] → (∀ part ∈ parts, '\r' ∉ part ∧ '\n' ∉ part) →
      Text.lines (join parts) = parts)
    (source : List (SourceLine package)) :
    imports package (join (source.map text)) = source.flatMap symbols := by
  by_cases hsource : source = []
  · rw [hsource, List.map_nil, hnil, imports_nil, List.flatMap_nil]
  · have hjoin : Text.lines (join (source.map text)) = source.map text := by
      apply hlines
      · simpa using hsource
      · rw [List.forall_mem_map]
        exact fun line _ => line.onLine
    rw [imports_of_not_closes, hjoin, flatMap_symbols]
    rw [hjoin, List.forall_mem_map]
    exact fun line _ => line.not_closes

end SourceLine

/-- Statements on one line are read back exactly, whichever way the lines are joined: a source
gives the symbols of the statements that belong to the wanted package, which are all of them if
there is no filter. -/
theorem imports_intercalate (package : PackageFilter) (source : List (SourceLine package)) :
    imports package (['\n'].intercalate (source.map (·.text))) = source.flatMap (·.symbols) ∧
      imports package (Text.crLf.intercalate (source.map (·.text))) = source.flatMap (·.symbols) ∧
      ∀ i : Import, PackageFilter.admits none i.line = true :=
  ⟨SourceLine.imports_join rfl Text.lines_intercalate_lineFeed source,
    SourceLine.imports_join rfl Text.lines_intercalate_crLf source,
    fun _ => Import.admits_none_line⟩

theorem isPlain_singleton {c : Char} (hblank : Text.isBlank c = false)
    (h : c ≠ ',' ∧ c ≠ '{' ∧ c ≠ '}' ∧ Text.isLineEnd c = false) : IsPlain [c] where
  inner := List.forall_mem_singleton.mpr h
  first := by simpa using hblank
  last := by simpa using hblank

theorem not_infix_of_length_le {rest : Text} (h : rest.length ≤ 4) (b : Char) :
    ¬ b :: fromWord <:+: rest := by
  intro hin
  have hle : 5 ≤ rest.length := hin.length_le
  omega

def mixedImport : Import where
  clause := .both ['c'] ['a'] [['b']]
  rest := ['x', '\'']
  plain := by
    simp only [Clause.symbols, List.forall_mem_cons]
    exact ⟨isPlain_singleton (by decide) (by decide), isPlain_singleton (by decide) (by decide),
      isPlain_singleton (by decide) (by decide), nofun⟩
  quoted := by simp
  onLine := by simp [Text.isLineEnd]
  noFrom b _ := not_infix_of_length_le (by decide) b

def otherImport : Import where
  clause := .named ['d'] []
  rest := ['y', '\'']
  plain := List.forall_mem_singleton.mpr (isPlain_singleton (by decide) (by decide))
  quoted := by simp
  onLine := by simp [Text.isLineEnd]
  noFrom b _ := not_infix_of_length_le (by decide) b

def wantedName : Text := ['x', '\'']

def mixedSource : List (SourceLine (some wantedName)) :=
  [.statement mixedImport, .other "let k = 1" (by decide) (by decide) (by decide),
    .statement otherImport]

/-- The filter keeps the second statement out, and the line between says nothing. -/
theorem imports_intercalate_mixed :
    imports (some wantedName) (['\n'].intercalate
      ["import c, \x7ba, b\x7d from 'x'", "let k = 1", "import \x7bd\x7d from 'y'"]) =
        ["c".toList, "a".toList, "b".toList] ∧
      imports (some wantedName) (Text.crLf.intercalate
        ["import c, \x7ba, b\x7d from 'x'", "let k = 1", "import \x7bd\x7d from 'y'"]) =
          ["c".toList, "a".toList, "b".toList] := by
  obtain ⟨hlineFeed, hcrLf, -⟩ := imports_intercalate (some wantedName) mixedSource
  have hsymbols : mixedSource.flatMap (·.symbols) = ["c".toList, "a".toList, "b".toList] := by
    decide
  exact ⟨hlineFeed.trans hsymbols, hcrLf.trans hsymbols⟩

/-- The last ` from` after the keyword ends the clause, and only the braces are left out. -/
example : imports none "import c, \x7ba, b\x7d from 'x'" = ["c".toList, "a".toList, "b".toList] := by
  decide

end Source

end ImportCensus.Statement
