import ImportCensus.Proofs.Statement.LeftmostLongest
import Mathlib.Data.List.Infix
/-!
# Starts behind a brace

A clause may begin right behind a keyword and its blank, and once more behind a brace that follows
them.  The second start is never needed: a clause that begins behind the brace may end exactly
where one that begins with the brace may, and the start at the brace is tried first.
-/

namespace ImportCensus.Statement

/-- The rests of a line right behind a keyword and its blank, from left to right. -/
def keywordStarts (line : Text) : List Text :=
  line.tails.filterMap afterKeyword?

def EndsKeyword (before : Text) : Prop :=
  ∃ b, Text.isBlank b = true ∧ keyword ++ [b] <:+ before

variable {line before rest : Text} {s e : Nat}

/-! ## The starts that are tried -/

theorem keywordStarts_cons (c : Char) (line : Text) :
    keywordStarts (c :: line) = (afterKeyword? (c :: line)).toList ++ keywordStarts line := by
  rw [keywordStarts, List.tails_cons, List.filterMap_cons]
  cases afterKeyword? (c :: line) with
  | none => rfl
  | some t => rfl

/-- Each start behind a keyword is tried, and after it the one behind its brace. -/
theorem clauseStarts_eq_flatMap (line : Text) :
    clauseStarts line = (keywordStarts line).flatMap startsAt := by
  induction line with
  | nil => rfl
  | cons c line ih =>
    rw [clauseStarts, keywordStarts_cons, List.flatMap_append, ih]
    cases afterKeyword? (c :: line) with
    | none => rfl
    | some t => simp only [Option.toList_some, List.flatMap_singleton]

theorem findSome?_flatMap {α β γ : Type} (l : List α) (f : α → List β) (g : β → Option γ) :
    (l.flatMap f).findSome? g = l.findSome? fun a => (f a).findSome? g := by
  rw [← List.head?_filterMap, List.filterMap_flatMap, List.head?_flatMap]
  simp only [List.head?_filterMap]

/-! ## Ends behind a brace -/

theorem endsBefore_brace (rest : Text) : endsBefore ('{' :: rest) = false := by
  have hblank : Text.isBlank '{' = false := by decide
  simp [endsBefore, Text.dropLead, hblank]

theorem longestClause?_brace (rest : Text) :
    longestClause? ('{' :: rest) = (longestClause? rest).map ('{' :: ·) := by
  rw [longestClause?, if_neg (by decide), endsBefore_brace]
  cases longestClause? rest with
  | none => rfl
  | some clause => rfl

theorem findSome?_startsAt (t : Text) :
    (startsAt t).findSome? longestClause? = longestClause? t := by
  unfold startsAt
  split
  · rename_i rest
    rw [List.findSome?_cons, List.findSome?_singleton, longestClause?_brace]
    cases longestClause? rest with
    | none => rfl
    | some clause => rfl
  · exact List.findSome?_singleton

theorem findSome?_keywordStarts (line : Text) :
    (keywordStarts line).findSome? longestClause? = clause? line := by
  rw [clause?, clauseStarts_eq_flatMap, findSome?_flatMap]
  simp only [findSome?_startsAt]

/-! ## Places behind a brace -/

theorem opensClause_iff :
    OpensClause before ↔
      EndsKeyword before ∨ ∃ shorter, before = shorter ++ ['{'] ∧ EndsKeyword shorter := by
  constructor
  · rintro ⟨b, hb, h | ⟨t, rfl⟩⟩
    · exact Or.inl ⟨b, hb, h⟩
    · exact Or.inr ⟨t ++ (keyword ++ [b]), by simp, b, hb, List.suffix_append _ _⟩
  · rintro (⟨b, hb, h⟩ | ⟨shorter, rfl, b, hb, t, rfl⟩)
    · exact ⟨b, hb, Or.inl h⟩
    · exact ⟨b, hb, Or.inr ⟨t, by simp⟩⟩

theorem between_brace (h : before.length + 1 ≤ e) :
    between (before ++ '{' :: rest) before.length e =
      '{' :: between (before ++ '{' :: rest) (before.length + 1) e := by
  have hlength : e - before.length = (e - (before.length + 1)) + 1 := by omega
  rw [between, between, List.drop_left, List.drop_length_add_append, List.drop_one,
    List.tail_cons, hlength, List.take_succ_cons]

theorem lt_of_isCandidate_brace (h : IsCandidate (before ++ '{' :: rest) before.length e) :
    before.length + 1 ≤ e := by
  have hne : e ≠ before.length := by
    intro heq
    have hend := closesClause_iff.mp h.closed
    rw [heq, List.drop_left, endsBefore_brace] at hend
    cases hend
  have hle := h.ordered
  omega

/-- From behind a brace that follows a keyword the same ends are reached as from the brace. -/
theorem isCandidate_behind_brace_iff (hline : line = before ++ '{' :: rest)
    (hends : EndsKeyword before) :
    IsCandidate line (before.length + 1) e ↔ IsCandidate line before.length e := by
  have hbrace : Text.isLineEnd '{' = false := by decide
  subst hline
  constructor
  · intro h
    refine ⟨Nat.le_of_succ_le h.ordered, ?_, ?_, h.closed⟩
    · rw [List.take_left]
      exact opensClause_iff.mpr (Or.inl hends)
    · rw [between_brace h.ordered, List.forall_mem_cons]
      exact ⟨hbrace, h.onLine⟩
  · intro h
    have hle := lt_of_isCandidate_brace h
    have honLine := h.onLine
    rw [between_brace hle, List.forall_mem_cons] at honLine
    refine ⟨hle, ?_, honLine.2, h.closed⟩
    rw [List.take_length_add_append]
    exact opensClause_iff.mpr (Or.inr ⟨before, rfl, hends⟩)

theorem endsKeyword_of_isLeftmostLongest (h : IsLeftmostLongest line s e) :
    EndsKeyword (line.take s) := by
  obtain ⟨before, r, -, -, hline, hopens, -, hs, -⟩ := isCandidate_iff.mp h.candidate
  rw [hline, hs, List.take_left]
  rcases opensClause_iff.mp hopens with hends | ⟨shorter, hshorter, hends⟩
  · exact hends
  · -- otherwise the place that starts with the brace would be further to the left
    exfalso
    have hwhole : line = shorter ++ '{' :: r := by
      rw [hline, hshorter, List.append_assoc, List.singleton_append]
    have hlength : s = shorter.length + 1 := by
      rw [hs, hshorter, List.length_append, List.length_singleton]
    have hbehind : IsCandidate line (shorter.length + 1) e := by
      rw [← hlength]
      exact h.candidate
    have hle := h.leftmost _ _ ((isCandidate_behind_brace_iff hwhole hends).mp hbehind)
    omega

theorem clause?_of_isLeftmostLongest_brace (hline : line = before ++ '{' :: rest)
    (h : IsLeftmostLongest line before.length e) :
    clause? line = some ('{' :: between line (before.length + 1) e) := by
  subst hline
  rw [clause?_of_isLeftmostLongest h, between_brace (lt_of_isCandidate_brace h.candidate)]

/-- The start behind a brace is never needed.  A line has the same clause if only the starts right
behind a keyword and its blank are tried, and its clause always stands at one of these.  From
behind a brace there the same ends are reached as from the brace, so that the clause begins with
the brace, and only the erasing of the first opening brace keeps it out of the symbols. -/
theorem clause?_keywordStarts (line : Text) :
    (keywordStarts line).findSome? longestClause? = clause? line ∧
      (∀ s e, IsLeftmostLongest line s e → EndsKeyword (line.take s)) ∧
      ∀ before rest, line = before ++ '{' :: rest → EndsKeyword before →
        (∀ e, IsCandidate line (before.length + 1) e ↔ IsCandidate line before.length e) ∧
        ∀ e, IsLeftmostLongest line before.length e →
          clause? line = some ('{' :: between line (before.length + 1) e) ∧
            (Fragment.captured line).symbolList =
              (between line (before.length + 1) e).erase '}' := by
  refine ⟨findSome?_keywordStarts line, fun s e => endsKeyword_of_isLeftmostLongest, ?_⟩
  intro before rest hline hends
  refine ⟨fun e => isCandidate_behind_brace_iff hline hends, ?_⟩
  intro e hplace
  have hclause := clause?_of_isLeftmostLongest_brace hline hplace
  refine ⟨hclause, ?_⟩
  rw [Fragment.symbolList, hclause, Option.getD_some, List.erase_cons_head]

/-- A line with two keywords: the clause of the first one would have to pass a line end. -/
def twoKeywords : Text := "import 'x'\rimport \x7bb\x7d from 'y'"

theorem isLeftmostLongest_twoKeywords : IsLeftmostLongest twoKeywords 18 21 := by
  have hlength : twoKeywords.length = 30 := by decide
  have hstarts : ∀ r ∈ clauseStarts twoKeywords, (longestClause? r).isSome → r.length ≤ 12 := by
    decide
  have hends : ∀ r ∈ clauseStarts twoKeywords, r.length = 12 →
      ∀ longest ∈ longestClause? r, longest.length = 3 := by
    decide
  have hbetween : between twoKeywords 18 21 = ['{', 'b', '}'] := by decide
  have honLine : ∀ c ∈ between twoKeywords 18 21, Text.isLineEnd c = false := by
    simp [hbetween, Text.isLineEnd]
  refine ⟨⟨by decide, ⟨' ', by decide, Or.inl (by decide)⟩, honLine,
    ⟨' ', by decide, Or.inl (by decide)⟩⟩, ?_, ?_⟩
  · intro s e hcandidate
    obtain ⟨before, r, -, longest, hline, hmem, hs, -, hlongest, -⟩ :=
      mem_clauseStarts_of_isCandidate hcandidate
    have hle := hstarts r hmem (by rw [hlongest]; rfl)
    rw [hline, List.length_append] at hlength
    omega
  · intro e hcandidate
    obtain ⟨before, r, clause, longest, hline, hmem, hs, he, hlongest, hle⟩ :=
      mem_clauseStarts_of_isCandidate hcandidate
    rw [hline, List.length_append] at hlength
    have hthree := hends r hmem (by omega) longest hlongest
    omega

/-- The second keyword has the clause, and the brace behind it is no part of the symbol. -/
theorem clause?_keywordStarts_twoKeywords :
    twoKeywords = twoKeywords.take 18 ++ '{' :: twoKeywords.drop 19 ∧
      EndsKeyword (twoKeywords.take 18) ∧ IsLeftmostLongest twoKeywords 18 21 ∧
      clause? twoKeywords = some "\x7bb\x7d".toList ∧
      (Fragment.captured twoKeywords).symbolList = ['b'] := by
  have hline : twoKeywords = twoKeywords.take 18 ++ '{' :: twoKeywords.drop 19 := by decide
  have hends : EndsKeyword (twoKeywords.take 18) := ⟨' ', by decide, by decide⟩
  obtain ⟨hclause, hsymbols⟩ := ((clause?_keywordStarts twoKeywords).2.2 _ _ hline hends).2 21
    isLeftmostLongest_twoKeywords
  refine ⟨hline, hends, isLeftmostLongest_twoKeywords, ?_, ?_⟩
  · rw [hclause]
    decide
  · rw [hsymbols]
    decide

end ImportCensus.Statement
