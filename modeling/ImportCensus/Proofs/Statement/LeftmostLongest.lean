import ImportCensus.Proofs.Statement.Clause
import ImportCensus.Statement.Fragment
/-!
# Which clause a line has

The places where a clause may stand in a line, by what is before, in and behind it.  The clause
of a line stands at the leftmost of the places where one may begin, and reaches to the last place
where it may end.
-/

namespace ImportCensus.Statement

def OpensClause (before : Text) : Prop :=
  ∃ b, Text.isBlank b = true ∧ (keyword ++ [b] <:+ before ∨ keyword ++ [b, '{'] <:+ before)

def ClosesClause (rest : Text) : Prop :=
  ∃ b, Text.isBlank b = true ∧ (b :: fromWord <+: rest ∨ '}' :: b :: fromWord <+: rest)

def between (line : Text) (s e : Nat) : Text :=
  (line.drop s).take (e - s)

/-- A clause may stand from the position `s` of a line up to the position `e`. -/
structure IsCandidate (line : Text) (s e : Nat) : Prop where
  ordered : s ≤ e
  opened : OpensClause (line.take s)
  onLine : ∀ c ∈ between line s e, Text.isLineEnd c = false
  closed : ClosesClause (line.drop e)

/-- Of the places where a clause may stand, those of the smallest start and then of the largest
end. -/
structure IsLeftmostLongest (line : Text) (s e : Nat) : Prop where
  candidate : IsCandidate line s e
  leftmost : ∀ s' e', IsCandidate line s' e' → s ≤ s'
  longest : ∀ e', IsCandidate line s e' → e' ≤ e

variable {line before rest r : Text} {s e : Nat}

/-! ## Starts -/

theorem afterKeyword?_eq_some_iff {t : Text} :
    afterKeyword? t = some rest ↔ ∃ b, Text.isBlank b = true ∧ t = keyword ++ b :: rest := by
  constructor
  · intro h
    rw [afterKeyword?] at h
    split at h
    · rename_i hprefix
      obtain ⟨t, rfl⟩ := List.isPrefixOf_iff_prefix.mp hprefix
      rw [List.drop_left] at h
      cases t with
      | nil => cases h
      | cons b t =>
        by_cases hb : Text.isBlank b = true
        · obtain rfl : t = rest := by simpa [hb] using h
          exact ⟨b, hb, rfl⟩
        · simp [hb] at h
    · cases h
  · rintro ⟨b, hb, rfl⟩
    simp [afterKeyword?, keyword, hb]

theorem mem_startsAt_iff {t : Text} : r ∈ startsAt t ↔ r = t ∨ t = '{' :: r := by
  unfold startsAt
  split
  · simp [eq_comm]
  · rename_i hbrace
    rw [List.mem_singleton]
    exact ⟨Or.inl, fun h => h.resolve_right fun h' => hbrace r h'⟩

def BeginsClause (t r : Text) : Prop :=
  ∃ b, Text.isBlank b = true ∧ (t = keyword ++ [b] ++ r ∨ t = keyword ++ [b, '{'] ++ r)

theorem mem_startsAt_of_afterKeyword? {t : Text} (h : afterKeyword? line = some t) :
    r ∈ startsAt t ↔ BeginsClause line r := by
  obtain ⟨b, hb, rfl⟩ := afterKeyword?_eq_some_iff.mp h
  rw [mem_startsAt_iff]
  constructor
  · rintro (rfl | rfl)
    · exact ⟨b, hb, Or.inl (by simp)⟩
    · exact ⟨b, hb, Or.inr (by simp)⟩
  · rintro ⟨b', -, heq | heq⟩
    · rw [List.append_assoc] at heq
      exact Or.inl (List.cons.inj (List.append_cancel_left heq)).2.symm
    · rw [List.append_assoc] at heq
      exact Or.inr (List.cons.inj (List.append_cancel_left heq)).2

theorem not_beginsClause_of_afterKeyword? (h : afterKeyword? line = none) :
    ¬ BeginsClause line r := by
  have hnone : ∀ rest, afterKeyword? line ≠ some rest := by simp [h]
  rintro ⟨b, hb, rfl | rfl⟩
  · exact hnone r (afterKeyword?_eq_some_iff.mpr ⟨b, hb, by simp⟩)
  · exact hnone ('{' :: r) (afterKeyword?_eq_some_iff.mpr ⟨b, hb, by simp⟩)

theorem mem_clauseStarts_cons {c : Char} :
    r ∈ clauseStarts (c :: line) ↔ BeginsClause (c :: line) r ∨ r ∈ clauseStarts line := by
  rw [clauseStarts]
  split
  · rename_i h
    rw [List.mem_append, mem_startsAt_of_afterKeyword? h]
  · rename_i h
    simp only [not_beginsClause_of_afterKeyword? h, false_or]

theorem not_opensClause_nil : ¬ OpensClause [] := by
  rintro ⟨b, -, h | h⟩
  · simp [keyword] at h
  · simp [keyword] at h

theorem opensClause_cons_iff {c : Char} :
    OpensClause (c :: before) ↔ BeginsClause (c :: before ++ r) r ∨ OpensClause before := by
  simp only [OpensClause, BeginsClause, List.suffix_cons_iff, List.append_left_inj]
  constructor
  · rintro ⟨b, hb, (h | h) | (h | h)⟩
    · exact Or.inl ⟨b, hb, Or.inl h.symm⟩
    · exact Or.inr ⟨b, hb, Or.inl h⟩
    · exact Or.inl ⟨b, hb, Or.inr h.symm⟩
    · exact Or.inr ⟨b, hb, Or.inr h⟩
  · rintro (⟨b, hb, h | h⟩ | ⟨b, hb, h | h⟩)
    · exact ⟨b, hb, Or.inl (Or.inl h.symm)⟩
    · exact ⟨b, hb, Or.inr (Or.inl h.symm)⟩
    · exact ⟨b, hb, Or.inl (Or.inr h)⟩
    · exact ⟨b, hb, Or.inr (Or.inr h)⟩

/-- A clause may begin with those rests of the line that stand behind a text which opens one. -/
theorem mem_clauseStarts_iff :
    r ∈ clauseStarts line ↔ ∃ before, line = before ++ r ∧ OpensClause before := by
  induction line with
  | nil =>
    simp only [clauseStarts, List.not_mem_nil, false_iff]
    rintro ⟨before, heq, hopens⟩
    obtain ⟨rfl, rfl⟩ := List.append_eq_nil_iff.mp heq.symm
    exact not_opensClause_nil hopens
  | cons c line ih =>
    rw [mem_clauseStarts_cons, ih]
    constructor
    · rintro (⟨b, hb, h | h⟩ | ⟨before, rfl, hopens⟩)
      · exact ⟨keyword ++ [b], h, b, hb, Or.inl (List.suffix_refl _)⟩
      · exact ⟨keyword ++ [b, '{'], h, b, hb, Or.inr (List.suffix_refl _)⟩
      · exact ⟨c :: before, rfl, (opensClause_cons_iff (r := r)).mpr (Or.inr hopens)⟩
    · rintro ⟨before, heq, hopens⟩
      cases before with
      | nil => exact absurd hopens not_opensClause_nil
      | cons d before =>
        obtain ⟨rfl, rfl⟩ := List.cons.inj heq
        rcases (opensClause_cons_iff (r := r)).mp hopens with hhere | hopens
        · exact Or.inl hhere
        · exact Or.inr ⟨before, rfl, hopens⟩

theorem length_add_of_mem_clauseStarts (h : r ∈ clauseStarts line) :
    r.length + keyword.length + 1 ≤ line.length := by
  obtain ⟨before, rfl, b, -, hb | hb⟩ := mem_clauseStarts_iff.mp h
  · have hle := hb.length_le
    simp only [List.length_append, List.length_cons, List.length_nil] at hle ⊢
    omega
  · have hle := hb.length_le
    simp only [List.length_append, List.length_cons, List.length_nil] at hle ⊢
    omega

theorem pairwise_clauseStarts (line : Text) :
    (clauseStarts line).Pairwise fun r r' => r'.length ≤ r.length := by
  induction line with
  | nil => exact List.Pairwise.nil
  | cons c line ih =>
    rw [clauseStarts]
    split
    · rename_i t ht
      obtain ⟨b, -, hline⟩ := afterKeyword?_eq_some_iff.mp ht
      have hlength := congrArg List.length hline
      simp only [List.length_append, List.length_cons] at hlength
      refine List.pairwise_append.mpr ⟨?_, ih, fun r hr r' hr' => ?_⟩
      · unfold startsAt
        split
        · simp
        · simp
      · -- a keyword further on begins its clauses further on
        have hr' := length_add_of_mem_clauseStarts hr'
        rcases mem_startsAt_iff.mp hr with rfl | rfl
        · omega
        · simp only [List.length_cons] at hlength
          omega
    · exact ih

/-! ## Ends -/

theorem closesClause_iff : ClosesClause rest ↔ endsBefore rest = true := by
  rw [endsBefore_iff, ClosesClause]
  constructor
  · rintro ⟨b, hb, ⟨word, rfl⟩ | ⟨word, rfl⟩⟩
    · exact ⟨b, word, hb, Or.inl rfl⟩
    · exact ⟨b, word, hb, Or.inr rfl⟩
  · rintro ⟨b, word, hb, rfl | rfl⟩
    · exact ⟨b, hb, Or.inl ⟨word, rfl⟩⟩
    · exact ⟨b, hb, Or.inr ⟨word, rfl⟩⟩

theorem closesClause_ne_nil (h : ClosesClause rest) : rest ≠ [] := by
  rintro rfl
  obtain ⟨b, -, h | h⟩ := h
  · simp at h
  · simp at h

/-! ## Places -/

theorem between_append {clause : Text} :
    between (before ++ (clause ++ rest)) before.length (before.length + clause.length) =
      clause := by
  rw [between, List.drop_left, Nat.add_sub_cancel_left, List.take_left]

/-- The places of a line are its starts, each with what may be cut off there. -/
theorem isCandidate_iff :
    IsCandidate line s e ↔ ∃ before r clause rest, line = before ++ r ∧ OpensClause before ∧
      Cuts r clause rest ∧ s = before.length ∧ e = before.length + clause.length := by
  constructor
  · intro h
    have hlt : e < line.length := List.length_lt_of_drop_ne_nil (closesClause_ne_nil h.closed)
    have hle := h.ordered
    have hrest : (line.drop s).drop (e - s) = line.drop e := by
      rw [List.drop_drop, Nat.add_sub_cancel' hle]
    have hlength : (between line s e).length = e - s := by
      rw [between, List.length_take, List.length_drop]
      omega
    have hcut : Cuts (line.drop s) (between line s e) (line.drop e) := by
      refine ⟨?_, h.onLine, closesClause_iff.mp h.closed⟩
      rw [← hrest, between, List.take_append_drop]
    refine ⟨line.take s, line.drop s, between line s e, line.drop e,
      (List.take_append_drop s line).symm, h.opened, hcut, ?_, ?_⟩
    · rw [List.length_take]
      omega
    · rw [hlength, List.length_take]
      omega
  · rintro ⟨before, r, clause, rest, rfl, hopens, hcut, rfl, rfl⟩
    obtain rfl := hcut.whole
    refine ⟨Nat.le_add_right _ _, ?_, ?_, ?_⟩
    · rwa [List.take_left]
    · rw [between_append]
      exact hcut.onLine
    · rw [← List.append_assoc, ← List.length_append, List.drop_left]
      exact closesClause_iff.mpr hcut.ended

theorem mem_clauseStarts_of_isCandidate (h : IsCandidate line s e) :
    ∃ before r, ∃ clause longest : Text, line = before ++ r ∧ r ∈ clauseStarts line ∧
      s = before.length ∧ e = before.length + clause.length ∧
      longestClause? r = some longest ∧ clause.length ≤ longest.length := by
  obtain ⟨before, r, clause, rest, heq, hopens, hcut, hs, he⟩ := isCandidate_iff.mp h
  obtain ⟨longest, hlongest, hle⟩ := exists_longer_of_cuts hcut
  exact ⟨before, r, clause, longest, heq, mem_clauseStarts_iff.mpr ⟨before, heq, hopens⟩, hs, he,
    hlongest, hle⟩

theorem IsLeftmostLongest.unique {s' e' : Nat} (h : IsLeftmostLongest line s e)
    (h' : IsLeftmostLongest line s' e') : s = s' ∧ e = e' := by
  obtain rfl : s = s' := Nat.le_antisymm (h.leftmost _ _ h'.candidate) (h'.leftmost _ _ h.candidate)
  exact ⟨rfl, Nat.le_antisymm (h'.longest _ h.candidate) (h.longest _ h'.candidate)⟩

theorem exists_isLeftmostLongest {clause : Text} (h : clause? line = some clause) :
    ∃ s e, IsLeftmostLongest line s e ∧ between line s e = clause := by
  obtain ⟨passed, r, others, hstarts, hlongest, hpassed⟩ := List.findSome?_eq_some_iff.mp h
  have hmem : r ∈ clauseStarts line := by simp [hstarts]
  obtain ⟨before, hline, hopens⟩ := mem_clauseStarts_iff.mp hmem
  obtain ⟨⟨rest, hcut⟩, hmax⟩ := longestClause?_eq_some_iff.mp hlongest
  have hlength : before.length + r.length = line.length := by rw [hline, List.length_append]
  refine ⟨before.length, before.length + clause.length, ⟨?_, ?_, ?_⟩, ?_⟩
  · exact isCandidate_iff.mpr ⟨before, r, clause, rest, hline, hopens, hcut, rfl, rfl⟩
  · intro s' e' hcandidate
    obtain ⟨before', r', -, longest, hline', hmem', rfl, -, hlongest', -⟩ :=
      mem_clauseStarts_of_isCandidate hcandidate
    have hsorted := pairwise_clauseStarts line
    rw [hstarts] at hmem' hsorted
    have hle : r'.length ≤ r.length := by
      rcases List.mem_append.mp hmem' with hmem' | hmem'
      · rw [hpassed r' hmem'] at hlongest'
        cases hlongest'
      · rcases List.mem_cons.mp hmem' with rfl | hmem'
        · exact Nat.le_refl _
        · exact (List.pairwise_cons.mp (List.pairwise_append.mp hsorted).2.1).1 r' hmem'
    have hlength' : before'.length + r'.length = line.length := by rw [hline', List.length_append]
    omega
  · intro e' hcandidate
    obtain ⟨before', r', clause', longest, hline', -, hs, rfl, hlongest', hle⟩ :=
      mem_clauseStarts_of_isCandidate hcandidate
    obtain ⟨rfl, rfl⟩ := List.append_inj (hline.symm.trans hline') hs
    obtain rfl : clause = longest := Option.some.inj (hlongest.symm.trans hlongest')
    exact Nat.add_le_add_left hle _
  · rw [hline, hcut.whole, between_append]

theorem clause?_eq_none_iff : clause? line = none ↔ ∀ s e, ¬ IsCandidate line s e := by
  constructor
  · intro h s e hcandidate
    obtain ⟨-, r, -, longest, -, hmem, -, -, hlongest, -⟩ :=
      mem_clauseStarts_of_isCandidate hcandidate
    rw [List.findSome?_eq_none_iff.mp h r hmem] at hlongest
    cases hlongest
  · intro h
    cases hclause : clause? line with
    | none => rfl
    | some clause =>
      obtain ⟨s, e, hplace, -⟩ := exists_isLeftmostLongest hclause
      exact absurd hplace.candidate (h s e)

theorem clause?_of_isLeftmostLongest (h : IsLeftmostLongest line s e) :
    clause? line = some (between line s e) := by
  cases hclause : clause? line with
  | none => exact absurd h.candidate (clause?_eq_none_iff.mp hclause s e)
  | some clause =>
    obtain ⟨s', e', hplace, rfl⟩ := exists_isLeftmostLongest hclause
    obtain ⟨rfl, rfl⟩ := h.unique hplace
    rfl

theorem onLine_of_clause? {clause : Text} (h : clause? line = some clause) :
    ∀ c ∈ clause, Text.isLineEnd c = false := by
  obtain ⟨s, e, hplace, rfl⟩ := exists_isLeftmostLongest h
  exact hplace.candidate.onLine

theorem symbolList_onLine (line : Text) :
    ∀ c ∈ (Fragment.captured line).symbolList, Text.isLineEnd c = false := by
  intro c hc
  have hmem : c ∈ (clause? line).getD [] := List.mem_of_mem_erase (List.mem_of_mem_erase hc)
  cases hclause : clause? line with
  | none => simp [hclause] at hmem
  | some clause => exact onLine_of_clause? hclause c (by simpa [hclause] using hmem)

/-- A line has no clause exactly when there is no place for one, and otherwise the one that stands
at the leftmost and there at the longest place.  What a captured line gives is that clause, or
nothing, without its first opening and its first closing brace, and it stays on one line. -/
theorem clause?_leftmost_longest (line : Text) :
    (clause? line = none ↔ ∀ s e, ¬ IsCandidate line s e) ∧
      (∀ clause, clause? line = some clause ↔
        ∃ s e, IsLeftmostLongest line s e ∧ clause = between line s e) ∧
      ((∀ s e, ¬ IsCandidate line s e) → (Fragment.captured line).symbolList = []) ∧
      (∀ s e, IsLeftmostLongest line s e →
        (Fragment.captured line).symbolList = ((between line s e).erase '{').erase '}') ∧
      ∀ c ∈ (Fragment.captured line).symbolList, Text.isLineEnd c = false := by
  refine ⟨clause?_eq_none_iff, fun clause => ⟨fun h => ?_, ?_⟩, fun h => ?_, fun s e h => ?_,
    symbolList_onLine line⟩
  · obtain ⟨s, e, hplace, rfl⟩ := exists_isLeftmostLongest h
    exact ⟨s, e, hplace, rfl⟩
  · rintro ⟨s, e, hplace, rfl⟩
    exact clause?_of_isLeftmostLongest hplace
  · rw [Fragment.symbolList, clause?_eq_none_iff.mpr h]
    rfl
  · rw [Fragment.symbolList, clause?_of_isLeftmostLongest h, Option.getD_some]

/-- Of two statements on a line the first one begins the clause, and the last `from` ends it. -/
example : clause? "import \x7ba\x7d from 'x'; import \x7bb\x7d from 'y'" =
    some "\x7ba\x7d from 'x'; import \x7bb\x7d".toList := by
  decide

end ImportCensus.Statement
