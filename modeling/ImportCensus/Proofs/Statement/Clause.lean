import ImportCensus.Statement.Clause
/-!
# Cutting a clause off

`Cuts` says where a clause that starts at a given place may end.  `longestClause?` answers with
the longest of these clauses, and with none only if there is none.
-/

namespace ImportCensus.Statement

/-- `clause` may be cut off the front of `s`, before `rest`. -/
structure Cuts (s clause rest : Text) : Prop where
  whole : s = clause ++ rest
  onLine : ∀ c ∈ clause, Text.isLineEnd c = false
  ended : endsBefore rest = true

theorem endsBefore_iff_of_dropLead {rest s : Text} (h : Text.dropLead ['}'] rest = s) :
    endsBefore rest = true ↔
      ∃ b word, Text.isBlank b = true ∧ s = b :: (fromWord ++ word) := by
  rw [endsBefore, h]
  cases s with
  | nil => simp
  | cons c s =>
    simp only [Bool.and_eq_true, List.isPrefixOf_iff_prefix, List.cons.injEq]
    constructor
    · rintro ⟨hc, word, rfl⟩
      exact ⟨c, word, hc, rfl, rfl⟩
    · rintro ⟨b, word, hb, rfl, rfl⟩
      exact ⟨hb, word, rfl⟩

theorem endsBefore_iff {rest : Text} :
    endsBefore rest = true ↔ ∃ b word, Text.isBlank b = true ∧
      (rest = b :: (fromWord ++ word) ∨ rest = '}' :: b :: (fromWord ++ word)) := by
  by_cases hbrace : ∃ s, rest = '}' :: s
  · obtain ⟨s, rfl⟩ := hbrace
    have hdrop : Text.dropLead ['}'] ('}' :: s) = s := by simp [Text.dropLead]
    have hblank : Text.isBlank '}' = false := by decide
    rw [endsBefore_iff_of_dropLead hdrop]
    constructor
    · rintro ⟨b, word, hb, rfl⟩
      exact ⟨b, word, hb, Or.inr rfl⟩
    · rintro ⟨b, word, hb, h | h⟩
      · rw [(List.cons.inj h).1, hb] at hblank
        cases hblank
      · exact ⟨b, word, hb, (List.cons.inj h).2⟩
  · have hdrop : Text.dropLead ['}'] rest = rest := by
      rw [Text.dropLead, if_neg]
      rw [List.isPrefixOf_iff_prefix]
      rintro ⟨s, rfl⟩
      exact hbrace ⟨s, rfl⟩
    rw [endsBefore_iff_of_dropLead hdrop]
    refine exists_congr fun b => exists_congr fun word => and_congr_right fun _ => ?_
    exact ⟨Or.inl, fun h => h.resolve_right fun h' => hbrace ⟨_, h'⟩⟩

theorem cuts_of_longestClause? {s clause : Text} (h : longestClause? s = some clause) :
    ∃ rest, Cuts s clause rest := by
  induction s generalizing clause with
  | nil => cases h
  | cons c s ih =>
    rw [longestClause?] at h
    split at h
    · rename_i longer hlonger
      obtain rfl := Option.some.inj h
      by_cases hc : Text.isLineEnd c = true
      · rw [if_pos hc] at hlonger
        cases hlonger
      · rw [if_neg hc] at hlonger
        obtain ⟨rest, hcut⟩ := ih hlonger
        refine ⟨rest, by rw [hcut.whole, List.cons_append], ?_, hcut.ended⟩
        rw [List.forall_mem_cons]
        exact ⟨by simpa using hc, hcut.onLine⟩
    · by_cases hend : endsBefore (c :: s) = true
      · rw [if_pos hend] at h
        obtain rfl := Option.some.inj h
        exact ⟨c :: s, rfl, by simp, hend⟩
      · rw [if_neg hend] at h
        cases h

theorem exists_longer_of_cuts {s clause rest : Text} (h : Cuts s clause rest) :
    ∃ longest, longestClause? s = some longest ∧ clause.length ≤ longest.length := by
  induction s generalizing clause with
  | nil =>
    obtain ⟨rfl, rfl⟩ := List.append_eq_nil_iff.1 h.whole.symm
    exact absurd h.ended (by decide)
  | cons c s ih =>
    rw [longestClause?]
    cases clause with
    | nil =>
      obtain rfl : rest = c :: s := h.whole.symm
      split
      · exact ⟨_, rfl, Nat.zero_le _⟩
      · rw [if_pos h.ended]
        exact ⟨[], rfl, Nat.le_refl _⟩
    | cons d clause =>
      obtain ⟨rfl, hs⟩ := List.cons.inj h.whole
      have honLine := List.forall_mem_cons.1 h.onLine
      obtain ⟨longest, hlongest, hle⟩ := ih ⟨hs, honLine.2, h.ended⟩
      rw [if_neg (by simp [honLine.1]), hlongest]
      exact ⟨c :: longest, rfl, Nat.succ_le_succ hle⟩

theorem longestClause?_eq_some_iff {s clause : Text} :
    longestClause? s = some clause ↔
      (∃ rest, Cuts s clause rest) ∧ ∀ c rest, Cuts s c rest → c.length ≤ clause.length := by
  constructor
  · intro h
    refine ⟨cuts_of_longestClause? h, fun c rest hcut => ?_⟩
    obtain ⟨longest, hlongest, hle⟩ := exists_longer_of_cuts hcut
    obtain rfl : clause = longest := Option.some.inj (h.symm.trans hlongest)
    exact hle
  · rintro ⟨⟨rest, hcut⟩, hmax⟩
    obtain ⟨longest, hlongest, hle⟩ := exists_longer_of_cuts hcut
    obtain ⟨rest', hcut'⟩ := cuts_of_longestClause? hlongest
    have hlen : clause.length = longest.length := Nat.le_antisymm hle (hmax _ _ hcut')
    have heq := hcut.whole.symm.trans hcut'.whole
    rw [hlongest, (List.append_inj heq hlen).1]

theorem startsAt_eq_cons (s : Text) : ∃ others, startsAt s = s :: others := by
  unfold startsAt
  split
  · exact ⟨_, rfl⟩
  · exact ⟨[], rfl⟩

theorem clause?_of_longestClause? {b : Char} {s clause : Text} (hb : Text.isBlank b = true)
    (h : longestClause? s = some clause) : clause? (keyword ++ b :: s) = some clause := by
  obtain ⟨others, hothers⟩ := startsAt_eq_cons s
  have hafter : afterKeyword? ('i' :: ['m', 'p', 'o', 'r', 't'] ++ b :: s) = some s := by
    simp [afterKeyword?, keyword, hb]
  have hstarts : ∃ more, clauseStarts (keyword ++ b :: s) = s :: more := by
    refine ⟨others ++ clauseStarts (['m', 'p', 'o', 'r', 't'] ++ b :: s), ?_⟩
    rw [keyword, List.cons_append, clauseStarts]
    simp only [List.cons_append] at hafter
    simp only [List.cons_append, hafter, hothers]
  obtain ⟨more, hmore⟩ := hstarts
  rw [clause?, hmore, List.findSome?_cons, h]

end ImportCensus.Statement
