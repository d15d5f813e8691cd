import ImportCensus.Proofs.Text.Cutting
import ImportCensus.Proofs.Text.Pieces
/-!
# Lines that are joined and cut again

The lines of a text are the only parts without the text's separator that it joins to the text.
Lines without carriage return and line feed come back from the text that they make, whether
they are joined with line feeds or with pairs of carriage return and line feed.  So a text without
carriage returns keeps its lines when its line feeds become such pairs, and has one empty line more
for each line end of its kind that is put behind it.
-/

namespace ImportCensus.Text

theorem mem_intercalate {α : Type} {sep : List α} {x : α} {parts : List (List α)}
    (h : x ∈ sep.intercalate parts) : x ∈ sep ∨ ∃ part ∈ parts, x ∈ part := by
  induction parts with
  | nil => cases h
  | cons p ps ih =>
    cases ps with
    | nil => exact Or.inr ⟨p, by simp, by rwa [List.intercalate_singleton] at h⟩
    | cons q qs =>
      rw [List.intercalate_cons_cons, List.mem_append, List.mem_append] at h
      rcases h with (h | h) | h
      · exact Or.inr ⟨p, by simp, h⟩
      · exact Or.inl h
      · obtain h | ⟨part, hpart, h⟩ := ih h
        · exact Or.inl h
        · exact Or.inr ⟨part, List.mem_cons_of_mem _ hpart, h⟩

theorem splitCrLf_intercalate {parts : List Text} (hne : parts ≠ [])
    (h : ∀ part ∈ parts, '\r' ∉ part) : splitCrLf (crLf.intercalate parts) = parts := by
  rw [splitCrLf_eq_splitPair]
  apply splitPair_intercalate (by decide) hne
  intro part hpart hpair
  exact h part hpart (hpair.subset (by simp))

theorem not_occursIn_crLf {text : Text} (h : '\r' ∉ text) : occursIn crLf text = false := by
  rw [← Bool.not_eq_true, occursIn_iff]
  intro hin
  exact h (hin.subset (by simp [crLf]))

theorem lines_intercalate_lineFeed {parts : List Text} (hne : parts ≠ [])
    (h : ∀ part ∈ parts, '\r' ∉ part ∧ '\n' ∉ part) : lines (['\n'].intercalate parts) = parts := by
  have hcr : '\r' ∉ ['\n'].intercalate parts := by
    intro hm
    rcases mem_intercalate hm with hm | ⟨part, hpart, hm⟩
    · exact absurd hm (by decide)
    · exact (h part hpart).1 hm
  rw [lines, not_occursIn_crLf hcr]
  exact splitOn_intercalate hne fun part hpart => (h part hpart).2

theorem lines_intercalate_crLf {parts : List Text} (hne : parts ≠ [])
    (h : ∀ part ∈ parts, '\r' ∉ part ∧ '\n' ∉ part) : lines (crLf.intercalate parts) = parts := by
  rw [lines]
  split
  · exact splitCrLf_intercalate hne fun part hpart => (h part hpart).1
  · rename_i hocc
    obtain ⟨p, rest, rfl⟩ := List.exists_cons_of_ne_nil hne
    cases rest with
    | nil => exact List.intercalate_singleton ▸ splitOn_of_not_mem (h p (by simp)).2
    | cons q qs =>
      refine absurd (occursIn_iff.2 ⟨p, crLf.intercalate (q :: qs), ?_⟩) hocc
      exact List.intercalate_cons_cons.symm

/-! ## The separator of a text -/

def separator (text : Text) : Text :=
  if crLf <:+: text then crLf else ['\n']

section Separator

variable {text : Text} {parts : List Text}

theorem lines_eq_iff :
    lines text = parts ↔
      parts ≠ [] ∧ (∀ part ∈ parts, ¬ separator text <:+: part) ∧
        (separator text).intercalate parts = text := by
  by_cases hpair : crLf <:+: text
  · rw [lines, separator, if_pos (occursIn_iff.mpr hpair), if_pos hpair, splitCrLf_eq_splitPair]
    exact splitPair_eq_iff (by decide)
  · rw [lines, separator, if_neg (mt occursIn_iff.mp hpair), if_neg hpair]
    simp only [List.singleton_infix_iff]
    exact splitOn_eq_iff

/-- The lines of a text are the only list, not an empty one, of parts without the separator that
it joins to the text.  And lines without carriage return and line feed are the lines of the text
that they make, with either separator. -/
theorem lines_eq_iff_intercalate (text : Text) (parts : List Text) :
    (lines text = parts ↔
      parts ≠ [] ∧ (∀ part ∈ parts, ¬ separator text <:+: part) ∧
        (separator text).intercalate parts = text) ∧
    (parts ≠ [] → (∀ part ∈ parts, '\r' ∉ part ∧ '\n' ∉ part) →
      lines (['\n'].intercalate parts) = parts ∧ lines (crLf.intercalate parts) = parts) :=
  ⟨lines_eq_iff, fun hne h => ⟨lines_intercalate_lineFeed hne h, lines_intercalate_crLf hne h⟩⟩

/-- With the pair in a text, a carriage return before it and a line feed without one stay. -/
theorem lines_eq_iff_intercalate_stray :
    lines "a\r\r\nb\nc\r\n" = ["a\r".toList, "b\nc".toList, []] ∧
      lines "a\r\n" = ["a".toList, []] ∧ lines "a\n" = ["a".toList, []] := by
  have hstray := (lines_eq_iff_intercalate "a\r\r\nb\nc\r\n" ["a\r", "b\nc", []]).1.mpr
  have hclean := (lines_eq_iff_intercalate [] ["a", []]).2 (by decide) (by decide)
  exact ⟨hstray ⟨by decide, by decide, by decide⟩, hclean.2, hclean.1⟩

end Separator

/-! ## Line ends of one kind -/

def withCrLf (text : Text) : Text :=
  text.flatMap fun c => if c = '\n' then crLf else [c]

section OneKind

variable {text : Text} {parts : List Text}

theorem withCrLf_of_not_mem (h : '\n' ∉ text) : withCrLf text = text := by
  have hkeep : ∀ c ∈ text, (if c = '\n' then crLf else [c]) = [c] := by
    intro c hc
    apply if_neg
    rintro rfl
    exact h hc
  rw [withCrLf, List.flatMap_congr hkeep, List.flatMap_singleton']

theorem withCrLf_intercalate (hne : parts ≠ []) (h : ∀ part ∈ parts, '\n' ∉ part) :
    withCrLf (['\n'].intercalate parts) = crLf.intercalate parts := by
  have hjoin : ∀ s t, withCrLf (s ++ ['\n'] ++ t) = withCrLf s ++ crLf ++ withCrLf t := by
    simp [withCrLf]
  have hparts : parts.map withCrLf = parts.map id :=
    List.map_congr_left fun part hpart => withCrLf_of_not_mem (h part hpart)
  rw [map_intercalate hjoin hne, hparts, List.map_id]

theorem lines_ne_nil (text : Text) : lines text ≠ [] :=
  (lines_eq_iff.mp rfl).1

theorem intercalate_lines (h : '\r' ∉ text) : ['\n'].intercalate (lines text) = text := by
  rw [lines, not_occursIn_crLf h]
  exact intercalate_splitOn text

theorem not_mem_of_mem_lines (h : '\r' ∉ text) :
    ∀ part ∈ lines text, '\r' ∉ part ∧ '\n' ∉ part := by
  rw [lines, not_occursIn_crLf h]
  intro part hpart
  exact ⟨fun hmem => h ((isInfix_of_mem_splitOn hpart).subset hmem), not_mem_of_mem_splitOn hpart⟩

theorem not_mem_of_mem_append_replicate {n : Nat}
    (h : ∀ part ∈ parts, '\r' ∉ part ∧ '\n' ∉ part) :
    ∀ part ∈ parts ++ List.replicate n [], '\r' ∉ part ∧ '\n' ∉ part := by
  intro part hpart
  rcases List.mem_append.mp hpart with hpart | hpart
  · exact h part hpart
  · rw [List.eq_of_mem_replicate hpart]
    simp

theorem lines_append_lineFeeds (h : '\r' ∉ text) (n : Nat) :
    lines (text ++ List.replicate n '\n') = lines text ++ List.replicate n [] := by
  have hne : lines text ++ List.replicate n [] ≠ [] :=
    List.append_ne_nil_of_left_ne_nil (lines_ne_nil text) _
  have hjoin : ['\n'].intercalate (lines text ++ List.replicate n []) =
      text ++ List.replicate n '\n' := by
    rw [intercalate_append_replicate_nil (lines_ne_nil text), intercalate_lines h,
      List.flatten_replicate_singleton]
  rw [← hjoin]
  exact lines_intercalate_lineFeed hne (not_mem_of_mem_append_replicate (not_mem_of_mem_lines h))

theorem lines_withCrLf_append (h : '\r' ∉ text) (n : Nat) :
    lines (withCrLf text ++ (List.replicate n crLf).flatten) =
      lines text ++ List.replicate n [] := by
  have hne : lines text ++ List.replicate n [] ≠ [] :=
    List.append_ne_nil_of_left_ne_nil (lines_ne_nil text) _
  have hclean := not_mem_of_mem_lines h
  have hpairs : crLf.intercalate (lines text) = withCrLf text := by
    rw [← withCrLf_intercalate (lines_ne_nil text) fun part hpart => (hclean part hpart).2,
      intercalate_lines h]
  have hjoin : crLf.intercalate (lines text ++ List.replicate n []) =
      withCrLf text ++ (List.replicate n crLf).flatten := by
    rw [intercalate_append_replicate_nil (lines_ne_nil text), hpairs]
  rw [← hjoin]
  exact lines_intercalate_crLf hne (not_mem_of_mem_append_replicate hclean)

end OneKind

/-! ## Line feeds that are left on a line -/

def HasLoneLineFeed (text : Text) : Prop :=
  ∃ before after, text = before ++ '\n' :: after ∧ before.getLast? ≠ some '\r'

/-- Both kinds of line ends: pairs of carriage return and line feed, and lone line feeds. -/
def MixesLineEnds (text : Text) : Prop :=
  crLf <:+: text ∧ HasLoneLineFeed text

theorem not_hasLoneLineFeed_nil : ¬ HasLoneLineFeed [] := by
  rintro ⟨before, after, h, -⟩
  cases before <;> cases h

theorem hasLoneLineFeed_crLf_append (rest : Text) :
    HasLoneLineFeed ('\r' :: '\n' :: rest) ↔ HasLoneLineFeed rest := by
  constructor
  · rintro ⟨before, after, h, hlast⟩
    match before with
    | [] => exact absurd (List.cons.inj h).1 (by decide)
    | [c] =>
      rw [← (List.cons.inj h).1] at hlast
      exact absurd rfl hlast
    | _ :: _ :: before =>
      refine ⟨before, after, (List.cons.inj (List.cons.inj h).2).2, fun heq => hlast ?_⟩
      simp [List.getLast?_cons, heq]
  · rintro ⟨before, after, rfl, hlast⟩
    refine ⟨'\r' :: '\n' :: before, after, rfl, fun heq => hlast ?_⟩
    cases before with
    | nil => simp at heq
    | cons d before => simpa [List.getLast?_cons] using heq

theorem hasLoneLineFeed_cons {c : Char} {rest : Text}
    (h : ∀ rest', c = '\r' → rest = '\n' :: rest' → False) :
    HasLoneLineFeed (c :: rest) ↔ c = '\n' ∨ HasLoneLineFeed rest := by
  constructor
  · rintro ⟨before, after, heq, hlast⟩
    cases before with
    | nil => exact Or.inl (List.cons.inj heq).1
    | cons d before =>
      refine Or.inr ⟨before, after, (List.cons.inj heq).2, fun hreturn => hlast ?_⟩
      simp [List.getLast?_cons, hreturn]
  · rintro (rfl | ⟨before, after, rfl, hlast⟩)
    · exact ⟨[], rest, rfl, by simp⟩
    · refine ⟨c :: before, after, rfl, fun hreturn => ?_⟩
      cases before with
      | nil => exact h after (by simpa using hreturn) rfl
      | cons d before => exact hlast (by simpa [List.getLast?_cons] using hreturn)

theorem splitCrLf_ne_nil (text : Text) : splitCrLf text ≠ [] := by
  unfold splitCrLf
  split
  · simp
  · simp
  · split <;> simp

theorem exists_lineFeed_mem_splitCrLf_iff (text : Text) :
    (∃ line ∈ splitCrLf text, '\n' ∈ line) ↔ HasLoneLineFeed text := by
  induction text using splitCrLf.induct with
  | case1 => simp [splitCrLf, not_hasLoneLineFeed_nil]
  | case2 rest ih => simp [splitCrLf, hasLoneLineFeed_crLf_append, ih]
  | case3 c rest hpair hnil ih => exact absurd hnil (splitCrLf_ne_nil rest)
  | case4 c rest hpair line lines hlines ih =>
    have hsplit : splitCrLf (c :: rest) = (c :: line) :: lines := by
      rw [splitCrLf, hlines]
      exact hpair
    rw [hsplit, hasLoneLineFeed_cons hpair, ← ih, hlines, eq_comm]
    simp only [List.mem_cons, exists_eq_or_imp, or_assoc]

/-- A line keeps a line feed exactly if the text has line ends of both kinds. -/
theorem exists_lineFeed_mem_lines_iff (text : Text) :
    (∃ line ∈ lines text, '\n' ∈ line) ↔ MixesLineEnds text := by
  rw [lines]
  split
  · rename_i hocc
    rw [exists_lineFeed_mem_splitCrLf_iff, MixesLineEnds, and_iff_right (occursIn_iff.mp hocc)]
  · rename_i hocc
    refine iff_of_false ?_ fun h => hocc (occursIn_iff.mpr h.1)
    rintro ⟨line, hline, hmem⟩
    exact not_mem_of_mem_splitOn hline hmem

end ImportCensus.Text
