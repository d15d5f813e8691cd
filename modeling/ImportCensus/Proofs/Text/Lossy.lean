import ImportCensus.Proofs.Text.Cutting
import ImportCensus.Proofs.Text.Utf8
/-!
# Lines of bytes that need not be UTF-8

A byte below `0x80` ends any sequence that is not finished and stands for itself, and no longer
sequence is read as a character below `0x80`.  So the replacement of ill-formed sequences neither
takes a line end in nor brings one forth: a file has the same lines, whether its bytes are cut
first and then read as text, or the other way round.
-/

namespace ImportCensus.Text

namespace Utf8

variable {a b : UInt8} {owed : Owed} {state : State} {c : Char}

/-! ## Sequences that have begun -/

/-- What holds of every sequence that has begun: its next byte is no ASCII byte, and its value will
be one that a single byte cannot stand for. -/
structure Owed.IsBegun (owed : Owed) : Prop where
  low : 0x80 ≤ owed.low.toNat
  long : 2 ≤ owed.code ∨ 2 ≤ owed.missing ∧ 2 ≤ owed.code * 64 + (owed.low.toNat - 0x80)

def State.IsBegun (state : State) : Prop :=
  ∀ owed, state = some owed → owed.IsBegun

theorem isBegun_none : State.IsBegun none := by
  intro owed h
  cases h

theorem toNat_le_of_not_lt (h : ¬ b < a) : a.toNat ≤ b.toNat :=
  UInt8.le_iff_toNat_le.mp (UInt8.not_lt.mp h)

theorem eq_ofNat_of_start (h : start b = .char c) : c = Char.ofNat b.toNat := by
  unfold start at h
  rcases ite_eq_iff.mp h with ⟨-, h⟩ | ⟨-, h⟩
  · cases h
    rfl
  iterate 8
    rcases ite_eq_iff.mp h with ⟨-, h⟩ | ⟨-, h⟩
    · cases h
  cases h

theorem isBegun_of_start (h : start b = .owes owed) : owed.IsBegun := by
  unfold start at h
  rcases ite_eq_iff.mp h with ⟨-, h⟩ | ⟨-, h⟩
  · cases h
  rcases ite_eq_iff.mp h with ⟨-, h⟩ | ⟨htwo, h⟩
  · cases h
  have htwo : 0xC2 ≤ b.toNat := toNat_le_of_not_lt htwo
  rcases ite_eq_iff.mp h with ⟨-, h⟩ | ⟨hthree, h⟩
  · cases h
    exact ⟨Nat.le_refl 0x80, Or.inl (show 2 ≤ b.toNat - 0xC0 by omega)⟩
  have hthree : 0xE0 ≤ b.toNat := toNat_le_of_not_lt hthree
  rcases ite_eq_iff.mp h with ⟨-, h⟩ | ⟨hE0, h⟩
  · cases h
    exact ⟨by decide, Or.inr (by decide)⟩
  have hE0 : b.toNat ≠ 0xE0 := fun heq => hE0 (UInt8.toNat_inj.mp heq)
  rcases ite_eq_iff.mp h with ⟨-, h⟩ | ⟨-, h⟩
  · cases h
    exact ⟨by decide, Or.inl (by decide)⟩
  rcases ite_eq_iff.mp h with ⟨-, h⟩ | ⟨hfour, h⟩
  · cases h
    have hcode : 2 ≤ (b.toNat - 0xE0) * 64 := by omega
    exact ⟨Nat.le_refl 0x80, Or.inr ⟨Nat.le_refl 2, Nat.le_trans hcode (Nat.le_add_right _ _)⟩⟩
  have hfour : 0xF0 ≤ b.toNat := toNat_le_of_not_lt hfour
  rcases ite_eq_iff.mp h with ⟨-, h⟩ | ⟨hF0, h⟩
  · cases h
    exact ⟨by decide, Or.inr (by decide)⟩
  have hF0 : b.toNat ≠ 0xF0 := fun heq => hF0 (UInt8.toNat_inj.mp heq)
  rcases ite_eq_iff.mp h with ⟨-, h⟩ | ⟨-, h⟩
  · cases h
    have hcode : 2 ≤ (b.toNat - 0xF0) * 64 := by omega
    exact ⟨Nat.le_refl 0x80, Or.inr ⟨Nat.le_succ 2, Nat.le_trans hcode (Nat.le_add_right _ _)⟩⟩
  rcases ite_eq_iff.mp h with ⟨-, h⟩ | ⟨-, h⟩
  · cases h
    exact ⟨by decide, Or.inl (by decide)⟩
  · cases h

theorem isBegun_stepStart (b : UInt8) : State.IsBegun (stepStart b).1 := by
  unfold stepStart
  split
  · exact isBegun_none
  · rename_i owed h
    intro owed' heq
    cases heq
    exact isBegun_of_start h
  · exact isBegun_none

theorem isBegun_step (h : state.IsBegun) (a : UInt8) : State.IsBegun (step state a).1 := by
  cases state with
  | none => exact isBegun_stepStart a
  | some owed =>
    have hbegun := h owed rfl
    simp only [step]
    split
    · rename_i htakes
      split
      · exact isBegun_none
      · rename_i hmissing
        intro owed' heq
        cases heq
        have hlow := (takes_iff.mp htakes).1
        have hlong := hbegun.long
        exact ⟨by simp, Or.inl (by simp; omega)⟩
    · exact isBegun_stepStart a

/-! ## ASCII bytes -/

theorem stepStart_ascii (h : b.toNat < 0x80) :
    stepStart b = (none, [some (Char.ofNat b.toNat)]) := by
  rw [stepStart, start, if_pos (UInt8.lt_iff_toNat_lt.mpr h)]

/-- An ASCII byte ends the sequence that it is found in. -/
theorem step_ascii (hstate : state.IsBegun) (h : b.toNat < 0x80) :
    step state b = (none, piecesFrom state [] ++ [some (Char.ofNat b.toNat)]) := by
  cases state with
  | none => exact stepStart_ascii h
  | some owed =>
    have hlow := (hstate owed rfl).low
    have hnot : owed.takes b = false := by
      rw [← Bool.not_eq_true, takes_iff]
      omega
    simp only [step, hnot, stepStart_ascii h]
    rfl

theorem piecesFrom_append_ascii (hstate : state.IsBegun) (h : b.toNat < 0x80)
    (before after : List UInt8) :
    piecesFrom state (before ++ b :: after) =
      piecesFrom state before ++ some (Char.ofNat b.toNat) :: piecesFrom none after := by
  induction before generalizing state with
  | nil =>
    rw [List.nil_append, piecesFrom, step_ascii hstate h]
    simp
  | cons a before ih =>
    rw [List.cons_append, piecesFrom, piecesFrom, ih (isBegun_step hstate a), List.append_assoc]

theorem toNat_ofNat_ascii {n : Nat} (h : n < 0x80) : (Char.ofNat n).toNat = n := by
  unfold Char.ofNat
  rw [dif_pos (Or.inl (by omega))]
  rfl

theorem eq_toNat_of_ofNat_eq {n : Nat} (hc : c ≠ '\x00') (h : Char.ofNat n = c) : n = c.toNat := by
  unfold Char.ofNat at h
  by_cases hn : n.isValidChar
  · rw [dif_pos hn] at h
    rw [← h]
    rfl
  · rw [dif_neg hn] at h
    exact absurd h.symm hc

/-- What one byte completes is no ASCII character, unless the byte is that character itself. -/
theorem toNat_eq_of_mem_step (hstate : state.IsBegun) (hc : c.toNat < 0x80) (hc' : c ≠ '\x00')
    (h : some c ∈ (step state a).2) : a.toNat = c.toNat := by
  have hstart : ∀ {c'}, some c ∈ (stepStart c').2 → c'.toNat = c.toNat := by
    intro b hmem
    unfold stepStart at hmem
    split at hmem
    · rename_i c' hb
      obtain rfl := eq_ofNat_of_start hb
      have hchar : c = Char.ofNat b.toNat := by simpa using hmem
      exact eq_toNat_of_ofNat_eq hc' hchar.symm
    · cases hmem
    · simp at hmem
  cases state with
  | none => exact hstart h
  | some owed =>
    have hbegun := hstate owed rfl
    simp only [step] at h
    split at h
    · rename_i htakes
      split at h
      · rename_i hmissing
        have hchar : c = Char.ofNat (owed.code * 64 + (a.toNat - 0x80)) := by simpa using h
        have hcode := eq_toNat_of_ofNat_eq hc' hchar.symm
        have hlong := hbegun.long
        omega
      · cases h
    · exact hstart (by simpa using h)

theorem exists_of_mem_piecesFrom {bytes : List UInt8} (hstate : state.IsBegun) (hc : c.toNat < 0x80)
    (hc' : c ≠ '\x00') (h : some c ∈ piecesFrom state bytes) :
    ∃ b ∈ bytes, b.toNat = c.toNat := by
  induction bytes generalizing state with
  | nil => cases state <;> simp [piecesFrom] at h
  | cons a bytes ih =>
    rw [piecesFrom, List.mem_append] at h
    rcases h with h | h
    · exact ⟨a, List.mem_cons_self, toNat_eq_of_mem_step hstate hc hc' h⟩
    · obtain ⟨b, hb, heq⟩ := ih (isBegun_step hstate a) h
      exact ⟨b, List.mem_cons_of_mem a hb, heq⟩

theorem step_ne_none (h : (step state a).2 = []) : (step state a).1 ≠ none := by
  have hstart : ∀ {b}, (stepStart b).2 = [] → (stepStart b).1 ≠ none := by
    intro b h
    unfold stepStart at h ⊢
    split at h <;> simp_all
  cases state with
  | none => exact hstart h
  | some owed =>
    simp only [step] at h ⊢
    split
    · split <;> simp_all
    · simp_all

theorem piecesFrom_ne_nil {bytes : List UInt8} (h : bytes ≠ [] ∨ state ≠ none) :
    piecesFrom state bytes ≠ [] := by
  induction bytes generalizing state with
  | nil =>
    obtain ⟨owed, rfl⟩ := Option.ne_none_iff_exists'.mp (h.resolve_left (by simp))
    simp [piecesFrom]
  | cons a bytes ih =>
    rw [piecesFrom, ne_eq, List.append_eq_nil_iff, not_and]
    exact fun hnil => ih (Or.inr (step_ne_none hnil))

end Utf8

/-! ## Lossy reading -/

section Lossy

variable {b : UInt8} {bytes : List UInt8}

theorem decodeLossy_eq_nil_iff : decodeLossy bytes = [] ↔ bytes = [] := by
  rw [decodeLossy, List.map_eq_nil_iff]
  constructor
  · intro h
    by_contra hne
    exact Utf8.piecesFrom_ne_nil (Or.inl hne) h
  · rintro rfl
    rfl

/-- Lossy reading leaves ASCII bytes in place. -/
theorem keeps_decodeLossy (hpos : b ≠ 0) (h : b.toNat < 0x80) :
    Keeps decodeLossy b (Char.ofNat b.toNat) where
  append before after := by
    simp only [decodeLossy, Utf8.pieces, Utf8.piecesFrom_append_ascii Utf8.isBegun_none h,
      List.map_append, List.map_cons, Option.getD_some]
  mem bytes hmem := by
    have hnat := Utf8.toNat_ofNat_ascii h
    obtain ⟨piece, hpiece, hchar⟩ := List.mem_map.mp hmem
    cases piece with
    | none =>
      rw [← hchar] at hnat
      exact absurd h (hnat ▸ by decide)
    | some c =>
      obtain rfl : c = Char.ofNat b.toNat := hchar
      have hchar : Char.ofNat b.toNat ≠ '\x00' := by
        intro hzero
        rw [hzero] at hnat
        exact hpos (UInt8.toNat_inj.mp hnat.symm)
      obtain ⟨b', hb', heq⟩ :=
        Utf8.exists_of_mem_piecesFrom Utf8.isBegun_none (hnat.symm ▸ h) hchar hpiece
      exact UInt8.toNat_inj.mp (heq.trans hnat) ▸ hb'

/-- The lines of a file's bytes: cut at pairs of carriage return and line feed, where there is one,
and else at line feeds. -/
def byteLines (bytes : List UInt8) : List (List UInt8) :=
  splitEnds 0x0D 0x0A bytes

/-- Whether two rows differ in one place at most. -/
def DifferAt {α : Type} (k : Nat) (xs ys : List α) : Prop :=
  xs.length = ys.length ∧ ∀ i, i ≠ k → xs[i]? = ys[i]?

/-- The lines of the text that any bytes are read as are what each line of the bytes is read as.
So bytes that differ in one line only are read as texts that differ in that line only, whatever is
ill-formed in it. -/
theorem lines_decodeLossy (bytes : List UInt8) :
    lines (decodeLossy bytes) = (byteLines bytes).map decodeLossy ∧
    ∀ bytes' k, DifferAt k (byteLines bytes) (byteLines bytes') →
      DifferAt k (lines (decodeLossy bytes)) (lines (decodeLossy bytes')) := by
  have hlines : ∀ bytes, lines (decodeLossy bytes) = (byteLines bytes).map decodeLossy := by
    intro bytes
    have hreturn : Keeps decodeLossy 0x0D '\r' := keeps_decodeLossy (by decide) (by decide)
    have hfeed : Keeps decodeLossy 0x0A '\n' := keeps_decodeLossy (by decide) (by decide)
    rw [lines_eq_splitEnds, byteLines]
    exact hreturn.splitEnds hfeed (fun _ => decodeLossy_eq_nil_iff) (by decide) (by decide) bytes
  refine ⟨hlines bytes, fun bytes' k hdiffer => ?_⟩
  rw [hlines, hlines, DifferAt, List.length_map, List.length_map]
  refine ⟨hdiffer.1, fun i hi => ?_⟩
  rw [List.getElem?_map, List.getElem?_map, hdiffer.2 i hi]

/-- A sequence that ends too early, and bytes that begin none, stay on the first line. -/
theorem lines_decodeLossy_illFormed :
    DifferAt 0 (byteLines [0xE2, 0x82, 0x0A, 0x62]) (byteLines [0xC0, 0xFF, 0x61, 0x0A, 0x62]) ∧
    lines (decodeLossy [0xE2, 0x82, 0x0A, 0x62]) = ["\ufffd".toList, "b".toList] ∧
    DifferAt 0 (lines (decodeLossy [0xE2, 0x82, 0x0A, 0x62]))
      (lines (decodeLossy [0xC0, 0xFF, 0x61, 0x0A, 0x62])) := by
  have hfirst : byteLines [0xE2, 0x82, 0x0A, 0x62] = [[0xE2, 0x82], [0x62]] := by decide
  have hsecond : byteLines [0xC0, 0xFF, 0x61, 0x0A, 0x62] = [[0xC0, 0xFF, 0x61], [0x62]] := by
    decide
  have hdiffer : DifferAt 0 (byteLines [0xE2, 0x82, 0x0A, 0x62])
      (byteLines [0xC0, 0xFF, 0x61, 0x0A, 0x62]) := by
    rw [hfirst, hsecond]
    refine ⟨rfl, fun i hi => ?_⟩
    cases i with
    | zero => exact absurd rfl hi
    | succ i => rfl
  obtain ⟨hlines, hother⟩ := lines_decodeLossy [0xE2, 0x82, 0x0A, 0x62]
  refine ⟨hdiffer, ?_, hother _ 0 hdiffer⟩
  rw [hlines, hfirst]
  decide

end Lossy

end ImportCensus.Text
