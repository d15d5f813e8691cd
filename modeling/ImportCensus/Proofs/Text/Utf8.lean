import ImportCensus.Text.Utf8
import Mathlib.Tactic.IntervalCases
/-!
# Text from its own bytes

The machine that reads bytes as text takes the bytes of a character, with anything behind them,
for that character: so text is read back from its UTF-8.
-/

namespace ImportCensus.Text.Utf8

variable {n d code missing : Nat} {low high : UInt8} {rest : List UInt8}

theorem toNat_ofNat (h : n < 256) : (UInt8.ofNat n).toNat = n := by
  rw [UInt8.toNat_ofNat']
  exact Nat.mod_eq_of_lt h

/-! ## First bytes -/

theorem start_of_lt (h : n < 0x80) : start (UInt8.ofNat n) = .char (Char.ofNat n) := by
  have hlt : UInt8.ofNat n < 0x80 := by
    rw [UInt8.lt_iff_toNat_lt, toNat_ofNat (by omega)]
    exact h
  rw [start, if_pos hlt, toNat_ofNat (by omega)]

theorem start_two (h : 2 ≤ d) (h' : d < 32) :
    start (UInt8.ofNat (d + 0xC0)) = .owes ⟨1, 0x80, 0xBF, d⟩ := by
  interval_cases d <;> rfl

/-- The second byte of three shuts out overlong forms and surrogates. -/
theorem start_three (h : d < 16) :
    start (UInt8.ofNat (d + 0xE0)) =
      .owes ⟨2, if d = 0 then 0xA0 else 0x80, if d = 13 then 0x9F else 0xBF, d⟩ := by
  interval_cases d <;> rfl

/-- The second byte of four shuts out overlong forms and numbers that are too large. -/
theorem start_four (h : d < 5) :
    start (UInt8.ofNat (d + 0xF0)) =
      .owes ⟨3, if d = 0 then 0x90 else 0x80, if d = 4 then 0x8F else 0xBF, d⟩ := by
  interval_cases d <;> rfl

/-! ## Continuation bytes -/

theorem takes_iff {owed : Owed} {b : UInt8} :
    owed.takes b = true ↔ owed.low.toNat ≤ b.toNat ∧ b.toNat ≤ owed.high.toNat := by
  rw [Owed.takes, Bool.and_eq_true, decide_eq_true_eq, decide_eq_true_eq,
    UInt8.le_iff_toNat_le, UInt8.le_iff_toNat_le]

theorem takes_ofNat_iff (h : n < 256) :
    Owed.takes ⟨missing, low, high, code⟩ (UInt8.ofNat n) = true ↔
      low.toNat ≤ n ∧ n ≤ high.toNat := by
  rw [takes_iff, toNat_ofNat h]

theorem piecesFrom_last (hd : d < 64) (hlow : low.toNat ≤ d + 0x80)
    (hhigh : d + 0x80 ≤ high.toNat) :
    piecesFrom (some ⟨1, low, high, code⟩) (UInt8.ofNat (d + 0x80) :: rest) =
      some (Char.ofNat (code * 64 + d)) :: piecesFrom none rest := by
  have htakes : Owed.takes ⟨1, low, high, code⟩ (UInt8.ofNat (d + 0x80)) = true :=
    (takes_ofNat_iff (by omega)).mpr ⟨hlow, hhigh⟩
  rw [piecesFrom, step, if_pos htakes, if_pos (Nat.le_refl 1), toNat_ofNat (by omega),
    Nat.add_sub_cancel]
  rfl

theorem piecesFrom_more (hd : d < 64) (hlow : low.toNat ≤ d + 0x80)
    (hhigh : d + 0x80 ≤ high.toNat) :
    piecesFrom (some ⟨missing + 2, low, high, code⟩) (UInt8.ofNat (d + 0x80) :: rest) =
      piecesFrom (some ⟨missing + 1, 0x80, 0xBF, code * 64 + d⟩) rest := by
  have htakes : Owed.takes ⟨missing + 2, low, high, code⟩ (UInt8.ofNat (d + 0x80)) = true :=
    (takes_ofNat_iff (by omega)).mpr ⟨hlow, hhigh⟩
  have hmore : ¬ missing + 2 ≤ 1 := by omega
  rw [piecesFrom, step, if_pos htakes, if_neg hmore, toNat_ofNat (by omega), Nat.add_sub_cancel]
  rfl

theorem piecesFrom_owes {b : UInt8} {owed : Owed} (h : start b = .owes owed) :
    piecesFrom none (b :: rest) = piecesFrom (some owed) rest := by
  rw [piecesFrom, step, stepStart, h]
  rfl

/-! ## Characters -/

theorem val_bounds (c : Char) : c.toNat < 0xD800 ∨ 0xDFFF < c.toNat ∧ c.toNat < 0x110000 :=
  c.valid

theorem piecesFrom_encodeChar (c : Char) (rest : List UInt8) :
    piecesFrom none (String.utf8EncodeChar c ++ rest) = some c :: piecesFrom none rest := by
  have hvalid := val_bounds c
  have hc : Char.ofNat c.toNat = c := Char.ofNat_toNat c
  obtain ⟨v, hv⟩ : ∃ v, c.val.toNat = v := ⟨_, rfl⟩
  rw [show c.toNat = v from hv] at hvalid hc
  simp only [String.utf8EncodeChar, hv]
  -- one byte, two, three and four: the digits to the base 64 give the number back
  split
  · rename_i h
    rw [List.singleton_append, piecesFrom, step, stepStart, start_of_lt (by omega), hc]
    rfl
  · split
    · rename_i h
      have hd : v / 64 % 32 * 64 + v % 64 = v := by omega
      simp only [List.cons_append, List.nil_append]
      rw [piecesFrom_owes (start_two (by omega) (by omega)),
        piecesFrom_last (by omega) (by simp) (by simp; omega), hd, hc]
    · split
      · rename_i h
        have hd : (v / 4096 % 16 * 64 + v / 64 % 64) * 64 + v % 64 = v := by omega
        simp only [List.cons_append, List.nil_append]
        rw [piecesFrom_owes (start_three (by omega)), piecesFrom_more (by omega),
          piecesFrom_last (by omega) (by simp) (by simp; omega), hd, hc]
        · split
          · simp; omega
          · simp
        · split
          · simp; omega
          · simp; omega
      · rename_i h
        have hd : ((v / 262144 % 8 * 64 + v / 4096 % 64) * 64 + v / 64 % 64) * 64 + v % 64 = v := by
          omega
        simp only [List.cons_append, List.nil_append]
        rw [piecesFrom_owes (start_four (by omega)), piecesFrom_more (by omega),
          piecesFrom_more (by omega) (by simp) (by simp; omega),
          piecesFrom_last (by omega) (by simp) (by simp; omega), hd, hc]
        · split
          · simp; omega
          · simp
        · split
          · simp; omega
          · simp; omega

theorem pieces_utf8 (text : Text) : pieces (utf8 text) = text.map some := by
  rw [pieces]
  induction text with
  | nil => rfl
  | cons c text ih => rw [utf8_cons, piecesFrom_encodeChar, ih, List.map_cons]

end Utf8

/-- Text is read back from its bytes. -/
theorem decode?_utf8 (text : Text) : decode? (utf8 text) = some text := by
  rw [decode?, Utf8.pieces_utf8]
  induction text with
  | nil => rfl
  | cons c text ih => rw [List.map_cons, List.mapM_cons, ih]; rfl

theorem decodeLossy_utf8 (text : Text) : decodeLossy (utf8 text) = text := by
  rw [decodeLossy, Utf8.pieces_utf8, List.map_map]
  exact List.map_id text

end ImportCensus.Text
