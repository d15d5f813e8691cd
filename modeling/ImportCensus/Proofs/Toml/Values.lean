import ImportCensus.Proofs.Except
import ImportCensus.Proofs.Text.Digits
import ImportCensus.Proofs.Toml.Strings
/-!
# Values read back

Integers that fit into 64 bits with their sign, booleans, and lists of strings on one line or on
several are read back from the way in which they are written.
-/

namespace ImportCensus.Toml

open Text (ne_of_test isDigit_of_mem_ofNat exists_cons_ofNat head?_ofNat)

variable {c : Char} {digits text rest : Text} {depth n : Nat}

/-! ## Integers -/

theorem digitValue?_of_isDigit (h : c.isDigit = true) :
    digitValue? c = some (c.toNat - '0'.toNat) := by
  rw [Char.isDigit, Bool.and_eq_true, decide_eq_true_eq, decide_eq_true_eq] at h
  have hrange : ('0' ≤ c && c ≤ '9') = true := by
    rw [Bool.and_eq_true, decide_eq_true_eq, decide_eq_true_eq]
    exact h
  rw [digitValue?, if_pos hrange]

theorem isDigit_of_isDigit (h : c.isDigit = true) : isDigit 10 c = true := by
  rw [isDigit, digitValue?_of_isDigit h]
  rw [Char.isDigit, Bool.and_eq_true, decide_eq_true_eq, decide_eq_true_eq] at h
  have hle : c.toNat ≤ 57 := h.2
  have hzero : '0'.toNat = 48 := rfl
  rw [decide_eq_true_eq]
  omega

theorem digitsValue_eq (h : ∀ c ∈ digits, c.isDigit = true) (n : Nat) :
    digits.foldl (fun n c => ((digitValue? c).map (n * 10 + ·)).getD n) n =
      Nat.ofDigitChars 10 digits n := by
  induction digits generalizing n with
  | nil => rfl
  | cons c digits ih =>
    rw [List.forall_mem_cons] at h
    rw [List.foldl_cons, Nat.ofDigitChars_cons, ih h.2, digitValue?_of_isDigit h.1, Option.map_some,
      Option.getD_some, Nat.mul_comm]

theorem digitsValue_ofNat (n : Nat) : digitsValue 10 (Text.ofNat n) = n := by
  rw [digitsValue, digitsValue_eq fun c => isDigit_of_mem_ofNat, Text.ofNat,
    Nat.ofDigitChars_toDigits (by omega) (by omega)]

theorem moreDigits_append (hdigits : ∀ c ∈ digits, c.isDigit = true) (rest : Text) :
    moreDigits 10 (digits ++ '\n' :: rest) = .ok (digits, '\n' :: rest) := by
  induction digits with
  | nil => rfl
  | cons c digits ih =>
    rw [List.forall_mem_cons] at hdigits
    rw [List.cons_append, moreDigits, if_pos (isDigit_of_isDigit hdigits.1), ih hdigits.2]

theorem of_exactDigits? {count value : Nat} {behind : Text}
    (h : exactDigits? count (digits ++ '\n' :: rest) = some (value, c :: behind))
    (hdigits : ∀ c ∈ digits, c.isDigit = true) : c.isDigit = true ∨ c = '\n' := by
  rw [exactDigits?] at h
  split at h
  · rename_i hall
    rw [Bool.and_eq_true, List.all_eq_true] at hall
    obtain ⟨-, hbehind⟩ := Prod.mk.inj (Option.some.inj h)
    -- the digits that are taken are among the given ones: the line end is none
    have hlength : count ≤ digits.length := by
      by_contra hlong
      have hmem : '\n' ∈ (digits ++ '\n' :: rest).take count := by
        obtain ⟨k, hk⟩ : ∃ k, count - digits.length = k + 1 := ⟨count - digits.length - 1, by omega⟩
        rw [List.take_append, hk, List.take_succ_cons]
        exact List.mem_append_right _ List.mem_cons_self
      exact absurd (hall.2 _ hmem) (by decide)
    rw [List.drop_append_of_le_length hlength] at hbehind
    cases hdrop : digits.drop count with
    | nil =>
      rw [hdrop] at hbehind
      cases hbehind
      exact .inr rfl
    | cons d more =>
      rw [hdrop] at hbehind
      cases hbehind
      exact .inl (hdigits c (List.mem_of_mem_drop (hdrop ▸ List.mem_cons_self)))
  · cases h

theorem beginsDate_append (hdigits : ∀ c ∈ digits, c.isDigit = true) (rest : Text) :
    beginsDate (digits ++ '\n' :: rest) = false := by
  rw [beginsDate]
  split
  · rename_i heq
    rcases of_exactDigits? heq hdigits with h | h
    · cases h
    · cases h
  · rfl

theorem beginsClock_append (hdigits : ∀ c ∈ digits, c.isDigit = true) (rest : Text) :
    beginsClock (digits ++ '\n' :: rest) = false := by
  rw [beginsClock]
  split
  · rename_i heq
    rcases of_exactDigits? heq hdigits with h | h
    · cases h
    · cases h
  · rfl

theorem wholeDigits_ofNat (n : Nat) (rest : Text) :
    wholeDigits (Text.ofNat n ++ '\n' :: rest) = .ok (Text.ofNat n, '\n' :: rest) := by
  by_cases hn : n = 0
  · subst hn
    rfl
  · have hmore := moreDigits_append (fun c => isDigit_of_mem_ofNat (n := n)) rest
    have hzero := head?_ofNat hn
    obtain ⟨first, more, hfirst, hdigit⟩ := exists_cons_ofNat n
    rw [hfirst] at hmore hzero ⊢
    have hne : first ≠ '0' := fun heq => hzero (congrArg some heq)
    simpa [wholeDigits, someDigits, hne, isDigit_of_isDigit hdigit] using hmore

theorem readDecimal_ofNat (h : n < Nat.pow 2 63) (rest : Text) :
    readDecimal false (Text.ofNat n ++ '\n' :: rest) = .ok (.integer n, '\n' :: rest) := by
  have hinteger : signedInteger false (digitsValue 10 (Text.ofNat n)) = .ok (.integer n) := by
    rw [digitsValue_ofNat, signedInteger, if_neg (by simp), if_pos h]
  refine bind_eq_ok_iff.mpr ⟨_, wholeDigits_ofNat n rest, ?_⟩
  exact bind_eq_ok_iff.mpr ⟨_, hinteger, rfl⟩

theorem readNumber_ofNat (h : n < Nat.pow 2 63) (rest : Text) :
    readNumber (Text.ofNat n ++ '\n' :: rest) = .ok (.integer n, '\n' :: rest) := by
  have hdecimal := readDecimal_ofNat h rest
  -- only a zero could begin a number to another base, and the line ends behind it
  by_cases hn : n = 0
  · subst hn
    exact hdecimal
  · have hzero := head?_ofNat hn
    obtain ⟨first, more, hfirst, hdigit⟩ := exists_cons_ofNat n
    rw [hfirst] at hzero hdecimal ⊢
    have hne : first ≠ '0' := fun heq => hzero (congrArg some heq)
    have hplus : first ≠ '+' := ne_of_test hdigit rfl
    have hminus : first ≠ '-' := ne_of_test hdigit rfl
    have hinf : first ≠ 'i' := ne_of_test hdigit rfl
    have hnan : first ≠ 'n' := ne_of_test hdigit rfl
    simpa [readNumber, readSigned, readFloatWord?, hne, hplus, hminus, hinf, hnan] using hdecimal

theorem readValue_eq_readScalar (harray : c ≠ '[') (htable : c ≠ '\x7b') (depth : Nat)
    (rest : Text) :
    readValue depth (c :: rest) = readScalar (c :: rest) := by
  unfold readValue
  split
  · rename_i heq
    cases heq
    exact absurd rfl harray
  · rename_i heq
    cases heq
    exact absurd rfl htable
  · rfl

/-- A number is read back from its digits, when it has 63 bits. -/
theorem readValue_ofNat (h : n < Nat.pow 2 63) (depth : Nat) (rest : Text) :
    readValue depth (Text.ofNat n ++ '\n' :: rest) = .ok (.integer n, '\n' :: rest) := by
  have hnumber := readNumber_ofNat h rest
  have hdate := beginsDate_append (fun c => isDigit_of_mem_ofNat (n := n)) rest
  have hclock := beginsClock_append (fun c => isDigit_of_mem_ofNat (n := n)) rest
  obtain ⟨first, more, hfirst, hdigit⟩ := exists_cons_ofNat n
  rw [hfirst, List.cons_append] at hnumber hdate hclock ⊢
  have hbasic : first ≠ '"' := ne_of_test hdigit rfl
  have hliteral : first ≠ '\'' := ne_of_test hdigit rfl
  rw [readValue_eq_readScalar (ne_of_test hdigit rfl) (ne_of_test hdigit rfl)]
  simpa [readScalar, readNumberOrTime, hbasic, hliteral, hdigit, hdate, hclock] using hnumber

/-! ## Booleans -/

theorem readValue_writeBoolean (depth : Nat) (b : Bool) (rest : Text) :
    readValue depth (writeBoolean b ++ rest) = .ok (.boolean b, rest) := by
  cases b
  · cases depth <;> rfl
  · cases depth <;> rfl

/-! ## Strings and lists -/

theorem exists_cons_writeString (text : Text) :
    ∃ first more, writeString text = first :: more ∧ (first = '"' ∨ first = '\'') := by
  rw [writeString]
  split
  · exact ⟨_, _, rfl, .inl rfl⟩
  · exact ⟨_, _, rfl, .inr rfl⟩
  · exact ⟨_, _, rfl, .inl rfl⟩
  · exact ⟨_, _, rfl, .inr rfl⟩

theorem readValue_writeString (depth : Nat) (text rest : Text) (hbasic : rest.head? ≠ some '"')
    (hliteral : rest.head? ≠ some '\'') :
    readValue depth (writeString text ++ rest) = .ok (.string text, rest) := by
  have hscalar := readScalar_writeString text hbasic hliteral
  obtain ⟨first, more, hfirst, hquote⟩ := exists_cons_writeString text
  rw [hfirst, List.cons_append] at hscalar ⊢
  rw [readValue_eq_readScalar, hscalar]
  · rcases hquote with rfl | rfl <;> decide
  · rcases hquote with rfl | rfl <;> decide

theorem skipFiller_writeString (text rest : Text) :
    skipFiller false (writeString text ++ rest) = .ok (writeString text ++ rest) := by
  obtain ⟨first, more, hfirst, hquote⟩ := exists_cons_writeString text
  rw [hfirst]
  rcases hquote with rfl | rfl
  · rfl
  · rfl

section Items

variable {rounds : Nat} {item : Text} {items : List Text} {s : Text} {values : List Value}

theorem readItems_last (hskip : skipFiller false s = .ok (writeString item ++ ']' :: rest)) :
    readItems (readValue depth) (rounds + 1) s = .ok ([.string item], rest) := by
  have hvalue := readValue_writeString depth item (']' :: rest) (by simp) (by simp)
  obtain ⟨first, more, hfirst, hquote⟩ := exists_cons_writeString item
  rw [hfirst] at hskip hvalue
  refine bind_eq_ok_iff.mpr ⟨_, hskip, ?_⟩
  -- a quote is no closing bracket, so an item is read
  rcases hquote with rfl | rfl
  · exact bind_eq_ok_iff.mpr ⟨_, hvalue, rfl⟩
  · exact bind_eq_ok_iff.mpr ⟨_, hvalue, rfl⟩

theorem readItems_cons (behind : Text)
    (hskip : skipFiller false s = .ok (writeString item ++ ',' :: behind))
    (hread : readItems (readValue depth) rounds behind = .ok (values, rest)) :
    readItems (readValue depth) (rounds + 1) s = .ok (.string item :: values, rest) := by
  have hvalue := readValue_writeString depth item (',' :: behind) (by simp) (by simp)
  obtain ⟨first, more, hfirst, hquote⟩ := exists_cons_writeString item
  rw [hfirst] at hskip hvalue
  refine bind_eq_ok_iff.mpr ⟨_, hskip, ?_⟩
  rcases hquote with rfl | rfl
  · refine bind_eq_ok_iff.mpr ⟨_, hvalue, ?_⟩
    exact bind_eq_ok_iff.mpr ⟨_, rfl, bind_eq_ok_iff.mpr ⟨_, hread, rfl⟩⟩
  · refine bind_eq_ok_iff.mpr ⟨_, hvalue, ?_⟩
    exact bind_eq_ok_iff.mpr ⟨_, rfl, bind_eq_ok_iff.mpr ⟨_, hread, rfl⟩⟩

theorem readItems_lines (h : items.length < rounds) :
    readItems (readValue depth) rounds ('\n' :: (items.flatMap writeItem ++ ']' :: rest)) =
      .ok (items.map .string, rest) := by
  induction items generalizing rounds with
  | nil =>
    obtain ⟨rounds, rfl⟩ := Nat.exists_eq_succ_of_ne_zero (Nat.ne_zero_of_lt h)
    exact bind_eq_ok_iff.mpr ⟨']' :: rest, rfl, rfl⟩
  | cons item items ih =>
    obtain ⟨rounds, rfl⟩ := Nat.exists_eq_succ_of_ne_zero (Nat.ne_zero_of_lt h)
    rw [List.length_cons, Nat.succ_lt_succ_iff] at h
    refine readItems_cons ('\n' :: (items.flatMap writeItem ++ ']' :: rest)) ?_ (ih h)
    rw [← skipFiller_writeString]
    simp only [List.flatMap_cons, writeItem, List.append_assoc]
    rfl

theorem length_le_flatMap_writeItem (items : List Text) :
    items.length ≤ (items.flatMap writeItem).length := by
  induction items with
  | nil => exact Nat.le_refl 0
  | cons item items ih =>
    have hcomma : ",\n".toList.length = 2 := rfl
    simp only [List.flatMap_cons, writeItem, List.length_append, List.length_cons, hcomma]
    omega

/-- A list of strings is read back from the way in which it is written. -/
theorem readValue_writeStrings (depth : Nat) (items : List Text) (rest : Text) :
    readValue (depth + 1) (writeStrings items ++ rest) =
      .ok (.array (items.map .string), rest) := by
  have harray : ∀ s values, readItems (readValue depth) (s.length + 1) s = .ok (values, rest) →
      readValue (depth + 1) ('[' :: s) = .ok (.array values, rest) := by
    intro s values hs
    exact bind_eq_ok_iff.mpr ⟨_, hs, rfl⟩
  unfold writeStrings
  split
  · exact harray _ _ (bind_eq_ok_iff.mpr ⟨']' :: rest, rfl, rfl⟩)
  · rename_i item
    refine (congrArg (readValue (depth + 1)) ?_).trans
      (harray _ _ (readItems_last (skipFiller_writeString item (']' :: rest))))
    simp
  · refine (congrArg (readValue (depth + 1)) ?_).trans (harray _ _ (readItems_lines ?_))
    · simp
    · have hlength := length_le_flatMap_writeItem items
      simp only [List.length_cons, List.length_append]
      omega

end Items

end ImportCensus.Toml
