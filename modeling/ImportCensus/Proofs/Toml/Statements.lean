import ImportCensus.Proofs.Toml.Values
/-!
# Statements read back

A document that is written line by line, each line a header or an assignment of one key, is read
back as these statements.
-/

namespace ImportCensus.Toml

open Text (ne_of_test exists_cons_ofNat)

variable {key rest text : Text} {v : Value} {statements : List Statement}

/-! ## Keys -/

def IsBareKey (key : Text) : Prop :=
  key ≠ [] ∧ key.all isKeyChar = true

instance (key : Text) : Decidable (IsBareKey key) :=
  inferInstanceAs (Decidable (_ ∧ _))

theorem IsBareKey.exists_cons (h : IsBareKey key) :
    ∃ first more, key = first :: more ∧ isKeyChar first = true := by
  obtain ⟨first, more, rfl⟩ := List.exists_cons_of_ne_nil h.1
  have hall := h.2
  rw [List.all_cons, Bool.and_eq_true] at hall
  exact ⟨first, more, rfl, hall.1⟩

theorem readKeyPart_bare (h : IsBareKey key) {c : Char} (hc : isKeyChar c = false)
    (behind : Text) :
    readKeyPart (key ++ c :: behind) = .ok (key, c :: behind) := by
  have hall := List.all_eq_true.mp h.2
  have htake : (key ++ c :: behind).takeWhile isKeyChar = key := by
    rw [List.takeWhile_append_of_pos hall, List.takeWhile_cons_of_neg (by simp [hc]),
      List.append_nil]
  have hdrop : (key ++ c :: behind).dropWhile isKeyChar = c :: behind := by
    rw [List.dropWhile_append_of_pos hall, List.dropWhile_cons_of_neg (by simp [hc])]
  obtain ⟨first, more, rfl, hfirst⟩ := h.exists_cons
  have hbasic : first ≠ '"' := ne_of_test hfirst rfl
  have hliteral : first ≠ '\'' := ne_of_test hfirst rfl
  rw [List.cons_append] at htake hdrop ⊢
  simp [readKeyPart, hbasic, hliteral, htake, hdrop]

theorem readKey_bare (h : IsBareKey key) {c : Char} (hc : isKeyChar c = false) (behind : Text)
    (hdot : (skipBlanks (c :: behind)).head? ≠ some '.') :
    readKey (key ++ c :: behind) = .ok ([key], skipBlanks (c :: behind)) := by
  have hpart := readKeyPart_bare h hc behind
  obtain ⟨first, more, rfl, hfirst⟩ := h.exists_cons
  have hblank : isBlank first = false := by
    have hspace : first ≠ ' ' := ne_of_test hfirst rfl
    have htab : first ≠ '\t' := ne_of_test hfirst rfl
    simp [isBlank, hspace, htab]
  have hskip : skipBlanks (first :: more ++ c :: behind) = first :: more ++ c :: behind :=
    List.dropWhile_cons_of_neg (by simp [hblank])
  have hparts : readKeyParts (first :: more ++ c :: behind).length (first :: more ++ c :: behind) =
      .ok ([first :: more], skipBlanks (c :: behind)) := by
    refine bind_eq_ok_iff.mpr ⟨(first :: more, c :: behind), by rw [hskip, hpart], ?_⟩
    dsimp only
    split
    · rename_i heq
      rw [heq] at hdot
      exact absurd rfl hdot
    · rfl
  exact bind_eq_ok_iff.mpr ⟨_, hparts, rfl⟩

/-! ## Lines -/

/-- Whether a text at the end of a line stands for a value. -/
structure IsWritten (text : Text) (v : Value) : Prop where
  begins : ∀ behind, skipBlanks (text ++ '\n' :: behind) = text ++ '\n' :: behind
  reads : ∀ behind, readValue (maxDepth - 1) (text ++ '\n' :: behind) = .ok (v, '\n' :: behind)

theorem isWritten_writeBoolean (b : Bool) : IsWritten (writeBoolean b) (.boolean b) := by
  refine ⟨fun behind => ?_, fun behind => readValue_writeBoolean _ b _⟩
  cases b <;> rfl

theorem isWritten_writeString (text : Text) : IsWritten (writeString text) (.string text) := by
  refine ⟨fun behind => ?_, fun behind => readValue_writeString _ text _ (by simp) (by simp)⟩
  obtain ⟨first, more, hfirst, hquote⟩ := exists_cons_writeString text
  rw [hfirst]
  rcases hquote with rfl | rfl <;> rfl

theorem isWritten_writeStrings (items : List Text) :
    IsWritten (writeStrings items) (.array (items.map .string)) := by
  refine ⟨fun behind => ?_, fun behind => readValue_writeStrings _ items _⟩
  unfold writeStrings
  split <;> rfl

theorem isWritten_ofNat {n : Nat} (h : n < Nat.pow 2 63) :
    IsWritten (Text.ofNat n) (.integer n) := by
  refine ⟨fun behind => ?_, fun behind => readValue_ofNat h _ behind⟩
  obtain ⟨first, more, hfirst, hdigit⟩ := exists_cons_ofNat n
  have hspace : first ≠ ' ' := ne_of_test hdigit rfl
  have htab : first ≠ '\t' := ne_of_test hdigit rfl
  rw [hfirst]
  exact List.dropWhile_cons_of_neg (by simp [isBlank, hspace, htab])

theorem readStatement_assign (h : IsBareKey key) (hv : IsWritten text v) (rest : Text) :
    readStatement (key ++ ' ' :: '=' :: ' ' :: (text ++ '\n' :: rest)) =
      .ok (.assign [key] v, '\n' :: rest) := by
  have hkey := readKey_bare (c := ' ') h rfl ('=' :: ' ' :: (text ++ '\n' :: rest))
    (by simp [skipBlanks, isBlank])
  have hassign : readAssignment (readValue (maxDepth - 1))
      (key ++ ' ' :: '=' :: ' ' :: (text ++ '\n' :: rest)) = .ok (([key], v), '\n' :: rest) := by
    refine bind_eq_ok_iff.mpr ⟨_, hkey, ?_⟩
    have hvalue := hv.reads rest
    rw [← hv.begins] at hvalue
    exact bind_eq_ok_iff.mpr ⟨_, hvalue, rfl⟩
  obtain ⟨first, more, rfl, hfirst⟩ := h.exists_cons
  have hbracket : first ≠ '[' := ne_of_test hfirst rfl
  rw [List.cons_append] at hassign ⊢
  simp [readStatement, hbracket, hassign, Except.map]

theorem readStatement_header (h : IsBareKey key) :
    readStatement ('[' :: (key ++ ']' :: rest)) = .ok (.header [key], rest) := by
  have hkey := readKey_bare (c := ']') h rfl rest (by simp [skipBlanks, isBlank])
  have hheader : readHeader [']'] (key ++ ']' :: rest) = .ok ([key], rest) := by
    refine bind_eq_ok_iff.mpr ⟨_, hkey, ?_⟩
    rfl
  obtain ⟨first, more, rfl, hfirst⟩ := h.exists_cons
  have hbracket : first ≠ '[' := ne_of_test hfirst rfl
  rw [List.cons_append] at hheader ⊢
  simp [readStatement, hbracket, hheader, Except.map]

/-- Whether a document is read as statements. -/
structure IsReadAs (text : Text) (statements : List Statement) : Prop where
  length_le : statements.length ≤ text.length
  reads : ∀ rounds, statements.length < rounds → readStatements rounds text = .ok statements

theorem isReadAs_nil : IsReadAs [] [] := by
  refine ⟨Nat.le_refl 0, fun rounds hrounds => ?_⟩
  obtain ⟨rounds, rfl⟩ := Nat.exists_eq_succ_of_ne_zero (Nat.ne_zero_of_lt hrounds)
  rfl

theorem IsReadAs.emptyLine (h : IsReadAs rest statements) : IsReadAs ('\n' :: rest) statements := by
  refine ⟨Nat.le_succ_of_le h.length_le, fun rounds hrounds => ?_⟩
  have hread := h.reads rounds hrounds
  obtain ⟨rounds, rfl⟩ := Nat.exists_eq_succ_of_ne_zero (Nat.ne_zero_of_lt hrounds)
  exact hread

theorem IsReadAs.line {c : Char} {statement : Statement} (h : IsReadAs rest statements)
    (hskip : skipFiller false (c :: text) = .ok (c :: text))
    (hstatement : readStatement (c :: text) = .ok (statement, '\n' :: rest))
    (hlength : rest.length ≤ text.length) : IsReadAs (c :: text) (statement :: statements) := by
  refine ⟨Nat.succ_le_succ (h.length_le.trans hlength), fun rounds hrounds => ?_⟩
  obtain ⟨rounds, rfl⟩ := Nat.exists_eq_succ_of_ne_zero (Nat.ne_zero_of_lt hrounds)
  have hrest := h.reads rounds (Nat.lt_of_succ_lt_succ hrounds)
  refine bind_eq_ok_iff.mpr ⟨_, hskip, bind_eq_ok_iff.mpr ⟨_, hstatement, ?_⟩⟩
  exact bind_eq_ok_iff.mpr ⟨rest, rfl, bind_eq_ok_iff.mpr ⟨_, hrest, rfl⟩⟩

theorem IsReadAs.assign (h : IsReadAs rest statements) (key : Text) (hkey : IsBareKey key)
    (hv : IsWritten text v) :
    IsReadAs (key ++ ' ' :: '=' :: ' ' :: (text ++ '\n' :: rest))
      (.assign [key] v :: statements) := by
  have hstatement := readStatement_assign hkey hv rest
  obtain ⟨first, more, rfl, hfirst⟩ := hkey.exists_cons
  have hbreak : first ≠ '\n' := ne_of_test hfirst rfl
  have hreturn : first ≠ '\r' := ne_of_test hfirst rfl
  have hspace : first ≠ ' ' := ne_of_test hfirst rfl
  have htab : first ≠ '\t' := ne_of_test hfirst rfl
  have hsign : first ≠ '#' := ne_of_test hfirst rfl
  have hlength : rest.length ≤ (more ++ ' ' :: '=' :: ' ' :: (text ++ '\n' :: rest)).length := by
    simp only [List.length_append, List.length_cons]
    omega
  refine h.line ?_ hstatement hlength
  simp [skipFiller, beginsLineEnd, isBlank, hbreak, hreturn, hspace, htab, hsign]

theorem IsReadAs.header (h : IsReadAs rest statements) (key : Text) (hkey : IsBareKey key) :
    IsReadAs ('[' :: (key ++ ']' :: '\n' :: rest)) (.header [key] :: statements) := by
  have hlength : rest.length ≤ (key ++ ']' :: '\n' :: rest).length := by
    simp only [List.length_append, List.length_cons]
    omega
  exact h.line rfl (readStatement_header hkey) hlength

theorem IsReadAs.parse (h : IsReadAs text statements) (hmark : text.head? ≠ some '\ufeff') :
    parse text = ofStatements statements := by
  have hdrop : dropMark text = text := by
    unfold dropMark
    split
    · exact absurd rfl hmark
    · rfl
  rw [Toml.parse, hdrop, h.reads _ (Nat.lt_succ_of_le h.length_le)]
  rfl

end ImportCensus.Toml
