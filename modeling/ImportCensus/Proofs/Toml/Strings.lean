import ImportCensus.Toml.Reader
import ImportCensus.Toml.Writer
import Mathlib.Tactic.IntervalCases
/-!
# Strings read back

Each of the four notations in which a string is written is read back as that string, with what
follows it left over.  A long string may end in one or two quotes of its own, which stand side by
side with the closing ones; a row of three is never written.
-/

namespace ImportCensus.Toml

variable {c quote : Char} {text rest : Text} {long : Bool} {row : Nat}

@[simp] theorem prepend_nil (result : Except Fault (Text × Text)) : prepend [] result = result := by
  cases result <;> rfl

@[simp] theorem prepend_singleton_ok : prepend [c] (.ok (text, rest)) = .ok (c :: text, rest) :=
  rfl

/-! ## Escapes -/

theorem digitValue?_hexDigit {d : Nat} (h : d < 16) : digitValue? (hexDigit d) = some d := by
  interval_cases d <;> rfl

theorem charOfCode?_toNat (c : Char) : charOfCode? c.toNat = some c := by
  have hvalid : c.toNat.isValidChar := c.valid
  have hc := Char.ofNat_toNat c
  rw [Char.ofNat, dif_pos hvalid] at hc
  rw [charOfCode?, dif_pos hvalid, hc]

/-- The reader of a basic string, on one line or over several. -/
def escapedBody (long : Bool) (mode : StringMode) : Reader Text :=
  if long then longBasicBody mode else basicBody mode

theorem escapedBody_digit {d left value : Nat} (h : digitValue? c = some d) :
    escapedBody long (.code (left + 2) value) (c :: rest) =
      escapedBody long (.code (left + 1) (value * 16 + d)) rest := by
  cases long
  · simp [escapedBody, basicBody, stepEscape, h]
  · simp [escapedBody, longBasicBody, stepEscape, h]

theorem escapedBody_lastDigit {d value : Nat} {read : Char} (h : digitValue? c = some d)
    (hread : charOfCode? (value * 16 + d) = some read) :
    escapedBody long (.code 1 value) (c :: rest) =
      prepend [read] (escapedBody long .plain rest) := by
  cases long
  · simp [escapedBody, basicBody, stepEscape, h, hread]
  · simp [escapedBody, longBasicBody, stepEscape, h, hread]

theorem escapedBody_number (h : c.toNat < 0x80) :
    escapedBody long .plain
        ('\\' :: 'u' :: '0' :: '0' :: hexDigit (c.toNat / 16) :: hexDigit (c.toNat % 16) :: rest) =
      prepend [c] (escapedBody long .plain rest) := by
  have hletter : ∀ s,
      escapedBody long .plain ('\\' :: 'u' :: s) = escapedBody long (.code 4 0) s := by
    intro s
    cases long
    · exact prepend_nil _
    · exact prepend_nil _
  have hvalue : (0 * 16 + c.toNat / 16) * 16 + c.toNat % 16 = c.toNat := by omega
  rw [hletter, escapedBody_digit (c := '0') (d := 0) rfl, escapedBody_digit (c := '0') (d := 0) rfl,
    escapedBody_digit (digitValue?_hexDigit (by omega)),
    escapedBody_lastDigit (digitValue?_hexDigit (by omega))]
  rw [hvalue]
  exact charOfCode?_toNat c

theorem toNat_lt_of_isControl (h : isControl c = true) : c.toNat < 0x80 := by
  simp [isControl] at h
  omega

theorem isPrintable_of_not_isControl (h : isControl c = false) (hbreak : c ≠ '\n') :
    isPrintable c = true := by
  simp only [isControl, isPrintable, Bool.or_eq_false_iff, Bool.and_eq_false_iff,
    decide_eq_false_iff_not, bne_eq_false_iff_eq, Bool.or_eq_true, Bool.and_eq_true,
    decide_eq_true_eq, beq_iff_eq, bne_iff_ne] at h ⊢
  obtain ⟨(hlow | htab) | rfl, hdelete⟩ := h
  · exact .inr ⟨Nat.not_lt.mp hlow, hdelete⟩
  · exact .inl htab
  · exact absurd rfl hbreak

theorem escapedBody_printable (hquote : c ≠ '"') (hslash : c ≠ '\\') (hreturn : c ≠ '\r')
    (h : isPrintable c = true) :
    escapedBody long .plain (c :: rest) = prepend [c] (escapedBody long .plain rest) := by
  cases long
  · simp [escapedBody, basicBody, hquote, hslash, h]
  · simp [escapedBody, longBasicBody, beginsClosing, hquote, hslash, hreturn, h]

theorem escapedBody_escapedChar (h : c ≠ '"') :
    escapedBody long .plain (escapedChar long c ++ rest) =
      prepend [c] (escapedBody long .plain rest) := by
  unfold escapedChar
  split_ifs with hslash hback htab hbreak hlong hfeed hreturn hcontrol
  · subst hslash
    cases long <;> rfl
  · subst hback
    cases long <;> rfl
  · subst htab
    cases long <;> rfl
  · subst hbreak hlong
    rfl
  · subst hbreak
    cases long <;> rfl
  · subst hfeed
    cases long <;> rfl
  · subst hreturn
    cases long <;> rfl
  · exact escapedBody_number (toNat_lt_of_isControl hcontrol)
  · exact escapedBody_printable h hslash hreturn
      (isPrintable_of_not_isControl (by simpa using hcontrol) hbreak)

theorem escapedBody_cons (text rest : Text) (h : c = '"' → plainQuotes long ≤ row) :
    escapedBody long .plain (escapeBehind long row (c :: text) ++ rest) =
      prepend [c] (escapedBody long .plain (escapeBehind long 0 text ++ rest)) := by
  rw [escapeBehind]
  by_cases hquote : c = '"'
  · rw [if_pos hquote, if_neg (Nat.not_lt.mpr (h hquote)), hquote]
    cases long <;> rfl
  · rw [if_neg hquote, List.append_assoc, escapedBody_escapedChar hquote]

theorem basicBody_escape (text rest : Text) :
    basicBody .plain (escape false text ++ '"' :: rest) = .ok (text, rest) := by
  show escapedBody false .plain (escape false text ++ '"' :: rest) = .ok (text, rest)
  induction text with
  | nil => rfl
  | cons c text ih =>
    rw [escape] at ih ⊢
    rw [escapedBody_cons _ _ fun _ => Nat.le_refl 0, ih, prepend_singleton_ok]

/-! ## Closing quotes -/

theorem closingQuotes_replicate {n : Nat} (hn : n ≤ 2) (hrest : rest.head? ≠ some quote) :
    closingQuotes quote (List.replicate n quote ++ rest) = (List.replicate n quote, rest) := by
  have hnone : rest.takeWhile (· == quote) = [] := by
    cases rest with
    | nil => rfl
    | cons c rest => simpa [List.takeWhile_cons] using hrest
  have hrow : (List.replicate n quote ++ rest).takeWhile (· == quote) = List.replicate n quote := by
    rw [List.takeWhile_append_of_pos (by simp +contextual [List.mem_replicate]), hnone,
      List.append_nil]
  rw [closingQuotes, hrow, List.take_of_length_le (by simpa using hn)]
  simp

/-- Before the end of a long string, its closing quotes are seen only in a row of three quotes, or
next to quotes that the string ends in. -/
theorem cases_of_beginsClosing
    (h : beginsClosing quote c (text ++ quote :: quote :: quote :: rest) = true) :
    text = [] ∨ text = [quote] ∨ ∃ more, text = quote :: quote :: more := by
  rw [beginsClosing, Bool.and_eq_true, List.isPrefixOf_iff_prefix] at h
  match text with
  | [] => exact .inl rfl
  | [a] =>
    obtain ⟨rfl, -⟩ := List.cons_prefix_cons.mp h.2
    exact .inr (.inl rfl)
  | a :: b :: more =>
    obtain ⟨rfl, hb⟩ := List.cons_prefix_cons.mp h.2
    obtain ⟨rfl, -⟩ := List.cons_prefix_cons.mp hb
    exact .inr (.inr ⟨more, rfl⟩)

theorem exists_cons_escapedChar (long : Bool) (c : Char) :
    ∃ first more, escapedChar long c = first :: more ∧ first ≠ '\r' ∧
      (first = '\\' ∨ first = c) := by
  unfold escapedChar
  split_ifs with hslash hback htab hbreak hlong hfeed hreturn hcontrol
  · exact ⟨_, _, rfl, by decide, .inl rfl⟩
  · exact ⟨_, _, rfl, by decide, .inl rfl⟩
  · exact ⟨_, _, rfl, by decide, .inl rfl⟩
  · exact ⟨_, _, rfl, by decide, .inr hbreak.symm⟩
  · exact ⟨_, _, rfl, by decide, .inl rfl⟩
  · exact ⟨_, _, rfl, by decide, .inl rfl⟩
  · exact ⟨_, _, rfl, by decide, .inl rfl⟩
  · exact ⟨_, _, rfl, by decide, .inl rfl⟩
  · exact ⟨_, _, rfl, hreturn, .inr rfl⟩

theorem eq_nil_of_escapeBehind (h : escapeBehind long row text = []) : text = [] := by
  cases text with
  | nil => rfl
  | cons c text =>
    obtain ⟨first, more, hfirst, -⟩ := exists_cons_escapedChar long c
    rw [escapeBehind, hfirst] at h
    split_ifs at h
    all_goals cases h

theorem eq_cons_of_escapeBehind {more : Text} (h : escapeBehind long row text = '"' :: more) :
    row < plainQuotes long ∧
      ∃ behind, text = '"' :: behind ∧ more = escapeBehind long (row + 1) behind := by
  cases text with
  | nil => cases h
  | cons c text =>
    rw [escapeBehind] at h
    split_ifs at h with hquote hrow
    · cases h
      exact ⟨hrow, text, by rw [hquote], rfl⟩
    · cases h
    · obtain ⟨first, _, hfirst, -, hor⟩ := exists_cons_escapedChar long c
      rw [hfirst] at h
      cases h
      rcases hor with hor | rfl
      · cases hor
      · exact absurd rfl hquote

theorem longBasicBody_quote (rest : Text) :
    longBasicBody .plain ('"' :: rest) =
      if beginsClosing '"' '"' rest then .ok (closingQuotes '"' (rest.drop 2))
      else prepend ['"'] (longBasicBody .plain rest) :=
  rfl

theorem longBasicBody_escapeBehind (text : Text) (hrest : rest.head? ≠ some '"') :
    longBasicBody .plain (escapeBehind true row text ++ '"' :: '"' :: '"' :: rest) =
      .ok (text, rest) := by
  -- one or two quotes may have been read as they are, so the row is a variable
  induction text generalizing row with
  | nil => exact congrArg Except.ok (closingQuotes_replicate (n := 0) (by omega) hrest)
  | cons c text ih =>
    by_cases hraw : c = '"' ∧ row < plainQuotes true
    · obtain ⟨rfl, hrow⟩ := hraw
      rw [escapeBehind, if_pos rfl, if_pos hrow, List.cons_append, longBasicBody_quote]
      split
      · rename_i hclosing
        rcases cases_of_beginsClosing hclosing with hnil | hone | ⟨more, hmore⟩
        · rw [hnil, eq_nil_of_escapeBehind hnil]
          exact congrArg Except.ok (closingQuotes_replicate (n := 1) (by omega) hrest)
        · obtain ⟨-, behind, rfl, hbehind⟩ := eq_cons_of_escapeBehind hone
          rw [hone, eq_nil_of_escapeBehind hbehind.symm]
          exact congrArg Except.ok (closingQuotes_replicate (n := 2) (by omega) hrest)
        · -- a third quote side by side would have been escaped
          obtain ⟨-, behind, rfl, hbehind⟩ := eq_cons_of_escapeBehind hmore
          have hthird := (eq_cons_of_escapeBehind hbehind.symm).1
          simp only [plainQuotes, if_true] at hthird
          omega
      · rw [ih, prepend_singleton_ok]
    · have hread := escapedBody_cons text ('"' :: '"' :: '"' :: rest)
        fun hquote => Nat.not_lt.mp fun hrow => hraw ⟨hquote, hrow⟩
      refine hread.trans ?_
      rw [escapedBody, if_pos rfl, ih, prepend_singleton_ok]

/-! ## Rows of quotes -/

/-- The row of `c` at the end of what was read and the longest one, after one more character. -/
def countRow (c : Char) (counts : Nat × Nat) (d : Char) : Nat × Nat :=
  if d = c then (counts.1 + 1, max counts.2 (counts.1 + 1)) else (0, counts.2)

theorem longestRow_eq (c : Char) (text : Text) :
    longestRow c text = (text.foldl (countRow c) (0, 0)).2 :=
  rfl

theorem le_foldl_countRow (c : Char) (text : Text) (counts : Nat × Nat) :
    counts.2 ≤ (text.foldl (countRow c) counts).2 := by
  induction text generalizing counts with
  | nil => exact Nat.le_refl _
  | cons d text ih =>
    refine Nat.le_trans ?_ (ih _)
    rw [countRow]
    split
    · exact Nat.le_max_left ..
    · exact Nat.le_refl _

theorem not_infix_of_longestRow (h : longestRow c text < 3) : ¬ [c, c, c] <:+: text := by
  rintro ⟨before, after, rfl⟩
  rw [longestRow_eq, List.foldl_append, List.foldl_append] at h
  generalize before.foldl (countRow c) (0, 0) = counts at h
  have hthree : 3 ≤ ([c, c, c].foldl (countRow c) counts).2 := by
    simp only [List.foldl_cons, List.foldl_nil, countRow, if_true]
    omega
  have hle := le_foldl_countRow c after ([c, c, c].foldl (countRow c) counts)
  omega

/-! ## Literal strings -/

theorem ne_return_of_not_isControl (h : isControl c = false) : c ≠ '\r' := by
  rintro rfl
  cases h

theorem literalBody_append (hcontrol : text.any isControl = false) (hbreak : '\n' ∉ text)
    (hquote : '\'' ∉ text) : literalBody (text ++ '\'' :: rest) = .ok (text, rest) := by
  induction text with
  | nil => rfl
  | cons c text ih =>
    rw [List.any_cons, Bool.or_eq_false_iff] at hcontrol
    rw [List.mem_cons, not_or] at hbreak hquote
    have hprintable := isPrintable_of_not_isControl hcontrol.1 (Ne.symm hbreak.1)
    rw [List.cons_append, literalBody, if_neg (Ne.symm hquote.1), if_pos hprintable,
      ih hcontrol.2 hbreak.2 hquote.2, prepend_singleton_ok]

theorem longLiteralBody_append (hcontrol : text.any isControl = false)
    (hrow : ¬ ['\'', '\'', '\''] <:+: text) (hrest : rest.head? ≠ some '\'') :
    longLiteralBody (text ++ '\'' :: '\'' :: '\'' :: rest) = .ok (text, rest) := by
  induction text with
  | nil => exact congrArg Except.ok (closingQuotes_replicate (n := 0) (by omega) hrest)
  | cons c text ih =>
    rw [List.any_cons, Bool.or_eq_false_iff] at hcontrol
    rw [List.cons_append, longLiteralBody]
    split
    · rename_i hclosing
      have hc : c = '\'' := by
        rw [beginsClosing, Bool.and_eq_true, beq_iff_eq] at hclosing
        exact hclosing.1
      subst hc
      rcases cases_of_beginsClosing hclosing with rfl | rfl | ⟨more, rfl⟩
      · exact congrArg Except.ok (closingQuotes_replicate (n := 1) (by omega) hrest)
      · exact congrArg Except.ok (closingQuotes_replicate (n := 2) (by omega) hrest)
      · exact absurd ⟨[], more, rfl⟩ hrow
    · have hprintable : (isPrintable c || c = '\n') = true := by
        by_cases hbreak : c = '\n'
        · simp [hbreak]
        · simp [isPrintable_of_not_isControl hcontrol.1 hbreak]
      have hbehind : ¬ ['\'', '\'', '\''] <:+: text := fun hthree =>
        hrow (List.infix_cons hthree)
      rw [if_neg (by simp [ne_return_of_not_isControl hcontrol.1]), if_pos hprintable,
        ih hcontrol.2 hbehind, prepend_singleton_ok]

/-! ## Notations -/

theorem dropLineEnd_cons (hbreak : c ≠ '\n') (hreturn : c ≠ '\r') :
    dropLineEnd (c :: rest) = c :: rest := by
  unfold dropLineEnd
  split
  · rename_i heq
    cases heq
    exact absurd rfl hbreak
  · rename_i heq
    cases heq
    exact absurd rfl hreturn
  · rfl

theorem dropLineEnd_breakBefore {first : Char} {more : Text} (hreturn : first ≠ '\r')
    (hbreak : '\n' ∉ text → first ≠ '\n') :
    dropLineEnd (breakBefore text ++ first :: more) = first :: more := by
  rw [breakBefore]
  split
  · rfl
  · rename_i hnone
    exact dropLineEnd_cons (hbreak (by simpa using hnone)) hreturn

theorem exists_cons_escape (text rest : Text) :
    ∃ first more, escape true text ++ '"' :: rest = first :: more ∧ first ≠ '\r' ∧
      ('\n' ∉ text → first ≠ '\n') := by
  cases text with
  | nil => exact ⟨_, _, rfl, by decide, fun _ => by decide⟩
  | cons c text =>
    by_cases hquote : c = '"'
    · subst hquote
      exact ⟨_, _, rfl, by decide, fun _ => by decide⟩
    · obtain ⟨first, more, hfirst, hreturn, hor⟩ := exists_cons_escapedChar true c
      rw [escape, escapeBehind, if_neg hquote, hfirst]
      refine ⟨first, _, rfl, hreturn, fun hnone => ?_⟩
      rcases hor with rfl | rfl
      · decide
      · rintro rfl
        exact hnone List.mem_cons_self

theorem readBasic_escape (text : Text) (hrest : rest.head? ≠ some '"') :
    readBasic (escape false text ++ '"' :: rest) = .ok (text, rest) := by
  unfold readBasic
  split
  · rename_i behind heq
    cases hwritten : escape false text with
    | nil =>
      rw [hwritten] at heq
      cases heq
      exact absurd rfl hrest
    | cons first more =>
      rw [hwritten, List.cons_append] at heq
      obtain ⟨rfl, -⟩ := List.cons.inj heq
      have hrow := (eq_cons_of_escapeBehind hwritten).1
      cases hrow
  · exact basicBody_escape text rest

theorem readBasic_long (text : Text) (hrest : rest.head? ≠ some '"') :
    readBasic
        ('"' :: '"' :: (breakBefore text ++ (escape true text ++ '"' :: '"' :: '"' :: rest))) =
      .ok (text, rest) := by
  obtain ⟨first, more, hfirst, hreturn, hbreak⟩ := exists_cons_escape text ('"' :: '"' :: rest)
  rw [readBasic, hfirst, dropLineEnd_breakBefore hreturn hbreak, ← hfirst]
  exact longBasicBody_escapeBehind text hrest

theorem readLiteral_append (hcontrol : text.any isControl = false) (hbreak : '\n' ∉ text)
    (hquote : '\'' ∉ text) (hrest : rest.head? ≠ some '\'') :
    readLiteral (text ++ '\'' :: rest) = .ok (text, rest) := by
  unfold readLiteral
  split
  · rename_i behind heq
    cases text with
    | nil =>
      cases heq
      exact absurd rfl hrest
    | cons c text =>
      obtain ⟨rfl, -⟩ := List.cons.inj heq
      exact absurd List.mem_cons_self hquote
  · exact literalBody_append hcontrol hbreak hquote

theorem readLiteral_long (hcontrol : text.any isControl = false)
    (hrow : longestRow '\'' text < 3) (hrest : rest.head? ≠ some '\'') :
    readLiteral ('\'' :: '\'' :: (breakBefore text ++ (text ++ '\'' :: '\'' :: '\'' :: rest))) =
      .ok (text, rest) := by
  have hfirst : ∃ first more, text ++ '\'' :: '\'' :: '\'' :: rest = first :: more ∧ first ≠ '\r' ∧
      ('\n' ∉ text → first ≠ '\n') := by
    cases text with
    | nil => exact ⟨_, _, rfl, by decide, fun _ => by decide⟩
    | cons c text =>
      rw [List.any_cons, Bool.or_eq_false_iff] at hcontrol
      refine ⟨c, _, rfl, ne_return_of_not_isControl hcontrol.1, ?_⟩
      rintro hnone rfl
      exact hnone List.mem_cons_self
  obtain ⟨first, more, hfirst, hreturn, hbreak⟩ := hfirst
  rw [readLiteral, hfirst, dropLineEnd_breakBefore hreturn hbreak, ← hfirst]
  exact longLiteralBody_append hcontrol (not_infix_of_longestRow hrow) hrest

theorem of_styleOf_literal (h : styleOf text = .literal) :
    text.any isControl = false ∧ '\n' ∉ text ∧ '\'' ∉ text := by
  unfold styleOf at h
  dsimp only at h
  split_ifs at h with _ hliteral
  simpa [and_assoc] using hliteral

theorem of_styleOf_longLiteral (h : styleOf text = .longLiteral) :
    text.any isControl = false ∧ longestRow '\'' text < 3 := by
  unfold styleOf at h
  dsimp only at h
  split_ifs at h with _ _ _ hliteral
  simpa using hliteral

/-- A string is read back from the way in which it is written, unless a quote follows. -/
theorem readScalar_writeString (text : Text) (hbasic : rest.head? ≠ some '"')
    (hliteral : rest.head? ≠ some '\'') :
    readScalar (writeString text ++ rest) = .ok (.string text, rest) := by
  have hreadBasic : ∀ s, readBasic s = .ok (text, rest) →
      readScalar ('"' :: s) = .ok (.string text, rest) := by
    intro s hs
    rw [readScalar, hs]
    rfl
  have hreadLiteral : ∀ s, readLiteral s = .ok (text, rest) →
      readScalar ('\'' :: s) = .ok (.string text, rest) := by
    intro s hs
    rw [readScalar, hs]
    rfl
  rw [writeString]
  split
  · refine (congrArg readScalar ?_).trans (hreadBasic _ (readBasic_escape text hbasic))
    simp
  · rename_i hstyle
    obtain ⟨hcontrol, hbreak, hquote⟩ := of_styleOf_literal hstyle
    refine (congrArg readScalar ?_).trans
      (hreadLiteral _ (readLiteral_append hcontrol hbreak hquote hliteral))
    simp
  · refine (congrArg readScalar ?_).trans (hreadBasic _ (readBasic_long text hbasic))
    simp
  · rename_i hstyle
    obtain ⟨hcontrol, hrow⟩ := of_styleOf_longLiteral hstyle
    refine (congrArg readScalar ?_).trans (hreadLiteral _ (readLiteral_long hcontrol hrow hliteral))
    simp

/-- Two quotes that a string ends in stand side by side with the three closing ones. -/
example : writeString "it's \"\"" = "\"\"\"it's \"\"\"\"\"".toList := by
  decide

end ImportCensus.Toml
