import ImportCensus.Json
import ImportCensus.Json.Reader
import ImportCensus.Proofs.Text.Digits
import ImportCensus.Proofs.Text.Trimming
/-!
# JSON values read back

A written value has no control character, so it stays on one line, and it is read back as that
value.  What may follow a value is a comma or a closing sign; a number ends there, and a list or an
object is read part by part.
-/

namespace ImportCensus.Json

open Text (ne_of_test isDigit_of_mem_ofNat exists_cons_ofNat head?_ofNat)

mutual

def Value.datum : Value → Datum
  | .text content => .text content
  | .number n => .number { digits := n }
  | .list items => .list (itemData items)
  | .object members => .object (memberData members)

def itemData : List Value → List Datum
  | [] => []
  | v :: rest => v.datum :: itemData rest

def memberData : List (Text × Value) → List (Text × Datum)
  | [] => []
  | (name, v) :: rest => (name, v.datum) :: memberData rest

end

variable {c close : Char} {content name text rest : Text} {texts : List Text} {n depth rounds : Nat}

/-! ## Strings -/

theorem hexValue?_digitChar {d : Nat} (h : d < 16) : hexValue? (Nat.digitChar d) = some d := by
  interval_cases d <;> rfl

def consPiece (piece : Piece) (result : Option (List Piece × Text)) : Option (List Piece × Text) :=
  result.map fun (pieces, rest) => (piece :: pieces, rest)

theorem readPieces_named {sign : Char} (hsign : sign ≠ 'u')
    (hlookup : namedEscapes.lookup sign = some c) (rest : Text) :
    readPieces ('\\' :: sign :: rest) = consPiece (.char c) (readPieces rest) := by
  rw [readPieces, hlookup]
  · cases readPieces rest with
    | none => rfl
    | some read => rfl
  · rintro _ _ _ _ _ rfl
    exact absurd rfl hsign

theorem readPieces_number (h : c.toNat < 0x20) (rest : Text) :
    readPieces (numberEscape c ++ rest) = consPiece (.unit c.toNat) (readPieces rest) := by
  have hhigh := hexValue?_digitChar (d := c.toNat / 16) (by omega)
  have hlow := hexValue?_digitChar (d := c.toNat % 16) (by omega)
  have hzero : hexValue? '0' = some 0 := rfl
  have hvalue : ((0 * 16 + 0) * 16 + c.toNat / 16) * 16 + c.toNat % 16 = c.toNat := by omega
  have hunit : unit? '0' '0' (Nat.digitChar (c.toNat / 16)) (Nat.digitChar (c.toNat % 16)) =
      some c.toNat := by
    simp only [unit?, hhigh, hlow, hzero, bind, Option.bind, hvalue]
  change readPieces ('\\' :: 'u' :: '0' :: '0' :: _ :: _ :: rest) = _
  rw [readPieces, hunit]
  cases readPieces rest with
  | none => rfl
  | some read => rfl

theorem readPieces_plain (hquote : c ≠ '"') (hslash : c ≠ '\\') (h : ¬ c.toNat < 0x20)
    (rest : Text) : readPieces (c :: rest) = consPiece (.char c) (readPieces rest) := by
  rw [readPieces, if_neg h]
  · cases readPieces rest with
    | none => rfl
    | some read => rfl
  · exact hquote
  · rintro _ _ _ _ _ rfl
    exact absurd rfl hslash
  · rintro _ _ rfl
    exact absurd rfl hslash

theorem joinPieces_char (c : Char) (pieces : List Piece) :
    joinPieces none (.char c :: pieces) = (joinPieces none pieces).map (c :: ·) := by
  rw [joinPieces]
  cases joinPieces none pieces with
  | none => rfl
  | some content => rfl

theorem joinPieces_number (h : c.toNat < 0x20) (pieces : List Piece) :
    joinPieces none (.unit c.toNat :: pieces) = (joinPieces none pieces).map (c :: ·) := by
  have hlead : isLead c.toNat = false := by
    rw [isLead, Bool.and_eq_false_iff, decide_eq_false_iff_not]
    omega
  have htrail : isTrail c.toNat = false := by
    rw [isTrail, Bool.and_eq_false_iff, decide_eq_false_iff_not]
    omega
  simp only [joinPieces, hlead, htrail, Char.ofNat_toNat]
  cases joinPieces none pieces with
  | none => rfl
  | some content => rfl

theorem exists_piece_escape (c : Char) :
    ∃ piece, (∀ rest, readPieces (escape c ++ rest) = consPiece piece (readPieces rest)) ∧
      ∀ pieces, joinPieces none (piece :: pieces) = (joinPieces none pieces).map (c :: ·) := by
  unfold escape
  split_ifs with hquote hslash hback hfeed hbreak hreturn htab hlow
  · subst hquote
    exact ⟨.char _, readPieces_named (by decide) rfl, joinPieces_char _⟩
  · subst hslash
    exact ⟨.char _, readPieces_named (by decide) rfl, joinPieces_char _⟩
  · subst hback
    exact ⟨.char _, readPieces_named (by decide) rfl, joinPieces_char _⟩
  · subst hfeed
    exact ⟨.char _, readPieces_named (by decide) rfl, joinPieces_char _⟩
  · subst hbreak
    exact ⟨.char _, readPieces_named (by decide) rfl, joinPieces_char _⟩
  · subst hreturn
    exact ⟨.char _, readPieces_named (by decide) rfl, joinPieces_char _⟩
  · subst htab
    exact ⟨.char _, readPieces_named (by decide) rfl, joinPieces_char _⟩
  · exact ⟨.unit _, readPieces_number hlow, joinPieces_number hlow⟩
  · exact ⟨.char _, readPieces_plain hquote hslash hlow, joinPieces_char _⟩

theorem readText_escape (content rest : Text) :
    readText (content.flatMap escape ++ '"' :: rest) = some (content, rest) := by
  have hpieces : ∃ pieces, readPieces (content.flatMap escape ++ '"' :: rest) =
      some (pieces, rest) ∧ joinPieces none pieces = some content := by
    induction content with
    | nil => exact ⟨[], rfl, rfl⟩
    | cons c content ih =>
      obtain ⟨pieces, hread, hjoin⟩ := ih
      obtain ⟨piece, hpiece, hcons⟩ := exists_piece_escape c
      refine ⟨piece :: pieces, ?_, ?_⟩
      · rw [List.flatMap_cons, List.append_assoc, hpiece, hread]
        rfl
      · rw [hcons, hjoin]
        rfl
  obtain ⟨pieces, hread, hjoin⟩ := hpieces
  simp only [readText, hread, hjoin, bind, Option.bind]

/-! ## Numbers -/

def EndsValue (rest : Text) : Prop :=
  ∀ c ∈ rest.head?, c = ',' ∨ c = ']' ∨ c = '\x7d'

theorem readDigits_append {digits : Text} (hne : digits ≠ [])
    (hdigits : ∀ c ∈ digits, c.isDigit = true) (hrest : EndsValue rest) :
    readDigits (digits ++ rest) = some (digits, rest) := by
  have hnone : rest.takeWhile Char.isDigit = [] ∧ rest.dropWhile Char.isDigit = rest := by
    cases rest with
    | nil => exact ⟨rfl, rfl⟩
    | cons c rest =>
      rcases hrest c rfl with rfl | rfl | rfl
      · exact ⟨rfl, rfl⟩
      · exact ⟨rfl, rfl⟩
      · exact ⟨rfl, rfl⟩
  have htake : (digits ++ rest).takeWhile Char.isDigit = digits := by
    rw [List.takeWhile_append_of_pos hdigits, hnone.1, List.append_nil]
  have hdrop : (digits ++ rest).dropWhile Char.isDigit = rest := by
    rw [List.dropWhile_append_of_pos hdigits, hnone.2]
  rw [readDigits, htake, hdrop, if_neg (by simpa using hne)]

theorem readWhole_ofNat (n : Nat) (hrest : EndsValue rest) :
    readWhole (Text.ofNat n ++ rest) = some (Text.ofNat n, rest) := by
  by_cases hn : n = 0
  · subst hn
    rfl
  · have hzero := head?_ofNat hn
    obtain ⟨first, more, hfirst, -⟩ := exists_cons_ofNat n
    have hdigits := readDigits_append (by rw [hfirst]; simp)
      (fun c => isDigit_of_mem_ofNat (n := n)) hrest
    rw [hfirst] at hzero
    rw [← hdigits, hfirst, List.cons_append, readWhole]
    rintro _ heq
    cases heq
    exact hzero rfl

theorem readFraction_of_endsValue (hrest : EndsValue rest) :
    readFraction rest = some ([], rest) := by
  cases rest with
  | nil => rfl
  | cons c rest =>
    rcases hrest c rfl with rfl | rfl | rfl
    · rfl
    · rfl
    · rfl

theorem readExponent_of_endsValue (hrest : EndsValue rest) :
    readExponent rest = some (0, rest) := by
  cases rest with
  | nil => rfl
  | cons c rest =>
    rcases hrest c rfl with rfl | rfl | rfl
    · rfl
    · rfl
    · rfl

theorem readNumber_ofNat (n : Nat) (hrest : EndsValue rest) :
    readNumber (Text.ofNat n ++ rest) = some ({ digits := n }, rest) := by
  have hvalue : digitsValue (Text.ofNat n ++ []) = n := by
    rw [List.append_nil, digitsValue, Text.ofNat, Nat.ofDigitChars_toDigits (by omega) (by omega)]
  have hunsigned : readUnsigned false (Text.ofNat n ++ rest) = some ({ digits := n }, rest) := by
    simp only [readUnsigned, readWhole_ofNat n hrest, readFraction_of_endsValue hrest,
      readExponent_of_endsValue hrest, bind, Option.bind, hvalue]
    rfl
  obtain ⟨first, more, hfirst, hdigit⟩ := exists_cons_ofNat n
  rw [hfirst, List.cons_append] at hunsigned ⊢
  rw [readNumber, hunsigned]
  rintro _ heq
  cases heq
  exact absurd hdigit (by decide)

/-! ## Rows of parts -/

/-- Whether a reader takes a text for `x`, whatever follows it behind a comma or closing sign. -/
structure IsRead {α : Type} (part : Reader α) (text : Text) (x : α) : Prop where
  opens : ∃ c more, text = c :: more ∧ isBlank c = false ∧ c ≠ ']' ∧ c ≠ '\x7d'
  reads : ∀ rest, EndsValue rest → part (text ++ rest) = some (x, rest)

section Rows

variable {α : Type} {part : Reader α} {x : α} {xs : List α}

theorem skipBlanks_cons (h : isBlank c = false) : skipBlanks (c :: rest) = c :: rest := by
  rw [skipBlanks, List.dropWhile_cons_of_neg (by simp [h])]

theorem IsRead.skipBlanks_append (h : IsRead part text x) (rest : Text) :
    skipBlanks (text ++ rest) = text ++ rest := by
  obtain ⟨c, more, rfl, hblank, -⟩ := h.opens
  exact skipBlanks_cons hblank

theorem length_le_commaJoin (texts : List Text) : texts.length ≤ (commaJoin texts).length + 1 := by
  induction texts with
  | nil => exact Nat.zero_le _
  | cons text texts ih =>
    cases texts with
    | nil => exact Nat.succ_le_succ (Nat.zero_le _)
    | cons next texts =>
      rw [commaJoin, List.intercalate_cons_cons, List.length_append, List.length_append,
        ← commaJoin, List.length_cons, List.length_singleton]
      omega

theorem readParts_commaJoin (hclose : close = ']' ∨ close = '\x7d')
    (h : List.Forall₂ (IsRead part) texts xs) (hne : texts ≠ []) (hrounds : texts.length ≤ rounds)
    (rest : Text) :
    readParts part close rounds (commaJoin texts ++ close :: rest) = some (xs, rest) := by
  have hblank : isBlank close = false := by
    rcases hclose with rfl | rfl
    · rfl
    · rfl
  have hcomma : ',' ≠ close := by
    rcases hclose with rfl | rfl
    · decide
    · decide
  induction h generalizing rounds with
  | nil => exact absurd rfl hne
  | @cons text x texts xs hpart hparts ih =>
    obtain ⟨rounds, rfl⟩ := Nat.exists_eq_succ_of_ne_zero (Nat.ne_zero_of_lt hrounds)
    cases hparts with
    | nil =>
      have hends : EndsValue (close :: rest) := by
        rintro _ ⟨⟩
        exact .inr hclose
      rw [commaJoin, List.intercalate_singleton, readParts, hpart.skipBlanks_append,
        hpart.reads _ hends]
      simp only [bind, Option.bind, skipBlanks_cons hblank, if_true]
    | @cons next y texts xs hnext hmore =>
      have hends : EndsValue (',' :: (commaJoin (next :: texts) ++ close :: rest)) := by
        rintro _ ⟨⟩
        exact .inl rfl
      have hread := ih (List.cons_ne_nil _ _) (Nat.le_of_succ_le_succ hrounds)
      have hjoin : commaJoin (text :: next :: texts) ++ close :: rest =
          text ++ ',' :: (commaJoin (next :: texts) ++ close :: rest) := by
        rw [commaJoin, List.intercalate_cons_cons, commaJoin]
        simp only [List.append_assoc, List.cons_append, List.nil_append]
      rw [hjoin, readParts, hpart.skipBlanks_append, hpart.reads _ hends]
      simp only [bind, Option.bind, skipBlanks_cons (show isBlank ',' = false from rfl),
        if_neg hcomma, if_true, hread, Option.map_some]

theorem readRow_commaJoin (hclose : close = ']' ∨ close = '\x7d')
    (h : List.Forall₂ (IsRead part) texts xs) (rest : Text) :
    readRow part close (commaJoin texts ++ close :: rest) = some (xs, rest) := by
  cases h with
  | nil =>
    rcases hclose with rfl | rfl
    · rfl
    · rfl
  | @cons text x texts xs hpart hparts =>
    have hrounds : (text :: texts).length ≤ (commaJoin (text :: texts) ++ close :: rest).length := by
      have hlength := length_le_commaJoin (text :: texts)
      simp only [List.length_append, List.length_cons] at hlength ⊢
      omega
    have hparts := readParts_commaJoin hclose (.cons hpart hparts) (List.cons_ne_nil _ _) hrounds
      rest
    obtain ⟨c, more, rfl, hblank, hlist, hobject⟩ := hpart.opens
    have hne : c ≠ close := by
      rcases hclose with rfl | rfl
      · exact hlist
      · exact hobject
    obtain ⟨behind, hbehind⟩ : ∃ behind, commaJoin ((c :: more) :: texts) = c :: behind := by
      cases texts with
      | nil => exact ⟨more, List.intercalate_singleton⟩
      | cons next texts => exact ⟨_, List.intercalate_cons_cons⟩
    rw [hbehind, List.cons_append] at hparts ⊢
    rw [readRow, skipBlanks_cons hblank]
    simp only [if_neg hne, hparts]

end Rows

/-! ## Values -/

theorem isRead_writeText (content : Text) (depth : Nat) :
    IsRead (readValue depth) (writeText content) (.text content) := by
  refine ⟨⟨'"', _, rfl, rfl, by decide, by decide⟩, fun rest _ => ?_⟩
  have htext : writeText content ++ rest = '"' :: (content.flatMap escape ++ '"' :: rest) := by
    simp [writeText]
  have hscalar : readScalar ('"' :: (content.flatMap escape ++ '"' :: rest)) =
      some (.text content, rest) := by
    rw [readScalar, readText_escape]
    rfl
  rw [htext]
  cases depth with
  | zero => exact hscalar
  | succ depth => exact hscalar

theorem isRead_ofNat (n depth : Nat) :
    IsRead (readValue depth) (Text.ofNat n) (.number { digits := n }) := by
  obtain ⟨first, more, hfirst, hdigit⟩ := exists_cons_ofNat n
  have hblank : isBlank first = false := by
    have hspace : first ≠ ' ' := ne_of_test hdigit rfl
    have htab : first ≠ '\t' := ne_of_test hdigit rfl
    have hfeed : first ≠ '\n' := ne_of_test hdigit rfl
    have hreturn : first ≠ '\r' := ne_of_test hdigit rfl
    simp [isBlank, hspace, htab, hfeed, hreturn]
  refine ⟨⟨first, more, hfirst, hblank, ne_of_test hdigit rfl, ne_of_test hdigit rfl⟩,
    fun rest hrest => ?_⟩
  have hnumber := readNumber_ofNat n hrest
  rw [hfirst, List.cons_append] at hnumber ⊢
  have hquote : first ≠ '"' := ne_of_test hdigit rfl
  have hnull : first ≠ 'n' := ne_of_test hdigit rfl
  have htrue : first ≠ 't' := ne_of_test hdigit rfl
  have hfalse : first ≠ 'f' := ne_of_test hdigit rfl
  have hlist : first ≠ '[' := ne_of_test hdigit rfl
  have hobject : first ≠ '\x7b' := ne_of_test hdigit rfl
  have hscalar : readScalar (first :: (more ++ rest)) = some (.number { digits := n }, rest) := by
    simp [readScalar, hquote, hnull, htrue, hfalse, hnumber]
  cases depth with
  | zero => exact hscalar
  | succ depth => simpa [readValue, hlist, hobject] using hscalar

theorem isRead_member {d : Datum} {value : Reader Datum} (h : IsRead value text d) (name : Text) :
    IsRead (readMember value) (writeText name ++ ':' :: text) (name, d) := by
  refine ⟨⟨'"', _, rfl, rfl, by decide, by decide⟩, fun rest hrest => ?_⟩
  have htext : writeText name ++ ':' :: text ++ rest =
      '"' :: (name.flatMap escape ++ '"' :: ':' :: (text ++ rest)) := by
    simp [writeText]
  have hcolon : skipBlanks (':' :: (text ++ rest)) = ':' :: (text ++ rest) := skipBlanks_cons rfl
  rw [htext, readMember, readText_escape]
  simp only [bind, Option.bind, hcolon, h.skipBlanks_append, h.reads rest hrest, Option.map_some]

theorem isRead_list {data : List Datum} (h : List.Forall₂ (IsRead (readValue depth)) texts data) :
    IsRead (readValue (depth + 1)) ('[' :: commaJoin texts ++ [']']) (.list data) := by
  refine ⟨⟨'[', _, rfl, rfl, by decide, by decide⟩, fun rest _ => ?_⟩
  have htext : '[' :: commaJoin texts ++ [']'] ++ rest = '[' :: (commaJoin texts ++ ']' :: rest) := by
    simp
  rw [htext, readValue, readRow_commaJoin (.inl rfl) h]
  rfl

theorem isRead_object {members : List (Text × Datum)}
    (h : List.Forall₂ (IsRead (readMember (readValue depth))) texts members) :
    IsRead (readValue (depth + 1)) ('\x7b' :: commaJoin texts ++ ['\x7d']) (.object members) := by
  refine ⟨⟨'\x7b', _, rfl, rfl, by decide, by decide⟩, fun rest _ => ?_⟩
  have htext : '\x7b' :: commaJoin texts ++ ['\x7d'] ++ rest =
      '\x7b' :: (commaJoin texts ++ '\x7d' :: rest) := by
    simp
  rw [htext, readValue, readRow_commaJoin (.inr rfl) h]
  rfl

theorem length_le_of_mem_enclosed {opening closing : Char}
    (h : (opening :: commaJoin texts ++ [closing]).length ≤ depth + 1) :
    ∀ text ∈ texts, text.length ≤ depth := by
  intro text htext
  have hle : text.length ≤ (commaJoin texts).length := (Text.isInfix_intercalate htext).length_le
  simp only [List.length_append, List.length_cons, List.length_nil] at h
  omega

mutual

/-- A value is read back by a reader that goes as deep as its text is long. -/
theorem isRead_render : ∀ (v : Value) (depth : Nat), (render v).length ≤ depth →
    IsRead (readValue depth) (render v) v.datum
  | .text content, depth, _ => isRead_writeText content depth
  | .number n, depth, _ => isRead_ofNat n depth
  | .list items, 0, h => by simp [render] at h
  | .list items, depth + 1, h => by
    rw [render] at h ⊢
    rw [Value.datum]
    have hparts := length_le_of_mem_enclosed h
    exact isRead_list (isRead_renderItems items depth hparts)
  | .object members, 0, h => by simp [render] at h
  | .object members, depth + 1, h => by
    rw [render] at h ⊢
    rw [Value.datum]
    have hparts := length_le_of_mem_enclosed h
    exact isRead_object (isRead_renderMembers members depth hparts)

theorem isRead_renderItems : ∀ (items : List Value) (depth : Nat),
    (∀ text ∈ renderItems items, text.length ≤ depth) →
      List.Forall₂ (IsRead (readValue depth)) (renderItems items) (itemData items)
  | [], _, _ => .nil
  | v :: items, depth, h => by
    rw [renderItems, List.forall_mem_cons] at h
    exact .cons (isRead_render v depth h.1) (isRead_renderItems items depth h.2)

theorem isRead_renderMembers : ∀ (members : List (Text × Value)) (depth : Nat),
    (∀ text ∈ renderMembers members, text.length ≤ depth) →
      List.Forall₂ (IsRead (readMember (readValue depth))) (renderMembers members)
        (memberData members)
  | [], _, _ => .nil
  | (name, v) :: members, depth, h => by
    rw [renderMembers, List.forall_mem_cons] at h
    have hvalue : (render v).length ≤ depth := by
      have hle := h.1
      rw [List.length_append, List.length_cons] at hle
      omega
    exact .cons (isRead_member (isRead_render v depth hvalue) name)
      (isRead_renderMembers members depth h.2)

end

theorem decode_render (v : Value) : decode (render v) = some v.datum := by
  have hread := isRead_render v (render v).length (Nat.le_refl _)
  have hskip := hread.skipBlanks_append []
  have hvalue := hread.reads [] (by rintro _ ⟨⟩)
  rw [List.append_nil] at hskip hvalue
  rw [decode, hskip, hvalue]
  rfl

/-! ## Control characters -/

theorem le_toNat_of_mem_escape {d : Char} (h : d ∈ escape c) : 0x20 ≤ d.toNat := by
  have hdigits : ∀ k < 16, 0x20 ≤ (Nat.digitChar k).toNat := by decide
  have hshort : ∀ text : Text, (text.all fun d => 0x20 ≤ d.toNat) = true → d ∈ text →
      0x20 ≤ d.toNat := by
    intro text htext hmem
    exact of_decide_eq_true (List.all_eq_true.mp htext d hmem)
  unfold escape at h
  split_ifs at h with hquote hslash hback hfeed hbreak hreturn htab hlow
  · exact hshort _ (by decide) h
  · exact hshort _ (by decide) h
  · exact hshort _ (by decide) h
  · exact hshort _ (by decide) h
  · exact hshort _ (by decide) h
  · exact hshort _ (by decide) h
  · exact hshort _ (by decide) h
  · have hhigh := hdigits (c.toNat / 16) (by omega)
    have hlast := hdigits (c.toNat % 16) (by omega)
    simp only [numberEscape, List.mem_cons, List.not_mem_nil, or_false] at h
    rcases h with rfl | rfl | rfl | rfl | rfl | rfl
    · decide
    · decide
    · decide
    · decide
    · exact hhigh
    · exact hlast
  · rw [List.mem_singleton] at h
    subst h
    exact Nat.le_of_not_lt hlow

theorem le_toNat_of_mem_writeText (h : c ∈ writeText content) : 0x20 ≤ c.toNat := by
  simp only [writeText, List.mem_append, List.mem_cons, List.mem_flatMap, List.not_mem_nil,
    or_false] at h
  rcases h with (rfl | ⟨d, -, hescape⟩) | rfl
  · decide
  · exact le_toNat_of_mem_escape hescape
  · decide

theorem le_toNat_of_mem_ofNat (h : c ∈ Text.ofNat n) : 0x20 ≤ c.toNat := by
  have hdigit := isDigit_of_mem_ofNat h
  rw [Char.isDigit, Bool.and_eq_true, decide_eq_true_eq, decide_eq_true_eq] at hdigit
  have hzero : 48 ≤ c.toNat := hdigit.1
  omega

theorem le_toNat_of_mem_commaJoin (h : ∀ text ∈ texts, ∀ c ∈ text, 0x20 ≤ c.toNat)
    (hc : c ∈ commaJoin texts) : 0x20 ≤ c.toNat := by
  by_cases hcomma : c = ','
  · subst hcomma
    decide
  · obtain ⟨text, htext, hmem⟩ := (Text.mem_intercalate_singleton_iff hcomma).mp hc
    exact h text htext c hmem

theorem le_toNat_of_mem_row {first last : Char} (hfirst : 0x20 ≤ first.toNat)
    (hlast : 0x20 ≤ last.toNat) (h : ∀ text ∈ texts, ∀ c ∈ text, 0x20 ≤ c.toNat)
    (hc : c ∈ first :: commaJoin texts ++ [last]) : 0x20 ≤ c.toNat := by
  simp only [List.cons_append, List.mem_cons, List.mem_append, List.not_mem_nil, or_false] at hc
  rcases hc with rfl | hc | rfl
  · exact hfirst
  · exact le_toNat_of_mem_commaJoin h hc
  · exact hlast

mutual

/-- A written value has no control characters. -/
theorem le_toNat_of_mem_render : ∀ (v : Value), ∀ c ∈ render v, 0x20 ≤ c.toNat
  | .text content, c, hc => le_toNat_of_mem_writeText hc
  | .number n, c, hc => le_toNat_of_mem_ofNat hc
  | .list items, c, hc => by
    rw [render] at hc
    exact le_toNat_of_mem_row (by decide) (by decide) (le_toNat_of_mem_renderItems items) hc
  | .object members, c, hc => by
    rw [render] at hc
    exact le_toNat_of_mem_row (by decide) (by decide) (le_toNat_of_mem_renderMembers members) hc

theorem le_toNat_of_mem_renderItems :
    ∀ (items : List Value), ∀ text ∈ renderItems items, ∀ c ∈ text, 0x20 ≤ c.toNat
  | [], text, htext => by cases htext
  | v :: items, text, htext => by
    rw [renderItems, List.mem_cons] at htext
    rcases htext with rfl | htext
    · exact le_toNat_of_mem_render v
    · exact le_toNat_of_mem_renderItems items text htext

theorem le_toNat_of_mem_renderMembers :
    ∀ (members : List (Text × Value)), ∀ text ∈ renderMembers members, ∀ c ∈ text,
      0x20 ≤ c.toNat
  | [], text, htext => by cases htext
  | (name, v) :: members, text, htext => by
    rw [renderMembers, List.mem_cons] at htext
    rcases htext with rfl | htext
    · intro c hc
      rw [List.mem_append, List.mem_cons] at hc
      rcases hc with hc | rfl | hc
      · exact le_toNat_of_mem_writeText hc
      · decide
      · exact le_toNat_of_mem_render v c hc
    · exact le_toNat_of_mem_renderMembers members text htext

end

end ImportCensus.Json
