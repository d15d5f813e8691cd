import ImportCensus.Glob.Token
/-!
# Matching globs

A glob is matched against a path from its last token to its first.  For each token the matcher
fills a table with one entry for each tail of the path: whether the tail is what the token and
all after it stand for.  The work is bounded by tokens times bytes, whatever the glob.  The main
statement is `accepts_iff`: the table answers as `SeqMatches` says.
-/

namespace ImportCensus.Glob

/-- The entries of a property of tails, longest tail first. -/
def table (p : List UInt8 → Bool) : List UInt8 → List Bool
  | [] => [p []]
  | b :: s => p (b :: s) :: table p s

def either (k l : List Bool) : List Bool :=
  k.zipWith (· || ·) l

/-- Tails that start with a byte of a class and go on as `k` says. -/
def byteThen (admits : UInt8 → Bool) : List UInt8 → List Bool → List Bool
  | b :: s, _ :: ks => (admits b && ks.headD false) :: byteThen admits s ks
  | _, _ => [false]

/-- Tails that go on as `k` says after bytes of one component. -/
def runThen : List UInt8 → List Bool → List Bool
  | b :: s, k :: ks =>
    let rest := runThen s ks
    (k || (b != slash && rest.headD false)) :: rest
  | _, ks => ks

/-- Tails that go on as `k` says after a separator somewhere in them. -/
def pastSlash : List UInt8 → List Bool → List Bool
  | b :: s, _ :: ks =>
    let rest := pastSlash s ks
    ((b == slash && ks.headD false) || rest.headD false) :: rest
  | _, _ => [false]

def anyThen : List UInt8 → List Bool → List Bool
  | _ :: s, k :: ks =>
    let rest := anyThen s ks
    (k || rest.headD false) :: rest
  | _, ks => ks

def bytesThen (fold : Bool) (bytes path : List UInt8) (k : List Bool) : List Bool :=
  bytes.foldr (fun b k => byteThen (fun a => foldByte fold a == foldByte fold b) path k) k

mutual

/-- The tails of `path` that start with what the token stands for and go on as `k` says. -/
def Token.before (fold : Bool) (path : List UInt8) : Token → List Bool → List Bool
  | .literal c, k => bytesThen fold (String.utf8EncodeChar c) path k
  | .anyByte, k => byteThen (· != slash) path k
  | .run, k => runThen path k
  | .leading, k => either k (pastSlash path k)
  | .trailing, k => byteThen (· == slash) path (anyThen path k)
  | .inner, k => byteThen (· == slash) path (either k (pastSlash path k))
  | .oneOf negated ranges, k => byteThen (classAdmits fold negated ranges) path k
  | .group branches, k => if areVoid branches then k else anyBefore fold path branches k

def seqBefore (fold : Bool) (path : List UInt8) : List Token → List Bool → List Bool
  | [], k => k
  | t :: ts, k => t.before fold path (seqBefore fold path ts k)

def anyBefore (fold : Bool) (path : List UInt8) : List (List Token) → List Bool → List Bool
  | [], k => k.map fun _ => false
  | b :: bs, k =>
    if seqVoid b then anyBefore fold path bs k
    else either (seqBefore fold path b k) (anyBefore fold path bs k)

end

def accepts (fold : Bool) (tokens : List Token) (path : List UInt8) : Bool :=
  (seqBefore fold path tokens (table List.isEmpty path)).headD false

section Table

variable {p q : List UInt8 → Bool} {path : List UInt8}

@[simp] theorem head?_table : (table p path).head? = some (p path) := by
  cases path <;> rfl

theorem either_table : either (table p path) (table q path) = table (fun s => p s || q s) path := by
  induction path with
  | nil => rfl
  | cons b s ih => simpa [table, either] using ih

theorem map_false_table : (table p path).map (fun _ => false) = table (fun _ => false) path := by
  induction path with
  | nil => rfl
  | cons b s ih => simpa [table] using ih

def headThen (admits : UInt8 → Bool) (p : List UInt8 → Bool) : List UInt8 → Bool
  | [] => false
  | b :: s => admits b && p s

theorem byteThen_table {admits : UInt8 → Bool} :
    byteThen admits path (table p path) = table (headThen admits p) path := by
  induction path with
  | nil => rfl
  | cons b s ih => simp [table, byteThen, headThen, ih]

theorem headThen_iff {admits : UInt8 → Bool} :
    headThen admits p path = true ↔
      ∃ x r, path = x ++ r ∧ (∃ b, admits b = true ∧ x = [b]) ∧ p r = true := by
  cases path with
  | nil => simp [headThen]
  | cons b s =>
    simp only [headThen, Bool.and_eq_true]
    constructor
    · rintro ⟨hb, hs⟩
      exact ⟨[b], s, rfl, ⟨b, hb, rfl⟩, hs⟩
    · rintro ⟨x, r, heq, ⟨a, ha, rfl⟩, hr⟩
      obtain ⟨rfl, rfl⟩ := List.cons.inj heq
      exact ⟨ha, hr⟩

def runFrom (p : List UInt8 → Bool) : List UInt8 → Bool
  | [] => p []
  | b :: s => p (b :: s) || (b != slash && runFrom p s)

theorem runThen_table : runThen path (table p path) = table (runFrom p) path := by
  induction path with
  | nil => rfl
  | cons b s ih => simp [table, runThen, runFrom, ih]

theorem runFrom_iff :
    runFrom p path = true ↔ ∃ x r, path = x ++ r ∧ slash ∉ x ∧ p r = true := by
  induction path with
  | nil =>
    constructor
    · intro h
      exact ⟨[], [], rfl, by simp, h⟩
    · rintro ⟨x, r, heq, -, hr⟩
      obtain ⟨rfl, rfl⟩ := List.append_eq_nil_iff.1 heq.symm
      exact hr
  | cons b s ih =>
    simp only [runFrom, Bool.or_eq_true, Bool.and_eq_true, bne_iff_ne, ih]
    constructor
    · rintro (h | ⟨hb, x, r, rfl, hx, hr⟩)
      · exact ⟨[], _, rfl, by simp, h⟩
      · exact ⟨b :: x, r, rfl, by simp [hx, Ne.symm hb], hr⟩
    · rintro ⟨x, r, heq, hx, hr⟩
      cases x with
      | nil => exact Or.inl (heq ▸ hr)
      | cons a x =>
        obtain ⟨rfl, rfl⟩ := List.cons.inj heq
        simp only [List.mem_cons, not_or] at hx
        exact Or.inr ⟨Ne.symm hx.1, x, r, rfl, hx.2, hr⟩

def slashFrom (p : List UInt8 → Bool) : List UInt8 → Bool
  | [] => false
  | b :: s => (b == slash && p s) || slashFrom p s

theorem pastSlash_table : pastSlash path (table p path) = table (slashFrom p) path := by
  induction path with
  | nil => rfl
  | cons b s ih => simp [table, pastSlash, slashFrom, ih]

theorem slashFrom_iff :
    slashFrom p path = true ↔ ∃ x r, path = x ++ slash :: r ∧ p r = true := by
  induction path with
  | nil => simp [slashFrom]
  | cons b s ih =>
    simp only [slashFrom, Bool.or_eq_true, Bool.and_eq_true, beq_iff_eq, ih]
    constructor
    · rintro (⟨rfl, h⟩ | ⟨x, r, rfl, hr⟩)
      · exact ⟨[], s, rfl, h⟩
      · exact ⟨b :: x, r, rfl, hr⟩
    · rintro ⟨x, r, heq, hr⟩
      cases x with
      | nil =>
        obtain ⟨rfl, rfl⟩ := List.cons.inj heq
        exact Or.inl ⟨rfl, hr⟩
      | cons a x =>
        obtain ⟨rfl, rfl⟩ := List.cons.inj heq
        exact Or.inr ⟨x, r, rfl, hr⟩

def anyFrom (p : List UInt8 → Bool) : List UInt8 → Bool
  | [] => p []
  | b :: s => p (b :: s) || anyFrom p s

theorem anyThen_table : anyThen path (table p path) = table (anyFrom p) path := by
  induction path with
  | nil => rfl
  | cons b s ih => simp [table, anyThen, anyFrom, ih]

theorem anyFrom_iff : anyFrom p path = true ↔ ∃ x r, path = x ++ r ∧ p r = true := by
  induction path with
  | nil =>
    constructor
    · intro h
      exact ⟨[], [], rfl, h⟩
    · rintro ⟨x, r, heq, hr⟩
      obtain ⟨rfl, rfl⟩ := List.append_eq_nil_iff.1 heq.symm
      exact hr
  | cons b s ih =>
    simp only [anyFrom, Bool.or_eq_true, ih]
    constructor
    · rintro (h | ⟨x, r, rfl, hr⟩)
      · exact ⟨[], _, rfl, h⟩
      · exact ⟨b :: x, r, rfl, hr⟩
    · rintro ⟨x, r, heq, hr⟩
      cases x with
      | nil => exact Or.inl (heq ▸ hr)
      | cons a x =>
        obtain ⟨rfl, rfl⟩ := List.cons.inj heq
        exact Or.inr ⟨x, r, rfl, hr⟩

def bytesFrom (fold : Bool) (bytes : List UInt8) (p : List UInt8 → Bool) : List UInt8 → Bool :=
  bytes.foldr (fun b p => headThen (fun a => foldByte fold a == foldByte fold b) p) p

theorem bytesThen_table {fold : Bool} {bytes : List UInt8} :
    bytesThen fold bytes path (table p path) = table (bytesFrom fold bytes p) path := by
  induction bytes with
  | nil => rfl
  | cons b bs ih =>
    simp only [bytesThen, bytesFrom, List.foldr_cons] at ih ⊢
    rw [ih, byteThen_table]

theorem bytesFrom_iff {fold : Bool} {bytes : List UInt8} :
    bytesFrom fold bytes p path = true ↔
      ∃ x r, path = x ++ r ∧ x.map (foldByte fold) = bytes.map (foldByte fold) ∧ p r = true := by
  induction bytes generalizing path with
  | nil =>
    constructor
    · intro h
      exact ⟨[], path, rfl, rfl, h⟩
    · rintro ⟨x, r, rfl, hx, hr⟩
      obtain rfl := List.map_eq_nil_iff.1 hx
      exact hr
  | cons b bs ih =>
    simp only [bytesFrom, List.foldr_cons] at ih ⊢
    rw [headThen_iff]
    constructor
    · rintro ⟨x, r, rfl, ⟨a, ha, rfl⟩, hr⟩
      obtain ⟨y, r', rfl, hy, hr'⟩ := ih.1 hr
      exact ⟨a :: y, r', rfl, by simp_all, hr'⟩
    · rintro ⟨x, r, rfl, hx, hr⟩
      cases x with
      | nil => simp at hx
      | cons a x =>
        simp only [List.map_cons, List.cons.injEq] at hx
        exact ⟨[a], x ++ r, rfl, ⟨a, by simp [hx.1], rfl⟩, ih.2 ⟨x, r, rfl, hx.2, hr⟩⟩

end Table

/-- A step of the matcher that fills, from the table of `p`, the table of the tails that start
with a string of `matches` and go on as `p` says. -/
def Fills (step : List UInt8 → List Bool → List Bool) (lang : List UInt8 → Prop) : Prop :=
  ∀ p : List UInt8 → Bool, ∃ q : List UInt8 → Bool,
    (∀ path, step path (table p path) = table q path) ∧
      ∀ path, q path = true ↔ ∃ x r, path = x ++ r ∧ lang x ∧ p r = true

theorem Fills.congr {step : List UInt8 → List Bool → List Bool} {l m : List UInt8 → Prop}
    (h : Fills step l) (hlm : ∀ x, l x ↔ m x) : Fills step m := by
  intro p
  obtain ⟨q, hq, hl⟩ := h p
  refine ⟨q, hq, fun path => ?_⟩
  rw [hl]
  simp only [hlm]

theorem Fills.comp {f g : List UInt8 → List Bool → List Bool} {l m : List UInt8 → Prop}
    (hf : Fills f l) (hg : Fills g m) :
    Fills (fun path k => f path (g path k)) fun x => ∃ y z, x = y ++ z ∧ l y ∧ m z := by
  intro p
  obtain ⟨q, hq, hm⟩ := hg p
  obtain ⟨q', hq', hl⟩ := hf q
  refine ⟨q', fun path => by simp only [hq, hq'], fun path => ?_⟩
  rw [hl]
  constructor
  · rintro ⟨y, r, rfl, hy, hr⟩
    obtain ⟨z, r', rfl, hz, hr'⟩ := (hm r).1 hr
    exact ⟨y ++ z, r', by simp, ⟨y, z, rfl, hy, hz⟩, hr'⟩
  · rintro ⟨x, r, rfl, ⟨y, z, rfl, hy, hz⟩, hr⟩
    exact ⟨y, z ++ r, by simp, hy, (hm _).2 ⟨z, r, rfl, hz, hr⟩⟩

theorem Fills.or {f g : List UInt8 → List Bool → List Bool} {l m : List UInt8 → Prop}
    (hf : Fills f l) (hg : Fills g m) :
    Fills (fun path k => either (f path k) (g path k)) fun x => l x ∨ m x := by
  intro p
  obtain ⟨q, hq, hl⟩ := hf p
  obtain ⟨q', hq', hm⟩ := hg p
  refine ⟨fun s => q s || q' s, fun path => by simp only [hq, hq', either_table], fun path => ?_⟩
  rw [Bool.or_eq_true, hl, hm]
  constructor
  · rintro (⟨x, r, h, hx, hr⟩ | ⟨x, r, h, hx, hr⟩)
    · exact ⟨x, r, h, Or.inl hx, hr⟩
    · exact ⟨x, r, h, Or.inr hx, hr⟩
  · rintro ⟨x, r, h, hx | hx, hr⟩
    · exact Or.inl ⟨x, r, h, hx, hr⟩
    · exact Or.inr ⟨x, r, h, hx, hr⟩

theorem fills_id : Fills (fun _ k => k) fun x => x = [] := by
  intro p
  refine ⟨p, fun _ => rfl, fun path => ?_⟩
  constructor
  · intro h
    exact ⟨[], path, rfl, rfl, h⟩
  · rintro ⟨x, r, rfl, rfl, hr⟩
    exact hr

theorem fills_byteThen (admits : UInt8 → Bool) :
    Fills (byteThen admits) fun x => ∃ b, admits b = true ∧ x = [b] :=
  fun p => ⟨headThen admits p, fun _ => byteThen_table, fun _ => headThen_iff⟩

theorem fills_runThen : Fills runThen fun x => slash ∉ x :=
  fun p => ⟨runFrom p, fun _ => runThen_table, fun _ => runFrom_iff⟩

theorem fills_anyThen : Fills anyThen fun _ => True := by
  intro p
  refine ⟨anyFrom p, fun _ => anyThen_table, fun path => ?_⟩
  simpa using anyFrom_iff

theorem fills_pastSlash : Fills pastSlash fun x => ∃ y, x = y ++ [slash] := by
  intro p
  refine ⟨slashFrom p, fun _ => pastSlash_table, fun path => ?_⟩
  rw [slashFrom_iff]
  constructor
  · rintro ⟨x, r, rfl, hr⟩
    exact ⟨x ++ [slash], r, by simp, ⟨x, rfl⟩, hr⟩
  · rintro ⟨_, r, rfl, ⟨x, rfl⟩, hr⟩
    exact ⟨x, r, by simp, hr⟩

theorem fills_bytesThen (fold : Bool) (bytes : List UInt8) :
    Fills (bytesThen fold bytes) fun x => x.map (foldByte fold) = bytes.map (foldByte fold) :=
  fun p => ⟨bytesFrom fold bytes p, fun _ => bytesThen_table, fun _ => bytesFrom_iff⟩

theorem fills_never : Fills (fun _ k => k.map fun _ => false) fun _ => False := by
  intro p
  exact ⟨fun _ => false, fun _ => map_false_table, by simp⟩

mutual

theorem Token.fills (fold : Bool) :
    ∀ t : Token, Fills (fun path k => t.before fold path k) (t.Matches fold)
  | .literal c => by
    simpa only [Token.before, Token.Matches] using fills_bytesThen fold _
  | .anyByte => by
    simpa only [Token.before, Token.Matches, bne_iff_ne] using fills_byteThen (· != slash)
  | .run => by
    simpa only [Token.before, Token.Matches] using fills_runThen
  | .leading => by
    simpa only [Token.before, Token.Matches] using fills_id.or fills_pastSlash
  | .trailing => by
    simp only [Token.before, Token.Matches]
    refine ((fills_byteThen (· == slash)).comp fills_anyThen).congr fun x => ?_
    simp only [beq_iff_eq]
    constructor
    · rintro ⟨_, z, rfl, ⟨b, rfl, rfl⟩, -⟩
      exact ⟨z, rfl⟩
    · rintro ⟨z, rfl⟩
      exact ⟨[slash], z, rfl, ⟨slash, rfl, rfl⟩, trivial⟩
  | .inner => by
    simp only [Token.before, Token.Matches]
    refine ((fills_byteThen (· == slash)).comp (fills_id.or fills_pastSlash)).congr fun x => ?_
    simp only [beq_iff_eq]
    constructor
    · rintro ⟨_, z, rfl, ⟨b, rfl, rfl⟩, rfl | ⟨y, rfl⟩⟩
      · exact Or.inl rfl
      · exact Or.inr ⟨y, rfl⟩
    · rintro (rfl | ⟨y, rfl⟩)
      · exact ⟨[slash], [], rfl, ⟨slash, rfl, rfl⟩, Or.inl rfl⟩
      · exact ⟨[slash], y ++ [slash], rfl, ⟨slash, rfl, rfl⟩, Or.inr ⟨y, rfl⟩⟩
  | .oneOf negated ranges => by
    simpa only [Token.before, Token.Matches] using fills_byteThen (classAdmits fold negated ranges)
  | .group branches => by
    cases h : areVoid branches with
    | false =>
      simp only [Token.before, Token.Matches, h]
      exact (anyFills fold branches).congr fun x => by simp
    | true =>
      simp only [Token.before, Token.Matches, h]
      refine fills_id.congr fun x => ?_
      simp [not_anyMatches_of_areVoid fold branches h]

theorem seqFills (fold : Bool) :
    ∀ ts : List Token, Fills (fun path k => seqBefore fold path ts k) (SeqMatches fold ts)
  | [] => by
    simpa only [seqBefore, SeqMatches] using fills_id
  | t :: ts => by
    simpa only [seqBefore, SeqMatches] using (t.fills fold).comp (seqFills fold ts)

theorem anyFills (fold : Bool) :
    ∀ bs : List (List Token), Fills (fun path k => anyBefore fold path bs k) (AnyMatches fold bs)
  | [] => by
    simpa only [anyBefore, AnyMatches] using fills_never
  | b :: bs => by
    cases h : seqVoid b with
    | false =>
      simp only [anyBefore, AnyMatches, h]
      simpa using (seqFills fold b).or (anyFills fold bs)
    | true =>
      simp only [anyBefore, AnyMatches, h]
      simpa using anyFills fold bs

theorem not_anyMatches_of_areVoid (fold : Bool) :
    ∀ bs : List (List Token), areVoid bs = true → ∀ x, ¬ AnyMatches fold bs x
  | [], _, x => by simp [AnyMatches]
  | b :: bs, h, x => by
    simp only [areVoid, Bool.and_eq_true] at h
    simp [AnyMatches, h.1, not_anyMatches_of_areVoid fold bs h.2 x]

end

theorem accepts_iff {fold : Bool} {tokens : List Token} {path : List UInt8} :
    accepts fold tokens path = true ↔ SeqMatches fold tokens path := by
  obtain ⟨q, hq, hm⟩ := seqFills fold tokens List.isEmpty
  have : accepts fold tokens path = q path := by simp [accepts, hq]
  rw [this, hm]
  constructor
  · rintro ⟨x, r, rfl, hx, hr⟩
    rw [List.isEmpty_iff] at hr
    simpa [hr] using hx
  · intro h
    exact ⟨path, [], by simp, h, rfl⟩

end ImportCensus.Glob
