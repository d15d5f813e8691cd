import Mathlib.Data.List.Forall2
/-!
# Computations that may fail

When a computation with several steps succeeds, each of its steps does, and when it fails, the
first step that does says why.
-/

namespace ImportCensus

variable {ε α β : Type}

/-! ## Rows that correspond -/

theorem exists_of_mem_left {R : α → β → Prop} {xs : List α} {ys : List β}
    (h : List.Forall₂ R xs ys) {x : α} (hx : x ∈ xs) : ∃ y ∈ ys, R x y := by
  induction h with
  | nil => cases hx
  | @cons x' y' xs ys hxy _ ih =>
    rcases List.mem_cons.mp hx with rfl | hx
    · exact ⟨y', List.mem_cons_self, hxy⟩
    · obtain ⟨y, hy, hxy⟩ := ih hx
      exact ⟨y, List.mem_cons_of_mem y' hy, hxy⟩

theorem exists_of_mem_right {R : α → β → Prop} {xs : List α} {ys : List β}
    (h : List.Forall₂ R xs ys) {y : β} (hy : y ∈ ys) : ∃ x ∈ xs, R x y :=
  exists_of_mem_left h.flip hy

/-! ## Results -/

theorem toOption_eq_some_iff {x : Except ε α} {a : α} : x.toOption = some a ↔ x = .ok a := by
  cases x with
  | error e =>
    constructor
    · intro h
      cases h
    · intro h
      cases h
  | ok b =>
    change some b = some a ↔ _
    rw [Option.some.injEq, Except.ok.injEq]

theorem toBool_eq_true_iff {x : Except ε α} : x.toBool = true ↔ ∃ a, x = .ok a := by
  cases x <;> simp [Except.toBool]

/-- A step that is taken by corresponding functions leads from corresponding results to
corresponding ones. -/
theorem map_bind_of_map {x : Except ε α} {f : α → α} {g : β → β} {next next' : α → Except ε β}
    (h : ∀ a, next' (f a) = (next a).map g) : (x.map f >>= next') = (x >>= next).map g := by
  cases x with
  | error e => rfl
  | ok a => exact h a

theorem bind_eq_ok_iff {x : Except ε α} {f : α → Except ε β} {b : β} :
    (x >>= f) = .ok b ↔ ∃ a, x = .ok a ∧ f a = .ok b := by
  cases x with
  | error e =>
    constructor
    · intro h
      cases h
    · rintro ⟨a, h, -⟩
      cases h
  | ok a =>
    constructor
    · intro h
      exact ⟨a, rfl, h⟩
    · rintro ⟨_, h, h'⟩
      cases h
      exact h'

theorem bind_eq_error_iff {x : Except ε α} {f : α → Except ε β} {e : ε} :
    (x >>= f) = .error e ↔ x = .error e ∨ ∃ a, x = .ok a ∧ f a = .error e := by
  cases x with
  | error e' =>
    constructor
    · intro h
      cases h
      exact Or.inl rfl
    · rintro (h | ⟨a, h, -⟩)
      · cases h
        rfl
      · cases h
  | ok a =>
    constructor
    · intro h
      exact Or.inr ⟨a, rfl, h⟩
    · rintro (h | ⟨_, h, h'⟩)
      · cases h
      · cases h
        exact h'

theorem mapM_eq_ok_iff {f : α → Except ε β} {xs : List α} {ys : List β} :
    xs.mapM f = .ok ys ↔ List.Forall₂ (fun x y => f x = .ok y) xs ys := by
  induction xs generalizing ys with
  | nil =>
    rw [List.mapM_nil, List.forall₂_nil_left_iff]
    constructor
    · intro h
      cases h
      rfl
    · rintro rfl
      rfl
  | cons x xs ih =>
    simp only [List.mapM_cons, bind_eq_ok_iff, List.forall₂_cons_left_iff, ih]
    constructor
    · rintro ⟨y, hy, ys', hys, h⟩
      cases h
      exact ⟨y, ys', hy, hys, rfl⟩
    · rintro ⟨y, ys', hy, hys, rfl⟩
      exact ⟨y, hy, ys', hys, rfl⟩

theorem forM_eq_ok_iff {f : α → Except ε Unit} {xs : List α} :
    forM xs f = .ok () ↔ ∀ x ∈ xs, f x = .ok () := by
  induction xs with
  | nil =>
    rw [List.forM_nil]
    exact ⟨fun _ => nofun, fun _ => rfl⟩
  | cons x xs ih =>
    rw [List.forM_cons, bind_eq_ok_iff, List.forall_mem_cons, ← ih]
    constructor
    · rintro ⟨_, hx, hxs⟩
      exact ⟨hx, hxs⟩
    · rintro ⟨hx, hxs⟩
      exact ⟨(), hx, hxs⟩

theorem foldlM_cons_eq_ok_iff {f : β → α → Except ε β} {x : α} {xs : List α} {b b' : β} :
    (x :: xs).foldlM f b = .ok b' ↔ ∃ a, f b x = .ok a ∧ xs.foldlM f a = .ok b' := by
  rw [List.foldlM_cons, bind_eq_ok_iff]

theorem foldlM_concat_eq_ok_iff {f : β → α → Except ε β} {x : α} {xs : List α} {b b' : β} :
    (xs ++ [x]).foldlM f b = .ok b' ↔ ∃ a, xs.foldlM f b = .ok a ∧ f a x = .ok b' := by
  simp only [List.foldlM_append, bind_eq_ok_iff, foldlM_cons_eq_ok_iff, List.foldlM_nil]
  constructor
  · rintro ⟨a, ha, _, hb, h⟩
    cases h
    exact ⟨a, ha, hb⟩
  · rintro ⟨a, ha, hb⟩
    exact ⟨a, ha, b', hb, rfl⟩

theorem mapM_eq_error_iff {f : α → Except ε β} {xs : List α} {e : ε} :
    xs.mapM f = .error e ↔ ∃ x, xs.find? (fun x => !(f x).toBool) = some x ∧ f x = .error e := by
  induction xs with
  | nil =>
    rw [List.mapM_nil, List.find?_nil]
    constructor
    · intro h
      cases h
    · rintro ⟨x, h, -⟩
      cases h
  | cons x xs ih =>
    rw [List.mapM_cons, bind_eq_error_iff]
    cases hx : f x with
    | error e' =>
      rw [List.find?_cons_of_pos (by rw [hx]; rfl)]
      constructor
      · rintro (h | ⟨a, h, -⟩)
        · exact ⟨x, rfl, hx.trans h⟩
        · cases h
      · rintro ⟨x', h, hx'⟩
        cases h
        exact Or.inl (hx.symm.trans hx')
    | ok y =>
      rw [List.find?_cons_of_neg (by rw [hx]; simp [Except.toBool]), ← ih]
      constructor
      · rintro (h | ⟨a, -, h⟩)
        · cases h
        · obtain h | ⟨_, -, h⟩ := bind_eq_error_iff.mp h
          · exact h
          · cases h
      · intro h
        exact Or.inr ⟨y, rfl, bind_eq_error_iff.mpr (Or.inl h)⟩

end ImportCensus
