import ImportCensus.Text.Basic
/-!
# Import sets

A set of symbols that remembers the order in which they were first put in.
-/

namespace ImportCensus

/-- Distinct symbols in the order of their first insertion. -/
structure ImportSet where
  members : List Text
  nodup : members.Nodup := by simp

namespace ImportSet

def empty : ImportSet where
  members := []

instance : Membership Text ImportSet := ⟨fun s x => x ∈ s.members⟩

instance (x : Text) (s : ImportSet) : Decidable (x ∈ s) :=
  inferInstanceAs (Decidable (x ∈ s.members))

/-- Puts a symbol behind the others, unless it is there already. -/
def insert (s : ImportSet) (x : Text) : ImportSet :=
  if h : x ∈ s.members then s
  else
    { members := s.members ++ [x]
      nodup := by
        rw [List.nodup_append]
        refine ⟨s.nodup, by simp, ?_⟩
        intro a ha b hb hab
        rw [List.mem_singleton] at hb
        exact h (hb ▸ hab ▸ ha) }

def insertIsNew (s : ImportSet) (x : Text) : ImportSet × Bool :=
  (s.insert x, decide (x ∉ s))

def extend (s : ImportSet) (xs : List Text) : ImportSet :=
  xs.foldl insert s

def ofList (xs : List Text) : ImportSet :=
  extend empty xs

def size (s : ImportSet) : Nat :=
  s.members.length

def isEmpty (s : ImportSet) : Bool :=
  s.members.isEmpty

def sameMembers (s t : ImportSet) : Bool :=
  s.members.all (· ∈ t) && t.members.all (· ∈ s)

instance : BEq ImportSet := ⟨sameMembers⟩

def render (s : ImportSet) : Text :=
  [','].intercalate s.members

@[simp] theorem mem_empty (x : Text) : ¬ x ∈ empty := by
  intro h
  cases h

theorem members_insert (s : ImportSet) (x : Text) :
    (s.insert x).members = if x ∈ s then s.members else s.members ++ [x] := by
  unfold insert
  split <;> rename_i h
  · exact (if_pos h).symm
  · exact (if_neg h).symm

theorem mem_insert {s : ImportSet} {x y : Text} : y ∈ s.insert x ↔ y ∈ s ∨ y = x := by
  change y ∈ (s.insert x).members ↔ _
  rw [members_insert]
  split <;> rename_i h
  · exact ⟨Or.inl, fun hy => hy.elim id fun e => e ▸ h⟩
  · rw [List.mem_append, List.mem_singleton]
    exact Iff.rfl

theorem extend_append (s : ImportSet) (xs ys : List Text) :
    s.extend (xs ++ ys) = (s.extend xs).extend ys := by
  simp [extend]

theorem sameMembers_iff {s t : ImportSet} : sameMembers s t = true ↔ ∀ x, x ∈ s ↔ x ∈ t := by
  simp only [sameMembers, Bool.and_eq_true, List.all_eq_true, decide_eq_true_eq]
  exact ⟨fun h x => ⟨h.1 x, h.2 x⟩, fun h => ⟨fun x => (h x).1, fun x => (h x).2⟩⟩

end ImportSet

end ImportCensus
