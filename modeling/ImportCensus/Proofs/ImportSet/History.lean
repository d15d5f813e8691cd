import ImportCensus.Proofs.ImportSet
import ImportCensus.Proofs.Statement.Decoding
/-!
# What an import set has been through

A set is made anew or gets more symbols, any number of times.  All that is left of such a history
is the row of the symbols put in since the set was last made anew, and of that row the first
occurrence of each symbol.  The order of these is what a rendered set shows; whether two sets are
equal does not depend on it.
-/

namespace ImportCensus.ImportSet

/-- Something that is done to an import set. -/
inductive Operation
  | empty
  | ofList (symbols : List Text)
  | insert (symbol : Text)
  | extend (symbols : List Text)

namespace Operation

def apply (s : ImportSet) : Operation → ImportSet
  | empty => ImportSet.empty
  | ofList symbols => ImportSet.ofList symbols
  | insert symbol => (s.insertIsNew symbol).1
  | extend symbols => s.extend symbols

def restarts : Operation → Bool
  | empty | ofList _ => true
  | insert _ | extend _ => false

def given : Operation → List Text
  | empty => []
  | ofList symbols | extend symbols => symbols
  | insert symbol => [symbol]

end Operation

/-- The set that a history leaves, from an empty one on. -/
def replay (history : List Operation) : ImportSet :=
  history.foldl Operation.apply empty

/-- The symbols put in since the set was last made anew, as often as they were put in. -/
def inserted : List Operation → List Text
  | [] => []
  | op :: later =>
    if later.any Operation.restarts then inserted later else op.given ++ inserted later

variable {s t : ImportSet} {x : Text} {xs ys : List Text} {op : Operation}
  {history history' : List Operation}

/-! ## Sets by their members -/

theorem eq_of_members_eq (h : s.members = t.members) : s = t := by
  cases s
  cases t
  cases h
  rfl

theorem mem_ofList_iff : x ∈ ofList xs ↔ x ∈ xs := by
  change x ∈ (ofList xs).members ↔ x ∈ xs
  rw [members_ofList, List.mem_eraseDups]

theorem insert_of_mem (h : x ∈ s) : s.insert x = s := by
  apply eq_of_members_eq
  rw [members_insert, if_pos h]

theorem size_insert_of_not_mem (h : x ∉ s) : (s.insert x).size = s.size + 1 := by
  rw [size, members_insert, if_neg h, List.length_append, List.length_singleton, size]

theorem extend_of_subset (h : ∀ y ∈ ys, y ∈ s) : s.extend ys = s := by
  induction ys with
  | nil => rfl
  | cons y ys ih =>
    rw [List.forall_mem_cons] at h
    change (s.insert y).extend ys = s
    rw [insert_of_mem h.1]
    exact ih h.2

theorem mem_extend_iff : x ∈ s.extend ys ↔ x ∈ s ∨ x ∈ ys := by
  induction ys generalizing s with
  | nil => simp [extend]
  | cons y ys ih =>
    change x ∈ (s.insert y).extend ys ↔ _
    rw [ih, mem_insert, List.mem_cons, or_assoc]

theorem extend_members_ofList (s : ImportSet) (ys : List Text) :
    s.extend (ofList ys).members = s.extend ys := by
  rw [members_ofList]
  induction ys using List.reverseRecOn with
  | nil => rfl
  | append_singleton ys y ih =>
    rw [eraseDups_concat, extend_append, extend_append, ih]
    split
    · rename_i h
      have hold : ∀ z ∈ [y], z ∈ s.extend ys := by
        intro z hz
        rw [List.mem_singleton] at hz
        exact mem_extend_iff.mpr (.inr (hz ▸ h))
      rw [extend_of_subset hold]
      rfl
    · rfl

/-! ## What a history leaves -/

theorem apply_ofList (xs : List Text) (op : Operation) :
    op.apply (ofList xs) = ofList ((if op.restarts then [] else xs) ++ op.given) := by
  cases op with
  | empty => rfl
  | ofList symbols => rfl
  | insert symbol => exact (ofList_concat xs symbol).symm
  | extend symbols => exact extend_ofList xs symbols

theorem foldl_apply_ofList (xs : List Text) (history : List Operation) :
    history.foldl Operation.apply (ofList xs) =
      ofList ((if history.any Operation.restarts then [] else xs) ++ inserted history) := by
  induction history generalizing xs with
  | nil =>
    rw [inserted, List.append_nil]
    rfl
  | cons op later ih =>
    rw [List.foldl_cons, apply_ofList, ih, inserted, List.any_cons]
    cases later.any Operation.restarts with
    | true => simp
    | false => simp

theorem replay_eq_ofList (history : List Operation) :
    replay history = ofList (inserted history) := by
  have hempty := foldl_apply_ofList [] history
  rw [ite_self, List.nil_append] at hempty
  exact hempty

theorem mem_replay_iff : x ∈ replay history ↔ x ∈ inserted history := by
  rw [replay_eq_ofList, mem_ofList_iff]

/-- Of two equal sets of symbols without commas, only one order gives one rendering. -/
theorem render_eq_iff_of_sameMembers (hsame : ∀ x, x ∈ s ↔ x ∈ t) (hcomma : ∀ x ∈ s, ',' ∉ x) :
    s.render = t.render ↔ s.members = t.members := by
  have hcomma' : ∀ x ∈ t.members, ',' ∉ x := fun x hx => hcomma x ((hsame x).mpr hx)
  rw [render_eq_render_iff hcomma hcomma']
  refine or_iff_left ?_
  rintro (⟨hs, ht⟩ | ⟨hs, ht⟩)
  · have hmem : ([] : Text) ∈ s.members := (hsame []).mpr (by
      change [] ∈ t.members
      rw [ht]
      exact List.mem_singleton_self [])
    rw [hs] at hmem
    cases hmem
  · have hmem : ([] : Text) ∈ t.members := (hsame []).mp (by
      change [] ∈ s.members
      rw [hs]
      exact List.mem_singleton_self [])
    rw [ht] at hmem
    cases hmem

/-- Whatever was done to a set, its members are the first occurrences of the symbols put in since
it was last made anew.  One more symbol is new exactly if it was not put in, and changes nothing
otherwise; more symbols can be put in at once, in parts, or counted once.  Sets are equal if the
same symbols were put in, while their renderings agree in the order of the members only. -/
theorem replay_spec (history : List Operation) :
    let s := replay history
    s.members = (inserted history).eraseDups ∧ s.members.Nodup ∧
      (∀ x, x ∈ s ↔ x ∈ inserted history) ∧
      (∀ x, ((s.insertIsNew x).2 = true ↔ x ∉ inserted history) ∧
        ((s.insertIsNew x).2 = true → (s.insertIsNew x).1.size = s.size + 1) ∧
        ((s.insertIsNew x).2 = false → (s.insertIsNew x).1 = s)) ∧
      (∀ xs ys, (s.extend xs).extend ys = s.extend (xs ++ ys) ∧
        (empty.extend xs).extend ys = ofList (xs ++ ys) ∧
        (s.extend xs).extend ys = (s.extend xs).extend (ofList ys).members) ∧
      ∀ history', let t := replay history'
        ((s == t) = true ↔ ∀ x, x ∈ inserted history ↔ x ∈ inserted history') ∧
          ((s == t) = true → (∀ x ∈ inserted history, ',' ∉ x) →
            (s.render = t.render ↔ s.members = t.members)) := by
  intro s
  refine ⟨?_, s.nodup, fun _ => mem_replay_iff, fun x => ?_, fun xs ys => ?_, fun history' => ?_⟩
  · exact (congrArg members (replay_eq_ofList history)).trans (members_ofList _)
  · rw [insertIsNew, decide_eq_true_eq, decide_eq_false_iff_not, not_not]
    exact ⟨not_congr mem_replay_iff, size_insert_of_not_mem, insert_of_mem⟩
  · refine ⟨(extend_append s xs ys).symm, extend_ofList xs ys, ?_⟩
    exact (extend_members_ofList (s.extend xs) ys).symm
  · intro t
    have hiff : (s == t) = true ↔ ∀ x, x ∈ inserted history ↔ x ∈ inserted history' := by
      change sameMembers s t = true ↔ _
      rw [sameMembers_iff]
      exact forall_congr' fun x => by rw [mem_replay_iff, mem_replay_iff]
    refine ⟨hiff, fun heq hcomma => ?_⟩
    have hsame : ∀ x, x ∈ s ↔ x ∈ t := sameMembers_iff.mp heq
    exact render_eq_iff_of_sameMembers hsame fun x hx => hcomma x (mem_replay_iff.mp hx)

end ImportCensus.ImportSet
