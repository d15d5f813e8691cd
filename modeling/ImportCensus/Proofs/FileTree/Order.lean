import ImportCensus.FileTree.Survey
import ImportCensus.Proofs.FileTree.Steps
import Mathlib.Algebra.GroupWithZero.Nat
import Mathlib.Data.List.Basic
/-!
# Trees up to the order of their entries

A file system lists the entries of a folder in any order.  Two trees that differ in nothing else
lead every path to the same place.
-/

namespace ImportCensus

/-- Whether folders list each name once, and names have no separator in them. -/
def Node.IsTidy (node : Node) : Prop :=
  ∀ names es, node.at? names = some (.folder es) →
    (es.map Prod.fst).Nodup ∧ ∀ e ∈ es, Path.slash ∉ e.1

/-- Whether two entries are the same, or folders with the same names. -/
inductive Node.Alike : Option Node → Option Node → Prop
  | nothing : Alike none none
  | leaf {n : Node} (h : n.isFolder = false) : Alike (some n) (some n)
  | folder {es es' : List (Name × Node)} (h : (es.map Prod.fst).Perm (es'.map Prod.fst)) :
    Alike (some (.folder es)) (some (.folder es'))

/-- Whether two trees differ in the order of entries only. -/
def Node.IsReordered (n n' : Node) : Prop :=
  ∀ names, Node.Alike (n.at? names) (n'.at? names)

namespace Node

variable {n n' m : Node} {es es' : List (Name × Node)} {name : Name}

theorem at?_append (n : Node) (before after : List Name) :
    n.at? (before ++ after) = (n.at? before).bind (·.at? after) := by
  induction before generalizing n with
  | nil => simp [at?]
  | cons name before ih =>
    simp only [List.cons_append, at?]
    cases n.entries.lookup name with
    | none => rfl
    | some child => exact ih child

theorem at?_folder_cons (names : List Name) :
    (folder es).at? (name :: names) = (es.lookup name).bind (·.at? names) := by
  simp only [at?, entries]
  cases es.lookup name <;> rfl

theorem at?_folder_singleton : (folder es).at? [name] = es.lookup name := by
  rw [at?_folder_cons]
  cases es.lookup name <;> rfl

theorem lookup_eq_some_iff_mem (h : (es.map Prod.fst).Nodup) :
    es.lookup name = some n ↔ (name, n) ∈ es := by
  induction es with
  | nil => simp
  | cons e es ih =>
    obtain ⟨name', n'⟩ := e
    rw [List.map_cons, List.nodup_cons] at h
    rw [List.lookup_cons]
    by_cases hname : name = name'
    · subst hname
      have hnot : ∀ m, (name, m) ∉ es := fun m hm =>
        h.1 (List.mem_map.mpr ⟨(name, m), hm, rfl⟩)
      simp [hnot, eq_comm]
    · have hne : (name == name') = false := by simpa using hname
      rw [hne, ih h.2]
      simp [hname]

theorem IsTidy.at? (h : n.IsTidy) {names : List Name} (hm : n.at? names = some m) : m.IsTidy := by
  intro rest es hes
  apply h (names ++ rest) es
  rw [at?_append, hm]
  exact hes

theorem IsTidy.nodup (h : (folder es).IsTidy) : (es.map Prod.fst).Nodup :=
  (h [] es rfl).1

theorem IsTidy.of_mem (h : (folder es).IsTidy) (hm : (name, n) ∈ es) : n.IsTidy := by
  have hat : (folder es).at? [name] = some n := by
    rw [at?_folder_singleton, lookup_eq_some_iff_mem h.nodup]
    exact hm
  exact h.at? hat

theorem isTidy_folder (hnodup : (es.map Prod.fst).Nodup) (hnames : ∀ e ∈ es, Path.slash ∉ e.1)
    (hbelow : ∀ e ∈ es, e.2.IsTidy) : (folder es).IsTidy := by
  intro names seen hseen
  cases names with
  | nil =>
    cases hseen
    exact ⟨hnodup, hnames⟩
  | cons name rest =>
    rw [at?_folder_cons, Option.bind_eq_some_iff] at hseen
    obtain ⟨child, hchild, hrest⟩ := hseen
    exact hbelow _ ((lookup_eq_some_iff_mem hnodup).mp hchild) rest seen hrest

theorem isTidy_file (content : List UInt8) : (file content).IsTidy := by
  intro names seen hseen
  cases names <;> cases hseen

theorem Alike.symm {x y : Option Node} (h : Alike x y) : Alike y x := by
  cases h with
  | nothing => exact .nothing
  | leaf h => exact .leaf h
  | folder h => exact .folder h.symm

theorem Alike.refl (x : Option Node) : Alike x x := by
  match x with
  | none => exact .nothing
  | some (.folder es) => exact .folder (.refl _)
  | some (.file _) => exact .leaf rfl
  | some (.blank _) => exact .leaf rfl
  | some .sealed => exact .leaf rfl
  | some (.link _) => exact .leaf rfl

theorem IsReordered.refl (n : Node) : n.IsReordered n :=
  fun _ => .refl _

theorem IsReordered.symm (h : n.IsReordered n') : n'.IsReordered n :=
  fun names => (h names).symm

theorem IsReordered.tidy (h : n.IsReordered n') (ht : n.IsTidy) : n'.IsTidy := by
  intro names es' hes'
  have halike := h names
  rw [hes'] at halike
  generalize hx : n.at? names = x at halike
  cases halike with
  | leaf hleaf => cases hleaf
  | folder hperm =>
    obtain ⟨hnodup, hnames⟩ := ht names _ hx
    refine ⟨hperm.nodup_iff.mp hnodup, fun e' he' => ?_⟩
    have hmem := hperm.mem_iff.mpr (List.mem_map_of_mem he')
    obtain ⟨e, he, heq⟩ := List.mem_map.mp hmem
    exact heq ▸ hnames e he

theorem IsReordered.lookup (h : (folder es).IsReordered (folder es')) (name : Name) :
    (es.lookup name = none ∧ es'.lookup name = none) ∨
      ∃ m m', es.lookup name = some m ∧ es'.lookup name = some m' ∧ m.IsReordered m' := by
  have halike := h [name]
  rw [at?_folder_singleton, at?_folder_singleton] at halike
  cases hm : es.lookup name with
  | none =>
    rw [hm] at halike
    generalize es'.lookup name = y at halike
    cases halike
    exact Or.inl ⟨rfl, rfl⟩
  | some m =>
    rw [hm] at halike
    cases hm' : es'.lookup name with
    | none =>
      rw [hm'] at halike
      cases halike
    | some m' =>
      refine Or.inr ⟨m, m', rfl, rfl, fun names => ?_⟩
      have hbelow := h (name :: names)
      rw [at?_folder_cons, at?_folder_cons, hm, hm'] at hbelow
      exact hbelow

theorem IsReordered.exists_mem (h : (folder es).IsReordered (folder es'))
    (ht : (folder es).IsTidy) (hm : (name, m) ∈ es) :
    ∃ m', (name, m') ∈ es' ∧ m.IsReordered m' := by
  have hlookup := (lookup_eq_some_iff_mem ht.nodup).mpr hm
  rcases h.lookup name with ⟨hnone, -⟩ | ⟨_, m', hsome, hm', hre⟩
  · rw [hlookup] at hnone
    cases hnone
  · rw [hlookup] at hsome
    cases hsome
    exact ⟨m', (lookup_eq_some_iff_mem (h.tidy ht).nodup).mp hm', hre⟩

theorem IsReordered.cases (h : n.IsReordered n') :
    (n' = n ∧ n.isFolder = false) ∨ ∃ es es', n = folder es ∧ n' = folder es' := by
  have halike := h []
  simp only [Node.at?] at halike
  cases halike with
  | leaf hleaf => exact Or.inl ⟨rfl, hleaf⟩
  | folder _ => exact Or.inr ⟨_, _, rfl, rfl⟩

theorem IsReordered.at? (h : n.IsReordered n') {names : List Name} (hm : n.at? names = some m) :
    ∃ m', n'.at? names = some m' ∧ m.IsReordered m' := by
  have halike := h names
  rw [hm] at halike
  cases hm' : n'.at? names with
  | none =>
    rw [hm'] at halike
    cases halike
  | some m' =>
    refine ⟨m', rfl, fun rest => ?_⟩
    have hbelow := h (names ++ rest)
    rw [at?_append, at?_append, hm, hm'] at hbelow
    exact hbelow

theorem IsReordered.at?_eq_none (h : n.IsReordered n') {names : List Name}
    (hm : n.at? names = none) : n'.at? names = none := by
  have halike := h names
  rw [hm] at halike
  generalize n'.at? names = y at halike
  cases halike
  rfl

/-! ## Counting folders -/

def countAt (es : List (Name × Node)) (name : Name) : Nat :=
  ((es.lookup name).map folderCount).getD 0

theorem folderCountAll_eq_sum (h : (es.map Prod.fst).Nodup) :
    folderCountAll es = ((es.map Prod.fst).map (countAt es)).sum := by
  have hcount : ∀ es : List (Name × Node),
      folderCountAll es = (es.map fun e => e.2.folderCount).sum := by
    intro es
    induction es with
    | nil => rfl
    | cons e es ih => rw [folderCountAll, ih, List.map_cons, List.sum_cons]
  rw [hcount, List.map_map]
  congr 1
  apply List.map_congr_left
  intro e he
  rw [Function.comp_apply, countAt, (lookup_eq_some_iff_mem h).mpr he]
  rfl

theorem sizeOf_lt_of_mem (h : (name, n) ∈ es) : sizeOf n < sizeOf (folder es) := by
  have hlt := List.sizeOf_lt_of_mem h
  simp only [Prod.mk.sizeOf_spec, folder.sizeOf_spec] at hlt ⊢
  omega

theorem IsReordered.folderCount_eq (h : n.IsReordered n') (ht : n.IsTidy) :
    n.folderCount = n'.folderCount := by
  induction hsize : sizeOf n using Nat.strongRecOn generalizing n n' with
  | ind size ih =>
    rcases h.cases with ⟨rfl, -⟩ | ⟨es, es', rfl, rfl⟩
    · rfl
    · have hcount : ∀ name, countAt es name = countAt es' name := by
        intro name
        rcases h.lookup name with ⟨hm, hm'⟩ | ⟨m, m', hm, hm', hre⟩
        · rw [countAt, countAt, hm, hm']
        · have hmem := (lookup_eq_some_iff_mem ht.nodup).mp hm
          have hlt := sizeOf_lt_of_mem hmem
          rw [countAt, countAt, hm, hm', Option.map_some, Option.map_some,
            ih (sizeOf m) (by omega) hre (ht.of_mem hmem) rfl]
      have hperm : (es.map Prod.fst).Perm (es'.map Prod.fst) := by
        have halike := h []
        cases halike with
        | leaf hleaf => cases hleaf
        | folder hperm => exact hperm
      rw [folderCount, folderCount, folderCountAll_eq_sum ht.nodup,
        folderCountAll_eq_sum (h.tidy ht).nodup, funext hcount, (hperm.map _).sum_nat]

end Node

/-! ## Following paths -/

namespace FileTree

open Node

variable {root root' : FileTree}

theorem stand_reordered {entry entry' : Option Node}
    (h : (entry = none ∧ entry' = none) ∨
      ∃ n n', entry = some n ∧ entry' = some n' ∧ n.IsReordered n') :
    Stand.of entry' = Stand.of entry := by
  rcases h with ⟨rfl, rfl⟩ | ⟨n, n', rfl, rfl, hre⟩
  · rfl
  · rcases hre.cases with ⟨rfl, -⟩ | ⟨es, es', rfl, rfl⟩
    · rfl
    · rfl

theorem step_reordered (h : root.IsReordered root') (purpose : Purpose) (links : Nat)
    (position : List Name) (name : Name) (rest : List Name) :
    Step.of root' purpose links position name rest =
      Step.of root purpose links position name rest := by
  cases hn : root.at? position with
  | none => rw [Step.of, Step.of, hn, h.at?_eq_none hn]
  | some n =>
    obtain ⟨n', hn', hre⟩ := h.at? hn
    rcases hre.cases with ⟨rfl, -⟩ | ⟨es, es', rfl, rfl⟩
    · cases n' with
      | folder es => rw [Step.of_folder hn, Step.of_folder hn']
      | _ => rw [Step.of, Step.of, hn, hn']
    · rw [Step.of_folder hn, Step.of_folder hn', stand_reordered (hre.lookup name)]

theorem walk_reordered (h : root.IsReordered root') (purpose : Purpose) (links : Nat)
    (position rest : List Name) :
    walk root purpose links position rest = walk root' purpose links position rest := by
  induction links, position, rest using walkInduction root purpose with
  | done links position => rw [walk_nil, walk_nil]
  | go links position name rest links' position' rest' hstep ih =>
    rw [walk_cons, walk_cons, step_reordered h, hstep]
    exact ih
  | stop links position name rest outcome hstep =>
    rw [walk_cons, walk_cons, step_reordered h, hstep]
    rfl

theorem resolve_reordered (h : root.IsReordered root') (path : Path) :
    resolve root path = resolve root' path := by
  rw [resolve, resolve, place, place, walk_reordered h]

end FileTree

end ImportCensus
