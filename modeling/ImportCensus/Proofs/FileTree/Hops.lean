import ImportCensus.Proofs.FileTree.Sight
import ImportCensus.Proofs.Path
import Mathlib.Data.List.Induction
/-!
# Why a walk fails

A walk fails at a followed link that leads nowhere, or to a folder that the walk is in.  It never
fails because it has followed too many links: the folders that it has entered by links are
different ones, so there are not more of them than the tree has folders.
-/

namespace ImportCensus

namespace Node

mutual

/-- The places of the folders of a tree. -/
def folderPlaces : Node → List (List Name)
  | .folder es => [] :: folderPlacesAll es
  | _ => []

def folderPlacesAll : List (Name × Node) → List (List Name)
  | [] => []
  | (name, n) :: es => (folderPlaces n).map (name :: ·) ++ folderPlacesAll es

end

mutual

theorem length_folderPlaces : ∀ n : Node, n.folderPlaces.length = n.folderCount
  | .folder es => by
    rw [folderPlaces, folderCount, List.length_cons, length_folderPlacesAll es]
  | .file _ => rfl
  | .blank _ => rfl
  | .sealed => rfl
  | .link _ => rfl

theorem length_folderPlacesAll :
    ∀ es : List (Name × Node), (folderPlacesAll es).length = folderCountAll es
  | [] => rfl
  | (name, n) :: es => by
    rw [folderPlacesAll, folderCountAll, List.length_append, List.length_map,
      length_folderPlaces n, length_folderPlacesAll es]

end

variable {n : Node} {es : List (Name × Node)} {name : Name} {names : List Name}

theorem mem_folderPlacesAll (h : (name, n) ∈ es) (hn : names ∈ n.folderPlaces) :
    name :: names ∈ folderPlacesAll es := by
  induction es with
  | nil => cases h
  | cons e es ih =>
    obtain ⟨name', n'⟩ := e
    rw [folderPlacesAll, List.mem_append]
    rcases List.mem_cons.mp h with heq | h
    · cases heq
      exact Or.inl (List.mem_map_of_mem hn)
    · exact Or.inr (ih h)

theorem mem_folderPlaces (h : n.at? names = some (.folder es)) : names ∈ n.folderPlaces := by
  induction names generalizing n with
  | nil =>
    cases h
    exact List.mem_cons_self
  | cons name names ih =>
    cases n with
    | folder seen =>
      rw [at?_folder_cons, Option.bind_eq_some_iff] at h
      obtain ⟨child, hchild, hrest⟩ := h
      obtain ⟨before, after, rfl, -⟩ := List.lookup_eq_some_iff.mp hchild
      exact List.mem_cons_of_mem _ (mem_folderPlacesAll (by simp) (ih hrest))
    | _ => cases h

theorem length_le_folderCount {places : List (List Name)} (hnodup : places.Nodup)
    (h : ∀ names ∈ places, ∃ es, n.at? names = some (.folder es)) :
    places.length ≤ n.folderCount := by
  rw [← length_folderPlaces]
  apply hnodup.length_le_of_subset
  intro names hnames
  obtain ⟨es, hes⟩ := h names hnames
  exact mem_folderPlaces hes

end Node

namespace FileTree

open Sight

variable {root : FileTree} {goes : List Name → Prop} {base names : List Name} {p : Position}
  {entered : List (List Name)} {hops : Nat} {error : WalkError}

/-! ## Where paths lead -/

/-- Whether there is an entry at a place, and none that leads elsewhere. -/
def IsSettled (root : FileTree) (position : List Name) : Prop :=
  ∃ n, root.at? position = some n ∧ ∀ target, n ≠ .link target

theorem isSettled_dropLast {position : List Name} (h : IsSettled root position) :
    IsSettled root position.dropLast := by
  cases position using List.reverseRecOn with
  | nil => exact h
  | append_singleton before name =>
    obtain ⟨n, hn, -⟩ := h
    rw [Node.at?_append, Option.bind_eq_some_iff] at hn
    obtain ⟨m, hm, hchild⟩ := hn
    rw [List.dropLast_concat]
    refine ⟨m, hm, ?_⟩
    rintro target rfl
    cases hchild

theorem isSettled_nil {position : List Name} (h : IsSettled root position) :
    IsSettled root [] := by
  cases position with
  | nil => exact h
  | cons name position =>
    obtain ⟨n, hn, -⟩ := h
    refine ⟨root, rfl, ?_⟩
    rintro target rfl
    cases hn

theorem isSettled_of_walk {purpose : Purpose} {links : Nat} {position rest found : List Name}
    (h : IsSettled root position)
    (hwalk : walk root purpose links position rest = .ok (.found found)) :
    IsSettled root found := by
  induction links, position, rest using walkInduction root purpose with
  | done links position =>
    rw [walk_nil] at hwalk
    cases hwalk
    exact h
  | go links position name rest links' position' rest' hstep ih =>
    rw [walk_cons, hstep] at hwalk
    refine ih ?_ hwalk
    obtain ⟨es, hes, ⟨-, -, hposition⟩ | ⟨hsettled, -, -, rfl⟩ | ⟨target, -, -, hposition⟩⟩ :=
      Step.of_eq_go hstep
    · rcases hposition with rfl | rfl
      · exact h
      · exact isSettled_dropLast h
    · obtain ⟨n, hn, hlink⟩ := Stand.of_eq_settled_iff.mp hsettled
      refine ⟨n, ?_, hlink⟩
      rw [Node.at?_append, hes, Option.bind_some, Node.at?_folder_singleton, hn]
    · rcases hposition with rfl | rfl
      · exact isSettled_nil h
      · exact h
  | stop links position name rest outcome hstep =>
    rw [walk_cons, hstep] at hwalk
    obtain rfl : outcome = .ok (.found found) := hwalk
    obtain ⟨_, -, -, -, hplace, -⟩ := Step.of_eq_stop_ok hstep
    cases hplace

theorem isSettled_of_resolve {path : Path} {real : List Name} (hroot : IsSettled root [])
    (h : resolve root path = .ok real) : IsSettled root real := by
  obtain ⟨found, hplace, hfound⟩ := bind_eq_ok_iff.mp h
  split at hfound
  · cases hfound
    unfold place at hplace
    split at hplace
    · cases hplace
    · split at hplace
      · cases hplace
      · split at hplace
        · cases hplace
        · exact isSettled_of_walk hroot hplace
  · cases hfound

/-! ## Links that a walk fails at -/

/-- Why a walk fails at a link: it leads nowhere, or to a folder that the walk is in. -/
def FailsAt (root : FileTree) (shown : Path) (error : WalkError) : Prop :=
  (∃ cause, resolve root shown = .error cause ∧ error = .unreachable shown cause) ∨
    ∃ real ancestor, resolve root shown = .ok real ∧ error = .loop shown ancestor

/-- What is known at a position when the folders at some places have been entered by links. -/
structure HasEntered (root : FileTree) (entered : List (List Name)) (hops : Nat) (p : Position) :
    Prop where
  nodup : entered.Nodup
  folders : ∀ real ∈ entered, ∃ es, root.at? real = some (.folder es)
  around : ∀ real ∈ entered, (p.around.lookup real).isSome = true
  count : hops + entered.length = root.folderCount + 1

theorem HasEntered.hops_ne_zero (h : HasEntered root entered hops p) : hops ≠ 0 := by
  have hlength := Node.length_le_folderCount h.nodup h.folders
  have hcount := h.count
  omega

theorem HasEntered.child (h : HasEntered root entered hops p) (name : Name) :
    HasEntered root entered hops (p.child name) := by
  refine ⟨h.nodup, h.folders, fun real hreal => ?_, h.count⟩
  rw [Position.child, List.lookup_cons]
  split
  · rfl
  · exact h.around real hreal

theorem HasEntered.enter (h : HasEntered root entered (hops + 1) p) {real : List Name}
    {es : List (Name × Node)} (hes : root.at? real = some (.folder es))
    (hnew : p.around.lookup real = none) (name : Name) :
    HasEntered root (real :: entered) hops ({ p with real := real }.child name) := by
  refine ⟨?_, ?_, ?_, ?_⟩
  · refine List.nodup_cons.mpr ⟨fun hmem => ?_, h.nodup⟩
    have haround := h.around real hmem
    rw [hnew] at haround
    cases haround
  · intro real' hreal'
    rcases List.mem_cons.mp hreal' with rfl | hreal'
    · exact ⟨es, hes⟩
    · exact h.folders real' hreal'
  · intro real' hreal'
    rw [Position.child, List.lookup_cons]
    split
    · rfl
    · rename_i hne
      rcases List.mem_cons.mp hreal' with rfl | hreal'
      · simp at hne
      · exact h.around real' hreal'
  · have hcount := h.count
    rw [List.length_cons]
    omega

theorem followed_failed (hroot : IsSettled root []) (h : HasEntered root entered hops p)
    (hfailed : followed root hops p = .failed error) : FailsAt root p.shown error := by
  obtain ⟨hops, rfl⟩ := Nat.exists_eq_succ_of_ne_zero h.hops_ne_zero
  rw [followed] at hfailed
  split at hfailed
  · rename_i cause hcause
    cases hfailed
    exact Or.inl ⟨cause, hcause, rfl⟩
  · rename_i real hreal
    split at hfailed
    · split at hfailed
      · rename_i ancestor _
        cases hfailed
        exact Or.inr ⟨real, ancestor, hreal, rfl⟩
      · cases hfailed
    · cases hfailed
    · cases hfailed
    · cases hfailed
    · rename_i hfolder hfile hblank hsealed
      obtain ⟨n, hn, hlink⟩ := isSettled_of_resolve hroot hreal
      cases n with
      | file content => exact (hfile content hn).elim
      | blank size => exact (hblank size hn).elim
      | folder es => exact (hfolder es hn).elim
      | link target => exact (hlink target rfl).elim
      | «sealed» => exact (hsealed hn).elim

theorem followed_entries {name : Name} {child : Sight}
    (h : (name, child) ∈ (followed root hops p).entries) :
    ∃ hops' real es, hops = hops' + 1 ∧ root.at? real = some (.folder es) ∧
      p.around.lookup real = none ∧
      followed root hops p = .folder (sights (followed root hops') { p with real := real } es) := by
  cases hops with
  | zero => cases h
  | succ hops =>
    rw [followed] at h ⊢
    split at h
    · cases h
    · rename_i real hreal
      split at h
      · rename_i es hes
        split at h
        · cases h
        · rename_i hnew
          exact ⟨hops, real, es, rfl, hes, hnew, rfl⟩
      · cases h
      · cases h
      · cases h
      · cases h

theorem failsAt_of_leads (hroot : IsSettled root []) {n : Node}
    (h : HasEntered root entered hops p)
    (hleads : Leads goes base (n.sight (followed root hops) p) names (.failed error)) :
    FailsAt root (Path.descend p.shown names) error := by
  induction names generalizing base n p hops entered with
  | nil =>
    cases n with
    | link target => exact followed_failed hroot h hleads
    | _ => cases hleads
  | cons name names ih =>
    obtain ⟨-, child, hchild, hleads⟩ := hleads
    cases n with
    | folder es =>
      obtain ⟨m, -, rfl⟩ := mem_sights.mp hchild
      exact ih (h.child name) hleads
    | link target =>
      -- the folder behind the link is not one of those entered before
      obtain ⟨hops, real, es, rfl, hes, hnew, heq⟩ := followed_entries hchild
      rw [Node.sight, heq] at hchild
      obtain ⟨m, -, rfl⟩ := mem_sights.mp hchild
      exact ih (h.enter hes hnew name) hleads
    | _ => cases hchild

/-- A walk fails at links that it follows, and there for no other reason. -/
theorem failsAt_of_survey {follow : Bool} {path : Path} {seen : List (Name × Sight)}
    (hseen : survey root follow path = .ok seen)
    (hleads : Leads goes base (.folder seen) names (.failed error)) :
    follow = true ∧ FailsAt root (Path.descend path names) error := by
  obtain ⟨real, es, hes, rfl⟩ := sights_of_survey hseen
  cases follow with
  | false => exact absurd hleads (not_leads_failed (.folder es) ⟨path, real, []⟩ names error)
  | true =>
    have hroot : IsSettled root [] := isSettled_nil ⟨.folder es, hes, by simp⟩
    have hstart : HasEntered root [] (root.folderCount + 1) ⟨path, real, []⟩ :=
      ⟨List.nodup_nil, by simp, by simp, rfl⟩
    exact ⟨rfl, failsAt_of_leads (n := .folder es) hroot hstart hleads⟩

end FileTree

end ImportCensus
