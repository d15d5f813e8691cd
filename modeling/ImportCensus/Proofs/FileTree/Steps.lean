import ImportCensus.FileTree.Basic
/-!
# One step of a walk

What a walk does at a name is said once here: it goes on from another place, or it stops.  In a
folder this depends on no more than what the name stands for there, so that walks in two trees
can be compared by that alone.
-/

namespace ImportCensus.FileTree

/-- What a name of a folder stands for, as far as a walk asks. -/
inductive Stand
  | nothing
  | link (target : Path)
  /-- An entry that does not lead elsewhere. -/
  | settled

def Stand.of : Option Node → Stand
  | none => nothing
  | some (.link target) => link target
  | some _ => settled

inductive Step
  /-- The walk goes on with so many links, from this place, along this rest. -/
  | go (links : Nat) (position rest : List Name)
  | stop (outcome : Except OsError Place)

namespace Step

def lookUp (links : Nat) (position : List Name) (name : Name) (rest : List Name) : Stand → Step
  | .nothing => stop (if rest.isEmpty then .ok (.vacant position name) else .error .notFound)
  | .link target =>
    match links with
    | 0 => stop (.error .tooManyLinks)
    | links + 1 =>
      if target.isEmpty then stop (.error .notFound)
      else go links (if Path.isAbsolute target then [] else position) (Path.steps target ++ rest)
  | .settled => go links (position ++ [name]) rest

def inFolder (purpose : Purpose) (links : Nat) (position : List Name) (name : Name)
    (rest : List Name) (stand : Stand) : Step :=
  if name = Path.here || name = Path.nothing then go links position rest
  else if name = Path.above then go links position.dropLast rest
  else if purpose = .writing && rest = [Path.nothing] then stop (.error .isAFolder)
  else if maxName < name.length then stop (.error .nameTooLong)
  else lookUp links position name rest stand

/-- The step at a name from the place at `position`. -/
def of (root : FileTree) (purpose : Purpose) (links : Nat) (position : List Name) (name : Name)
    (rest : List Name) : Step :=
  match root.at? position with
  | some (.folder es) => inFolder purpose links position name rest (.of (es.lookup name))
  | some _ => stop (.error .notAFolder)
  | none => stop (.error .notFound)

def outcome (walk : Nat → List Name → List Name → Except OsError Place) :
    Step → Except OsError Place
  | go links position rest => walk links position rest
  | stop outcome => outcome

end Step

variable {root root' : FileTree} {purpose : Purpose} {links links' : Nat}
  {position position' rest rest' : List Name} {name : Name} {es es' : List (Name × Node)}
  {stand : Stand} {place : Place}

theorem Stand.of_eq_settled_iff {entry : Option Node} :
    Stand.of entry = .settled ↔ ∃ n, entry = some n ∧ ∀ target, n ≠ .link target := by
  constructor
  · intro h
    cases entry with
    | none => cases h
    | some n =>
      refine ⟨n, rfl, ?_⟩
      rintro target rfl
      cases h
  · rintro ⟨n, rfl, hlink⟩
    cases n with
    | link target => exact absurd rfl (hlink target)
    | _ => rfl

theorem Stand.of_eq_link_iff {entry : Option Node} {target : Path} :
    Stand.of entry = .link target ↔ entry = some (.link target) := by
  match entry with
  | none => simp [Stand.of]
  | some (.link _) => simp [Stand.of]
  | some (.file _) | some (.blank _) | some .sealed | some (.folder _) => simp [Stand.of]

theorem Stand.of_eq_nothing_iff {entry : Option Node} :
    Stand.of entry = .nothing ↔ entry = none := by
  match entry with
  | none => simp [Stand.of]
  | some (.link _) => simp [Stand.of]
  | some (.file _) | some (.blank _) | some .sealed | some (.folder _) => simp [Stand.of]

namespace Step

theorem of_folder (hes : root.at? position = some (.folder es)) :
    Step.of root purpose links position name rest =
      inFolder purpose links position name rest (.of (es.lookup name)) := by
  rw [Step.of, hes]

theorem exists_folder_of_ne_error
    (h : ∀ error, Step.of root purpose links position name rest ≠ stop (.error error)) :
    ∃ es, root.at? position = some (.folder es) := by
  unfold Step.of at h
  split at h
  · exact ⟨_, ‹_›⟩
  · exact absurd rfl (h _)
  · exact absurd rfl (h _)

/-- In a folder a name is passed by, or refused, or it is looked up.  Where a name is looked up to
write, it is looked up to find as well. -/
theorem inFolder_cases (purpose : Purpose) (links : Nat) (position : List Name) (name : Name)
    (rest : List Name) :
    (∃ p, (p = position ∨ p = position.dropLast) ∧
      ∀ purpose stand, inFolder purpose links position name rest stand = go links p rest) ∨
    (∃ error, ∀ stand,
      inFolder purpose links position name rest stand = stop (.error error)) ∨
    ∀ stand, inFolder purpose links position name rest stand =
        lookUp links position name rest stand ∧
      inFolder .finding links position name rest stand =
        lookUp links position name rest stand := by
  by_cases hhere : (name = Path.here || name = Path.nothing) = true
  · exact Or.inl ⟨position, Or.inl rfl, fun _ _ => if_pos hhere⟩
  by_cases habove : name = Path.above
  · refine Or.inl ⟨position.dropLast, Or.inr rfl, fun _ _ => ?_⟩
    rw [inFolder, if_neg hhere, if_pos habove]
  simp only [inFolder, if_neg hhere, if_neg habove]
  by_cases hwrite : (purpose = .writing && rest = [Path.nothing]) = true
  · exact Or.inr (Or.inl ⟨_, fun _ => if_pos hwrite⟩)
  by_cases hlong : maxName < name.length
  · exact Or.inr (Or.inl ⟨_, fun _ => by rw [if_neg hwrite, if_pos hlong]⟩)
  · refine Or.inr (Or.inr fun _ => ⟨?_, ?_⟩)
    · rw [if_neg hwrite, if_neg hlong]
    · rw [if_neg (by simp), if_neg hlong]

theorem lookUp_eq_go
    (h : lookUp links position name rest stand = go links' position' rest') :
    (stand = .settled ∧ links' = links ∧ position' = position ++ [name] ∧ rest' = rest) ∨
      ∃ target, stand = .link target ∧ links' < links ∧
        (position' = [] ∨ position' = position) := by
  cases stand with
  | nothing => cases h
  | settled =>
    cases h
    exact Or.inl ⟨rfl, rfl, rfl, rfl⟩
  | link target =>
    cases links with
    | zero => cases h
    | succ links =>
      simp only [lookUp] at h
      split at h
      · cases h
      · cases h
        refine Or.inr ⟨target, rfl, Nat.lt_succ_self _, ?_⟩
        split
        · exact Or.inl rfl
        · exact Or.inr rfl

theorem lookUp_eq_stop_ok (h : lookUp links position name rest stand = stop (.ok place)) :
    stand = .nothing ∧ rest = [] ∧ place = .vacant position name := by
  cases stand with
  | settled => cases h
  | nothing =>
    simp only [lookUp] at h
    split at h
    · rename_i hempty
      cases h
      exact ⟨rfl, List.isEmpty_iff.mp hempty, rfl⟩
    · cases h
  | link target =>
    cases links with
    | zero => cases h
    | succ links =>
      simp only [lookUp] at h
      split at h <;> cases h

/-- Where a walk goes on: it has passed a name by, entered an entry, or followed a link. -/
theorem of_eq_go
    (h : Step.of root purpose links position name rest = go links' position' rest') :
    ∃ es, root.at? position = some (.folder es) ∧
      ((links' = links ∧ rest' = rest ∧ (position' = position ∨ position' = position.dropLast)) ∨
      (Stand.of (es.lookup name) = .settled ∧
        links' = links ∧ rest' = rest ∧ position' = position ++ [name]) ∨
      ∃ target, es.lookup name = some (.link target) ∧ links' < links ∧
        (position' = [] ∨ position' = position)) := by
  obtain ⟨es, hes⟩ := exists_folder_of_ne_error fun error herror => by rw [herror] at h; cases h
  refine ⟨es, hes, ?_⟩
  rw [of_folder hes] at h
  rcases inFolder_cases purpose links position name rest with
    ⟨p, hp, hpass⟩ | ⟨error, hrefuse⟩ | hlook
  · rw [hpass] at h
    cases h
    exact Or.inl ⟨rfl, rfl, hp⟩
  · rw [hrefuse] at h
    cases h
  · rw [(hlook _).1] at h
    rcases lookUp_eq_go h with ⟨hsettled, rfl, rfl, rfl⟩ | ⟨target, hlink, hlt, hposition⟩
    · exact Or.inr (Or.inl ⟨hsettled, rfl, rfl, rfl⟩)
    · exact Or.inr (Or.inr ⟨target, Stand.of_eq_link_iff.mp hlink, hlt, hposition⟩)

/-- A walk that stops at a place stops at a free name of a folder.  If that name stood for an
entry, a walk to find would enter it. -/
theorem of_eq_stop_ok (h : Step.of root purpose links position name rest = stop (.ok place)) :
    ∃ es, root.at? position = some (.folder es) ∧ es.lookup name = none ∧ rest = [] ∧
      place = .vacant position name ∧
      inFolder .finding links position name rest .settled = go links (position ++ [name]) rest := by
  obtain ⟨es, hes⟩ := exists_folder_of_ne_error fun error herror => by rw [herror] at h; cases h
  refine ⟨es, hes, ?_⟩
  rw [of_folder hes] at h
  rcases inFolder_cases purpose links position name rest with
    ⟨p, hp, hpass⟩ | ⟨error, hrefuse⟩ | hlook
  · rw [hpass] at h
    cases h
  · rw [hrefuse] at h
    cases h
  · rw [(hlook _).1] at h
    obtain ⟨hnothing, hrest, hplace⟩ := lookUp_eq_stop_ok h
    exact ⟨Stand.of_eq_nothing_iff.mp hnothing, hrest, hplace, (hlook _).2⟩

/-- A step to find goes where a step to write goes, also in a tree where names that stood for
nothing have got entries. -/
theorem of_finding_eq_go
    (h : Step.of root purpose links position name rest = go links' position' rest')
    (hes : root.at? position = some (.folder es)) (hes' : root'.at? position = some (.folder es'))
    (hstand : es.lookup name ≠ none → Stand.of (es'.lookup name) = Stand.of (es.lookup name)) :
    Step.of root' .finding links position name rest = go links' position' rest' := by
  rw [of_folder hes] at h
  rw [of_folder hes']
  rcases inFolder_cases purpose links position name rest with
    ⟨p, hp, hpass⟩ | ⟨error, hrefuse⟩ | hlook
  · rw [hpass] at h ⊢
    exact h
  · rw [hrefuse] at h
    cases h
  · rw [(hlook _).1] at h
    have hsome : es.lookup name ≠ none := by
      intro hnone
      rw [hnone] at h
      cases h
    rw [hstand hsome, (hlook _).2, h]

end Step

theorem walk_nil (root : FileTree) (purpose : Purpose) (links : Nat) (position : List Name) :
    walk root purpose links position [] = .ok (.found position) := by
  rw [walk]

theorem walk_cons (root : FileTree) (purpose : Purpose) (links : Nat) (position : List Name)
    (name : Name) (rest : List Name) :
    walk root purpose links position (name :: rest) =
      (Step.of root purpose links position name rest).outcome (walk root purpose) := by
  rw [walk, Step.of]
  cases root.at? position with
  | none => rfl
  | some n =>
    cases n with
    | folder es =>
      unfold Step.inFolder
      dsimp only
      split
      · rfl
      split
      · rfl
      split
      · rfl
      split
      · rfl
      cases es.lookup name with
      | none => rfl
      | some n =>
        cases n with
        | link target =>
          cases links with
          | zero => rfl
          | succ links =>
            simp only [Stand.of, Step.lookUp]
            split <;> rfl
        | _ => rfl
    | _ => rfl

/-- A walk is at its end, or it goes on from its first step, or it stops there. -/
@[elab_as_elim]
theorem walkInduction (root : FileTree) (purpose : Purpose)
    {motive : Nat → List Name → List Name → Prop}
    (done : ∀ links position, motive links position [])
    (go : ∀ links position name rest links' position' rest',
      Step.of root purpose links position name rest = .go links' position' rest' →
      motive links' position' rest' → motive links position (name :: rest))
    (stop : ∀ links position name rest outcome,
      Step.of root purpose links position name rest = .stop outcome →
      motive links position (name :: rest))
    (links : Nat) (position rest : List Name) : motive links position rest := by
  induction links using Nat.strongRecOn generalizing position rest with
  | ind links ihlinks =>
    induction rest generalizing position with
    | nil => exact done links position
    | cons name rest ihrest =>
      cases hstep : Step.of root purpose links position name rest with
      | stop outcome => exact stop links position name rest outcome hstep
      | go links' position' rest' =>
        refine go links position name rest links' position' rest' hstep ?_
        -- a followed link counts, and otherwise the rest has got shorter
        obtain ⟨es, -, ⟨rfl, rfl, -⟩ | ⟨-, rfl, rfl, -⟩ | ⟨target, -, hlt, -⟩⟩ :=
          Step.of_eq_go hstep
        · exact ihrest position'
        · exact ihrest position'
        · exact ihlinks links' hlt position' rest'

end ImportCensus.FileTree
