import ImportCensus.Proofs.FileTree.Hops
import ImportCensus.Proofs.Text.Utf8
/-!
# Files that have been written

A file that was written at a path is found at that path, with the bytes that were written: the
way to it leads through folders and links, and these are not touched.
-/

namespace ImportCensus

namespace Node

variable {n leaf : Node} {es : List (Name × Node)} {name other : Name}

@[simp] theorem lookup_replaceEntry_self : (replaceEntry name n es).lookup name = some n := by
  induction es with
  | nil => simp [replaceEntry]
  | cons e es ih =>
    obtain ⟨first, old⟩ := e
    rw [replaceEntry]
    split
    · simp
    · rename_i hne
      have hbeq : (name == first) = false := by simpa using Ne.symm hne
      rw [List.lookup_cons, hbeq, ih]

theorem lookup_replaceEntry_of_ne (h : other ≠ name) :
    (replaceEntry name n es).lookup other = es.lookup other := by
  induction es with
  | nil =>
    have hbeq : (other == name) = false := by simpa using h
    rw [replaceEntry, List.lookup_cons, hbeq]
  | cons e es ih =>
    obtain ⟨first, old⟩ := e
    rw [replaceEntry]
    split
    · rename_i heq
      subst heq
      have hbeq : (other == first) = false := by simpa using h
      rw [List.lookup_cons, hbeq, List.lookup_cons, hbeq]
    · rw [List.lookup_cons, List.lookup_cons, ih]

theorem insert_cons (rest : List Name) :
    n.insert (name :: rest) leaf =
      folder
        (replaceEntry name (((n.entries.lookup name).getD empty).insert rest leaf) n.entries) := by
  rw [insert]

theorem at?_insert_self (names : List Name) : (n.insert names leaf).at? names = some leaf := by
  induction names generalizing n with
  | nil => rfl
  | cons name names ih =>
    rw [insert_cons, at?_folder_cons, lookup_replaceEntry_self, Option.bind_some, ih]

theorem eq_folder_of_lookup {child : Node} (h : n.entries.lookup name = some child) :
    n = folder n.entries := by
  cases n with
  | folder es => rfl
  | _ => cases h

theorem exists_folder_of_at?_cons {rest : List Name} {m : Node}
    (h : n.at? (name :: rest) = some m) :
    ∃ es child, n = folder es ∧ es.lookup name = some child ∧ child.at? rest = some m := by
  rw [at?] at h
  split at h
  · rename_i child hchild
    exact ⟨n.entries, child, eq_folder_of_lookup hchild, hchild, h⟩
  · cases h

end Node

namespace FileTree

open Node

/-- Whether a file may stand at a place: in a folder, and not instead of a folder or a link. -/
structure IsFree (root : FileTree) (place : List Name) : Prop where
  notFolder : ∀ es, root.at? place ≠ some (.folder es)
  notLink : ∀ target, root.at? place ≠ some (.link target)
  inFolder : ∀ before name, place = before ++ [name] → ∃ es, root.at? before = some (.folder es)

/-- What a name stands for in a folder, after a file was put at a place. -/
structure IsEntered (place : List Name) (leaf : Node) (here : List Name) (name : Name)
    (old new : Option Node) : Prop where
  self : here ++ [name] = place → new = some leaf
  other : here ++ [name] ≠ place →
    old = new ∨ ∃ es es', old = some (.folder es) ∧ new = some (.folder es')

variable {root : FileTree} {leaf : Node} {target here rest : List Name} {name : Name}
  {es : List (Name × Node)}

theorem IsFree.ne_nil (h : IsFree root target) (hes : root.at? here = some (.folder es)) :
    target ≠ [] := by
  rintro rfl
  cases here with
  | nil => exact h.notFolder es hes
  | cons name here =>
    obtain ⟨es', child, hroot, -⟩ := exists_folder_of_at?_cons hes
    exact h.notFolder es' (congrArg some hroot)

theorem IsFree.tail {child : Node} (h : IsFree (.folder es) (name :: rest))
    (hchild : es.lookup name = some child) : IsFree child rest := by
  have hat : ∀ names, (folder es).at? (name :: names) = child.at? names := by
    intro names
    rw [at?_folder_cons, hchild, Option.bind_some]
  refine ⟨fun es' hes' => ?_, fun link hlink => ?_, fun before last heq => ?_⟩
  · exact h.notFolder es' ((hat rest).trans hes')
  · exact h.notLink link ((hat rest).trans hlink)
  · obtain ⟨es', hes'⟩ := h.inFolder (name :: before) last (by rw [heq, List.cons_append])
    exact ⟨es', (hat before).symm.trans hes'⟩

theorem IsFree.exists_folder (h : IsFree (.folder es) (name :: rest)) (hne : rest ≠ []) :
    ∃ es', es.lookup name = some (.folder es') := by
  obtain ⟨before, last, rfl⟩ := (List.eq_nil_or_concat' rest).resolve_left hne
  obtain ⟨es', hes'⟩ := h.inFolder (name :: before) last rfl
  obtain ⟨_, child, hfolder, hchild, hat⟩ := exists_folder_of_at?_cons hes'
  cases hfolder
  cases before with
  | nil => exact ⟨es', by rw [hchild]; exact hat⟩
  | cons second before =>
    obtain ⟨es'', _, rfl, -⟩ := exists_folder_of_at?_cons hat
    exact ⟨es'', hchild⟩

theorem isEntered_replaceEntry (h : IsFree (.folder es) (name :: rest)) (other : Name) :
    IsEntered (name :: rest) leaf [] other (es.lookup other)
      ((replaceEntry name (((es.lookup name).getD empty).insert rest leaf) es).lookup other) := by
  by_cases hother : other = name
  · subst hother
    rw [lookup_replaceEntry_self]
    cases rest with
    | nil => exact ⟨fun _ => rfl, fun hne => absurd rfl hne⟩
    | cons second rest =>
      obtain ⟨es', hes'⟩ := h.exists_folder (by simp)
      rw [hes', Option.getD_some, insert_cons]
      exact ⟨fun heq => by simp at heq, fun _ => Or.inr ⟨es', _, rfl, rfl⟩⟩
  · rw [lookup_replaceEntry_of_ne hother]
    exact ⟨fun heq => absurd (List.cons.inj heq).1 hother, fun _ => Or.inl rfl⟩

/-- What the folders of a tree have in them after a file was put at a free place. -/
theorem at?_insert (leaf : Node) (h : IsFree root target) (hes : root.at? here = some (.folder es)) :
    ∃ es', (root.insert target leaf).at? here = some (.folder es') ∧
      ∀ name, IsEntered target leaf here name (es.lookup name) (es'.lookup name) := by
  induction here generalizing root target with
  | nil =>
    cases hes
    cases target with
    | nil => exact (h.notFolder _ rfl).elim
    | cons first rest =>
      rw [insert_cons]
      exact ⟨_, rfl, isEntered_replaceEntry h⟩
  | cons first here ih =>
    cases target with
    | nil => exact absurd rfl (h.ne_nil hes)
    | cons name rest =>
      obtain ⟨seen, child, rfl, hchild, hbelow⟩ := exists_folder_of_at?_cons hes
      rw [insert_cons, at?_folder_cons]
      by_cases hfirst : first = name
      · subst hfirst
        rw [Node.entries, lookup_replaceEntry_self, hchild, Option.bind_some, Option.getD_some]
        obtain ⟨es', hes', hentered⟩ := ih (h.tail hchild) hbelow
        refine ⟨es', hes', fun other => ⟨fun heq => ?_, fun hne => ?_⟩⟩
        · exact (hentered other).self (List.cons.inj heq).2
        · exact (hentered other).other fun heq => hne (congrArg (first :: ·) heq)
      · rw [Node.entries, lookup_replaceEntry_of_ne hfirst, hchild, Option.bind_some]
        refine ⟨es, hbelow, fun other => ⟨fun heq => ?_, fun _ => Or.inl rfl⟩⟩
        exact absurd (List.cons.inj heq).1 hfirst

theorem IsEntered.stand_eq {old new : Option Node} (h : IsEntered target leaf here name old new)
    (hlink : ∀ link, here ++ [name] = target → old ≠ some (.link link))
    (hleaf : ∀ link, leaf ≠ .link link) (hold : old ≠ none) : Stand.of new = Stand.of old := by
  obtain ⟨n, rfl⟩ := Option.ne_none_iff_exists'.mp hold
  by_cases hself : here ++ [name] = target
  · rw [h.self hself, Stand.of_eq_settled_iff.mpr ⟨leaf, rfl, hleaf⟩]
    refine (Stand.of_eq_settled_iff.mpr ⟨n, rfl, fun link heq => ?_⟩).symm
    exact hlink link hself (congrArg some heq)
  · rcases h.other hself with heq | ⟨es, es', hes, rfl⟩
    · rw [heq]
    · rw [hes]
      rfl

def Place.names : Place → List Name
  | .found path => path
  | .vacant before name => before ++ [name]

theorem walk_insert {purpose : Purpose} {links : Nat} {place : Place}
    (hwalk : walk root purpose links here rest = .ok place) (h : IsFree root place.names)
    (hleaf : ∀ link, leaf ≠ .link link) :
    walk (root.insert place.names leaf) .finding links here rest = .ok (.found place.names) := by
  -- a walk to write makes the steps of one to find, up to the name that is put there
  induction links, here, rest using walkInduction root purpose with
  | done links position =>
    rw [walk_nil] at hwalk
    cases hwalk
    exact walk_nil ..
  | go links position name rest links' position' rest' hstep ih =>
    rw [walk_cons, hstep] at hwalk
    obtain ⟨es, hes, -⟩ := Step.of_eq_go hstep
    obtain ⟨es', hes', hentered⟩ := at?_insert leaf h hes
    have hlink : ∀ link, position ++ [name] = place.names → es.lookup name ≠ some (.link link) := by
      intro link heq hlookup
      apply h.notLink link
      rw [← heq, at?_append, hes, Option.bind_some, at?_folder_singleton, hlookup]
    rw [walk_cons, Step.of_finding_eq_go hstep hes hes' ((hentered name).stand_eq hlink hleaf)]
    exact ih hwalk
  | stop links position name rest outcome hstep =>
    rw [walk_cons, hstep] at hwalk
    obtain rfl : outcome = .ok place := hwalk
    obtain ⟨es, hes, -, rfl, rfl, hfinding⟩ := Step.of_eq_stop_ok hstep
    obtain ⟨es', hes', hentered⟩ := at?_insert leaf h hes
    have hsettled : Stand.of (es'.lookup name) = .settled :=
      Stand.of_eq_settled_iff.mpr ⟨leaf, (hentered name).self rfl, hleaf⟩
    rw [walk_cons, Step.of_folder hes', hsettled, hfinding]
    exact walk_nil ..

theorem exists_folder_of_walk_cons {purpose : Purpose} {links : Nat} {place : Place}
    (h : walk root purpose links here (name :: rest) = .ok place) :
    ∃ es, root.at? here = some (.folder es) := by
  have hne : ∀ error, Step.of root purpose links here name rest ≠ .stop (.error error) := by
    intro error herror
    rw [walk_cons, herror] at h
    cases h
  exact Step.exists_folder_of_ne_error hne

theorem lookup_of_walk_vacant {purpose : Purpose} {links : Nat} {before : List Name}
    (h : walk root purpose links here rest = .ok (.vacant before name)) :
    ∃ es, root.at? before = some (.folder es) ∧ es.lookup name = none := by
  induction links, here, rest using walkInduction root purpose with
  | done links position =>
    rw [walk_nil] at h
    cases h
  | go links position first rest links' position' rest' hstep ih =>
    rw [walk_cons, hstep] at h
    exact ih h
  | stop links position first rest outcome hstep =>
    rw [walk_cons, hstep] at h
    obtain rfl : outcome = .ok (.vacant before name) := h
    obtain ⟨es, hes, hnone, -, hplace, -⟩ := Step.of_eq_stop_ok hstep
    cases hplace
    exact ⟨es, hes, hnone⟩

theorem isFree_of_isSettled (h : IsSettled root target)
    (hfolder : ∀ es, root.at? target ≠ some (.folder es)) : IsFree root target := by
  obtain ⟨n, hn, hlink⟩ := h
  refine ⟨hfolder, fun link heq => ?_, ?_⟩
  · rw [hn] at heq
    exact hlink link (Option.some.inj heq)
  · rintro before name rfl
    rw [at?_append, Option.bind_eq_some_iff] at hn
    obtain ⟨m, hm, hchild⟩ := hn
    obtain ⟨es, _, rfl, -⟩ := exists_folder_of_at?_cons hchild
    exact ⟨es, hm⟩

theorem isFree_of_lookup_eq_none {before : List Name} (hes : root.at? before = some (.folder es))
    (hnone : es.lookup name = none) : IsFree root (before ++ [name]) := by
  have hat : root.at? (before ++ [name]) = none := by
    rw [at?_append, hes, Option.bind_some, at?_folder_singleton, hnone]
  refine ⟨by simp [hat], by simp [hat], fun before' name' heq => ⟨es, ?_⟩⟩
  rw [← (List.append_inj' heq rfl).1, hes]

/-- A walk to write, but for one that stays at the root, leads to where a file may stand. -/
theorem isFree_of_walk {purpose : Purpose} {links : Nat} {place : Place}
    (hwalk : walk root purpose links [] (name :: rest) = .ok place)
    (hfound : ∀ names es, place = .found names → root.at? names ≠ some (.folder es)) :
    IsFree root place.names := by
  obtain ⟨es, hes⟩ := exists_folder_of_walk_cons hwalk
  cases place with
  | found names =>
    have hroot : IsSettled root [] := ⟨.folder es, hes, by simp⟩
    exact isFree_of_isSettled (isSettled_of_walk hroot hwalk) fun es' => hfound names es' rfl
  | vacant before name =>
    obtain ⟨es', hes', hnone⟩ := lookup_of_walk_vacant hwalk
    exact isFree_of_lookup_eq_none hes' hnone

theorem exists_place_of_store {path : Path} {content : List UInt8} {root' : FileTree}
    (h : store root path content = .ok root') :
    ∃ place, FileTree.place root .writing path = .ok place ∧
      (∀ names es, place = .found names → root.at? names ≠ some (.folder es)) ∧
      ∀ bytes, store root path bytes = .ok (root.insert place.names (.file bytes)) := by
  obtain ⟨place, hplace, hstore⟩ := bind_eq_ok_iff.mp h
  refine ⟨place, hplace, ?_, fun bytes => ?_⟩
  · rintro names es rfl hes
    simp only [hes] at hstore
    cases hstore
  · refine bind_eq_ok_iff.mpr ⟨place, hplace, ?_⟩
    cases place with
    | vacant before name => rfl
    | found names =>
      dsimp only at hstore ⊢
      generalize root.at? names = seen at hstore ⊢
      match seen with
      | some (.folder _) => cases hstore
      | some .sealed => cases hstore
      | some (.file _) | some (.blank _) | some (.link _) | none => rfl

theorem place_eq_ok_iff {purpose : Purpose} {path : Path} {place : Place} :
    FileTree.place root purpose path = .ok place ↔
      (path.contains 0 = false ∧ path.isEmpty = false ∧ path.length < maxPath) ∧
        walk root purpose maxLinks [] (Path.steps path) = .ok place := by
  rw [FileTree.place]
  split
  · simp_all
  · split
    · simp_all
    · split
      · rename_i hlong
        simp [Nat.not_lt.mpr hlong]
      · simp_all

section Root

variable {path : Path}

theorem walk_root {purpose : Purpose} {links : Nat} {n : Node}
    (hname : name ∉ [Path.here, Path.nothing, Path.above] ∧ name.length ≤ maxName)
    (hes : es.lookup name = some n) (hlink : ∀ target, n ≠ .link target) :
    walk (.folder es) purpose links [] [name] = .ok (.found [name]) := by
  simp only [List.mem_cons, List.not_mem_nil, or_false, not_or] at hname
  obtain ⟨⟨hhere, hnothing, habove⟩, hlength⟩ := hname
  cases n with
  | link target => exact absurd rfl (hlink target)
  | _ => simp [walk, Node.at?, hhere, hnothing, habove, hlength, hes]

theorem walk_root_vacant {purpose : Purpose} {links : Nat}
    (hname : name ∉ [Path.here, Path.nothing, Path.above] ∧ name.length ≤ maxName)
    (hes : es.lookup name = none) :
    walk (.folder es) purpose links [] [name] = .ok (.vacant [] name) := by
  simp only [List.mem_cons, List.not_mem_nil, or_false, not_or] at hname
  obtain ⟨⟨hhere, hnothing, habove⟩, hlength⟩ := hname
  simp [walk, Node.at?, hhere, hnothing, habove, hlength, hes]

theorem node_root_entry {n : Node}
    (hpath : path.contains 0 = false ∧ path.isEmpty = false ∧ path.length < maxPath)
    (hsteps : Path.steps path = [name])
    (hname : name ∉ [Path.here, Path.nothing, Path.above] ∧ name.length ≤ maxName)
    (hes : es.lookup name = some n) (hlink : ∀ target, n ≠ .link target) :
    node (.folder es) path = .ok n := by
  have hplace : FileTree.place (.folder es) .finding path = .ok (.found [name]) :=
    place_eq_ok_iff.mpr ⟨hpath, by rw [hsteps, walk_root hname hes hlink]⟩
  have hreal : resolve (.folder es) path = .ok [name] := by
    rw [resolve, hplace]
    rfl
  refine node_of_resolve hreal ?_
  rw [at?_folder_singleton, hes]

theorem pathExists_root_vacant
    (hpath : path.contains 0 = false ∧ path.isEmpty = false ∧ path.length < maxPath)
    (hsteps : Path.steps path = [name])
    (hname : name ∉ [Path.here, Path.nothing, Path.above] ∧ name.length ≤ maxName)
    (hes : es.lookup name = none) : pathExists (.folder es) path = false := by
  have hplace : FileTree.place (.folder es) .finding path = .ok (.vacant [] name) :=
    place_eq_ok_iff.mpr ⟨hpath, by rw [hsteps, walk_root_vacant hname hes]⟩
  rw [pathExists, node, resolve, hplace]
  rfl

end Root

theorem textAt_of_node {path : Path} {text : Text} {root : FileTree}
    (h : node root path = .ok (.file (Text.utf8 text))) : textAt root path = .ok text := by
  have hbytes : bytesAt root path = .ok (Text.utf8 text) := bind_eq_ok_iff.mpr ⟨_, h, rfl⟩
  exact bind_eq_ok_iff.mpr ⟨_, hbytes, by rw [Text.decode?_utf8]⟩

/-- A file that was written is the one found at its path. -/
theorem node_of_store {path : Path} {content : List UInt8} {root' : FileTree}
    (h : store root path content = .ok root') : node root' path = .ok (.file content) := by
  obtain ⟨place, hplace, hfound, hstore⟩ := exists_place_of_store h
  rw [hstore, Except.ok.injEq] at h
  subst h
  obtain ⟨hpath, hwalk⟩ := place_eq_ok_iff.mp hplace
  suffices hreach : walk (root.insert place.names (.file content)) .finding maxLinks []
      (Path.steps path) = .ok (.found place.names) by
    refine bind_eq_ok_iff.mpr ⟨place.names, ?_, by rw [at?_insert_self]⟩
    exact bind_eq_ok_iff.mpr ⟨.found place.names, place_eq_ok_iff.mpr ⟨hpath, hreach⟩, rfl⟩
  cases hsteps : Path.steps path with
  | nil =>
    rw [hsteps, walk_nil, Except.ok.injEq] at hwalk
    rw [walk_nil, ← hwalk]
    rfl
  | cons name rest =>
    rw [hsteps] at hwalk
    exact walk_insert hwalk (isFree_of_walk hwalk hfound) (by simp)

theorem pathExists_of_store {path : Path} {content : List UInt8} {root' : FileTree}
    (h : store root path content = .ok root') : pathExists root' path = true := by
  rw [pathExists, node_of_store h]
  rfl

theorem textAt_of_store {path : Path} {text : Text} {root' : FileTree}
    (h : store root path (Text.utf8 text) = .ok root') : textAt root' path = .ok text :=
  textAt_of_node (node_of_store h)

/-- Whether a file can be written at a path. -/
def IsWritable (root : FileTree) (path : Path) : Prop :=
  ∃ content root', store root path content = .ok root'

/-- Whether a path can be written to does not depend on the bytes. -/
theorem IsWritable.exists_store {path : Path} (h : IsWritable root path) (content : List UInt8) :
    ∃ root', store root path content = .ok root' := by
  obtain ⟨_, _, hstore⟩ := h
  obtain ⟨place, -, -, hstore⟩ := exists_place_of_store hstore
  exact ⟨_, hstore content⟩

end FileTree

end ImportCensus
