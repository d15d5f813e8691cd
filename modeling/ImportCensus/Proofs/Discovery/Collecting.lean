import ImportCensus.Discovery.Listing
import ImportCensus.Proofs.Except
import ImportCensus.Proofs.FileTree.Sight
import ImportCensus.Proofs.Path
/-!
# Collecting the files that a walk comes to

A walk that fails nowhere gives each source file that it comes to, and each of them once.
-/

namespace ImportCensus

namespace Discovery

open Sight

/-- Whether a scan looks at the entries of the folder that some names lead to. -/
def LooksInto (f : FileFilter) (limit : Option Nat) (names : List Name) : Prop :=
  (names = [] ∨ f.entersFolder (Path.ofNames names) = true) ∧
    withinDepth limit (names.length + 1) = true

/-- What is collected at a sight. -/
structure Collected (f : FileFilter) (limit : Option Nat) (base : List Name) (shown : Path)
    (s : Sight) (files : List SourceFile) : Prop where
  mem : ∀ file, file ∈ files ↔ ∃ rest size, Leads (LooksInto f limit) base s rest (.file size) ∧
    f.isSource (Path.ofNames (base ++ rest)) = true ∧
    file = ⟨Path.descend shown rest, base ++ rest, size⟩
  nodup : (files.map (·.names)).Nodup

section Collecting

variable {f : FileFilter} {limit : Option Nat} {base rest : List Name} {shown : Path}
  {name : Name} {s t : Sight} {es : List (Name × Sight)} {files : List SourceFile}

theorem leads_folder_cons (ht : ∀ es, t ≠ .folder es) :
    Leads (LooksInto f limit) base (.folder ((name, s) :: es)) rest t ↔
      (∃ rest', rest = name :: rest' ∧ LooksInto f limit base ∧
        Leads (LooksInto f limit) (base ++ [name]) s rest' t) ∨
      Leads (LooksInto f limit) base (.folder es) rest t := by
  cases rest with
  | nil =>
    simp only [Leads]
    constructor
    · exact fun h => absurd h.symm (ht _)
    · rintro (⟨_, h, -⟩ | h)
      · cases h
      · exact absurd h.symm (ht _)
  | cons name' rest =>
    simp only [Leads, Sight.entries, List.mem_cons, Prod.mk.injEq]
    constructor
    · rintro ⟨hlooks, child, ⟨rfl, rfl⟩ | hchild, hleads⟩
      · exact Or.inl ⟨rest, rfl, hlooks, hleads⟩
      · exact Or.inr ⟨hlooks, child, hchild, hleads⟩
    · rintro (⟨_, heq, hlooks, hleads⟩ | ⟨hlooks, child, hchild, hleads⟩)
      · cases heq
        exact ⟨hlooks, s, Or.inl ⟨rfl, rfl⟩, hleads⟩
      · exact ⟨hlooks, child, Or.inr hchild, hleads⟩

theorem collected_nil (h : ∀ rest size, ¬ Leads (LooksInto f limit) base s rest (.file size)) :
    Collected f limit base shown s [] := by
  refine ⟨fun file => ?_, by simp⟩
  constructor
  · intro hfile
    cases hfile
  · rintro ⟨rest, size, hleads, -⟩
    exact absurd hleads (h rest size)

theorem not_leads_of_not_folder (hs : ∀ es, s ≠ .folder es) (hst : s ≠ t) :
    ¬ Leads (LooksInto f limit) base s rest t := by
  cases rest with
  | nil => exact hst
  | cons name rest =>
    apply FileTree.not_leads_of_entries_eq_nil
    cases s with
    | folder es => exact absurd rfl (hs es)
    | _ => rfl

theorem not_leads_of_not_looksInto (h : ¬ LooksInto f limit base) (ht : ∀ es, t ≠ .folder es) :
    ¬ Leads (LooksInto f limit) base (.folder es) rest t := by
  cases rest with
  | nil => exact fun heq => ht es heq.symm
  | cons name rest => exact fun hleads => h hleads.1

theorem Collected.cons {here others : List SourceFile}
    (hlooks : LooksInto f limit base) (hname : name ∉ es.map Prod.fst)
    (hhere : Collected f limit (base ++ [name]) (Path.join shown name) s here)
    (hothers : Collected f limit base shown (.folder es) others) :
    Collected f limit base shown (.folder ((name, s) :: es)) (here ++ others) := by
  refine ⟨fun file => ?_, ?_⟩
  · rw [List.mem_append, hhere.mem, hothers.mem]
    constructor
    · rintro (⟨rest, size, hleads, hsource, rfl⟩ | ⟨rest, size, hleads, hsource, rfl⟩)
      · refine ⟨name :: rest, size, ?_, by simpa using hsource, by simp [Path.descend]⟩
        exact (leads_folder_cons (by simp)).mpr (Or.inl ⟨rest, rfl, hlooks, hleads⟩)
      · exact ⟨rest, size, (leads_folder_cons (by simp)).mpr (Or.inr hleads), hsource, rfl⟩
    · rintro ⟨rest, size, hleads, hsource, rfl⟩
      rcases (leads_folder_cons (by simp)).mp hleads with ⟨rest, rfl, -, hleads⟩ | hleads
      · exact Or.inl ⟨rest, size, hleads, by simpa using hsource, by simp [Path.descend]⟩
      · exact Or.inr ⟨rest, size, hleads, hsource, rfl⟩
  · rw [List.map_append, List.nodup_append]
    refine ⟨hhere.nodup, hothers.nodup, ?_⟩
    intro names hnames names' hnames' heq
    obtain ⟨file, hfile, rfl⟩ := List.mem_map.mp hnames
    obtain ⟨file', hfile', rfl⟩ := List.mem_map.mp hnames'
    obtain ⟨rest, size, -, -, rfl⟩ := (hhere.mem file).mp hfile
    obtain ⟨rest', size', hleads, -, rfl⟩ := (hothers.mem file').mp hfile'
    -- the names of the two files part at this folder
    simp only [List.append_assoc, List.singleton_append, List.append_cancel_left_eq] at heq
    subst heq
    obtain ⟨-, child, hchild, -⟩ := hleads
    exact hname (List.mem_map.mpr ⟨(name, child), hchild, rfl⟩)

/-- Whether a walk goes on from a sight without failing and meets each name of a folder once. -/
structure IsCalm (f : FileFilter) (limit : Option Nat) (base : List Name) (s : Sight) : Prop where
  not_failed : ∀ rest error, ¬ Leads (LooksInto f limit) base s rest (.failed error)
  nodup : ∀ rest es, Leads (LooksInto f limit) base s rest (.folder es) → (es.map Prod.fst).Nodup

theorem IsCalm.head (h : IsCalm f limit base (.folder ((name, s) :: es)))
    (hlooks : LooksInto f limit base) : IsCalm f limit (base ++ [name]) s := by
  refine ⟨fun rest error hleads => ?_, fun rest seen hleads => ?_⟩
  · exact h.not_failed (name :: rest) error ⟨hlooks, s, List.mem_cons_self, hleads⟩
  · exact h.nodup (name :: rest) seen ⟨hlooks, s, List.mem_cons_self, hleads⟩

theorem IsCalm.tail (h : IsCalm f limit base (.folder ((name, s) :: es))) :
    IsCalm f limit base (.folder es) := by
  refine ⟨fun rest error hleads => ?_, fun rest seen hleads => ?_⟩
  · exact h.not_failed rest error ((leads_folder_cons (by simp)).mpr (Or.inr hleads))
  · cases rest with
    | nil =>
      obtain rfl := Sight.folder.inj hleads
      have hnodup := h.nodup [] _ rfl
      rw [List.map_cons, List.nodup_cons] at hnodup
      exact hnodup.2
    | cons name' rest =>
      obtain ⟨hlooks, child, hchild, hleads⟩ := hleads
      exact h.nodup (name' :: rest) seen ⟨hlooks, child, List.mem_cons_of_mem _ hchild, hleads⟩

theorem collected_file (size : Nat) :
    Collected f limit base shown (.file size)
      (if f.isSource (Path.ofNames base) then [⟨shown, base, size⟩] else []) := by
  have hleads : ∀ rest size', Leads (LooksInto f limit) base (.file size) rest (.file size') ↔
      rest = [] ∧ size' = size := by
    intro rest size'
    cases rest with
    | nil => simp [Leads, eq_comm]
    | cons name rest => simpa using FileTree.not_leads_of_entries_eq_nil rfl
  refine ⟨fun file => ?_, ?_⟩
  · simp only [hleads]
    constructor
    · intro hfile
      split at hfile
      · rename_i hsource
        exact ⟨[], size, ⟨rfl, rfl⟩, by simpa using hsource, by simpa [Path.descend] using hfile⟩
      · cases hfile
    · rintro ⟨rest, size', ⟨rfl, rfl⟩, hsource, rfl⟩
      rw [List.append_nil] at hsource
      simp [hsource, Path.descend]
  · split <;> simp

mutual

theorem collectAt_spec (f : FileFilter) (limit : Option Nat) (base : List Name) (shown : Path)
    (hbase : base ≠ []) :
    ∀ s : Sight, IsCalm f limit base s →
      ∃ files, collectAt f limit base shown s = .ok files ∧ Collected f limit base shown s files
  | .file size, _ => ⟨_, rfl, collected_file size⟩
  | .folder es, h => by
    rw [collectAt]
    by_cases henters : f.entersFolder (Path.ofNames base) = true
    · rw [if_pos henters]
      exact collectIn_spec f limit base shown (Or.inr henters) es h
    · rw [if_neg henters]
      have hlooks : ¬ LooksInto f limit base := fun h => henters (h.1.resolve_left hbase)
      refine ⟨_, rfl, collected_nil fun rest size => ?_⟩
      exact not_leads_of_not_looksInto hlooks (by simp)
  | .passed, _ =>
    ⟨_, rfl, collected_nil fun _ _ => not_leads_of_not_folder (by simp) (by simp)⟩
  | .failed error, h => absurd rfl (h.not_failed [] error)

theorem collectIn_spec (f : FileFilter) (limit : Option Nat) (base : List Name) (shown : Path)
    (henters : base = [] ∨ f.entersFolder (Path.ofNames base) = true) :
    ∀ es : List (Name × Sight), IsCalm f limit base (.folder es) →
      ∃ files, collectIn f limit base shown es = .ok files ∧
        Collected f limit base shown (.folder es) files
  | [], _ => by
    refine ⟨_, rfl, collected_nil fun rest size => ?_⟩
    cases rest with
    | nil => simp [Leads]
    | cons name rest => exact FileTree.not_leads_of_entries_eq_nil rfl
  | (name, s) :: es, h => by
    rw [collectIn]
    by_cases hdepth : withinDepth limit (base.length + 1) = true
    · have hlooks : LooksInto f limit base := ⟨henters, hdepth⟩
      have hname : name ∉ es.map Prod.fst := by
        have hnodup := h.nodup [] _ rfl
        rw [List.map_cons, List.nodup_cons] at hnodup
        exact hnodup.1
      obtain ⟨here, hhere, hcollected⟩ :=
        collectAt_spec f limit (base ++ [name]) (Path.join shown name) (by simp) s
          (h.head hlooks)
      obtain ⟨others, hothers, hcollected'⟩ := collectIn_spec f limit base shown henters es h.tail
      rw [if_pos hdepth, hhere, hothers]
      exact ⟨_, rfl, hcollected.cons hlooks hname hcollected'⟩
    · rw [if_neg hdepth]
      refine ⟨_, rfl, collected_nil fun rest size => ?_⟩
      exact not_leads_of_not_looksInto (fun h => hdepth h.2) (by simp)

end

mutual

theorem isSource_of_mem_collectAt :
    ∀ (base : List Name) (shown : Path) (s : Sight) (files : List SourceFile),
      collectAt f limit base shown s = .ok files →
        ∀ file ∈ files, f.isSource file.relative = true
  | base, shown, .file size, files, h => by
    cases h
    intro file hfile
    split at hfile
    · rename_i hsource
      rw [List.mem_singleton.mp hfile]
      exact hsource
    · cases hfile
  | base, shown, .folder es, files, h => by
    rw [collectAt] at h
    split at h
    · exact isSource_of_mem_collectIn base shown es files h
    · cases h
      simp
  | base, shown, .passed, files, h => by
    cases h
    simp
  | base, shown, .failed error, files, h => by cases h

theorem isSource_of_mem_collectIn :
    ∀ (base : List Name) (shown : Path) (es : List (Name × Sight)) (files : List SourceFile),
      collectIn f limit base shown es = .ok files →
        ∀ file ∈ files, f.isSource file.relative = true
  | base, shown, [], files, h => by
    cases h
    simp
  | base, shown, (name, s) :: es, files, h => by
    rw [collectIn] at h
    split at h
    · obtain ⟨here, hhere, h⟩ := bind_eq_ok_iff.mp h
      obtain ⟨others, hothers, h⟩ := bind_eq_ok_iff.mp h
      cases h
      intro file hfile
      rcases List.mem_append.mp hfile with hfile | hfile
      · exact isSource_of_mem_collectAt _ _ s here hhere file hfile
      · exact isSource_of_mem_collectIn base shown es others hothers file hfile
    · cases h
      simp

end

end Collecting

end Discovery

end ImportCensus
