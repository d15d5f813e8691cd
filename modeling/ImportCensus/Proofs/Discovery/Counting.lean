import ImportCensus.Discovery.Statistics
import ImportCensus.Proofs.Distinct
import Mathlib.Algebra.GroupWithZero.Nat
/-!
# What is counted of a listing

The counts by extension are the tally of the extensions in the order in which they first come up.
The summary sorts them by an order in which no two different counts are level, so it depends
neither on that order nor on the order of the files.
-/

namespace ImportCensus.Discovery

/-- Whether a file is counted under a name: its extension in lower case, or a name of its own for
files without one. -/
def SourceFile.IsCountedAs (f : SourceFile) (name : Text) : Prop :=
  if f.extension = [] then name = "no_extension" else name = f.extension

namespace Statistics

variable {files files' : List SourceFile} {keys keys' : List Text} {a b : Text × Nat}

theorem isCountedAs_iff {f : SourceFile} {name : Text} : f.IsCountedAs name ↔ key f = name := by
  rw [SourceFile.IsCountedAs, key]
  cases hextension : f.extension with
  | nil => simp [eq_comm]
  | cons c rest => simp [eq_comm]

instance (f : SourceFile) (name : Text) : Decidable (f.IsCountedAs name) :=
  decidable_of_iff _ isCountedAs_iff.symm

/-! ## Tallies -/

/-- How often each of some names comes up, in the order in which they first do. -/
def tally (keys : List Text) : List (Text × Nat) :=
  keys.eraseDups.map fun k => (k, keys.count k)

theorem mem_tally_iff {name : Text} {n : Nat} :
    (name, n) ∈ tally keys ↔ 0 < n ∧ n = keys.count name := by
  rw [tally, List.mem_map]
  constructor
  · rintro ⟨k, hk, h⟩
    cases h
    rw [List.mem_eraseDups] at hk
    exact ⟨List.count_pos_iff.mpr hk, rfl⟩
  · rintro ⟨hpos, rfl⟩
    refine ⟨name, ?_, rfl⟩
    rw [List.mem_eraseDups]
    exact List.count_pos_iff.mp hpos

theorem map_fst_tally (keys : List Text) : (tally keys).map (·.1) = keys.eraseDups := by
  rw [tally, List.map_map]
  exact List.map_id _

theorem nodup_tally (keys : List Text) : (tally keys).Nodup := by
  have hnames : ((tally keys).map (·.1)).Nodup := by
    rw [map_fst_tally]
    exact nodup_eraseDups keys
  exact hnames.of_map _

theorem countKey_map {names : List Text} (hnames : names.Nodup) (count : Text → Nat)
    (name : Text) :
    countKey name (names.map fun k => (k, count k)) =
      names.map (fun k => (k, count k + if k = name then 1 else 0)) ++
        if name ∈ names then [] else [(name, 1)] := by
  induction names with
  | nil => rfl
  | cons k names ih =>
    rw [List.nodup_cons] at hnames
    rw [List.map_cons, List.map_cons, countKey]
    by_cases hk : k = name
    · subst hk
      have hothers : ∀ k' ∈ names, (k', count k') = (k', count k' + if k' = k then 1 else 0) := by
        intro k' hk'
        have hne : k' ≠ k := by
          rintro rfl
          exact hnames.1 hk'
        rw [if_neg hne, Nat.add_zero]
      rw [if_pos rfl, if_pos rfl, if_pos List.mem_cons_self, List.append_nil,
        List.map_congr_left hothers]
    · have hmem : name ∈ k :: names ↔ name ∈ names := by
        rw [List.mem_cons]
        exact or_iff_right (Ne.symm hk)
      rw [if_neg hk, if_neg hk, ih hnames.2, Nat.add_zero, List.cons_append]
      simp only [hmem]

theorem countKey_tally (keys : List Text) (name : Text) :
    countKey name (tally keys) = tally (keys ++ [name]) := by
  have hcount : ∀ k, (keys ++ [name]).count k = keys.count k + if k = name then 1 else 0 := by
    intro k
    rw [List.count_append, List.count_singleton]
    simp only [beq_iff_eq, @eq_comm _ name]
  rw [tally, countKey_map (nodup_eraseDups keys), tally, eraseDups_concat, List.map_append]
  simp only [hcount, List.mem_eraseDups]
  split
  · rfl
  · rename_i hmem
    rw [List.map_singleton, if_pos rfl, List.count_eq_zero.mpr hmem]

theorem byExtension_eq (files : List SourceFile) :
    (ofFiles files).byExtension = tally (files.map key) := by
  change files.foldl (fun counts f => countKey (key f) counts) [] = _
  induction files using List.reverseRecOn with
  | nil => rfl
  | append_singleton files f ih =>
    rw [List.foldl_append, ih, List.map_append, List.map_singleton, ← countKey_tally]
    rfl

theorem sum_countKey (name : Text) (counts : List (Text × Nat)) :
    ((countKey name counts).map (·.2)).sum = (counts.map (·.2)).sum + 1 := by
  induction counts with
  | nil => rfl
  | cons c counts ih =>
    rw [countKey]
    split
    · simp only [List.map_cons, List.sum_cons]
      omega
    · simp only [List.map_cons, List.sum_cons, ih]
      omega

/-- Each file is counted once. -/
theorem sum_byExtension (files : List SourceFile) :
    ((ofFiles files).byExtension.map (·.2)).sum = files.length := by
  change ((files.foldl (fun counts f => countKey (key f) counts) []).map (·.2)).sum = _
  induction files using List.reverseRecOn with
  | nil => rfl
  | append_singleton files f ih =>
    rw [List.foldl_append, List.foldl_cons, List.foldl_nil, sum_countKey, ih, List.length_append]
    rfl

theorem count_map_key (files : List SourceFile) (name : Text) :
    (files.map key).count name = files.countP (·.IsCountedAs name) := by
  rw [List.count, List.countP_map]
  refine List.countP_congr fun f _ => ?_
  rw [Function.comp_apply, beq_iff_eq, decide_eq_true_eq, isCountedAs_iff]

theorem lookup_tally (keys : List Text) (name : Text) :
    ((tally keys).lookup name).getD 0 = keys.count name := by
  have hlookup : ∀ names : List Text, ((names.map fun k => (k, keys.count k)).lookup name) =
      if name ∈ names then some (keys.count name) else none := by
    intro names
    induction names with
    | nil => rfl
    | cons k names ih =>
      rw [List.map_cons, List.lookup_cons, ih]
      by_cases hk : name = k
      · subst hk
        simp
      · have hbeq : (name == k) = false := beq_eq_false_iff_ne.mpr hk
        simp [hbeq, hk]
  rw [tally, hlookup]
  simp only [List.mem_eraseDups]
  split
  · rfl
  · rename_i hmem
    exact (List.count_eq_zero.mpr hmem).symm

theorem tally_perm (h : keys.Perm keys') : (tally keys).Perm (tally keys') := by
  rw [List.perm_ext_iff_of_nodup (nodup_tally keys) (nodup_tally keys')]
  rintro ⟨name, n⟩
  rw [mem_tally_iff, mem_tally_iff, h.count_eq]

/-! ## The order of the counts -/

/-- Whether a count stands before another one in a summary: it is larger, or its name is the
smaller one. -/
def Precedes (a b : Text × Nat) : Prop :=
  b.2 < a.2 ∨ a.2 = b.2 ∧ a.1 < b.1

theorem countLe_iff : countLe a b = true ↔ b.2 < a.2 ∨ a.2 = b.2 ∧ ¬ b.1 < a.1 := by
  have hname : (!List.lex b.1 a.1 (· < ·)) = true ↔ ¬ b.1 < a.1 := by
    rw [Bool.not_eq_true', ← Bool.not_eq_true, List.lex_eq_true_iff_lt]
  rw [countLe, Bool.or_eq_true, Bool.and_eq_true, decide_eq_true_eq, decide_eq_true_eq, hname]

theorem countLe_trans (a b c : Text × Nat) (hab : countLe a b = true) (hbc : countLe b c = true) :
    countLe a c = true := by
  rw [countLe_iff] at hab hbc ⊢
  rcases hab with hab | ⟨hab, hname⟩
  · rcases hbc with hbc | ⟨hbc, -⟩
    · exact .inl (Nat.lt_trans hbc hab)
    · exact .inl (hbc ▸ hab)
  · rcases hbc with hbc | ⟨hbc, hname'⟩
    · exact .inl (hab ▸ hbc)
    · exact .inr ⟨hab.trans hbc, List.le_trans hname hname'⟩

theorem countLe_total (a b : Text × Nat) : (countLe a b || countLe b a) = true := by
  rw [Bool.or_eq_true, countLe_iff, countLe_iff]
  rcases Nat.lt_trichotomy a.2 b.2 with hlt | heq | hlt
  · exact .inr (.inl hlt)
  · rcases List.le_total a.1 b.1 with hname | hname
    · exact .inl (.inr ⟨heq, hname⟩)
    · exact .inr (.inr ⟨heq.symm, hname⟩)
  · exact .inl (.inl hlt)

theorem countLe_antisymm (hab : countLe a b = true) (hba : countLe b a = true) : a = b := by
  rw [countLe_iff] at hab hba
  have hcount : a.2 = b.2 := by omega
  have hname : ¬ b.1 < a.1 := hab.elim (fun h => by omega) And.right
  have hname' : ¬ a.1 < b.1 := hba.elim (fun h => by omega) And.right
  exact Prod.ext (List.le_antisymm hname hname') hcount

theorem precedes_of_countLe (h : countLe a b = true) (hne : a ≠ b) : Precedes a b := by
  rcases countLe_iff.mp h with hcount | ⟨hcount, hname⟩
  · exact .inl hcount
  · refine .inr ⟨hcount, Decidable.by_contra fun hname' => hne ?_⟩
    exact Prod.ext (List.le_antisymm hname hname') hcount

theorem pairwise_mergeSort_countLe {counts : List (Text × Nat)} (h : counts.Nodup) :
    (counts.mergeSort countLe).Pairwise Precedes := by
  have hsorted := List.pairwise_mergeSort countLe_trans countLe_total counts
  have hnodup : (counts.mergeSort countLe).Nodup :=
    (List.mergeSort_perm counts countLe).nodup_iff.mpr h
  exact (hsorted.and hnodup).imp fun ⟨hle, hne⟩ => precedes_of_countLe hle hne

/-- Sorted counts do not tell in which order they were given. -/
theorem mergeSort_countLe_of_perm {counts counts' : List (Text × Nat)} (h : counts.Perm counts') :
    counts.mergeSort countLe = counts'.mergeSort countLe := by
  have hperm := (List.mergeSort_perm counts countLe).trans
    (h.trans (List.mergeSort_perm counts' countLe).symm)
  exact hperm.eq_of_pairwise (fun _ _ _ _ => countLe_antisymm)
    (List.pairwise_mergeSort countLe_trans countLe_total counts)
    (List.pairwise_mergeSort countLe_trans countLe_total counts')

/-! ## The summary -/

theorem size_ofFiles (h : (files.map (·.size)).sum < 2 ^ 64) :
    (ofFiles files).size = (files.map (·.size)).sum := by
  have hsum : files.foldr (fun f total => f.size + total) 0 = (files.map (·.size)).sum := by
    rw [List.sum_eq_foldr, List.foldr_map]
  change files.foldr (fun f total => f.size + total) 0 % Nat.pow 2 64 = _
  rw [hsum]
  exact Nat.mod_eq_of_lt h

/-- A listing whose size fits into 64 bits is counted as it is: its files, their size, and under
each name the files that have it.  The summary tells each name that comes up once, the larger
counts first and equal ones in the order of their names, whatever order the files and the counts
are in. -/
theorem summary_spec (files : List SourceFile) (h : (files.map (·.size)).sum < 2 ^ 64) :
    (ofFiles files).files = files.length ∧
    (ofFiles files).size = (files.map (·.size)).sum ∧
    (∀ name, ((ofFiles files).byExtension.lookup name).getD 0 =
      files.countP (·.IsCountedAs name)) ∧
    ((ofFiles files).byExtension.map (·.2)).sum = files.length ∧
    ∃ counts : List (Text × Nat),
      (∀ name n, (name, n) ∈ counts ↔ 0 < n ∧ n = files.countP (·.IsCountedAs name)) ∧
      counts.Pairwise Precedes ∧
      ∀ files' byExtension, files'.Perm files →
        byExtension.Perm (ofFiles files').byExtension →
        summary { ofFiles files' with byExtension := byExtension } =
          "Scan results: " ++ Text.ofNat files.length ++ " files, " ++
            Number.sizeText (files.map (·.size)).sum ++
            counts.flatMap fun (name, n) => (", " ++ name ++ ": " ++ Text.ofNat n : Text) := by
  refine ⟨rfl, size_ofFiles h, fun name => ?_, sum_byExtension files,
    (tally (files.map key)).mergeSort countLe, fun name n => ?_,
    pairwise_mergeSort_countLe (nodup_tally _), fun files' byExtension hfiles hcounts => ?_⟩
  · rw [byExtension_eq, lookup_tally, count_map_key]
  · rw [List.mem_mergeSort, mem_tally_iff, count_map_key]
  · have hsizes : (files'.map (·.size)).sum = (files.map (·.size)).sum :=
      (hfiles.map (·.size)).sum_nat
    have hsize : (ofFiles files').size = (files.map (·.size)).sum := by
      rw [← hsizes] at h
      rw [size_ofFiles h, hsizes]
    have hsorted : byExtension.mergeSort countLe = (tally (files.map key)).mergeSort countLe := by
      rw [byExtension_eq] at hcounts
      exact mergeSort_countLe_of_perm (hcounts.trans (tally_perm (hfiles.map key)))
    have hlength : (ofFiles files').files = files.length := hfiles.length_eq
    have htext : ∀ counts : List (Text × Nat), counts.flatMap countText =
        counts.flatMap fun (name, n) => (", " ++ name ++ ": " ++ Text.ofNat n : Text) :=
      fun _ => rfl
    unfold summary
    dsimp only
    rw [hsize, hsorted, hlength, htext]

def mixedFiles : List SourceFile :=
  [⟨Path.ofText "a.tsx", [Path.ofText "a.tsx"], 2048⟩,
    ⟨Path.ofText "Makefile", [Path.ofText "Makefile"], 0⟩,
    ⟨Path.ofText "b.TS", [Path.ofText "b.TS"], 100⟩,
    ⟨Path.ofText "c.ts", [Path.ofText "c.ts"], 200⟩]

def mixedCounts : List (Text × Nat) :=
  [("ts", 2), ("no_extension", 1), ("tsx", 1)]

theorem mergeSort_mixedFiles :
    (ofFiles mixedFiles).byExtension.mergeSort countLe = mixedCounts := by
  have hperm : (ofFiles mixedFiles).byExtension.Perm mixedCounts := by decide +kernel
  have hsorted : mixedCounts.Pairwise (countLe · ·) := by decide +kernel
  rw [mergeSort_countLe_of_perm hperm]
  exact List.mergeSort_of_pairwise hsorted

/-- The largest count comes first though it is met last, and the others by their names; files and
counts in another order are told alike. -/
theorem summary_spec_mixed :
    (mixedFiles.map (·.size)).sum < 2 ^ 64 ∧
    ((ofFiles mixedFiles).byExtension.lookup "ts".toList).getD 0 = 2 ∧
    ((ofFiles mixedFiles).byExtension.lookup "no_extension".toList).getD 0 = 1 ∧
    summary { ofFiles mixedFiles.reverse with byExtension := mixedCounts.reverse } =
      (ofFiles mixedFiles).summary ∧
    (ofFiles mixedFiles).summary =
      "Scan results: 4 files, 2.3 KB, ts: 2, no_extension: 1, tsx: 1".toList := by
  have hsize : (mixedFiles.map (·.size)).sum < 2 ^ 64 := by decide
  obtain ⟨-, -, hlookup, -, counts, -, -, hsummary⟩ := summary_spec mixedFiles hsize
  refine ⟨hsize, ?_, ?_, ?_, ?_⟩
  · rw [hlookup]
    decide +kernel
  · rw [hlookup]
    decide +kernel
  · have hsame := hsummary mixedFiles _ (.refl _) (.refl _)
    exact (hsummary mixedFiles.reverse _ (List.reverse_perm _) (by decide +kernel)).trans hsame.symm
  · unfold summary
    rw [mergeSort_mixedFiles]
    decide +kernel

end Statistics

end ImportCensus.Discovery
