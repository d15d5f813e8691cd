import ImportCensus.Proofs.Glob.Shortening
/-!
# Room for the globs of a scan

Globs that fit together do so when some of them are left out.  The globs for folders ask for no
room of their own: each of them that needs an expression is the beginning of a glob for all that is
below the folder, and that one needs an expression, too.
-/

namespace ImportCensus

/-! ## Parts of globs -/

namespace Glob.ArePartsOf

variable {g : Glob} {xs ys : List Glob}

theorem of_sublist (h : xs.Sublist ys) : ArePartsOf xs ys := by
  induction h with
  | slnil => exact .nil
  | cons y _ ih => exact .skip y ih
  | cons_cons y _ ih => exact .part rfl (List.prefix_refl _) ih

theorem filterMap {α : Type} {items : List α} {f f' : α → Option Glob}
    (h : ∀ i ∈ items, ∀ x, f i = some x →
      ∃ y, f' i = some y ∧ x.fold = y.fold ∧ x.tokens <+: y.tokens) :
    ArePartsOf (items.filterMap f) (items.filterMap f') := by
  induction items with
  | nil => exact .nil
  | cons i items ih =>
    have hrest := ih fun j hj => h j (List.mem_cons_of_mem i hj)
    cases hf : f i with
    | some x =>
      obtain ⟨y, hf', hfold, htokens⟩ := h i List.mem_cons_self x hf
      rw [List.filterMap_cons_some hf, List.filterMap_cons_some hf']
      exact .part hfold htokens hrest
    | none =>
      rw [List.filterMap_cons_none hf]
      cases hf' : f' i with
      | none => rwa [List.filterMap_cons_none hf']
      | some y =>
        rw [List.filterMap_cons_some hf']
        exact .skip y hrest

end Glob.ArePartsOf

/-! ## Sets that fit -/

namespace GlobSet.Fits

open Glob (ArePartsOf Capacity)

variable {g : Glob} {xs ys : List Glob}

theorem filter_strategy_sublist {t : Glob.Strategy} (ht : t.usesExpression = true) :
    (xs.filter (·.strategy = t)).Sublist (xs.filter (·.strategy.usesExpression)) := by
  refine List.monotone_filter_right _ fun g hg => ?_
  rw [decide_eq_true_eq] at hg
  rw [hg, ht]

variable [Capacity]

theorem of_sublist (h : Fits ys) (hsub : xs.Sublist ys) : Fits xs where
  alone g hg := h.alone g (hsub.subset hg)
  names := Capacity.admits_of_areParts (.of_sublist (hsub.filter _)) h.names
  paths := Capacity.admits_of_areParts (.of_sublist (hsub.filter _)) h.paths

/-- Globs fit if there is room for all of their expressions in one automaton. -/
theorem of_admits (h : Capacity.admits (xs.filter (·.strategy.usesExpression)) = true) :
    Fits xs where
  alone g hg halone := by
    rw [standsAlone, Bool.and_eq_true] at halone
    have hmem : g ∈ xs.filter (·.strategy.usesExpression) :=
      List.mem_filter.mpr ⟨hg, halone.2⟩
    exact Capacity.admits_of_areParts (.of_sublist (List.singleton_sublist.mpr hmem)) h
  names := Capacity.admits_of_areParts (.of_sublist (filter_strategy_sublist rfl)) h
  paths := Capacity.admits_of_areParts (.of_sublist (filter_strategy_sublist rfl)) h

end GlobSet.Fits

/-! ## The globs of a scan -/

namespace Discovery.FileFilter

variable {fold : Bool} {text : Text} {texts : List Text} {g : Glob}

def glob? (fold : Bool) (text : Text) : Option Glob :=
  (Glob.compile fold text).toOption

theorem glob?_eq_some_iff : glob? fold text = some g ↔ Glob.compile fold text = .ok g :=
  toOption_eq_some_iff

/-- The globs that some texts give; a text that is none gives nothing. -/
def globsOf (fold : Bool) (texts : List Text) : List Glob :=
  texts.filterMap (glob? fold)

theorem forall₂_globsOf (h : ∀ text ∈ texts, ∃ g, Glob.compile fold text = .ok g) :
    List.Forall₂ (fun text g => Glob.compile fold text = .ok g) texts (globsOf fold texts) := by
  induction texts with
  | nil => exact .nil
  | cons text texts ih =>
    obtain ⟨g, hg⟩ := h text List.mem_cons_self
    rw [globsOf, List.filterMap_cons_some (glob?_eq_some_iff.mpr hg)]
    exact .cons hg (ih fun text' htext => h text' (List.mem_cons_of_mem text htext))

theorem globsOf_eq {globs : List Glob}
    (h : List.Forall₂ (fun text g => Glob.compile fold text = .ok g) texts globs) :
    globsOf fold texts = globs := by
  induction h with
  | nil => rfl
  | cons hg _ ih =>
    rw [← ih, globsOf, List.filterMap_cons_some (glob?_eq_some_iff.mpr hg)]
    rfl

/-- Whether there is room for the automata of the globs that some texts give. -/
def FitTogether [Glob.Capacity] (fold : Bool) (texts : List Text) : Prop :=
  GlobSet.Fits (globsOf fold texts)

theorem fitTogether_singleton_iff [Glob.Capacity] (hg : Glob.compile fold text = .ok g) :
    FitTogether fold [text] ↔ GlobSet.Fits [g] := by
  rw [FitTogether, globsOf_eq (.cons hg .nil)]

def folderExpression? (fold : Bool) (glob : Text) : Option Glob :=
  ((folderGlob? glob).bind (glob? fold)).filter (·.strategy.usesExpression)

def pathExpression? (fold : Bool) (glob : Text) : Option Glob :=
  (glob? fold glob).filter (·.strategy = .expression)

theorem folderExpression?_isPart {glob : Text} (h : folderExpression? fold glob = some g) :
    ∃ g', pathExpression? fold glob = some g' ∧ g.fold = g'.fold ∧ g.tokens <+: g'.tokens := by
  obtain ⟨hbind, huses⟩ := Option.filter_eq_some_iff.mp h
  obtain ⟨folder, hstrip, hglob⟩ := Option.bind_eq_some_iff.mp hbind
  obtain ⟨rfl, hne⟩ := folderGlob?_eq_some_iff.mp hstrip
  have hg := glob?_eq_some_iff.mp hglob
  obtain ⟨g', hg'⟩ := Glob.exists_compile_below hg
  refine ⟨g', ?_, Glob.tokens_below hg hg'⟩
  rw [pathExpression?, glob?_eq_some_iff.mpr hg', Option.filter_eq_some_iff]
  exact ⟨rfl, decide_eq_true (Glob.strategy_below hg hg' hne huses)⟩

theorem fitTogether_folders [Glob.Capacity] (h : FitTogether fold texts) :
    FitTogether fold (texts.filterMap folderGlob?) := by
  have hfolders : (globsOf fold (texts.filterMap folderGlob?)).filter
      (·.strategy.usesExpression) = texts.filterMap (folderExpression? fold) := by
    rw [globsOf, List.filterMap_filterMap, List.filter_filterMap]
    rfl
  have hpaths : (globsOf fold texts).filter (·.strategy = .expression) =
      texts.filterMap (pathExpression? fold) := by
    rw [globsOf, List.filter_filterMap]
    rfl
  have hroom := h.paths
  rw [hpaths] at hroom
  apply GlobSet.Fits.of_admits
  rw [hfolders]
  exact Glob.Capacity.admits_of_areParts
    (.filterMap fun glob _ _ hg => folderExpression?_isPart hg) hroom

/-! ## Question marks -/

def questionMarks (n : Nat) : Text :=
  List.replicate n '?'

def questionGlob (n : Nat) : Glob :=
  ⟨questionMarks n, true, List.replicate n .anyByte⟩

theorem foldlM_questionMarks (n : Nat) {r : Glob.Reader} (hmode : r.mode = .plain) :
    ∃ r', (questionMarks n).foldlM Glob.Reader.step r = .ok r' ∧ r'.mode = .plain ∧
      r'.outer = r.outer ∧
      r'.current.tokens = r.current.tokens ++ List.replicate n .anyByte := by
  induction n generalizing r with
  | zero => exact ⟨r, rfl, hmode, rfl, (List.append_nil _).symm⟩
  | succ n ih =>
    have hstep : r.step '?' = .ok { r.push .anyByte with last := some '?', mode := .plain } := by
      rw [Glob.Reader.step, hmode]
      rfl
    obtain ⟨r', hr', hmode', houter, htokens⟩ :=
      ih (r := { r.push .anyByte with last := some '?', mode := .plain }) rfl
    refine ⟨r', foldlM_cons_eq_ok_iff.mpr ⟨_, hstep, hr'⟩, hmode', houter, ?_⟩
    rw [htokens, List.replicate_succ]
    exact List.append_assoc _ _ _

theorem compile_questionMarks (n : Nat) :
    Glob.compile true (questionMarks n) = .ok (questionGlob n) := by
  obtain ⟨r, hr, hmode, houter, htokens⟩ :=
    foldlM_questionMarks n (r := {}) rfl
  have hparse : Glob.parse (questionMarks n) = .ok (List.replicate n .anyByte) := by
    refine bind_eq_ok_iff.mpr ⟨r, hr, ?_⟩
    have hsettle : r.settle = .ok r := by
      rw [Glob.Reader.settle, hmode]
    rw [Glob.Reader.finish, hsettle]
    change (if r.outer.isEmpty then _ else _) = _
    rw [houter, htokens]
    rfl
  rw [Glob.compile, hparse]
  rfl

theorem strategy_questionGlob {n : Nat} (hn : n ≠ 0) :
    (questionGlob n).strategy = .expression := by
  obtain ⟨m, rfl⟩ := Nat.exists_eq_succ_of_ne_zero hn
  rfl

theorem depth_questionGlob_le (n : Nat) : Glob.depth (questionGlob n).tokens ≤ 2 := by
  have hmax : ∀ d ≤ 1, (Glob.seqDepths (List.replicate n .anyByte)).foldl max d ≤ 1 := by
    induction n with
    | zero => exact fun d hd => hd
    | succ n ih => exact fun d hd => ih _ (Nat.max_le.mpr ⟨hd, Nat.le_refl 1⟩)
  exact Nat.succ_le_succ (hmax 0 (Nat.zero_le 1))

theorem states_questionGlob (n : Nat) : (questionGlob n).states = 2 * n + 5 := by
  have hstates : Glob.seqStates true (List.replicate n .anyByte) = 2 * n := by
    induction n with
    | zero => rfl
    | succ n ih =>
      rw [List.replicate_succ, Glob.seqStates, ih, Glob.Token.states]
      omega
  rw [Glob.states]
  exact congrArg (· + 5) hstates

theorem totalStates_replicate (k : Nat) (g : Glob) :
    Glob.totalStates (List.replicate k g) = k * g.states := by
  induction k with
  | zero => rw [List.replicate_zero, Nat.zero_mul, Glob.totalStates]
  | succ k ih => rw [List.replicate_succ, Glob.totalStates, ih, Nat.succ_mul, Nat.add_comm]

/-- Every mark takes two states, so a glob of many may fit alone and not beside another one. -/
theorem fitTogether_questionMarks_iff {k n : Nat} (hn : n ≠ 0) :
    FitTogether true (List.replicate k (questionMarks n)) ↔
      k * (2 * n + 5) ≤ Glob.maxStates := by
  have hglobs : globsOf true (List.replicate k (questionMarks n)) =
      List.replicate k (questionGlob n) :=
    List.filterMap_replicate_of_some (glob?_eq_some_iff.mpr (compile_questionMarks n))
  have htotal : Glob.totalStates (List.replicate k (questionGlob n)) = k * (2 * n + 5) := by
    rw [totalStates_replicate, states_questionGlob]
  have hroom : Glob.Capacity.admits (List.replicate k (questionGlob n)) = true ↔
      k * (2 * n + 5) ≤ Glob.maxStates := by
    rw [← htotal]
    exact decide_eq_true_iff
  have hstrategy := strategy_questionGlob hn
  have hpaths : (List.replicate k (questionGlob n)).filter (·.strategy = .expression) =
      List.replicate k (questionGlob n) := by
    rw [List.filter_replicate_of_pos (by rw [hstrategy]; rfl)]
  have huses : (List.replicate k (questionGlob n)).filter (·.strategy.usesExpression) =
      List.replicate k (questionGlob n) := by
    rw [List.filter_replicate_of_pos (by rw [hstrategy]; rfl)]
  rw [FitTogether, hglobs, ← hroom]
  constructor
  · intro hfits
    have hpathsFit := hfits.paths
    rwa [hpaths] at hpathsFit
  · intro hadmits
    apply GlobSet.Fits.of_admits
    rwa [huses]

end Discovery.FileFilter

end ImportCensus
