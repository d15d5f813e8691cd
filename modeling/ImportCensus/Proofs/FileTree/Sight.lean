import ImportCensus.Proofs.Except
import ImportCensus.Proofs.FileTree.Order
/-!
# What a walk comes to

The files that a walk comes to are those of the tree, links left out or followed to where they
lead, as long as the walk fails nowhere.  In what order the entries of a folder are listed makes
no difference.
-/

namespace ImportCensus

def Node.size? : Node → Option Nat
  | .file content => some content.length
  | .blank size => some size
  | .sealed => some 0
  | .folder _ => none
  | .link _ => none

namespace FileTree

/-- What the entry at a path stands for: itself, or what a link leads to if links are followed. -/
def target? (root : FileTree) (follow : Bool) (shown : Path) : Node → Option Node
  | .link _ => if follow then (node root shown).toOption else none
  | n => some n

/-- Whether the names lead from a node, whose path is `shown`, to a file of the size. -/
def HasFile (root : FileTree) (follow : Bool) : Path → Node → List Name → Nat → Prop
  | _, n, [], size => n.size? = some size
  | shown, n, name :: rest, size =>
    ∃ child target, (name, child) ∈ n.entries ∧
      target? root follow (Path.join shown name) child = some target ∧
      HasFile root follow (Path.join shown name) target rest size

end FileTree

namespace Sight

def entries : Sight → List (Name × Sight)
  | folder es => es
  | _ => []

/-- Whether a walk that has come to `s` at `base` comes to `t` by going on along some names.  It
goes into the folders of which `goes` says so. -/
def Leads (goes : List Name → Prop) : List Name → Sight → List Name → Sight → Prop
  | _, s, [], t => s = t
  | base, s, name :: rest, t =>
    goes base ∧ ∃ child, (name, child) ∈ s.entries ∧ Leads goes (base ++ [name]) child rest t

def GoesAlong (goes : List Name → Prop) (base names : List Name) : Prop :=
  ∀ before name after, names = before ++ name :: after → goes (base ++ before)

variable {goes : List Name → Prop} {base names rest : List Name} {name : Name}

theorem goesAlong_nil : GoesAlong goes base [] := by
  intro before name after h
  simp at h

theorem goesAlong_cons :
    GoesAlong goes base (name :: rest) ↔ goes base ∧ GoesAlong goes (base ++ [name]) rest := by
  constructor
  · intro h
    refine ⟨by simpa using h [] name rest rfl, fun before name' after heq => ?_⟩
    simpa using h (name :: before) name' after (by rw [heq]; rfl)
  · rintro ⟨hbase, h⟩ before name' after heq
    cases before with
    | nil => simpa using hbase
    | cons b before =>
      obtain ⟨rfl, rfl⟩ := List.cons.inj heq
      simpa using h before name' after rfl

end Sight

namespace FileTree

variable {root : FileTree} {follow : Bool} {atLink : Position → Sight} {p : Position} {n : Node}
  {name : Name}

/-- What a walk may do at a link. -/
inductive IsRule (root : FileTree) : Bool → (Position → Sight) → Prop
  | passing : IsRule root false fun _ => .passed
  | following (hops : Nat) : IsRule root true (followed root hops)

/-- What a walk meets at the entry that a path leads to. -/
inductive Shows (root : FileTree) (follow : Bool) (shown : Path) : Node → Sight → Prop
  | file {n : Node} {size : Nat} (h : n.size? = some size) : Shows root follow shown n (.file size)
  | folder {es : List (Name × Node)} {atLink : Position → Sight} {p : Position}
    (hrule : IsRule root follow atLink) (hshown : p.shown = shown) :
    Shows root follow shown (.folder es) (.folder (sights atLink p es))

theorem isRule_linkRule (root : FileTree) (follow : Bool) :
    IsRule root follow (linkRule root follow) := by
  cases follow with
  | false => exact .passing
  | true => exact .following _

theorem mem_sights {es : List (Name × Node)} {s : Sight} :
    (name, s) ∈ sights atLink p es ↔ ∃ n, (name, n) ∈ es ∧ s = n.sight atLink (p.child name) := by
  induction es with
  | nil => simp [sights]
  | cons e es ih =>
    obtain ⟨name', n'⟩ := e
    simp only [sights, List.mem_cons, Prod.mk.injEq, ih]
    constructor
    · rintro (⟨rfl, rfl⟩ | ⟨n, hn, hs⟩)
      · exact ⟨n', Or.inl ⟨rfl, rfl⟩, rfl⟩
      · exact ⟨n, Or.inr hn, hs⟩
    · rintro ⟨n, ⟨rfl, rfl⟩ | hn, hs⟩
      · exact Or.inl ⟨rfl, hs⟩
      · exact Or.inr ⟨n, hn, hs⟩

theorem node_of_resolve {path : Path} {real : List Name} (hreal : resolve root path = .ok real)
    (hn : root.at? real = some n) : node root path = .ok n := by
  rw [node, bind_eq_ok_iff]
  refine ⟨real, hreal, ?_⟩
  rw [hn]

theorem node_root (es : List (Name × Node)) :
    node (.folder es) (Path.ofText "/") = .ok (.folder es) := by
  have hsteps : Path.steps (Path.ofText "/") = [Path.nothing] := by decide
  have hplace : place (.folder es) .finding (Path.ofText "/") = .ok (.found []) := by
    rw [place, if_neg (by decide), if_neg (by decide), if_neg (by decide), hsteps]
    simp [walk, Node.at?]
  rw [node, resolve, hplace]
  rfl

theorem followed_spec (root : FileTree) (hops : Nat) (p : Position) :
    (∃ error, followed root hops p = .failed error) ∨
      ∃ target, (node root p.shown).toOption = some target ∧
        Shows root true p.shown target (followed root hops p) := by
  cases hops with
  | zero => exact Or.inl ⟨_, rfl⟩
  | succ hops =>
    rw [followed]
    split
    · exact Or.inl ⟨_, rfl⟩
    · rename_i real hreal
      have hnode : ∀ n, root.at? real = some n → (node root p.shown).toOption = some n := by
        intro n hn
        rw [node_of_resolve hreal hn]
        rfl
      split
      · rename_i es hes
        split
        · exact Or.inl ⟨_, rfl⟩
        · exact Or.inr ⟨_, hnode _ hes, .folder (.following hops) rfl⟩
      · rename_i content hn
        exact Or.inr ⟨_, hnode _ hn, .file rfl⟩
      · rename_i size hn
        exact Or.inr ⟨_, hnode _ hn, .file rfl⟩
      · rename_i hn
        exact Or.inr ⟨_, hnode _ hn, .file rfl⟩
      · exact Or.inl ⟨_, rfl⟩

/-- At an entry a walk fails, passes it over, or meets what it stands for. -/
theorem sight_spec (hrule : IsRule root follow atLink) (n : Node) (p : Position) :
    (∃ error, n.sight atLink p = .failed error) ∨
      (target? root follow p.shown n = none ∧ n.sight atLink p = .passed) ∨
      ∃ target, target? root follow p.shown n = some target ∧
        Shows root follow p.shown target (n.sight atLink p) := by
  cases n with
  | file content => exact Or.inr (Or.inr ⟨_, rfl, .file rfl⟩)
  | blank size => exact Or.inr (Or.inr ⟨_, rfl, .file rfl⟩)
  | «sealed» => exact Or.inr (Or.inr ⟨_, rfl, .file rfl⟩)
  | folder es => exact Or.inr (Or.inr ⟨_, rfl, .folder hrule rfl⟩)
  | link target =>
    cases hrule with
    | passing => exact Or.inr (Or.inl ⟨rfl, rfl⟩)
    | following hops =>
      rcases followed_spec root hops p with hfailed | hshows
      · exact Or.inl hfailed
      · exact Or.inr (Or.inr hshows)

/-! ## The files that a walk comes to -/

section Files

open Sight

variable {goes : List Name → Prop} {base names : List Name} {shown : Path} {s : Sight}
  {size : Nat}

theorem not_leads_of_entries_eq_nil {t : Sight} {rest : List Name} (h : s.entries = []) :
    ¬ Leads goes base s (name :: rest) t := by
  rintro ⟨-, child, hchild, -⟩
  rw [h] at hchild
  cases hchild

theorem leads_sight_iff (hrule : IsRule root follow atLink) {child : Node}
    (hcalm : ∀ error, child.sight atLink p ≠ .failed error)
    (hfiles : ∀ target, Shows root follow p.shown target (child.sight atLink p) →
      (Leads goes base (child.sight atLink p) names (.file size) ↔
        HasFile root follow p.shown target names size ∧ GoesAlong goes base names)) :
    Leads goes base (child.sight atLink p) names (.file size) ↔
      ∃ target, target? root follow p.shown child = some target ∧
        HasFile root follow p.shown target names size ∧ GoesAlong goes base names := by
  rcases sight_spec hrule child p with
    ⟨error, hfailed⟩ | ⟨hnone, hpassed⟩ | ⟨target, htarget, hshows⟩
  · exact absurd hfailed (hcalm error)
  · rw [hpassed]
    constructor
    · intro h
      cases names with
      | nil => cases h
      | cons _ _ => exact absurd h (not_leads_of_entries_eq_nil rfl)
    · rintro ⟨target, htarget, -⟩
      cases hnone.symm.trans htarget
  · rw [hfiles target hshows]
    constructor
    · rintro ⟨hfile, halong⟩
      exact ⟨target, htarget, hfile, halong⟩
    · rintro ⟨_, htarget', hfile, halong⟩
      cases htarget.symm.trans htarget'
      exact ⟨hfile, halong⟩

/-- A walk that fails nowhere comes to the files on whose way it goes into all folders. -/
theorem leads_iff_hasFile (hshows : Shows root follow shown n s)
    (hcalm : ∀ rest error, ¬ Leads goes base s rest (.failed error)) :
    Leads goes base s names (.file size) ↔
      HasFile root follow shown n names size ∧ GoesAlong goes base names := by
  induction names generalizing base shown n s with
  | nil =>
    rw [Leads, HasFile]
    cases hshows with
    | file hsize => simp [hsize, goesAlong_nil]
    | folder hrule hshown => simp [Node.size?]
  | cons name rest ih =>
    rw [goesAlong_cons]
    cases hshows with
    | file hsize =>
      have hentries : n.entries = [] := by
        cases n <;> simp_all [Node.size?, Node.entries]
      constructor
      · exact fun h => absurd h (not_leads_of_entries_eq_nil rfl)
      · rintro ⟨⟨child, target, hchild, -⟩, -⟩
        rw [hentries] at hchild
        cases hchild
    | @folder es atLink p hrule hshown =>
      subst hshown
      by_cases hgoes : goes base
      · have hentry : ∀ child, (name, child) ∈ es →
            (Leads goes (base ++ [name]) (child.sight atLink (p.child name)) rest (.file size) ↔
              ∃ target, target? root follow (Path.join p.shown name) child = some target ∧
                HasFile root follow (Path.join p.shown name) target rest size ∧
                GoesAlong goes (base ++ [name]) rest) := by
          intro child hchild
          have hbelow : ∀ rest error,
              ¬ Leads goes (base ++ [name]) (child.sight atLink (p.child name)) rest
                (.failed error) := fun rest error hfailed =>
            hcalm (name :: rest) error
              ⟨hgoes, _, mem_sights.mpr ⟨child, hchild, rfl⟩, hfailed⟩
          exact leads_sight_iff hrule (fun error hfailed => hbelow [] error hfailed)
            fun target hshows => ih hshows hbelow
        constructor
        · rintro ⟨-, _, hseen, hleads⟩
          obtain ⟨child, hchild, rfl⟩ := mem_sights.mp hseen
          obtain ⟨target, htarget, hfile, halong⟩ := (hentry child hchild).mp hleads
          exact ⟨⟨child, target, hchild, htarget, hfile⟩, hgoes, halong⟩
        · rintro ⟨⟨child, target, hchild, htarget, hfile⟩, -, halong⟩
          refine ⟨hgoes, _, mem_sights.mpr ⟨child, hchild, rfl⟩, ?_⟩
          exact (hentry child hchild).mpr ⟨target, htarget, hfile, halong⟩
      · -- the walk leaves the folder out, so neither side holds
        constructor
        · exact fun h => absurd h.1 hgoes
        · exact fun h => absurd h.2.1 hgoes

theorem not_leads_failed (n : Node) (p : Position) (rest : List Name) (error : WalkError) :
    ¬ Leads goes base (n.sight (fun _ => .passed) p) rest (.failed error) := by
  induction rest generalizing base n p with
  | nil => cases n <;> simp [Leads, Node.sight]
  | cons name rest ih =>
    rintro ⟨-, child, hchild, hleads⟩
    cases n with
    | folder es =>
      obtain ⟨m, -, rfl⟩ := mem_sights.mp hchild
      exact ih m (p.child name) hleads
    | _ => cases hchild

end Files

/-! ## The order of entries -/

section Order

open Sight

variable {root' : FileTree} {atLink' : Position → Sight} {n' : Node}

inductive SameRule (root root' : FileTree) : (Position → Sight) → (Position → Sight) → Prop
  | passing : SameRule root root' (fun _ => .passed) (fun _ => .passed)
  | following (hops : Nat) : SameRule root root' (followed root hops) (followed root' hops)

/-- What a walk meets at the same place of two trees that differ in the order of entries only. -/
inductive SameSight (root root' : FileTree) : Sight → Sight → Prop
  | leaf {s : Sight} (h : ∀ es, s ≠ .folder es) : SameSight root root' s s
  | folder {es es' : List (Name × Node)} {atLink atLink' : Position → Sight} {p : Position}
    (htidy : (Node.folder es).IsTidy) (hre : (Node.folder es).IsReordered (.folder es'))
    (hrule : SameRule root root' atLink atLink') :
    SameSight root root' (.folder (sights atLink p es)) (.folder (sights atLink' p es'))

theorem SameRule.symm (h : SameRule root root' atLink atLink') :
    SameRule root' root atLink' atLink := by
  cases h with
  | passing => exact .passing
  | following hops => exact .following hops

theorem SameSight.symm {s s' : Sight} (h : SameSight root root' s s') :
    SameSight root' root s' s := by
  cases h with
  | leaf hleaf => exact .leaf hleaf
  | folder htidy hre hrule => exact .folder (hre.tidy htidy) hre.symm hrule.symm

theorem SameSight.eq_of_leaf {s s' : Sight} (h : SameSight root root' s s')
    (hleaf : ∀ es, s ≠ .folder es) : s' = s := by
  cases h with
  | leaf _ => rfl
  | folder => exact absurd rfl (hleaf _)

theorem sameSight_followed (h : root.IsReordered root') (ht : root.IsTidy) (hops : Nat)
    (p : Position) : SameSight root root' (followed root hops p) (followed root' hops p) := by
  cases hops with
  | zero => exact .leaf (by simp [followed])
  | succ hops =>
    rw [followed, followed, resolve_reordered h]
    cases resolve root' p.shown with
    | error cause => exact .leaf (by simp)
    | ok real =>
      dsimp only
      cases hm : root.at? real with
      | none =>
        rw [h.at?_eq_none hm]
        exact .leaf (by simp)
      | some m =>
        obtain ⟨m', hm', hre⟩ := h.at? hm
        rw [hm']
        obtain ⟨rfl, hleaf⟩ | ⟨es, es', rfl, rfl⟩ := hre.cases
        · cases m' with
          | folder es => cases hleaf
          | _ => exact .leaf (by simp)
        · cases p.around.lookup real with
          | some ancestor =>
            dsimp only
            exact .leaf (by simp)
          | none =>
            dsimp only
            exact .folder (ht.at? hm) hre (.following hops)

theorem sameSight_sight (h : root.IsReordered root') (ht : root.IsTidy)
    (hrule : SameRule root root' atLink atLink') (hn : n.IsTidy) (hre : n.IsReordered n')
    (p : Position) : SameSight root root' (n.sight atLink p) (n'.sight atLink' p) := by
  obtain ⟨rfl, hleaf⟩ | ⟨es, es', rfl, rfl⟩ := hre.cases
  · cases n' with
    | folder es => cases hleaf
    | link target =>
      cases hrule with
      | passing => exact .leaf (by simp [Node.sight])
      | following hops => exact sameSight_followed h ht hops p
    | _ => exact .leaf (by simp [Node.sight])
  · exact .folder hn hre hrule

/-- Wherever a walk comes to in one tree, it comes to the same in the other. -/
theorem leads_reordered (h : root.IsReordered root') (ht : root.IsTidy)
    {goes : List Name → Prop} {base rest : List Name} {s s' t : Sight}
    (hs : SameSight root root' s s') (hleads : Leads goes base s rest t) :
    ∃ t', Leads goes base s' rest t' ∧ SameSight root root' t t' := by
  induction rest generalizing base s s' with
  | nil =>
    obtain rfl := hleads
    exact ⟨s', rfl, hs⟩
  | cons name rest ih =>
    obtain ⟨hgoes, child, hchild, hleads⟩ := hleads
    cases hs with
    | leaf hleaf =>
      cases s with
      | folder es => exact absurd rfl (hleaf es)
      | _ => cases hchild
    | @folder es es' atLink atLink' p htidy hre hrule =>
      obtain ⟨n, hn, rfl⟩ := mem_sights.mp hchild
      obtain ⟨n', hn', hbelow⟩ := hre.exists_mem htidy hn
      have hsame := sameSight_sight h ht hrule (htidy.of_mem hn) hbelow (p.child name)
      obtain ⟨t', hleads', ht'⟩ := ih hsame hleads
      exact ⟨t', ⟨hgoes, _, mem_sights.mpr ⟨n', hn', rfl⟩, hleads'⟩, ht'⟩

theorem leads_iff_reordered (h : root.IsReordered root') (ht : root.IsTidy)
    {goes : List Name → Prop} {base rest : List Name} {s s' t : Sight}
    (hs : SameSight root root' s s') (hleaf : ∀ es, t ≠ .folder es) :
    Leads goes base s rest t ↔ Leads goes base s' rest t := by
  constructor
  · intro hleads
    obtain ⟨t', hleads', ht'⟩ := leads_reordered h ht hs hleads
    exact ht'.eq_of_leaf hleaf ▸ hleads'
  · intro hleads
    obtain ⟨t', hleads', ht'⟩ := leads_reordered h.symm (h.tidy ht) hs.symm hleads
    exact ht'.eq_of_leaf hleaf ▸ hleads'

theorem map_fst_sights (atLink : Position → Sight) (p : Position) (es : List (Name × Node)) :
    (sights atLink p es).map Prod.fst = es.map Prod.fst := by
  induction es with
  | nil => rfl
  | cons e es ih => rw [sights, List.map_cons, List.map_cons, ih]

theorem nodup_of_leads (ht : root.IsTidy) {goes : List Name → Prop} {base rest : List Name}
    {s : Sight} {seen : List (Name × Sight)} (hs : SameSight root root s s)
    (hleads : Leads goes base s rest (.folder seen)) :
    (seen.map Prod.fst).Nodup ∧ ∀ e ∈ seen, Path.slash ∉ e.1 := by
  obtain ⟨t', -, hsame⟩ := leads_reordered (.refl root) ht hs hleads
  cases hsame with
  | leaf hleaf => exact absurd rfl (hleaf seen)
  | @folder es es' atLink atLink' p htidy hre hrule =>
    refine ⟨map_fst_sights atLink p es ▸ htidy.nodup, fun e he => ?_⟩
    obtain ⟨n, hn, -⟩ := mem_sights.mp he
    exact (htidy [] es rfl).2 _ hn

theorem sameRule_linkRule (h : root.IsReordered root') (ht : root.IsTidy) (follow : Bool) :
    SameRule root root' (linkRule root follow) (linkRule root' follow) := by
  cases follow with
  | false => exact .passing
  | true =>
    rw [linkRule, linkRule, h.folderCount_eq ht]
    exact .following _

end Order

/-! ## Surveys -/

section Survey

variable {root' : FileTree} {path : Path} {es : List (Name × Node)}

theorem survey_of_node (hnode : node root path = .ok (.folder es)) (follow : Bool) :
    ∃ real, resolve root path = .ok real ∧ root.at? real = some (.folder es) ∧
      survey root follow path = .ok (sights (linkRule root follow) ⟨path, real, []⟩ es) := by
  obtain ⟨real, hreal, hfound⟩ := bind_eq_ok_iff.mp hnode
  split at hfound
  · rename_i n hn
    cases hfound
    refine ⟨real, hreal, hn, ?_⟩
    rw [survey, hreal]
    dsimp only
    rw [hn]
  · cases hfound

theorem sights_of_survey {seen : List (Name × Sight)} (h : survey root follow path = .ok seen) :
    ∃ real es, root.at? real = some (.folder es) ∧
      seen = sights (linkRule root follow) ⟨path, real, []⟩ es := by
  rw [survey] at h
  split at h
  · cases h
  · rename_i real hreal
    split at h
    · rename_i es hes
      cases h
      exact ⟨real, es, hes, rfl⟩
    · cases h
    · cases h

/-- What a walk meets below a folder is the same in both trees. -/
theorem survey_reordered (h : root.IsReordered root') (ht : root.IsTidy)
    (hnode : node root path = .ok (.folder es)) (follow : Bool) :
    ∃ es' seen seen', node root' path = .ok (.folder es') ∧
      survey root follow path = .ok seen ∧ survey root' follow path = .ok seen' ∧
      SameSight root root' (.folder seen) (.folder seen') := by
  obtain ⟨real, hreal, hes, hseen⟩ := survey_of_node hnode follow
  obtain ⟨m', hm', hre⟩ := h.at? hes
  obtain ⟨-, hleaf⟩ | ⟨_, es', hfolder, rfl⟩ := hre.cases
  · cases hleaf
  cases hfolder
  have hre_resolve := resolve_reordered h path
  have hnode' : node root' path = .ok (.folder es') :=
    node_of_resolve (hre_resolve.symm.trans hreal) hm'
  obtain ⟨real', hreal', -, hseen'⟩ := survey_of_node hnode' follow
  obtain rfl := Except.ok.inj (hreal.symm.trans (hre_resolve.trans hreal'))
  exact ⟨es', _, _, hnode', hseen, hseen', .folder (ht.at? hes) hre (sameRule_linkRule h ht follow)⟩

theorem sameSight_survey (ht : root.IsTidy) (hnode : node root path = .ok (.folder es))
    {seen : List (Name × Sight)} (hseen : survey root follow path = .ok seen) :
    SameSight root root (.folder seen) (.folder seen) := by
  obtain ⟨_, seen₁, seen₂, -, h₁, h₂, hsame⟩ := survey_reordered (.refl root) ht hnode follow
  obtain rfl := Except.ok.inj (h₁.symm.trans hseen)
  obtain rfl := Except.ok.inj (h₂.symm.trans hseen)
  exact hsame

end Survey

end FileTree

end ImportCensus
