import ImportCensus.Proofs.Discovery.Compiling
import ImportCensus.Proofs.Glob.Below
/-!
# Globs cut short

A glob for all that is below a folder, cut down to one for the folder, stays well formed and is
nested no deeper, unless the cut is in the middle of an escape.
-/

namespace ImportCensus.Glob

open Discovery.FileFilter (belowFolder)

/-- Whether a text ends in the middle of an escape, where it is not within a class: the number of
backslashes at its end is odd. -/
def LeavesEscape (text : Text) : Prop :=
  (text.reverse.takeWhile (· == '\\')).length % 2 = 1

instance : DecidablePred LeavesEscape := fun _ => inferInstanceAs (Decidable (_ = _))

theorem leavesEscape_concat_backslash {text : Text} :
    LeavesEscape (text ++ ['\\']) ↔ ¬ LeavesEscape text := by
  unfold LeavesEscape
  rw [List.reverse_concat, List.takeWhile_cons_of_pos (by rfl), List.length_cons]
  omega

theorem not_leavesEscape_concat {text : Text} {c : Char} (hc : c ≠ '\\') :
    ¬ LeavesEscape (text ++ [c]) := by
  unfold LeavesEscape
  rw [List.reverse_concat, List.takeWhile_cons_of_neg (by simpa using hc)]
  decide

/-! ## What a character does -/

namespace Mode

def isSettled (mode : Mode) : Bool :=
  mode.open?.isSome

def isClass : Mode → Bool
  | bracket => true
  | inClass .. => true
  | _ => false

end Mode

/-- How a character takes a reader from one mode to another, as far as classes and escapes go. -/
inductive Follows (c : Char) : Mode → Mode → Prop
  | goes {m m' : Mode} (hm : m.isSettled = true) (hm' : m'.isSettled = true) (hc : c ≠ '\\') :
    Follows c m m'
  | opensClass {m m' : Mode} (hm : m.isSettled = true) (hm' : m'.isClass = true) (hc : c = '[') :
    Follows c m m'
  | opensEscape {m : Mode} (hm : m.isSettled = true) (hc : c = '\\') : Follows c m .escaped
  | closesEscape : Follows c .escaped .plain
  | stays {m m' : Mode} (hm : m.isClass = true) (hm' : m'.isClass = true) : Follows c m m'
  | closesClass {m : Mode} (hm : m.isClass = true) (hc : c = ']') : Follows c m .plain

def isBrace (c : Char) : Bool :=
  c == '\x7b' || c == '\x7d'

namespace Reader

variable {r r' : Reader} {c : Char} {text : Text}

/-- What a character does to the mode, and that only braces open and close groups. -/
def Takes (r : Reader) (c : Char) (r' : Reader) : Prop :=
  Follows c r.mode r'.mode ∧ (isBrace c = false → r'.outer = r.outer)

theorem takes_of_stepPlain (hmode : r.mode.isSettled = true) (h : r.stepPlain c = .ok r') :
    r.Takes c r' := by
  unfold stepPlain at h
  split at h
  · cases h
    exact ⟨.goes hmode rfl (by decide), fun _ => rfl⟩
  · cases h
    exact ⟨.goes hmode rfl (by decide), fun _ => rfl⟩
  · cases h
    exact ⟨.opensClass hmode rfl rfl, fun _ => rfl⟩
  · cases h
    exact ⟨.goes hmode rfl (by decide), fun hbrace => absurd hbrace (by decide)⟩
  · split at h
    · cases h
    · cases h
      exact ⟨.goes hmode rfl (by decide), fun hbrace => absurd hbrace (by decide)⟩
  · split at h
    · cases h
      exact ⟨.goes hmode rfl (by decide), fun _ => rfl⟩
    · cases h
      exact ⟨.goes hmode rfl (by decide), fun _ => rfl⟩
  · cases h
    exact ⟨.opensEscape hmode rfl, fun _ => rfl⟩
  · rename_i hescape
    cases h
    exact ⟨.goes hmode rfl hescape, fun _ => rfl⟩

theorem takes_of_stepStars {before : Option Char} (hmode : r.mode = .stars before)
    (h : r.stepStars before c = .ok r') : r.Takes c r' := by
  have hsettled : r.mode.isSettled = true := by
    rw [hmode]
    rfl
  have hplain : ∀ {q : Reader}, q.mode = r.mode → q.outer = r.outer → q.stepPlain c = .ok r' →
      r.Takes c r' := by
    intro q hq houter h
    obtain ⟨hfollows, hbraces⟩ := takes_of_stepPlain (hq.symm ▸ hsettled) h
    exact ⟨hq ▸ hfollows, fun hbrace => (hbraces hbrace).trans houter⟩
  unfold stepStars at h
  split at h
  · split at h
    · rename_i hc
      cases h
      exact ⟨.goes hsettled rfl (by rw [hc]; decide), fun _ => rfl⟩
    · exact hplain (q := (r.push .run).push .run) rfl rfl h
  · split at h
    · exact hplain (q := (r.push .run).push .run) rfl rfl h
    · split at h
      · rename_i hc
        cases h
        exact ⟨.goes hsettled rfl (by rw [hc]; decide), fun _ => rfl⟩
      · split at h
        · exact hplain (q := r.relink .trailing) rfl rfl h
        · exact hplain (q := (r.push .run).push .run) rfl rfl h

theorem takes_of_stepClass {negated first dash : Bool} {ranges : List (Char × Char)}
    (hmode : r.mode.isClass = true) (h : r.stepClass negated ranges first dash c = .ok r') :
    r.Takes c r' := by
  unfold stepClass at h
  split at h
  · rename_i hend
    rw [Bool.and_eq_true, decide_eq_true_eq] at hend
    cases h
    exact ⟨.closesClass hmode hend.1, fun _ => rfl⟩
  · split at h
    · cases h
      exact ⟨.stays hmode rfl, fun _ => rfl⟩
    · split at h
      · obtain ⟨ranges', -, h⟩ := bind_eq_ok_iff.mp h
        cases h
        exact ⟨.stays hmode rfl, fun _ => rfl⟩
      · cases h
        exact ⟨.stays hmode rfl, fun _ => rfl⟩

theorem takes_of_step (h : r.step c = .ok r') : r.Takes c r' := by
  unfold step at h
  split at h
  · rename_i hmode
    exact takes_of_stepPlain (by rw [hmode]; rfl) h
  · rename_i hmode
    cases h
    exact ⟨hmode ▸ .closesEscape, fun _ => rfl⟩
  · rename_i hmode
    have hsettled : r.mode.isSettled = true := by
      rw [hmode]
      rfl
    split at h
    · rename_i hc
      cases h
      exact ⟨.goes hsettled rfl (by rw [hc]; decide), fun _ => rfl⟩
    · exact takes_of_stepPlain (r := r.push .run) hsettled h
  · rename_i hmode
    exact takes_of_stepStars hmode h
  · rename_i hmode
    have hclass : r.mode.isClass = true := by
      rw [hmode]
      rfl
    split at h
    · cases h
      exact ⟨.stays hclass rfl, fun _ => rfl⟩
    · exact takes_of_stepClass hclass h
  · rename_i hmode
    exact takes_of_stepClass (by rw [hmode]; rfl) h

end Reader

/-! ## Cutting off the end -/

section Cutting

variable {r r' : Reader} {c : Char} {text folder : Text} {m m' : Mode} {tokens : List Token}

theorem Mode.isSettled_or (m : Mode) : m.isSettled = true ∨ m = .escaped ∨ m.isClass = true := by
  cases m with
  | escaped => exact Or.inr (Or.inl rfl)
  | bracket => exact Or.inr (Or.inr rfl)
  | inClass => exact Or.inr (Or.inr rfl)
  | _ => exact Or.inl rfl

theorem Mode.not_isSettled_of_isClass (h : m.isClass = true) : ¬ m.isSettled = true := by
  cases m with
  | bracket => decide
  | inClass => exact Bool.false_ne_true
  | _ => cases h

theorem Follows.isClass (h : Follows c m m') (hm : m.isClass = true) (hc : c ≠ ']') :
    m'.isClass = true := by
  cases h with
  | goes hm' => exact absurd hm' (Mode.not_isSettled_of_isClass hm)
  | opensClass hm' hclass => exact hclass
  | opensEscape hm' => exact absurd hm' (Mode.not_isSettled_of_isClass hm)
  | closesEscape => cases hm
  | stays hm' hclass => exact hclass
  | closesClass hm' hc' => exact absurd hc' hc

/-- While a text is read, an escape is open only where the backslashes at its end leave one
open. -/
structure TracksEscape (text : Text) (m : Mode) : Prop where
  escaped : m = .escaped → LeavesEscape text
  settled : m.isSettled = true → ¬ LeavesEscape text

theorem tracksEscape_of_isClass (h : m.isClass = true) : TracksEscape text m := by
  refine ⟨?_, fun hsettled => absurd hsettled (Mode.not_isSettled_of_isClass h)⟩
  rintro rfl
  cases h

theorem tracksEscape_of_isSettled (h : m.isSettled = true) (htext : ¬ LeavesEscape text) :
    TracksEscape text m := by
  refine ⟨?_, fun _ => htext⟩
  rintro rfl
  cases h

theorem TracksEscape.follows (h : TracksEscape text m) (hfollows : Follows c m m') :
    TracksEscape (text ++ [c]) m' := by
  cases hfollows with
  | goes hm hm' hc => exact tracksEscape_of_isSettled hm' (not_leavesEscape_concat hc)
  | opensClass hm hm' hc => exact tracksEscape_of_isClass hm'
  | opensEscape hm hc =>
    subst hc
    exact ⟨fun _ => leavesEscape_concat_backslash.mpr (h.settled hm), nofun⟩
  | closesEscape =>
    apply tracksEscape_of_isSettled rfl
    by_cases hc : c = '\\'
    · subst hc
      exact fun hleaves => leavesEscape_concat_backslash.mp hleaves (h.escaped rfl)
    · exact not_leavesEscape_concat hc
  | stays hm hm' => exact tracksEscape_of_isClass hm'
  | closesClass hm hc =>
    subst hc
    exact tracksEscape_of_isSettled rfl (not_leavesEscape_concat (by decide))

theorem tracksEscape_of_foldlM (h : text.foldlM Reader.step {} = .ok r) :
    TracksEscape text r.mode := by
  induction text using List.reverseRecOn generalizing r with
  | nil =>
    cases h
    exact tracksEscape_of_isSettled rfl (by decide)
  | append_singleton text c ih =>
    obtain ⟨before, hbefore, hafter⟩ := foldlM_concat_eq_ok_iff.mp h
    exact (ih hbefore).follows (Reader.takes_of_step hafter).1

theorem foldlM_quiet (htext : ∀ c ∈ text, isBrace c = false ∧ c ≠ ']')
    (h : text.foldlM Reader.step r = .ok r') :
    r'.outer = r.outer ∧ (r.mode.isClass = true → r'.mode.isClass = true) := by
  induction text generalizing r with
  | nil =>
    cases h
    exact ⟨rfl, id⟩
  | cons c text ih =>
    obtain ⟨q, hq, h⟩ := foldlM_cons_eq_ok_iff.mp h
    obtain ⟨hbrace, hc⟩ := htext c (by simp)
    obtain ⟨hfollows, houter⟩ := Reader.takes_of_step hq
    obtain ⟨houter', hclass⟩ := ih (fun c' hc' => htext c' (by simp [hc'])) h
    exact ⟨houter'.trans (houter hbrace), fun hm => hclass (hfollows.isClass hm hc)⟩

theorem isSettled_of_finish (h : r.finish = .ok tokens) : r.mode.isSettled = true := by
  obtain ⟨-, ⟨hmode, -⟩ | ⟨before, hmode, -⟩ | ⟨before, hmode, -⟩⟩ := Reader.finish_cases h
  · rw [hmode]
    rfl
  · rw [hmode]
    rfl
  · rw [hmode]
    rfl

theorem exists_finish (houter : r.outer = []) (hmode : r.mode.isSettled = true) :
    ∃ tokens, r.finish = .ok tokens := by
  have hsettle : ∃ q, r.settle = .ok q ∧ q.outer = [] := by
    unfold Reader.settle
    split
    · exact ⟨_, rfl, houter⟩
    · rename_i hescaped
      rw [hescaped] at hmode
      cases hmode
    · exact ⟨_, rfl, houter⟩
    · split
      · exact ⟨_, rfl, houter⟩
      · split
        · exact ⟨_, rfl, houter⟩
        · exact ⟨_, rfl, houter⟩
    · rename_i hbracket
      rw [hbracket] at hmode
      cases hmode
    · rename_i hclass
      rw [hclass] at hmode
      cases hmode
  obtain ⟨q, hq, hempty⟩ := hsettle
  refine ⟨q.current.tokens, bind_eq_ok_iff.mpr ⟨q, hq, ?_⟩⟩
  rw [hempty]
  rfl

theorem quiet_belowFolder : ∀ c ∈ belowFolder, isBrace c = false ∧ c ≠ ']' := by
  simp [belowFolder, isBrace]

/-- A glob for all that is below a folder gives one for the folder unless that ends within an
escape. -/
theorem exists_parse_folder_iff (h : parse (folder ++ belowFolder) = .ok tokens) :
    (∃ tokens, parse folder = .ok tokens) ↔ ¬ LeavesEscape folder := by
  obtain ⟨q, hq, hfinish⟩ := bind_eq_ok_iff.mp h
  rw [List.foldlM_append] at hq
  obtain ⟨r, hr, hbelow⟩ := bind_eq_ok_iff.mp hq
  obtain ⟨houter, hclass⟩ := foldlM_quiet quiet_belowFolder hbelow
  rw [(Reader.finish_cases hfinish).1] at houter
  have htracks := tracksEscape_of_foldlM hr
  have hparse : (∃ tokens, parse folder = .ok tokens) ↔ ∃ tokens, r.finish = .ok tokens := by
    rw [parse, hr]
    rfl
  rw [hparse]
  constructor
  · rintro ⟨tokens, htokens⟩
    exact htracks.settled (isSettled_of_finish htokens)
  · intro hleaves
    apply exists_finish houter.symm
    rcases r.mode.isSettled_or with hsettled | hescaped | hopen
    · exact hsettled
    · exact absurd (htracks.escaped hescaped) hleaves
    · -- a class that is open at the cut is never closed
      exact absurd (isSettled_of_finish hfinish) (Mode.not_isSettled_of_isClass (hclass hopen))

/-! ## The expression of a glob for a folder -/

theorem le_foldl_max {xs : List Nat} {a : Nat} : a ≤ xs.foldl max a := by
  induction xs generalizing a with
  | nil => exact Nat.le_refl a
  | cons x xs ih => exact Nat.le_trans (Nat.le_max_left a x) ih

theorem seqDepths_append {ts us : List Token} :
    seqDepths (ts ++ us) = seqDepths ts ++ seqDepths us := by
  induction ts with
  | nil => rfl
  | cons t ts ih => rw [List.cons_append, seqDepths, seqDepths, ih, List.append_assoc]

theorem depth_le_append {ts us : List Token} : depth ts ≤ depth (ts ++ us) := by
  rw [depth, depth, seqDepths_append, List.foldl_append]
  exact Nat.succ_le_succ le_foldl_max

theorem usesExpression_of_literals {ts : List Token} {text : Text}
    (h : ts.mapM Token.literal? = some text) (hne : ts ≠ []) :
    (strategyOf false ts).usesExpression = false := by
  have htext : literalText? ts = some text := by
    obtain ⟨t, ts, rfl⟩ := List.exists_cons_of_ne_nil hne
    rw [List.mapM_cons] at h
    obtain ⟨c, hc, hrest⟩ := Option.bind_eq_some_iff.mp h
    obtain ⟨rest, hrest', hcons⟩ := Option.bind_eq_some_iff.mp hrest
    cases hcons
    rw [literalText?, List.mapM_cons, hc]
    change Option.filter _ ((ts.mapM Token.literal?).bind _) = _
    rw [hrest']
    rfl
  rw [strategyOf, if_neg Bool.false_ne_true, exactStrategy, htext]
  split <;> rfl

section Below

variable {fold : Bool} {g g' : Glob}

theorem exists_compile_below (hg : Glob.compile fold folder = .ok g) :
    ∃ g', Glob.compile fold (folder ++ belowFolder) = .ok g' := by
  rcases parse_belowFolder (parse_of_compile hg).1 with ⟨hbelow, -⟩ | ⟨hbelow, -⟩
  · exact ⟨_, by rw [Glob.compile, hbelow]⟩
  · exact ⟨_, by rw [Glob.compile, hbelow]⟩

theorem tokens_below (hg : Glob.compile fold folder = .ok g)
    (hg' : Glob.compile fold (folder ++ belowFolder) = .ok g') :
    g.fold = g'.fold ∧ g.tokens <+: g'.tokens := by
  obtain ⟨hparse, hfold⟩ := parse_of_compile hg
  obtain ⟨hparse', hfold'⟩ := parse_of_compile hg'
  refine ⟨hfold.trans hfold'.symm, ?_⟩
  rcases parse_belowFolder hparse with ⟨hbelow, -⟩ | ⟨hbelow, -⟩
  · rw [Except.ok.inj (hparse'.symm.trans hbelow)]
    exact List.prefix_append _ _
  · have htokens := Except.ok.inj (hparse'.symm.trans hbelow)
    exact htokens ▸ List.prefix_refl _

/-- Where an expression takes part in the decision about a folder, one for the path decides about
all that is below. -/
theorem strategy_below (hg : Glob.compile fold folder = .ok g)
    (hg' : Glob.compile fold (folder ++ belowFolder) = .ok g') (hfolder : folder ≠ [])
    (h : g.strategy.usesExpression = true) : g'.strategy = .expression := by
  obtain ⟨hparse, hfold⟩ := parse_of_compile hg
  obtain ⟨hparse', hfold'⟩ := parse_of_compile hg'
  rw [strategy, hfold] at h
  rw [strategy, hfold']
  rcases parse_belowFolder hparse with ⟨hbelow, -⟩ | ⟨hbelow, hends⟩
  · have hne : g.tokens ≠ [] := by
      intro hnil
      rw [hnil] at hparse
      exact hfolder (eq_nil_of_parse hparse)
    rw [Except.ok.inj (hparse'.symm.trans hbelow)]
    refine strategy_concat_trailing.resolve_right ?_
    rintro ⟨text, -, rfl, htext⟩
    rw [usesExpression_of_literals htext hne] at h
    cases h
  · rw [Except.ok.inj (hparse'.symm.trans hbelow)]
    rcases hends with hleading | ⟨before, hbefore⟩
    · rw [hleading]
      cases fold <;> rfl
    · rw [hbefore] at h ⊢
      refine strategy_concat_trailing.resolve_right ?_
      rintro ⟨text, hbeginning, -⟩
      rw [hbeginning] at h
      cases h

/-- A glob for all that is below a folder is nested too deep if one for the folder is. -/
theorem isOverDeep_below (hg : Glob.compile fold folder = .ok g)
    (hg' : Glob.compile fold (folder ++ belowFolder) = .ok g') (hfolder : folder ≠ [])
    (h : GlobSet.IsOverDeep g) : GlobSet.IsOverDeep g' := by
  obtain ⟨huses, hdeep⟩ := h
  obtain ⟨-, rest, hrest⟩ := tokens_below hg hg'
  refine ⟨?_, ?_⟩
  · rw [strategy_below hg hg' hfolder huses]
    rfl
  · rw [GlobSet.isTooDeep, decide_eq_true_eq] at hdeep ⊢
    rw [← hrest]
    exact Nat.lt_of_lt_of_le hdeep depth_le_append

end Below

end Cutting

end ImportCensus.Glob
