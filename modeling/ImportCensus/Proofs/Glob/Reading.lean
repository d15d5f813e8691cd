import ImportCensus.Glob.Parser
import ImportCensus.Proofs.Except
import Mathlib.Data.List.Basic
import Mathlib.Data.List.Induction
/-!
# What the reader has read

While a glob is read, a leading double star stands at the beginning of its branch only, and a
branch that is nothing but one has come from double stars with a separator behind each.
-/

namespace ImportCensus.Glob

/-- The double star with a separator behind it. -/
def starFolder : Text := ['*', '*', '/']

inductive StarFolders : Text → Prop
  | one : StarFolders starFolder
  | more {text : Text} (h : StarFolders text) : StarFolders (text ++ starFolder)

/-- The text that the mode of a reader leaves open, if it is about stars only. -/
def Mode.open? : Mode → Option Text
  | plain => some []
  | star _ => some ['*']
  | stars _ => some ['*', '*']
  | _ => none

/-- That tokens which say nothing, or nothing but any leading components, can have come from a
text. -/
def ComeFrom (tokens : List Token) (text : Text) : Prop :=
  (tokens = [] → text = []) ∧ (tokens = [.leading] → StarFolders text)

theorem comeFrom_concat {tokens : List Token} {t : Token} {text : Text} (ht : t ≠ .leading) :
    ComeFrom (tokens ++ [t]) text := by
  refine ⟨fun h => ?_, fun h => ?_⟩
  · simp at h
  · have hlast := congrArg List.getLast? h
    simp [ht] at hlast

theorem not_mem_tail_concat {tokens : List Token} {t : Token} (h : .leading ∉ tokens.tail)
    (ht : t ≠ .leading) : .leading ∉ (tokens ++ [t]).tail := by
  cases tokens with
  | nil => simp
  | cons u tokens => simpa [ht.symm] using h

theorem eq_nil_of_concat_leading {tokens : List Token}
    (h : Token.leading ∉ (tokens ++ [Token.leading]).tail) : tokens = [] := by
  cases tokens with
  | nil => rfl
  | cons t tokens => simp at h

/-- The token that a double star leaves where `u` was the last one. -/
def absorb (t u : Token) : Token :=
  match u with
  | .leading => .leading
  | .trailing => .trailing
  | _ => t

theorem absorb_ne_leading {t u : Token} (ht : t ≠ .leading) (hu : u ≠ .leading) :
    absorb t u ≠ .leading := by
  cases u <;> simp_all [absorb]

theorem absorb_trailing {u : Token} (hu : u ≠ .leading) : absorb .trailing u = .trailing := by
  cases u <;> simp_all [absorb]

theorem absorb_absorb (u : Token) : absorb .trailing (absorb .inner u) = absorb .trailing u := by
  cases u <;> rfl

namespace Reader

/-- What holds of a reader that has read a text. -/
structure HasRead (text : Text) (r : Reader) : Prop where
  current : .leading ∉ r.current.tokens.tail
  outer : ∀ g ∈ r.outer, .leading ∉ g.tokens.tail
  comeFrom : r.outer = [] → ∀ rest, r.mode.open? = some rest →
    ∃ before, text = before ++ rest ∧ ComeFrom r.current.tokens before

/-- All that a character can do that nothing open claims. -/
theorem stepPlain_cases {r r' : Reader} {c : Char} (h : r.stepPlain c = .ok r') :
    (c = '*' ∧ r' = { r with last := some c, mode := .star r.last }) ∨
    (r'.mode.open? = none ∧ r'.current = r.current ∧ r'.outer = r.outer) ∨
    (r'.mode = .plain ∧ r'.current.tokens = [] ∧ r'.outer ≠ [] ∧
      ∀ g ∈ r'.outer, g ∈ r.outer ∨ g = r.current) ∨
    (r'.mode = .plain ∧ ∃ tokens t, r'.current.tokens = tokens ++ [t] ∧ t ≠ .leading ∧
      ((tokens = r.current.tokens ∧ r'.outer = r.outer) ∨
        ∃ g, r.outer = g :: r'.outer ∧ tokens = g.tokens)) := by
  unfold stepPlain at h
  split at h
  · cases h
    exact Or.inr (Or.inr (Or.inr ⟨rfl, _, .anyByte, rfl, by simp, Or.inl ⟨rfl, rfl⟩⟩))
  · cases h
    exact Or.inl ⟨rfl, rfl⟩
  · cases h
    exact Or.inr (Or.inl ⟨rfl, rfl, rfl⟩)
  · cases h
    refine Or.inr (Or.inr (Or.inl ⟨rfl, rfl, by simp, ?_⟩))
    intro g hg
    rcases List.mem_cons.mp hg with rfl | hg
    · exact Or.inr rfl
    · exact Or.inl hg
  · split at h
    · cases h
    · rename_i g gs houter
      cases h
      exact Or.inr (Or.inr (Or.inr ⟨rfl, _, _, rfl, by simp, Or.inr ⟨g, houter, rfl⟩⟩))
  · split at h
    · cases h
      exact Or.inr (Or.inr (Or.inr ⟨rfl, _, .literal _, rfl, by simp, Or.inl ⟨rfl, rfl⟩⟩))
    · rename_i houter
      cases h
      exact Or.inr (Or.inr (Or.inl ⟨rfl, rfl, by simpa using houter, fun _ => Or.inl⟩))
  · cases h
    exact Or.inr (Or.inl ⟨rfl, rfl, rfl⟩)
  · cases h
    exact Or.inr (Or.inr (Or.inr ⟨rfl, _, .literal _, rfl, by simp, Or.inl ⟨rfl, rfl⟩⟩))

theorem HasRead.stepPlain {text : Text} {r r' : Reader} {c : Char}
    (hcurrent : .leading ∉ r.current.tokens.tail) (houter : ∀ g ∈ r.outer, .leading ∉ g.tokens.tail)
    (hcomeFrom : r.outer = [] → ComeFrom r.current.tokens text) (h : r.stepPlain c = .ok r') :
    HasRead (text ++ [c]) r' := by
  rcases stepPlain_cases h with
    ⟨rfl, rfl⟩ | ⟨hopen, hc, ho⟩ | ⟨hmode, hnil, hne, hsub⟩ | ⟨hmode, tokens, t, htokens, ht, hfrom⟩
  · refine ⟨hcurrent, houter, fun hnone rest hrest => ?_⟩
    cases hrest
    exact ⟨text, rfl, hcomeFrom hnone⟩
  · refine ⟨hc ▸ hcurrent, ho ▸ houter, fun _ rest hrest => ?_⟩
    rw [hopen] at hrest
    cases hrest
  · refine ⟨by simp [hnil], fun g hg => ?_, fun hnone => absurd hnone hne⟩
    rcases hsub g hg with hg | rfl
    · exact houter g hg
    · exact hcurrent
  · have hplaced : .leading ∉ tokens.tail ∧ ∀ g ∈ r'.outer, .leading ∉ g.tokens.tail := by
      rcases hfrom with ⟨rfl, ho⟩ | ⟨g, hg, rfl⟩
      · exact ⟨hcurrent, ho ▸ houter⟩
      · rw [hg] at houter
        exact ⟨houter g (by simp), fun g' hg' => houter g' (by simp [hg'])⟩
    refine ⟨htokens ▸ not_mem_tail_concat hplaced.1 ht, hplaced.2, fun _ rest hrest => ?_⟩
    rw [hmode] at hrest
    cases hrest
    exact ⟨text ++ [c], by simp, htokens ▸ comeFrom_concat ht⟩

theorem HasRead.push_stepPlain {text : Text} {r r' : Reader} {c : Char} {t : Token}
    (hr : HasRead text r) (ht : t ≠ .leading) (h : (r.push t).stepPlain c = .ok r') :
    HasRead (text ++ [c]) r' :=
  .stepPlain (r := r.push t) (not_mem_tail_concat hr.current ht) hr.outer
    (fun _ => comeFrom_concat ht) h

theorem relink_of_concat {r : Reader} {t u : Token} {tokens : List Token}
    (h : r.current.tokens = tokens ++ [u]) :
    r.relink t = { r with current := { r.current with tokens := tokens ++ [absorb t u] } } := by
  unfold relink
  rw [h, List.getLast?_concat, List.dropLast_concat]
  cases u <;> rfl

theorem HasRead.relink {text : Text} {r : Reader} {t : Token} {before : Option Char}
    (hr : HasRead text r) (hmode : r.mode = .stars before) (hne : r.current.tokens ≠ [])
    (ht : t ≠ .leading) :
    .leading ∉ (r.relink t).current.tokens.tail ∧
      (r.outer = [] → ComeFrom (r.relink t).current.tokens (text ++ ['/'])) := by
  obtain ⟨tokens, u, htokens⟩ := (List.eq_nil_or_concat' r.current.tokens).resolve_left hne
  have hcurrent := hr.current
  rw [relink_of_concat htokens]
  rw [htokens] at hcurrent
  by_cases hu : u = .leading
  · subst hu
    obtain rfl := eq_nil_of_concat_leading hcurrent
    refine ⟨by simp, fun hnone => ⟨by simp, fun _ => ?_⟩⟩
    obtain ⟨first, rfl, hfirst⟩ := hr.comeFrom hnone ['*', '*'] (by rw [hmode]; rfl)
    simpa [starFolder] using (hfirst.2 htokens).more
  · have habsorb := absorb_ne_leading ht hu
    refine ⟨?_, fun _ => comeFrom_concat habsorb⟩
    apply not_mem_tail_concat _ habsorb
    cases tokens with
    | nil => simp
    | cons v tokens => exact fun hm => hcurrent (List.mem_append_left _ hm)

theorem HasRead.stepStars {text : Text} {r r' : Reader} {before : Option Char} {c : Char}
    (hr : HasRead text r) (hmode : r.mode = .stars before) (h : r.stepStars before c = .ok r') :
    HasRead (text ++ [c]) r' := by
  have hruns : ∀ {r'}, ((r.push .run).push .run).stepPlain c = .ok r' →
      HasRead (text ++ [c]) r' := by
    intro r' h
    have hrun : Token.run ≠ .leading := by simp
    have hcurrent := not_mem_tail_concat (not_mem_tail_concat hr.current hrun) hrun
    exact .stepPlain (r := (r.push .run).push .run) hcurrent hr.outer
      (fun _ => comeFrom_concat hrun) h
  unfold Reader.stepStars at h
  split at h
  · rename_i hempty
    have htokens : r.current.tokens = [] := by simpa using hempty
    split at h
    · rename_i hc
      subst hc
      cases h
      refine ⟨by simp [push, htokens], hr.outer, fun hnone rest hrest => ?_⟩
      cases hrest
      obtain ⟨first, rfl, hfirst⟩ := hr.comeFrom hnone ['*', '*'] (by rw [hmode]; rfl)
      obtain rfl := hfirst.1 htokens
      exact ⟨starFolder, by simp [starFolder], by simp [push, htokens], fun _ => .one⟩
    · exact hruns h
  · rename_i hempty
    have hne : r.current.tokens ≠ [] := by simpa using hempty
    split at h
    · exact hruns h
    · split at h
      · rename_i hc
        subst hc
        cases h
        obtain ⟨hcurrent, hfrom⟩ := hr.relink (t := .inner) hmode hne (by simp)
        refine ⟨hcurrent, hr.outer, fun hnone rest hrest => ?_⟩
        cases hrest
        exact ⟨_, by simp, hfrom hnone⟩
      · split at h
        · rename_i hout
          have houter : r.outer ≠ [] := by
            simp only [Bool.and_eq_true, Bool.not_eq_true', List.isEmpty_eq_false_iff] at hout
            exact hout.2
          exact .stepPlain (hr.relink hmode hne (by simp)).1 hr.outer
            (fun hnone => absurd hnone houter) h
        · exact hruns h

theorem HasRead.stepClass {text : Text} {r r' : Reader} {negated first dash : Bool}
    {ranges : List (Char × Char)} {c : Char} (hr : HasRead text r)
    (h : r.stepClass negated ranges first dash c = .ok r') : HasRead (text ++ [c]) r' := by
  have hinside : ∀ {r' : Reader}, r'.current = r.current → r'.outer = r.outer →
      r'.mode.open? = none → HasRead (text ++ [c]) r' := by
    intro r' hc ho hopen
    refine ⟨hc ▸ hr.current, ho ▸ hr.outer, fun _ rest hrest => ?_⟩
    rw [hopen] at hrest
    cases hrest
  unfold Reader.stepClass at h
  split at h
  · cases h
    refine ⟨not_mem_tail_concat hr.current (by simp), hr.outer, fun _ rest hrest => ?_⟩
    cases hrest
    exact ⟨text ++ [c], by simp, comeFrom_concat (by simp)⟩
  · split at h
    · cases h
      exact hinside rfl rfl rfl
    · split at h
      · obtain ⟨ranges', -, h⟩ := bind_eq_ok_iff.mp h
        cases h
        exact hinside rfl rfl rfl
      · cases h
        exact hinside rfl rfl rfl

theorem HasRead.step {text : Text} {r r' : Reader} {c : Char} (hr : HasRead text r)
    (h : r.step c = .ok r') : HasRead (text ++ [c]) r' := by
  unfold Reader.step at h
  split at h
  · rename_i hmode
    refine .stepPlain hr.current hr.outer (fun hnone => ?_) h
    obtain ⟨before, rfl, hbefore⟩ := hr.comeFrom hnone [] (by rw [hmode]; rfl)
    simpa using hbefore
  · cases h
    refine ⟨not_mem_tail_concat hr.current (by simp), hr.outer, fun _ rest hrest => ?_⟩
    cases hrest
    exact ⟨text ++ [c], by simp, comeFrom_concat (by simp)⟩
  · rename_i before hmode
    split at h
    · rename_i hc
      subst hc
      cases h
      refine ⟨hr.current, hr.outer, fun hnone rest hrest => ?_⟩
      cases hrest
      obtain ⟨first, rfl, hfirst⟩ := hr.comeFrom hnone ['*'] (by rw [hmode]; rfl)
      exact ⟨first, by simp, hfirst⟩
    · exact hr.push_stepPlain (by simp) h
  · rename_i before hmode
    exact hr.stepStars hmode h
  · split at h
    · cases h
      refine ⟨hr.current, hr.outer, fun _ rest hrest => ?_⟩
      cases hrest
    · exact hr.stepClass h
  · exact hr.stepClass h

theorem hasRead_of_foldlM {text : Text} {r : Reader} (h : text.foldlM Reader.step {} = .ok r) :
    HasRead text r := by
  induction text using List.reverseRecOn generalizing r with
  | nil =>
    cases h
    refine ⟨by simp, by simp, fun _ rest hrest => ?_⟩
    cases hrest
    exact ⟨[], rfl, by simp, by simp⟩
  | append_singleton text c ih =>
    obtain ⟨before, hbefore, hafter⟩ := foldlM_concat_eq_ok_iff.mp h
    exact (ih hbefore).step hafter

end Reader

end ImportCensus.Glob
