import ImportCensus.Discovery.FileFilter
import ImportCensus.Proofs.Glob.Reading
/-!
# Globs for what is below a folder

A glob with a separator and a double star behind it says what it said before of a folder, and
now about everything below the folder.  There is one exception: double stars with a separator
behind each stand for every path, and with another separator and double star for no relative
path at all.
-/

namespace ImportCensus.Glob

open Discovery.FileFilter (belowFolder)

namespace Reader

/-- How the tokens of a whole glob come from what the reader has read. -/
theorem finish_cases {r : Reader} {tokens : List Token} (h : r.finish = .ok tokens) :
    r.outer = [] ∧
      ((r.mode = .plain ∧ tokens = r.current.tokens) ∨
      (∃ before, r.mode = .star before ∧ tokens = r.current.tokens ++ [.run]) ∨
      ∃ before, r.mode = .stars before ∧
        ((r.current.tokens = [] ∧ tokens = [.leading]) ∨
        (r.current.tokens ≠ [] ∧ r.standsAlone before = true ∧
          tokens = (r.relink .trailing).current.tokens) ∨
        (r.current.tokens ≠ [] ∧ r.standsAlone before = false ∧
          tokens = r.current.tokens ++ [.run] ++ [.run]))) := by
  obtain ⟨r', hsettle, h⟩ := bind_eq_ok_iff.mp h
  split at h
  · rename_i hempty
    cases h
    have hnone : r'.outer = [] := by simpa using hempty
    unfold settle at hsettle
    split at hsettle
    · rename_i hmode
      cases hsettle
      exact ⟨hnone, Or.inl ⟨hmode, rfl⟩⟩
    · cases hsettle
    · rename_i before hmode
      cases hsettle
      exact ⟨hnone, Or.inr (Or.inl ⟨before, hmode, rfl⟩)⟩
    · rename_i before hmode
      split at hsettle
      · rename_i htokens
        have htokens : r.current.tokens = [] := by simpa using htokens
        cases hsettle
        exact ⟨hnone, Or.inr (Or.inr ⟨before, hmode, Or.inl ⟨htokens, by simp [push, htokens]⟩⟩)⟩
      · rename_i htokens
        have htokens : r.current.tokens ≠ [] := by simpa using htokens
        split at hsettle
        · rename_i halone
          cases hsettle
          exact ⟨hnone, Or.inr (Or.inr ⟨before, hmode, Or.inr (Or.inl ⟨htokens, halone, rfl⟩)⟩)⟩
        · rename_i halone
          cases hsettle
          exact ⟨hnone, Or.inr (Or.inr ⟨before, hmode,
            Or.inr (Or.inr ⟨htokens, by simpa using halone, rfl⟩)⟩)⟩
    · cases hsettle
    · cases hsettle
  · cases h

theorem eq_nil_of_finish {text : Text} {r : Reader} (hread : HasRead text r)
    (h : r.finish = .ok []) : text = [] := by
  obtain ⟨houter, ⟨hmode, hnil⟩ | ⟨before, -, hnil⟩ | ⟨before, -,
    ⟨-, hnil⟩ | ⟨hne, -, hnil⟩ | ⟨-, -, hnil⟩⟩⟩ := finish_cases h
  · obtain ⟨first, rfl, hfirst⟩ := hread.comeFrom houter [] (by rw [hmode]; rfl)
    rw [hfirst.1 hnil.symm]
    rfl
  · simp at hnil
  · cases hnil
  · obtain ⟨tokens, u, htokens⟩ := (List.eq_nil_or_concat' r.current.tokens).resolve_left hne
    rw [relink_of_concat htokens] at hnil
    simp at hnil
  · simp at hnil

theorem finish_doubleStar {r : Reader} {tokens : List Token} {u : Token} (hmode : r.mode = .plain)
    (hlast : r.last = some '/') (houter : r.outer = []) (htokens : r.current.tokens = tokens ++ [u]) :
    ((['*', '*'] : Text).foldlM step r >>= finish) = .ok (tokens ++ [absorb .trailing u]) := by
  obtain ⟨⟨done, current⟩, outer, last, mode⟩ := r
  simp only at hmode hlast houter htokens
  subst hmode hlast houter htokens
  let r' : Reader := ⟨⟨done, tokens ++ [u]⟩, [], some '*', .stars (some '/')⟩
  have hsettle : r'.settle = .ok (r'.relink .trailing) := by
    simp [r', settle, standsAlone]
  change r'.finish = _
  rw [finish, hsettle, relink_of_concat (u := u) rfl]
  rfl

end Reader

theorem eq_nil_of_parse {text : Text} (h : parse text = .ok []) : text = [] := by
  obtain ⟨r, hr, hfinish⟩ := bind_eq_ok_iff.mp h
  exact Reader.eq_nil_of_finish (Reader.hasRead_of_foldlM hr) hfinish

theorem parse_append_belowFolder {folder : Text} {r r' : Reader} {tokens : List Token} {u : Token}
    (hr : folder.foldlM Reader.step {} = .ok r) (hstep : r.step '/' = .ok r')
    (hmode : r'.mode = .plain) (hlast : r'.last = some '/') (houter : r'.outer = [])
    (htokens : r'.current.tokens = tokens ++ [u]) :
    parse (folder ++ belowFolder) = .ok (tokens ++ [absorb .trailing u]) := by
  have hfinish := Reader.finish_doubleStar hmode hlast houter htokens
  rw [parse, List.foldlM_append, hr, belowFolder]
  change ((['/', '*', '*'] : Text).foldlM Reader.step r >>= Reader.finish) = _
  rw [List.foldlM_cons, hstep]
  exact hfinish

/-- The tokens of a glob with a separator and a double star behind it. -/
theorem parse_belowFolder {folder : Text} {tokens : List Token} (h : parse folder = .ok tokens) :
    (parse (folder ++ belowFolder) = .ok (tokens ++ [.trailing]) ∧
      (tokens = [.leading] → StarFolders folder)) ∨
    (parse (folder ++ belowFolder) = .ok tokens ∧
      (tokens = [.leading] ∨ ∃ before, tokens = before ++ [.trailing])) := by
  obtain ⟨r, hr, hfinish⟩ := bind_eq_ok_iff.mp h
  have hread := Reader.hasRead_of_foldlM hr
  obtain ⟨houter, ⟨hmode, rfl⟩ | ⟨before, hmode, rfl⟩ | ⟨before, hmode,
    ⟨hnil, rfl⟩ | ⟨hne, halone, rfl⟩ | ⟨hne, halone, rfl⟩⟩⟩ := Reader.finish_cases hfinish
  · -- the folder's glob ends with a name
    have hstep : r.step '/' =
        .ok { r.push (.literal '/') with last := some '/', mode := .plain } := by
      rw [Reader.step, hmode]
      rfl
    refine Or.inl ⟨parse_append_belowFolder hr hstep rfl rfl houter rfl, fun htokens => ?_⟩
    obtain ⟨first, rfl, hfirst⟩ := hread.comeFrom houter [] (by rw [hmode]; rfl)
    simpa using hfirst.2 htokens
  · -- with one star
    have hstep : r.step '/' =
        .ok { (r.push .run).push (.literal '/') with last := some '/', mode := .plain } := by
      rw [Reader.step, hmode]
      rfl
    refine Or.inl ⟨parse_append_belowFolder hr hstep rfl rfl houter rfl, fun htokens => ?_⟩
    exact absurd htokens (by simp [List.append_eq_singleton_iff])
  · -- it is a double star
    have hstep : r.step '/' = .ok { r.push .leading with last := some '/', mode := .plain } := by
      rw [Reader.step, hmode]
      simp [Reader.stepStars, hnil]
    have hpush : (r.push .leading).current.tokens = [] ++ [.leading] := by
      simp [Reader.push, hnil]
    exact Or.inr ⟨parse_append_belowFolder hr hstep rfl rfl houter hpush, Or.inl rfl⟩
  · -- it ends with a double star that is a name of its own
    obtain ⟨tokens, u, htokens⟩ := (List.eq_nil_or_concat' r.current.tokens).resolve_left hne
    have hstep : r.step '/' = .ok { r.relink .inner with last := some '/', mode := .plain } := by
      rw [Reader.step, hmode]
      simp [Reader.stepStars, halone, hne]
    have hrelink : (r.relink .inner).current.tokens = tokens ++ [absorb .inner u] := by
      rw [Reader.relink_of_concat htokens]
    have hparse := parse_append_belowFolder hr hstep rfl rfl houter hrelink
    rw [absorb_absorb] at hparse
    rw [Reader.relink_of_concat htokens]
    refine Or.inr ⟨hparse, ?_⟩
    by_cases hu : u = .leading
    · subst hu
      have hcurrent := hread.current
      rw [htokens] at hcurrent
      obtain rfl := eq_nil_of_concat_leading hcurrent
      exact Or.inl rfl
    · rw [absorb_trailing hu]
      exact Or.inr ⟨tokens, rfl⟩
  · -- with two stars that are part of a name
    have hstep : r.step '/' =
        .ok { ((r.push .run).push .run).push (.literal '/') with
          last := some '/', mode := .plain } := by
      rw [Reader.step, hmode]
      simp [Reader.stepStars, halone, hne]
      rfl
    refine Or.inl ⟨parse_append_belowFolder hr hstep rfl rfl houter rfl, fun htokens => ?_⟩
    have hlast := congrArg List.getLast? htokens
    simp at hlast

theorem foldlM_starFolders {folder : Text} (h : StarFolders folder) :
    folder.foldlM Reader.step {} = .ok ⟨⟨[], [.leading]⟩, [], some '/', .plain⟩ := by
  induction h with
  | one => rfl
  | more h ih =>
    rw [List.foldlM_append, ih]
    rfl

theorem parse_starFolders {folder : Text} (h : StarFolders folder) :
    parse folder = .ok [.leading] ∧
      parse (folder ++ belowFolder) = .ok [.leading, .trailing] := by
  have hr := foldlM_starFolders h
  refine ⟨?_, parse_append_belowFolder hr rfl rfl rfl rfl rfl⟩
  rw [parse, hr]
  rfl

/-! ## What the globs match -/

section Matching

variable {fold : Bool} {tokens ts us : List Token} {s path rest : List UInt8}

theorem seqMatches_append :
    SeqMatches fold (ts ++ us) s ↔
      ∃ p r, s = p ++ r ∧ SeqMatches fold ts p ∧ SeqMatches fold us r := by
  induction ts generalizing s with
  | nil => simp [SeqMatches]
  | cons t ts ih =>
    simp only [List.cons_append, SeqMatches, ih]
    constructor
    · rintro ⟨p, -, rfl, hp, q, r, rfl, hq, hr⟩
      exact ⟨p ++ q, r, by simp, ⟨p, q, rfl, hp, hq⟩, hr⟩
    · rintro ⟨-, r, rfl, ⟨p, q, rfl, hp, hq⟩, hr⟩
      exact ⟨p, q ++ r, by simp, hp, q, r, rfl, hq, hr⟩

theorem seqMatches_concat_trailing :
    SeqMatches fold (ts ++ [.trailing]) s ↔ ∃ p r, s = p ++ slash :: r ∧ SeqMatches fold ts p := by
  rw [seqMatches_append]
  constructor
  · rintro ⟨p, -, rfl, hp, -, -, rfl, ⟨r, rfl⟩, rfl⟩
    exact ⟨p, r, by simp, hp⟩
  · rintro ⟨p, r, rfl, hp⟩
    exact ⟨p, slash :: r, rfl, hp, slash :: r, [], by simp, ⟨r, rfl⟩, rfl⟩

theorem mapM_literal?_of_mem (h : .trailing ∈ ts) : ts.mapM Token.literal? = none := by
  induction ts with
  | nil => cases h
  | cons t ts ih =>
    rw [List.mapM_cons]
    rcases List.mem_cons.mp h with rfl | h
    · rfl
    · rw [ih h]
      cases t <;> rfl

theorem literalText?_of_mem (h : .trailing ∈ ts) : literalText? ts = none := by
  rw [literalText?, mapM_literal?_of_mem h]
  rfl

theorem nameTokens?_of_mem (h : .trailing ∈ ts) : nameTokens? ts = none := by
  unfold nameTokens?
  split
  · rename_i rest
    have hrest : .trailing ∈ rest := by simpa using h
    rw [if_neg]
    simp only [Bool.and_eq_true, List.all_eq_true, not_and]
    exact fun _ hall => Bool.false_ne_true (hall _ hrest)
  · rfl

theorem extension?_of_mem (h : .trailing ∈ ts) : extension? ts = none := by
  unfold extension?
  split
  · rename_i rest
    rw [mapM_literal?_of_mem (by simpa using h)]
    rfl
  · rfl

theorem ending?_of_mem (h : .trailing ∈ ts) : ending? ts = none := by
  unfold ending?
  split
  · rename_i rest
    rw [literalText?_of_mem (by simpa using h)]
    rfl
  · rfl

theorem requiredExtension?_concat_trailing : requiredExtension? (ts ++ [.trailing]) = none := by
  rw [requiredExtension?, List.reverse_concat]
  rfl

/-- A glob for everything below a folder is decided by an expression, or by the beginning of the
path where it names the folder with plain characters. -/
theorem strategy_concat_trailing :
    strategyOf fold (ts ++ [.trailing]) = .expression ∨
      ∃ text, strategyOf fold (ts ++ [.trailing]) = .beginning (text ++ ['/']) ∧ fold = false ∧
        ts.mapM Token.literal? = some text := by
  have hmem : Token.trailing ∈ ts ++ [.trailing] := by simp
  have hfolded : foldedStrategy (ts ++ [.trailing]) = .expression := by
    rw [foldedStrategy, nameTokens?_of_mem hmem]
    rfl
  cases fold with
  | true => exact Or.inl hfolded
  | false =>
    have hbeginning : beginning? (ts ++ [.trailing]) =
        (ts.mapM Token.literal?).map (· ++ ['/']) := by
      simp [beginning?]
    have hexact : strategyOf false (ts ++ [.trailing]) =
        ((ts.mapM Token.literal?).map fun text => Strategy.beginning (text ++ ['/'])).getD
          .expression := by
      rw [strategyOf, exactStrategy, nameTokens?_of_mem hmem, literalText?_of_mem hmem,
        extension?_of_mem hmem, ending?_of_mem hmem, requiredExtension?_concat_trailing, hbeginning]
      cases ts.mapM Token.literal? with
      | none => exact hfolded
      | some text => rfl
    rw [hexact]
    cases ts.mapM Token.literal? with
    | none => exact Or.inl rfl
    | some text => exact Or.inr ⟨text, rfl, rfl, rfl⟩

theorem asksForName_concat_trailing :
    (strategyOf fold (ts ++ [.trailing])).asksForName = false := by
  obtain hstrategy | ⟨text, hstrategy, -⟩ := @strategy_concat_trailing fold ts
  · rw [hstrategy]
    rfl
  · rw [hstrategy]
    rfl

theorem asksForName_leading : (strategyOf fold [.leading]).asksForName = false := by
  cases fold <;> rfl

theorem parse_of_compile {text : Text} {g : Glob} (h : Glob.compile fold text = .ok g) :
    parse text = .ok g.tokens ∧ g.fold = fold := by
  rw [Glob.compile] at h
  split at h
  · rename_i tokens htokens
    cases h
    exact ⟨htokens, rfl⟩
  · cases h

theorem isMatch_of_tokens_leading {g : Glob} (h : g.tokens = [.leading]) : g.isMatch path = true := by
  rw [isMatch_iff, Glob.Matches, strategy, h, asksForName_leading]
  exact ⟨Or.inl rfl, by simp⟩

theorem isMatch_concat_trailing {g : Glob} (h : g.tokens = ts ++ [.trailing]) {p r : List UInt8}
    (hp : SeqMatches g.fold ts p) : g.isMatch (p ++ slash :: r) = true := by
  rw [isMatch_iff, Glob.Matches, strategy, h, asksForName_concat_trailing]
  exact ⟨Or.inr (seqMatches_concat_trailing.mpr ⟨p, r, rfl, hp⟩), by simp⟩

/-- A glob that matches a folder matches, with the ending for what is below a folder, every path
below. -/
theorem isMatch_below {folder : Text} {g g' : Glob} (hg : Glob.compile fold folder = .ok g)
    (hg' : Glob.compile fold (folder ++ belowFolder) = .ok g') (hfolder : ¬ StarFolders folder)
    (h : g.isMatch path = true) : g'.isMatch (path ++ slash :: rest) = true := by
  obtain ⟨hparse, hfold⟩ := parse_of_compile hg
  obtain ⟨hparse', hfold'⟩ := parse_of_compile hg'
  have hmatch := (isMatch_iff.mp h).1
  rw [hfold, ← hfold'] at hmatch
  rcases parse_belowFolder hparse with ⟨hbelow, hstars⟩ | ⟨hbelow, hends⟩
  · have htokens : g'.tokens = g.tokens ++ [.trailing] :=
      Except.ok.inj (hparse'.symm.trans hbelow)
    have hseq := hmatch.resolve_left fun hleading => hfolder (hstars hleading)
    exact isMatch_concat_trailing htokens hseq
  · have htokens : g'.tokens = g.tokens := Except.ok.inj (hparse'.symm.trans hbelow)
    by_cases hleading : g.tokens = [.leading]
    · exact isMatch_of_tokens_leading (htokens.trans hleading)
    · obtain ⟨before, hbefore⟩ := hends.resolve_left hleading
      have hseq := hmatch.resolve_left hleading
      rw [hbefore, seqMatches_concat_trailing] at hseq
      obtain ⟨p, r, rfl, hp⟩ := hseq
      have hgoal := isMatch_concat_trailing (htokens.trans hbefore) (r := r ++ slash :: rest) hp
      simpa using hgoal

theorem isMatch_starFolders {folder : Text} {g : Glob} (hg : Glob.compile fold folder = .ok g)
    (hfolder : StarFolders folder) : g.isMatch path = true := by
  obtain ⟨hparse, -⟩ := parse_of_compile hg
  have htokens := Except.ok.inj (hparse.symm.trans (parse_starFolders hfolder).1)
  exact isMatch_of_tokens_leading htokens

end Matching

end ImportCensus.Glob
