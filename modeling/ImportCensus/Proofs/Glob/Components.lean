import ImportCensus.Proofs.Glob.NamedFolder
import ImportCensus.Proofs.Path
/-!
# Globs and the components of a path

A double star before tokens that stay within one component leaves the choice of that component:
alone it is the last one, and with the ending for what is below a folder any but the last one.
-/

namespace ImportCensus

namespace Path

theorem exists_of_ofNames_eq {names : List Name} {folder rest : Path} (hne : names ≠ [])
    (h : ∀ name ∈ names, slash ∉ name) (heq : ofNames names = folder ++ slash :: rest) :
    ∃ before after, names = before ++ after ∧ before ≠ [] ∧ after ≠ [] ∧
      folder = ofNames before := by
  refine ⟨Text.splitOn slash folder, Text.splitOn slash rest, ?_, Text.splitOn_ne_nil folder,
    Text.splitOn_ne_nil rest, (Text.intercalate_splitOn folder).symm⟩
  calc names
      = Text.splitOn slash (ofNames names) := (Text.splitOn_intercalate hne h).symm
    _ = Text.splitOn slash folder ++ Text.splitOn slash rest := by
        rw [heq, Text.splitOn_append]

end Path

namespace Glob

variable {fold : Bool} {ts us : List Token} {path s u : List UInt8} {text : Text} {g : Glob}

/-! ## Bytes up to case -/

/-- What is before the letters is not folded, and nothing is folded to it. -/
theorem foldByte_eq_iff {b c : UInt8} (hc : c < 0x41) : foldByte fold b = c ↔ b = c := by
  unfold foldByte lowerByte
  simp only [UInt8.lt_iff_toNat_lt, UInt8.le_iff_toNat_le, ← UInt8.toNat_inj,
    UInt8.reduceToNat] at hc ⊢
  split
  · split
    · rename_i h
      simp only [Bool.and_eq_true, decide_eq_true_eq] at h
      rw [UInt8.toNat_add]
      simp
      omega
    · rfl
  · rfl

theorem seqMatches_literal_iff {name : Text} :
    SeqMatches fold (name.map .literal) s ↔
      s.map (foldByte fold) = (Text.utf8 name).map (foldByte fold) := by
  induction name generalizing s with
  | nil => simp [SeqMatches]
  | cons c name ih =>
    rw [List.map_cons, SeqMatches, Text.utf8_cons, List.map_append, List.map_eq_append_iff]
    simp only [ih, Token.Matches]

theorem anyMatches_literal_iff {texts : List Text} (hne : [] ∉ texts) :
    AnyMatches fold (texts.map fun text => text.map .literal) s ↔
      ∃ text ∈ texts, s.map (foldByte fold) = (Text.utf8 text).map (foldByte fold) := by
  induction texts with
  | nil => simp [AnyMatches]
  | cons text texts ih =>
    rw [List.mem_cons, not_or] at hne
    have hvoid : seqVoid (text.map .literal) = false := by
      obtain ⟨c, text, rfl⟩ := List.exists_cons_of_ne_nil (Ne.symm hne.1)
      rfl
    rw [List.map_cons, AnyMatches, ih hne.2, seqMatches_literal_iff, and_iff_right hvoid]
    simp

/-! ## The last component -/

theorem isNamed_lastComponent (path : List UInt8) : IsNamed (lastComponent path) path := by
  have hcut := List.takeWhile_append_dropWhile (p := (· != slash)) (l := path.reverse)
  rw [← List.reverse_inj, List.reverse_append, List.reverse_reverse] at hcut
  cases hrest : path.reverse.dropWhile (· != slash) with
  | nil =>
    rw [hrest, List.reverse_nil, List.nil_append] at hcut
    exact Or.inl hcut.symm
  | cons b rest =>
    have hb : b = slash := by
      have hhead := List.head?_dropWhile_not (· != slash) path.reverse
      rw [hrest] at hhead
      simpa using hhead
    subst hb
    rw [hrest, List.reverse_cons, List.append_assoc] at hcut
    exact Or.inr ⟨rest.reverse, hcut.symm⟩

theorem seqMatches_leading_iff :
    SeqMatches fold (.leading :: ts) path ↔
      ∃ name, IsNamed name path ∧ SeqMatches fold ts name := by
  constructor
  · rintro ⟨p, r, rfl, rfl | ⟨before, rfl⟩, hr⟩
    · exact ⟨r, Or.inl rfl, hr⟩
    · exact ⟨r, Or.inr ⟨before, by simp⟩, hr⟩
  · rintro ⟨name, rfl | ⟨before, rfl⟩, hname⟩
    · exact ⟨[], path, rfl, Or.inl rfl, hname⟩
    · exact ⟨before ++ [slash], name, by simp, Or.inr ⟨before, rfl⟩, hname⟩

def StaysInName (fold : Bool) (ts : List Token) : Prop :=
  ∀ s, SeqMatches fold ts s → slash ∉ s

theorem seqMatches_leading_iff_of_staysInName (h : StaysInName fold ts) :
    SeqMatches fold (.leading :: ts) path ↔ SeqMatches fold ts (lastComponent path) := by
  rw [seqMatches_leading_iff]
  constructor
  · rintro ⟨name, hnamed, hname⟩
    rwa [lastComponent_of_isNamed (h name hname) hnamed]
  · exact fun hlast => ⟨_, isNamed_lastComponent path, hlast⟩

/-! ## Tokens within one name -/

theorem slash_notMem_of_map_foldByte_eq (h : s.map (foldByte fold) = u.map (foldByte fold))
    (hu : slash ∉ u) : slash ∉ s := by
  intro hs
  have hfold : foldByte fold slash = slash := (foldByte_eq_iff (by decide)).mpr rfl
  have hmem : slash ∈ u.map (foldByte fold) := by
    rw [← h, List.mem_map]
    exact ⟨slash, hs, hfold⟩
  obtain ⟨b, hb, heq⟩ := List.mem_map.mp hmem
  obtain rfl := (foldByte_eq_iff (by decide)).mp heq
  exact hu hb

theorem staysInName_literal (h : slash ∉ Text.utf8 text) :
    StaysInName fold (text.map .literal) := by
  intro s hs
  exact slash_notMem_of_map_foldByte_eq (seqMatches_literal_iff.mp hs) h

theorem StaysInName.append (hts : StaysInName fold ts) (hus : StaysInName fold us) :
    StaysInName fold (ts ++ us) := by
  intro s hs
  obtain ⟨p, r, rfl, hp, hr⟩ := seqMatches_append.mp hs
  rw [List.mem_append, not_or]
  exact ⟨hts p hp, hus r hr⟩

theorem seqMatches_singleton {t : Token} : SeqMatches fold [t] s ↔ t.Matches fold s := by
  simp [SeqMatches]

theorem staysInName_run : StaysInName fold [.run] := by
  intro s hs
  rw [seqMatches_singleton] at hs
  exact hs

theorem seqMatches_literal_run_iff (hs : slash ∉ s) :
    SeqMatches fold (text.map .literal ++ [.run]) s ↔
      (Text.utf8 text).map (foldByte fold) <+: s.map (foldByte fold) := by
  simp only [seqMatches_append, seqMatches_literal_iff, seqMatches_singleton, Token.Matches]
  constructor
  · rintro ⟨p, r, rfl, hp, -⟩
    rw [List.map_append, hp]
    exact List.prefix_append _ _
  · rintro ⟨r, hr⟩
    obtain ⟨p, r, rfl, hp, -⟩ := List.map_eq_append_iff.mp hr.symm
    exact ⟨p, r, rfl, hp, fun hslash => hs (List.mem_append_right _ hslash)⟩

theorem seqMatches_run_literal_iff (hs : slash ∉ s) :
    SeqMatches fold (.run :: text.map .literal) s ↔
      (Text.utf8 text).map (foldByte fold) <:+ s.map (foldByte fold) := by
  simp only [SeqMatches, seqMatches_literal_iff, Token.Matches]
  constructor
  · rintro ⟨p, r, rfl, -, hr⟩
    rw [List.map_append, hr]
    exact List.suffix_append _ _
  · rintro ⟨p, hp⟩
    obtain ⟨p, r, rfl, -, hr⟩ := List.map_eq_append_iff.mp hp.symm
    exact ⟨p, r, rfl, fun hslash => hs (List.mem_append_left _ hslash), hr⟩

theorem seqMatches_concat_group_iff {texts : List Text} (hne : texts ≠ []) (htexts : [] ∉ texts) :
    SeqMatches fold (ts ++ [.group (texts.map fun text => text.map .literal)]) s ↔
      ∃ text ∈ texts, SeqMatches fold (ts ++ text.map .literal) s := by
  have hvoid : areVoid (texts.map fun text => text.map Token.literal) = false := by
    obtain ⟨text, texts, rfl⟩ := List.exists_cons_of_ne_nil hne
    obtain ⟨c, text, rfl⟩ := List.exists_cons_of_ne_nil (List.ne_of_not_mem_cons htexts).symm
    rfl
  simp only [seqMatches_append, seqMatches_singleton, seqMatches_literal_iff, Token.Matches, hvoid,
    Bool.false_eq_true, false_and, false_or, anyMatches_literal_iff htexts]
  constructor
  · rintro ⟨p, r, rfl, hp, text, htext, hr⟩
    exact ⟨text, htext, p, r, rfl, hp, hr⟩
  · rintro ⟨text, htext, p, r, rfl, hp, hr⟩
    exact ⟨p, r, rfl, hp, text, htext, hr⟩

theorem staysInName_concat_group {texts : List Text} (hne : texts ≠ []) (htexts : [] ∉ texts)
    (h : ∀ text ∈ texts, StaysInName fold (ts ++ text.map .literal)) :
    StaysInName fold (ts ++ [.group (texts.map fun text => text.map .literal)]) := by
  intro s hs
  obtain ⟨text, htext, hs⟩ := (seqMatches_concat_group_iff hne htexts).mp hs
  exact h text htext s hs

/-- Where ASCII case is folded no glob looks at names first. -/
theorem isMatch_iff_seqMatches (hfold : g.fold = true) (hne : g.tokens ≠ [.leading]) :
    g.isMatch path = true ↔ SeqMatches true g.tokens path := by
  have hasks : g.strategy.asksForName = false := by
    rw [strategy, hfold, strategyOf, if_pos rfl, foldedStrategy]
    split <;> rfl
  rw [isMatch_iff, Glob.Matches, hasks, hfold]
  simp [hne]

/-! ## Paths of names -/

section Names

variable {names : List Name} {name : Name}

theorem isNamed_ofNames_concat (names : List Name) (name : Name) :
    IsNamed name (Path.ofNames (names ++ [name])) := by
  have hlast : Path.ofNames [name] = name := by simp [Path.ofNames]
  by_cases hnames : names = []
  · subst hnames
    exact Or.inl hlast
  · rw [Path.ofNames_append_cons hnames, hlast]
    exact Or.inr ⟨Path.ofNames names, rfl⟩

theorem lastComponent_ofNames (h : slash ∉ name) :
    lastComponent (Path.ofNames (names ++ [name])) = name :=
  lastComponent_of_isNamed h (isNamed_ofNames_concat names name)

/-- With the ending for what is below a folder, any component but the last one will do. -/
theorem seqMatches_below_ofNames_iff (hstays : StaysInName fold ts)
    (h : ∀ n ∈ names ++ [name], slash ∉ n) :
    SeqMatches fold (.leading :: ts ++ [.trailing]) (Path.ofNames (names ++ [name])) ↔
      ∃ n ∈ names, SeqMatches fold ts n := by
  rw [seqMatches_concat_trailing]
  constructor
  · rintro ⟨folder, rest, hpath, hfolder⟩
    obtain ⟨before, after, hnames, hbefore, hafter, rfl⟩ :=
      Path.exists_of_ofNames_eq (by simp) h hpath
    obtain ⟨before, n, rfl⟩ := (List.eq_nil_or_concat' before).resolve_left hbefore
    obtain ⟨after, last, rfl⟩ := (List.eq_nil_or_concat' after).resolve_left hafter
    have hinit : names = before ++ [n] ++ after := by
      rw [← List.append_assoc] at hnames
      exact (List.append_inj' hnames rfl).1
    have hn : slash ∉ n := h n (by simp [hinit])
    rw [seqMatches_leading_iff_of_staysInName hstays, lastComponent_ofNames hn] at hfolder
    exact ⟨n, by simp [hinit], hfolder⟩
  · rintro ⟨n, hn, hmatch⟩
    obtain ⟨before, after, rfl⟩ := List.append_of_mem hn
    refine ⟨Path.ofNames (before ++ [n]), Path.ofNames (after ++ [name]), ?_, ?_⟩
    · calc Path.ofNames (before ++ n :: after ++ [name])
          = Path.ofNames (before ++ [n] ++ (after ++ [name])) := by simp
        _ = Path.ofNames (before ++ [n]) ++ slash :: Path.ofNames (after ++ [name]) :=
            Path.ofNames_append (by simp) (by simp)
    · rw [seqMatches_leading_iff_of_staysInName hstays, lastComponent_ofNames (h n (by simp))]
      exact hmatch

end Names

end Glob

end ImportCensus
