import ImportCensus.Proofs.Discovery.NodeModules
/-!
# The built-in globs

What the globs of the default configuration say about a path of names, in plain words: the ending
of its last name decides whether it is a source, and the names before it whether it is left out.
-/

namespace ImportCensus

open Discovery.FileFilter (belowFolder)

namespace Glob

variable {ts : List Token} {text : Text} {g : Glob}

/-! ## Globs for folders by name -/

/-- A text that in globs for folders stands for the names that the tokens stand for. -/
structure NamesFolder (text : Text) (ts : List Token) : Prop where
  parse_folder : parse (starFolder ++ text) = .ok (.leading :: ts)
  parse_below : parse (starFolder ++ text ++ belowFolder) = .ok (.leading :: ts ++ [.trailing])
  staysInName : StaysInName true ts
  ne_nil : ts ≠ []

theorem IsPlainName.namesFolder (h : IsPlainName text) : NamesFolder text (text.map .literal) where
  parse_folder := parse_starFolder_append h.plain
  parse_below := by
    rcases parse_belowFolder (parse_starFolder_append h.plain) with ⟨hbelow, -⟩ | ⟨-, hends⟩
    · exact hbelow
    · obtain ⟨before, c, rfl⟩ := (List.eq_nil_or_concat' text).resolve_left h.ne_nil
      rw [List.map_append, List.map_singleton, ← List.cons_append] at hends
      rcases hends with hleading | ⟨before', htrailing⟩
      · simp at hleading
      · cases (List.append_inj' htrailing rfl).2
  staysInName := staysInName_literal h.slash_notMem
  ne_nil := by simpa using h.ne_nil

variable {names : List Name} {name : Name}

theorem NamesFolder.isMatch_folder_iff (h : NamesFolder text ts)
    (hg : Glob.compile true (starFolder ++ text) = .ok g) (hname : slash ∉ name) :
    g.isMatch (Path.ofNames (names ++ [name])) = true ↔ SeqMatches true ts name := by
  obtain ⟨hparse, hfold⟩ := parse_of_compile hg
  have htokens := Except.ok.inj (hparse.symm.trans h.parse_folder)
  rw [isMatch_iff_seqMatches hfold (by simpa [htokens] using h.ne_nil), htokens,
    seqMatches_leading_iff_of_staysInName h.staysInName, lastComponent_ofNames hname]

theorem NamesFolder.isMatch_below_iff (h : NamesFolder text ts)
    (hg : Glob.compile true (starFolder ++ text ++ belowFolder) = .ok g)
    (hnames : ∀ n ∈ names ++ [name], slash ∉ n) :
    g.isMatch (Path.ofNames (names ++ [name])) = true ↔ ∃ n ∈ names, SeqMatches true ts n := by
  obtain ⟨hparse, hfold⟩ := parse_of_compile hg
  have htokens := Except.ok.inj (hparse.symm.trans h.parse_below)
  rw [isMatch_iff_seqMatches hfold (by simp [htokens]), htokens,
    seqMatches_below_ofNames_iff h.staysInName hnames]

end Glob

namespace Discovery.FileFilter

open Glob

variable {fold : Bool} {c : ScanConfig} {f : FileFilter} {names : List Name} {name : Name}
  {rules : List (Text × List Token)}

/-! ## Filters that leave out folders by name -/

/-- Whether a configuration leaves out, up to ASCII case, what is in the folders whose names
stand in some rules and nothing else. -/
structure LeavesOutNamed (c : ScanConfig) (rules : List (Text × List Token)) : Prop where
  folds : c.caseInsensitive = true
  ignore_eq : c.ignore = rules.map fun rule => starFolder ++ rule.1 ++ belowFolder
  namesFolder : ∀ rule ∈ rules, NamesFolder rule.1 rule.2

theorem LeavesOutNamed.folderGlobs_eq (h : LeavesOutNamed c rules) :
    folderGlobs c = rules.map fun rule => starFolder ++ rule.1 := by
  rw [folderGlobs, h.ignore_eq, List.filterMap_map, ← List.filterMap_eq_map]
  congr 1
  funext rule
  exact folderGlob?_eq_some_iff.mpr ⟨rfl, by simp [starFolder]⟩

theorem LeavesOutNamed.isIgnored_iff [Glob.Capacity] (h : LeavesOutNamed c rules)
    (hf : ofConfig c = .ok f) (hnames : ∀ n ∈ names ++ [name], slash ∉ n) :
    f.isIgnored (Path.ofNames (names ++ [name])) = true ↔
      ∃ rule ∈ rules, ∃ n ∈ names, SeqMatches true rule.2 n := by
  obtain ⟨-, hset, -⟩ := ofConfig_eq_ok_iff.mp hf
  rw [h.folds, h.ignore_eq] at hset
  apply isMatch_compileSet_map_iff hset
  intro rule hrule g hg
  exact (h.namesFolder rule hrule).isMatch_below_iff hg hnames

theorem LeavesOutNamed.entersFolder_iff [Glob.Capacity] (h : LeavesOutNamed c rules)
    (hf : ofConfig c = .ok f) (hname : slash ∉ name) :
    f.entersFolder (Path.ofNames (names ++ [name])) = false ↔
      ∃ rule ∈ rules, SeqMatches true rule.2 name := by
  obtain ⟨-, -, hset⟩ := ofConfig_eq_ok_iff.mp hf
  rw [h.folds, h.folderGlobs_eq] at hset
  rw [entersFolder, Bool.not_eq_false']
  apply isMatch_compileSet_map_iff hset
  intro rule hrule g hg
  exact (h.namesFolder rule hrule).isMatch_folder_iff hg hname

/-! ## The rules of the default configuration -/

def HasSourceEnding (name : Name) : Prop :=
  Path.ofText ".ts" <:+ name.map lowerByte ∨ Path.ofText ".tsx" <:+ name.map lowerByte

instance : DecidablePred HasSourceEnding := fun _ => inferInstanceAs (Decidable (_ ∨ _))

def madeFolders : List Text := ["target", "dist", "node_modules"]

/-- Whether what is in a folder of this name is left out: a hidden one or, up to ASCII case, one
that holds what was built or installed. -/
def IsLeftOut (name : Name) : Prop :=
  name.head? = some 0x2E ∨ name.map lowerByte ∈ madeFolders.map Path.ofText

instance : DecidablePred IsLeftOut := fun _ => inferInstanceAs (Decidable (_ ∨ _))

def builtInRules : List (Text × List Token) :=
  (".*", ['.'].map .literal ++ [.run]) :: madeFolders.map fun name => (name, name.map .literal)

theorem isPlainName_of_mem_madeFolders {text : Text} (h : text ∈ madeFolders) :
    IsPlainName text := by
  rw [madeFolders, List.mem_cons, List.mem_cons, List.mem_singleton] at h
  rcases h with rfl | rfl | rfl
  · exact ⟨List.all_eq_true.mp (by decide), by decide, by decide, by decide⟩
  · exact ⟨List.all_eq_true.mp (by decide), by decide, by decide, by decide⟩
  · exact isPlainName_nodeModules

theorem leavesOutNamed_builtIn : LeavesOutNamed {} builtInRules where
  folds := rfl
  ignore_eq := by decide
  namesFolder := by
    intro rule hrule
    rcases List.mem_cons.mp hrule with rfl | hrule
    · exact ⟨rfl, rfl, (staysInName_literal (by decide)).append staysInName_run, by simp⟩
    · obtain ⟨text, htext, rfl⟩ := List.mem_map.mp hrule
      exact (isPlainName_of_mem_madeFolders htext).namesFolder

/-- The star behind a dot leaves a name free but for its first byte. -/
theorem seqMatches_dot_run_iff (hname : slash ∉ name) :
    SeqMatches fold (['.'].map .literal ++ [.run]) name ↔ name.head? = some 0x2E := by
  have hdot : (Text.utf8 ['.']).map (foldByte fold) = [0x2E] := by
    cases fold <;> decide
  rw [seqMatches_literal_run_iff hname, hdot]
  cases name with
  | nil => simp
  | cons b name =>
    rw [List.map_cons, List.cons_prefix_cons, and_iff_left List.nil_prefix, List.head?_cons,
      Option.some.injEq, eq_comm, foldByte_eq_iff (by decide)]

theorem exists_builtInRules_iff (hname : slash ∉ name) :
    (∃ rule ∈ builtInRules, SeqMatches true rule.2 name) ↔ IsLeftOut name := by
  have hlower : ∀ text ∈ madeFolders, (Text.utf8 text).map (foldByte true) = Path.ofText text := by
    decide
  rw [builtInRules, List.exists_mem_cons_iff, seqMatches_dot_run_iff hname, IsLeftOut]
  refine or_congr Iff.rfl ?_
  constructor
  · rintro ⟨rule, hrule, hseq⟩
    obtain ⟨text, htext, rfl⟩ := List.mem_map.mp hrule
    have heq := (seqMatches_literal_iff.mp hseq).trans (hlower text htext)
    exact List.mem_map.mpr ⟨text, htext, heq.symm⟩
  · intro h
    obtain ⟨text, htext, heq⟩ := List.mem_map.mp h
    refine ⟨_, List.mem_map_of_mem htext, seqMatches_literal_iff.mpr ?_⟩
    exact heq.symm.trans (hlower text htext).symm

/-! ## The pattern of the default configuration -/

def sourceExtensions : List Text := ["ts", "tsx"]

theorem parse_defaultPattern :
    parse defaultPattern = .ok (.leading :: ([.run, .literal '.'] ++
      [.group (sourceExtensions.map fun text => text.map .literal)])) :=
  rfl

theorem isMatch_defaultPattern_iff {g : Glob} (hg : Glob.compile true defaultPattern = .ok g)
    (hname : slash ∉ name) :
    g.isMatch (Path.ofNames (names ++ [name])) = true ↔ HasSourceEnding name := by
  obtain ⟨hparse, hfold⟩ := parse_of_compile hg
  have htokens := Except.ok.inj (hparse.symm.trans parse_defaultPattern)
  have hstays : StaysInName true ([.run, .literal '.'] ++
      [.group (sourceExtensions.map fun text => text.map .literal)]) := by
    apply staysInName_concat_group (by decide) (by decide)
    have hslash : ∀ text ∈ sourceExtensions, slash ∉ Text.utf8 ('.' :: text) := by
      decide
    exact fun text htext => staysInName_run.append (staysInName_literal (hslash text htext))
  have hending : ∀ text ∈ sourceExtensions,
      (Text.utf8 ('.' :: text)).map (foldByte true) = Path.ofText ('.' :: text) := by
    decide
  rw [isMatch_iff_seqMatches hfold (by simp [htokens]), htokens,
    seqMatches_leading_iff_of_staysInName hstays, lastComponent_ofNames hname,
    seqMatches_concat_group_iff (by decide) (by decide)]
  calc (∃ text ∈ sourceExtensions, SeqMatches true (.run :: ('.' :: text).map .literal) name)
      ↔ ∃ text ∈ sourceExtensions, Path.ofText ('.' :: text) <:+ name.map lowerByte := by
        apply exists_congr
        intro text
        apply and_congr_right
        intro htext
        rw [seqMatches_run_literal_iff hname, hending text htext]
        rfl
    _ ↔ HasSourceEnding name := by
        simp only [sourceExtensions, List.exists_mem_cons_iff, List.mem_singleton, exists_eq_left]
        rfl

/-- In the default configuration the last name of a path decides whether it is a source or a
folder to enter, and the names before it whether it is left out. -/
theorem builtIn_spec : ∃ f, ofConfig {} = .ok f ∧
    ∀ (names : List Name) (name : Name), (∀ n ∈ names ++ [name], slash ∉ n) →
      (f.isSource (Path.ofNames (names ++ [name])) = true ↔
        HasSourceEnding name ∧ ∀ n ∈ names, ¬ IsLeftOut n) ∧
      (f.entersFolder (Path.ofNames (names ++ [name])) = false ↔ IsLeftOut name) := by
  obtain ⟨f, hf, -⟩ : ∃ f, ofConfig {} = .ok f ∧ f.isSource (Path.ofText "a.ts") = true ∧
      f.entersFolder (Path.ofText "a") = true :=
    exists_ofConfig (by decide +kernel)
  refine ⟨f, hf, fun names name hnames => ?_⟩
  have hname : slash ∉ name := hnames name (by simp)
  have hwanted : f.wanted.isMatch (Path.ofNames (names ++ [name])) = true ↔
      HasSourceEnding name := by
    have hset : compileSet true ([defaultPattern].map id) = .ok f.wanted :=
      (ofConfig_eq_ok_iff.mp hf).1
    rw [isMatch_compileSet_map_iff (p := fun _ => HasSourceEnding name) hset]
    · simp
    · intro text htext g hg
      obtain rfl := List.mem_singleton.mp htext
      exact isMatch_defaultPattern_iff hg hname
  have hignored : f.isIgnored (Path.ofNames (names ++ [name])) = true ↔
      ∃ n ∈ names, IsLeftOut n := by
    rw [leavesOutNamed_builtIn.isIgnored_iff hf hnames]
    have hone : ∀ n ∈ names, (∃ rule ∈ builtInRules, SeqMatches true rule.2 n) ↔ IsLeftOut n :=
      fun n hn => exists_builtInRules_iff (hnames n (by simp [hn]))
    constructor
    · rintro ⟨rule, hrule, n, hn, hseq⟩
      exact ⟨n, hn, (hone n hn).mp ⟨rule, hrule, hseq⟩⟩
    · rintro ⟨n, hn, hleft⟩
      obtain ⟨rule, hrule, hseq⟩ := (hone n hn).mpr hleft
      exact ⟨rule, hrule, n, hn, hseq⟩
  constructor
  · rw [isSource, Bool.and_eq_true, hwanted, Bool.not_eq_true', Bool.eq_false_iff, ne_eq, hignored]
    simp
  · rw [leavesOutNamed_builtIn.entersFolder_iff hf hname, exists_builtInRules_iff hname]

/-- Capitals change nothing, and a file is left out for a folder at any depth above it. -/
theorem builtIn_spec_capitals : ∃ f, ofConfig {} = .ok f ∧
    f.isSource (Path.ofNames (["src", "web"].map Path.ofText ++ [Path.ofText "View.TSX"])) = true ∧
    ¬ f.isSource (Path.ofNames ([".cache", "web"].map Path.ofText ++ [Path.ofText "view.ts"])) =
      true ∧
    f.entersFolder (Path.ofNames (["web"].map Path.ofText ++ [Path.ofText "Node_Modules"])) =
      false := by
  obtain ⟨f, hf, hspec⟩ := builtIn_spec
  obtain ⟨hsource, -⟩ := hspec (["src", "web"].map Path.ofText) (Path.ofText "View.TSX") (by decide)
  obtain ⟨hhidden, -⟩ :=
    hspec ([".cache", "web"].map Path.ofText) (Path.ofText "view.ts") (by decide)
  obtain ⟨-, henters⟩ := hspec (["web"].map Path.ofText) (Path.ofText "Node_Modules") (by decide)
  exact ⟨f, hf, hsource.mpr (by decide), fun h => absurd (hhidden.mp h) (by decide),
    henters.mpr (by decide)⟩

end Discovery.FileFilter

end ImportCensus
