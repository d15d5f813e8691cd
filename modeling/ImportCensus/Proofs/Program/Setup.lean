import ImportCensus.Program
import ImportCensus.Proofs.Config.Partial
import ImportCensus.Proofs.Config.Resolution
import ImportCensus.Proofs.FileTree.Store
import ImportCensus.Proofs.Toml.Statements
/-!
# The settings of a run

The settings of a run come from one file, or from none, and the switches of the command line go
over them.  Only the settings that come out must make sense.
-/

namespace ImportCensus

namespace Path

theorem join_of_isAbsolute (dir : Path) {path : Path} (h : isAbsolute path = true) :
    join dir path = path := by
  rw [join, if_pos h]

theorem isAbsolute_join {dir : Path} (h : isAbsolute dir = true) (path : Path) :
    isAbsolute (join dir path) = true := by
  have hne : dir ≠ [] := by
    rintro rfl
    cases h
  obtain ⟨first, rest, rfl⟩ := List.exists_cons_of_ne_nil hne
  rw [join]
  split
  · assumption
  · split
    · exact h
    · exact h

end Path

namespace Program

open CommandLine (Arguments)

def defaultFile (s : Surroundings) (a : Arguments) (name : Text) : Path :=
  Path.join (folderOf s.pathOf s.dir a) (Path.ofText name)

/-- The settings that a command line starts from: those of the file that it asks for, else of the
first default file that is there, else the built-in ones. -/
def baseConfig (s : Surroundings) (a : Arguments) : Except ConfigError Config :=
  match a.config with
  | some file => Config.ofFile s.root s.dir (s.pathOf file)
  | none =>
    if FileTree.pathExists s.root (defaultFile s a "impseek.toml") then
      Config.ofFile s.root s.dir (defaultFile s a "impseek.toml")
    else if FileTree.pathExists s.root (defaultFile s a ".impseek.toml") then
      Config.ofFile s.root s.dir (defaultFile s a ".impseek.toml")
    else .ok {}

theorem load_configSource (s : Surroundings) (a : Arguments) :
    Config.load s.root s.dir (configSource s a) = baseConfig s a := by
  rw [configSource, baseConfig]
  cases a.config with
  | some file => rfl
  | none =>
    have hfiles : Config.defaultFiles.map (Path.join (folderOf s.pathOf s.dir a)) =
        [defaultFile s a "impseek.toml", defaultFile s a ".impseek.toml"] := rfl
    simp only [Option.map_none, Config.source, hfiles]
    by_cases hfirst : FileTree.pathExists s.root (defaultFile s a "impseek.toml") = true
    · rw [if_pos hfirst, List.find?_cons_of_pos hfirst]
      rfl
    · rw [if_neg hfirst, List.find?_cons_of_neg hfirst]
      by_cases hsecond : FileTree.pathExists s.root (defaultFile s a ".impseek.toml") = true
      · rw [if_pos hsecond, List.find?_cons_of_pos hsecond]
        rfl
      · rw [if_neg hsecond, List.find?_cons_of_neg hsecond]
        rfl

theorem setup_eq (s : Surroundings) (a : Arguments) :
    setup s a = (do
      let c ← baseConfig s a
      let c ← Config.resolve c a.overrides
      .ok
        { config := c
          base := folderOf s.pathOf s.dir a
          console := consoleOf a s.colors c }) := by
  rw [setup, load_configSource]

variable {s : Surroundings} {a : Arguments} {c : Config} {p : Setup}

theorem setup_of_not_base {cause : ConfigError} (h : baseConfig s a = .error cause) :
    setup s a = .error cause := by
  rw [setup_eq, h]
  rfl

theorem setup_of_isSound (h : baseConfig s a = .ok c) (hsound : Config.IsSound (c.under a)) :
    setup s a = .ok
      { config := c.under a
        base := folderOf s.pathOf s.dir a
        console := consoleOf a s.colors (c.under a) } := by
  rw [setup_eq, h]
  change (Config.resolve c a.overrides >>= _) = _
  rw [Config.resolve_of_isSound hsound]
  rfl

theorem exists_flaw_of_not_isSound (h : baseConfig s a = .ok c)
    (hunsound : ¬ Config.IsSound (c.under a)) : ∃ flaw, setup s a = .error (.flaw flaw) := by
  obtain ⟨flaw, hflaw⟩ := Config.exists_flaw_of_not_isSound hunsound
  refine ⟨flaw, ?_⟩
  rw [setup_eq, h]
  change (Config.resolve c a.overrides >>= _) = _
  rw [hflaw]
  rfl

theorem setup_eq_ok_iff :
    setup s a = .ok p ↔ ∃ c, baseConfig s a = .ok c ∧ Config.IsSound (c.under a) ∧
      p = { config := c.under a
            base := folderOf s.pathOf s.dir a
            console := consoleOf a s.colors (c.under a) } := by
  constructor
  · intro h
    cases hbase : baseConfig s a with
    | error cause =>
      rw [setup_of_not_base hbase] at h
      cases h
    | ok c =>
      by_cases hsound : Config.IsSound (c.under a)
      · rw [setup_of_isSound hbase hsound, Except.ok.injEq] at h
        exact ⟨c, rfl, hsound, h.symm⟩
      · obtain ⟨flaw, hflaw⟩ := exists_flaw_of_not_isSound hbase hsound
        rw [hflaw] at h
        cases h
  · rintro ⟨c, hbase, hsound, rfl⟩
    exact setup_of_isSound hbase hsound

theorem isAbsolute_folderOf (h : Path.isAbsolute s.dir = true) (a : Arguments) :
    Path.isAbsolute (folderOf s.pathOf s.dir a) = true := by
  rw [folderOf]
  split
  · exact Path.isAbsolute_join h _
  · exact h

/-- The settings of a run.  A file gives its settings when it can be read, and leaves the others
at their defaults; a file that cannot be read stops the run.  Over what it gives, or over the
built-in settings when there is no file, go those of the command line, and the run is set up
exactly when the outcome makes sense. -/
theorem setup_spec (s : Surroundings) (a : Arguments) :
    (∀ path c, Config.ofFile s.root s.dir path = .ok c ↔
      ∃ text doc g, FileTree.textAt s.root (Path.join s.dir path) = .ok text ∧
        Toml.parse text = .ok doc ∧ Config.Gives doc g ∧ c = g.config) ∧
    (∀ path cause, Config.ofFile s.root s.dir path = .error cause →
      cause = .missingFile path ∨ (∃ reason, cause = .unreadableFile path reason) ∨
        ∃ fault, cause = .malformedFile path fault) ∧
    (Path.isAbsolute s.dir = true → ∀ name,
      Path.join s.dir (defaultFile s a name) = defaultFile s a name) ∧
    (∀ cause, baseConfig s a = .error cause → setup s a = .error cause) ∧
    ∀ c, baseConfig s a = .ok c →
      (Config.IsSound (c.under a) → setup s a = .ok
        { config := c.under a
          base := folderOf s.pathOf s.dir a
          console := consoleOf a s.colors (c.under a) }) ∧
      (¬ Config.IsSound (c.under a) → ∃ flaw, setup s a = .error (.flaw flaw)) := by
  refine ⟨fun path c => Config.ofFile_eq_ok_iff, fun path cause h => ?_, fun hdir name => ?_,
    fun cause => setup_of_not_base,
    fun c h => ⟨setup_of_isSound h, exists_flaw_of_not_isSound h⟩⟩
  · rcases Config.ofFile_error h with
      ⟨-, hcause⟩ | ⟨reason, -, hcause⟩ | ⟨text, fault, -, -, hcause⟩
    · exact Or.inl hcause
    · exact Or.inr (Or.inl ⟨reason, hcause⟩)
    · exact Or.inr (Or.inr ⟨fault, hcause⟩)
  · have hfile := Path.isAbsolute_join (isAbsolute_folderOf hdir a) (Path.ofText name)
    exact Path.join_of_isAbsolute s.dir hfile

/-! ## A file with some settings -/

section Partial

def partialText : Text :=
  "[scan]\nignore = []\n\n[output]\nshow_time = true\n"

def partialTables : List (Text × Toml.Value) :=
  [("scan".toList, .table [("ignore".toList, .array [])]),
    ("output".toList, .table [("show_time".toList, .boolean true)])]

def partlySet : Surroundings where
  root := .folder [(Path.ofText "impseek.toml", .file (Text.utf8 partialText))]
  dir := Path.ofText "/"
  elapsed := .ofParts 0 0

def narrowed : Arguments where
  exclude := some ["dist/**", "dist/**"]
  node := true
  noColor := true

theorem parse_partialText : Toml.parse partialText = .ok partialTables := by
  have houtput := (Toml.isReadAs_nil.assign "show_time".toList (by decide)
    (Toml.isWritten_writeBoolean true)).header "output".toList (by decide)
  have hread := (houtput.emptyLine.assign "ignore".toList (by decide)
    (Toml.isWritten_writeStrings [])).header "scan".toList (by decide)
  have hparse := hread.parse (by decide)
  have htables : Toml.ofStatements
      [.header ["scan".toList], .assign ["ignore".toList] (.array ([].map .string)),
        .header ["output".toList], .assign ["show_time".toList] (.boolean true)] =
      .ok partialTables := rfl
  rw [htables] at hparse
  rw [← hparse]
  exact congrArg Toml.parse (by decide)

theorem gives_partialTables :
    Config.Gives partialTables { ignore := some [], showTime := some true } where
  scan := by
    intro v hv
    cases hv
    rfl
  output := by
    intro v hv
    cases hv
    rfl
  pattern := rfl
  ignore := rfl
  caseInsensitive := rfl
  followLinks := rfl
  maxDepth := rfl
  color := rfl
  showTime := rfl

/-- The file clears the globs to leave out and asks for the time; the command line adds globs and
takes the colours away. -/
theorem setup_spec_partlySet :
    ∃ p, setup partlySet narrowed = .ok p ∧
      p.config.scan = { ignore := ["dist/**", nodeModulesGlob] } ∧
      p.config.output = { color := false, showTime := true } := by
  have hsteps : Path.steps (defaultFile partlySet narrowed "impseek.toml") =
      [Path.ofText "impseek.toml"] := by
    decide
  have hnode : FileTree.node partlySet.root (defaultFile partlySet narrowed "impseek.toml") =
      .ok (.file (Text.utf8 partialText)) :=
    FileTree.node_root_entry (by decide) hsteps (by decide) rfl (by simp)
  have htext := FileTree.textAt_of_node hnode
  have hexists : FileTree.pathExists partlySet.root
      (defaultFile partlySet narrowed "impseek.toml") = true := by
    rw [FileTree.pathExists, hnode]
    rfl
  obtain ⟨hfile, -, hpath, -, hsetup⟩ := setup_spec partlySet narrowed
  have hdir : Path.isAbsolute partlySet.dir = true := by decide
  rw [← hpath hdir] at htext
  have hload := (hfile _ _).mpr ⟨_, _, _, htext, parse_partialText, gives_partialTables, rfl⟩
  have hbase : baseConfig partlySet narrowed =
      .ok (Config.Given.config { ignore := some [], showTime := some true }) := by
    rw [baseConfig]
    change (if _ then _ else _) = _
    rw [if_pos hexists]
    exact hload
  refine ⟨_, (hsetup _ hbase).1 ⟨⟨'*', by decide, by decide⟩, by decide, ?_⟩, by decide, by decide⟩
  intro glob hglob
  have hignore : (Config.under (Config.Given.config { ignore := some [], showTime := some true })
      narrowed).scan.ignore = ["dist/**".toList, nodeModulesGlob] := by
    decide
  rw [hignore] at hglob
  refine ⟨'*', ?_, by decide⟩
  revert glob
  decide

end Partial

end Program

end ImportCensus
