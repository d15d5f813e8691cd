import ImportCensus.Proofs.CommandLine.Excluding
import ImportCensus.Proofs.Discovery.Excluding
import ImportCensus.Proofs.Discovery.Refusal
import ImportCensus.Proofs.Program.Outcome
/-!
# Runs that leave out more

A run that succeeds goes on to do so with arguments that exclude in front of its command line, if
each of the pieces between their commas can be excluded and there is room for all that is left out:
the settings make sense as before, the globs are compiled as before, and no file is listed that was
not listed before.  A glob with a comma is not excluded as a whole, however good it is: its pieces
are.
-/

namespace ImportCensus

open CommandLine (Arguments cutGlobs excluding parse)

/-! ## The ignore list -/

namespace Config

variable {ignore globs : List Text} {glob : Text} {a : Arguments}

theorem mem_ignoreUnder_iff :
    glob ∈ ignoreUnder ignore a ↔
      glob ∈ ignore ∨ glob ∈ a.exclude.getD [] ∨ a.node = true ∧ glob = nodeModulesGlob := by
  have hmerge : mergeIgnore ignore a.overrides = ignoreUnder ignore a := mergeIgnore_eq _ _
  rw [← hmerge]
  exact mem_mergeIgnore_iff

theorem mem_ignoreUnder_alsoExcluding_iff :
    glob ∈ ignoreUnder ignore (a.alsoExcluding globs) ↔
      glob ∈ ignoreUnder ignore a ∨ glob ∈ cutGlobs globs := by
  have hnode : (a.alsoExcluding globs).node = a.node :=
    CommandLine.eq_of_alsoExcluding globs a (·.node) fun _ _ => rfl
  rw [mem_ignoreUnder_iff, mem_ignoreUnder_iff, hnode, CommandLine.getD_exclude_alsoExcluding,
    List.mem_append]
  tauto

theorem scan_under_alsoExcluding (c : Config) (a : Arguments) (globs : List Text) :
    (c.under (a.alsoExcluding globs)).scan =
      { (c.under a).scan with ignore := ignoreUnder c.scan.ignore (a.alsoExcluding globs) } := by
  have hglob : (a.alsoExcluding globs).glob = a.glob :=
    CommandLine.eq_of_alsoExcluding globs a (·.glob) fun _ _ => rfl
  rw [under, under, hglob]

theorem isSound_alsoExcluding {c : Config} (h : IsSound (c.under a))
    (hglobs : ∀ piece ∈ cutGlobs globs, HasInk piece) :
    IsSound (c.under (a.alsoExcluding globs)) := by
  have hscan := scan_under_alsoExcluding c a globs
  refine ⟨?_, ?_, fun glob hglob => ?_⟩
  · rw [hscan]
    exact h.pattern
  · rw [hscan]
    exact h.depth
  · rw [hscan] at hglob
    exact (mem_ignoreUnder_alsoExcluding_iff.mp hglob).elim (h.ignore glob) (hglobs glob)

theorem merge_alsoExcluding (globs : List Text) (c : Config) :
    c.merge (Arguments.alsoExcluding globs {}).overrides =
      { c with scan := { c.scan with
          ignore := c.scan.ignore ++ unlisted c.scan.ignore (cutGlobs globs) } } := by
  have hglobs := CommandLine.getD_exclude_alsoExcluding globs {}
  rw [CommandLine.alsoExcluding_eq]
  generalize (Arguments.alsoExcluding globs {}).exclude = exclude at hglobs ⊢
  have hexclude : exclude.getD [] = cutGlobs globs := hglobs.trans (List.append_nil _)
  have hignore : mergeIgnore c.scan.ignore (Arguments.overrides { exclude := exclude }) =
      c.scan.ignore ++ unlisted c.scan.ignore (exclude.getD []) :=
    foldl_addIgnore _ _
  rw [merge, hignore, hexclude]
  change ({ scan := _, output := ⟨c.output.color, c.output.showTime || false⟩ } : Config) = _
  rw [Bool.or_false]
  rfl

end Config

/-! ## What can be excluded -/

namespace Discovery

open FileFilter

/-- Whether a glob can be excluded: it is not blank, it makes a set of its own, and if it is one
for all that is below a folder, the slash behind the folder is in no escape. -/
structure IsExcludable [Glob.Capacity] (fold : Bool) (glob : Text) : Prop where
  hasInk : Config.HasInk glob
  isGlob : isGlob fold glob = true
  keepsEscapes : ¬ CutsEscape glob

instance : DecidablePred CutsEscape := fun glob =>
  decidable_of_iff (∃ folder ∈ Text.stripTail? belowFolder glob, Glob.LeavesEscape folder) (by
    constructor
    · rintro ⟨folder, hfolder, hleaves⟩
      exact ⟨folder, Text.stripTail?_eq_some_iff.mp hfolder, hleaves⟩
    · rintro ⟨folder, hfolder, hleaves⟩
      exact ⟨folder, Text.stripTail?_eq_some_iff.mpr hfolder, hleaves⟩)

instance [Glob.Capacity] (fold : Bool) : DecidablePred (IsExcludable fold) := fun glob =>
  decidable_of_iff (Config.HasInk glob ∧ FileFilter.isGlob fold glob = true ∧ ¬ CutsEscape glob)
    ⟨fun ⟨hink, hglob, hkeeps⟩ => ⟨hink, hglob, hkeeps⟩,
      fun ⟨hink, hglob, hkeeps⟩ => ⟨hink, hglob, hkeeps⟩⟩

/-- Globs that can be excluded are compiled beside those that are, if there is room for all. -/
theorem exists_ofConfig_excluding [Glob.Capacity] {c : ScanConfig} {ignore : List Text}
    (hf : ∃ f, ofConfig c = .ok f)
    (h : ∀ glob ∈ ignore, glob ∈ c.ignore ∨ IsExcludable c.caseInsensitive glob)
    (hfits : FitTogether c.caseInsensitive ignore) :
    ∃ f, ofConfig { c with ignore := ignore } = .ok f := by
  obtain ⟨hglobs, -, hfolders⟩ := exists_ofConfig_iff.mp hf
  rw [List.forall_mem_cons] at hglobs
  refine exists_ofConfig_iff.mpr ⟨List.forall_mem_cons.mpr ⟨hglobs.1, fun glob hglob => ?_⟩,
    hfits, fun folder hfolder => ?_⟩
  · exact (h glob hglob).elim (hglobs.2 glob) (·.isGlob)
  · obtain ⟨glob, hglob, hstrip⟩ := List.mem_filterMap.mp hfolder
    rcases h glob hglob with hold | hnew
    · exact hfolders folder (List.mem_filterMap.mpr ⟨glob, hold, hstrip⟩)
    · obtain ⟨rfl, hne⟩ := folderGlob?_eq_some_iff.mp hstrip
      exact isGlob_folder hnew.isGlob hne fun hleaves => hnew.keepsEscapes ⟨folder, rfl, hleaves⟩

end Discovery

/-! ## Runs -/

namespace Program

open Discovery

variable {s : Surroundings} {a : Arguments} {p : Setup} {globs arguments : List Text}

/-- A run is set up in the same way with more to exclude, but for the ignore list. -/
theorem exists_setup_alsoExcluding (hp : setup s a = .ok p)
    (hglobs : ∀ piece ∈ cutGlobs globs, Config.HasInk piece) :
    ∃ p' ignore, setup s (a.alsoExcluding globs) = .ok p' ∧ p'.base = p.base ∧
      p'.config.scan = { p.config.scan with ignore := ignore } ∧
      ∀ glob, glob ∈ ignore ↔ glob ∈ p.config.scan.ignore ∨ glob ∈ cutGlobs globs := by
  obtain ⟨c, hc, hsound, rfl⟩ := setup_eq_ok_iff.mp hp
  have hbase : baseConfig s (a.alsoExcluding globs) = baseConfig s a :=
    CommandLine.eq_of_alsoExcluding globs a (baseConfig s) fun _ _ => rfl
  have hdir : folderOf s.pathOf s.dir (a.alsoExcluding globs) = folderOf s.pathOf s.dir a :=
    CommandLine.eq_of_alsoExcluding globs a (folderOf s.pathOf s.dir) fun _ _ => rfl
  have hsound' := Config.isSound_alsoExcluding hsound hglobs
  exact ⟨_, _, setup_of_isSound (hbase.trans hc) hsound', hdir,
    Config.scan_under_alsoExcluding c a globs, fun _ => Config.mem_ignoreUnder_alsoExcluding_iff⟩

theorem execute_alsoExcluding [Glob.Capacity] (hcode : (execute s a).exitCode = 0)
    (hglobs : ∀ p, setup s a = .ok p →
      ∀ piece ∈ cutGlobs globs, IsExcludable p.config.scan.caseInsensitive piece)
    (hfits : ∀ p, setup s (a.alsoExcluding globs) = .ok p →
      FileFilter.FitTogether p.config.scan.caseInsensitive p.config.scan.ignore) :
    (execute s (a.alsoExcluding globs)).exitCode = 0 := by
  have hgenerate : (a.alsoExcluding globs).generateConfig = a.generateConfig :=
    CommandLine.eq_of_alsoExcluding globs a (·.generateConfig) fun _ _ => rfl
  cases ha : a.generateConfig with
  | true =>
    have hsame : generateConfig s (a.alsoExcluding globs) = generateConfig s a :=
      CommandLine.eq_of_alsoExcluding globs a (generateConfig s) fun _ _ => rfl
    rw [execute, ha] at hcode
    rw [execute, hgenerate, ha, hsame]
    exact hcode
  | false =>
    obtain ⟨p, f, files, hp, hf, hlist⟩ := (exitCode_execute_eq_zero_iff ha).mp hcode
    have hpieces := hglobs p hp
    obtain ⟨p', ignore, hp', hbase, hscan, hignore⟩ :=
      exists_setup_alsoExcluding hp fun piece hpiece => (hpieces piece hpiece).hasInk
    have hroom := hfits p' hp'
    rw [hscan] at hroom
    obtain ⟨f', hf'⟩ := exists_ofConfig_excluding ⟨f, hf⟩
      (fun glob hglob => ((hignore glob).mp hglob).imp_right (hpieces glob)) hroom
    have hsub : p.config.scan.ignore ⊆ ignore := fun glob hglob => (hignore glob).mpr (.inl hglob)
    have hfiles : scan s.root p.config.scan p.base = .ok files :=
      bind_eq_ok_iff.mpr ⟨f, hf, hlist⟩
    obtain ⟨files', hfiles', -⟩ := scan_narrower hsub hf' hfiles
    rw [← hscan, ← hbase] at hfiles'
    exact (execute_of_scan (hgenerate.trans ha) hp' hfiles').exitCode

theorem config_unreadable (h : a.config = none) (hdir : a.dir = none)
    (hp : setup unreadable a = .ok p) : p.config = Config.under {} a := by
  obtain ⟨c, hc, -, rfl⟩ := setup_eq_ok_iff.mp hp
  rw [baseConfig_unreadable h hdir] at hc
  cases hc
  rfl

theorem exitCode_unreadable : (run unreadable ["--quiet"]).exitCode = 0 := by
  have hquiet : parse ["--quiet"] = .ok { quiet := true } := by decide
  have hsound : Config.IsSound (Config.under {} { quiet := true }) := by
    rw [← Config.validate_eq_ok_iff]
    decide
  have hp := setup_of_isSound (baseConfig_unreadable rfl rfl) hsound
  have hfiles : scan unreadable.root (Config.under {} { quiet := true }).scan unreadable.dir =
      .ok unreadableFiles := by
    have hscan : (Config.under {} { quiet := true }).scan = {} := by decide
    rw [hscan]
    exact scan_unreadable
  rw [run_of_parse hquiet (by decide)]
  exact (execute_of_scan rfl hp hfiles).exitCode

/-- With arguments that exclude in front of a command line nothing of a configuration changes but
its ignore list.  It gets the pieces between the commas of the globs behind its own globs: those
that are new, each of them once and in the order in which they are given; a glob without a comma
is one piece.  A run that succeeds without the arguments succeeds with them, if all pieces can be
excluded under its settings and there is room for the globs of the ignore list that results. -/
theorem run_excluding [Glob.Capacity] (globs : List Text) :
    (∃ a, parse (globs.map excluding) = .ok a ∧ ∀ c : Config,
      c.merge a.overrides =
        { c with scan := { c.scan with
            ignore := c.scan.ignore ++ Config.unlisted c.scan.ignore (cutGlobs globs) } }) ∧
    ((∀ glob ∈ globs, ',' ∉ glob) → cutGlobs globs = globs) ∧
    ∀ s arguments, (run s arguments).exitCode = 0 →
      (∀ a p, parse arguments = .ok a → setup s a = .ok p →
        ∀ piece ∈ cutGlobs globs, IsExcludable p.config.scan.caseInsensitive piece) →
      (∀ a p, parse (globs.map excluding ++ arguments) = .ok a → setup s a = .ok p →
        FileFilter.FitTogether p.config.scan.caseInsensitive p.config.scan.ignore) →
      (run s (globs.map excluding ++ arguments)).exitCode = 0 := by
  refine ⟨⟨Arguments.alsoExcluding globs {}, ?_, Config.merge_alsoExcluding globs⟩,
    CommandLine.cutGlobs_eq_self, fun s arguments hcode hglobs hfits => ?_⟩
  · rw [← List.append_nil (globs.map excluding), CommandLine.parse_excluding]
    rfl
  · rw [CommandLine.parse_excluding] at hfits
    unfold run at hcode ⊢
    rw [CommandLine.parse_excluding]
    cases harguments : parse arguments with
    | ok a =>
      rw [harguments] at hcode hfits
      change (if logReturns s then execute s a else aborted s).exitCode = 0 at hcode
      change (if logReturns s then execute s (a.alsoExcluding globs) else aborted s).exitCode = 0
      split at hcode
      · rename_i hlog
        rw [if_pos hlog]
        exact execute_alsoExcluding hcode (fun p => hglobs a p harguments) fun p => hfits _ p rfl
      · cases hcode
    | error stop =>
      -- what stops a command line stops it behind other arguments, and leaves the same
      rw [harguments] at hcode
      exact hcode

/-- Of a glob that is left out already and one that is given twice, one goes to the ignore
list. -/
theorem run_excluding_twice :
    (∃ a, parse ["--exclude=**/dist/**", "--exclude=[a]b/**", "--exclude=[a]b/**"] = .ok a ∧
      (Config.merge {} a.overrides).scan.ignore =
        ScanConfig.ignore {} ++ ["[a]b/**".toList]) ∧
    (run unreadable ["--quiet"]).exitCode = 0 ∧
    (run unreadable ["--exclude=**/dist/**", "--exclude=[a]b/**", "--exclude=[a]b/**",
      "--quiet"]).exitCode = 0 := by
  obtain ⟨⟨a, ha, hmerge⟩, hwhole, hrun⟩ := run_excluding ["**/dist/**", "[a]b/**", "[a]b/**"]
  have hcut := hwhole (by decide)
  refine ⟨⟨a, ha, ?_⟩, exitCode_unreadable,
    hrun unreadable ["--quiet"] exitCode_unreadable ?_ fun a p ha hp => ?_⟩
  · rw [hmerge, hcut]
    decide
  · rw [hcut]
    intro a p ha hp
    have hquiet : parse ["--quiet"] = .ok { quiet := true } := by decide
    cases ha.symm.trans hquiet
    rw [config_unreadable rfl rfl hp]
    decide +kernel
  · have hparse : parse ["--exclude=**/dist/**", "--exclude=[a]b/**", "--exclude=[a]b/**",
        "--quiet"] =
          .ok { exclude := some ["**/dist/**", "[a]b/**", "[a]b/**"], quiet := true } := by
      decide
    cases ha.symm.trans hparse
    rw [config_unreadable rfl rfl hp]
    apply FileFilter.fitTogether_of_compileSet
    decide +kernel

def commaGroup : Text := "\x7ba,b\x7d"

def cutGroupScan : ScanConfig where
  ignore := ScanConfig.ignore {} ++ (["\x7ba", "b\x7d"] : List Text)

/-- The group can be excluded as it stands, and yet what goes to the ignore list is what stands
before its comma and what stands behind it, so that a run fails. -/
theorem excluding_commaGroup :
    IsExcludable true commaGroup ∧
    (∃ a, parse [excluding commaGroup] = .ok a ∧
      (Config.merge {} a.overrides).scan = cutGroupScan) ∧
    cutGroupScan.ignore ≠
      ScanConfig.ignore {} ++ Config.unlisted (ScanConfig.ignore {}) [commaGroup] ∧
    (∃ cause, FileFilter.ofConfig cutGroupScan = .error (.invalidPattern "\x7ba" cause)) ∧
    (run unreadable ["--quiet"]).exitCode = 0 ∧
    (run unreadable [excluding commaGroup, "--quiet"]).exitCode = 1 := by
  have hrefused : ∃ cause,
      FileFilter.ofConfig cutGroupScan = .error (.invalidPattern "\x7ba" cause) := by
    have hnamed : FileFilter.refused cutGroupScan = "\x7ba".toList := by decide +kernel
    have hopen : FileFilter.isGlob true "\x7ba" = false := by decide +kernel
    rw [← hnamed]
    exact FileFilter.ofConfig_of_refused (.inl ⟨"\x7ba", by decide, Bool.eq_false_iff.mp hopen⟩)
  have hparse : parse [excluding commaGroup, "--quiet"] =
      .ok { exclude := some ["\x7ba", "b\x7d"], quiet := true } := by
    decide
  refine ⟨by decide +kernel, ⟨{ exclude := some ["\x7ba", "b\x7d"] }, by decide, by decide⟩,
    by decide, hrefused, exitCode_unreadable, ?_⟩
  rw [run_of_parse hparse (by decide)]
  refine (execute_of_not_scan rfl fun p files hp hfiles => ?_).exitCode
  have hscan : (Config.under {} { exclude := some ["\x7ba", "b\x7d"], quiet := true }).scan =
      cutGroupScan := by
    decide
  obtain ⟨cause, hcause⟩ := hrefused
  rw [config_unreadable rfl rfl hp, hscan] at hfiles
  obtain ⟨f, hf, -⟩ := bind_eq_ok_iff.mp hfiles
  rw [hcause] at hf
  cases hf

end Program

end ImportCensus
