import ImportCensus.Proofs.Census
import ImportCensus.Proofs.Config.Saving
import ImportCensus.Proofs.Discovery.Scanning
import ImportCensus.Proofs.FileTree.Frame
import ImportCensus.Proofs.Program.Setup
/-!
# What a run leaves

A run that finds its settings and can list the files of its folder succeeds, whichever of these
files can be read, and prints its result.  Any other run fails and prints nothing as a result.
How much else is told bears on neither, and the tree stays as it is: only a run that makes a
configuration file writes one.  All this goes for runs in which the log setting is read to its end;
where its reader breaks off, nothing is done at all.
-/

namespace ImportCensus

namespace CommandLine.Arguments

end CommandLine.Arguments

namespace Effect

/-- Whether a run fails: it prints no result and leaves the tree as it was. -/
structure IsFailure (e : Effect) (root : FileTree) : Prop where
  exitCode : e.exitCode = 1
  stdout : e.stdout = []
  root : e.root = root

/-- Whether a run succeeds with a result, and leaves the tree as it was. -/
structure IsSuccess (e : Effect) (root : FileTree) (result : Text) : Prop where
  exitCode : e.exitCode = 0
  stdout : e.stdout = result
  root : e.root = root

end Effect

namespace Console

variable {c c' : Console} {census : Census} {d d' : Number.Duration}

end Console

namespace Program

open CommandLine (Arguments parse)
open Discovery FileTree

variable {s s' : Surroundings} {a a' : Arguments} {p : Setup} {files : List SourceFile}
  {arguments arguments' : List Text}

/-! ## Success and failure -/

/-- The result of a run over some files, as it is printed. -/
def printed (s : Surroundings) (a : Arguments) (p : Setup) (files : List SourceFile)
    (elapsed : Number.Duration) : Text :=
  p.console.result (Census.ofPaths s.root p.base a.packageFilter files) elapsed ++ "\n"

section Running

variable [Glob.Capacity]

theorem report_of_scan (h : scan s.root p.config.scan p.base = .ok files)
    (events : List Log.Event) :
    Effect.IsSuccess (report s a events p) s.root (printed s a p files s.elapsed) := by
  rw [report, Census.take_of_scan h]
  exact ⟨rfl, rfl, rfl⟩

theorem report_of_not_scan {cause : Error} (h : scan s.root p.config.scan p.base = .error cause)
    (events : List Log.Event) : Effect.IsFailure (report s a events p) s.root := by
  rw [report, Census.take_of_not_scan h]
  exact ⟨rfl, rfl, rfl⟩

theorem execute_of_scan (ha : a.generateConfig = false) (hp : setup s a = .ok p)
    (hfiles : scan s.root p.config.scan p.base = .ok files) :
    Effect.IsSuccess (execute s a) s.root (printed s a p files s.elapsed) := by
  rw [execute, ha, hp]
  exact report_of_scan hfiles _

theorem execute_of_not_scan (ha : a.generateConfig = false)
    (h : ∀ p files, setup s a = .ok p → scan s.root p.config.scan p.base ≠ .ok files) :
    Effect.IsFailure (execute s a) s.root := by
  cases hp : setup s a with
  | error cause =>
    rw [execute, ha, hp]
    exact ⟨rfl, rfl, rfl⟩
  | ok p =>
    cases hscan : scan s.root p.config.scan p.base with
    | ok files => exact absurd hscan (h p files hp)
    | error cause =>
      rw [execute, ha, hp]
      exact report_of_not_scan hscan _

/-- Settings, globs and the list of files are all that can make a run fail. -/
theorem exitCode_execute_eq_zero_iff (ha : a.generateConfig = false) :
    (execute s a).exitCode = 0 ↔ ∃ p f files, setup s a = .ok p ∧
      FileFilter.ofConfig p.config.scan = .ok f ∧
      list s.root p.config.scan f p.base = .ok files := by
  constructor
  · intro hcode
    by_contra hnone
    have hfailure : Effect.IsFailure (execute s a) s.root := by
      refine execute_of_not_scan ha fun p files hp hfiles => hnone ?_
      obtain ⟨f, hf, hlist⟩ := bind_eq_ok_iff.mp hfiles
      exact ⟨p, f, files, hp, hf, hlist⟩
    rw [hfailure.exitCode] at hcode
    cases hcode
  · rintro ⟨p, f, files, hp, hf, hlist⟩
    exact (execute_of_scan ha hp (bind_eq_ok_iff.mpr ⟨f, hf, hlist⟩)).exitCode

end Running

/-! ## What is told beside the result -/

section Muted

end Muted

/-! ## Making a configuration file -/

section Runs

variable [Glob.Capacity]

theorem run_of_parse (h : parse arguments = .ok a) (hlog : logReturns s = true) :
    run s arguments = execute s a := by
  rw [run, h]
  exact if_pos hlog

/-- Where the reader of the log setting breaks off, the run ends, and it leaves nothing. -/
theorem run_of_not_logReturns (h : parse arguments = .ok a) (hlog : logReturns s = false) :
    (run s arguments).exitCode = 134 ∧ (run s arguments).stdout = [] ∧
      (run s arguments).root = s.root := by
  have hrun : run s arguments = aborted s := by
    rw [run, h]
    exact if_neg (Bool.eq_false_iff.mp hlog)
  rw [hrun]
  exact ⟨rfl, rfl, rfl⟩

-- the blank shifts the word before the equals sign, and its new end is within the letter
example : logReturns { root := .folder [], dir := [], logSetting := some " é=info" } = false := by
  decide

end Runs

/-! ## A file that cannot be read -/

section Unreadable

def unreadable : Surroundings where
  root := .folder [(Path.ofText "b.ts", .sealed)]
  dir := Path.ofText "/"
  logSetting := some "trace"
  elapsed := .ofParts 2 0

def unreadableFiles : List SourceFile :=
  [⟨Path.ofText "/b.ts", [Path.ofText "b.ts"], 0⟩]

theorem baseConfig_unreadable (h : a.config = none) (hdir : a.dir = none) :
    baseConfig unreadable a = .ok {} := by
  have hmissing : ∀ name ∈ ["impseek.toml".toList, ".impseek.toml".toList],
      FileTree.pathExists unreadable.root (Path.join unreadable.dir (Path.ofText name)) = false := by
    intro name hname
    have hsteps : Path.steps (Path.join unreadable.dir (Path.ofText name)) =
        [Path.ofText name] := by
      revert name
      decide
    refine pathExists_root_vacant ?_ hsteps ?_ ?_ <;> revert name <;> decide
  rw [baseConfig, h]
  simp only [defaultFile, folderOf, hdir, hmissing _ List.mem_cons_self,
    hmissing _ (List.mem_cons_of_mem _ List.mem_cons_self)]
  rfl

theorem scan_unreadable :
    scan unreadable.root {} unreadable.dir = .ok unreadableFiles := by
  obtain ⟨f, hf, hsource, -⟩ : ∃ f, FileFilter.ofConfig {} = .ok f ∧
      f.isSource (Path.ofText "b.ts") = true ∧ f.entersFolder (Path.ofText "b.ts") = true :=
    exists_ofConfig (by decide +kernel)
  obtain ⟨real, -, -, hseen⟩ := survey_of_node
    (node_root [(Path.ofText "b.ts", .sealed)]) false
  have hname : Path.ofNames ([] ++ [Path.ofText "b.ts"]) = Path.ofText "b.ts" := by decide
  refine bind_eq_ok_iff.mpr ⟨f, hf, ?_⟩
  refine list_eq_ok_iff.mpr ⟨_, _, hseen, ?_, (List.mergeSort_singleton _).symm⟩
  simp only [sights, Node.sight, collectIn, collectAt, withinDepth, if_true, hname, hsource]
  rfl

end Unreadable

end Program

end ImportCensus
