import ImportCensus.Collection
import ImportCensus.Proofs.Except
import ImportCensus.Proofs.ImportSet
/-!
# The report of a list of files

What a report holds, in terms of the read results of the files: the distinct symbols of the files
that could be read, the messages of the others, and how many there are of either kind.
-/

namespace ImportCensus.Collection

open Statement

/-- A file to be read, with what reading its bytes is going to give. -/
structure Job where
  path : Path
  content : Except OsError (List UInt8)

namespace Job

def outcome (package : PackageFilter) (job : Job) : Outcome :=
  Collection.outcome package job.path job.content

def content? (job : Job) : Option (List UInt8) :=
  job.content.toOption

def complaint? (job : Job) : Option Text :=
  match job.content with
  | .ok _ => none
  | .error cause => some (Error.readFailed job.path cause).userMessage

variable {path : Path} {content : List UInt8} {cause : OsError}

theorem outcome_ok {package : PackageFilter} :
    outcome package ⟨path, .ok content⟩ = .ok (symbolsOf package content) := rfl

theorem outcome_error {package : PackageFilter} :
    outcome package ⟨path, .error cause⟩ = .error (.readFailed path cause) := rfl

@[simp] theorem content?_ok : content? ⟨path, .ok content⟩ = some content := rfl

@[simp] theorem content?_error : content? ⟨path, .error cause⟩ = none := rfl

@[simp] theorem complaint?_ok : complaint? ⟨path, .ok content⟩ = none := rfl

@[simp] theorem complaint?_error :
    complaint? ⟨path, .error cause⟩ = some (Error.readFailed path cause).userMessage := rfl

end Job

variable {package : PackageFilter} {jobs : List Job}

/-- What a report says of the jobs that went into it. -/
structure Describes (package : PackageFilter) (jobs : List Job) (r : Report) : Prop where
  imports : r.imports = ImportSet.ofList ((jobs.filterMap Job.content?).flatMap (symbolsOf package))
  filesRead : r.filesRead = (jobs.filterMap Job.content?).length
  errors : r.errors = jobs.filterMap Job.complaint?

namespace Describes

variable {r : Report}

theorem add (h : Describes package jobs r) (job : Job) :
    Describes package (jobs ++ [job]) (r.add (job.outcome package)) := by
  obtain ⟨path, content⟩ := job
  cases content with
  | ok content =>
    rw [Job.outcome_ok, Report.add]
    refine ⟨?_, ?_, ?_⟩
    · rw [h.imports, ImportSet.extend_ofList]
      simp
    · simp [h.filesRead]
    · simp [List.filterMap_cons, h.errors]
  | error cause =>
    rw [Job.outcome_error, Report.add]
    refine ⟨?_, ?_, ?_⟩
    · simp [List.filterMap_cons, h.imports]
    · simp [List.filterMap_cons, h.filesRead]
    · simp [h.errors]

theorem members (h : Describes package jobs r) :
    r.imports.members =
      ((jobs.filterMap Job.content?).flatMap (symbolsOf package)).eraseDups := by
  rw [h.imports, ImportSet.members_ofList]

theorem count (h : Describes package jobs r) : r.filesRead + r.filesFailed = jobs.length := by
  rw [Report.filesFailed, h.filesRead, h.errors]
  clear h
  induction jobs with
  | nil => rfl
  | cons job jobs ih =>
    obtain ⟨path, content⟩ := job
    cases content <;> simp only [List.filterMap_cons, Job.content?_ok, Job.complaint?_ok,
      Job.content?_error, Job.complaint?_error, List.length_cons] <;> omega

/-- Files that cannot be read change nothing but the complaints. -/
theorem congr {others : List Job} {r' : Report} (h : Describes package jobs r)
    (h' : Describes package others r')
    (hsame : others.filterMap Job.content? = jobs.filterMap Job.content?) :
    r'.imports = r.imports ∧ r'.filesRead = r.filesRead := by
  rw [h.imports, h'.imports, h.filesRead, h'.filesRead, hsame]
  exact ⟨rfl, rfl⟩

end Describes

/-- The report of the jobs of a list, when each has given what it has to give. -/
def reportOf (package : PackageFilter) (jobs : List Job) : Report :=
  join (jobs.map (Job.outcome package))

theorem reportOf_concat (job : Job) :
    reportOf package (jobs ++ [job]) = (reportOf package jobs).add (job.outcome package) := by
  simp [reportOf, join]

theorem describes_reportOf (package : PackageFilter) (jobs : List Job) :
    Describes package jobs (reportOf package jobs) := by
  induction jobs using List.reverseRecOn with
  | nil => exact ⟨rfl, rfl, rfl⟩
  | append_singleton jobs job ih =>
    rw [reportOf_concat]
    exact ih.add job

def jobsIn (root : FileTree) (base : Path) (paths : List Path) : List Job :=
  paths.map fun path =>
    { path := Path.join base path, content := FileTree.bytesAt root (Path.join base path) }

theorem collect_eq (root : FileTree) (package : PackageFilter) (base : Path)
    (paths : List Path) :
    collect root package base paths = reportOf package (jobsIn root base paths) := by
  rw [collect, outcomes, reportOf, jobsIn, List.map_map]
  rfl

theorem mem_imports_collect_iff {root : FileTree} {base : Path} {paths : List Path}
    {symbol : Text} :
    symbol ∈ (collect root package base paths).imports ↔
      ∃ path ∈ paths, ∃ content, FileTree.bytesAt root (Path.join base path) = .ok content ∧
        symbol ∈ symbolsOf package content := by
  have hmembers := (describes_reportOf package (jobsIn root base paths)).members
  change symbol ∈ (collect root package base paths).imports.members ↔ _
  rw [collect_eq, hmembers, List.mem_eraseDups, jobsIn, List.filterMap_map]
  simp only [List.mem_flatMap, List.mem_filterMap, Function.comp_apply, Job.content?,
    toOption_eq_some_iff]
  constructor
  · rintro ⟨content, ⟨path, hpath, hcontent⟩, hsymbol⟩
    exact ⟨path, hpath, content, hcontent, hsymbol⟩
  · rintro ⟨path, hpath, content, hcontent, hsymbol⟩
    exact ⟨content, ⟨path, hpath, hcontent⟩, hsymbol⟩

end ImportCensus.Collection
