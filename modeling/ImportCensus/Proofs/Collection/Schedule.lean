import ImportCensus.Proofs.Collection.Report
import Mathlib.Algebra.GroupWithZero.Nat
/-!
# Reading files at the same time

The files of a list are read by one task each.  The tasks are started in the order of the list
and then go on in any order; a joiner waits for them in the order of the list and adds what they
gave to the report.  Whatever the schedule, the report comes out the same.
-/

namespace ImportCensus.Collection

open Statement

/-- How far the task of a file has come. -/
inductive Task
  | started (job : Job)
  /-- The bytes have been read, or could not be. -/
  | loaded (path : Path) (content : Except OsError (List UInt8))
  | extracted (outcome : Outcome)
  /-- The progress has been ticked, and the joiner may take the outcome. -/
  | finished (outcome : Outcome)

namespace Task

def outcome (package : PackageFilter) : Task → Outcome
  | started job => job.outcome package
  | loaded path content => Collection.outcome package path content
  | extracted outcome => outcome
  | finished outcome => outcome

def isFinished : Task → Bool
  | finished _ => true
  | _ => false

def left : Task → Nat
  | started _ => 3
  | loaded .. => 2
  | extracted _ => 1
  | finished _ => 0

def next? (package : PackageFilter) : Task → Option Task
  | started job => some (loaded job.path job.content)
  | loaded path content => some (extracted (Collection.outcome package path content))
  | extracted outcome => some (finished outcome)
  | finished _ => none

variable {package : PackageFilter} {t t' : Task}

theorem outcome_of_next? (h : t.next? package = some t') :
    t'.outcome package = t.outcome package := by
  cases t <;> cases h <;> rfl

theorem left_of_next? (h : t.next? package = some t') : t'.left + 1 = t.left := by
  cases t <;> cases h <;> rfl

theorem not_isFinished_of_next? (h : t.next? package = some t') : t.isFinished = false := by
  cases t <;> cases h <;> rfl

theorem eq_finished_of_next? (h : t.next? package = none) : ∃ outcome, t = finished outcome := by
  cases t <;> cases h
  exact ⟨_, rfl⟩

theorem left_of_isFinished (h : t.isFinished = true) : t.left = 0 := by
  cases t <;> cases h
  rfl

end Task

/-- The tasks started so far, how many of them have been joined, and what they have left behind. -/
structure State where
  tasks : List Task := []
  joined : Nat := 0
  report : Report := {}
  ticks : Nat := 0

/-- What happens next: a task is started, the task at a position goes on, or one is joined. -/
inductive Event
  | start
  | advance (position : Nat)
  | join

namespace State

variable (package : PackageFilter) (jobs : List Job)

/-- One step of the whole.  Joining begins when all tasks have been started. -/
def step (s : State) : Event → Option State
  | .start => jobs[s.tasks.length]?.map fun job => { s with tasks := s.tasks ++ [.started job] }
  | .advance position => do
    let task ← s.tasks[position]?
    let task' ← task.next? package
    some { s with
      tasks := s.tasks.set position task'
      ticks := if task'.isFinished then s.ticks + 1 else s.ticks }
  | .join =>
    if s.tasks.length < jobs.length then none
    else
      match s.tasks[s.joined]? with
      | some (.finished outcome) =>
        some { s with joined := s.joined + 1, report := s.report.add outcome }
      | _ => none

def run (s : State) : List Event → Option State
  | [] => some s
  | event :: schedule => do (← s.step package jobs event).run schedule

def left (s : State) : Nat :=
  4 * (jobs.length - s.tasks.length) + (s.tasks.map Task.left).sum + (jobs.length - s.joined)

/-- What holds at every moment of a run. -/
structure IsSound (s : State) : Prop where
  started : s.tasks.length ≤ jobs.length
  outcomes :
    s.tasks.map (Task.outcome package) =
      (jobs.take s.tasks.length).map (Job.outcome package)
  joined : s.joined ≤ s.tasks.length
  finished : ∀ t ∈ s.tasks.take s.joined, t.isFinished = true
  report : s.report = reportOf package (jobs.take s.joined)
  ticks : s.ticks = s.tasks.countP Task.isFinished

end State

/-! ## One step -/

section Step

variable {package : PackageFilter} {jobs : List Job} {s s' : State}

/-- All that an event can do. -/
theorem State.step_cases {event : Event} (h : s.step package jobs event = some s') :
    (∃ job, event = .start ∧ jobs[s.tasks.length]? = some job ∧
      s' = { s with tasks := s.tasks ++ [.started job] }) ∨
    (∃ position t t', event = .advance position ∧ s.tasks[position]? = some t ∧
      t.next? package = some t' ∧
      s' = { s with
        tasks := s.tasks.set position t'
        ticks := if t'.isFinished then s.ticks + 1 else s.ticks }) ∨
    (∃ outcome, event = .join ∧ jobs.length ≤ s.tasks.length ∧
      s.tasks[s.joined]? = some (.finished outcome) ∧
      s' = { s with joined := s.joined + 1, report := s.report.add outcome }) := by
  cases event with
  | start =>
    rw [step, Option.map_eq_some_iff] at h
    obtain ⟨job, hjob, rfl⟩ := h
    exact Or.inl ⟨job, rfl, hjob, rfl⟩
  | advance position =>
    simp only [step, Option.bind_eq_bind, Option.bind_eq_some_iff] at h
    obtain ⟨t, ht, t', ht', hs⟩ := h
    cases hs
    exact Or.inr (Or.inl ⟨position, t, t', rfl, ht, ht', rfl⟩)
  | join =>
    rw [step] at h
    split at h
    · cases h
    · rename_i hall
      split at h
      · rename_i outcome ht
        cases h
        exact Or.inr (Or.inr ⟨outcome, rfl, by omega, ht, rfl⟩)
      · cases h

theorem sum_left_set {tasks : List Task} {position : Nat} {t t' : Task}
    (ht : tasks[position]? = some t) (hleft : t'.left + 1 = t.left) :
    ((tasks.set position t').map Task.left).sum + 1 = (tasks.map Task.left).sum := by
  induction tasks generalizing position with
  | nil => cases ht
  | cons u tasks ih =>
    cases position with
    | zero =>
      cases ht
      simp only [List.set_cons_zero, List.map_cons, List.sum_cons]
      omega
    | succ position =>
      have hrest := ih (List.getElem?_cons_succ ▸ ht)
      simp only [List.set_cons_succ, List.map_cons, List.sum_cons]
      omega

namespace State

theorem IsSound.initial : IsSound package jobs {} :=
  ⟨Nat.zero_le _, rfl, Nat.le_refl _, by simp, rfl, rfl⟩

theorem IsSound.start (h : IsSound package jobs s) {job : Job}
    (hjob : jobs[s.tasks.length]? = some job) :
    IsSound package jobs { s with tasks := s.tasks ++ [.started job] } := by
  obtain ⟨hlt, -⟩ := List.getElem?_eq_some_iff.mp hjob
  refine ⟨?_, ?_, ?_, ?_, h.report, ?_⟩
  · rw [List.length_append, List.length_singleton]
    exact hlt
  · rw [List.length_append, List.length_singleton, List.take_add_one, hjob, List.map_append,
      h.outcomes, List.map_append]
    rfl
  · have hjoined := h.joined
    simp only [List.length_append]
    omega
  · rw [List.take_append_of_le_length h.joined]
    exact h.finished
  · simp [h.ticks, Task.isFinished]

theorem IsSound.advance (h : IsSound package jobs s) {position : Nat} {t t' : Task}
    (ht : s.tasks[position]? = some t) (hnext : t.next? package = some t') :
    IsSound package jobs { s with
      tasks := s.tasks.set position t'
      ticks := if t'.isFinished then s.ticks + 1 else s.ticks } := by
  obtain ⟨hlt, hget⟩ := List.getElem?_eq_some_iff.mp ht
  -- a task that has been joined has no next step
  have hposition : s.joined ≤ position := by
    apply Nat.le_of_not_lt
    intro hjoined
    have hmem : t ∈ s.tasks.take s.joined := by
      rw [List.mem_take_iff_getElem]
      exact ⟨position, by omega, hget⟩
    have hfinished := h.finished t hmem
    rw [Task.not_isFinished_of_next? hnext] at hfinished
    cases hfinished
  refine ⟨?_, ?_, ?_, ?_, h.report, ?_⟩
  · simpa using h.started
  · have hself : (s.tasks.map (Task.outcome package)).set position (t.outcome package) =
        s.tasks.map (Task.outcome package) := by
      rw [← List.map_set, ← hget, List.set_getElem_self]
    rw [List.map_set, Task.outcome_of_next? hnext, hself, List.length_set, ← h.outcomes]
  · simpa using h.joined
  · rw [List.take_set_of_le hposition]
    exact h.finished
  · rw [List.countP_set hlt, hget, Task.not_isFinished_of_next? hnext, ← h.ticks]
    split <;> simp_all

theorem IsSound.join (h : IsSound package jobs s) {outcome : Outcome}
    (hall : jobs.length ≤ s.tasks.length)
    (ht : s.tasks[s.joined]? = some (.finished outcome)) :
    IsSound package jobs
      { s with joined := s.joined + 1, report := s.report.add outcome } := by
  obtain ⟨hlt, -⟩ := List.getElem?_eq_some_iff.mp ht
  have hstarted := h.started
  have hin : s.joined < jobs.length := by omega
  obtain ⟨job, hjob⟩ : ∃ job, jobs[s.joined]? = some job := ⟨_, List.getElem?_eq_getElem hin⟩
  have houtcome : job.outcome package = outcome := by
    have hget : (s.tasks.map (Task.outcome package))[s.joined]? = some outcome := by
      rw [List.getElem?_map, ht]
      rfl
    rw [h.outcomes, List.getElem?_map, List.getElem?_take_of_lt hlt, hjob] at hget
    exact Option.some.inj hget
  refine ⟨h.started, h.outcomes, hlt, ?_, ?_, h.ticks⟩
  · rw [List.take_add_one, ht]
    intro u hu
    rw [List.mem_append] at hu
    rcases hu with hu | hu
    · exact h.finished u hu
    · rw [List.mem_singleton.mp hu]
      rfl
  · rw [List.take_add_one, hjob, Option.toList_some, reportOf_concat, houtcome, ← h.report]

/-- A step keeps the state sound and brings the end one event closer. -/
theorem IsSound.step (h : IsSound package jobs s) {event : Event}
    (hstep : s.step package jobs event = some s') :
    IsSound package jobs s' ∧ s'.left jobs + 1 = s.left jobs := by
  have hstarted := h.started
  rcases step_cases hstep with
    ⟨job, -, hjob, rfl⟩ | ⟨position, t, t', -, ht, hnext, rfl⟩ | ⟨outcome, -, hall, ht, rfl⟩
  · refine ⟨h.start hjob, ?_⟩
    obtain ⟨hlt, -⟩ := List.getElem?_eq_some_iff.mp hjob
    simp only [left, List.length_append, List.length_singleton, List.map_append, List.sum_append,
      List.map_singleton, List.sum_singleton, Task.left]
    omega
  · refine ⟨h.advance ht hnext, ?_⟩
    have hsum := sum_left_set ht (Task.left_of_next? hnext)
    simp only [left, List.length_set]
    omega
  · refine ⟨h.join hall ht, ?_⟩
    obtain ⟨hlt, -⟩ := List.getElem?_eq_some_iff.mp ht
    simp only [left]
    omega

theorem exists_step (package : PackageFilter) (hleft : s.joined < jobs.length) :
    ∃ event s', s.step package jobs event = some s' := by
  by_cases hall : s.tasks.length < jobs.length
  · refine ⟨.start, { s with tasks := s.tasks ++ [.started jobs[s.tasks.length]] }, ?_⟩
    rw [State.step, List.getElem?_eq_getElem hall, Option.map_some]
  · have ht := List.getElem?_eq_getElem (show s.joined < s.tasks.length by omega)
    cases hnext : (s.tasks[s.joined]).next? package with
    | some t' =>
      let ticks := if t'.isFinished then s.ticks + 1 else s.ticks
      refine ⟨.advance s.joined, { s with tasks := s.tasks.set s.joined t', ticks }, ?_⟩
      rw [State.step, ht, Option.bind_eq_bind, Option.bind_some, hnext]
      rfl
    | none =>
      obtain ⟨outcome, houtcome⟩ := Task.eq_finished_of_next? hnext
      refine ⟨.join, { s with joined := s.joined + 1, report := s.report.add outcome }, ?_⟩
      rw [State.step, if_neg hall, ht, houtcome]

end State

end Step

/-! ## Whole runs -/

section Run

variable {package : PackageFilter} {jobs : List Job} {s s' : State} {schedule : List Event}

namespace State

theorem IsSound.run (h : IsSound package jobs s) (hrun : s.run package jobs schedule = some s') :
    IsSound package jobs s' ∧ s'.left jobs + schedule.length = s.left jobs := by
  induction schedule generalizing s with
  | nil =>
    cases hrun
    exact ⟨h, rfl⟩
  | cons event schedule ih =>
    rw [State.run, Option.bind_eq_bind, Option.bind_eq_some_iff] at hrun
    obtain ⟨s₁, hstep, hrest⟩ := hrun
    obtain ⟨h₁, hleft₁⟩ := h.step hstep
    obtain ⟨h', hleft'⟩ := ih h₁ hrest
    refine ⟨h', ?_⟩
    rw [List.length_cons]
    omega

/-- From every moment on, the run can be brought to its end. -/
theorem IsSound.exists_run (h : IsSound package jobs s) :
    ∃ more s', s.run package jobs more = some s' ∧ s'.joined = jobs.length := by
  induction hn : s.left jobs using Nat.strongRecOn generalizing s with
  | ind n ih =>
    by_cases hleft : s.joined < jobs.length
    · obtain ⟨event, s₁, hstep⟩ := exists_step package hleft
      obtain ⟨h₁, hleft₁⟩ := h.step hstep
      obtain ⟨more, s', hmore, hend⟩ := ih (s₁.left jobs) (by omega) h₁ rfl
      refine ⟨event :: more, s', ?_, hend⟩
      rw [State.run, hstep, Option.bind_eq_bind, Option.bind_some, hmore]
    · have hjoined := h.joined
      have hstarted := h.started
      exact ⟨[], s, rfl, by omega⟩

theorem IsSound.all_finished (h : IsSound package jobs s) (hend : s.joined = jobs.length) :
    s.tasks.length = jobs.length ∧ ∀ t ∈ s.tasks, t.isFinished = true := by
  have hjoined := h.joined
  have hstarted := h.started
  have hlength : s.tasks.length = jobs.length := by omega
  have hfinished := h.finished
  rw [hend, ← hlength, List.take_length] at hfinished
  exact ⟨hlength, hfinished⟩

theorem IsSound.left_of_joined (h : IsSound package jobs s) (hend : s.joined = jobs.length) :
    s.left jobs = 0 := by
  obtain ⟨hlength, hfinished⟩ := h.all_finished hend
  have hsum : (s.tasks.map Task.left).sum = 0 := by
    rw [List.sum_eq_zero_iff_forall_eq_nat, List.forall_mem_map]
    exact fun t ht => Task.left_of_isFinished (hfinished t ht)
  rw [left, hlength, hend, hsum]
  omega

theorem IsSound.ticks_of_joined (h : IsSound package jobs s) (hend : s.joined = jobs.length) :
    s.ticks = jobs.length := by
  obtain ⟨hlength, hfinished⟩ := h.all_finished hend
  rw [h.ticks, List.countP_eq_length.mpr hfinished, hlength]

theorem IsSound.report_of_joined (h : IsSound package jobs s) (hend : s.joined = jobs.length) :
    s.report = reportOf package jobs := by
  rw [h.report, hend, List.take_length]

end State

/-- Every schedule can be carried on to the end and stops nowhere else, after as many events as
any other; and there the report and the progress depend on the files alone. -/
theorem report_of_run (hrun : State.run package jobs {} schedule = some s) :
    (∃ more s', s.run package jobs more = some s' ∧ s'.joined = jobs.length) ∧
    ((∀ event, s.step package jobs event = none) →
      s.joined = jobs.length ∧ schedule.length = 5 * jobs.length) ∧
    (s.joined = jobs.length →
      s.report.imports.members =
        ((jobs.filterMap Job.content?).flatMap fun bytes =>
          imports package (Text.decodeLossy bytes)).eraseDups ∧
      s.report.errors = jobs.filterMap Job.complaint? ∧
      s.report.filesRead + s.report.filesFailed = jobs.length ∧
      s.ticks = jobs.length ∧
      (∀ root base paths, jobs = jobsIn root base paths →
        s.report = collect root package base paths) ∧
      ∀ others schedule' s', State.run package others {} schedule' = some s' →
        s'.joined = others.length →
        others.filterMap Job.content? = jobs.filterMap Job.content? →
        s'.report.imports = s.report.imports ∧ s'.report.filesRead = s.report.filesRead) := by
  obtain ⟨hsound, hlength⟩ := State.IsSound.initial.run hrun
  refine ⟨hsound.exists_run, fun hstuck => ?_, fun hend => ?_⟩
  · -- as long as jobs are left, some event can happen
    have hend : s.joined = jobs.length := by
      have hjoined := hsound.joined
      have hstarted := hsound.started
      by_contra hne
      have hleft : s.joined < jobs.length := by omega
      obtain ⟨event, s', hstep⟩ := State.exists_step package hleft
      rw [hstuck event] at hstep
      cases hstep
    refine ⟨hend, ?_⟩
    have hleft := hsound.left_of_joined hend
    have hstart : State.left jobs {} = 5 * jobs.length := by
      simp only [State.left, List.length_nil, List.map_nil, List.sum_nil]
      omega
    omega
  · have hdescribes := describes_reportOf package jobs
    rw [← hsound.report_of_joined hend] at hdescribes
    refine ⟨hdescribes.members, hdescribes.errors, hdescribes.count, hsound.ticks_of_joined hend,
      ?_, ?_⟩
    · rintro root base paths rfl
      rw [hsound.report_of_joined hend, collect_eq]
    · intro others schedule' s' hrun' hend' hsame
      have hsound' := (State.IsSound.initial.run hrun').1
      have hdescribes' := describes_reportOf package others
      rw [← hsound'.report_of_joined hend'] at hdescribes'
      exact hdescribes.congr hdescribes' hsame

/-- A missing file before another one that is read first. -/
theorem report_of_run_out_of_order :
    ∃ s, State.run none
        [⟨[98], .error .notFound⟩, ⟨[97], .ok (Text.utf8 "import b, \x7ba\x7d from 'x'")⟩] {}
        [.start, .start, .advance 1, .advance 0, .advance 1, .advance 1, .advance 0, .advance 0,
          .join, .join] = some s ∧
      s.report.imports.members = ["b".toList, "a".toList] ∧ s.ticks = 2 := by
  obtain ⟨s, hrun, hend⟩ : ∃ s, State.run none
      [⟨[98], .error .notFound⟩, ⟨[97], .ok (Text.utf8 "import b, \x7ba\x7d from 'x'")⟩] {}
      [.start, .start, .advance 1, .advance 0, .advance 1, .advance 1, .advance 0, .advance 0,
        .join, .join] = some s ∧ s.joined = 2 := ⟨_, rfl, rfl⟩
  obtain ⟨hmembers, -, -, hticks, -⟩ := (report_of_run hrun).2.2 hend
  exact ⟨s, hrun, hmembers.trans (by decide), hticks⟩

end Run

end ImportCensus.Collection
