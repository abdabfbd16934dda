import CloudStudio.Queue.Workers

/-!
# Stranded jobs

A claimed job goes on only in the hands of the worker that claimed it: nothing
leads a job back from `PROCESSING` but that worker's own write.  So a job is
stranded just when its worker ends first, or the write that puts it back fails.
-/

namespace CloudStudio.Queue

open CloudStudio.Platform CloudStudio.Payouts

section

variable {Worker : Type} [DecidableEq Worker]

/-- Every job is finished, pending or held by a worker that is still there. -/
def NothingStranded (state : QueueState Worker) : Prop :=
  ∀ (position : ℕ) (job : Job), state.jobs[position]? = some job →
    job.status = .completed ∨ job.status = .dead ∨ job.status = .pending ∨
      ∃ worker copy, Holds state worker position copy

omit [DecidableEq Worker] in
/-- A pending job that is due is the next one when the older ones are locked. -/
theorem unlockedDueJob?_of_pending {now : Time} {jobs : List Job} {position : ℕ}
    {job : Job} (found : jobs[position]? = some job)
    (pending : job.status = .pending) (due : job.runAt ≤ now) :
    unlockedDueJob? now (List.range position) jobs = some position := by
  obtain ⟨within, _⟩ := List.getElem?_eq_some_iff.mp found
  apply List.find?_range_eq_some.mpr
  refine ⟨?_, List.mem_range.mpr within, ?_⟩
  · apply decide_eq_true
    refine ⟨?_, job, found, pending, due⟩
    rw [List.mem_range]
    exact lt_irrefl position
  · intro older before
    simp [List.mem_range.mpr before]

/-- A pending job can be claimed by any idle worker from its time on. -/
theorem pending_claimable {state : QueueState Worker} {worker : Worker}
    {now : Time} {position : ℕ} {job : Job}
    (idle : state.workers worker = .idle)
    (found : state.jobs[position]? = some job) (pending : job.status = .pending)
    (due : job.runAt ≤ now) :
    ∃ locked next, QueueStep state (.claim worker now locked position) next :=
  ⟨List.range position, _,
    .claim state worker now (List.range position) position job idle
      (unlockedDueJob?_of_pending found pending due) found⟩

/-- A worker that holds a job ends, or cannot write that it failed. -/
def Strands (state : QueueState Worker) : QueueEvent Worker → Prop
  | .exit worker | .putBackFails worker => ∃ position job,
      Holds state worker position job
  | _ => False

/-- A run whose first step is known. -/
theorem QueueRun.cons {first next state : QueueState Worker}
    {event : QueueEvent Worker} {events : List (QueueEvent Worker)}
    (steps : QueueStep first event next) (runs : QueueRun next events state) :
    QueueRun first (event :: events) state := by
  induction runs with
  | start => exact .step [] event first next .start steps
  | step events last middle after runs more ih =>
      exact .step (event :: events) last middle after ih more

omit [DecidableEq Worker] in
/-- A job that was not stranded is not after a step that keeps its row and its
holder. -/
theorem NothingStranded.of_kept {state next : QueueState Worker}
    (fine : NothingStranded state)
    (kept : ∀ (position : ℕ) (job : Job), next.jobs[position]? = some job →
      (state.jobs[position]? = some job ∧ ∀ worker copy,
        Holds state worker position copy →
        ∃ other more, Holds next other position more) ∨
      job.status = .completed ∨ job.status = .dead ∨ job.status = .pending ∨
        ∃ worker copy, Holds next worker position copy) :
    NothingStranded next := by
  intro position job found
  rcases kept position job found with ⟨old, holders⟩ | now
  · rcases fine position job old with isOver | isOver | pending | ⟨worker, copy,
      holds⟩
    · exact .inl isOver
    · exact .inr (.inl isOver)
    · exact .inr (.inr (.inl pending))
    · exact .inr (.inr (.inr (holders worker copy holds)))
  · exact now

/-- A worker goes on with its job. -/
theorem NothingStranded.keep {state : QueueState Worker}
    (fine : NothingStranded state) {worker : Worker} {activity : Activity}
    (same : activity.job? = (state.workers worker).job?) :
    NothingStranded (state.enter worker activity) := by
  apply fine.of_kept
  intro position job found
  refine .inl ⟨found, fun other copy holds => ?_⟩
  exact ⟨other, copy, (holds_keep same).mpr holds⟩

/-- Another worker than the one that moves still holds its job. -/
theorem holds_other (state : QueueState Worker) {worker other : Worker}
    {activity : Activity} {position : ℕ} {job : Job} (differs : other ≠ worker)
    (holds : Holds state other position job) :
    Holds (state.enter worker activity) other position job := by
  rw [holds_enter, if_neg differs]
  exact holds

/-- A worker writes an outcome that finishes the job or puts it back. -/
theorem NothingStranded.release {state : QueueState Worker}
    (fine : NothingStranded state) {worker : Worker} {position : ℕ} {job : Job}
    (has : Holds state worker position job) {change : Job → Job}
    (disposed : ∀ row, (change row).status = .completed ∨
      (change row).status = .dead ∨ (change row).status = .pending) :
    NothingStranded ((state.write position change).enter worker .idle) := by
  apply fine.of_kept
  intro at_ row at_row
  have looked : (state.jobs.modify position change)[at_]? = some row := at_row
  by_cases same : position = at_
  · rw [← same, List.getElem?_modify_eq] at looked
    obtain ⟨old, _, rfl⟩ := Option.map_eq_some_iff.mp looked
    rcases disposed old with isOver | isOver | pending
    · exact .inr (.inl isOver)
    · exact .inr (.inr (.inl isOver))
    · exact .inr (.inr (.inr (.inl pending)))
  · rw [List.getElem?_modify_ne change state.jobs same] at looked
    refine .inl ⟨looked, fun other copy holds => ⟨other, copy, ?_⟩⟩
    apply holds_other (state.write position change)
    · intro is_worker
      rw [is_worker] at holds
      have both := Option.some.inj (has.symm.trans holds)
      exact same (congrArg Prod.fst both)
    · exact holds

/-- A worker that holds nothing leaves nothing behind. -/
theorem NothingStranded.leave {state : QueueState Worker}
    (fine : NothingStranded state) {worker : Worker}
    (free : ¬ ∃ position job, Holds state worker position job)
    (activity : Activity) : NothingStranded (state.enter worker activity) := by
  apply fine.of_kept
  intro position job found
  refine .inl ⟨found, fun other copy holds => ⟨other, copy, ?_⟩⟩
  apply holds_other state _ holds
  intro is_worker
  rw [is_worker] at holds
  exact free ⟨position, copy, holds⟩

/-- A step strands a job only if it is one that strands. -/
theorem NothingStranded.next {state next : QueueState Worker}
    {event : QueueEvent Worker} (fine : NothingStranded state)
    (steps : QueueStep state event next) (careful : ¬ Strands state event) :
    NothingStranded next := by
  cases steps with
  | enqueue payload maxAttempts runAt =>
      apply fine.of_kept
      intro position job found
      have looked :
        (state.jobs ++ [enqueued payload maxAttempts runAt])[position]? =
        some job := found
      rw [List.getElem?_append] at looked
      split at looked
      · exact .inl ⟨looked, fun worker copy holds => ⟨worker, copy, holds⟩⟩
      · obtain ⟨_, same⟩ := List.getElem?_eq_some_iff.mp looked
        rw [List.getElem_singleton] at same
        rw [← same]
        exact .inr (.inr (.inr (.inl rfl)))
  | claim worker now locked position job idle due found =>
      apply fine.of_kept
      intro at_ row at_row
      by_cases same : position = at_
      · refine .inr (.inr (.inr (.inr ⟨worker, claimed job, ?_⟩)))
        rw [holds_enter, if_pos rfl, same]
        rfl
      · have looked : (state.jobs.modify position claimed)[at_]? = some row :=
          at_row
        rw [List.getElem?_modify_ne claimed state.jobs same] at looked
        refine .inl ⟨looked, fun other copy holds => ⟨other, copy, ?_⟩⟩
        apply holds_other (state.write position claimed) _ holds
        intro is_worker
        rw [is_worker, Holds, idle] at holds
        cases holds
  | start worker position job has => exact fine.keep (by rw [has]; rfl)
  | unregistered worker position job has => exact fine.keep (by rw [has]; rfl)
  | handled worker position job has => exact fine.keep (by rw [has]; rfl)
  | threw worker position job has => exact fine.keep (by rw [has]; rfl)
  | complete worker position job has =>
      exact fine.release (holds_of_activity has rfl)
        fun _ => .inl rfl
  | completeFails worker position job has => exact fine.keep (by rw [has]; rfl)
  | putBack worker now backoffBase position job has =>
      apply fine.release (holds_of_activity has rfl)
      intro row
      unfold Payouts.putBack
      split
      · exact .inr (.inl rfl)
      · exact .inr (.inr rfl)
  | putBackFails worker position job has =>
      exact absurd ⟨position, job, holds_of_activity has rfl⟩ careful
  | exit worker => exact fine.leave careful .gone

/-- A step that strands leaves a claimed job that nobody holds. -/
theorem stranded_of_strands {state next : QueueState Worker}
    {event : QueueEvent Worker} (held : HeldOnce state)
    (steps : QueueStep state event next) (strands : Strands state event) :
    ¬ NothingStranded next := by
  have left {worker : Worker} {activity : Activity}
    (free : activity.job? = none)
      (has : ∃ position job, Holds state worker position job) :
      ¬ NothingStranded (state.enter worker activity) := by
    intro fine
    obtain ⟨position, job, holds⟩ := has
    obtain ⟨row, status⟩ := held.row worker position job holds
    rcases fine position job row with isOver | isOver | pending | ⟨other,
      copy, holdsToo⟩
    · rw [status] at isOver
      cases isOver
    · rw [status] at isOver
      cases isOver
    · rw [status] at pending
      cases pending
    · obtain ⟨differs, before⟩ := holds_of_free free holdsToo
      exact differs (held.alone other worker position copy job before holds)
  cases steps with
  | putBackFails worker position job has => exact left rfl strands
  | exit worker => exact left rfl strands
  | _ => exact absurd strands id

/-- No state of a run has a stranded job exactly when no worker of the run ends
while it holds a job, or fails to put one back. -/
theorem nothing_stranded_iff (events : List (QueueEvent Worker))
    (state : QueueState Worker) :
    (∀ earlier later middle, events = earlier ++ later →
      QueueRun fresh earlier middle →
        QueueRun middle later state → NothingStranded middle) ↔
      ∀ earlier event later before next, events = earlier ++ event :: later →
        QueueRun fresh earlier before → QueueStep before event next →
        QueueRun next later state → ¬ Strands before event := by
  constructor
  · intro fine earlier event later before next split runsBefore
      steps rest strands
    have held : HeldOnce before := heldOnce_fresh.run runsBefore
    apply stranded_of_strands held steps strands
    apply fine (earlier ++ [event]) later next _ _ rest
    · rw [split, List.append_assoc]
      rfl
    · exact .step earlier event before next runsBefore steps
  · intro careful earlier later middle split runsBefore rest
    induction runsBefore generalizing later with
    | start =>
        intro position job found
        cases found
    | step earlier event before next runsBefore steps ih =>
        have split_ : events = earlier ++ event :: later := by
          rw [split, List.append_assoc]
          rfl
        apply (ih (event :: later) split_ (rest.cons steps)).next steps
        exact careful earlier event later before next split_ runsBefore steps
          rest

end

/-- A worker is killed after its claim, and its job stays `PROCESSING` for
ever. -/
theorem crash_strands :
    ¬ ∀ events (state : QueueState ℕ), QueueRun fresh events state →
      NothingStranded state := by
  intro fine
  have first : QueueRun (fresh : QueueState ℕ) [.enqueue (.smsSend "m") 1 0]
    _ :=
    .step [] _ _ _ .start (.enqueue _ (.smsSend "m") 1 0)
  have second : QueueRun (fresh : QueueState ℕ) [.enqueue (.smsSend "m") 1 0,
    .claim 0 0 [] 0]
      _ := .step _ _ _ _ first (.claim _ 0 0 [] 0 onlyJob rfl (by decide) rfl)
  have third : QueueRun (fresh : QueueState ℕ)
      [.enqueue (.smsSend "m") 1 0, .claim 0 0 [] 0, .exit 0] _ :=
    .step _ _ _ _ second (.exit _ 0)
  apply stranded_of_strands (heldOnce_fresh.run second) (.exit _ 0) _
    (fine _ _ third)
  exact ⟨0, claimed onlyJob, by rw [Holds, workers_enter_self]; rfl⟩

end CloudStudio.Queue
