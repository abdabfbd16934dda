import CloudStudio.Payouts.Queue

/-!
# The queue under any number of workers

`IiiQueueService` as a state machine: every slot of every instance's concurrency
is a worker that claims a job, starts its handler and writes the outcome, one
database statement a step.  A worker may end at any step.  The job it holds is
the one it claimed, as it claimed it, and nobody else writes that row.
-/

namespace CloudStudio.Queue

open CloudStudio.Platform CloudStudio.Payouts

/-- Where a worker stands with the job it claimed. -/
inductive Activity where
  | idle
  | claimed (position : ℕ) (job : Job)
  | handling (position : ℕ) (job : Job)
  | completing (position : ℕ) (job : Job)
  | failing (position : ℕ) (job : Job)
  | gone
  deriving DecidableEq

/-- The job a worker has claimed and not yet disposed of. -/
def Activity.job? : Activity → Option (ℕ × Job)
  | .claimed position job | .handling position job | .completing position job
  | .failing position job => some (position, job)
  | .idle | .gone => none

/-- The jobs, oldest first, and what each worker is doing. -/
structure QueueState (Worker : Type) where
  jobs : List Job := []
  workers : Worker → Activity := fun _ => .idle

/-- What happens to the queue, with the worker it happens to. -/
inductive QueueEvent (Worker : Type) where
  | enqueue (payload : JobPayload) (maxAttempts : ℕ) (runAt : Time)
  | claim (worker : Worker) (now : Time) (locked : List ℕ) (position : ℕ)
  | start (worker : Worker) (position : ℕ)
  | unregistered (worker : Worker)
  | handled (worker : Worker)
  | threw (worker : Worker)
  | complete (worker : Worker)
  | completeFails (worker : Worker)
  | putBack (worker : Worker) (now : Time) (backoffBase : ℕ)
  | putBackFails (worker : Worker)
  | exit (worker : Worker)

/-- The oldest pending job that is due and not locked by another statement. -/
def unlockedDueJob? (now : Time) (locked : List ℕ) (jobs : List Job) :
    Option ℕ :=
  (List.range jobs.length).find? fun position =>
    position ∉ locked ∧ ∃ job ∈ jobs[position]?, job.status = .pending ∧
      job.runAt ≤ now

section

variable {Worker : Type} [DecidableEq Worker]

def QueueState.enter (state : QueueState Worker) (worker : Worker)
    (activity : Activity) : QueueState Worker :=
  { state with workers := Function.update state.workers worker activity }

def QueueState.write (state : QueueState Worker) (position : ℕ)
    (change : Job → Job) : QueueState Worker :=
  { state with jobs := state.jobs.modify position change }

/-- `job.create`. -/
def enqueued (payload : JobPayload) (maxAttempts : ℕ) (runAt : Time) : Job :=
  { payload, maxAttempts, runAt }

def QueueState.add (state : QueueState Worker) (payload : JobPayload)
    (maxAttempts : ℕ) (runAt : Time) : QueueState Worker :=
  { state with jobs := state.jobs ++ [enqueued payload maxAttempts runAt] }

/-- One step of the queue. -/
inductive QueueStep :
    QueueState Worker → QueueEvent Worker → QueueState Worker → Prop where
  | enqueue (state : QueueState Worker) (payload : JobPayload) (maxAttempts : ℕ)
      (runAt : Time) :
      QueueStep state (.enqueue payload maxAttempts runAt)
        (state.add payload maxAttempts runAt)
  /-- `claim`: one `UPDATE ... FOR UPDATE SKIP LOCKED ... RETURNING`. -/
  | claim (state : QueueState Worker) (worker : Worker) (now : Time)
      (locked : List ℕ) (position : ℕ) (job : Job) :
      state.workers worker = .idle →
      unlockedDueJob? now locked state.jobs = some position →
      state.jobs[position]? = some job →
      QueueStep state (.claim worker now locked position)
        ((state.write position claimed).enter worker
          (.claimed position (claimed job)))
  | start (state : QueueState Worker) (worker : Worker) (position : ℕ)
      (job : Job) : state.workers worker = .claimed position job →
      QueueStep state (.start worker position)
        (state.enter worker (.handling position job))
  /-- There is no handler for the job's queue. -/
  | unregistered (state : QueueState Worker) (worker : Worker) (position : ℕ)
      (job : Job) : state.workers worker = .claimed position job →
      QueueStep state (.unregistered worker)
        (state.enter worker (.failing position job))
  | handled (state : QueueState Worker) (worker : Worker) (position : ℕ)
      (job : Job) : state.workers worker = .handling position job →
      QueueStep state (.handled worker)
        (state.enter worker (.completing position job))
  | threw (state : QueueState Worker) (worker : Worker) (position : ℕ)
      (job : Job) : state.workers worker = .handling position job →
      QueueStep state (.threw worker)
        (state.enter worker (.failing position job))
  | complete (state : QueueState Worker) (worker : Worker) (position : ℕ)
      (job : Job) : state.workers worker = .completing position job →
      QueueStep state (.complete worker)
        ((state.write position completed).enter worker .idle)
  /-- The completion is inside the `try`: when it fails, the job is put back. -/
  | completeFails (state : QueueState Worker) (worker : Worker) (position : ℕ)
      (job : Job) : state.workers worker = .completing position job →
      QueueStep state (.completeFails worker)
        (state.enter worker (.failing position job))
  | putBack (state : QueueState Worker) (worker : Worker) (now : Time)
      (backoffBase : ℕ) (position : ℕ) (job : Job) :
      state.workers worker = .failing position job →
      QueueStep state (.putBack worker now backoffBase)
        ((state.write position (putBack now backoffBase job)).enter worker
          .idle)
  /-- `.catch(() => undefined)`: the worker goes on without its job. -/
  | putBackFails (state : QueueState Worker) (worker : Worker) (position : ℕ)
      (job : Job) : state.workers worker = .failing position job →
      QueueStep state (.putBackFails worker) (state.enter worker .idle)
  /-- The process is killed, or ends when the drain is over. -/
  | exit (state : QueueState Worker) (worker : Worker) :
      QueueStep state (.exit worker) (state.enter worker .gone)

/-- A run of the queue and the events of its steps. -/
inductive QueueRun (first : QueueState Worker) :
    List (QueueEvent Worker) → QueueState Worker → Prop where
  | start : QueueRun first [] first
  | step (events : List (QueueEvent Worker)) (event : QueueEvent Worker)
      (state next : QueueState Worker) :
      QueueRun first events state → QueueStep state event next →
      QueueRun first (events ++ [event]) next

/-! ## Who holds a job -/

def Holds (state : QueueState Worker) (worker : Worker) (position : ℕ)
    (job : Job) : Prop :=
  (state.workers worker).job? = some (position, job)

omit [DecidableEq Worker] in
theorem holds_of_activity {state : QueueState Worker} {worker : Worker}
    {position : ℕ} {job : Job} {activity : Activity}
    (at_ : state.workers worker = activity)
    (has : activity.job? = some (position, job)) :
    Holds state worker position job := by
  rw [Holds, at_]
  exact has

/-- What is held is the row as it is stored, and it has one holder. -/
structure HeldOnce (state : QueueState Worker) : Prop where
  row : ∀ worker position job, Holds state worker position job →
    state.jobs[position]? = some job ∧ job.status = .processing
  alone : ∀ worker other position job copy, Holds state worker position job →
    Holds state other position copy → worker = other

@[simp] theorem workers_enter_self (state : QueueState Worker) (worker : Worker)
    (activity : Activity) :
    (state.enter worker activity).workers worker = activity := by
  simp only [QueueState.enter, Function.update_self]

theorem workers_enter_ne (state : QueueState Worker) {worker other : Worker}
    (activity : Activity) (differs : other ≠ worker) :
    (state.enter worker activity).workers other = state.workers other := by
  simp only [QueueState.enter, Function.update_of_ne differs]

@[simp] theorem jobs_enter (state : QueueState Worker) (worker : Worker)
    (activity : Activity) : (state.enter worker activity).jobs = state.jobs :=
  rfl

theorem holds_enter {state : QueueState Worker} {worker other : Worker}
    {activity : Activity} {position : ℕ} {job : Job} :
    Holds (state.enter worker activity) other position job ↔
      if other = worker then activity.job? = some (position, job)
      else Holds state other position job := by
  unfold Holds
  by_cases same : other = worker
  · rw [if_pos same, same, workers_enter_self]
  · rw [if_neg same, workers_enter_ne state activity same]

/-- Whoever holds a job after a worker has let go of its own held it before. -/
theorem holds_of_free {state : QueueState Worker} {worker other : Worker}
    {activity : Activity} {position : ℕ} {job : Job}
    (free : activity.job? = none)
    (holds : Holds (state.enter worker activity) other position job) :
    other ≠ worker ∧ Holds state other position job := by
  rw [holds_enter] at holds
  split at holds
  · rw [free] at holds
    cases holds
  · rename_i differs
    exact ⟨differs, holds⟩

/-- A worker that goes on with the job it has changes nobody's hold. -/
theorem holds_keep {state : QueueState Worker} {worker other : Worker}
    {activity : Activity} {position : ℕ} {job : Job}
    (same : activity.job? = (state.workers worker).job?) :
    Holds (state.enter worker activity) other position job ↔
      Holds state other position job := by
  rw [holds_enter]
  split
  · rename_i is_worker
    rw [is_worker, same]
    rfl
  · rfl

theorem HeldOnce.keep {state : QueueState Worker} (held : HeldOnce state)
    {worker : Worker} {activity : Activity}
    (same : activity.job? = (state.workers worker).job?) :
    HeldOnce (state.enter worker activity) := by
  constructor
  · intro other position job has
    exact held.row other position job ((holds_keep same).mp has)
  · intro other another position job copy has hasToo
    exact held.alone other another position job copy ((holds_keep same).mp has)
      ((holds_keep same).mp hasToo)

/-- A worker that lets go of its job and leaves the row alone. -/
theorem HeldOnce.drop {state : QueueState Worker} (held : HeldOnce state)
    {worker : Worker} {activity : Activity} (free : activity.job? = none) :
    HeldOnce (state.enter worker activity) := by
  constructor
  · intro other position job holds
    exact held.row other position job (holds_of_free free holds).2
  · intro other another position job copy holds holdsToo
    exact held.alone other another position job copy
      (holds_of_free free holds).2 (holds_of_free free holdsToo).2

/-- A worker that lets go of its job may write the row. -/
theorem HeldOnce.release {state : QueueState Worker} (held : HeldOnce state)
    {worker : Worker} {activity : Activity} {position : ℕ} {job : Job}
    (has : Holds state worker position job) (change : Job → Job)
    (free : activity.job? = none) :
    HeldOnce ((state.write position change).enter worker activity) := by
  have dropped : HeldOnce (state.enter worker activity) := held.drop free
  constructor
  · intro other at_ copy holds
    have before : other ≠ worker ∧ Holds state other at_ copy :=
      holds_of_free free holds
    obtain ⟨row, status⟩ := held.row other at_ copy before.2
    have apart : position ≠ at_ := by
      intro same
      rw [← same] at before
      exact before.1 (held.alone other worker position copy job before.2 has)
    refine ⟨?_, status⟩
    change (state.jobs.modify position change)[at_]? = some copy
    rw [List.getElem?_modify_ne change state.jobs apart]
    exact row
  · exact dropped.alone

/-- A worker without a job may take one that nobody holds. -/
theorem HeldOnce.take {state : QueueState Worker} (held : HeldOnce state)
    {worker : Worker} {position : ℕ} {job : Job}
    (found : state.jobs[position]? = some job)
    (pending : job.status = .pending) :
    HeldOnce ((state.write position claimed).enter worker
      (.claimed position (claimed job))) := by
  have others (other : Worker) (at_ : ℕ) (copy : Job)
      (holds : Holds state other at_ copy) : position ≠ at_ := by
    intro same
    obtain ⟨row, status⟩ := held.row other at_ copy holds
    rw [← same, found, Option.some_inj] at row
    rw [← row, pending] at status
    cases status
  have holds_iff (other : Worker) (at_ : ℕ) (copy : Job) :
      Holds ((state.write position claimed).enter worker
        (.claimed position (claimed job)))
          other at_ copy ↔
        if other = worker then position = at_ ∧ claimed job = copy
        else Holds state other at_ copy := by
    rw [holds_enter]
    simp [Activity.job?, Holds, QueueState.write]
  constructor
  · intro other at_ copy holds
    rw [holds_iff] at holds
    change (state.jobs.modify position claimed)[at_]? = some copy ∧
      copy.status = .processing
    split at holds
    · obtain ⟨rfl, rfl⟩ := holds
      rw [List.getElem?_modify_eq, found]
      exact ⟨rfl, rfl⟩
    · rw [List.getElem?_modify_ne claimed state.jobs
        (others other at_ copy holds)]
      exact held.row other at_ copy holds
  · intro other another at_ copy more holds holdsToo
    rw [holds_iff] at holds holdsToo
    split at holds
    · rename_i is_worker
      split at holdsToo
      · rename_i is_worker_too
        rw [is_worker, is_worker_too]
      · exact absurd holds.1 (others another at_ more holdsToo)
    · split at holdsToo
      · exact absurd holdsToo.1 (others other at_ copy holds)
      · exact held.alone other another at_ copy more holds holdsToo

omit [DecidableEq Worker] in
theorem HeldOnce.add {state : QueueState Worker} (held : HeldOnce state)
    (payload : JobPayload) (maxAttempts : ℕ) (runAt : Time) :
    HeldOnce (state.add payload maxAttempts runAt) := by
  constructor
  · intro worker position job holds
    obtain ⟨row, status⟩ := held.row worker position job holds
    refine ⟨?_, status⟩
    obtain ⟨within, _⟩ := List.getElem?_eq_some_iff.mp row
    exact (List.getElem?_append_left within).trans row
  · exact held.alone

/-- The next due job is pending and due. -/
theorem unlockedDueJob?_spec {now : Time} {locked : List ℕ} {jobs : List Job}
    {position : ℕ} {job : Job}
    (due : unlockedDueJob? now locked jobs = some position)
    (found : jobs[position]? = some job) :
    job.status = .pending ∧ job.runAt ≤ now := by
  have meets := List.find?_some due
  obtain ⟨_, row, at_row, isDue⟩ := of_decide_eq_true meets
  rw [found] at at_row
  cases at_row
  exact isDue

/-- Every step keeps one holder for every claimed job. -/
theorem HeldOnce.next {state next : QueueState Worker}
    {event : QueueEvent Worker} (held : HeldOnce state)
    (steps : QueueStep state event next) : HeldOnce next := by
  cases steps with
  | enqueue payload maxAttempts runAt =>
      exact held.add payload maxAttempts runAt
  | claim worker now locked position job idle due found =>
      exact held.take found (unlockedDueJob?_spec due found).1
  | start worker position job has => exact held.keep (by rw [has]; rfl)
  | unregistered worker position job has => exact held.keep (by rw [has]; rfl)
  | handled worker position job has => exact held.keep (by rw [has]; rfl)
  | threw worker position job has => exact held.keep (by rw [has]; rfl)
  | complete worker position job has =>
      exact held.release (holds_of_activity has rfl)
        completed rfl
  | completeFails worker position job has => exact held.keep (by rw [has]; rfl)
  | putBack worker now backoffBase position job has =>
      exact held.release (holds_of_activity has rfl)
        (Payouts.putBack now backoffBase job) rfl
  | putBackFails worker position job has => exact held.drop rfl
  | exit worker => exact held.drop rfl

theorem HeldOnce.run {first state : QueueState Worker}
    {events : List (QueueEvent Worker)} (held : HeldOnce first)
    (runs : QueueRun first events state) : HeldOnce state := by
  induction runs with
  | start => exact held
  | step events event state next _ steps ih => exact ih.next steps

/-- A queue nobody has used. -/
def fresh : QueueState Worker := {}

omit [DecidableEq Worker] in
theorem heldOnce_fresh : HeldOnce (fresh : QueueState Worker) := by
  constructor
  · intro worker position job holds
    cases holds
  · intro worker other position job copy holds
    cases holds

/-! ## Claims, starts and attempts -/

/-- The event claims the job at this position. -/
def QueueEvent.claims (position : ℕ) : QueueEvent Worker → Bool
  | .claim _ _ _ at_ => decide (at_ = position)
  | _ => false

/-- The event starts the handler of the job at this position. -/
def QueueEvent.starts (position : ℕ) : QueueEvent Worker → Bool
  | .start _ at_ => decide (at_ = position)
  | _ => false

def claimsOf (position : ℕ) (events : List (QueueEvent Worker)) : ℕ :=
  events.countP (QueueEvent.claims position)

def startsOf (position : ℕ) (events : List (QueueEvent Worker)) : ℕ :=
  events.countP (QueueEvent.starts position)

/-- Every job is enqueued with at least one attempt. -/
def Attemptable (events : List (QueueEvent Worker)) : Prop :=
  ∀ payload maxAttempts runAt,
    QueueEvent.enqueue payload maxAttempts runAt ∈ events → 1 ≤ maxAttempts

/-- A job's attempts are its claims, within bounds, and every start uses up a
claim. -/
structure Counted (events : List (QueueEvent Worker))
    (state : QueueState Worker) : Prop where
  attempts : ∀ (position : ℕ) (job : Job), state.jobs[position]? = some job →
    job.attempts = claimsOf position events
  bounded : ∀ (position : ℕ) (job : Job), state.jobs[position]? = some job →
    job.attempts ≤ job.maxAttempts ∧
      (job.status = .pending → job.attempts < job.maxAttempts)
  unborn : ∀ position, state.jobs.length ≤ position →
    claimsOf position events = 0
  starts : ∀ position, startsOf position events ≤ claimsOf position events
  waiting : ∀ worker position job,
    state.workers worker = .claimed position job →
    startsOf position events < claimsOf position events

omit [DecidableEq Worker] in
theorem claimsOf_append (position : ℕ) (events : List (QueueEvent Worker))
    (event : QueueEvent Worker) :
    claimsOf position (events ++ [event]) =
      claimsOf position events + if event.claims position then 1 else 0 := by
  rw [claimsOf, List.countP_append, List.countP_singleton]
  rfl

omit [DecidableEq Worker] in
theorem startsOf_append (position : ℕ) (events : List (QueueEvent Worker))
    (event : QueueEvent Worker) :
    startsOf position (events ++ [event]) =
      startsOf position events + if event.starts position then 1 else 0 := by
  rw [startsOf, List.countP_append, List.countP_singleton]
  rfl

omit [DecidableEq Worker] in
/-- An event that neither claims nor starts leaves the counts; the rows keep
their attempts and their bounds. -/
theorem Counted.quiet {events : List (QueueEvent Worker)}
    {state next : QueueState Worker} {event : QueueEvent Worker}
    (counted : Counted events state)
    (unclaimed : ∀ position, event.claims position = false)
    (unstarted : ∀ position, event.starts position = false)
    (rows : ∀ (position : ℕ) (job : Job), next.jobs[position]? = some job →
      ∃ old, state.jobs[position]? = some old ∧ job.attempts = old.attempts ∧
        job.attempts ≤ job.maxAttempts ∧
        (job.status = .pending → job.attempts < job.maxAttempts))
    (grown : state.jobs.length ≤ next.jobs.length)
    (waiting : ∀ worker position job,
      next.workers worker = .claimed position job →
      state.workers worker = .claimed position job) :
    Counted (events ++ [event]) next := by
  have claims (position : ℕ) :
      claimsOf position (events ++ [event]) = claimsOf position events := by
    rw [claimsOf_append, unclaimed]
    rfl
  have starts (position : ℕ) :
      startsOf position (events ++ [event]) = startsOf position events := by
    rw [startsOf_append, unstarted]
    rfl
  constructor
  · intro position job found
    obtain ⟨old, at_old, same, _⟩ := rows position job found
    rw [claims, same]
    exact counted.attempts position old at_old
  · intro position job found
    obtain ⟨_, _, _, bounded⟩ := rows position job found
    exact bounded
  · intro position beyond
    rw [claims]
    exact counted.unborn position (grown.trans beyond)
  · intro position
    rw [claims, starts]
    exact counted.starts position
  · intro worker position job claimedNow
    rw [claims, starts]
    exact counted.waiting worker position job
      (waiting worker position job claimedNow)

/-- An activity that is not a fresh claim adds no waiting worker. -/
theorem waiting_enter {state : QueueState Worker} {worker : Worker}
    {activity : Activity}
    (other : ∀ position job, activity ≠ .claimed position job) (who : Worker)
    (position : ℕ) (job : Job)
    (claimedNow : (state.enter worker activity).workers who =
      .claimed position job) : state.workers who = .claimed position job := by
  by_cases same : who = worker
  · rw [same, workers_enter_self] at claimedNow
    exact absurd claimedNow (other position job)
  · rwa [workers_enter_ne state activity same] at claimedNow

/-- A worker goes on with its job. -/
theorem Counted.enter {events : List (QueueEvent Worker)}
    {state : QueueState Worker} {event : QueueEvent Worker}
    (counted : Counted events state)
    (unclaimed : ∀ position, event.claims position = false)
    (unstarted : ∀ position, event.starts position = false) {worker : Worker}
    {activity : Activity}
    (other : ∀ position job, activity ≠ .claimed position job) :
    Counted (events ++ [event]) (state.enter worker activity) := by
  apply counted.quiet unclaimed unstarted
  · intro position job found
    exact ⟨job, found, rfl, counted.bounded position job found⟩
  · exact le_rfl
  · exact waiting_enter other

/-- A worker writes the outcome of its job, and is idle. -/
theorem Counted.write {events : List (QueueEvent Worker)}
    {state : QueueState Worker} {event : QueueEvent Worker}
    (counted : Counted events state)
    (unclaimed : ∀ position, event.claims position = false)
    (unstarted : ∀ position, event.starts position = false) {worker : Worker}
    {position : ℕ} {job : Job} (found : state.jobs[position]? = some job)
    (change : Job → Job) (attempts : (change job).attempts = job.attempts)
    (maxAttempts : (change job).maxAttempts = job.maxAttempts)
    (retried : (change job).status = .pending →
      job.attempts < job.maxAttempts) :
    Counted (events ++ [event])
      ((state.write position change).enter worker .idle) := by
  apply counted.quiet unclaimed unstarted
  · intro at_ row at_row
    have looked : (state.jobs.modify position change)[at_]? = some row := at_row
    by_cases same : position = at_
    · rw [← same, List.getElem?_modify_eq, found] at looked
      cases looked
      rw [← same, attempts, maxAttempts]
      exact ⟨job, found, rfl, (counted.bounded position job found).1, retried⟩
    · rw [List.getElem?_modify_ne change state.jobs same] at looked
      exact ⟨row, looked, rfl, counted.bounded at_ row looked⟩
  · exact (List.length_modify _ _ _).ge
  · intro who at_ row claimedNow
    have idle (at_ : ℕ) (row : Job) : Activity.idle ≠ .claimed at_ row := nofun
    exact waiting_enter idle who at_ row claimedNow

omit [DecidableEq Worker] in
theorem Counted.add {events : List (QueueEvent Worker)}
    {state : QueueState Worker} (counted : Counted events state)
    (payload : JobPayload) {maxAttempts : ℕ} (positive : 1 ≤ maxAttempts)
    (runAt : Time) :
    Counted (events ++ [.enqueue payload maxAttempts runAt])
      (state.add payload maxAttempts runAt) := by
  have claims (position : ℕ) :
      claimsOf position (events ++ [.enqueue payload maxAttempts runAt]) =
        claimsOf position events := by
    rw [claimsOf_append]
    rfl
  have starts (position : ℕ) :
      startsOf position (events ++ [.enqueue payload maxAttempts runAt]) =
        startsOf position events := by
    rw [startsOf_append]
    rfl
  have rows (position : ℕ) (job : Job)
      (found : (state.add payload maxAttempts runAt).jobs[position]? =
        some job) :
      state.jobs[position]? = some job ∨
        position = state.jobs.length ∧
          job = enqueued payload maxAttempts runAt := by
    have looked :
      (state.jobs ++ [enqueued payload maxAttempts runAt])[position]? =
      some job := found
    rw [List.getElem?_append] at looked
    split at looked
    · exact .inl looked
    · obtain ⟨within, same⟩ := List.getElem?_eq_some_iff.mp looked
      rw [List.length_singleton] at within
      rw [List.getElem_singleton] at same
      exact .inr ⟨by omega, same.symm⟩
  constructor
  · intro position job found
    rw [claims]
    rcases rows position job found with old | ⟨rfl, rfl⟩
    · exact counted.attempts position job old
    · exact (counted.unborn _ le_rfl).symm
  · intro position job found
    rcases rows position job found with old | ⟨rfl, rfl⟩
    · exact counted.bounded position job old
    · exact ⟨Nat.zero_le maxAttempts, fun _ => positive⟩
  · intro position beyond
    rw [claims]
    apply counted.unborn
    have longer : (state.jobs ++ [enqueued payload maxAttempts runAt]).length ≤
      position :=
      beyond
    rw [List.length_append] at longer
    omega
  · intro position
    rw [claims, starts]
    exact counted.starts position
  · intro worker position job claimedNow
    rw [claims, starts]
    exact counted.waiting worker position job claimedNow

theorem Counted.claim {events : List (QueueEvent Worker)}
    {state : QueueState Worker} (counted : Counted events state)
    (worker : Worker) (now : Time) (locked : List ℕ) {position : ℕ} {job : Job}
    (found : state.jobs[position]? = some job)
    (pending : job.status = .pending) :
    Counted (events ++ [.claim worker now locked position])
      ((state.write position claimed).enter worker
        (.claimed position (claimed job))) := by
  have claims (at_ : ℕ) :
      claimsOf at_ (events ++ [.claim worker now locked position]) =
        claimsOf at_ events + if position = at_ then 1 else 0 := by
    rw [claimsOf_append]
    simp [QueueEvent.claims]
  have starts (at_ : ℕ) :
      startsOf at_ (events ++ [.claim worker now locked position]) =
        startsOf at_ events := by
    rw [startsOf_append]
    rfl
  have rows (at_ : ℕ) (row : Job)
      (at_row : ((state.write position claimed).enter worker
        (.claimed position (claimed job))).jobs[at_]? = some row) :
      at_ = position ∧ row = claimed job ∨ position ≠ at_ ∧
        state.jobs[at_]? = some row := by
    have looked : (state.jobs.modify position claimed)[at_]? = some row :=
      at_row
    by_cases same : position = at_
    · rw [← same, List.getElem?_modify_eq, found] at looked
      exact .inl ⟨same.symm, (Option.some.inj looked).symm⟩
    · rw [List.getElem?_modify_ne claimed state.jobs same] at looked
      exact .inr ⟨same, looked⟩
  obtain ⟨_, below⟩ := counted.bounded position job found
  constructor
  · intro at_ row at_row
    rw [claims]
    rcases rows at_ row at_row with ⟨rfl, rfl⟩ | ⟨differs, old⟩
    · rw [if_pos rfl, ← counted.attempts at_ job found]
      rfl
    · rw [if_neg differs]
      exact counted.attempts at_ row old
  · intro at_ row at_row
    rcases rows at_ row at_row with ⟨rfl, rfl⟩ | ⟨differs, old⟩
    · exact ⟨below pending, nofun⟩
    · exact counted.bounded at_ row old
  · intro at_ beyond
    have longer : (state.jobs.modify position claimed).length ≤ at_ := beyond
    rw [List.length_modify] at longer
    obtain ⟨within, _⟩ := List.getElem?_eq_some_iff.mp found
    rw [claims, if_neg (by omega)]
    exact counted.unborn at_ longer
  · intro at_
    rw [claims, starts]
    exact Nat.le_add_right_of_le (counted.starts at_)
  · intro who at_ row claimedNow
    rw [claims, starts]
    by_cases same : who = worker
    · rw [same, workers_enter_self] at claimedNow
      cases claimedNow
      rw [if_pos rfl]
      exact Nat.lt_succ_of_le (counted.starts position)
    · rw [workers_enter_ne _ _ same] at claimedNow
      exact Nat.lt_add_right _ (counted.waiting who at_ row claimedNow)

theorem Counted.start {events : List (QueueEvent Worker)}
    {state : QueueState Worker} (counted : Counted events state)
    (held : HeldOnce state) {worker : Worker} {position : ℕ} {job : Job}
    (has : state.workers worker = .claimed position job) :
    Counted (events ++ [.start worker position])
      (state.enter worker (.handling position job)) := by
  have claims (at_ : ℕ) :
      claimsOf at_ (events ++ [.start worker position]) =
        claimsOf at_ events := by
    rw [claimsOf_append]
    rfl
  have starts (at_ : ℕ) :
      startsOf at_ (events ++ [.start worker position]) =
        startsOf at_ events + if position = at_ then 1 else 0 := by
    rw [startsOf_append]
    simp [QueueEvent.starts]
  have holds : Holds state worker position job := by
    rw [Holds, has]
    rfl
  constructor
  · intro at_ row found
    rw [claims]
    exact counted.attempts at_ row found
  · exact counted.bounded
  · intro at_ beyond
    rw [claims]
    exact counted.unborn at_ beyond
  · intro at_
    rw [claims, starts]
    split
    · rename_i same
      rw [← same]
      exact counted.waiting worker position job has
    · exact counted.starts at_
  · intro who at_ row claimedNow
    have handling (at_ : ℕ) (row : Job) : Activity.handling position job ≠
      .claimed at_ row :=
      nofun
    have before := waiting_enter handling who at_ row claimedNow
    have differs : ¬ position = at_ := by
      intro same
      have holdsToo : Holds state who position row := by
        rw [Holds, before, same]
        rfl
      have same_worker := held.alone worker who position job row holds holdsToo
      rw [← same_worker, workers_enter_self] at claimedNow
      cases claimedNow
    rw [claims, starts, if_neg differs]
    exact counted.waiting who at_ row before

/-- Every step keeps the counts. -/
theorem Counted.next {events : List (QueueEvent Worker)}
    {state next : QueueState Worker} {event : QueueEvent Worker}
    (counted : Counted events state) (held : HeldOnce state)
    (steps : QueueStep state event next) (attemptable : Attemptable [event]) :
    Counted (events ++ [event]) next := by
  cases steps with
  | enqueue payload maxAttempts runAt =>
      exact counted.add payload
        (attemptable payload maxAttempts runAt (List.mem_singleton_self _))
          runAt
  | claim worker now locked position job idle due found =>
      exact counted.claim worker now locked found
        (unlockedDueJob?_spec due found).1
  | start worker position job has => exact counted.start held has
  | unregistered worker position job has =>
      exact counted.enter (fun _ => rfl) (fun _ => rfl) nofun
  | handled worker position job has =>
      exact counted.enter (fun _ => rfl) (fun _ => rfl) nofun
  | threw worker position job has =>
      exact counted.enter (fun _ => rfl) (fun _ => rfl) nofun
  | complete worker position job has =>
      have holds : Holds state worker position job := by
        rw [Holds, has]
        rfl
      exact counted.write (fun _ => rfl) (fun _ => rfl)
        (held.row worker position job holds).1 completed rfl rfl nofun
  | completeFails worker position job has =>
      exact counted.enter (fun _ => rfl) (fun _ => rfl) nofun
  | putBack worker now backoffBase position job has =>
      have holds : Holds state worker position job := by
        rw [Holds, has]
        rfl
      apply counted.write (fun _ => rfl) (fun _ => rfl)
        (held.row worker position job holds).1
      · unfold Payouts.putBack
        split <;> rfl
      · unfold Payouts.putBack
        split <;> rfl
      · -- only a job with attempts left goes back to its queue
        unfold Payouts.putBack
        split
        · nofun
        · rename_i unexhausted
          exact fun _ => Nat.lt_of_not_le unexhausted
  | putBackFails worker position job has =>
      exact counted.enter (fun _ => rfl) (fun _ => rfl) nofun
  | exit worker => exact counted.enter (fun _ => rfl) (fun _ => rfl) nofun

omit [DecidableEq Worker] in
theorem counted_fresh : Counted [] (fresh : QueueState Worker) := by
  constructor
  · intro position job found
    cases found
  · intro position job found
    cases found
  · intro position _
    rfl
  · intro position
    exact le_rfl
  · intro worker position job claimedNow
    cases claimedNow

theorem counted_run {events : List (QueueEvent Worker)}
    {state : QueueState Worker} (runs : QueueRun fresh events state)
    (attemptable : Attemptable events) : Counted events state := by
  induction runs with
  | start => exact counted_fresh
  | step events event state next runs steps ih =>
      have before : Attemptable events :=
        fun payload maxAttempts runAt member =>
        attemptable payload maxAttempts runAt
          (List.mem_append_left [event] member)
      have now : Attemptable [event] := fun payload maxAttempts runAt member =>
        attemptable payload maxAttempts runAt
          (List.mem_append_right events member)
      exact (ih before).next (heldOnce_fresh.run runs) steps now

/-- The job will not run again. -/
def Finished (state : QueueState Worker) (position : ℕ) : Prop :=
  ∃ job, state.jobs[position]? = some job ∧
    (job.status = .completed ∨ job.status = .dead)

omit [DecidableEq Worker] in
/-- Nobody holds a finished job, and it is not pending. -/
theorem Finished.apart {state : QueueState Worker} {position at_ : ℕ}
    {job : Job} (finished : Finished state position)
    (found : state.jobs[at_]? = some job)
    (live : job.status = .pending ∨ job.status = .processing) :
    at_ ≠ position := by
  intro same
  obtain ⟨row, at_row, isOver⟩ := finished
  rw [← same, found, Option.some_inj] at at_row
  rw [← at_row] at isOver
  rcases live with live | live <;> rw [live] at isOver <;> simp at isOver

/-- A write to another job leaves a finished one alone. -/
theorem Finished.write {state : QueueState Worker} {position at_ : ℕ}
    (finished : Finished state position) (apart : at_ ≠ position)
    (change : Job → Job) (worker : Worker) (activity : Activity) :
    Finished ((state.write at_ change).enter worker activity) position := by
  obtain ⟨row, at_row, isOver⟩ := finished
  refine ⟨row, ?_, isOver⟩
  change (state.jobs.modify at_ change)[position]? = some row
  rw [List.getElem?_modify_ne change state.jobs apart]
  exact at_row

/-- A finished job is neither claimed nor started by the next step, and stays
finished. -/
theorem Finished.next {state next : QueueState Worker}
    {event : QueueEvent Worker} {position : ℕ}
    (finished : Finished state position) (held : HeldOnce state)
    (steps : QueueStep state event next) :
    event.claims position = false ∧ event.starts position = false ∧
      Finished next position := by
  have apart {worker : Worker} {at_ : ℕ} {job : Job}
      (holds : Holds state worker at_ job) : at_ ≠ position := by
    obtain ⟨found, status⟩ := held.row worker at_ job holds
    exact finished.apart found (.inr status)
  cases steps with
  | enqueue payload maxAttempts runAt =>
      refine ⟨rfl, rfl, ?_⟩
      obtain ⟨row, at_row, isOver⟩ := finished
      obtain ⟨within, _⟩ := List.getElem?_eq_some_iff.mp at_row
      exact ⟨row, (List.getElem?_append_left within).trans at_row, isOver⟩
  | claim worker now locked at_ job idle due found =>
      have differs :=
        finished.apart found (.inl (unlockedDueJob?_spec due found).1)
      exact ⟨decide_eq_false differs, rfl,
        finished.write differs claimed worker _⟩
  | start worker at_ job has =>
      have holds : Holds state worker at_ job := by
        rw [Holds, has]
        rfl
      exact ⟨rfl, decide_eq_false (apart holds), finished⟩
  | unregistered worker at_ job has => exact ⟨rfl, rfl, finished⟩
  | handled worker at_ job has => exact ⟨rfl, rfl, finished⟩
  | threw worker at_ job has => exact ⟨rfl, rfl, finished⟩
  | complete worker at_ job has =>
      have holds : Holds state worker at_ job := by
        rw [Holds, has]
        rfl
      exact ⟨rfl, rfl, finished.write (apart holds) completed worker _⟩
  | completeFails worker at_ job has => exact ⟨rfl, rfl, finished⟩
  | putBack worker now backoffBase at_ job has =>
      have holds : Holds state worker at_ job := by
        rw [Holds, has]
        rfl
      exact ⟨rfl, rfl, finished.write (apart holds) _ worker _⟩
  | putBackFails worker at_ job has => exact ⟨rfl, rfl, finished⟩
  | exit worker => exact ⟨rfl, rfl, finished⟩

/-- Along any continuation a finished job is neither claimed nor started. -/
theorem Finished.run {state later : QueueState Worker}
    {events : List (QueueEvent Worker)} {position : ℕ}
    (finished : Finished state position) (held : HeldOnce state)
    (runs : QueueRun state events later) :
    (∀ event ∈ events, event.claims position = false ∧
      event.starts position = false) ∧ Finished later position := by
  induction runs with
  | start => exact ⟨nofun, finished⟩
  | step events event middle next runs steps ih =>
      obtain ⟨untouched, still⟩ := ih
      obtain ⟨unclaimed, unstarted, after⟩ := still.next (held.run runs) steps
      refine ⟨?_, after⟩
      intro happened member
      rcases List.mem_append.mp member with earlier | last
      · exact untouched happened earlier
      · rw [List.mem_singleton.mp last]
        exact ⟨unclaimed, unstarted⟩

/-- What holds of a state the queue has reached with these events. -/
structure QueueSafe (events : List (QueueEvent Worker))
    (state : QueueState Worker) :
    Prop where
  heldOnce : ∀ worker other position job copy, Holds state worker position job →
    Holds state other position copy → worker = other
  attempts : ∀ (position : ℕ) (job : Job), state.jobs[position]? = some job →
    job.attempts = claimsOf position events
  starts : ∀ (position : ℕ) (job : Job), state.jobs[position]? = some job →
    startsOf position events ≤ job.maxAttempts
  punctual : ∀ worker now locked position next,
    QueueStep state (.claim worker now locked position) next →
    ∃ job, state.jobs[position]? = some job ∧ job.runAt ≤ now
  finished : ∀ position, Finished state position →
    ∀ later next, QueueRun state later next →
      ∀ event ∈ later, event.claims position = false ∧
        event.starts position = false

/-- Whatever the workers do, and wherever they stop: a job has one holder, its
attempts are its claims, its handler is started at most `maxAttempts` times, it
is not claimed before it is due, and once it is finished it is not started
again. -/
theorem queue_safe (events : List (QueueEvent Worker))
    (state : QueueState Worker) (runs : QueueRun fresh events state)
    (attemptable : Attemptable events) : QueueSafe events state := by
  have held : HeldOnce state := heldOnce_fresh.run runs
  have counted : Counted events state := counted_run runs attemptable
  constructor
  · exact held.alone
  · exact counted.attempts
  · intro position job found
    have claims : claimsOf position events ≤ job.maxAttempts := by
      rw [← counted.attempts position job found]
      exact (counted.bounded position job found).1
    exact (counted.starts position).trans claims
  · intro worker now locked position next steps
    cases steps with
    | claim worker now locked position job idle due found =>
        exact ⟨job, found, (unlockedDueJob?_spec due found).2⟩
  · intro position isOver later next continues
    exact (isOver.run held continues).1

end

/-- One worker claims the only job, which its handler fails at the first
attempt. -/
def onlyJob : Job := enqueued (.smsSend "m") 1 0

theorem queue_safe_onlyJob :
    ∃ state : QueueState ℕ,
      QueueSafe [.enqueue (.smsSend "m") 1 0, .claim 0 0 [] 0, .start 0 0]
        state := by
  have first : QueueRun (fresh : QueueState ℕ) [.enqueue (.smsSend "m") 1 0]
    _ :=
    .step [] _ _ _ .start (.enqueue _ (.smsSend "m") 1 0)
  have second : QueueRun (fresh : QueueState ℕ) [.enqueue (.smsSend "m") 1 0,
    .claim 0 0 [] 0]
      _ := .step _ _ _ _ first (.claim _ 0 0 [] 0 onlyJob rfl (by decide) rfl)
  have third : QueueRun (fresh : QueueState ℕ)
      [.enqueue (.smsSend "m") 1 0, .claim 0 0 [] 0, .start 0 0] _ :=
    .step _ _ _ _ second
      (.start _ 0 0 (claimed onlyJob) (workers_enter_self _ _ _))
  refine ⟨_, queue_safe _ _ third ?_⟩
  intro payload maxAttempts runAt member
  simp at member
  omega

end CloudStudio.Queue
