import CloudStudio.Data.Machines
import CloudStudio.Queue.Stranded
import Mathlib.Algebra.BigOperators.Group.Finset.Piecewise
import Mathlib.Data.Fintype.Basic

/-!
# The queue comes to an end

Every attempt at a job costs a bounded number of steps, and a job has a bounded
number of attempts, so the queue takes only so many steps for the jobs it was
given.  As long as a worker is left and no job is stranded, it can always take
one more of them until every job is completed or dead.
-/

namespace CloudStudio.Queue

open CloudStudio.Data.Machines CloudStudio.Platform CloudStudio.Payouts

section

variable {Worker : Type} [DecidableEq Worker]

theorem QueueRun.machine {first state : QueueState Worker}
    {events : List (QueueEvent Worker)} (runs : QueueRun first events state) :
    Run QueueStep first events state := by
  induction runs with
  | start => exact .start
  | step events event state next _ steps ih => exact ih.next steps

/-- A job is attempted once at least, whatever its `maxAttempts`. -/
def budget (maxAttempts : ℕ) : ℕ := 5 * max 1 maxAttempts

/-- The steps that the attempts left to a job can cost. -/
def jobWork (job : Job) : ℕ := budget job.maxAttempts - 5 * job.attempts

/-- The steps that a worker can still take for the job it holds. -/
def Activity.work : Activity → ℕ
  | .claimed _ _ => 4
  | .handling _ _ => 3
  | .completing _ _ => 2
  | .failing _ _ => 1
  | .idle | .gone => 0

def jobsWork (jobs : List Job) : ℕ := (jobs.map jobWork).sum

/-- All that is left to do. -/
def QueueState.work [Fintype Worker] (state : QueueState Worker) : ℕ :=
  jobsWork state.jobs + ∑ worker, (state.workers worker).work

/-- What an event adds to the work. -/
def QueueEvent.adds : QueueEvent Worker → ℕ
  | .enqueue _ maxAttempts _ => budget maxAttempts
  | _ => 0

/-- What an event takes off the work. -/
def QueueEvent.takes : QueueEvent Worker → ℕ
  | .enqueue _ _ _ | .exit _ => 0
  | _ => 1

/-- The rows are held as they are stored, and a pending one has an attempt
left. -/
structure Payable (state : QueueState Worker) : Prop where
  held : HeldOnce state
  pending : ∀ (position : ℕ) (job : Job), state.jobs[position]? = some job →
    job.status = .pending → job.attempts < max 1 job.maxAttempts

omit [DecidableEq Worker] in
theorem payable_fresh : Payable (fresh : QueueState Worker) :=
  ⟨heldOnce_fresh, fun _ _ found => by cases found⟩

omit [DecidableEq Worker] in
/-- A write that leaves no job pending beyond its attempts. -/
theorem pending_write {state : QueueState Worker} {position : ℕ}
    {change : Job → Job}
    (before : ∀ (position : ℕ) (job : Job), state.jobs[position]? = some job →
      job.status = .pending → job.attempts < max 1 job.maxAttempts)
    (changed : ∀ job, state.jobs[position]? = some job →
      (change job).status = .pending →
      (change job).attempts < max 1 (change job).maxAttempts) (at_ : ℕ)
    (row : Job) (found : (state.write position change).jobs[at_]? = some row)
    (pending : row.status = .pending) :
    row.attempts < max 1 row.maxAttempts := by
  have looked : (state.jobs.modify position change)[at_]? = some row := found
  by_cases same : position = at_
  · subst same
    rw [List.getElem?_modify_eq] at looked
    obtain ⟨old, at_old, rfl⟩ := Option.map_eq_some_iff.mp looked
    exact changed old at_old pending
  · rw [List.getElem?_modify_ne change state.jobs same] at looked
    exact before at_ row looked pending

theorem Payable.next {state following : QueueState Worker}
    {event : QueueEvent Worker} (payable : Payable state)
    (steps : QueueStep state event following) : Payable following := by
  refine ⟨payable.held.next steps, ?_⟩
  cases steps with
  | enqueue payload maxAttempts runAt =>
      intro position job found pending
      have looked :
        (state.jobs ++ [enqueued payload maxAttempts runAt])[position]? =
        some job := found
      rw [List.getElem?_append] at looked
      split at looked
      · exact payable.pending position job looked pending
      · obtain ⟨_, same⟩ := List.getElem?_eq_some_iff.mp looked
        rw [List.getElem_singleton] at same
        rw [← same]
        exact Nat.lt_of_lt_of_le Nat.zero_lt_one (Nat.le_max_left _ _)
  | claim worker now locked position job idle due found =>
      exact pending_write payable.pending fun _ _ pending => by cases pending
  | complete worker position job has =>
      exact pending_write payable.pending fun _ _ pending => by cases pending
  | putBack worker now backoffBase position job has =>
      apply pending_write payable.pending
      intro row found pending
      obtain ⟨stored, _⟩ :=
        payable.held.row worker position job (holds_of_activity has rfl)
      obtain rfl : job = row := Option.some.inj (stored.symm.trans found)
      unfold Payouts.putBack at pending ⊢
      split at pending
      · cases pending
      · rename_i left
        rw [if_neg left]
        exact lt_max_of_lt_right (Nat.lt_of_not_le left)
  | _ => exact payable.pending

theorem jobsWork_modify {jobs : List Job} {position : ℕ} {job : Job}
    (found : jobs[position]? = some job) (change : Job → Job) :
    jobsWork (jobs.modify position change) + jobWork job =
      jobsWork jobs + jobWork (change job) := by
  induction jobs generalizing position with
  | nil => cases found
  | cons first rest ih =>
      cases position with
      | zero =>
          obtain rfl : first = job := Option.some.inj found
          simp only [jobsWork, List.modify_zero_cons, List.map_cons,
            List.sum_cons]
          omega
      | succ position =>
          have later := ih found
          simp only [jobsWork, List.modify_succ_cons, List.map_cons,
            List.sum_cons] at later ⊢
          omega

/-- A write that leaves the attempts alone leaves the work alone. -/
theorem jobsWork_modify_of_same {jobs : List Job} {position : ℕ} {job : Job}
    (found : jobs[position]? = some job) {change : Job → Job}
    (same : jobWork (change job) = jobWork job) :
    jobsWork (jobs.modify position change) = jobsWork jobs := by
  have moved := jobsWork_modify found change
  omega

/-- A claim uses up the work of one attempt. -/
theorem jobWork_claimed {job : Job}
    (left : job.attempts < max 1 job.maxAttempts) :
    jobWork (claimed job) + 5 = jobWork job := by
  simp only [jobWork, budget, claimed]
  omega

variable [Fintype Worker]

theorem workers_work (state : QueueState Worker) (worker : Worker)
    (activity : Activity) :
    ∑ other, ((state.enter worker activity).workers other).work +
        (state.workers worker).work =
      ∑ other, (state.workers other).work + activity.work := by
  have split (workers : Worker → Activity) :
      (workers worker).work + ∑ other ∈ Finset.univ.erase worker,
        (workers other).work =
        ∑ other, (workers other).work :=
    Finset.add_sum_erase _ (fun other => (workers other).work)
      (Finset.mem_univ worker)
  have others : ∑ other ∈ Finset.univ.erase worker,
      ((state.enter worker activity).workers other).work =
        ∑ other ∈ Finset.univ.erase worker, (state.workers other).work := by
    apply Finset.sum_congr rfl
    intro other member
    rw [workers_enter_ne state activity (Finset.ne_of_mem_erase member)]
  have before := split state.workers
  have after := split (state.enter worker activity).workers
  rw [workers_enter_self] at after
  omega

/-- A worker goes on: what it has done is taken off what is left to do. -/
theorem work_enter (state : QueueState Worker) (activity : Activity)
    {worker : Worker} {before : Activity}
    (has : state.workers worker = before) :
    (state.enter worker activity).work + before.work =
      state.work + activity.work := by
  have moved := workers_work state worker activity
  rw [has] at moved
  simp only [QueueState.work, jobs_enter]
  omega

theorem work_advance (state : QueueState Worker) {worker : Worker}
    {before activity : Activity} (has : state.workers worker = before)
    (less : activity.work + 1 ≤ before.work) :
    (state.enter worker activity).work + 1 ≤ state.work := by
  have moved := work_enter state activity has
  omega

/-- A worker writes its outcome: the attempts were counted when it claimed the
job. -/
theorem work_release {state : QueueState Worker} (payable : Payable state)
    {worker : Worker} {activity : Activity} {position : ℕ} {job : Job}
    (has : state.workers worker = activity)
    (holds : activity.job? = some (position, job)) (change : Job → Job)
    (same : jobWork (change job) = jobWork job) :
    ((state.write position change).enter worker .idle).work + activity.work =
      state.work := by
  obtain ⟨stored, _⟩ :=
    payable.held.row worker position job (holds_of_activity has holds)
  have moved := work_enter (state.write position change) .idle has
  have kept := jobsWork_modify_of_same stored same
  simp only [QueueState.work, QueueState.write, jobs_enter,
    Activity.work] at moved ⊢
  omega

theorem jobWork_putBack (now : Time) (backoffBase : ℕ) (job : Job) :
    jobWork (Payouts.putBack now backoffBase job job) = jobWork job := by
  unfold Payouts.putBack
  split <;> rfl

theorem Payable.work_next {state following : QueueState Worker}
    {event : QueueEvent Worker} (payable : Payable state)
    (steps : QueueStep state event following) :
    following.work + event.takes ≤ state.work + event.adds := by
  cases steps with
  | enqueue payload maxAttempts runAt =>
      simp [QueueState.work, QueueState.add, jobsWork, jobWork, enqueued,
        QueueEvent.adds, QueueEvent.takes]
      omega
  | claim worker now locked position job idle due found =>
      have moved := work_enter (state.write position claimed)
        (.claimed position (claimed job)) (show _ = _ from idle)
      have cost := jobsWork_modify found claimed
      have used := jobWork_claimed (payable.pending position job found
        (unlockedDueJob?_spec due found).1)
      simp only [QueueState.work, QueueState.write, jobs_enter, Activity.work,
        QueueEvent.adds, QueueEvent.takes] at moved ⊢
      omega
  | start worker position job has =>
      exact work_advance state has (Nat.le_refl 4)
  | unregistered worker position job has =>
      exact work_advance state has (Nat.le_add_right 2 2)
  | handled worker position job has =>
      exact work_advance state has (Nat.le_refl 3)
  | threw worker position job has =>
      exact work_advance state has (Nat.le_succ 2)
  | complete worker position job has =>
      have released := work_release payable has rfl completed rfl
      simp only [Activity.work, QueueEvent.adds, QueueEvent.takes] at released ⊢
      omega
  | completeFails worker position job has =>
      exact work_advance state has (Nat.le_refl 2)
  | putBack worker now backoffBase position job has =>
      exact (work_release payable has rfl _
        (jobWork_putBack now backoffBase job)).le
  | putBackFails worker position job has =>
      exact work_advance state has (Nat.le_refl 1)
  | exit worker =>
      have moved :=
        work_enter state .gone
        (rfl : state.workers worker = state.workers worker)
      simp only [Activity.work, QueueEvent.adds, QueueEvent.takes] at moved ⊢
      omega

/-- However the workers act and wherever they stop, the steps they take are paid
for by the attempts of the jobs enqueued: five for each. -/
theorem queue_work_bounded (events : List (QueueEvent Worker))
    (state : QueueState Worker) (runs : QueueRun fresh events state) :
    (events.map QueueEvent.takes).sum ≤ (events.map QueueEvent.adds).sum := by
  have paid : state.work + (events.map QueueEvent.takes).sum ≤
      (fresh : QueueState Worker).work + (events.map QueueEvent.adds).sum := by
    apply runs.machine.within_store payable_fresh
    · exact fun _ _ _ payable steps => payable.next steps
    · exact fun _ _ _ payable steps => payable.work_next steps
  have nothing : (fresh : QueueState Worker).work = 0 := by
    simp [QueueState.work, fresh, jobsWork, Activity.work]
  omega

/-- One of two workers has claimed the only job. -/
def onlyJobClaimed : QueueState Bool :=
  (((fresh : QueueState Bool).add (.smsSend "m") 1 0).write 0 claimed).enter
    true (.claimed 0 (claimed onlyJob))

theorem onlyJobClaimed_run :
    QueueRun fresh [.enqueue (.smsSend "m") 1 0, .claim true 0 [] 0]
      onlyJobClaimed :=
  .step [.enqueue (.smsSend "m") 1 0] _ _ _
    (.step [] _ _ _ .start (.enqueue _ (.smsSend "m") 1 0))
    (.claim _ true 0 [] 0 onlyJob rfl (by decide) rfl)

theorem queue_work_bounded_onlyJob :
    ([.enqueue (.smsSend "m") 1 0, .claim true 0 [] 0, .exit true].map
        (QueueEvent.takes : QueueEvent Bool → ℕ)).sum ≤
      ([.enqueue (.smsSend "m") 1 0, .claim true 0 [] 0, .exit true].map
        (QueueEvent.adds : QueueEvent Bool → ℕ)).sum :=
  queue_work_bounded _ _ (.step _ _ _ _ onlyJobClaimed_run (.exit _ true))

/-! ## Until everything is finished -/

/-- A step of a queue that is given nothing more, whose workers stay and whose
writes succeed.  Handlers may fail. -/
def QueueEvent.Orderly : QueueEvent Worker → Prop
  | .enqueue _ _ _ | .exit _ | .putBackFails _ => False
  | _ => True

def AllFinished (state : QueueState Worker) : Prop :=
  ∀ position < state.jobs.length, Finished state position

omit [Fintype Worker] in
/-- A worker that holds a job can go on with it. -/
theorem holder_moves {state : QueueState Worker} {worker : Worker}
    {position : ℕ} {job : Job} (holds : Holds state worker position job) :
    ∃ event following, event.Orderly ∧ QueueStep state event following := by
  cases has : state.workers worker with
  | claimed at_ copy =>
      exact ⟨.start worker at_, _, trivial, .start state worker at_ copy has⟩
  | handling at_ copy =>
      exact ⟨.handled worker, _, trivial, .handled state worker at_ copy has⟩
  | completing at_ copy =>
      exact ⟨.complete worker, _, trivial, .complete state worker at_ copy has⟩
  | failing at_ copy =>
      exact ⟨.putBack worker 0 0, _, trivial,
        .putBack state worker 0 0 at_ copy has⟩
  | idle =>
      rw [Holds, has] at holds
      cases holds
  | gone =>
      rw [Holds, has] at holds
      cases holds

omit [Fintype Worker] in
/-- With a worker left and no job stranded, the queue stops only when all is
finished. -/
theorem moves_on {state : QueueState Worker} {worker : Worker}
    (fine : NothingStranded state) (alive : state.workers worker ≠ .gone)
    (unfinished : ¬ AllFinished state) :
    ∃ event following, event.Orderly ∧ QueueStep state event following := by
  by_cases holding : ∃ position job, Holds state worker position job
  · obtain ⟨position, job, holds⟩ := holding
    exact holder_moves holds
  · have idle : state.workers worker = .idle := by
      cases has : state.workers worker with
      | idle => rfl
      | gone => exact absurd has alive
      | _ => exact absurd ⟨_, _, holds_of_activity has rfl⟩ holding
    simp only [AllFinished, not_forall] at unfinished
    obtain ⟨position, within, open_⟩ := unfinished
    have found : state.jobs[position]? = some state.jobs[position] :=
      List.getElem?_eq_getElem within
    rcases fine position _ found with isOver | isOver | pending | ⟨holder, copy,
      holds⟩
    · exact absurd ⟨_, found, .inl isOver⟩ open_
    · exact absurd ⟨_, found, .inr isOver⟩ open_
    · obtain ⟨locked, following, claims⟩ :=
        pending_claimable idle found pending (Nat.le_refl _)
      exact ⟨.claim worker _ locked position, following, trivial, claims⟩
    · exact holder_moves holds

/-- What an orderly step keeps of a queue that can go on. -/
structure Running (worker : Worker) (state : QueueState Worker) : Prop where
  payable : Payable state
  fine : NothingStranded state
  alive : state.workers worker ≠ .gone

omit [Fintype Worker] in
theorem Running.next {worker : Worker} {state following : QueueState Worker}
    {event : QueueEvent Worker} (running : Running worker state)
    (orderly : event.Orderly) (steps : QueueStep state event following) :
    Running worker following := by
  have stays {actor : Worker} {activity : Activity}
    {between : QueueState Worker}
      (same : between.workers = state.workers) (here : activity ≠ .gone) :
      (between.enter actor activity).workers worker ≠ .gone := by
    by_cases mine : worker = actor
    · rwa [mine, workers_enter_self]
    · rw [workers_enter_ne between activity mine, same]
      exact running.alive
  have careful : ¬ Strands state event := by
    intro strands
    cases event with
    | exit => exact orderly
    | putBackFails => exact orderly
    | _ => exact strands
  refine ⟨running.payable.next steps, running.fine.next steps careful, ?_⟩
  cases steps with
  | enqueue => exact absurd orderly id
  | exit => exact absurd orderly id
  | _ => exact stays rfl nofun

theorem Running.less {worker : Worker} {state following : QueueState Worker}
    {event : QueueEvent Worker} (running : Running worker state)
    (orderly : event.Orderly) (steps : QueueStep state event following) :
    following.work + 1 ≤ state.work := by
  have paid := running.payable.work_next steps
  cases event with
  | enqueue => exact absurd orderly id
  | exit => exact absurd orderly id
  | _ => exact paid

/-- Orderly runs are as long as the work at most, and end where all is
finished. -/
theorem Running.run {worker : Worker} {state later : QueueState Worker}
    {events : List (QueueEvent Worker)} (running : Running worker state)
    (orderly : ∀ event ∈ events, event.Orderly)
    (runs : QueueRun state events later) :
    Running worker later ∧ later.work + events.length ≤ state.work := by
  induction runs with
  | start => exact ⟨running, Nat.le_refl _⟩
  | step events event before next _ steps ih =>
      obtain ⟨middle, spent⟩ := ih fun happened member =>
        orderly happened (List.mem_append_left _ member)
      have last := orderly event (by simp)
      have paid := middle.less last steps
      refine ⟨middle.next last steps, ?_⟩
      rw [List.length_append, List.length_singleton]
      omega

theorem Running.drains {worker : Worker} {state : QueueState Worker}
    (running : Running worker state) :
    ∃ events later, QueueRun state events later ∧
      (∀ event ∈ events, event.Orderly) ∧ AllFinished later := by
  induction left : state.work using Nat.strong_induction_on
    generalizing state with
  | _ amount ih =>
      by_cases finished : AllFinished state
      · exact ⟨[], state, .start, nofun, finished⟩
      · obtain ⟨event, following, orderly, steps⟩ :=
          moves_on running.fine running.alive finished
        have paid := running.less orderly steps
        obtain ⟨events, later, runs, allOrderly, isOver⟩ :=
          ih following.work (by omega) (running.next orderly steps) rfl
        refine ⟨event :: events, later, runs.cons steps, ?_, isOver⟩
        exact List.forall_mem_cons.mpr ⟨orderly, allOrderly⟩

/-- A queue with a worker left and no job stranded can finish every job,
whatever its handlers do: no orderly run is longer than the work left, and none
has to stop earlier. -/
theorem queue_drains (events : List (QueueEvent Worker))
    (state : QueueState Worker) (worker : Worker)
    (runs : QueueRun fresh events state) (fine : NothingStranded state)
    (alive : state.workers worker ≠ .gone) :
    (∃ later final, QueueRun state later final ∧
      (∀ event ∈ later, event.Orderly) ∧ AllFinished final) ∧
    ∀ later final, QueueRun state later final →
      (∀ event ∈ later, event.Orderly) → later.length ≤ state.work ∧
        (AllFinished final ∨
          ∃ event following, event.Orderly ∧
            QueueStep final event following) := by
  have payable : Payable state := by
    apply runs.machine.keeps payable_fresh
    exact fun _ _ _ payable steps => payable.next steps
  have running : Running worker state := ⟨payable, fine, alive⟩
  refine ⟨running.drains, fun later final continues orderly => ?_⟩
  obtain ⟨still, spent⟩ := running.run orderly continues
  refine ⟨by omega, ?_⟩
  by_cases finished : AllFinished final
  · exact .inl finished
  · exact .inr (moves_on still.fine still.alive finished)

theorem queue_drains_onlyJob :
    ∃ later final, QueueRun onlyJobClaimed later final ∧
      (∀ event ∈ later, event.Orderly) ∧ AllFinished final := by
  have fine : NothingStranded (fresh : QueueState Bool) :=
    fun _ _ found => by cases found
  have claims : QueueStep ((fresh : QueueState Bool).add (.smsSend "m") 1 0)
      (.claim true 0 [] 0) onlyJobClaimed :=
    .claim _ true 0 [] 0 onlyJob rfl (by decide) rfl
  have nothing : NothingStranded onlyJobClaimed :=
    (fine.next (.enqueue _ (.smsSend "m") 1 0) id).next claims id
  exact (queue_drains _ _ false onlyJobClaimed_run nothing nofun).1

end

end CloudStudio.Queue
