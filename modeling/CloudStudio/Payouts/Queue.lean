import CloudStudio.Payouts.Jobs

/-!
# The queue

`IiiQueueService`: a worker claims a due job, runs its handler, and completes
the job or puts it back when the handler throws.  The handlers of other queues
touch no payout; here they return or throw.
-/

namespace CloudStudio.Payouts

open CloudStudio.Data CloudStudio.Transactions CloudStudio.Platform
open CloudStudio.Payments

/-- The event is a submission of the payout that the provider did not reject: it
executes the payout, or it accepted the call. -/
def standsFor (reference : Reference) : RailEvent → Bool
  | .submission other executed accepted =>
      decide (other = reference) && (executed || accepted)
  | .failure _ => false

/-- A submission of the payout stands. -/
def Standing (world : World) (reference : Reference) : Prop :=
  ∃ event ∈ world.rail, standsFor reference event = true

instance (world : World) (reference : Reference) :
    Decidable (Standing world reference) :=
  inferInstanceAs (Decidable (∃ event ∈ world.rail, _))

/-- If a submission of the payout stands, its row is not pending any more. -/
def Settled (world : World) (reference : Reference) : Prop :=
  Standing world reference →
    ∀ payout ∈ world.payouts.find? reference, payout.status ≠ .pending

instance (world : World) (reference : Reference) :
    Decidable (Settled world reference) :=
  inferInstanceAs (Decidable (_ → ∀ payout ∈ world.payouts.find? reference, _))

/-- A job that may still run has the payout. -/
def Unfinished (world : World) (reference : Reference) : Prop :=
  ∃ job ∈ world.jobs, job.status ∈ [JobStatus.pending, .processing] ∧
    reference ∈ job.payload.payouts

instance (world : World) (reference : Reference) :
    Decidable (Unfinished world reference) :=
  inferInstanceAs (Decidable (∃ job ∈ world.jobs, _))

section

variable {Item : Type} (items : JobPayload → List Item) {jobs : List Job}

/-- An item that is listed once is in one job only. -/
theorem position_unique
    (apart : (jobs.flatMap fun job => items job.payload).Nodup)
    {first second : ℕ} {job rival : Job} {item : Item}
    (at_first : jobs[first]? = some job)
    (at_second : jobs[second]? = some rival) (member : item ∈ items job.payload)
    (other : item ∈ items rival.payload) : first = second := by
  obtain ⟨firstBound, rfl⟩ := List.getElem?_eq_some_iff.mp at_first
  obtain ⟨secondBound, rfl⟩ := List.getElem?_eq_some_iff.mp at_second
  have disjoint := List.pairwise_iff_getElem.mp (List.nodup_flatMap.mp apart).2
  rcases lt_trichotomy first second with less | same | more
  · exact (disjoint first second firstBound secondBound less member other).elim
  · exact same
  · exact (disjoint second first secondBound firstBound more other member).elim

/-- A change that leaves the payload alone leaves the lists alone. -/
theorem flatMap_modify (jobs : List Job) (position : ℕ)
    {change : Job → Job} (payload : ∀ job, (change job).payload = job.payload) :
    (jobs.modify position change).flatMap (fun job => items job.payload) =
      jobs.flatMap fun job => items job.payload := by
  rw [List.flatMap_def, List.flatMap_def]
  congr 1
  apply List.ext_getElem?
  intro index
  rw [List.getElem?_map, List.getElem?_map, List.getElem?_modify]
  cases jobs[index]? with
  | none => rfl
  | some job =>
      simp only [Option.map_eq_map, Option.map_some, Option.some.injEq]
      split
      · rw [payload]
      · rfl

end

/-- The oldest pending job that is due. -/
def dueJob? (now : Time) (jobs : List Job) : Option ℕ :=
  jobs.findIdx? fun job => job.status = .pending ∧ job.runAt ≤ now

def claimed (job : Job) : Job :=
  { job with status := .processing, attempts := job.attempts + 1 }

/-- `claim`: one `UPDATE ... FOR UPDATE SKIP LOCKED ... RETURNING`. -/
def claimJob (now : Time) : Statement (Option (ℕ × Job)) where
  label := "job.claim"
  answer := fun world => .ok (do
    let position ← dueJob? now world.jobs
    let job ← world.jobs[position]?
    pure (position, claimed job))
  effect := fun met world =>
    match dueJob? now met.jobs with
    | some position => { world with jobs := world.jobs.modify position claimed }
    | none => world

def completed (job : Job) : Job :=
  { job with status := .completed }

def completeJob (position : ℕ) : Statement Unit where
  label := "job.complete"
  answer := fun _ => .ok ()
  effect := fun _ world =>
    { world with jobs := world.jobs.modify position completed }

/-- `job.attempts >= job.maxAttempts`, for the job as it was claimed. -/
def Exhausted (job : Job) : Prop :=
  job.maxAttempts ≤ job.attempts

instance (job : Job) : Decidable (Exhausted job) :=
  inferInstanceAs (Decidable (_ ≤ _))

/-- The job goes back to its queue, or is dead. -/
def putBack (now : Time) (backoffBase : ℕ) (job row : Job) : Job :=
  if Exhausted job then { row with status := .dead }
  else { row with
    status := .pending
    runAt := now + backoffBase * 2 ^ min job.attempts 6 }

def retryJob (now : Time) (backoffBase position : ℕ) (job : Job) :
    Statement Unit where
  label := "job.retry"
  answer := fun _ => .ok ()
  effect := fun _ world =>
    { world with jobs :=
      world.jobs.modify position (putBack now backoffBase job) }
  expects := fun expectation world =>
    match expectation with
    | .settledJob => decide (Exhausted job ∨ ∀ row ∈ world.jobs[position]?,
        ∀ reference ∈ row.payload.payouts, Settled world reference)
    | _ => true

/-- What one turn of the poll meets: the clock when it claims, while the handler
runs and when that throws, and what the provider and the other handlers do. -/
structure QueueTurn where
  claimedAt : Time
  handledAt : Time
  failedAt : Time
  backoffBase : ℕ
  credentialsReady : Bool
  provider : ℕ → PayoutRequest → Behaviour
  others : JobPayload → Except AppError Unit

def QueueTurn.handler (turn : QueueTurn) : JobPayload → Db Unit
  | .payoutProcess payoutId =>
      processPayoutJob turn.handledAt turn.credentialsReady (turn.provider 0)
        payoutId
  | .batchProcess _ payoutIds =>
      processBatchJob turn.handledAt turn.credentialsReady
        turn.provider payoutIds
  | payload =>
      match turn.others payload with
      | .ok () => pure ()
      | .error error => .threw error

/-- `process`: whatever throws puts the job back, also a failing completion. -/
def QueueTurn.process (turn : QueueTurn) (position : ℕ) (job : Job) : Db Unit :=
  Program.catching
    (do
      turn.handler job.payload
      Program.perform (completeJob position))
    fun _ =>
      Program.catching
        (Program.perform (retryJob turn.failedAt turn.backoffBase position job))
        fun _ => pure ()

/-- One turn of `poll`: a claim that fails is no job. -/
def QueueTurn.program (turn : QueueTurn) : Db Unit := do
  let claim ← Program.catching (Program.perform (claimJob turn.claimedAt))
    fun _ => pure none
  match claim with
  | none => pure ()
  | some (position, job) => turn.process position job

end CloudStudio.Payouts
