import CloudStudio.Platform.Schema

/-!
# Outgoing deliveries

`WebhookEndpointsService.deliverJob` and `sweepDueRetries`, one call at a time.
A failed attempt enqueues its own delayed retry, and the sweep enqueues another
for every delivery that is due, whether or not its retry is still in the queue.
-/

namespace CloudStudio.Webhooks

open CloudStudio.Platform

/-- A `webhook.deliver` job that has not run yet.  `seen` is only for the
proofs: how often the delivery had been attempted when the job was enqueued. -/
structure DeliverJob where
  deliveryId : ℕ
  runAt : Time
  seen : ℕ
  deriving DecidableEq

/-- An HTTP POST, with the row it was made for as the job read it. -/
structure Post where
  deliveryId : ℕ
  madeAt : Time
  delivery : WebhookDelivery
  deriving DecidableEq

/-- The deliveries by position, the jobs that are to run, and the POSTs made. -/
structure Outbox where
  deliveries : List WebhookDelivery := []
  jobs : List DeliverJob := []
  posts : List Post := []
  deriving DecidableEq

/-- What one execution meets: the clock, the endpoint, its answer (none on a
transport error) and how long the answer and the enqueueing of a retry take. -/
structure Visit where
  now : Time
  isActive : Bool
  answer : Option ℕ
  took : ℕ
  enqueueTook : ℕ
  backoffBase : ℕ

/-- The endpoint answered with a success. -/
def Visit.Accepted (visit : Visit) : Prop :=
  ∃ status ∈ visit.answer, 200 ≤ status ∧ status < 300

instance (visit : Visit) : Decidable visit.Accepted :=
  inferInstanceAs (Decidable (∃ status ∈ visit.answer, _))

def Visit.backoffMs (visit : Visit) (attempts : ℕ) : ℕ :=
  visit.backoffBase * 2 ^ min (attempts - 1) 5

/-- The row a refused or lost attempt leaves. -/
def failedRow (visit : Visit) (delivery : WebhookDelivery) : WebhookDelivery :=
  if 5 ≤ delivery.attempts + 1 then
    { delivery with status := .dead, attempts := delivery.attempts + 1 }
  else
    { delivery with
      status := .pending
      attempts := delivery.attempts + 1
      nextAttemptAt :=
        some (visit.now + visit.took + visit.backoffMs (delivery.attempts + 1))
          }

/-- The retry a refused or lost attempt enqueues. -/
def retries (visit : Visit) (deliveryId : ℕ) (delivery : WebhookDelivery) :
    List DeliverJob :=
  if 5 ≤ delivery.attempts + 1 then []
  else [{
    deliveryId
    runAt := visit.now + visit.took + visit.enqueueTook +
      visit.backoffMs (delivery.attempts + 1)
    seen := delivery.attempts + 1 }]

/-- Performs the signed HTTP POST with durable retries. -/
def deliverJob (visit : Visit) (deliveryId : ℕ) (box : Outbox) : Outbox :=
  match box.deliveries[deliveryId]? with
  | none => box
  | some delivery =>
      if delivery.status = .delivered then box
      else if ¬ visit.isActive then
        { box with
          deliveries :=
            box.deliveries.set deliveryId { delivery with status := .failed } }
      else if visit.Accepted then
        { box with
          deliveries := box.deliveries.set deliveryId
            { delivery with
              status := .delivered
              attempts := delivery.attempts + 1 }
          posts := box.posts ++ [⟨deliveryId, visit.now, delivery⟩] }
      else
        { box with
          deliveries := box.deliveries.set deliveryId (failedRow visit delivery)
          jobs := box.jobs ++ retries visit deliveryId delivery
          posts := box.posts ++ [⟨deliveryId, visit.now, delivery⟩] }

/-- A retry that is due. -/
def IsDue (now : Time) (delivery : WebhookDelivery) : Prop :=
  delivery.status = .pending ∧ (∃ due ∈ delivery.nextAttemptAt, due ≤ now) ∧
    0 < delivery.attempts

instance (now : Time) (delivery : WebhookDelivery) :
    Decidable (IsDue now delivery) :=
  inferInstanceAs (Decidable (_ ∧ _ ∧ _))

/-- What the sweep's query answers: up to 50 retries that are due, in no given
order. -/
structure Selected (now : Time) (box : Outbox) (chosen : List ℕ) : Prop where
  due : ∀ deliveryId ∈ chosen, ∃ delivery ∈ box.deliveries[deliveryId]?,
    IsDue now delivery
  distinct : chosen.Nodup
  taken : chosen.length = min 50 (box.deliveries.countP (IsDue now))

/-- Re-delivers due retries.  `delay` is how long the sweep takes to each of
them. -/
def sweepDueRetries (now : Time) (delay : ℕ → ℕ) (chosen : List ℕ)
    (box : Outbox) : Outbox :=
  { box with
    jobs := box.jobs ++ chosen.map fun deliveryId =>
      { deliveryId
        runAt := now + delay deliveryId
        seen := (box.deliveries[deliveryId]?.map WebhookDelivery.attempts).getD
          0 } }

/-- One endpoint's part of a dispatch. -/
def dispatchTo (now : Time) (endpointId : String) (event : WebhookEvent)
    (reference : Reference) (box : Outbox) : Outbox :=
  { box with
    deliveries := box.deliveries ++ [{ endpointId, event, reference }]
    jobs := box.jobs ++
      [{ deliveryId := box.deliveries.length, runAt := now, seen := 0 }] }

/-- `again` is set when the queue cannot complete the job and puts it back. -/
inductive BoxEvent where
  | dispatch (now : Time) (endpointId : String) (event : WebhookEvent)
      (reference : Reference)
  | execute (index : ℕ) (visit : Visit) (again : Option Time)
  | sweep (now : Time) (delay : ℕ → ℕ) (chosen : List ℕ)

/-- The jobs that are left when one of them is taken. -/
def leftAfter (box : Outbox) (index : ℕ) (job : DeliverJob)
    (again : Option Time) : Outbox :=
  { box with
    jobs := box.jobs.eraseIdx index ++ again.toList.map fun runAt =>
      { job with runAt } }

inductive BoxStep : Outbox → BoxEvent → Outbox → Prop where
  | dispatch (box : Outbox) (now : Time) (endpointId : String)
      (event : WebhookEvent) (reference : Reference) :
      BoxStep box (.dispatch now endpointId event reference)
        (dispatchTo now endpointId event reference box)
  | execute (box : Outbox) (index : ℕ) (job : DeliverJob) (visit : Visit)
      (again : Option Time) :
      box.jobs[index]? = some job → job.runAt ≤ visit.now →
      (∀ runAt ∈ again, visit.now ≤ runAt) →
      BoxStep box (.execute index visit again)
        (deliverJob visit job.deliveryId (leftAfter box index job again))
  | sweep (box : Outbox) (now : Time) (delay : ℕ → ℕ) (chosen : List ℕ) :
      Selected now box chosen →
      BoxStep box (.sweep now delay chosen)
        (sweepDueRetries now delay chosen box)

inductive BoxRun (first : Outbox) : List BoxEvent → Outbox → Prop where
  | start : BoxRun first [] first
  | step (events : List BoxEvent) (event : BoxEvent) (box next : Outbox) :
      BoxRun first events box → BoxStep box event next →
      BoxRun first (events ++ [event]) next

/-- The POSTs made for one delivery. -/
def postsTo (deliveryId : ℕ) (box : Outbox) : List Post :=
  box.posts.filter fun post => post.deliveryId = deliveryId

/-! ## What a delivery may count on -/

/-- A job of the delivery still to run; an undelivered one that nobody has
attempted since the job was enqueued has attempts left and is due no later than
the job. -/
structure JobKept (delivery : WebhookDelivery) (job : DeliverJob) : Prop where
  seen : job.seen ≤ delivery.attempts
  fresh : job.seen = delivery.attempts → delivery.status ≠ .delivered →
    delivery.attempts < 5 ∧ ∀ due ∈ delivery.nextAttemptAt, due ≤ job.runAt

/-- A delivery has at most five attempts, and each was made in time. -/
structure RowKept (delivery : WebhookDelivery) (posts : List Post) : Prop where
  bounded : delivery.attempts ≤ 5
  pending : delivery.status = .pending → delivery.attempts < 5
  dead : delivery.status = .dead → 5 ≤ delivery.attempts
  punctual : ∀ post ∈ posts, ∀ due ∈ post.delivery.nextAttemptAt,
    due ≤ post.madeAt

/-- The invariant of one delivery. -/
structure Kept (deliveryId : ℕ) (box : Outbox) : Prop where
  unborn : box.deliveries[deliveryId]? = none →
    postsTo deliveryId box = [] ∧ ∀ job ∈ box.jobs, job.deliveryId ≠ deliveryId
  row : ∀ delivery, box.deliveries[deliveryId]? = some delivery →
    RowKept delivery (postsTo deliveryId box)
  jobs : ∀ delivery, box.deliveries[deliveryId]? = some delivery →
    ∀ job ∈ box.jobs, job.deliveryId = deliveryId → JobKept delivery job

/-- No attempt would break the bound or come too early. -/
def Ready (now : Time) (delivery : WebhookDelivery) : Prop :=
  delivery.attempts < 5 ∧ ∀ due ∈ delivery.nextAttemptAt, due ≤ now

/-- The invariant reads the row, the POSTs and the jobs of the delivery; a job
may be put off. -/
theorem Kept.mono {deliveryId : ℕ} {box next : Outbox}
    (kept : Kept deliveryId box)
    (row : next.deliveries[deliveryId]? = box.deliveries[deliveryId]?)
    (posts : postsTo deliveryId next = postsTo deliveryId box)
    (jobs : ∀ job ∈ next.jobs, job.deliveryId = deliveryId →
      ∃ old ∈ box.jobs, old.deliveryId = deliveryId ∧ old.seen = job.seen ∧
        old.runAt ≤ job.runAt) : Kept deliveryId next := by
  constructor
  · intro missing
    rw [row] at missing
    obtain ⟨unposted, unqueued⟩ := kept.unborn missing
    refine ⟨posts.trans unposted, fun job member is_its => ?_⟩
    obtain ⟨old, at_old, old_its, _⟩ := jobs job member is_its
    exact unqueued old at_old old_its
  · intro delivery found
    rw [row] at found
    rw [posts]
    exact kept.row delivery found
  · intro delivery found job member is_its
    rw [row] at found
    obtain ⟨old, at_old, old_its, seen, later⟩ := jobs job member is_its
    have fine := kept.jobs delivery found old at_old old_its
    constructor
    · rw [← seen]
      exact fine.seen
    · intro same undelivered
      obtain ⟨below, due⟩ := fine.fresh (seen.trans same) undelivered
      exact ⟨below, fun at_ member => (due at_ member).trans later⟩

/-- Taking a job, and putting it back later, keeps the invariant. -/
theorem Kept.leftAfter {deliveryId index : ℕ} {box : Outbox} {job : DeliverJob}
    {again : Option Time} {now : Time} (kept : Kept deliveryId box)
    (found : box.jobs[index]? = some job) (due : job.runAt ≤ now)
    (later : ∀ runAt ∈ again, now ≤ runAt) :
    Kept deliveryId (leftAfter box index job again) := by
  refine kept.mono ?_ ?_ fun other member is_its => ?_
  · rfl
  · rfl
  rcases List.mem_append.mp member with old | put_back
  · exact ⟨other, List.mem_of_mem_eraseIdx old, is_its, rfl, le_rfl⟩
  · obtain ⟨runAt, at_runAt, rfl⟩ := List.mem_map.mp put_back
    have after := due.trans (later runAt (Option.mem_toList.mp at_runAt))
    exact ⟨job, List.mem_of_getElem? found, is_its, rfl, after⟩

/-- An execution for another delivery. -/
theorem deliverJob_other {deliveryId other : ℕ} (differs : other ≠ deliveryId)
    (visit : Visit) (box : Outbox) :
    (deliverJob visit other box).deliveries[deliveryId]? =
      box.deliveries[deliveryId]? ∧
      postsTo deliveryId (deliverJob visit other box) = postsTo deliveryId box ∧
      ∀ job ∈ (deliverJob visit other box).jobs, job.deliveryId = deliveryId →
        job ∈ box.jobs := by
  have row (delivery : WebhookDelivery) :
      (box.deliveries.set other delivery)[deliveryId]? =
        box.deliveries[deliveryId]? :=
    List.getElem?_set_ne differs
  have posts (post : Post) (is_its : post.deliveryId = other) :
      (box.posts ++ [post]).filter
        (fun post => decide (post.deliveryId = deliveryId)) =
        box.posts.filter fun post => decide (post.deliveryId = deliveryId) := by
    rw [List.filter_append, List.filter_cons_of_neg, List.filter_nil,
      List.append_nil]
    simp [is_its, differs]
  unfold deliverJob
  split
  · exact ⟨rfl, rfl, fun _ member _ => member⟩
  rename_i delivery found
  split
  · exact ⟨rfl, rfl, fun _ member _ => member⟩
  split
  · exact ⟨row _, rfl, fun _ member _ => member⟩
  split
  · exact ⟨row _, posts _ rfl, fun _ member _ => member⟩
  · refine ⟨row _, posts _ rfl, fun job member is_its => ?_⟩
    rcases List.mem_append.mp member with old | retry
    · exact old
    · unfold retries at retry
      split at retry
      · cases retry
      · rw [List.mem_singleton.mp retry] at is_its
        exact absurd is_its differs

/-- What an execution for this delivery does, one case for each way it can
end. -/
inductive Executed (visit : Visit) (deliveryId : ℕ) (box : Outbox) :
    Outbox → Prop where
  | missing : box.deliveries[deliveryId]? = none →
      Executed visit deliveryId box box
  | delivered (delivery : WebhookDelivery) :
      box.deliveries[deliveryId]? = some delivery →
        delivery.status = .delivered →
      Executed visit deliveryId box box
  | disabled (delivery : WebhookDelivery) (next : Outbox) :
      box.deliveries[deliveryId]? = some delivery →
        delivery.status ≠ .delivered →
      visit.isActive = false →
      next.deliveries[deliveryId]? = some { delivery with status := .failed } →
      next.jobs = box.jobs → postsTo deliveryId next = postsTo deliveryId box →
      Executed visit deliveryId box next
  | posted (delivery row : WebhookDelivery) (more : List DeliverJob)
      (next : Outbox) :
      box.deliveries[deliveryId]? = some delivery →
        delivery.status ≠ .delivered →
      visit.isActive = true →
      row.attempts = delivery.attempts + 1 →
      (row.status = .pending → row.attempts < 5) →
      (row.status = .dead → 5 ≤ row.attempts) →
      (row.status ≠ .delivered → ∀ job ∈ more, job.seen = row.attempts ∧
        row.attempts < 5 ∧ ∀ due ∈ row.nextAttemptAt, due ≤ job.runAt) →
      (row.status = .delivered → more = []) →
      next.deliveries[deliveryId]? = some row →
      next.jobs = box.jobs ++ more →
      postsTo deliveryId next =
        postsTo deliveryId box ++ [⟨deliveryId, visit.now, delivery⟩] →
      Executed visit deliveryId box next

theorem postsTo_append (deliveryId : ℕ) (box : Outbox) (now : Time)
    (delivery : WebhookDelivery) :
    (box.posts ++ [Post.mk deliveryId now delivery]).filter
        (fun post => decide (post.deliveryId = deliveryId)) =
      postsTo deliveryId box ++ [⟨deliveryId, now, delivery⟩] := by
  rw [List.filter_append, List.filter_cons_of_pos (by simp), List.filter_nil]
  rfl

theorem deliverJob_executed (visit : Visit) (deliveryId : ℕ) (box : Outbox) :
    Executed visit deliveryId box (deliverJob visit deliveryId box) := by
  unfold deliverJob
  split
  · rename_i missing
    exact .missing missing
  rename_i delivery found
  have row (written : WebhookDelivery) :
      (box.deliveries.set deliveryId written)[deliveryId]? = some written := by
    obtain ⟨within, _⟩ := List.getElem?_eq_some_iff.mp found
    exact List.getElem?_set_self within
  split
  · rename_i isOver
    exact .delivered delivery found isOver
  rename_i undelivered
  split
  · rename_i inactive
    exact .disabled delivery _ found undelivered
      (by simpa using inactive) (row _) rfl rfl
  rename_i active
  have isActive : visit.isActive = true := by simpa using active
  split
  · rename_i accepted
    apply Executed.posted delivery
      { delivery with status := .delivered, attempts := delivery.attempts + 1 }
        []
      _ found undelivered isActive rfl nofun nofun
    · intro open_
      exact absurd rfl open_
    · intro _
      rfl
    · exact row _
    · exact (List.append_nil _).symm
    · exact postsTo_append deliveryId box visit.now delivery
  · apply Executed.posted delivery (failedRow visit delivery)
      (retries visit deliveryId delivery) _ found undelivered isActive
    · unfold failedRow
      split <;> rfl
    · unfold failedRow
      split
      · nofun
      · rename_i left
        exact fun _ => Nat.lt_of_not_le left
    · unfold failedRow
      split
      · rename_i exhausted
        exact fun _ => exhausted
      · nofun
    · intro _ job member
      unfold retries at member
      split at member
      · cases member
      · rename_i left
        rw [List.mem_singleton.mp member, failedRow, if_neg left]
        refine ⟨rfl, Nat.lt_of_not_le left, ?_⟩
        intro due is_due
        rw [← Option.some.inj is_due]
        exact Nat.add_le_add_right (Nat.le_add_right _ visit.enqueueTook) _
    · unfold failedRow
      split <;> nofun
    · exact row _
    · rfl
    · exact postsTo_append deliveryId box visit.now delivery

/-- The attempt an execution makes, if it makes one, is ready. -/
def AttemptsReady (deliveryId : ℕ) (visit : Visit) (box : Outbox) : Prop :=
  ∀ delivery, box.deliveries[deliveryId]? = some delivery →
    delivery.status ≠ .delivered →
    visit.isActive = true → Ready visit.now delivery

/-- An execution whose attempt is ready keeps the invariant. -/
theorem Kept.executed {deliveryId : ℕ} {box next : Outbox} {visit : Visit}
    (kept : Kept deliveryId box) (ready : AttemptsReady deliveryId visit box)
    (executed : Executed visit deliveryId box next) : Kept deliveryId next := by
  cases executed with
  | missing => exact kept
  | delivered => exact kept
  | disabled delivery next found undelivered inactive row jobs posts =>
      have before := kept.row delivery found
      constructor
      · intro missing
        rw [row] at missing
        cases missing
      · intro now at_now
        rw [row] at at_now
        cases at_now
        rw [posts]
        exact ⟨before.bounded, nofun, nofun, before.punctual⟩
      · intro now at_now job member is_its
        rw [row] at at_now
        cases at_now
        rw [jobs] at member
        have fine := kept.jobs delivery found job member is_its
        exact ⟨fine.seen, fun same _ => fine.fresh same undelivered⟩
  | posted delivery written more next found undelivered active attempts
      pending dead later unretried row jobs posts =>
      have before := kept.row delivery found
      obtain ⟨below, due⟩ := ready delivery found undelivered active
      constructor
      · intro missing
        rw [row] at missing
        cases missing
      · intro now at_now
        rw [row] at at_now
        cases at_now
        rw [posts]
        constructor
        · rw [attempts]
          exact below
        · exact pending
        · exact dead
        · intro post member
          rcases List.mem_append.mp member with old | last
          · exact before.punctual post old
          · rw [List.mem_singleton.mp last]
            exact due
      · intro now at_now job member is_its
        rw [row] at at_now
        cases at_now
        rw [jobs] at member
        rcases List.mem_append.mp member with old | retry
        · -- every job enqueued before this attempt has seen fewer of them
          have seen := (kept.jobs delivery found job old is_its).seen
          constructor
          · omega
          · intro same _
            omega
        · by_cases isOver : written.status = .delivered
          · rw [unretried isOver] at retry
            cases retry
          · obtain ⟨same, left, inTime⟩ := later isOver job retry
            exact ⟨same.le, fun _ _ => ⟨left, inTime⟩⟩

theorem Kept.deliver {deliveryId other : ℕ} {box : Outbox} {visit : Visit}
    (kept : Kept deliveryId box)
    (ready : other = deliveryId → AttemptsReady deliveryId visit box) :
    Kept deliveryId (deliverJob visit other box) := by
  by_cases same : other = deliveryId
  · have attempt := ready same
    rw [same]
    exact kept.executed attempt (deliverJob_executed visit deliveryId box)
  · obtain ⟨row, posts, jobs⟩ := deliverJob_other same visit box
    apply kept.mono row posts
    intro job member is_its
    exact ⟨job, jobs job member is_its, is_its, rfl, le_rfl⟩

theorem Kept.sweep {deliveryId : ℕ} {box : Outbox} (kept : Kept deliveryId box)
    (now : Time) (delay : ℕ → ℕ) {chosen : List ℕ}
    (selected : Selected now box chosen) :
    Kept deliveryId (sweepDueRetries now delay chosen box) := by
  constructor
  · intro missing
    obtain ⟨unposted, unqueued⟩ := kept.unborn missing
    refine ⟨unposted, fun job member => ?_⟩
    rcases List.mem_append.mp member with old | added
    · exact unqueued job old
    · obtain ⟨other, at_other, rfl⟩ := List.mem_map.mp added
      intro same
      obtain ⟨delivery, found, _⟩ := selected.due other at_other
      change other = deliveryId at same
      rw [same] at found
      rw [show box.deliveries[deliveryId]? = none from missing] at found
      cases found
  · exact kept.row
  · intro delivery found job member is_its
    rcases List.mem_append.mp member with old | added
    · exact kept.jobs delivery found job old is_its
    · obtain ⟨other, at_other, rfl⟩ := List.mem_map.mp added
      change other = deliveryId at is_its
      obtain ⟨row, at_row, pending, ⟨due, is_due, before⟩, _⟩ :=
        selected.due other at_other
      have here : box.deliveries[deliveryId]? = some delivery := found
      rw [is_its, here] at at_row
      cases at_row
      constructor
      · change (box.deliveries[other]?.map WebhookDelivery.attempts).getD 0 ≤ _
        rw [is_its, here]
        exact le_rfl
      · intro _ _
        refine ⟨(kept.row delivery here).pending pending, fun at_ is_at => ?_⟩
        rw [Option.mem_def.mp is_due] at is_at
        cases is_at
        exact Nat.le_add_right_of_le before

theorem Kept.dispatch {deliveryId : ℕ} {box : Outbox}
    (kept : Kept deliveryId box) (now : Time) (endpointId : String)
    (event : WebhookEvent) (reference : Reference) :
    Kept deliveryId (dispatchTo now endpointId event reference box) := by
  by_cases known : deliveryId < box.deliveries.length
  · refine kept.mono ?_ ?_ fun job member is_its => ?_
    · exact List.getElem?_append_left known
    · rfl
    · rcases List.mem_append.mp member with old | added
      · exact ⟨job, old, is_its, rfl, le_rfl⟩
      · rw [List.mem_singleton.mp added] at is_its
        exact absurd is_its known.ne'
  · have missing : box.deliveries[deliveryId]? = none :=
      List.getElem?_eq_none_iff.mpr (Nat.le_of_not_lt known)
    obtain ⟨unposted, unqueued⟩ := kept.unborn missing
    have row (delivery : WebhookDelivery)
        (found :
          (dispatchTo now endpointId event reference
          box).deliveries[deliveryId]? = some delivery) :
        deliveryId = box.deliveries.length ∧
          delivery = { endpointId, event, reference } := by
      have looked :
        (box.deliveries ++ [WebhookDelivery.mk endpointId event reference
        .pending 0 none])[deliveryId]? = some delivery := found
      rw [List.getElem?_append_right (Nat.le_of_not_lt known)] at looked
      obtain ⟨within, same⟩ := List.getElem?_eq_some_iff.mp looked
      rw [List.length_singleton] at within
      rw [List.getElem_singleton] at same
      exact ⟨by omega, same.symm⟩
    constructor
    · intro absent
      refine ⟨unposted, fun job member => ?_⟩
      rcases List.mem_append.mp member with old | added
      · exact unqueued job old
      · rw [List.mem_singleton.mp added]
        intro same
        have longer :
          (box.deliveries ++ [WebhookDelivery.mk endpointId event reference
          .pending 0 none]).length ≤ deliveryId :=
            List.getElem?_eq_none_iff.mp absent
        rw [List.length_append, List.length_singleton] at longer
        change box.deliveries.length = deliveryId at same
        omega
    · intro delivery found
      obtain ⟨_, rfl⟩ := row delivery found
      rw [show postsTo deliveryId
        (dispatchTo now endpointId event reference box) = [] from unposted]
      exact ⟨Nat.zero_le 5, fun _ => Nat.zero_lt_succ 4, nofun, nofun⟩
    · intro delivery found job member is_its
      obtain ⟨_, rfl⟩ := row delivery found
      rcases List.mem_append.mp member with old | added
      · exact absurd is_its (unqueued job old)
      · rw [List.mem_singleton.mp added]
        exact ⟨le_rfl, fun _ _ => ⟨Nat.zero_lt_succ 4, nofun⟩⟩

end CloudStudio.Webhooks
