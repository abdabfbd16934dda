import CloudStudio.Payouts.Queue
import CloudStudio.Payments.Threads
import CloudStudio.Transactions.Statements

/-!
# How often is a payout submitted?

Workers and provider records run at once.  Every payout is in one job and a job
has one worker, so the check that a payout is still pending is enough, as long
as no payout whose submission stands is pending when its job runs again.
-/

namespace CloudStudio.Payouts

open Function
open CloudStudio.Data CloudStudio.Transactions CloudStudio.Platform
open CloudStudio.Payments
open CloudStudio.Wallets

/-- The second event does not submit a payout whose first submission stands. -/
def Permits (first second : RailEvent) : Prop :=
  match second with
  | .submission reference _ _ => standsFor reference first = false
  | .failure _ => True

instance (first second : RailEvent) : Decidable (Permits first second) := by
  unfold Permits
  split <;> infer_instance

/-- A payout is submitted again only after the provider rejected it. -/
def SubmittedOnce (rail : List RailEvent) : Prop :=
  rail.Pairwise Permits

instance (rail : List RailEvent) : Decidable (SubmittedOnce rail) :=
  inferInstanceAs (Decidable (rail.Pairwise Permits))

/-- What a worker has to do: its job, the payout it is at, whether that has been
submitted, and the payouts that follow. -/
structure Duty where
  position : ℕ
  current : Option Reference := none
  submitted : Bool := false
  todo : List Reference

/-- The payouts the worker may still submit. -/
def Duty.open (duty : Duty) : List Reference :=
  (if duty.submitted then [] else duty.current.toList) ++ duty.todo

/-- The job is the worker's, and the payouts it may still submit can be
submitted. -/
structure Duty.Kept (world : World) (duty : Duty) : Prop where
  job : ∃ job, world.jobs[duty.position]? = some job ∧
    job.status = .processing ∧
    duty.current.toList ++ duty.todo <:+ job.payload.payouts
  checked : duty.submitted = false → ∀ reference ∈ duty.current,
    ¬ Standing world reference
  settled : ∀ reference ∈ duty.todo, Settled world reference

variable {Id : Type}

/-- The queue is in order. -/
structure InOrder (world : World) (held : Id → Option Duty) : Prop where
  once : SubmittedOnce world.rail
  queued : (world.jobs.flatMap fun job => job.payload.payouts).Nodup
  waiting : ∀ job ∈ world.jobs, job.status = .pending →
    ∀ reference ∈ job.payload.payouts, Settled world reference
  kept : ∀ id, ∀ duty ∈ held id, duty.Kept world
  sole : ∀ id other duty rival, held id = some duty → held other = some rival →
    duty.position = rival.position → id = other

/-- A payout that some job may still submit. -/
def Watched (world : World) (held : Id → Option Duty) (reference : Reference) :
    Prop :=
  (∃ job ∈ world.jobs, job.status = .pending ∧
    reference ∈ job.payload.payouts) ∨
    ∃ id, ∃ duty ∈ held id, reference ∈ duty.open

variable [DecidableEq Id]

/-- A call that is not a worker holds nothing, and a worker that ends for good
keeps its job. -/
def inOrder : Protocol Id World RowKey Expectation (Option Duty) where
  assumed := [.settledJob, .settledPayout]
  invariant := fun world _ held => InOrder world held
  guarantee := fun _ _ _ => True
  abandon := fun duty => duty
  guarantee_refl := fun _ _ => trivial
  invariant_abandon := by
    intro world owner held id kept
    rwa [update_eq_self]

variable {world after : World} {held : Id → Option Duty} {id : Id} {duty : Duty}

namespace InOrder

omit [DecidableEq Id] in
/-- Only the rail and the payouts' rows have changed, and for the watched
payouts only for the better. -/
theorem congr (kept : InOrder world held) (jobs : after.jobs = world.jobs)
    (once : SubmittedOnce after.rail)
    (standing : ∀ reference, Watched world held reference →
      Standing after reference → Standing world reference)
    (settled : ∀ reference, Watched world held reference →
      Settled world reference → Settled after reference) :
    InOrder after held := by
  constructor
  · exact once
  · rw [jobs]
    exact kept.queued
  · intro job member pending reference listed
    rw [jobs] at member
    exact settled reference (.inl ⟨job, member, pending, listed⟩)
      (kept.waiting job member pending reference listed)
  · intro id duty own
    obtain ⟨job, checked, todo⟩ := kept.kept id duty own
    refine ⟨by rwa [jobs], ?_, ?_⟩
    · intro unsubmitted reference current standing'
      apply checked unsubmitted reference current
      apply standing reference (.inr ⟨id, duty, own, ?_⟩) standing'
      rw [Duty.open, unsubmitted]
      exact List.mem_append_left _ (by simpa using current)
    · intro reference member
      apply settled reference (.inr ⟨id, duty, own, ?_⟩) (todo reference member)
      exact List.mem_append_right _ member
  · exact kept.sole

omit [DecidableEq Id] in
/-- Jobs of other queues have been added. -/
theorem background (kept : InOrder world held)
    (background : Background world after) : InOrder after held := by
  obtain ⟨more, jobs, others⟩ := background.jobs
  have standing (reference : Reference) : Standing after reference ↔
    Standing world reference := by
    simp only [Standing, background.rail]
  have settled (reference : Reference) : Settled after reference ↔
    Settled world reference := by
    simp only [Settled, standing, background.payouts]
  constructor
  · rw [background.rail]
    exact kept.once
  · rw [jobs, List.flatMap_append, List.flatMap_eq_nil_iff.mpr others,
      List.append_nil]
    exact kept.queued
  · intro job member pending reference listed
    rw [settled]
    rw [jobs] at member
    rcases List.mem_append.mp member with old | new
    · exact kept.waiting job old pending reference listed
    · rw [others job new] at listed
      cases listed
  · intro id duty own
    obtain ⟨⟨job, at_position, rest⟩, checked, todo⟩ := kept.kept id duty own
    refine ⟨⟨job, ?_, rest⟩, ?_, ?_⟩
    · obtain ⟨bound, _⟩ := List.getElem?_eq_some_iff.mp at_position
      rw [jobs, List.getElem?_append_left bound]
      exact at_position
    · simpa only [standing] using checked
    · simpa only [settled] using todo
  · exact kept.sole

/-- A thread changes its duty, to one that nobody else has. -/
theorem reassign (kept : InOrder world held) {next : Option Duty}
    (holds : ∀ duty ∈ next, duty.Kept world)
    (alone : ∀ other ≠ id, ∀ duty rival, next = some duty →
      held other = some rival →
      duty.position ≠ rival.position) : InOrder world (update held id next) :=
  ⟨kept.once, kept.queued, kept.waiting, duties_update kept.kept holds,
    exclusive_update kept.sole alone⟩

/-- A worker goes on with its job. -/
theorem turn (kept : InOrder world held) (own : held id = some duty)
    {next : Duty} (position : next.position = duty.position)
    (holds : next.Kept world) : InOrder world (update held id (some next)) := by
  apply kept.reassign
  · intro duty' same
    cases same
    exact holds
  · intro other differ duty' rival same theirs equal
    cases same
    exact differ
      (kept.sole other id rival duty theirs own (equal.symm.trans position))

omit [DecidableEq Id] in
/-- A job that nobody has changes, and is pending only if its payouts are
settled. -/
theorem modifyJob (kept : InOrder world held) {position : ℕ}
    {change : Job → Job} (payload : ∀ job, (change job).payload = job.payload)
    (unheld : ∀ id, ∀ duty ∈ held id, duty.position ≠ position)
    (settled : ∀ job, world.jobs[position]? = some job →
      (change job).status = .pending →
      ∀ reference ∈ job.payload.payouts, Settled world reference) :
    InOrder { world with jobs := world.jobs.modify position change } held := by
  constructor
  · exact kept.once
  · rw [flatMap_modify JobPayload.payouts world.jobs position payload]
    exact kept.queued
  · intro job member pending reference listed
    obtain ⟨index, at_index⟩ := List.mem_iff_getElem?.mp member
    rw [List.getElem?_modify] at at_index
    obtain ⟨row, found, rfl⟩ := Option.map_eq_some_iff.mp at_index
    split at pending
    · rename_i same
      subst same
      rw [if_pos rfl, payload] at listed
      exact settled row found pending reference listed
    · rename_i other
      rw [if_neg other] at listed
      exact kept.waiting row (List.mem_of_getElem? found) pending
        reference listed
  · intro id duty own
    obtain ⟨⟨job, at_position, rest⟩, checked, todo⟩ := kept.kept id duty own
    refine ⟨⟨job, ?_, rest⟩, checked, todo⟩
    rw [List.getElem?_modify, at_position]
    simp only [Option.map_eq_map, Option.map_some,
      if_neg (unheld id duty own).symm]
  · exact kept.sole

/-- A worker is done with its job. -/
theorem finish (kept : InOrder world held) (own : held id = some duty)
    {change : Job → Job} (payload : ∀ job, (change job).payload = job.payload)
    (settled : ∀ job, world.jobs[duty.position]? = some job →
      (change job).status = .pending →
        ∀ reference ∈ job.payload.payouts, Settled world reference) :
    InOrder { world with jobs := world.jobs.modify duty.position change }
      (update held id none) := by
  have released : InOrder world (update held id none) :=
    kept.reassign
      (fun _ member => by cases member) (fun _ _ _ _ same => by cases same)
  apply released.modifyJob payload _ settled
  intro other rival theirs equal
  by_cases same : other = id
  · subst same
    rw [update_self] at theirs
    cases theirs
  · rw [update_of_ne same] at theirs
    exact same (kept.sole other id rival duty theirs own equal)

/-- A worker claims a pending job. -/
theorem claim (kept : InOrder world held) {position : ℕ} {job : Job}
    (found : world.jobs[position]? = some job)
    (pending : job.status = .pending) :
    InOrder { world with jobs := world.jobs.modify position claimed }
      (update held id (some { position, todo := job.payload.payouts })) := by
  have unheld (other : Id) (rival : Duty) (theirs : rival ∈ held other) :
      rival.position ≠ position := by
    intro same
    obtain ⟨⟨row, at_position, processing, _⟩, _⟩ :=
      kept.kept other rival theirs
    rw [same, found] at at_position
    cases at_position
    rw [pending] at processing
    cases processing
  have taken : InOrder { world with jobs := world.jobs.modify position claimed }
    held :=
    kept.modifyJob (fun _ => rfl) unheld fun _ _ isPending => by cases isPending
  apply taken.reassign
  · intro duty same
    cases same
    refine ⟨⟨claimed job, ?_, rfl, List.suffix_refl _⟩,
      (fun _ _ member => by cases member), ?_⟩
    · rw [List.getElem?_modify, found]
      simp only [Option.map_eq_map, Option.map_some, if_true]
    · exact kept.waiting job (List.mem_of_getElem? found) pending
  · intro other _ duty rival same theirs equal
    cases same
    exact unheld other rival theirs equal.symm

end InOrder

omit [DecidableEq Id] in
/-- The payout a worker is at is watched by nobody, once the worker does not. -/
theorem unwatched (kept : InOrder world held) (own : held id = some duty)
    {reference : Reference} (at_payout : duty.current = some reference)
    (submitted : duty.submitted = true) : ¬ Watched world held reference := by
  obtain ⟨job, at_position, processing, suffix⟩ := (kept.kept id duty own).job
  have listed : reference ∈ job.payload.payouts :=
    suffix.subset (by simp [at_payout])
  rintro (⟨other, member, pending, theirs⟩ | ⟨rival, duty', holds, open'⟩)
  · obtain ⟨index, at_index⟩ := List.mem_iff_getElem?.mp member
    have same := position_unique JobPayload.payouts kept.queued at_position
      at_index listed theirs
    rw [← same, at_position] at at_index
    cases at_index
    rw [processing] at pending
    cases pending
  · obtain ⟨other, at_rival, _, rivalSuffix⟩ :=
      (kept.kept rival duty' holds).job
    have theirs : reference ∈ other.payload.payouts := by
      apply rivalSuffix.subset
      rcases List.mem_append.mp open' with current | later
      · split at current
        · cases current
        · exact List.mem_append_left _ current
      · exact List.mem_append_right _ later
    have same := position_unique JobPayload.payouts kept.queued at_position
      at_rival listed theirs
    have isOwn := kept.sole id rival duty duty' own holds same
    subst isOwn
    rw [own] at holds
    cases holds
    simp only [Duty.open, submitted, if_true, List.nil_append] at open'
    -- the payouts of a job are distinct, so the current one does not follow
    have distinct : job.payload.payouts.Nodup :=
      (List.nodup_flatMap.mp kept.queued).1 job
        (List.mem_of_getElem? at_position)
    have nodup := suffix.sublist.nodup distinct
    rw [at_payout] at nodup
    exact (List.nodup_cons.mp nodup).1 open'

/-- A submission of the payout that the worker found pending. -/
theorem InOrder.submit (kept : InOrder world held) (own : held id = some duty)
    {reference : Reference} (at_payout : duty.current = some reference)
    (checked : duty.submitted = false) (executed : Bool)
    (accepted : Option ProviderRecord) :
    InOrder { world with rail :=
      world.rail ++ railEvents reference executed accepted }
      (update held id (some { duty with submitted := true })) := by
  obtain ⟨job, unsubmitted, settled⟩ := kept.kept id duty own
  have free : ¬ Standing world reference :=
    unsubmitted checked reference at_payout
  have turned :
    InOrder world (update held id (some { duty with submitted := true })) :=
    kept.turn own rfl ⟨job, (fun impossible => by cases impossible), settled⟩
  have apart :
    ¬ Watched world (update held id (some { duty with submitted := true }))
      reference :=
    unwatched turned (update_self ..) at_payout rfl
  have standing (other : Reference) (differ : other ≠ reference)
      (stands : Standing { world with
        rail := world.rail ++ railEvents reference executed accepted } other) :
      Standing world other := by
    obtain ⟨event, member, standsFor'⟩ := stands
    rcases List.mem_append.mp member with old | new
    · exact ⟨event, old, standsFor'⟩
    · unfold railEvents at new
      rcases List.mem_cons.mp new with rfl | failure
      · simp only [standsFor, Bool.and_eq_true, decide_eq_true_eq] at standsFor'
        exact (differ standsFor'.1.symm).elim
      · split at failure
        · rw [List.mem_singleton.mp failure] at standsFor'
          cases standsFor'
        · cases failure
  apply turned.congr
  · rfl
  · apply List.pairwise_append.mpr
    refine ⟨kept.once, ?_, ?_⟩
    · unfold railEvents
      split
      · simp [Permits]
      · simp
    · intro event member next new
      unfold railEvents at new
      rcases List.mem_cons.mp new with rfl | failure
      · exact Bool.eq_false_iff.mpr fun stands => free ⟨event, member, stands⟩
      · split at failure
        · rw [List.mem_singleton.mp failure]
          exact trivial
        · cases failure
  · intro other watched
    exact standing other fun same => apart (same ▸ watched)
  · intro other watched settled' stands
    exact settled' (standing other (fun same => apart (same ▸ watched)) stands)

omit [DecidableEq Id] in
/-- The engine writes one payout; a watched one is not left pending if it
stands. -/
theorem InOrder.write (kept : InOrder world held) {reference : Reference}
    {change : Payout → Payout}
    (keeps : ∀ payout, (change payout).reference = payout.reference)
    (settled : Watched world held reference → Settled world reference → Settled
      { world with payouts := world.payouts.modify reference change keeps }
        reference) :
    InOrder { world with payouts :=
      world.payouts.modify reference change keeps } held := by
  apply kept.congr
  · rfl
  · exact kept.once
  · exact fun _ _ stands => stands
  · intro other watched before
    by_cases same : other = reference
    · subst same
      exact settled watched before
    · intro stands payout found
      rw [Table.find?_modify_ne same] at found
      exact before stands payout found

section

variable {others : List Expectation}

theorem inOrder_overlooks :
    Overlooks
      ((inOrder : Protocol Id World RowKey Expectation (Option Duty)).assuming
      others) :=
  fun kept background => ⟨InOrder.background kept background, fun _ => trivial⟩

/-- The thread's duty is what it was. -/
def Stays (duty : Option Duty) {Answer : Type} (_ : Answer)
    (left : Option Duty) : Prop :=
  left = duty

/-- A wallet movement is of no concern to the queue. -/
theorem inOrder_move (now : Time) (input : MoveInput) {duty : Option Duty} :
    (move now input).Safe (inOrder.assuming others) id
      (fun _ left => left = duty) (Stays duty) duty := by
  have blind :
    WalletBlind
    ((inOrder : Protocol Id World RowKey Expectation _).assuming others)
      id :=
    fun _ _ _ _ _ kept => kept
  have thrown (error : AppError) : Stays duty error duty := rfl
  apply posting_safe blind thrown
  · rfl
  intro before after owner held kept own posted
  obtain ⟨wallets, row, rfl, _⟩ := posted
  refine ⟨duty, ?_, trivial, trivial, rfl⟩
  rw [← own, update_eq_self]
  have inQueue : InOrder before held := kept
  apply inQueue.congr
  · rfl
  · exact inQueue.once
  · exact fun _ _ stands => stands
  · exact fun _ _ settled => settled

/-- What follows the write of a payout's row is of no concern to the queue. -/
theorem afterWrite_safe (now : Time) (payout : Payout) (nextStatus : TxStatus)
    (shouldRefund : Bool) {duty : Option Duty} :
    (do
      Program.when shouldRefund (Program.discard (move now (payoutRefund payout)))
      Program.when (payout.status ∉ FINAL_STATUSES) (announcePayout now payout nextStatus)
      recountBatch now payout.batchId
      pure { handled := true, status := some nextStatus } : Db Applied).Safe
        (inOrder.assuming others) id (Stays duty) (Stays duty) duty := by
  have thrown (error : AppError) : Stays duty error duty := rfl
  have refunded : (Program.when (shouldRefund = true)
      (Program.discard (move now (payoutRefund payout)))).Safe
        (inOrder.assuming others) id
        (fun _ left => left = duty) (Stays duty) duty :=
    when_safe (fun _ => discard_safe (inOrder_move now _)) fun _ => rfl
  apply refunded.andThen
  intro _ left same
  subst same
  have announced : (Program.when (payout.status ∉ FINAL_STATUSES)
      (announcePayout now payout nextStatus)).Safe (inOrder.assuming others) id
        (fun _ after => after = left) (Stays left) left :=
    when_safe
      (fun _ => announcePayout_safe inOrder_overlooks thrown now
      payout nextStatus) fun _ => rfl
  apply announced.andThen
  intro _ left same
  subst same
  have recounted : (recountBatch now payout.batchId).Safe
    (inOrder.assuming others) id
      (fun _ after => after = left) (Stays left) left :=
    recountBatch_safe inOrder_overlooks thrown now payout.batchId
  apply recounted.andThen
  exact fun _ _ kept => kept

end

/-- The worker that has submitted a payout may write any status. -/
theorem applyPayoutUpdate_worker (now : Time) {orderReference : Reference}
    (record : ProviderRecord) {duty : Duty} (at_payout : duty.current = some orderReference)
    (submitted : duty.submitted = true) :
    (applyPayoutUpdate now orderReference record).Safe inOrder id (Stays (some duty))
      (Stays (some duty)) (some duty) := by
  simp only [applyPayoutUpdate, Program.bind_perform]
  refine Program.Safe.read (fun _ _ => rfl) ?_ fun _ => rfl
  intro world owner held kept own found answered
  cases found with
  | none => exact rfl
  | some payout =>
      have key : payout.reference = orderReference :=
        Table.key_of_find? (Except.ok.inj answered)
      dsimp only
      split
      · exact rfl
      split
      · exact rfl
      unfold finishPayout
      split
      · exact rfl
      simp only [Program.bind_perform]
      refine ⟨?_, fun _ => rfl⟩
      intro world owner held kept own _ _ updated _
      refine ⟨some duty, ?_, trivial, afterWrite_safe now payout _ _⟩
      rw [← own, update_eq_self]
      apply InOrder.write kept
      intro watched
      rw [key] at watched
      exact (unwatched kept own at_payout submitted watched).elim

/-! ## Workers -/

/-- Still at this job. -/
def AtJob (position : ℕ) (left : Option Duty) : Prop :=
  ∃ duty, left = some duty ∧ duty.position = position

theorem processPayout_worker (now : Time) (credentialsReady : Bool)
    (provider : PayoutRequest → Behaviour) (requestOf : Payout → PayoutRequest)
    (complete : ProviderRecord → ProviderRecord) {payoutId : Reference}
    {rest : List Reference} {duty : Duty}
    (next : duty.todo = payoutId :: rest) :
    (processPayout now credentialsReady provider requestOf complete
      payoutId).Safe inOrder id
      (fun _ left => ∃ later, left = some later ∧
        later.position = duty.position ∧ later.todo = rest)
      (fun _ left => AtJob duty.position left) (some duty) := by
  simp only [processPayout, Program.bind_perform]
  refine ⟨?_, fun _ => ⟨duty, rfl, rfl⟩⟩
  intro world owner held kept own _ _ payout answered
  have read : world.payouts.find? payoutId = payout := Except.ok.inj answered
  obtain ⟨⟨job, at_position, processing, suffix⟩, _, settled⟩ :=
    InOrder.kept kept id duty own
  rw [next] at settled suffix
  have following :=
    (List.suffix_append duty.current.toList (payoutId :: rest)).trans suffix
  -- a payout that is passed over is done with
  have passed : InOrder world (update held id
      (some { duty with
        current := none
        submitted := false
        todo := rest })) := by
    apply InOrder.turn kept own
    · rfl
    refine ⟨⟨job, at_position, processing, ?_⟩,
      (fun _ _ member => by cases member), ?_⟩
    · exact (List.suffix_cons payoutId rest).trans following
    · exact fun reference member => settled reference (List.mem_cons_of_mem _ member)
  cases payout with
  | none => exact ⟨_, passed, trivial, _, rfl, rfl, rfl⟩
  | some payout =>
      have key : payout.reference = payoutId := Table.key_of_find? read
      dsimp only
      split
      · exact ⟨_, passed, trivial, _, rfl, rfl, rfl⟩
      rename_i pending
      have unsubmitted : ¬ Standing world payoutId := by
        intro stands
        exact settled payoutId List.mem_cons_self stands payout read
          (not_not.mp pending)
      refine ⟨some { duty with current := some payoutId, submitted := false, todo := rest }, ?_,
        trivial, ?_, fun _ => ⟨_, rfl, rfl⟩⟩
      · apply InOrder.turn kept own
        · rfl
        refine ⟨⟨job, at_position, processing, following⟩, ?_, ?_⟩
        · intro _ reference current
          cases current
          exact unsubmitted
        · exact fun reference member => settled reference (List.mem_cons_of_mem _ member)
      intro world owner held kept own _ _ result answered
      refine ⟨_, InOrder.submit kept own (key ▸ rfl) rfl _ _, trivial, ?_⟩
      have updated (record : ProviderRecord) :
          (Program.discard (applyPayoutUpdate now payout.reference record)).Safe
            inOrder id
            (fun _ left => ∃ later, left = some later ∧
              later.position = duty.position ∧ later.todo = rest)
            (fun _ left => AtJob duty.position left)
            (some { duty with current := some payoutId, submitted := true, todo := rest }) := by
        apply discard_safe
        apply (applyPayoutUpdate_worker now record (key ▸ rfl) rfl).mono
        · intro _ left same
          exact ⟨_, same, rfl, rfl⟩
        · intro _ left same
          exact ⟨_, same, rfl⟩
      dsimp only
      cases acceptedRecord result with
      | some record => exact updated (complete record)
      | none => exact updated (rejection result.error)

/-- The payouts of a batch, one after another. -/
theorem items_worker (now : Time) (credentialsReady : Bool)
    (provider : ℕ → PayoutRequest → Behaviour) (items : List (Reference × ℕ))
    {duty : Duty} (todo : duty.todo = items.map Prod.fst) :
    (Program.forEach items fun item =>
      processPayout now credentialsReady (provider item.2) batchItemRequest
        (fun record => record) item.1).Safe inOrder id
          (fun _ left => AtJob duty.position left)
            (fun _ left => AtJob duty.position left) (some duty) := by
  induction items generalizing duty with
  | nil => exact ⟨duty, rfl, rfl⟩
  | cons item rest ih =>
      apply (processPayout_worker now credentialsReady (provider item.2)
        batchItemRequest _ todo).andThen
      intro _ left next
      obtain ⟨later, same, position, todo⟩ := next
      subst same
      rw [← position]
      exact ih todo

theorem handler_worker (turn : QueueTurn) {payload : JobPayload} {duty : Duty}
    (todo : duty.todo = payload.payouts) :
    (turn.handler payload).Safe inOrder id
      (fun _ left => AtJob duty.position left)
      (fun _ left => AtJob duty.position left) (some duty) := by
  cases payload with
  | payoutProcess payoutId =>
      apply (processPayout_worker turn.handledAt turn.credentialsReady
        (turn.provider 0) payoutRequest orPending todo).mono
      · intro _ left next
        obtain ⟨later, same, position, _⟩ := next
        exact ⟨later, same, position⟩
      · exact fun _ _ kept => kept
  | batchProcess batchId payoutIds =>
      apply items_worker
      rw [todo, List.zipIdx_map_fst]
      rfl
  | webhookDeliver deliveryId =>
      simp only [QueueTurn.handler]
      cases turn.others (.webhookDeliver deliveryId) <;> exact ⟨duty, rfl, rfl⟩
  | smsSend smsId =>
      simp only [QueueTurn.handler]
      cases turn.others (.smsSend smsId) <;> exact ⟨duty, rfl, rfl⟩

/-- Where a call may end: anywhere. -/
abbrev Wherever {Answer : Type} (_ : Answer) (_ : Option Duty) : Prop := True

/-- The worker completes its job, or puts it back with nothing left to submit
twice. -/
theorem process_worker (turn : QueueTurn) {job : Job} {duty : Duty}
    (todo : duty.todo = job.payload.payouts) :
    (turn.process duty.position job).Safe inOrder id Wherever Wherever
      (some duty) := by
  have handled : (do
      turn.handler job.payload
      Program.perform (completeJob duty.position)).Safe inOrder id Wherever
        (fun _ left => AtJob duty.position left) (some duty) := by
    apply (handler_worker turn todo).andThen
    intro _ left at_job
    obtain ⟨later, same, position⟩ := at_job
    subst same
    refine ⟨?_, fun _ => ⟨later, rfl, position⟩⟩
    intro world owner held kept own _ _ answer _
    rw [← position]
    refine ⟨none, ?_, trivial, trivial⟩
    apply InOrder.finish kept own
    · exact fun _ => rfl
    · exact fun _ _ pending => by cases pending
  apply handled.catching
  intro error left at_job
  obtain ⟨later, same, position⟩ := at_job
  subst same
  have retried : (Program.perform
      (retryJob turn.failedAt turn.backoffBase duty.position job)).Safe
        inOrder id Wherever Wherever (some later) := by
    refine ⟨?_, fun _ => trivial⟩
    intro world owner held kept own _ expected answer _
    have settled := of_decide_eq_true (expected .settledJob List.mem_cons_self)
    rw [← position] at settled ⊢
    refine ⟨none, InOrder.finish kept own ?_ ?_, trivial, trivial⟩
    · intro row
      unfold putBack
      split <;> rfl
    · intro row at_position pending
      rcases settled with exhausted | settled
      · rw [putBack, if_pos exhausted] at pending
        cases pending
      · exact settled row at_position
  apply retried.catching
  exact fun _ _ _ => trivial

/-- A turn of the poll. -/
theorem turn_worker (turn : QueueTurn) :
    turn.program.Safe inOrder id Wherever Wherever none := by
  have claims : (Program.catching (Program.perform (claimJob turn.claimedAt))
      fun _ => pure none).Safe inOrder id
        (fun claim left => (claim = none ∧ left = none) ∨ ∃ position job,
          ∃ duty : Duty,
          claim = some (position, job) ∧ left = some duty ∧
            duty.position = position ∧ duty.todo = job.payload.payouts)
        Wherever none := by
    have claim : (Program.perform (claimJob turn.claimedAt)).Safe inOrder id
        (fun claim left => (claim = none ∧ left = none) ∨ ∃ position job,
          ∃ duty : Duty,
          claim = some (position, job) ∧ left = some duty ∧
            duty.position = position ∧ duty.todo = job.payload.payouts)
        (fun _ left => left = none) none := by
      refine ⟨?_, fun _ => rfl⟩
      intro world owner held kept own _ _ claim answered
      have claim_eq := (Except.ok.inj answered).symm
      cases due : dueJob? turn.claimedAt world.jobs with
      | none =>
          simp only [claimJob, due] at claim_eq ⊢
          refine ⟨none, ?_, trivial, .inl ⟨claim_eq, rfl⟩⟩
          rw [← own, update_eq_self]
          exact kept
      | some position =>
          obtain ⟨bound, isDue, _⟩ := List.findIdx?_eq_some_iff_getElem.mp due
          have found : world.jobs[position]? = some world.jobs[position] :=
            List.getElem?_eq_getElem bound
          have pending := (of_decide_eq_true isDue).1
          simp only [claimJob, due, Option.bind_eq_bind, Option.bind_some,
            found, Option.pure_def] at claim_eq ⊢
          exact ⟨_, InOrder.claim kept found pending, trivial,
            .inr ⟨position, Payouts.claimed world.jobs[position], _, claim_eq,
              rfl, rfl, rfl⟩⟩
    apply claim.catching
    intro error left same
    exact .inl ⟨rfl, same⟩
  apply claims.andThen
  intro claim left ended
  rcases ended with ⟨nothing, idle⟩ | ⟨position, job, duty, isJob, mine,
    at_position, todo⟩
  · subst nothing
    exact trivial
  · subst isJob mine at_position
    exact process_worker turn todo

/-- No payout whose submission stands and whose job is unfinished has become
pending. -/
def staysSettled (before after : World) : Bool :=
  after.payouts.rows.all fun payout =>
    decide (payout.status = .pending → Standing before payout.reference →
      Unfinished before payout.reference →
        ∃ row ∈ before.payouts.find? payout.reference, row.status = .pending)

omit [DecidableEq Id] in
theorem unfinished_of_watched (kept : InOrder world held)
    {reference : Reference} (watched : Watched world held reference) :
    Unfinished world reference := by
  rcases watched with ⟨job, member, pending, listed⟩ | ⟨rival,
    duty, holds, isOpen⟩
  · exact ⟨job, member, by simp [pending], listed⟩
  · obtain ⟨job, at_position, processing, suffix⟩ :=
      (kept.kept rival duty holds).job
    refine ⟨job, List.mem_of_getElem? at_position, by simp [processing], ?_⟩
    apply suffix.subset
    rcases List.mem_append.mp isOpen with current | later
    · split at current
      · cases current
      · exact List.mem_append_left _ current
    · exact List.mem_append_right _ later

theorem jobToo : ∀ expectation ∈ [Expectation.settledJob],
    expectation ∈ (inOrder : Protocol Id World RowKey Expectation
      (Option Duty)).assumed ∧ expectation ≠ .settledPayout := by
  intro expectation member
  rw [List.mem_singleton.mp member]
  exact ⟨List.mem_cons_self, by decide⟩

/-- A record may write what keeps settled payouts settled. -/
theorem applyPayoutUpdate_received (now : Time) (orderReference : Reference)
    (record : ProviderRecord) :
    ((applyPayoutUpdate now orderReference record).resting .settledPayout
      staysSettled).Safe inOrder id Wherever Wherever none := by
  rw [applyPayoutUpdate, Program.resting_bind, Program.resting_perform,
    Program.bind_perform]
  refine Program.Safe.read (fun _ _ => rfl) ?_ fun _ => trivial
  intro world owner held kept own found answered
  cases found with
  | none => exact trivial
  | some payout =>
      have key : payout.reference = orderReference :=
        Table.key_of_find? (Except.ok.inj answered)
      dsimp only
      split
      · exact trivial
      split
      · exact trivial
      unfold finishPayout
      split
      · exact trivial
      rw [Program.resting_bind, Program.resting_perform, Program.bind_perform]
      refine ⟨?_, fun _ => trivial⟩
      intro world owner held kept own _ expected updated _
      refine ⟨none, ?_, trivial, ?_⟩
      · rw [← own, update_eq_self]
        apply InOrder.write kept
        intro watched before stands row found pending
        have claimed :=
          expected .settledPayout (List.mem_cons_of_mem _ List.mem_cons_self)
        simp only [Query.resting, if_true] at claimed
        have at_row := of_decide_eq_true (List.all_eq_true.mp claimed row
          (Table.mem_of_find? found))
        rw [Table.key_of_find? found] at at_row
        obtain ⟨earlier, at_start, wasPending⟩ :=
          at_row pending stands (unfinished_of_watched kept watched)
        exact before stands earlier at_start wasPending
      · dsimp only
        apply Program.Safe.resting Expectation.settledPayout staysSettled jobToo
        exact (afterWrite_safe now payout _ _).mono (fun _ _ _ => trivial) fun _ _ _ => trivial

theorem receiveRecord_ordered (now : Time) (reference : Reference)
    (record : ProviderRecord) :
    ((receiveRecord now reference record).resting .settledPayout
      staysSettled).Safe inOrder id Wherever Wherever none := by
  rw [receiveRecord, Program.resting_bind, Program.resting_perform,
    Program.bind_perform, Program.resting_discard]
  refine ⟨?_, fun _ => trivial⟩
  intro world owner held kept own _ _ answer _
  refine ⟨none, ?_, trivial,
    discard_safe (applyPayoutUpdate_received now reference record)⟩
  rw [← own, update_eq_self]
  have inQueue : InOrder world held := kept
  have failure (event : RailEvent)
      (member :
        event ∈ if failing record then [RailEvent.failure reference] else []) :
      event = .failure reference := by
    split at member
    · exact List.mem_singleton.mp member
    · cases member
  have standing (other : Reference)
      (stands : Standing ((noteRecord reference record).effect world world)
        other) : Standing world other := by
    obtain ⟨event, member, standsFor'⟩ := stands
    rcases List.mem_append.mp member with old | new
    · exact ⟨event, old, standsFor'⟩
    · rw [failure event new] at standsFor'
      cases standsFor'
  apply inQueue.congr
  · rfl
  · apply List.pairwise_append.mpr
    refine ⟨inQueue.once, ?_, ?_⟩
    · split
      · exact List.pairwise_singleton _ _
      · exact List.Pairwise.nil
    · intro event _ next new
      rw [failure next new]
      exact trivial
  · exact fun other _ => standing other
  · exact fun other _ settled stands => settled (standing other stands)

/-! ## Every run -/

/-- A turn of a worker, or a provider record that comes in by webhook or
poll. -/
inductive QueueTask where
  | poll (turn : QueueTurn)
  | receive (now : Time) (reference : Reference) (record : ProviderRecord)

/-- The task, with what its statements take for granted. -/
def QueueTask.program : QueueTask → Db Unit
  | .poll turn => turn.program
  | .receive now reference record =>
      (receiveRecord now reference record).resting .settledPayout staysSettled

theorem task_ordered (task : QueueTask) :
    task.program.Safe inOrder id Wherever Wherever none := by
  cases task with
  | poll turn => exact turn_worker turn
  | receive now reference record =>
      exact receiveRecord_ordered now reference record

/-- The tasks, none of which has run a statement yet. -/
def serving (world : World) (tasks : Id → QueueTask) :
    Config Id World RowKey Expectation Site AppError Unit :=
  Config.start world fun id => (tasks id).program

/-- Every payout is in one job, and none has been submitted that a job would
submit. -/
structure Queued (world : World) : Prop where
  once : SubmittedOnce world.rail
  apart : (world.jobs.flatMap fun job => job.payload.payouts).Nodup
  waiting : ∀ job ∈ world.jobs, job.status = .pending →
    ∀ reference ∈ job.payload.payouts, Settled world reference

/-- However workers, retries and records interleave, fail or stop: as long as no
payout whose submission stands is pending when its job goes back to the queue,
or is put back to pending while its job is unfinished, no payout is submitted
again after a submission that the provider did not reject. -/
theorem submitted_once (world : World) (queued : Queued world)
    (tasks : Id → QueueTask) (schedule : List (Event Id AppError))
    (expected : (serving world tasks).AsExpected [.settledJob, .settledPayout]
      schedule) :
    SubmittedOnce ((serving world tasks).run schedule).state.rail := by
  have sound : Config.Sound inOrder (fun _ => Wherever) (fun _ => Wherever)
      (serving world tasks) := by
    refine ⟨fun _ => none, ⟨queued.once, queued.apart, queued.waiting, ?_, ?_⟩,
      ?_⟩
    · exact fun _ _ member => by cases member
    · exact fun _ _ _ _ member => by cases member
    · intro id
      exact task_ordered (tasks id)
  obtain ⟨held, kept, _⟩ := sound.run schedule expected
  exact InOrder.once kept

/-- A batch of two payouts of 1000, held and queued. -/
def queuedWorld : World where
  accounts :=
    Table.empty.insert { id := "a", accountId := "ACC-1"
                         sourceCode := "AAAAA" }
  wallets := Table.empty.insert { key := ⟨"a", .disbursement⟩ }
  payouts := (Table.empty.insert
    { accountId := "a", channel := .mobileMoney
      reference := "AAAAA000000000000001"
      amount := Money.round 1000, phoneNumber := some "255712345678"
      walletDebitedAt := some 1, createdAt := 1, updatedAt := 1 }).insert
    { accountId := "a", channel := .mobileMoney
      reference := "AAAAA000000000000002"
      amount := Money.round 1000, phoneNumber := some "255712345679"
      walletDebitedAt := some 1, createdAt := 1, updatedAt := 1 }
  jobs := [{ payload :=
    .batchProcess "B" ["AAAAA000000000000001", "AAAAA000000000000002"]
             runAt := 1 }]

theorem queued_queuedWorld : Queued queuedWorld := by
  constructor
  · exact List.Pairwise.nil
  · decide
  · intro job _ _ reference _ stands
    obtain ⟨event, member, _⟩ := stands
    cases member

/-- A turn in which the provider executes every payout and answers with these
statuses. -/
def answering (at_time : Time) (first second : Wire String) : QueueTask :=
  .poll
    { claimedAt := at_time, handledAt := at_time, failedAt := at_time, backoffBase := 5000
      credentialsReady := true
      provider := fun turn _ =>
        let answer : Exchange ProviderRecord :=
          .answered 200 (some { status := if turn = 0 then first else second })
            ""
        ⟨true, answer, answer⟩
      others := fun _ => .ok () }

/-- Two turns, `true` before `false`: in the second everything is processing. -/
def twoTurns (first second : Wire String) : Bool → QueueTask
  | true => answering 2 first second
  | false => answering 20000 (.given "PROCESSING") (.given "PROCESSING")

/-- The statement of the first turn after this many fails, and the job is
retried. -/
def failingAfter (statements : ℕ) : List (Event Bool AppError) :=
  List.replicate statements (.run true) ++
    .fail true .invalidValue ::
      (List.replicate 3 (.run true) ++ List.replicate 20 (.run false))

/-- A failure once the first payout is stored: the retry submits only the
second. -/
theorem submitted_once_retried :
    SubmittedOnce ((serving queuedWorld
      (twoTurns (.given "PROCESSING") (.given "PROCESSING"))).run
        (failingAfter 5)).state.rail :=
  submitted_once queuedWorld queued_queuedWorld _ (failingAfter 5) (by decide +kernel)

/-- The references submitted with success, in order. -/
def executedSubmissions (rail : List RailEvent) : List Reference :=
  rail.filterMap fun event =>
    match event with
    | .submission reference true true => some reference
    | _ => none

/-- A failure between the answer and the row, or an answer that leaves the row
pending: the first payout is submitted twice although the provider executes and
accepts it. -/
theorem submitted_twice :
    (¬ SubmittedOnce ((serving queuedWorld
        (twoTurns (.given "PROCESSING") (.given "PROCESSING"))).run
          (failingAfter 3)).state.rail ∧
      executedSubmissions ((serving queuedWorld
        (twoTurns (.given "PROCESSING") (.given "PROCESSING"))).run
          (failingAfter 3)).state.rail =
        ["AAAAA000000000000001", "AAAAA000000000000001", "AAAAA000000000000002"]) ∧
    ¬ SubmittedOnce ((serving queuedWorld (twoTurns (.given "PENDING") .illTyped)).run
        (List.replicate 40 (.run true) ++ List.replicate 40 (.run false))).state.rail ∧
      executedSubmissions ((serving queuedWorld (twoTurns (.given "PENDING") .illTyped)).run
        (List.replicate 40 (.run true) ++ List.replicate 40 (.run false))).state.rail =
        ["AAAAA000000000000001", "AAAAA000000000000002", "AAAAA000000000000001",
          "AAAAA000000000000002"] := by
  decide +kernel

end CloudStudio.Payouts
