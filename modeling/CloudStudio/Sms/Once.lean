import CloudStudio.Payments.Threads
import CloudStudio.Sms.Messages

/-!
# How often is a message submitted?

Workers, delivery webhooks and the report sync run at once.  A message is in one
job and a job has one worker, so the claim is enough, as long as nobody opens a
message again that the provider has accepted and whose job may still run.
-/

namespace CloudStudio.Sms

open Function
open CloudStudio.Data CloudStudio.Transactions CloudStudio.Platform
open CloudStudio.Payments
open CloudStudio.Payouts CloudStudio.Wallets

/-- The second submission is not of a message whose first submission stands. -/
def Follows (first second : SmsSubmission) : Prop :=
  SmsSubmission.Stands first → second.reference ≠ first.reference

instance (first second : SmsSubmission) : Decidable (Follows first second) :=
  inferInstanceAs (Decidable (_ → _))

/-- No message is submitted again after a submission that stands. -/
def SentOnce (rail : List SmsSubmission) : Prop :=
  rail.Pairwise Follows

instance (rail : List SmsSubmission) : Decidable (SentOnce rail) :=
  inferInstanceAs (Decidable (rail.Pairwise Follows))

/-- How far a worker is with the message of its job. -/
inductive Stage where
  | waiting
  | claimed
  | submitted

/-- The job a worker has, and how far it is. -/
structure SendDuty where
  position : ℕ
  payload : JobPayload
  stage : Stage

/-- The job is the worker's.  Before the claim its message is closed, if it has
been sent; after the claim it has not been sent. -/
structure SendDuty.Kept (world : World) (duty : SendDuty) : Prop where
  job : ∃ job, world.jobs[duty.position]? = some job ∧
    job.status = .processing ∧ job.payload = duty.payload
  closed : duty.stage = .waiting → ∀ reference ∈ duty.payload.messages,
    Closed world reference
  unsent : duty.stage = .claimed → ∀ reference ∈ duty.payload.messages,
    ¬ Sent world reference

variable {Id : Type}

/-- Every message has one job, every job one worker, and what a job may still
send is closed if it has been sent. -/
structure Sending (world : World) (held : Id → Option SendDuty) : Prop where
  once : SentOnce world.smsRail
  apart : (world.jobs.flatMap fun job => job.payload.messages).Nodup
  waiting : ∀ job ∈ world.jobs, job.status = .pending →
    ∀ reference ∈ job.payload.messages, Closed world reference
  kept : ∀ id, ∀ duty ∈ held id, duty.Kept world
  sole : ∀ id other duty rival, held id = some duty → held other = some rival →
    duty.position = rival.position → id = other

variable [DecidableEq Id]

/-- A call that is not a worker holds nothing, and a worker that ends for good
keeps its job. -/
def sending : Protocol Id World RowKey Expectation (Option SendDuty) where
  assumed := [.truthfulAnswer, .settledMessage]
  invariant := fun world _ held => Sending world held
  guarantee := fun _ _ _ => True
  abandon := fun duty => duty
  guarantee_refl := fun _ _ => trivial
  invariant_abandon := by
    intro world owner held id kept
    rwa [update_eq_self]

variable {world after : World} {held : Id → Option SendDuty} {id : Id}
  {duty : SendDuty}

namespace Sending

omit [DecidableEq Id] in
/-- The messages a job may still send are awaited. -/
theorem awaited_of_duty (kept : Sending world held) (own : held id = some duty)
    {reference : Reference} (member : reference ∈ duty.payload.messages) :
    Awaited world reference := by
  obtain ⟨job, at_position, processing, payload⟩ := (kept.kept id duty own).job
  refine ⟨job, List.mem_of_getElem? at_position, by simp [processing], ?_⟩
  rwa [payload]

omit [DecidableEq Id] in
/-- Only rows of messages have changed, and what was closed and is awaited still
is. -/
theorem rows (kept : Sending world held) (jobs : after.jobs = world.jobs)
    (rail : after.smsRail = world.smsRail)
    (closed : ∀ reference, Awaited world reference → Closed world reference →
      Closed after reference) : Sending after held := by
  have sent (reference : Reference) : Sent after reference ↔
    Sent world reference := by
    simp only [Sent, rail]
  constructor
  · rw [rail]
    exact kept.once
  · rw [jobs]
    exact kept.apart
  · intro job member pending reference listed
    rw [jobs] at member
    apply closed reference
    · exact ⟨job, member, by simp [pending], listed⟩
    · exact kept.waiting job member pending reference listed
  · intro id duty own
    obtain ⟨job, before, unsent⟩ := kept.kept id duty own
    constructor
    · rwa [jobs]
    · intro waits reference member
      apply closed reference
      · exact kept.awaited_of_duty own member
      · exact before waits reference member
    · intro claims reference member
      rw [sent]
      exact unsent claims reference member
  · exact kept.sole

omit [DecidableEq Id] in
/-- Everything but the jobs of other queues is as it was. -/
theorem beside (kept : Sending world held)
    (rows : after.smsMessages = world.smsMessages)
    (rail : after.smsRail = world.smsRail) {more : List Job}
    (jobs : after.jobs = world.jobs ++ more)
    (others : ∀ job ∈ more, job.payload.messages = []) :
    Sending after held := by
  have sent (reference : Reference) : Sent after reference ↔
    Sent world reference := by
    simp only [Sent, rail]
  have closed (reference : Reference) : Closed after reference ↔
    Closed world reference := by
    simp only [Closed, sent, rows]
  constructor
  · rw [rail]
    exact kept.once
  · rw [jobs, List.flatMap_append, List.flatMap_eq_nil_iff.mpr others,
      List.append_nil]
    exact kept.apart
  · intro job member pending reference listed
    rw [closed]
    rw [jobs] at member
    rcases List.mem_append.mp member with old | new
    · exact kept.waiting job old pending reference listed
    · rw [others job new] at listed
      cases listed
  · intro id duty own
    obtain ⟨⟨job, at_position, rest⟩, before, unsent⟩ := kept.kept id duty own
    refine ⟨⟨job, ?_, rest⟩, ?_, ?_⟩
    · obtain ⟨bound, _⟩ := List.getElem?_eq_some_iff.mp at_position
      rw [jobs, List.getElem?_append_left bound]
      exact at_position
    · simpa only [closed] using before
    · simpa only [sent] using unsent
  · exact kept.sole

/-- A thread changes its duty, to one that nobody else has. -/
theorem reassign (kept : Sending world held) {next : Option SendDuty}
    (holds : ∀ duty ∈ next, duty.Kept world)
    (alone : ∀ other ≠ id, ∀ duty rival, next = some duty →
      held other = some rival →
      duty.position ≠ rival.position) : Sending world (update held id next) :=
  ⟨kept.once, kept.apart, kept.waiting, duties_update kept.kept holds,
    exclusive_update kept.sole alone⟩

/-- A worker gets further with its job. -/
theorem advance (kept : Sending world held) (own : held id = some duty)
    (stage : Stage) (closed : stage = .waiting →
      ∀ reference ∈ duty.payload.messages, Closed world reference)
    (unsent : stage = .claimed →
      ∀ reference ∈ duty.payload.messages, ¬ Sent world reference) :
    Sending world (update held id (some { duty with stage })) := by
  apply kept.reassign
  · intro next same
    cases same
    exact ⟨(kept.kept id duty own).job, closed, unsent⟩
  · intro other differ next rival same theirs equal
    cases same
    exact differ (kept.sole other id rival duty theirs own equal.symm)

omit [DecidableEq Id] in
/-- A job that nobody has changes, and is pending only if its messages are
closed. -/
theorem modifyJob (kept : Sending world held) {position : ℕ}
    {change : Job → Job} (payload : ∀ job, (change job).payload = job.payload)
    (unheld : ∀ id, ∀ duty ∈ held id, duty.position ≠ position)
    (closed : ∀ job, world.jobs[position]? = some job →
      (change job).status = .pending →
      ∀ reference ∈ job.payload.messages, Closed world reference) :
    Sending { world with jobs := world.jobs.modify position change } held := by
  constructor
  · exact kept.once
  · rw [flatMap_modify JobPayload.messages world.jobs position payload]
    exact kept.apart
  · intro job member pending reference listed
    obtain ⟨index, at_index⟩ := List.mem_iff_getElem?.mp member
    rw [List.getElem?_modify] at at_index
    obtain ⟨row, found, rfl⟩ := Option.map_eq_some_iff.mp at_index
    split at pending
    · rename_i same
      subst same
      rw [if_pos rfl, payload] at listed
      exact closed row found pending reference listed
    · rename_i other
      rw [if_neg other] at listed
      exact kept.waiting row (List.mem_of_getElem? found) pending
        reference listed
  · intro id duty own
    obtain ⟨⟨job, at_position, rest⟩, before, unsent⟩ := kept.kept id duty own
    refine ⟨⟨job, ?_, rest⟩, before, unsent⟩
    rw [List.getElem?_modify, at_position]
    simp only [Option.map_eq_map, Option.map_some,
      if_neg (unheld id duty own).symm]
  · exact kept.sole

/-- A worker is done with its job. -/
theorem finish (kept : Sending world held) (own : held id = some duty)
    {change : Job → Job} (payload : ∀ job, (change job).payload = job.payload)
    (closed : ∀ job, world.jobs[duty.position]? = some job →
      (change job).status = .pending →
        ∀ reference ∈ job.payload.messages, Closed world reference) :
    Sending { world with jobs := world.jobs.modify duty.position change }
      (update held id none) := by
  have released : Sending world (update held id none) :=
    kept.reassign
      (fun _ member => by cases member) (fun _ _ _ _ same => by cases same)
  apply released.modifyJob payload _ closed
  intro other rival theirs equal
  by_cases same : other = id
  · subst same
    rw [update_self] at theirs
    cases theirs
  · rw [update_of_ne same] at theirs
    exact same (kept.sole other id rival duty theirs own equal)

/-- A worker claims a pending job. -/
theorem claim (kept : Sending world held) {position : ℕ} {job : Job}
    (found : world.jobs[position]? = some job)
    (pending : job.status = .pending) :
    Sending { world with jobs := world.jobs.modify position claimed }
      (update held id (some ⟨position, job.payload, .waiting⟩)) := by
  have unheld (other : Id) (rival : SendDuty) (theirs : rival ∈ held other) :
      rival.position ≠ position := by
    intro same
    obtain ⟨⟨row, at_position, processing, _⟩, _⟩ :=
      kept.kept other rival theirs
    rw [same, found] at at_position
    cases at_position
    rw [pending] at processing
    cases processing
  have taken : Sending { world with jobs := world.jobs.modify position claimed }
    held :=
    kept.modifyJob (fun _ => rfl) unheld fun _ _ isPending => by cases isPending
  apply taken.reassign
  · intro duty same
    cases same
    refine ⟨⟨Payouts.claimed job, ?_, rfl, rfl⟩, ?_, nofun⟩
    · rw [List.getElem?_modify, found]
      simp only [Option.map_eq_map, Option.map_some, if_true]
    · intro _ reference listed
      exact kept.waiting job (List.mem_of_getElem? found) pending
        reference listed
  · intro other _ duty rival same theirs equal
    cases same
    exact unheld other rival theirs equal.symm

omit [DecidableEq Id] in
/-- The message of a job is in no pending job and in no other worker's. -/
theorem alone (kept : Sending world held) (own : held id = some duty)
    {reference : Reference} (listed : reference ∈ duty.payload.messages) :
    (∀ job ∈ world.jobs, job.status = .pending →
      reference ∉ job.payload.messages) ∧
      ∀ other rival, held other = some rival →
        reference ∈ rival.payload.messages → other = id := by
  obtain ⟨job, at_position, processing, payload⟩ := (kept.kept id duty own).job
  rw [← payload] at listed
  constructor
  · intro other member pending theirs
    obtain ⟨index, at_index⟩ := List.mem_iff_getElem?.mp member
    have same := position_unique JobPayload.messages kept.apart at_position
      at_index listed theirs
    rw [← same, at_position] at at_index
    cases at_index
    rw [processing] at pending
    cases pending
  · intro other rival holds theirs
    obtain ⟨theirJob, at_rival, _, rivalPayload⟩ :=
      (kept.kept other rival holds).job
    rw [← rivalPayload] at theirs
    have same := position_unique JobPayload.messages kept.apart at_position
      at_rival listed theirs
    exact kept.sole other id rival duty holds own same.symm

/-- The worker that claimed a message submits it. -/
theorem submit (kept : Sending world held) (own : held id = some duty)
    (claims : duty.stage = .claimed) {reference : Reference}
    (listed : reference ∈ duty.payload.messages) (accepted answered : Bool) :
    Sending { world with smsRail :=
      world.smsRail ++ [⟨reference, accepted, answered⟩] }
      (update held id (some { duty with stage := .submitted })) := by
  have free : ¬ Sent world reference :=
    (kept.kept id duty own).unsent claims reference listed
  obtain ⟨unqueued, mine⟩ := kept.alone own listed
  have turned :
    Sending world (update held id (some { duty with stage := .submitted })) :=
    kept.advance own .submitted nofun nofun
  have sent (other : Reference) (differs : other ≠ reference)
      (stands : Sent { world with
        smsRail := world.smsRail ++ [⟨reference, accepted, answered⟩] } other) :
      Sent world other := by
    obtain ⟨submission, member, its, stands⟩ := stands
    rcases List.mem_append.mp member with old | new
    · exact ⟨submission, old, its, stands⟩
    · rw [List.mem_singleton.mp new] at its
      exact absurd its.symm differs
  have closed (other : Reference) (differs : other ≠ reference)
      (before : Closed world other) : Closed { world with
        smsRail := world.smsRail ++ [⟨reference, accepted, answered⟩] } other :=
    fun stands => before (sent other differs stands)
  constructor
  · apply List.pairwise_append.mpr
    refine ⟨kept.once, List.pairwise_singleton _ _, ?_⟩
    intro submission member next new stands same
    rw [List.mem_singleton.mp new] at same
    exact free ⟨submission, member, same.symm, stands⟩
  · exact kept.apart
  · intro job member pending other theirs
    apply closed other
    · intro same
      subst same
      exact unqueued job member pending theirs
    · exact kept.waiting job member pending other theirs
  · intro other rival holds
    obtain ⟨job, before, unsent⟩ := turned.kept other rival holds
    by_cases same : other = id
    · subst same
      rw [update_self] at holds
      cases holds
      exact ⟨job, nofun, nofun⟩
    · rw [update_of_ne same] at holds
      have differs (message : Reference)
        (theirs : message ∈ rival.payload.messages) : message ≠ reference := by
        intro isSame
        subst isSame
        exact same (mine other rival holds theirs)
      refine ⟨job, ?_, ?_⟩
      · intro waits message theirs
        exact closed message (differs message theirs)
          (before waits message theirs)
      · intro isClaimed message theirs stands
        exact unsent isClaimed message theirs
          (sent message (differs message theirs) stands)
  · exact turned.sole

omit [DecidableEq Id] in
/-- A submission that does not stand changes nothing. -/
theorem reject (kept : Sending world held) (own : held id = some duty)
    (claims : duty.stage = .claimed) {reference : Reference}
    (listed : reference ∈ duty.payload.messages) :
    Sending { world with smsRail :=
      world.smsRail ++ [⟨reference, false, false⟩] } held := by
  have free : ¬ Sent world reference :=
    (kept.kept id duty own).unsent claims reference listed
  have sent (other : Reference)
      (stands : Sent { world with
        smsRail := world.smsRail ++ [⟨reference, false, false⟩] } other) :
      Sent world other := by
    obtain ⟨submission, member, its, stands⟩ := stands
    rcases List.mem_append.mp member with old | new
    · exact ⟨submission, old, its, stands⟩
    · rw [List.mem_singleton.mp new] at stands
      rcases stands with accepted | answered
      · cases accepted
      · cases answered
  constructor
  · apply List.pairwise_append.mpr
    refine ⟨kept.once, List.pairwise_singleton _ _, ?_⟩
    intro submission member next new stands same
    rw [List.mem_singleton.mp new] at same
    exact free ⟨submission, member, same.symm, stands⟩
  · exact kept.apart
  · intro job member pending other theirs stands
    exact kept.waiting job member pending other theirs (sent other stands)
  · intro other rival holds
    obtain ⟨job, before, unsent⟩ := kept.kept other rival holds
    refine ⟨job, ?_, ?_⟩
    · exact fun waits message theirs stands =>
        before waits message theirs (sent message stands)
    · exact fun isClaimed message theirs stands =>
        unsent isClaimed message theirs (sent message stands)
  · exact kept.sole

omit [DecidableEq Id] in
/-- One message's row changes. -/
theorem write (kept : Sending world held) {reference : Reference}
    {change : SmsMessage → SmsMessage}
    (keeps : ∀ sms, (change sms).reference = sms.reference)
    (closed : Awaited world reference → Sent world reference →
      ∀ sms, world.smsMessages.find? reference = some sms →
        (change sms).status ∉ claimable) :
    Sending { world with
      smsMessages := world.smsMessages.modify reference change keeps }
        held := by
  apply kept.rows
  · rfl
  · rfl
  · intro other awaited before stands sms found
    by_cases same : other = reference
    · subst same
      rw [Table.find?_modify_self] at found
      obtain ⟨row, at_row, rfl⟩ := Option.map_eq_some_iff.mp found
      exact closed awaited stands row at_row
    · rw [Table.find?_modify_ne same] at found
      exact before stands sms found

end Sending

/-- The thread's duty is what it was. -/
def Stays (duty : Option SendDuty) {Answer : Type} (_ : Answer)
    (left : Option SendDuty) : Prop :=
  left = duty

/-- Still at this job. -/
def AtJob (position : ℕ) {Answer : Type} (_ : Answer) (left : Option SendDuty) :
    Prop :=
  ∃ duty, left = some duty ∧ duty.position = position

/-- Events, deliveries and their jobs are of no concern to the messages. -/
theorem dispatch_sending (now : Time) (notice : Dispatched)
    (duty : Option SendDuty) :
    (dispatch now notice).Safe sending id (fun _ left => left = duty)
      (Stays duty) duty := by
  apply dispatch_ignored
  · intro world owner held kept
    refine ⟨?_, fun _ => trivial⟩
    exact Sending.beside kept rfl rfl (List.append_nil _).symm
      fun _ member => by cases member
  · intro delivery world owner held kept
    refine ⟨?_, fun _ => trivial⟩
    exact Sending.beside kept rfl rfl (List.append_nil _).symm
      fun _ member => by cases member
  · intro job delivers world owner held kept
    refine ⟨Sending.beside kept rfl rfl rfl ?_, fun _ => trivial⟩
    intro added member
    obtain ⟨deliveryId, payload⟩ := delivers
    rw [List.mem_singleton.mp member, payload]
    rfl
  · exact fun _ => rfl

/-- The recovery opens no message that was sent and may be sent again. -/
theorem recovered_closed {now : Time} {reference : Reference}
    (settled : ∀ sms ∈ world.smsMessages.rows,
      Abandoned now sms → MayReopen world sms.reference)
    (awaited : Awaited world reference) (before : Closed world reference) :
    Closed ((recoverClaims now).effect world world) reference := by
  intro stands sms found
  change (world.smsMessages.modifyAll (recovered now)
    (recovered_reference now)).find? reference = some sms at found
  rw [Table.find?_modifyAll] at found
  obtain ⟨row, at_row, rfl⟩ := Option.map_eq_some_iff.mp found
  have key : row.reference = reference := Table.key_of_find? at_row
  unfold recovered
  split
  · rename_i abandoned
    have unsent := settled row (Table.mem_of_find? at_row) abandoned
    rw [key] at unsent
    exact absurd stands (unsent awaited)
  · exact before stands row at_row

/-- A report or the job's own writes leave the duty alone. -/
theorem update_sending {site : Site} {smsId : Reference}
    {change : SmsMessage → SmsMessage}
    {keeps : ∀ sms, (change sms).reference = sms.reference} {Result : Type}
    {post : Result → Option SendDuty → Prop}
    {thrown : AppError → Option SendDuty → Prop} {next : SmsMessage → Db Result}
    {failed : AppError → Db Result} {duty : Option SendDuty}
    (closed : ∀ world owner (held : Id → Option SendDuty),
      sending.invariant world owner held → held id = duty →
        Awaited world smsId →
        Sent world smsId → ∀ sms, (change sms).status ∉ claimable)
    (safeNext : ∀ sms, (next sms).Safe sending id post thrown duty)
    (safeFailed : ∀ error, (failed error).Safe sending id post thrown duty) :
    (Program.query (smsMessages.update site smsId change keeps) next
      failed).Safe sending id post thrown duty := by
  refine ⟨?_, safeFailed⟩
  intro world owner held kept own _ _ sms _
  refine ⟨duty, ?_, trivial, safeNext sms⟩
  rw [← own, update_eq_self]
  apply Sending.write kept keeps
  exact fun awaited stands sms _ =>
    closed world owner held kept own awaited stands sms

/-- An accepted call is recorded, or not; nothing is thrown. -/
theorem recordSent_sending (now : Time) (sms : SmsMessage)
    (providerRequestId : String) (rate : Option Decimal) (ok : Bool)
    (duty : Option SendDuty) :
    (recordSent now sms providerRequestId rate ok).Safe sending id
      (fun _ left => left = duty) (Stays duty) duty := by
  have marks (site : Site) (cost : Decimal)
    (recipients : Option (List SmsRecipient)) :
      (Program.discard (Program.perform
        (markSent site now providerRequestId cost recipients
          sms.reference))).Safe sending id
          (fun _ left => left = duty) (Stays duty) duty := by
    apply discard_safe
    apply update_sending
    · intro _ _ _ _ _ _ _ row
      exact nofun
    · exact fun _ => rfl
    · exact fun _ => rfl
  cases rate with
  | none => exact rfl
  | some rate =>
      apply (marks "sms.sent" (messageCost rate sms)
        (some (submittedRecipients ok sms))).catching
      intro _ left same
      subst same
      apply (marks "sms.sentFallback" (messageCost rate sms) none).catching
      exact fun _ _ same => same

/-! ## The job -/

/-- What follows an accepted call: no concern of the rules, and still at the
job. -/
theorem accepted_worker (now : Time) (sms : SmsMessage)
    (providerRequestId : String) (rate : Option Decimal) (ok : Bool)
    (notice : Dispatched) (duty : SendDuty) :
    (do
      recordSent now sms providerRequestId rate ok
      Program.discard (dispatch now notice) : Db Unit).Safe sending id
        (AtJob duty.position) (AtJob duty.position) (some duty) := by
  have recorded : (recordSent now sms providerRequestId rate ok).Safe sending id
      (fun _ left => left = some duty) (AtJob duty.position) (some duty) := by
    apply (recordSent_sending now sms providerRequestId rate ok
      (some duty)).mono
    · exact fun _ _ same => same
    · exact fun _ _ same => ⟨duty, same, rfl⟩
  apply recorded.andThen
  intro _ left same
  subst same
  apply discard_safe
  apply (dispatch_sending now notice (some duty)).mono
  · exact fun _ _ same => ⟨duty, same, rfl⟩
  · exact fun _ _ same => ⟨duty, same, rfl⟩

/-- The rest of the handler once the message is claimed. -/
theorem claimed_worker (times : SendTimes) (credentialsReady : Bool)
    (rate : Option Decimal) (provider : SmsSendRequest → SmsBehaviour)
    (sms : SmsMessage) {duty : SendDuty} (claims : duty.stage = .claimed)
    (listed : sms.reference ∈ duty.payload.messages) :
    (do
      let result ← Program.perform
        (sendOnRail credentialsReady (provider (sendRequest sms)) sms.reference)
      match usableData result with
      | some data => do
          recordSent times.answeredAt sms (memberText data ["request_id"]) rate
            result.ok
          Program.discard (dispatch times.answeredAt
            ⟨.smsStatus, sms.accountId, sms.reference, .sms .sent⟩)
      | none => do
          let _ ← Program.perform (markFailed times.answeredAt result.error
            (submittedRecipients result.ok sms) sms.reference)
          .threw (.plain
            (result.error.getD "SMS provider rejected the message")) :
            Db Unit).Safe
      sending id (AtJob duty.position) (AtJob duty.position) (some duty) := by
  rw [Program.bind_perform]
  refine ⟨?_, fun _ => ⟨duty, rfl, rfl⟩⟩
  intro world owner held kept own _ expected result answered
  have same : (provider (sendRequest sms)).result credentialsReady = result :=
    Except.ok.inj answered
  have truthful :=
    of_decide_eq_true (expected .truthfulAnswer List.mem_cons_self)
  simp only [sendOnRail, same] at truthful ⊢
  cases usable : usableData result with
  | some data =>
      refine ⟨some { duty with stage := .submitted },
        Sending.submit kept own claims listed _ _, trivial, ?_⟩
      exact accepted_worker times.answeredAt sms _ rate result.ok _
        { duty with stage := .submitted }
  | none =>
      refine ⟨some duty, ?_, trivial, ?_⟩
      · rw [truthful usable, ← own, update_eq_self]
        exact Sending.reject kept own claims listed
      · apply update_sending
        · intro world owner held kept own _ stands
          exact absurd stands
            ((Sending.kept kept id duty own).unsent claims _ listed)
        · exact fun _ => ⟨duty, rfl, rfl⟩
        · exact fun _ => ⟨duty, rfl, rfl⟩

/-- A worker that has just claimed its job. -/
theorem processSendJob_worker (times : SendTimes) (credentialsReady : Bool)
    (rate : Option Decimal) (provider : SmsSendRequest → SmsBehaviour)
    {smsId : Reference} {position : ℕ} :
    (processSendJob times credentialsReady rate provider smsId).Safe sending id
      (AtJob position)
      (AtJob position) (some ⟨position, .smsSend smsId, .waiting⟩) := by
  have at_job : AtJob position () (some ⟨position, .smsSend smsId, .waiting⟩) :=
    ⟨_, rfl, rfl⟩
  rw [processSendJob, Program.bind_perform]
  refine ⟨?_, fun _ => at_job⟩
  intro world owner held kept own _ expected _ _
  refine ⟨some ⟨position, .smsSend smsId, .waiting⟩, ?_, trivial, ?_⟩
  · rw [← own, update_eq_self]
    have settled := of_decide_eq_true
      (expected .settledMessage (List.mem_cons_of_mem _ List.mem_cons_self))
    apply Sending.rows kept
    · rfl
    · rfl
    · exact fun reference awaited before =>
        recovered_closed settled awaited before
  rw [Program.bind_perform]
  refine Program.Safe.read (fun _ _ => rfl) ?_ fun _ => at_job
  intro _ _ _ _ _ found answered
  cases found with
  | none => exact at_job
  | some sms =>
      have key : sms.reference = smsId :=
        Table.key_of_find? (Except.ok.inj answered)
      dsimp only
      split
      · exact at_job
      rw [Program.bind_perform]
      refine ⟨?_, fun _ => at_job⟩
      intro world owner held kept own _ _ count answered
      have counted := Except.ok.inj answered
      rw [key] at counted
      by_cases free : Claimable world smsId
      · -- the claim is granted, so the message has not been sent
        rw [if_pos free] at counted
        rw [← counted]
        have unsent : ¬ Sent world smsId := by
          intro stands
          obtain ⟨row, found, claims⟩ := free
          have closed :=
            (Sending.kept kept id _ own).closed rfl smsId List.mem_cons_self
          exact closed stands row found claims
        refine ⟨some ⟨position, .smsSend smsId, .claimed⟩, ?_, trivial,
          claimed_worker times credentialsReady rate provider sms rfl ?_⟩
        · simp only [claimMessage, key, if_pos free]
          have written : Sending { world with
              smsMessages := world.smsMessages.modify smsId
                (withStatus times.claimedAt .processing) fun _ => rfl }
                  held := by
            apply Sending.write kept
            exact fun _ stands => absurd stands unsent
          apply written.advance own .claimed fun waits => by cases waits
          intro _ reference listed
          rw [List.mem_singleton.mp listed]
          exact unsent
        · rw [key]
          exact List.mem_cons_self
      · rw [if_neg free] at counted
        rw [← counted]
        refine ⟨some ⟨position, .smsSend smsId, .waiting⟩, ?_, trivial, at_job⟩
        rw [← own, update_eq_self]
        simp only [claimMessage, key, if_neg free]
        exact kept

theorem handler_worker (turn : SmsTurn) (payload : JobPayload) (position : ℕ) :
    (turn.handler payload).Safe sending id (AtJob position) (AtJob position)
      (some ⟨position, payload, .waiting⟩) := by
  cases payload with
  | smsSend smsId =>
      exact processSendJob_worker turn.times turn.credentialsReady
        turn.rate turn.provider
  | payoutProcess payoutId =>
      simp only [SmsTurn.handler]
      cases turn.others (.payoutProcess payoutId) <;> exact ⟨_, rfl, rfl⟩
  | batchProcess batchId payoutIds =>
      simp only [SmsTurn.handler]
      cases turn.others (.batchProcess batchId payoutIds)
        <;> exact ⟨_, rfl, rfl⟩
  | webhookDeliver deliveryId =>
      simp only [SmsTurn.handler]
      cases turn.others (.webhookDeliver deliveryId) <;> exact ⟨_, rfl, rfl⟩

/-- Where a call may end: anywhere. -/
abbrev Wherever {Answer : Type} (_ : Answer) (_ : Option SendDuty) : Prop :=
  True

/-- The worker completes its job, or puts it back with its message closed if it
was sent. -/
theorem process_worker (turn : SmsTurn) (position : ℕ) (job : Job) :
    (turn.process position job).Safe sending id Wherever Wherever
      (some ⟨position, job.payload, .waiting⟩) := by
  have handled : (do
      turn.handler job.payload
      Program.perform (completeJob position)).Safe sending id Wherever
        (AtJob position) (some ⟨position, job.payload, .waiting⟩) := by
    apply (handler_worker turn job.payload position).andThen
    intro _ left at_job
    obtain ⟨duty, same, at_position⟩ := at_job
    subst same
    refine ⟨?_, fun _ => ⟨duty, rfl, at_position⟩⟩
    intro world owner held kept own _ _ answer _
    rw [← at_position]
    refine ⟨none, ?_, trivial, trivial⟩
    apply Sending.finish kept own
    · exact fun _ => rfl
    · exact fun _ _ pending => by cases pending
  apply handled.catching
  intro error left at_job
  obtain ⟨duty, same, at_position⟩ := at_job
  subst same
  have retried : (Program.perform
      (retrySend turn.failedAt turn.backoffBase position job)).Safe
        sending id Wherever Wherever (some duty) := by
    refine ⟨?_, fun _ => trivial⟩
    intro world owner held kept own _ expected answer _
    have settled := of_decide_eq_true
      (expected .settledMessage (List.mem_cons_of_mem _ List.mem_cons_self))
    rw [← at_position] at settled ⊢
    refine ⟨none, Sending.finish kept own ?_ ?_, trivial, trivial⟩
    · intro row
      unfold putBack
      split
      · rfl
      · rfl
    · intro row found pending
      rcases settled with exhausted | settled
      · rw [putBack, if_pos exhausted] at pending
        cases pending
      · exact settled row found
  apply retried.catching
  exact fun _ _ _ => trivial

/-- A turn of the poll. -/
theorem turn_worker (turn : SmsTurn) :
    turn.program.Safe sending id Wherever Wherever none := by
  have claim : (Program.perform (claimJob turn.claimedAt)).Safe sending id
      (fun claim left => (claim = none ∧ left = none) ∨ ∃ position job,
        claim = some (position, job) ∧
          left = some ⟨position, job.payload, .waiting⟩)
      (fun _ left => left = none) none := by
    refine ⟨?_, fun _ => rfl⟩
    intro world owner held kept own _ _ claim answered
    have claim_eq := (Except.ok.inj answered).symm
    cases due : dueJob? turn.claimedAt world.jobs with
    | none =>
        simp only [claimJob, due] at claim_eq ⊢
        refine ⟨none, ?_, trivial, .inl ⟨claim_eq, rfl⟩⟩
        rw [← own, update_eq_self]
        exact kept
    | some position =>
        obtain ⟨bound, isDue, _⟩ := List.findIdx?_eq_some_iff_getElem.mp due
        have found : world.jobs[position]? = some world.jobs[position] :=
          List.getElem?_eq_getElem bound
        have pending := (of_decide_eq_true isDue).1
        simp only [claimJob, due, Option.bind_eq_bind, Option.bind_some, found,
          Option.pure_def] at claim_eq ⊢
        exact ⟨_, Sending.claim kept found pending, trivial,
          .inr ⟨position, Payouts.claimed world.jobs[position], claim_eq, rfl⟩⟩
  have claims : (Program.catching (Program.perform (claimJob turn.claimedAt))
      fun _ => pure none).Safe sending id
        (fun claim left => (claim = none ∧ left = none) ∨ ∃ position job,
          claim = some (position, job) ∧
            left = some ⟨position, job.payload, .waiting⟩)
        Wherever none := by
    apply claim.catching
    exact fun _ _ same => .inl ⟨rfl, same⟩
  apply claims.andThen
  intro claim left ended
  rcases ended with ⟨nothing, idle⟩ | ⟨position, job, isJob, mine⟩
  · subst nothing
    exact trivial
  · subst isJob mine
    exact process_worker turn position job

/-- A report that opens its message does so only where nothing would send it
again. -/
theorem updateReport_sending (site : Site) (now : Time) (sms : SmsMessage)
    (recipients : List SmsRecipient) (failed : Bool) {Result : Type}
    {post : Result → Option SendDuty → Prop}
    {thrown : AppError → Option SendDuty → Prop} {next : SmsMessage → Db Result}
    {failing : AppError → Db Result} {duty : Option SendDuty}
    (safeNext : ∀ sms, (next sms).Safe sending id post thrown duty)
    (safeFailed : ∀ error, (failing error).Safe sending id post thrown duty) :
    (Program.query (updateReport site now sms recipients failed) next
      failing).Safe sending id post thrown duty := by
  refine ⟨?_, safeFailed⟩
  intro world owner held kept own _ expected row _
  refine ⟨duty, ?_, trivial, safeNext row⟩
  rw [← own, update_eq_self]
  have settled := of_decide_eq_true
    (expected .settledMessage (List.mem_cons_of_mem _ List.mem_cons_self))
  apply Sending.write kept
  intro awaited stands row _ opens
  exact settled opens awaited stands

theorem beem_sending (now : Time) (body : Json) :
    (beem now body).Safe sending id Wherever Wherever none := by
  unfold beem
  dsimp only
  split
  · exact trivial
  rw [Program.bind_perform]
  refine Program.Safe.read (fun _ _ => rfl) ?_ fun _ => trivial
  intro _ _ _ _ _ found _
  cases found with
  | none => exact trivial
  | some sms =>
      apply discard_safe
      apply updateReport_sending
      · exact fun _ => trivial
      · exact fun _ => trivial

theorem syncDeliveryReports_sending (now : Time)
    (deliveryReport : String → String → ProviderResult Json) :
    (syncDeliveryReports now deliveryReport).Safe sending id Wherever
      Wherever none := by
  rw [syncDeliveryReports, Program.bind_perform]
  refine Program.Safe.read (fun _ _ => rfl) ?_ fun _ => trivial
  intro _ _ _ _ _ sent _
  have reported : (Program.forEach sent fun sms => do
      let reports :=
        collectReports (deliveryReport (sms.providerRequestId.getD "")) sms
      let _ ← Program.perform
        (updateReport "sms.sync" now sms reports.1 reports.2)
      let nextStatus := reportedStatus reports.1 reports.2 sms.status
      Program.when (nextStatus ≠ sms.status) (Program.discard (dispatch now
        ⟨.smsStatus, sms.accountId, sms.reference, .sms nextStatus⟩))).Safe
          sending id
      (fun _ left => left = none) Wherever none := by
    apply forEach_safe
    · intro sms left same
      subst same
      apply updateReport_sending
      · intro _
        apply when_safe
        · intro _
          apply discard_safe
          apply (dispatch_sending now _ none).mono
          · exact fun _ _ same => same
          · exact fun _ _ _ => trivial
        · exact fun _ => rfl
      · exact fun _ => trivial
    · rfl
  apply reported.mono
  · exact fun _ _ _ => trivial
  · exact fun _ _ _ => trivial

/-! ## Every run -/

/-- A turn of a worker, a delivery report from Beem, or a run of the report
sync. -/
inductive SmsTask where
  | poll (turn : SmsTurn)
  | beem (now : Time) (body : Json)
  | sync (now : Time) (deliveryReport : String → String → ProviderResult Json)

def SmsTask.program : SmsTask → Db Unit
  | .poll turn => turn.program
  | .beem now body => Sms.beem now body
  | .sync now deliveryReport => syncDeliveryReports now deliveryReport

theorem task_sending (task : SmsTask) :
    task.program.Safe sending id Wherever Wherever none := by
  cases task with
  | poll turn => exact turn_worker turn
  | beem now body => exact beem_sending now body
  | sync now deliveryReport =>
      exact syncDeliveryReports_sending now deliveryReport

/-- The tasks, none of which has run a statement yet. -/
def serving (world : World) (tasks : Id → SmsTask) :
    Config Id World RowKey Expectation Site AppError Unit :=
  Config.start world fun id => (tasks id).program

/-- Every message is in one job, and none has been sent that a job would
send. -/
structure Queued (world : World) : Prop where
  once : SentOnce world.smsRail
  apart : (world.jobs.flatMap fun job => job.payload.messages).Nodup
  waiting : ∀ job ∈ world.jobs, job.status = .pending →
    ∀ reference ∈ job.payload.messages, Closed world reference

/-- However workers, retries, recoveries and delivery reports interleave, fail
or stop: as long as rejections are true, and no message that the provider has
accepted is opened again while its job is unfinished, no message is submitted
again after it has been accepted. -/
theorem sent_once (world : World) (queued : Queued world) (tasks : Id → SmsTask)
    (schedule : List (Event Id AppError))
    (expected : (serving world tasks).AsExpected [.truthfulAnswer,
      .settledMessage] schedule) :
    SentOnce ((serving world tasks).run schedule).state.smsRail := by
  have sound : Config.Sound sending (fun _ => Wherever) (fun _ => Wherever)
      (serving world tasks) := by
    refine ⟨fun _ => none, ⟨queued.once, queued.apart, queued.waiting, ?_, ?_⟩,
      ?_⟩
    · exact fun _ _ member => by cases member
    · exact fun _ _ _ _ member => by cases member
    · intro id
      exact task_sending (tasks id)
  obtain ⟨held, kept, _⟩ := sound.run schedule expected
  exact Sending.once kept

/-- A message to one recipient, queued. -/
def queuedWorld : World where
  accounts :=
    Table.empty.insert { id := "a", accountId := "ACC-1"
                         sourceCode := "AAAAA" }
  smsMessages := Table.empty.insert
    { accountId := "a", reference := "AAAAA000000000000001"
      senderName := "ZOOINFO"
      message := "Habari", recipients :=
        [{ recipientId := 1, destAddr := "255712345678" }]
      recipientCount := 1, createdAt := 1, updatedAt := 1 }
  jobs := [{ payload := .smsSend "AAAAA000000000000001", runAt := 1 }]

theorem queued_queuedWorld : Queued queuedWorld := by
  constructor
  · exact List.Pairwise.nil
  · decide
  · intro job _ _ reference _ stands
    obtain ⟨submission, member, _⟩ := stands
    cases member

/-- A turn in which the provider accepts every message. -/
def acceptingTurn (at_time : Time) : SmsTask :=
  .poll
    { claimedAt := at_time, times := ⟨at_time, at_time, at_time⟩, failedAt := at_time
      backoffBase := 5000, credentialsReady := true
      provider := fun _ =>
        ⟨true, .answered 200 (some (.obj [("successful", .bool true),
          ("request_id", .num "7")])) ""⟩
      others := fun _ => .ok () }

/-- Beem's report about the recipient. -/
def reporting (at_time : Time) (status : String) : SmsTask :=
  .beem at_time
    (.obj [("request_id", .num "7"), ("dest_addr", .str "255712345678"),
    ("status", .str status)])

/-- A turn, a report, and a second turn. -/
def sentAndReported (status : String) : Fin 3 → SmsTask
  | 0 => acceptingTurn 2
  | 1 => reporting 3 status
  | 2 => acceptingTurn 20000

/-- The message is sent and marked, but its job is not completed and runs again,
after the report has come in. -/
def redelivered : List (Event (Fin 3) AppError) :=
  List.replicate 7 (.run 0) ++ .fail 0 .invalidValue :: .run 0 ::
    (List.replicate 3 (.run 1) ++ List.replicate 10 (.run 2))

theorem sent_once_delivered :
    SentOnce ((serving queuedWorld (sentAndReported "DELIVERED")).run redelivered).state.smsRail :=
  sent_once queuedWorld queued_queuedWorld _ redelivered (by decide +kernel)

/-- A report that the delivery failed opens the message, and the job that runs
again sends it a second time. -/
theorem sent_twice :
    ¬ SentOnce
      ((serving queuedWorld (sentAndReported "FAILED")).run redelivered).state.smsRail := by
  decide +kernel

end CloudStudio.Sms
