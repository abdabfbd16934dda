import Mathlib.Data.List.Sort
import CloudStudio.Payments.Checksum
import CloudStudio.Payments.Provider
import CloudStudio.Payouts.Queue

/-!
# Sending messages

`SmsService`, the Beem client's answers and the Beem delivery webhook.  A
message is claimed by its job, sent, and marked sent; delivery reports come in
by webhook and by a timed query.  What the provider does on a call is an
argument; `World.smsRail` keeps its history.
-/

namespace CloudStudio.Sms

open CloudStudio.Data CloudStudio.Transactions CloudStudio.Platform
open CloudStudio.Payments
open CloudStudio.Payouts

structure SmsSendRequest where
  source_addr : String
  message : String
  encoding : ℕ
  recipients : List (ℕ × String)
  schedule_time : Option String

/-- `toISOString().slice(0, 16).replace('T', ' ')`. -/
def scheduleTime (iso : String) : String :=
  String.ofList ((iso.toList.take 16).map fun char =>
    if char = 'T' then ' ' else char)

def sendRequest (sms : SmsMessage) : SmsSendRequest where
  source_addr := sms.senderName
  message := sms.message
  encoding := sms.encoding
  recipients := sms.recipients.map fun recipient =>
    (recipient.recipientId, recipient.destAddr)
  schedule_time := sms.scheduledAt.map scheduleTime

/-- `String(body[name] ?? ... ?? '')`, over the names in turn. -/
def memberText (body : Json) (names : List String) : String :=
  ((names.findSome? fun name => body.present? name).map Json.toText).getD ""

/-- What an HTTP exchange with Beem comes to. -/
def beemResult : Exchange Json → ProviderResult Json
  | .answered httpStatus data _ =>
      if 200 ≤ httpStatus ∧ httpStatus < 300 then { ok := true, data }
      else
        { ok := false
          error := ((data.bind (Json.present? "message")).map Json.toText).getD
            s!"Beem returned {httpStatus}" }
  | .lost message =>
      { ok := false, error := message.getD "Beem request failed" }

/-- `BeemClient.request`. -/
def beemRequest (credentialsReady : Bool) (exchange : Exchange Json) :
    ProviderResult Json :=
  if credentialsReady then beemResult exchange
  else
    { ok := false
      error :=
        "Beem credentials not configured (BEEM_API_KEY / BEEM_SECRET_KEY)" }

/-- `result.ok && result.data`. -/
def usableData (result : ProviderResult Json) : Option Json :=
  if result.ok then result.data.filter Json.truthy else none

/-- What the provider does on a send call: whether it accepts the message, and
what comes back. -/
structure SmsBehaviour where
  accepted : Bool
  exchange : Exchange Json

def SmsBehaviour.result (behaviour : SmsBehaviour) (credentialsReady : Bool) :
    ProviderResult Json :=
  beemRequest credentialsReady behaviour.exchange

/-- A send call.  Without credentials nothing is sent. -/
def sendOnRail (credentialsReady : Bool) (behaviour : SmsBehaviour)
    (reference : Reference) :
    Statement (ProviderResult Json) where
  label := "provider.send"
  answer := fun _ => .ok (behaviour.result credentialsReady)
  effect := fun _ world =>
    { world with
      smsRail := world.smsRail ++
        [⟨reference, credentialsReady && behaviour.accepted,
          (usableData (behaviour.result credentialsReady)).isSome⟩] }
  expects := fun expectation _ =>
    match expectation with
    | .truthfulAnswer =>
        decide (usableData (behaviour.result credentialsReady) = none →
          (credentialsReady && behaviour.accepted) = false)
    | _ => true

/-- The provider accepted the submission, or said so. -/
def SmsSubmission.Stands (submission : SmsSubmission) : Prop :=
  submission.accepted = true ∨ submission.answered = true

instance (submission : SmsSubmission) :
    Decidable (SmsSubmission.Stands submission) :=
  inferInstanceAs (Decidable (_ ∨ _))

/-- A submission of the message stands. -/
def Sent (world : World) (reference : Reference) : Prop :=
  ∃ submission ∈ world.smsRail,
    submission.reference = reference ∧ SmsSubmission.Stands submission

instance (world : World) (reference : Reference) :
    Decidable (Sent world reference) :=
  inferInstanceAs (Decidable (∃ submission ∈ world.smsRail, _))

/-- The statuses from which a job may claim a message. -/
def claimable : List SmsStatus := [.queued, .failed]

/-- If a submission of the message stands, no job can claim it. -/
def Closed (world : World) (reference : Reference) : Prop :=
  Sent world reference →
    ∀ sms ∈ world.smsMessages.find? reference, sms.status ∉ claimable

instance (world : World) (reference : Reference) :
    Decidable (Closed world reference) :=
  inferInstanceAs (Decidable (_ → ∀ sms ∈ world.smsMessages.find? reference, _))

/-- A job that may still run has the message. -/
def Awaited (world : World) (reference : Reference) : Prop :=
  ∃ job ∈ world.jobs, job.status ∈ [JobStatus.pending, .processing] ∧
    reference ∈ job.payload.messages

instance (world : World) (reference : Reference) :
    Decidable (Awaited world reference) :=
  inferInstanceAs (Decidable (∃ job ∈ world.jobs, _))

/-- Nothing is lost when the message is opened again: it has not been sent, or
no job is left that would send it. -/
def MayReopen (world : World) (reference : Reference) : Prop :=
  Awaited world reference → ¬ Sent world reference

instance (world : World) (reference : Reference) :
    Decidable (MayReopen world reference) :=
  inferInstanceAs (Decidable (_ → _))

/-! ## The send job -/

/-- Ten minutes. -/
def staleAfter : ℕ := 10 * 60 * 1000

/-- The message was claimed long ago and has not moved since. -/
def Abandoned (now : Time) (sms : SmsMessage) : Prop :=
  sms.status = .processing ∧ sms.updatedAt + staleAfter < now

instance (now : Time) (sms : SmsMessage) : Decidable (Abandoned now sms) :=
  inferInstanceAs (Decidable (_ ∧ _))

def recovered (now : Time) (sms : SmsMessage) : SmsMessage :=
  if Abandoned now sms then
    { sms with status := .queued, updatedAt := now }
  else sms

theorem recovered_reference (now : Time) (sms : SmsMessage) :
    (recovered now sms).reference = sms.reference := by
  unfold recovered
  split
  · rfl
  · rfl

/-- Recover claims abandoned by a crashed process. -/
def recoverClaims (now : Time) : Statement Unit where
  label := "sms.recover"
  answer := fun _ => .ok ()
  effect := fun _ world =>
    { world with
      smsMessages :=
        world.smsMessages.modifyAll (recovered now) (recovered_reference now) }
  expects := fun expectation world =>
    match expectation with
    | .settledMessage => decide (∀ sms ∈ world.smsMessages.rows,
        Abandoned now sms → MayReopen world sms.reference)
    | _ => true

/-- The row can be claimed. -/
def Claimable (world : World) (smsId : Reference) : Prop :=
  ∃ sms ∈ world.smsMessages.find? smsId, sms.status ∈ claimable

instance (world : World) (smsId : Reference) :
    Decidable (Claimable world smsId) :=
  decidable_of_iff ((world.smsMessages.find? smsId).any fun sms =>
    sms.status ∈ claimable) <| by
    simp [Claimable, Option.any_eq_true]

/-- The message with another status. -/
def withStatus (now : Time) (status : SmsStatus) (sms : SmsMessage) :
    SmsMessage :=
  { sms with status, updatedAt := now }

/-- Idempotency claim: `updateMany` with the status in its condition. -/
def claimMessage (now : Time) (smsId : Reference) : Statement ℕ where
  label := "sms.claim"
  answer := fun world => .ok (if Claimable world smsId then 1 else 0)
  effect := fun met world =>
    if Claimable met smsId then
      { world with
        smsMessages :=
          world.smsMessages.modify smsId (withStatus now .processing)
          fun _ => rfl }
    else world
  locks := fun world =>
    if Claimable world smsId then [.smsMessage smsId] else []

/-- The recipients of a message after its send call. -/
def submittedRecipients (ok : Bool) (sms : SmsMessage) : List SmsRecipient :=
  sms.recipients.map fun recipient =>
    { recipient with status := if ok then "SUBMITTED" else "FAILED" }

/-- The segments of a message: 160 characters each, or 70 in unicode. -/
def segments (sms : SmsMessage) : ℕ :=
  let perSegment := if sms.encoding = 1 then 70 else 160
  max 1 (((utf16 sms.message).length + perSegment - 1) / perSegment)

/-- cost = rate TZS x segments x recipients, as the column keeps it. -/
def messageCost (rate : Decimal) (sms : SmsMessage) : Decimal :=
  Decimal.toFixed 4 (rate * segments sms * sms.recipientCount)

/-- `sms.update` after an accepted call; the fallback leaves the recipients
alone. -/
def markSent (site : Site) (now : Time) (providerRequestId : String)
    (cost : Decimal) (recipients : Option (List SmsRecipient))
    (smsId : Reference) : Statement SmsMessage :=
  smsMessages.update site smsId
    (fun row => { row with
      status := .sent
      providerRequestId := some providerRequestId
      sentAt := some now
      cost := some cost
      recipients := recipients.getD row.recipients
      updatedAt := now })
    fun _ => rfl

/-- `sms.update` after a call that was not accepted. -/
def markFailed (now : Time) (failureReason : Option String)
    (recipients : List SmsRecipient) (smsId : Reference) :
    Statement SmsMessage :=
  smsMessages.update "sms.failed" smsId
    (fun row => { row with
      status := .failed
      failureReason := failureReason.or row.failureReason
      recipients
      updatedAt := now })
    fun _ => rfl

/-- The clock at the start of the handler, at its claim and after the provider's
answer. -/
structure SendTimes where
  startedAt : Time
  claimedAt : Time
  answeredAt : Time

/-- After an accepted call nothing may make the queue send again, so a failing
write is caught, and so is its fallback.  A rate that is no finite number makes
both fail. -/
def recordSent (now : Time) (sms : SmsMessage) (providerRequestId : String)
    (rate : Option Decimal) (ok : Bool) : Db Unit :=
  match rate.map fun rate => messageCost rate sms with
  | none => pure ()
  | some cost =>
      Program.catching
        (Program.discard
          (Program.perform (markSent "sms.sent" now providerRequestId cost
          (submittedRecipients ok sms) sms.reference)))
        fun _ => Program.catching
          (Program.discard (Program.perform
            (markSent "sms.sentFallback" now providerRequestId cost none
              sms.reference)))
          fun _ => pure ()

/-- Queue handler: performs the provider call.  `rate` is `sms.rateTzs`, when it
is a finite number. -/
def processSendJob (times : SendTimes) (credentialsReady : Bool)
    (rate : Option Decimal) (provider : SmsSendRequest → SmsBehaviour)
    (smsId : Reference) : Db Unit := do
  Program.perform (recoverClaims times.startedAt)
  let sms ← Program.perform (smsMessages.findUnique "sms.find" smsId)
  match sms with
  | none => pure ()
  | some sms =>
      if sms.status = .sent ∨ sms.status = .delivered then pure ()
      else do
        let count ← Program.perform (claimMessage times.claimedAt sms.reference)
        if count = 0 then pure ()
        else do
          let result ← Program.perform
            (sendOnRail credentialsReady (provider (sendRequest sms))
              sms.reference)
          match usableData result with
          | some data => do
              recordSent times.answeredAt sms (memberText data ["request_id"])
                rate result.ok
              Program.discard (dispatch times.answeredAt
                ⟨.smsStatus, sms.accountId, sms.reference, .sms .sent⟩)
          | none => do
              let _ ← Program.perform (markFailed times.answeredAt result.error
                (submittedRecipients result.ok sms) sms.reference)
              .threw (.plain
                (result.error.getD "SMS provider rejected the message"))

/-- `String(r.status).toUpperCase() === 'DELIVERED'` for every recipient. -/
def allDelivered (recipients : List SmsRecipient) : Bool :=
  recipients.all fun recipient => Text.toUpperCase recipient.status =
    "DELIVERED"

/-- The status a message gets from its recipients' reports. -/
def reportedStatus (recipients : List SmsRecipient) (failed : Bool)
    (current : SmsStatus) : SmsStatus :=
  if allDelivered recipients then .delivered
  else if failed then .failed
  else current

/-- The message with the reported recipients; `sms` is the row as it was
read. -/
def withReport (now : Time) (sms : SmsMessage) (recipients : List SmsRecipient)
    (failed : Bool) (row : SmsMessage) : SmsMessage :=
  { row with
    recipients
    status := reportedStatus recipients failed sms.status
    deliveredAt := if allDelivered recipients then some now else sms.deliveredAt
    updatedAt := now }

def updateReport (site : Site) (now : Time) (sms : SmsMessage)
    (recipients : List SmsRecipient) (failed : Bool) : Statement SmsMessage :=
  { smsMessages.update site sms.reference (withReport now sms recipients failed)
      (fun _ => rfl) with
    expects := fun expectation world =>
      match expectation with
      | .settledMessage =>
          decide (reportedStatus recipients failed sms.status ∈ claimable →
          MayReopen world sms.reference)
      | .currentRecipients =>
          decide (∀ row ∈ world.smsMessages.find? sms.reference,
          row.recipients = sms.recipients)
      | _ => true }

/-- `findFirst` by the provider's request id. -/
def findByRequest (requestId : String) : Statement (Option SmsMessage) :=
  select "sms.byRequest" fun world =>
    world.smsMessages.rows.find? fun sms =>
      sms.providerRequestId = some requestId

/-- The Beem delivery webhook. -/
def beem (now : Time) (body : Json) : Db Unit := do
  let requestId := memberText body ["requestId", "request_id"]
  let dest := memberText body ["destAddr", "dest_addr"]
  if requestId = "" ∨ dest = "" then pure ()
  else do
    let status := Text.toUpperCase (memberText body ["status"])
    let sms ← Program.perform (findByRequest requestId)
    match sms with
    | none => pure ()
    | some sms =>
        let updated := sms.recipients.map fun recipient =>
          if recipient.destAddr =
            dest then { recipient with status } else recipient
        Program.discard (Program.perform
          (updateReport "sms.beem" now sms updated (status = "FAILED")))

/-- Five minutes. -/
def reportAfter : ℕ := 5 * 60 * 1000

/-- The messages sent more than five minutes ago, oldest first, 25 at a time. -/
def findSent (now : Time) : Statement (List SmsMessage) :=
  select "sms.sent" fun world =>
    ((world.smsMessages.rows.filter fun sms =>
        sms.status = .sent ∧ sms.providerRequestId.isSome ∧
          ∃ sentAt ∈ sms.sentAt, sentAt + reportAfter ≤ now).insertionSort
      fun first second => first.sentAt.getD 0 ≤ second.sentAt.getD 0).take 25

/-- One recipient's report: the recipients so far, and whether one has
failed. -/
def applyReport (report : String → ProviderResult Json)
    (state : List SmsRecipient × Bool) (recipient : SmsRecipient) :
    List SmsRecipient × Bool :=
  match usableData (report recipient.destAddr) with
  | none => state
  | some data =>
      let status :=
        Text.toUpperCase
        (((data.present? "status").map Json.toText).getD "UNKNOWN")
      let position := state.1.findIdx fun other => other.destAddr =
        recipient.destAddr
      (state.1.modify position fun other => { other with status },
        state.2 || status = "FAILED")

/-- The reports of at most 20 recipients that have not been delivered to. -/
def collectReports (report : String → ProviderResult Json) (sms : SmsMessage) :
    List SmsRecipient × Bool :=
  ((sms.recipients.filter fun recipient => recipient.status ≠ "DELIVERED").take
    20).foldl (applyReport report) (sms.recipients, false)

/-- Pull delivery reports for recently sent messages. -/
def syncDeliveryReports (now : Time)
    (deliveryReport : String → String → ProviderResult Json) :
    Db Unit := do
  let sent ← Program.perform (findSent now)
  Program.forEach sent fun sms => do
    let reports :=
      collectReports (deliveryReport (sms.providerRequestId.getD "")) sms
    let _ ← Program.perform
      (updateReport "sms.sync" now sms reports.1 reports.2)
    let nextStatus := reportedStatus reports.1 reports.2 sms.status
    Program.when (nextStatus ≠ sms.status) (Program.discard (dispatch now
      ⟨.smsStatus, sms.accountId, sms.reference, .sms nextStatus⟩))

/-- `job.update` after a handler that threw. -/
def retrySend (now : Time) (backoffBase position : ℕ) (job : Job) :
    Statement Unit :=
  { retryJob now backoffBase position job with
    expects := fun expectation world =>
      match expectation with
      | .settledMessage =>
          decide (Exhausted job ∨ ∀ row ∈ world.jobs[position]?,
          ∀ reference ∈ row.payload.messages, Closed world reference)
      | _ => true }

/-- What one turn of the poll meets.  The handlers of other queues touch no
message; here they return or throw. -/
structure SmsTurn where
  claimedAt : Time
  times : SendTimes
  failedAt : Time
  backoffBase : ℕ
  credentialsReady : Bool
  rate : Option Decimal := some 20
  provider : SmsSendRequest → SmsBehaviour
  others : JobPayload → Except AppError Unit

def SmsTurn.handler (turn : SmsTurn) : JobPayload → Db Unit
  | .smsSend smsId => processSendJob turn.times turn.credentialsReady turn.rate
      turn.provider smsId
  | payload =>
      match turn.others payload with
      | .ok () => pure ()
      | .error error => .threw error

/-- `process`: whatever throws puts the job back, also a failing completion. -/
def SmsTurn.process (turn : SmsTurn) (position : ℕ) (job : Job) : Db Unit :=
  Program.catching
    (do
      turn.handler job.payload
      Program.perform (completeJob position))
    fun _ =>
      Program.catching
        (Program.perform
          (retrySend turn.failedAt turn.backoffBase position job))
        fun _ => pure ()

/-- One turn of `poll`: a claim that fails is no job. -/
def SmsTurn.program (turn : SmsTurn) : Db Unit := do
  let claim ← Program.catching (Program.perform (claimJob turn.claimedAt))
    fun _ => pure none
  match claim with
  | none => pure ()
  | some (position, job) => turn.process position job

end CloudStudio.Sms
