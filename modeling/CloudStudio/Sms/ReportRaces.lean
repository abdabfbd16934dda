import CloudStudio.Payments.Threads
import CloudStudio.Sms.Reports

/-!
# Do delivery reports get lost?

All recipients of a message are in one column.  The webhook and the report sync
read it, change it in memory and write it back.  As long as every write finds
the recipients as they were read, each recipient keeps the status of a report of
its own.
-/

namespace CloudStudio.Sms

open Function
open CloudStudio.Data CloudStudio.Transactions CloudStudio.Platform
open CloudStudio.Payments
open CloudStudio.Wallets

/-- The status in what the provider says of a recipient. -/
def reportStatus (data : Json) : String :=
  Text.toUpperCase (((data.present? "status").map Json.toText).getD "UNKNOWN")

/-- The webhook or the sync has a report of this status for the number. -/
def Arrival.Reports (requestId dest status : String) : Arrival → Prop
  | .webhook _ body => memberText body ["requestId", "request_id"] = requestId ∧
      destOf body = dest ∧ statusOf body = status
  | .sync _ deliveryReport =>
      ∃ data ∈ usableData (deliveryReport requestId dest),
        status = reportStatus data

/-- The statuses that the sync collects are as they were, or reported. -/
theorem foldl_applyReport_sources (report : String → ProviderResult Json)
    (asked : List SmsRecipient) {recipients : List SmsRecipient} (failed : Bool)
    (distinct : (destinations recipients).Nodup) :
    ∀ recipient ∈ (asked.foldl (applyReport report) (recipients, failed)).1,
      recipient ∈ recipients ∨
        ∃ data ∈ usableData (report recipient.destAddr),
          recipient.status = reportStatus data := by
  induction asked generalizing recipients failed with
  | nil => exact fun _ member => .inl member
  | cons head rest ih =>
      rw [List.foldl_cons]
      cases answered : usableData (report head.destAddr) with
      | none =>
          have same : applyReport report (recipients, failed) head =
            (recipients, failed) := by
            rw [applyReport, answered]
          rw [same]
          exact ih failed distinct
      | some data =>
          have step : applyReport report (recipients, failed) head =
              (recorded head.destAddr (reportStatus data) recipients,
                failed || reportStatus data = "FAILED") := by
            rw [applyReport, answered, ← modify_findIdx distinct]
            rfl
          rw [step]
          intro recipient member
          rcases ih _
            (by rwa [destinations_recorded]) recipient
            member with old | reported
          · rcases mem_recorded.mp old with ⟨kept, _⟩ | ⟨before, _, same, rfl⟩
            · exact .inl kept
            · refine .inr ⟨data, ?_, rfl⟩
              change data ∈ usableData (report before.destAddr)
              rw [same, answered]
              rfl
          · exact .inr reported

/-! ## The rules -/

variable {Id : Type}

/-- A message of which every recipient that a finished webhook was about has a
status that was reported for it. -/
structure Tracked (calls : Id → Arrival) (requestId : String)
    (numbers : List String) (held : Id → Bool) (sms : SmsMessage) : Prop where
  addressed : Addressed sms
  numbers : destinations sms.recipients = numbers
  request : sms.providerRequestId = some requestId
  delivered : (∀ recipient ∈ sms.recipients, recipient.status = "DELIVERED") →
    sms.status = .delivered
  own : ∀ id, held id = true → ∀ now body, calls id = .webhook now body →
    ∀ recipient ∈ sms.recipients, recipient.destAddr = destOf body →
      ∃ other, (calls other).Reports requestId recipient.destAddr
        recipient.status

/-- The request ids of the messages. -/
def requestIds (world : World) : List (Reference × Option String) :=
  world.smsMessages.rows.map fun sms => (sms.reference, sms.providerRequestId)

/-- The message is tracked, and the requests are as at the start. -/
structure Reporting (calls : Id → Arrival) (start : World)
    (reference : Reference) (requestId : String) (numbers : List String)
    (world : World) (held : Id → Bool) :
    Prop where
  row : ∃ sms, world.smsMessages.find? reference = some sms ∧
    Tracked calls requestId numbers held sms
  requests : requestIds world = requestIds start

section Write

variable {calls : Id → Arrival} {requestId : String} {numbers : List String}
  {held : Id → Bool} {sms : SmsMessage}

/-- Over the recipients as they are, statuses are written that were reported. -/
theorem Tracked.write (tracked : Tracked calls requestId numbers held sms)
    {recipients : List SmsRecipient}
    (same : destinations recipients = destinations sms.recipients)
    (upper : UpperCase recipients)
    (reported : ∀ recipient ∈ recipients, recipient ∈ sms.recipients ∨
      ∃ other, (calls other).Reports requestId recipient.destAddr
        recipient.status) (now : Time) (read : SmsMessage) (failed : Bool) :
    Tracked calls requestId numbers held
      (withReport now read recipients failed sms) := by
  constructor
  · constructor
    · change (destinations recipients).Nodup
      rw [same]
      exact tracked.addressed.distinct
    · exact upper
  · exact same.trans tracked.numbers
  · exact tracked.request
  · intro all
    exact if_pos ((allDelivered_iff upper).mpr all)
  · intro id done now body isWebhook recipient member its
    rcases reported recipient member with old | source
    · exact tracked.own id done now body isWebhook recipient old its
    · exact source

/-- A webhook that has written its report is done. -/
theorem Tracked.done [DecidableEq Id]
    (tracked : Tracked calls requestId numbers held sms) {id : Id}
    (reported : ∀ now body, calls id = .webhook now body →
      ∀ recipient ∈ sms.recipients, recipient.destAddr = destOf body →
        ∃ other, (calls other).Reports requestId recipient.destAddr
          recipient.status) :
    Tracked calls requestId numbers (update held id true) sms := by
  constructor
  · exact tracked.addressed
  · exact tracked.numbers
  · exact tracked.request
  · exact tracked.delivered
  · intro other done
    by_cases same : other = id
    · subst same
      exact reported
    · rw [update_of_ne same] at done
      exact tracked.own other done

/-- A webhook has written its own report over the recipients as they are. -/
theorem Tracked.ownReport [DecidableEq Id] {id : Id} {time : Time} {body : Json}
    (isWebhook : calls id = .webhook time body)
    (request : memberText body ["requestId", "request_id"] = requestId)
    (tracked : Tracked calls requestId numbers held sms) (now : Time)
    (read : SmsMessage) (failed : Bool) :
    Tracked calls requestId numbers (update held id true)
      (withReport now read
        (recorded (destOf body) (statusOf body) sms.recipients)
        failed sms) := by
  have reports : (calls id).Reports requestId (destOf body)
    (statusOf body) := by
    rw [isWebhook]
    exact ⟨request, rfl, rfl⟩
  apply Tracked.done
  · apply tracked.write (destinations_recorded _ _ _)
    · exact tracked.addressed.upper.recorded (Text.toUpperCase_toUpperCase _)
    · intro recipient member
      rcases mem_recorded.mp member with ⟨old, _⟩ | ⟨old, _, same, rfl⟩
      · exact .inl old
      · refine .inr ⟨id, ?_⟩
        rw [same]
        exact reports
  · intro time' body' again recipient member its
    rw [isWebhook] at again
    cases again
    refine ⟨id, ?_⟩
    rcases mem_recorded.mp member with ⟨_, differs⟩ | ⟨old, _, same, rfl⟩
    · exact absurd its differs
    · rw [same]
      exact reports

end Write

section World

variable {calls : Id → Arrival} {start world : World} {reference : Reference}
  {requestId : String} {numbers : List String} {held : Id → Bool}

theorem withReport_reference (now : Time) (read : SmsMessage)
    (recipients : List SmsRecipient) (failed : Bool) (row : SmsMessage) :
    (withReport now read recipients failed row).reference = row.reference := rfl

/-- The state after a write of reports. -/
def reportsWritten (now : Time) (read : SmsMessage)
    (recipients : List SmsRecipient) (failed : Bool) (world : World) : World :=
  { world with
    smsMessages := world.smsMessages.modify read.reference
      (withReport now read recipients failed)
      (withReport_reference now read recipients failed) }

theorem find?_reportsWritten (now : Time) (read : SmsMessage)
    (recipients : List SmsRecipient) (failed : Bool) (world : World)
    (wanted : Reference) :
    (reportsWritten now read recipients failed world).smsMessages.find? wanted =
      if wanted = read.reference then
        (world.smsMessages.find? wanted).map
          (withReport now read recipients failed)
      else world.smsMessages.find? wanted :=
  Table.find?_modify world.smsMessages read.reference wanted
    (withReport now read recipients failed)
      (withReport_reference now read recipients failed)

theorem requestIds_reportsWritten (now : Time) (read : SmsMessage)
    (recipients : List SmsRecipient) (failed : Bool) (world : World) :
    requestIds (reportsWritten now read recipients failed world) =
      requestIds world := by
  unfold requestIds reportsWritten Table.modify
  rw [List.map_map]
  apply List.map_congr_left
  intro row _
  simp only [comp_apply]
  split <;> rfl

/-- A write to another message. -/
theorem Reporting.beside
    (kept : Reporting calls start reference requestId numbers world held)
    {read : SmsMessage} (other : read.reference ≠ reference) (now : Time)
    (recipients : List SmsRecipient) (failed : Bool) :
    Reporting calls start reference requestId numbers
      (reportsWritten now read recipients failed world) held := by
  obtain ⟨sms, found, tracked⟩ := kept.row
  constructor
  · refine ⟨sms, ?_, tracked⟩
    rw [find?_reportsWritten, if_neg other.symm]
    exact found
  · exact (requestIds_reportsWritten ..).trans kept.requests

/-- A write to the message itself. -/
theorem Reporting.written {next : Id → Bool} 
    (requestsKept : requestIds world = requestIds start)
    {sms : SmsMessage} (found : world.smsMessages.find? reference = some sms)
    {read : SmsMessage} (same : read.reference = reference) (now : Time)
    (recipients : List SmsRecipient) (failed : Bool)
    (tracked : Tracked calls requestId numbers next
      (withReport now read recipients failed sms)) :
    Reporting calls start reference requestId numbers
      (reportsWritten now read recipients failed world) next := by
  constructor
  · refine ⟨_, ?_, tracked⟩
    rw [find?_reportsWritten, if_pos same.symm, found]
    rfl
  · exact (requestIds_reportsWritten ..).trans requestsKept

end World

section Safe

variable [DecidableEq Id] {calls : Id → Arrival} {start world : World}
  {reference : Reference} {requestId : String} {numbers : List String}
  {held : Id → Bool} {id : Id}

/-- A thread holds whether its webhook has written its report. -/
def trackedReports (calls : Id → Arrival) (start : World)
    (reference : Reference) (requestId : String) (numbers : List String) :
    Protocol Id World RowKey Expectation Bool where
  assumed := [.currentRecipients]
  invariant := fun world _ held =>
    Reporting calls start reference requestId numbers world held
  guarantee := fun _ _ _ => True
  abandon := fun done => done
  guarantee_refl := fun _ _ => trivial
  invariant_abandon := by
    intro world owner held id kept
    rwa [update_eq_self]

/-- A thread may fail anywhere. -/
def Fails (_ : AppError) (_ : Bool) : Prop := True

theorem dispatch_reporting (now : Time) (notice : Dispatched) (done : Bool) :
    (dispatch now notice).Safe
      (trackedReports calls start reference requestId numbers) id
      (fun _ left => left = done) Fails done := by
  have elsewhere {change : World → World}
      (same : ∀ world, (change world).smsMessages = world.smsMessages) :
      Ignores (trackedReports calls start reference requestId numbers)
        change := by
    intro world owner held kept
    refine ⟨⟨?_, ?_⟩, fun _ => trivial⟩
    · obtain ⟨sms, found, tracked⟩ := Reporting.row kept
      exact ⟨sms, by rw [same, found], tracked⟩
    · have requests := Reporting.requests kept
      unfold requestIds at requests ⊢
      rw [same, requests]
  apply dispatch_ignored
  · exact elsewhere fun _ => rfl
  · exact fun _ => elsewhere fun _ => rfl
  · exact fun _ _ => elsewhere fun _ => rfl
  · exact fun _ => trivial

/-- A write of reports over the recipients as they were read: what is safe after
it is safe before it. -/
theorem updateReport_reporting {Result : Type} {post : Result → Bool → Prop}
    {next : SmsMessage → Db Result} {failed : AppError → Db Result}
    (site : Site) (now : Time) (read : SmsMessage)
    (recipients : List SmsRecipient) (isFailed before after : Bool)
    (sources : read.reference = reference → ∀ held : Id → Bool, ∀ sms,
      sms.recipients = read.recipients → held id = before →
      Tracked calls requestId numbers held sms →
        Tracked calls requestId numbers (update held id after)
          (withReport now read recipients isFailed sms))
    (others : read.reference ≠ reference → after = before)
    (safeNext : ∀ sms, (next sms).Safe
      (trackedReports calls start reference requestId numbers) id
        post Fails after) (safeFailed : ∀ error, (failed error).Safe
      (trackedReports calls start reference requestId numbers) id
        post Fails before) :
    (Program.query (updateReport site now read recipients isFailed)
      next failed).Safe
      (trackedReports calls start reference requestId numbers) id post
        Fails before := by
  refine ⟨?_, safeFailed⟩
  intro world owner held kept own _ expected answer answered
  refine ⟨after, ?_, trivial, safeNext answer⟩
  obtain ⟨sms, found, tracked⟩ := Reporting.row kept
  by_cases same : read.reference = reference
  · have current : sms.recipients = read.recipients := by
      have claimed := expected .currentRecipients List.mem_cons_self
      have its := of_decide_eq_true claimed
      rw [same, found] at its
      exact its sms rfl
    exact Reporting.written (Reporting.requests kept) found same now
      recipients isFailed (sources same held sms current own tracked)
  · rw [others same, ← own, update_eq_self]
    exact Reporting.beside kept same now recipients isFailed

/-- The webhook is about the message. -/
def About (start : World) (reference : Reference) (body : Json) : Prop :=
  ∃ sms, meant start body = some sms ∧ sms.reference = reference

/-- A webhook that is about the message has written its report. -/
def Done (calls : Id → Arrival) (start : World) (reference : Reference)
    (id : Id) (done : Bool) : Prop :=
  ∀ now body, calls id = .webhook now body → About start reference body →
    done = true

/-- The message a webhook finds is the one it found at the start. -/
theorem meant_reference (same : requestIds world = requestIds start)
    (body : Json) :
    (meant world body).map SmsMessage.reference =
      (meant start body).map SmsMessage.reference := by
  have first (world : World) (requestId : String) :
      (world.smsMessages.rows.find? fun sms =>
        sms.providerRequestId = some requestId).map SmsMessage.reference =
      ((requestIds world).find? fun entry => entry.2 = some requestId).map
        Prod.fst := by
    unfold requestIds
    rw [List.find?_map, Option.map_map]
    rfl
  simp only [meant]
  split
  · rfl
  · rw [first, first, same]

theorem beem_reporting (now : Time) (body : Json)
    (isWebhook : calls id = .webhook now body) :
    (beem now body).Safe
      (trackedReports calls start reference requestId numbers) id
      (fun _ left => Done calls start reference id left) Fails false := by
  have done_of {left : Bool} (written : About start reference body →
    left = true) : Done calls start reference id left := by
    intro now' body' its about
    rw [isWebhook] at its
    cases its
    exact written about
  rw [beem_eq]
  split
  · rename_i empty
    apply done_of
    intro about
    obtain ⟨sms, isFor, _⟩ := about
    rw [meant, if_pos empty] at isFor
    cases isFor
  rename_i named
  rw [Program.bind_perform]
  refine Program.Safe.read (fun _ _ => rfl) ?_ fun _ => trivial
  intro world owner held kept _ found answered
  have isMeant : meant world body = found := by
    rw [meant, if_neg named]
    exact Except.ok.inj answered
  have sameReference := meant_reference (Reporting.requests kept) body
  rw [isMeant] at sameReference
  cases found with
  | none =>
      apply done_of
      intro about
      obtain ⟨sms, isFor, _⟩ := about
      rw [isFor] at sameReference
      cases sameReference
  | some sms =>
      apply discard_safe
      apply updateReport_reporting _ _ _ _ _ _
        (decide (sms.reference = reference))
      · intro same next row current _ tracked
        obtain ⟨target, found, its⟩ := Reporting.row kept
        have itself : target = sms := by
          have row : world.smsMessages.find? sms.reference = some sms := by
            rw [meant, if_neg named] at isMeant
            exact Table.find?_of_mem (List.mem_of_find?_eq_some isMeant)
          rw [same, found] at row
          exact Option.some.inj row
        have request : memberText body ["requestId", "request_id"] =
          requestId := by
          rw [meant, if_neg named] at isMeant
          have matched := List.find?_some isMeant
          rw [decide_eq_true_iff] at matched
          have tracks := its.request
          rw [itself, matched] at tracks
          exact Option.some.inj tracks
        rw [decide_eq_true same, ← current]
        exact tracked.ownReport isWebhook request _ _ _
      · exact fun differs => decide_eq_false differs
      · intro _
        apply done_of
        intro about
        obtain ⟨first, isFor, its⟩ := about
        rw [isFor] at sameReference
        rw [decide_eq_true_iff, ← its]
        exact Option.some.inj sameReference
      · exact fun _ => trivial

/-- One of the messages that the sync has read; for this one the request is the
one all reports are of. -/
theorem syncMessage_reporting (now : Time)
    (deliveryReport : String → String → ProviderResult Json)
    (isSync : calls id = .sync now deliveryReport) (read : SmsMessage)
    (request : read.reference = reference → read.providerRequestId =
      some requestId) :
    (syncMessage now deliveryReport read).Safe
      (trackedReports calls start reference requestId numbers) id
      (fun _ left => left = false) Fails false := by
  unfold syncMessage
  simp only [Program.bind_perform]
  apply updateReport_reporting _ _ _ _ _ _ false
  · intro same held sms current own tracked
    have unchanged : update held id false = held := by
      rw [← own, update_eq_self]
    have addressed : Addressed read := by
      constructor
      · rw [← current]
        exact tracked.addressed.distinct
      · rw [← current]
        exact tracked.addressed.upper
    obtain ⟨sameNumbers, upper, _⟩ :=
      collectReports_spec (deliveryReport (read.providerRequestId.getD ""))
        addressed
    rw [← current] at sameNumbers
    rw [unchanged]
    apply tracked.write sameNumbers upper
    intro recipient member
    rw [current]
    refine (foldl_applyReport_sources _ _ false addressed.distinct recipient
      member).imp_right ?_
    intro source
    refine ⟨id, ?_⟩
    rw [isSync]
    obtain ⟨data, usable, its⟩ := source
    rw [request same] at usable
    exact ⟨data, usable, its⟩
  · exact fun _ => rfl
  · intro _
    apply when_safe
    · exact fun _ => discard_safe (dispatch_reporting now _ false)
    · exact fun _ => rfl
  · exact fun _ => trivial

theorem syncMessages_reporting (now : Time)
    (deliveryReport : String → String → ProviderResult Json)
    (isSync : calls id = .sync now deliveryReport) (sent : List SmsMessage)
    (request : ∀ read ∈ sent, read.reference = reference →
      read.providerRequestId = some requestId) :
    (Program.forEach sent (syncMessage now deliveryReport)).Safe
      (trackedReports calls start reference requestId numbers) id
      (fun _ left => left = false) Fails false := by
  induction sent with
  | nil => exact rfl
  | cons read rest ih =>
      rw [List.forall_mem_cons] at request
      apply Program.Safe.andThen
        (syncMessage_reporting now deliveryReport isSync read request.1)
      intro _ left same
      subst same
      exact ih request.2

theorem sync_reporting (now : Time)
    (deliveryReport : String → String → ProviderResult Json)
    (isSync : calls id = .sync now deliveryReport) :
    (syncDeliveryReports now deliveryReport).Safe
      (trackedReports calls start reference requestId numbers) id
      (fun _ left => Done calls start reference id left) Fails false := by
  have idle {left : Bool} : Done calls start reference id left := by
    intro now' body isWebhook
    rw [isSync] at isWebhook
    cases isWebhook
  change (Program.perform (findSent now) >>= fun sent =>
    Program.forEach sent (syncMessage now deliveryReport)).Safe _
      id _ Fails false
  rw [Program.bind_perform]
  refine Program.Safe.read (fun _ _ => rfl) ?_ fun _ => trivial
  intro world owner held kept _ sent answered
  obtain ⟨_, rows⟩ := findSent_spec now answered
  apply (syncMessages_reporting now deliveryReport isSync sent _).mono
  · exact fun _ _ _ => idle
  · exact fun _ _ _ => trivial
  · intro read member same
    obtain ⟨target, found, tracked⟩ := Reporting.row kept
    have row := (rows read member).1
    rw [same, found] at row
    rw [← Option.some.inj row]
    exact tracked.request

theorem arrival_reporting (call : Arrival) (isIts : calls id = call) :
    call.program.Safe (trackedReports calls start reference requestId numbers)
      id (fun _ left => Done calls start reference id left) Fails false := by
  cases call with
  | webhook now body => exact beem_reporting now body isIts
  | sync now deliveryReport => exact sync_reporting now deliveryReport isIts

end Safe

/-- The webhooks and the syncs, each of which has yet to run its first
statement. -/
def arriving {Id : Type} (world : World) (calls : Id → Arrival) :
    Config Id World RowKey Expectation Site AppError Unit :=
  Config.start world fun id => (calls id).program

/-- However webhooks and syncs interleave, as long as every write finds the
recipients of its message as they were read: a recipient of which a webhook has
reported and returned has the status of a report of its own, and a message whose
recipients have all been delivered to is delivered. -/
theorem reports_kept {Id : Type} [DecidableEq Id] (start : World)
    (reference : Reference) (requestId : String) (sms : SmsMessage)
    (found : start.smsMessages.find? reference = some sms)
    (accepted : Accepted sms) (request : sms.providerRequestId = some requestId)
    (calls : Id → Arrival) (schedule : List (Event Id AppError))
    (expected : (arriving start calls).AsExpected [.currentRecipients]
      schedule) :
    ∃ final, ((arriving start calls).run schedule).state.smsMessages.find?
      reference =
        some final ∧
      destinations final.recipients = destinations sms.recipients ∧
      (∀ id now body, calls id = .webhook now body →
        About start reference body →
        (((arriving start calls).run schedule).thread id).outcome? =
          some (.returned ()) →
        ∀ recipient ∈ final.recipients, recipient.destAddr = destOf body →
          ∃ other, (calls other).Reports requestId recipient.destAddr
            recipient.status) ∧
      ((∀ recipient ∈ final.recipients, recipient.status = "DELIVERED") →
        final.status = .delivered) := by
  have tracked : Tracked calls requestId (destinations sms.recipients)
    (fun _ => false) sms := by
    constructor
    · exact accepted.addressed
    · rfl
    · exact request
    · exact accepted.agreeing.delivered.mpr
    · intro _ impossible
      cases impossible
  have sound : Config.Sound
      (trackedReports calls start reference requestId
        (destinations sms.recipients))
      (fun id _ left => Done calls start reference id left) (fun _ => Fails)
      (arriving start calls) := by
    refine ⟨fun _ => false, ⟨⟨sms, found, tracked⟩, rfl⟩, ?_⟩
    exact fun id => arrival_reporting (calls id) rfl
  obtain ⟨held, kept, ended⟩ := (sound.run schedule expected).ended
  obtain ⟨final, at_end, its⟩ := Reporting.row kept
  refine ⟨final, at_end, its.numbers, ?_, its.delivered⟩
  intro id now body isWebhook about returned
  have done := (ended id).1 () returned now body isWebhook about
  exact its.own id done now body isWebhook

/-- Both recipients are delivered to. -/
def bothDelivered : Bool → Arrival
  | true => .webhook 2 (reportBody "255712345678" "DELIVERED")
  | false => .webhook 3 (reportBody "255712345679" "DELIVERED")

/-- One webhook after the other. -/
def inTurn : List (Event Bool AppError) :=
  [.run true, .run true, .run false, .run false]

theorem reports_kept_inTurn :
    ∃ final,
      ((arriving sentWorld bothDelivered).run inTurn).state.smsMessages.find?
        "AAAAA000000000000001" = some final ∧
      ∀ recipient ∈ final.recipients, recipient.destAddr = "255712345678" →
        ∃ other, (bothDelivered other).Reports "R1" "255712345678"
          recipient.status := by
  obtain ⟨final, found, _, own, _⟩ :=
    reports_kept sentWorld "AAAAA000000000000001" "R1"
    twoRecipients
      (by decide +kernel) accepted_twoRecipients rfl bothDelivered inTurn
    (by decide +kernel)
  have about : About sentWorld "AAAAA000000000000001"
      (reportBody "255712345678" "DELIVERED") :=
    ⟨twoRecipients, by decide +kernel, rfl⟩
  have dest : destOf (reportBody "255712345678" "DELIVERED") =
    "255712345678" := by
    decide +kernel
  refine ⟨final, found, ?_⟩
  intro recipient member its
  rw [← its]
  exact own true 2 _ rfl about
    (by decide +kernel) recipient member (its.trans dest.symm)

/-- Both webhooks read before either writes. -/
def overlapping : List (Event Bool AppError) :=
  [.run true, .run false, .run true, .run false]

/-- Both webhooks have returned, and the report of the first one is lost: its
recipient has a status that nobody has reported, and the message is not
delivered. -/
theorem overlapping_lost :
    (∀ id, (((arriving sentWorld bothDelivered).run overlapping).thread
      id).outcome? = some (.returned ())) ∧
    (∃ final,
      ((arriving sentWorld bothDelivered).run
      overlapping).state.smsMessages.find?
        "AAAAA000000000000001" = some final ∧
      final.status = .sent ∧
        ⟨1, "255712345678", "SUBMITTED"⟩ ∈ final.recipients) ∧
    ∀ other, ¬ (bothDelivered other).Reports "R1" "255712345678"
      "SUBMITTED" := by
  refine ⟨by decide +kernel, ?_, ?_⟩
  · have lost : (((arriving sentWorld bothDelivered).run
        overlapping).state.smsMessages.find? "AAAAA000000000000001").any
          fun final =>
          final.status = .sent ∧
            ⟨1, "255712345678", "SUBMITTED"⟩ ∈ final.recipients := by
      decide +kernel
    obtain ⟨final, found, its⟩ := (Option.any_eq_true _ _).mp lost
    exact ⟨final, found, of_decide_eq_true its⟩
  · intro other reports
    have status : ∀ other, ∀ body ∈ (match bothDelivered other with
        | .webhook _ body => some body
        | .sync _ _ => none), statusOf body ≠ "SUBMITTED" := by
      decide +kernel
    cases other with
    | true => exact status true _ rfl reports.2.2
    | false => exact status false _ rfl reports.2.2

end CloudStudio.Sms
