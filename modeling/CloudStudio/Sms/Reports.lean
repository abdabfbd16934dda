import CloudStudio.Payments.Runs
import CloudStudio.Payouts.PhoneNumbers
import CloudStudio.Sms.Sending

/-!
# What the delivery reports say of a message

Each recipient of a message has a status of its own, and the message has one.
The webhook and the report sync write both.  They take `DELIVERED` from all
recipients, but `FAILED` from the last report only.
-/

namespace CloudStudio.Sms

open CloudStudio.Data CloudStudio.Transactions CloudStudio.Platform
open CloudStudio.Payments
open CloudStudio.Payouts
  (Subscriber dialledPattern isMobileNumber normalizePhoneNumber
  isMobileNumber_iff mobilePattern_iff filterMap_normalizePhoneNumber)

/-- The recipients with a status for a destination. -/
def recorded (dest status : String) (recipients : List SmsRecipient) :
    List SmsRecipient :=
  recipients.map fun recipient =>
    if recipient.destAddr = dest then { recipient with status } else recipient

def destinations (recipients : List SmsRecipient) : List String :=
  recipients.map SmsRecipient.destAddr

/-- All statuses are in upper case, as every writer leaves them. -/
def UpperCase (recipients : List SmsRecipient) : Prop :=
  ∀ recipient ∈ recipients, Text.toUpperCase recipient.status = recipient.status

section Recorded

variable {dest status : String} {recipients : List SmsRecipient}

@[simp] theorem destinations_recorded (dest status : String)
    (recipients : List SmsRecipient) :
    destinations (recorded dest status recipients) =
      destinations recipients := by
  unfold destinations recorded
  rw [List.map_map]
  apply List.map_congr_left
  intro recipient _
  simp only [Function.comp_apply]
  split <;> rfl

theorem mem_recorded {recipient : SmsRecipient} :
    recipient ∈ recorded dest status recipients ↔
      (recipient ∈ recipients ∧ recipient.destAddr ≠ dest) ∨
        ∃ old ∈ recipients, old.destAddr = dest ∧
          recipient = { old with status } := by
  unfold recorded
  rw [List.mem_map]
  constructor
  · intro found
    obtain ⟨old, member, rfl⟩ := found
    split
    · rename_i same
      exact .inr ⟨old, member, same, rfl⟩
    · rename_i other
      exact .inl ⟨member, other⟩
  · intro found
    rcases found with ⟨member, other⟩ | ⟨old, member, same, rfl⟩
    · exact ⟨recipient, member, if_neg other⟩
    · exact ⟨old, member, if_pos same⟩

theorem UpperCase.recorded (upper : UpperCase recipients)
    (status_upper : Text.toUpperCase status = status) :
    UpperCase (recorded dest status recipients) := by
  intro recipient member
  rcases mem_recorded.mp member with ⟨old, _⟩ | ⟨old, _, _, rfl⟩
  · exact upper recipient old
  · exact status_upper

/-- A report of a number the message was not sent to changes nothing. -/
theorem recorded_unknown (unknown : dest ∉ destinations recipients) :
    recorded dest status recipients = recipients := by
  unfold recorded
  apply (List.map_congr_left _).trans (List.map_id' recipients)
  intro recipient member
  apply if_neg
  intro same
  exact unknown (same ▸ List.mem_map_of_mem member)

theorem allDelivered_iff (upper : UpperCase recipients) :
    allDelivered recipients = true ↔
      ∀ recipient ∈ recipients, recipient.status = "DELIVERED" := by
  simp only [allDelivered, List.all_eq_true, decide_eq_true_iff]
  constructor
  · intro all recipient member
    rw [← upper recipient member]
    exact all recipient member
  · intro all recipient member
    rw [upper recipient member]
    exact all recipient member

/-- Each recipient has one number, so the sync changes what the webhook
would. -/
theorem modify_findIdx (distinct : (destinations recipients).Nodup) :
    recipients.modify (recipients.findIdx fun other => other.destAddr = dest)
      (fun other => { other with status }) =
        recorded dest status recipients := by
  induction recipients with
  | nil => rfl
  | cons head rest ih =>
      unfold destinations at distinct
      rw [List.map_cons, List.nodup_cons] at distinct
      rw [List.findIdx_cons]
      by_cases same : head.destAddr = dest
      · have others : recorded dest status rest = rest :=
          recorded_unknown (same ▸ distinct.1)
        rw [decide_eq_true same, cond_true, List.modify_zero_cons,
          recorded, List.map_cons, if_pos same, ← recorded, others]
      · simp only [same, decide_false, cond_false, List.modify_succ_cons]
        rw [ih distinct.2, recorded, recorded, List.map_cons, if_neg same]

end Recorded

/-- What the sync collects for some of the recipients: the numbers and the upper
case stay, and when it has seen a failure, a recipient has failed. -/
theorem foldl_applyReport (report : String → ProviderResult Json)
    (asked : List SmsRecipient) (apart : (destinations asked).Nodup)
    {recipients : List SmsRecipient} {failed : Bool}
    (distinct : (destinations recipients).Nodup) (upper : UpperCase recipients)
    (known : ∀ recipient ∈ asked, recipient.destAddr ∈ destinations recipients)
    (seen : failed = true → ∃ recipient ∈ recipients,
      recipient.status = "FAILED" ∧ recipient.destAddr ∉ destinations asked) :
    let collected := asked.foldl (applyReport report) (recipients, failed)
    destinations collected.1 = destinations recipients ∧ UpperCase collected.1 ∧
      (collected.2 = true → ∃ recipient ∈ collected.1, recipient.status =
        "FAILED") := by
  induction asked generalizing recipients failed with
  | nil =>
      refine ⟨rfl, upper, ?_⟩
      intro isFailed
      obtain ⟨recipient, member, its, _⟩ := seen isFailed
      exact ⟨recipient, member, its⟩
  | cons head rest ih =>
      unfold destinations at apart
      rw [List.map_cons, List.nodup_cons] at apart
      rw [List.forall_mem_cons] at known
      rw [List.foldl_cons]
      cases answered : usableData (report head.destAddr) with
      | none =>
          have same : applyReport report (recipients, failed) head =
            (recipients, failed) := by
            rw [applyReport, answered]
          rw [same]
          apply ih apart.2 distinct upper known.2
          intro isFailed
          obtain ⟨recipient, member, its, absent⟩ := seen isFailed
          exact ⟨recipient, member, its, fun later =>
            absent (List.mem_cons_of_mem _ later)⟩
      | some data =>
          let status := Text.toUpperCase
            (((data.present? "status").map Json.toText).getD "UNKNOWN")
          have step : applyReport report (recipients, failed) head =
              (recorded head.destAddr status recipients,
                failed || status = "FAILED") := by
            rw [applyReport, answered, ← modify_findIdx distinct]
          rw [step, ← destinations_recorded head.destAddr status recipients]
          apply ih apart.2
          · rwa [destinations_recorded]
          · exact upper.recorded (Text.toUpperCase_toUpperCase _)
          · rw [destinations_recorded]
            exact known.2
          · intro isFailed
            rw [Bool.or_eq_true, decide_eq_true_iff] at isFailed
            rcases isFailed with before | now
            · obtain ⟨recipient, member, its, absent⟩ := seen before
              refine ⟨recipient, ?_, its, fun later =>
                absent (List.mem_cons_of_mem _ later)⟩
              refine mem_recorded.mpr (.inl ⟨member, fun same => absent ?_⟩)
              exact same ▸ List.mem_cons_self
            · obtain ⟨old, member, same⟩ := List.mem_map.mp known.1
              refine ⟨{ old with status },
                mem_recorded.mpr (.inr ⟨old, member, same, rfl⟩), now, ?_⟩
              change old.destAddr ∉ _
              rw [same]
              exact apart.1

/-! ## A message and its recipients -/

/-- The message has been delivered if and only if every recipient has, and it
has failed only if a recipient has. -/
structure Agreeing (sms : SmsMessage) : Prop where
  delivered : sms.status = .delivered ↔
    ∀ recipient ∈ sms.recipients, recipient.status = "DELIVERED"
  failed : sms.status = .failed → ∃ recipient ∈ sms.recipients,
    recipient.status = "FAILED"

/-- The recipients are as the message was made, with statuses from reports. -/
structure Addressed (sms : SmsMessage) : Prop where
  distinct : (destinations sms.recipients).Nodup
  upper : UpperCase sms.recipients

/-- A webhook for the message from which its status still follows.  A failure is
of a recipient.  A delivered message hears of no other status but failure.  A
failed message keeps a failed recipient, unless the report completes its
delivery. -/
structure Fits (sms : SmsMessage) (dest status : String) : Prop where
  known : status = "FAILED" → dest ∈ destinations sms.recipients ∨
    (∃ recipient ∈ sms.recipients, recipient.status = "FAILED") ∨
    ∀ recipient ∈ sms.recipients, recipient.status = "DELIVERED"
  final : sms.status = .delivered → dest ∈ destinations sms.recipients →
    status = "DELIVERED" ∨ status = "FAILED"
  remains : sms.status = .failed → status ≠ "FAILED" →
    (∃ recipient ∈ sms.recipients, recipient.status = "FAILED" ∧
      recipient.destAddr ≠ dest) ∨
    (status = "DELIVERED" ∧ ∀ recipient ∈ sms.recipients,
      recipient.destAddr = dest ∨ recipient.status = "DELIVERED")

section Webhook

variable {now : Time} {sms : SmsMessage} {dest status : String}

/-- The message after the webhook. -/
def afterWebhook (now : Time) (sms : SmsMessage) (dest status : String) :
    SmsMessage :=
  withReport now sms (recorded dest status sms.recipients) (status = "FAILED")
    sms

theorem Addressed.afterWebhook (addressed : Addressed sms)
    (status_upper : Text.toUpperCase status = status) :
    Addressed (afterWebhook now sms dest status) := by
  constructor
  · change (destinations (recorded dest status sms.recipients)).Nodup
    rw [destinations_recorded]
    exact addressed.distinct
  · exact addressed.upper.recorded status_upper

/-- All are delivered after the report if and only if this is the last one
missing. -/
theorem recorded_delivered_iff {recipients : List SmsRecipient} :
    (∀ recipient ∈ recorded dest status recipients,
      recipient.status = "DELIVERED") ↔
      (∀ recipient ∈ recipients, recipient.destAddr ≠ dest →
        recipient.status = "DELIVERED") ∧
      (dest ∈ destinations recipients → status = "DELIVERED") := by
  constructor
  · intro all
    constructor
    · intro recipient member other
      exact all recipient (mem_recorded.mpr (.inl ⟨member, other⟩))
    · intro known
      obtain ⟨old, member, same⟩ := List.mem_map.mp known
      exact all { old with status }
        (mem_recorded.mpr (.inr ⟨old, member, same, rfl⟩))
  · intro all recipient member
    rcases mem_recorded.mp member with ⟨old, other⟩ | ⟨old, found, same, rfl⟩
    · exact all.1 recipient old other
    · exact all.2 (same ▸ List.mem_map_of_mem found)

/-- Some recipient has failed after a report that is no failure if and only if
another one had. -/
theorem recorded_failed_iff {recipients : List SmsRecipient}
    (other : status ≠ "FAILED") :
    (∃ recipient ∈ recorded dest status recipients,
      recipient.status = "FAILED") ↔
      ∃ recipient ∈ recipients, recipient.status = "FAILED" ∧
        recipient.destAddr ≠ dest := by
  constructor
  · intro found
    obtain ⟨recipient, member, its⟩ := found
    rcases mem_recorded.mp member with ⟨old, differs⟩ | ⟨old, _, _, rfl⟩
    · exact ⟨recipient, old, its, differs⟩
    · exact absurd its other
  · intro found
    obtain ⟨recipient, member, its, differs⟩ := found
    exact ⟨recipient, mem_recorded.mpr (.inl ⟨member, differs⟩), its⟩

/-- Some recipient has failed after a failure if and only if it is of a
recipient, or one had failed. -/
theorem recorded_failure_iff {recipients : List SmsRecipient} :
    (∃ recipient ∈ recorded dest "FAILED" recipients,
      recipient.status = "FAILED") ↔ dest ∈ destinations recipients ∨
        ∃ recipient ∈ recipients, recipient.status = "FAILED" := by
  constructor
  · intro found
    obtain ⟨recipient, member, its⟩ := found
    rcases mem_recorded.mp member with ⟨old, _⟩ | ⟨old, found, same, _⟩
    · exact .inr ⟨recipient, old, its⟩
    · exact .inl (same ▸ List.mem_map_of_mem found)
  · intro found
    by_cases known : dest ∈ destinations recipients
    · obtain ⟨old, member, same⟩ := List.mem_map.mp known
      exact ⟨_, mem_recorded.mpr (.inr ⟨old, member, same, rfl⟩), rfl⟩
    · obtain ⟨recipient, member, its⟩ := found.resolve_left known
      refine ⟨recipient, mem_recorded.mpr (.inl ⟨member, ?_⟩), its⟩
      intro same
      exact known (same ▸ List.mem_map_of_mem member)

/-- The report that makes all recipients delivered leaves nothing to ask for. -/
theorem Fits.of_delivered (agreeing : Agreeing sms)
    (all : ∀ recipient ∈ recorded dest status sms.recipients,
      recipient.status = "DELIVERED") : Fits sms dest status := by
  obtain ⟨others, its⟩ := recorded_delivered_iff.mp all
  constructor
  · intro isFailure
    by_cases known : dest ∈ destinations sms.recipients
    · exact .inl known
    · right
      right
      intro recipient member
      apply others recipient member
      intro same
      exact known (same ▸ List.mem_map_of_mem member)
  · intro _ known
    exact .inl (its known)
  · intro isFailed _
    by_cases known : dest ∈ destinations sms.recipients
    · refine .inr ⟨its known, ?_⟩
      intro recipient member
      rw [or_iff_not_imp_left]
      exact others recipient member
    · obtain ⟨recipient, member, failed⟩ := agreeing.failed isFailed
      refine .inl ⟨recipient, member, failed, ?_⟩
      intro same
      exact known (same ▸ List.mem_map_of_mem member)

/-- The status the webhook writes: of all recipients, of this report, or as it
was. -/
theorem afterWebhook_status (now : Time) (addressed : Addressed sms)
    (status_upper : Text.toUpperCase status = status) :
    ((∀ recipient ∈ recorded dest status sms.recipients,
      recipient.status = "DELIVERED") ∧
      (afterWebhook now sms dest status).status = .delivered) ∨
    ((¬ ∀ recipient ∈ recorded dest status sms.recipients,
        recipient.status = "DELIVERED") ∧
      (afterWebhook now sms dest status).status =
        if status = "FAILED" then .failed else sms.status) := by
  have upper : UpperCase (recorded dest status sms.recipients) :=
    addressed.upper.recorded status_upper
  have written : (afterWebhook now sms dest status).status =
      reportedStatus (recorded dest status sms.recipients) (status = "FAILED")
        sms.status := rfl
  rw [written, reportedStatus]
  by_cases all : allDelivered (recorded dest status sms.recipients) = true
  · exact .inl ⟨(allDelivered_iff upper).mp all, if_pos all⟩
  · right
    constructor
    · intro delivered
      exact all ((allDelivered_iff upper).mpr delivered)
    · rw [if_neg all]
      simp only [decide_eq_true_iff]

/-- After a webhook the statuses agree if and only if it fits. -/
theorem agreeing_afterWebhook_iff (now : Time) (addressed : Addressed sms)
    (agreeing : Agreeing sms)
    (status_upper : Text.toUpperCase status = status) :
    Agreeing (afterWebhook now sms dest status) ↔ Fits sms dest status := by
  rcases afterWebhook_status now addressed status_upper with
    ⟨all, written⟩ | ⟨missing, written⟩
  · constructor
    · exact fun _ => .of_delivered agreeing all
    · intro _
      constructor
      · exact iff_of_true written all
      · rw [written]
        intro impossible
        cases impossible
  by_cases isFailure : status = "FAILED"
  · subst isFailure
    rw [if_pos rfl] at written
    constructor
    · intro after
      refine ⟨fun _ => ?_, fun _ _ => .inr rfl, fun _ differs =>
        absurd rfl differs⟩
      rw [← or_assoc]
      exact .inl (recorded_failure_iff.mp (after.failed written))
    · intro fits
      constructor
      · refine iff_of_false ?_ missing
        rw [written]
        intro impossible
        cases impossible
      · intro _
        apply recorded_failure_iff.mpr
        rcases fits.known rfl with known | failed | delivered
        · exact .inl known
        · exact .inr failed
        · by_contra unknown
          apply missing
          apply recorded_delivered_iff.mpr
          exact ⟨fun recipient member _ => delivered recipient member,
            fun known => absurd (.inl known) unknown⟩
  · rw [if_neg isFailure] at written
    constructor
    · intro after
      constructor
      · intro isFailed
        exact absurd isFailed isFailure
      · intro isDelivered _
        exact absurd (after.delivered.mp (written.trans isDelivered)) missing
      · intro isFailed _
        exact .inl ((recorded_failed_iff isFailure).mp
          (after.failed (written.trans isFailed)))
    · intro fits
      constructor
      · refine iff_of_false ?_ missing
        rw [written]
        intro isDelivered
        apply missing
        apply recorded_delivered_iff.mpr
        constructor
        · intro recipient member _
          exact agreeing.delivered.mp isDelivered recipient member
        · intro known
          exact (fits.final isDelivered known).resolve_right isFailure
      · rw [written]
        intro isFailed
        apply (recorded_failed_iff isFailure).mpr
        rcases fits.remains isFailed isFailure with
          other | ⟨isDelivered, others⟩
        · exact other
        · exfalso
          apply missing
          apply recorded_delivered_iff.mpr
          refine ⟨?_, fun _ => isDelivered⟩
          intro recipient member differs
          exact (others recipient member).resolve_left differs

end Webhook

section Sync

variable {now : Time} {sms : SmsMessage} {report : String → ProviderResult Json}

/-- The message after the sync has collected its reports. -/
def afterSync (now : Time) (report : String → ProviderResult Json)
    (sms : SmsMessage) : SmsMessage :=
  let reports := collectReports report sms
  withReport now sms reports.1 reports.2 sms

theorem collectReports_spec (report : String → ProviderResult Json)
    (addressed : Addressed sms) :
    destinations (collectReports report sms).1 = destinations sms.recipients ∧
      UpperCase (collectReports report sms).1 ∧
      ((collectReports report sms).2 = true →
        ∃ recipient ∈ (collectReports report sms).1, recipient.status =
          "FAILED") := by
  let asked :=
    (sms.recipients.filter fun recipient => recipient.status ≠ "DELIVERED").take
    20
  have some : asked.Sublist sms.recipients :=
    (List.take_sublist _ _).trans List.filter_sublist
  apply foldl_applyReport report asked
  · exact addressed.distinct.sublist (some.map SmsRecipient.destAddr)
  · exact addressed.distinct
  · exact addressed.upper
  · intro recipient member
    exact List.mem_map_of_mem (some.subset member)
  · intro impossible
    cases impossible

theorem Addressed.afterSync (addressed : Addressed sms) :
    Addressed (afterSync now report sms) := by
  obtain ⟨same, upper, _⟩ := collectReports_spec report addressed
  constructor
  · change (destinations (collectReports report sms).1).Nodup
    rw [same]
    exact addressed.distinct
  · exact upper

/-- The sync only takes up sent messages, and always leaves agreement. -/
theorem agreeing_afterSync (addressed : Addressed sms)
    (isSent : sms.status = .sent) : Agreeing (afterSync now report sms) := by
  obtain ⟨_, upper, failed⟩ := collectReports_spec report addressed
  have written : (afterSync now report sms).status =
      reportedStatus (collectReports report sms).1 (collectReports report sms).2
        sms.status := rfl
  have all := allDelivered_iff upper
  rw [reportedStatus, isSent] at written
  constructor
  · change (afterSync now report sms).status = .delivered ↔
      ∀ recipient ∈ (collectReports report sms).1,
        recipient.status = "DELIVERED"
    rw [written, ← all]
    split
    · rename_i delivered
      exact iff_of_true rfl delivered
    · rename_i missing
      refine iff_of_false ?_ missing
      split <;> exact fun impossible => by cases impossible
  · intro isFailed
    rw [written] at isFailed
    split at isFailed
    · cases isFailed
    · split at isFailed
      · rename_i seen
        exact failed seen
      · cases isFailed

end Sync

/-- A webhook, or a run of the report sync. -/
inductive Arrival where
  | webhook (now : Time) (body : Json)
  | sync (now : Time) (deliveryReport : String → String → ProviderResult Json)

def Arrival.program : Arrival → Db Unit
  | .webhook now body => beem now body
  | .sync now deliveryReport => syncDeliveryReports now deliveryReport

/-- The state after a list of arrivals, one after another. -/
def runReports (arrivals : List Arrival) (world : World) : World :=
  arrivals.foldl (fun world arrival => (arrival.program.run world).2) world

def destOf (body : Json) : String :=
  memberText body ["destAddr", "dest_addr"]

def statusOf (body : Json) : String :=
  Text.toUpperCase (memberText body ["status"])

/-- The message a webhook is about, if it is about any. -/
def meant (world : World) (body : Json) : Option SmsMessage :=
  let requestId := memberText body ["requestId", "request_id"]
  if requestId = "" ∨ destOf body = "" then none
  else world.smsMessages.rows.find? fun sms =>
    sms.providerRequestId = some requestId

/-- What the webhook does with the message it has found. -/
def recordWebhook (now : Time) (body : Json) (found : Option SmsMessage) :
    Db Unit :=
  match found with
  | none => pure ()
  | some sms =>
      Program.discard (Program.perform (updateReport "sms.beem" now sms
      (recorded (destOf body) (statusOf body) sms.recipients)
        (statusOf body = "FAILED")))

theorem beem_eq (now : Time) (body : Json) :
    beem now body =
      if memberText body ["requestId", "request_id"] = "" ∨
        destOf body = "" then pure ()
      else Program.perform
        (findByRequest (memberText body ["requestId", "request_id"])) >>=
        recordWebhook now body := rfl

section Row

variable {world : World} {reference : Reference} {sms : SmsMessage}

theorem run_updateReport (site : Site) (now : Time) (read : SmsMessage)
    (recipients : List SmsRecipient) (failed : Bool)
    (found : world.smsMessages.find? read.reference = some sms) :
    (Program.perform (updateReport site now read recipients failed)).run world =
      (.ok (withReport now read recipients failed sms),
        { world with
          smsMessages := world.smsMessages.modify read.reference
            (withReport now read recipients failed) fun _ => rfl }) := by
  simp only [Program.run_perform, updateReport, Relation.update,
    smsMessages, found]

/-- The webhook changes the message it is about, and nothing without one. -/
theorem find?_beem (now : Time) (body : Json)
    (found : world.smsMessages.find? reference = some sms) :
    (meant world body = some sms ∧
      ((beem now body).run world).2.smsMessages.find? reference =
        some (afterWebhook now sms (destOf body) (statusOf body))) ∨
    ((∀ other ∈ meant world body, other.reference ≠ reference) ∧
      ((beem now body).run world).2.smsMessages.find? reference =
        some sms) := by
  by_cases empty : memberText body ["requestId", "request_id"] = "" ∨
    destOf body = ""
  · right
    have nobody : meant world body = none := if_pos empty
    rw [nobody, beem_eq, if_pos empty]
    exact ⟨fun _ member => (Option.not_mem_none _ member).elim, found⟩
  · have named : meant world body = world.smsMessages.rows.find? fun sms =>
        sms.providerRequestId =
          some (memberText body ["requestId", "request_id"]) :=
      if_neg empty
    rw [beem_eq, if_neg empty]
    simp only [Program.bind_perform, Program.run_query, findByRequest, select]
    rw [← named]
    cases isFor : meant world body with
    | none =>
        exact .inr ⟨fun _ member => (Option.not_mem_none _ member).elim, found⟩
    | some other =>
        have row : world.smsMessages.find? other.reference = some other := by
          rw [named] at isFor
          exact Table.find?_of_mem (List.mem_of_find?_eq_some isFor)
        simp only [recordWebhook, Program.run_discard,
          run_updateReport _ _ _ _ _ row]
        by_cases same : other.reference = reference
        · left
          rw [same, found] at row
          cases row
          refine ⟨rfl, (Table.find?_modify _ _ _ _ _).trans ?_⟩
          rw [if_pos same.symm, found]
          rfl
        · right
          refine ⟨fun named member => Option.some.inj member ▸ same, ?_⟩
          exact (Table.find?_modify_ne (Ne.symm same) _ _).trans found

/-- What the sync does for one of the messages it has read. -/
def syncMessage (now : Time)
    (deliveryReport : String → String → ProviderResult Json)
    (sms : SmsMessage) : Db Unit := do
  let reports :=
    collectReports (deliveryReport (sms.providerRequestId.getD "")) sms
  let _ ← Program.perform (updateReport "sms.sync" now sms reports.1 reports.2)
  let nextStatus := reportedStatus reports.1 reports.2 sms.status
  Program.when (nextStatus ≠ sms.status) (Program.discard (dispatch now
    ⟨.smsStatus, sms.accountId, sms.reference, .sms nextStatus⟩))

theorem run_syncMessage (now : Time)
    (deliveryReport : String → String → ProviderResult Json) (read : SmsMessage)
    (world : World) :
    (∃ error, (syncMessage now deliveryReport read).run world =
      (.error error, world)) ∨
    ∃ after, (syncMessage now deliveryReport read).run world = (.ok (), after) ∧
      after.smsMessages = world.smsMessages.modify read.reference
        (withReport now read
          (collectReports (deliveryReport (read.providerRequestId.getD ""))
            read).1
          (collectReports (deliveryReport (read.providerRequestId.getD ""))
            read).2)
        fun _ => rfl := by
  let reports :=
    collectReports (deliveryReport (read.providerRequestId.getD "")) read
  unfold syncMessage
  rw [Program.run_bind]
  cases found : world.smsMessages.find? read.reference with
  | none =>
      left
      simp only [Program.run_perform, updateReport, Relation.update,
        smsMessages, found]
      exact ⟨_, rfl⟩
  | some row =>
      right
      simp only [run_updateReport _ _ _ _ _ found]
      obtain ⟨after, ran, deliveries, jobs, same⟩ := run_whenDispatch
        (reportedStatus reports.1 reports.2 read.status ≠ read.status) now
        ⟨.smsStatus, read.accountId, read.reference,
          .sms (reportedStatus reports.1 reports.2 read.status)⟩
        { world with
          smsMessages := world.smsMessages.modify read.reference
            (withReport now read reports.1 reports.2) fun _ => rfl }
      refine ⟨after, ran, ?_⟩
      rw [same]

/-- The messages the sync has read are changed once each. -/
theorem find?_syncMessages (now : Time)
    (deliveryReport : String → String → ProviderResult Json)
    (sent : List SmsMessage) (apart : (sent.map SmsMessage.reference).Nodup)
    (current : ∀ read ∈ sent, read.reference = reference → read = sms)
    (found : world.smsMessages.find? reference = some sms) :
    ∃ row, ((Program.forEach sent (syncMessage now deliveryReport)).run
        world).2.smsMessages.find? reference = some row ∧
      (row = sms ∨ (sms ∈ sent ∧
        row = afterSync now (deliveryReport (sms.providerRequestId.getD ""))
          sms)) := by
  induction sent generalizing world sms with
  | nil => exact ⟨sms, found, .inl rfl⟩
  | cons read rest ih =>
      rw [List.map_cons, List.nodup_cons] at apart
      rw [List.forall_mem_cons] at current
      change ∃ row, ((syncMessage now deliveryReport read >>= fun _ =>
          Program.forEach rest (syncMessage now deliveryReport)).run
            world).2.smsMessages.find? reference = some row ∧ _
      rw [Program.run_bind]
      rcases run_syncMessage now deliveryReport read world with
        ⟨error, refused⟩ | ⟨middle, ran, rows⟩
      · rw [refused]
        exact ⟨sms, found, .inl rfl⟩
      rw [ran]
      by_cases same : read.reference = reference
      · have its := current.1 same
        subst its
        have changed : middle.smsMessages.find? reference =
            some (afterSync now
              (deliveryReport (read.providerRequestId.getD "")) read) := by
          rw [rows]
          refine (Table.find?_modify _ _ _ _ _).trans ?_
          rw [if_pos same.symm, found]
          rfl
        have others (other : SmsMessage) (member : other ∈ rest) :
            other.reference ≠ reference := by
          intro equal
          exact apart.1 (same ▸ equal ▸ List.mem_map_of_mem member)
        obtain ⟨row, kept, its⟩ := ih apart.2
          (fun other member equal => absurd equal (others other member)) changed
        refine ⟨row, kept, .inr ⟨List.mem_cons_self, ?_⟩⟩
        rcases its with unchanged | ⟨member, _⟩
        · exact unchanged
        · exact (others (afterSync now _ read) member same).elim
      · have kept : middle.smsMessages.find? reference = some sms := by
          rw [rows]
          exact (Table.find?_modify_ne (Ne.symm same) _ _).trans found
        obtain ⟨row, still, its⟩ := ih apart.2 current.2 kept
        refine ⟨row, still, its.imp_right ?_⟩
        exact And.imp_left (List.mem_cons_of_mem read)

/-- The messages the sync takes up are sent ones, as they are, once each. -/
theorem findSent_spec (now : Time) {sent : List SmsMessage}
    (read : (findSent now).answer world = .ok sent) :
    (sent.map SmsMessage.reference).Nodup ∧
      ∀ sms ∈ sent, world.smsMessages.find? sms.reference = some sms ∧
        sms.status = .sent := by
  have answered := Except.ok.inj read
  subst answered
  constructor
  · apply List.Nodup.sublist ((List.take_sublist _ _).map _)
    apply ((List.perm_insertionSort _ _).map _).nodup_iff.mpr
    exact world.smsMessages.unique.sublist (List.filter_sublist.map _)
  · intro sms member
    have kept :=
      (List.mem_insertionSort _).mp ((List.take_sublist _ _).subset member)
    obtain ⟨row, isDue⟩ := List.mem_filter.mp kept
    exact ⟨Table.find?_of_mem row, (of_decide_eq_true isDue).1⟩

theorem find?_sync (now : Time)
    (deliveryReport : String → String → ProviderResult Json)
    (found : world.smsMessages.find? reference = some sms) :
    ∃ row, ((syncDeliveryReports now deliveryReport).run
      world).2.smsMessages.find?
        reference = some row ∧
      (row = sms ∨ (sms.status = .sent ∧
        row = afterSync now (deliveryReport (sms.providerRequestId.getD ""))
          sms)) := by
  change ∃ row, ((Program.perform (findSent now) >>= fun sent =>
      Program.forEach sent (syncMessage now deliveryReport)).run
        world).2.smsMessages.find? reference = some row ∧ _
  rw [Program.bind_perform, Program.run_query]
  cases read : (findSent now).answer world with
  | error error => cases read
  | ok sent =>
      obtain ⟨apart, rows⟩ := findSent_spec now read
      have current (other : SmsMessage) (member : other ∈ sent)
          (same : other.reference = reference) : other = sms := by
        have its := (rows other member).1
        rw [same, found] at its
        exact (Option.some.inj its).symm
      obtain ⟨row, after, its⟩ :=
        find?_syncMessages now deliveryReport sent apart current found
      refine ⟨row, after, its.imp_right ?_⟩
      exact And.imp_left fun member => (rows sms member).2

end Row

/-! ## Every sequence -/

/-- A message that the provider has accepted, before any report. -/
structure Accepted (sms : SmsMessage) : Prop where
  sent : sms.status = .sent
  nonempty : sms.recipients ≠ []
  distinct : (destinations sms.recipients).Nodup
  pending : ∀ recipient ∈ sms.recipients,
    recipient.status ∈ ["PENDING", "SUBMITTED", "FAILED"]

theorem Accepted.addressed {sms : SmsMessage} (accepted : Accepted sms) :
    Addressed sms := by
  constructor
  · exact accepted.distinct
  · intro recipient member
    have initial : ∀ status ∈ ["PENDING", "SUBMITTED", "FAILED"],
        Text.toUpperCase status = status := by decide
    exact initial recipient.status (accepted.pending recipient member)

theorem Accepted.agreeing {sms : SmsMessage} (accepted : Accepted sms) :
    Agreeing sms := by
  constructor
  · rw [accepted.sent]
    refine iff_of_false (fun impossible => by cases impossible) ?_
    intro all
    obtain ⟨recipient, member⟩ := List.exists_mem_of_ne_nil _ accepted.nonempty
    have initial := accepted.pending recipient member
    rw [all recipient member] at initial
    exact absurd initial (by decide)
  · rw [accepted.sent]
    intro impossible
    cases impossible

/-- The numbers of a new message are distinct. -/
theorem nodup_distinct (numbers : List String) :
    (Sms.distinct numbers).Nodup := by
  unfold Sms.distinct
  suffices kept : ∀ kept : List String, kept.Nodup →
      (numbers.foldl
        (fun kept number => if number ∈ kept then kept else kept ++ [number])
        kept).Nodup by exact kept [] List.nodup_nil
  induction numbers with
  | nil => exact fun _ nodup => nodup
  | cons number rest ih =>
      intro kept nodup
      apply ih
      dsimp only
      split
      · exact nodup
      · rename_i fresh
        exact nodup.append (List.nodup_singleton number) (by simpa using fresh)

theorem destinations_newMessage (now : Time) (accountId : AccountId)
    (dto : SendSms) (senderName : String) (unique : List String)
    (reference : Reference) :
    destinations
      (newMessage now accountId dto senderName unique reference).recipients =
      unique := by
  unfold destinations newMessage
  rw [List.map_map]
  exact List.zipIdx_map_fst 0 unique

theorem mem_distinct (numbers : List String) (number : String) :
    number ∈ Sms.distinct numbers ↔ number ∈ numbers := by
  unfold Sms.distinct
  suffices kept : ∀ kept : List String,
      number ∈ numbers.foldl
        (fun kept number => if number ∈ kept then kept else kept ++ [number])
        kept ↔ number ∈ kept ∨ number ∈ numbers by simpa using kept []
  induction numbers with
  | nil => simp
  | cons head rest ih =>
      intro kept
      rw [List.foldl_cons, ih]
      split
      next member => grind
      next => simp [or_assoc]

/-- Behind the API's pattern, a message goes to at least one number, and to
canonical ones. -/
theorem newMessage_numbers (now : Time) (accountId : AccountId) {dto : SendSms}
    (senderName : String) (reference : Reference)
    (nonempty : dto.recipients ≠ [])
    (dialled : ∀ raw ∈ dto.recipients, dialledPattern.rmatch raw.toList) :
    let sms := newMessage now accountId dto senderName
      (distinct (dto.recipients.filterMap normalizePhoneNumber)) reference
    sms.recipients ≠ [] ∧ (destinations sms.recipients).Nodup ∧
      ∀ number ∈ destinations sms.recipients, isMobileNumber number.toList := by
  obtain ⟨subscribers, length, same⟩ := filterMap_normalizePhoneNumber dialled
  intro sms
  have numbers : destinations sms.recipients =
      distinct (subscribers.map Subscriber.canonical) := by
    rw [destinations_newMessage, same]
  refine ⟨fun empty => nonempty ?_, numbers ▸ nodup_distinct _,
    fun number member => ?_⟩
  · rw [empty] at numbers
    have none : subscribers.map Subscriber.canonical = [] := by
      apply List.eq_nil_iff_forall_not_mem.mpr
      intro number member
      rw [← mem_distinct, ← numbers] at member
      cases member
    rw [← List.length_eq_zero_iff, ← length, ← List.length_map
      Subscriber.canonical, none]
    rfl
  · rw [numbers, mem_distinct] at member
    obtain ⟨subscriber, _, rfl⟩ := List.mem_map.mp member
    rw [isMobileNumber_iff, mobilePattern_iff, Subscriber.canonical,
      String.toList_ofList]
    exact ⟨subscriber, rfl⟩

/-- The send job that records an accepted call leaves its message accepted. -/
theorem accepted_recordSent (now : Time) (providerRequestId : String)
    (rate : Decimal) {world : World} {sms row : SmsMessage}
    (found : world.smsMessages.find? sms.reference = some row)
    (nonempty : sms.recipients ≠ [])
    (distinct : (destinations sms.recipients).Nodup) :
    ∃ sent, ((recordSent now sms providerRequestId (some rate) true).run
      world).2.smsMessages.find?
        sms.reference = some sent ∧ Accepted sent := by
  refine ⟨{ row with
    status := .sent
    providerRequestId := some providerRequestId
    sentAt := some now
    cost := some (messageCost rate sms)
    recipients := submittedRecipients true sms
    updatedAt := now }, ?_, ?_⟩
  · simp only [recordSent, Option.map_some, Program.run_catching,
      Program.run_discard, Program.run_perform,
      markSent, Relation.update, smsMessages, found]
    refine (Table.find?_modify _ _ _ _ _).trans ?_
    rw [if_pos rfl, found]
    rfl
  constructor
  · rfl
  · unfold submittedRecipients
    simpa using nonempty
  · unfold submittedRecipients destinations
    rw [List.map_map]
    exact distinct
  · intro recipient member
    obtain ⟨old, _, rfl⟩ := List.mem_map.mp member
    exact List.mem_cons_of_mem _ List.mem_cons_self

/-- The webhook, when it is about the message, fits it as it is. -/
def Arrival.Fits (reference : Reference) (world : World) : Arrival → Prop
  | .webhook _ body => ∀ sms ∈ meant world body, sms.reference = reference →
      Sms.Fits sms (destOf body) (statusOf body)
  | .sync _ _ => True

/-- The message is there, and its statuses agree. -/
def Agrees (reference : Reference) (world : World) : Prop :=
  ∃ sms, world.smsMessages.find? reference = some sms ∧ Agreeing sms

/-- An arrival keeps the message, and its statuses agree after it if and only if
it fits. -/
theorem agrees_arrival_iff {reference : Reference} {world : World}
    {sms : SmsMessage} (found : world.smsMessages.find? reference = some sms)
    (addressed : Addressed sms) (agreeing : Agreeing sms) (arrival : Arrival) :
    (∃ row, (arrival.program.run world).2.smsMessages.find? reference =
      some row ∧ Addressed row) ∧
    (Agrees reference (arrival.program.run world).2 ↔
      arrival.Fits reference world) := by
  have agrees {after : World} {row : SmsMessage}
      (kept : after.smsMessages.find? reference = some row) :
      Agrees reference after ↔ Agreeing row := by
    constructor
    · intro holds
      obtain ⟨other, its, agreeing⟩ := holds
      rw [kept] at its
      exact Option.some.inj its ▸ agreeing
    · intro holds
      exact ⟨row, kept, holds⟩
  cases arrival with
  | webhook now body =>
      have status_upper : Text.toUpperCase (statusOf body) = statusOf body :=
        Text.toUpperCase_toUpperCase _
      have key : sms.reference = reference := Table.key_of_find? found
      rcases find?_beem now body found with ⟨isFor, changed⟩ | ⟨others, kept⟩
      · refine ⟨⟨_, changed, addressed.afterWebhook status_upper⟩, ?_⟩
        apply (agrees changed).trans
        apply (agreeing_afterWebhook_iff now addressed agreeing
          status_upper).trans
        constructor
        · intro fits other member _
          rw [isFor] at member
          exact Option.some.inj member ▸ fits
        · intro fits
          exact fits sms isFor key
      · refine ⟨⟨sms, kept, addressed⟩, ?_⟩
        apply (agrees kept).trans
        refine iff_of_true agreeing ?_
        intro other member same
        exact absurd same (others other member)
  | sync now deliveryReport =>
      obtain ⟨row, after, its⟩ := find?_sync now deliveryReport found
      rcases its with rfl | ⟨isSent, rfl⟩
      · exact ⟨⟨row, after, addressed⟩,
          (agrees after).trans (iff_of_true agreeing trivial)⟩
      · exact ⟨⟨_, after, addressed.afterSync⟩,
          (agrees after).trans
            (iff_of_true (agreeing_afterSync addressed isSent) trivial)⟩

theorem agrees_run_iff {start : World} {reference : Reference}
    {sms : SmsMessage} (found : start.smsMessages.find? reference = some sms)
    (addressed : Addressed sms) (agreeing : Agreeing sms)
    (arrivals : List Arrival) :
    (∀ done rest, arrivals = done ++ rest →
      Agrees reference (runReports done start)) ↔
      ∀ done arrival rest, arrivals = done ++ arrival :: rest →
        arrival.Fits reference (runReports done start) := by
  induction arrivals generalizing start sms with
  | nil =>
      constructor
      · intro _ done arrival rest split
        simp at split
      · intro _ done rest split
        rw [(List.append_eq_nil_iff.mp split.symm).1]
        exact ⟨sms, found, agreeing⟩
  | cons first later ih =>
      obtain ⟨⟨row, kept, still⟩, step⟩ :=
        agrees_arrival_iff found addressed agreeing first
      constructor
      · intro all
        have fits := step.mp (all [first] later rfl)
        obtain ⟨same, its, holds⟩ := step.mpr fits
        rw [kept] at its
        cases its
        intro done arrival rest split
        cases done with
        | nil =>
            cases split
            exact fits
        | cons head done =>
            cases split
            refine (ih kept still holds).mp ?_ done arrival rest rfl
            intro before after again
            exact all (first :: before) after (again ▸ rfl)
      · intro each
        have fits := each [] first later rfl
        obtain ⟨same, its, holds⟩ := step.mpr fits
        rw [kept] at its
        cases its
        intro done rest split
        cases done with
        | nil => exact ⟨sms, found, agreeing⟩
        | cons head done =>
            cases split
            refine (ih kept still holds).mpr ?_ done rest rfl
            intro before arrival after again
            exact each (first :: before) arrival after (again ▸ rfl)

/-- Every sequence of webhooks and syncs after a message was accepted: its
statuses agree after each of them if and only if each webhook fits the message
it finds. -/
theorem statuses_agree_iff (start : World) (reference : Reference)
    (sms : SmsMessage) (found : start.smsMessages.find? reference = some sms)
    (accepted : Accepted sms) (arrivals : List Arrival) :
    (∀ done rest, arrivals = done ++ rest →
      Agrees reference (runReports done start)) ↔
      ∀ done arrival rest, arrivals = done ++ arrival :: rest →
        arrival.Fits reference (runReports done start) :=
  agrees_run_iff found accepted.addressed accepted.agreeing arrivals

/-- A message to two numbers that the provider has accepted. -/
def twoRecipients : SmsMessage where
  accountId := "a"
  reference := "AAAAA000000000000001"
  senderName := "ZOOINFO"
  message := "hello"
  recipients :=
    [⟨1, "255712345678", "SUBMITTED"⟩, ⟨2, "255712345679", "SUBMITTED"⟩]
  recipientCount := 2
  status := .sent
  providerRequestId := some "R1"
  sentAt := some 1
  createdAt := 1
  updatedAt := 1

def sentWorld : World where
  smsMessages := Table.empty.insert twoRecipients

theorem accepted_twoRecipients : Accepted twoRecipients :=
  ⟨rfl, by decide, by decide, by decide⟩

/-- A delivery report of the message. -/
def reportBody (dest status : String) : Json :=
  .obj [("requestId", .str "R1"), ("destAddr", .str dest),
    ("status", .str status)]

theorem statuses_agree_first :
    Agrees "AAAAA000000000000001"
      (runReports [.webhook 2 (reportBody "255712345678" "delivered")]
        sentWorld) := by
  refine (statuses_agree_iff sentWorld "AAAAA000000000000001" twoRecipients
    (by decide +kernel)
    accepted_twoRecipients _).mpr ?_ _ [] (List.append_nil _).symm
  intro done arrival rest split
  cases done with
  | nil =>
      cases split
      intro sms member _
      have isFor : meant sentWorld (reportBody "255712345678" "delivered") =
          some twoRecipients := by decide +kernel
      change meant sentWorld (reportBody "255712345678" "delivered") =
        some sms at member
      rw [isFor] at member
      cases member
      constructor
      · intro isFailure
        exact absurd isFailure (by decide +kernel)
      · intro isDelivered
        cases isDelivered
      · intro isFailed
        cases isFailed
  | cons head done => simp at split

/-- Both recipients are delivered to, and then one turns out not to be. -/
def lateCorrection : List Arrival :=
  [.webhook 2 (reportBody "255712345678" "DELIVERED"),
    .webhook 3 (reportBody "255712345679" "DELIVERED"),
    .webhook 4 (reportBody "255712345679" "UNDELIVERED")]

/-- The message stays delivered although a recipient is not, and it has failed
although no recipient has, after a failure for a number it was not sent to. -/
theorem lateCorrection_disagrees :
    (∃ sms, (runReports lateCorrection sentWorld).smsMessages.find?
        "AAAAA000000000000001" = some sms ∧ sms.status = .delivered ∧
      ∃ recipient ∈ sms.recipients, recipient.status = "UNDELIVERED") ∧
    ∃ sms, (runReports [.webhook 2 (reportBody "255700000000" "FAILED")]
        sentWorld).smsMessages.find? "AAAAA000000000000001" = some sms ∧
      sms.status = .failed ∧ ∀ recipient ∈ sms.recipients, recipient.status =
        "SUBMITTED" := by
  constructor
  · have late : ((runReports lateCorrection sentWorld).smsMessages.find?
        "AAAAA000000000000001").any fun sms => sms.status = .delivered ∧
          ∃ recipient ∈ sms.recipients, recipient.status = "UNDELIVERED" := by
      decide +kernel
    obtain ⟨sms, found, wrong⟩ := (Option.any_eq_true _ _).mp late
    exact ⟨sms, found, of_decide_eq_true wrong⟩
  · have unknown :
      ((runReports [.webhook 2 (reportBody "255700000000" "FAILED")]
        sentWorld).smsMessages.find? "AAAAA000000000000001").any fun sms =>
          sms.status = .failed ∧ ∀ recipient ∈ sms.recipients,
            recipient.status = "SUBMITTED" := by
      decide +kernel
    obtain ⟨sms, found, wrong⟩ := (Option.any_eq_true _ _).mp unknown
    exact ⟨sms, found, of_decide_eq_true wrong⟩

end CloudStudio.Sms
