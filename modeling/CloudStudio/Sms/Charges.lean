import CloudStudio.Payments.Credited
import CloudStudio.Sms.Sending

/-!
# What a message is billed and what it costs

The bill of a pay-as-you-go message is issued when it is accepted for sending,
its cost is recorded when the provider has taken it.  The cost counts segments,
and the bill does not.
-/

namespace CloudStudio.Sms

open CloudStudio.Data CloudStudio.Transactions CloudStudio.Platform
open CloudStudio.Payments
open CloudStudio.Payouts

theorem roundHalfUp_eq_iff {value : Decimal} (nonneg : 0 ≤ value) (units : ℤ) :
    Decimal.roundHalfUp value = units ↔
      (units : ℚ) ≤ value + 1 / 2 ∧ value + 1 / 2 < units + 1 := by
  rw [Decimal.roundHalfUp, if_pos nonneg, Int.floor_eq_iff]

/-- Cents and hundredths of cents. -/
theorem toFixed_two_eq_four_iff (price cost : Decimal) :
    Decimal.toFixed 2 price = Decimal.toFixed 4 cost ↔
      Decimal.roundHalfUp (cost * 10 ^ 4) =
        100 * Decimal.roundHalfUp (price * 10 ^ 2) := by
  unfold Decimal.toFixed
  have scale : (10 : ℚ) ^ 4 = 100 * 10 ^ 2 := by norm_num
  rw [scale, div_eq_div_iff (by norm_num) (by norm_num), ← @Int.cast_inj ℚ]
  push_cast
  constructor
  · intro same
    linarith
  · intro same
    linarith

/-- The price times the segments, in hundredths of cents, is the price in cents:
one segment and a price in whole cents, or an amount that both roundings or the
coarser one makes up. -/
def Charged (price : Decimal) (segments : ℕ) : Prop :=
  (segments = 1 ∧ Decimal.HasPlaces 2 (Decimal.toFixed 4 price)) ∨
    |price * segments| < 1 / 20000 ∨
    (segments = 2 ∧ 1 / 200 ≤ |price| ∧ |price| < 201 / 40000)

section Nonneg

variable {price : Decimal} (nonneg : 0 ≤ price) {segments : ℕ}

include nonneg

/-- The rounded price and the rounded cost, as bounds on the cents. -/
theorem toFixed_eq_iff_bounds (cents : ℤ)
    (rounded : Decimal.roundHalfUp (price * 10 ^ 2) = cents) :
    Decimal.toFixed 2 price = Decimal.toFixed 4 (price * segments) ↔
      (100 * cents : ℚ) ≤ 10000 * (price * segments) + 1 / 2 ∧
        10000 * (price * segments) + 1 / 2 < 100 * cents + 1 := by
  have costNonneg : 0 ≤ price * segments * 10 ^ 4 := by positivity
  rw [toFixed_two_eq_four_iff, rounded, roundHalfUp_eq_iff costNonneg]
  push_cast
  constructor
  · intro bounds
    constructor <;> linarith [bounds.1, bounds.2]
  · intro bounds
    constructor <;> linarith [bounds.1, bounds.2]

theorem roundHalfUp_cents (cents : ℤ) :
    Decimal.roundHalfUp (price * 10 ^ 2) = cents ↔
      (cents : ℚ) ≤ 100 * price + 1 / 2 ∧ 100 * price + 1 / 2 < cents + 1 := by
  have scaled : 0 ≤ price * 10 ^ 2 := by positivity
  rw [roundHalfUp_eq_iff scaled]
  constructor
  · intro bounds
    constructor <;> linarith [bounds.1, bounds.2]
  · intro bounds
    constructor <;> linarith [bounds.1, bounds.2]

/-- An amount below half of the finer unit is nothing in both. -/
theorem toFixed_eq_of_small (some : 1 ≤ segments)
    (small : price * segments < 1 / 20000) :
    Decimal.toFixed 2 price = Decimal.toFixed 4 (price * segments) := by
  have atLeast : price ≤ price * segments :=
    le_mul_of_one_le_right nonneg (by exact_mod_cast some)
  have rounded : Decimal.roundHalfUp (price * 10 ^ 2) = 0 := by
    rw [roundHalfUp_cents nonneg]
    push_cast
    constructor <;> linarith
  rw [toFixed_eq_iff_bounds nonneg 0 rounded]
  push_cast
  constructor <;> linarith

/-- The price of one segment. -/
theorem toFixed_eq_of_places
    (places : Decimal.HasPlaces 2 (Decimal.toFixed 4 price)) :
    Decimal.toFixed 2 price = Decimal.toFixed 4 (price * (1 : ℕ)) := by
  obtain ⟨cents, same⟩ := places
  have scaled : 0 ≤ price * 10 ^ 4 := by positivity
  have fine : Decimal.roundHalfUp (price * 10 ^ 4) = 100 * cents := by
    unfold Decimal.toFixed at same
    rw [div_eq_div_iff (by norm_num) (by norm_num)] at same
    have cast : (Decimal.roundHalfUp (price * 10 ^ 4) : ℚ) =
      ((100 * cents : ℤ) : ℚ) := by
      push_cast
      linarith
    exact_mod_cast cast
  have bounds := (roundHalfUp_eq_iff scaled _).mp fine
  push_cast at bounds
  have rounded : Decimal.roundHalfUp (price * 10 ^ 2) = cents := by
    rw [roundHalfUp_cents nonneg]
    constructor <;> linarith [bounds.1, bounds.2]
  rw [toFixed_eq_iff_bounds nonneg cents rounded]
  push_cast
  constructor <;> linarith [bounds.1, bounds.2]

theorem charged_iff_of_nonneg (some : 1 ≤ segments) :
    Decimal.toFixed 2 price = Decimal.toFixed 4 (price * segments) ↔
      Charged price segments := by
  have costNonneg : 0 ≤ price * segments :=
    mul_nonneg nonneg (Nat.cast_nonneg segments)
  unfold Charged
  rw [abs_of_nonneg nonneg, abs_of_nonneg costNonneg]
  constructor
  · intro same
    by_cases one : segments = 1
    · left
      refine ⟨one, ?_⟩
      rw [one, Nat.cast_one, mul_one] at same
      rw [← same]
      exact Decimal.hasPlaces_toFixed 2 price
    right
    obtain ⟨cents, rounded⟩ : ∃ cents, Decimal.roundHalfUp (price * 10 ^ 2) =
      cents := ⟨_, rfl⟩
    have cost := (toFixed_eq_iff_bounds nonneg cents rounded).mp same
    have priced := (roundHalfUp_cents nonneg cents).mp rounded
    have counted : 0 ≤ cents :=
      rounded ▸ Decimal.roundHalfUp_nonneg (by positivity)
    rcases counted.eq_or_lt with zero | positive
    · left
      rw [← zero] at cost
      push_cast at cost
      linarith [cost.2]
    · -- at least one cent: as many segments cost as many cents
      right
      have cent : (1 : ℚ) ≤ cents := by exact_mod_cast positive
      have scaled : (segments : ℚ) * (100 * cents - 50) ≤
        10000 * (price * segments) := by
        have times :=
          mul_le_mul_of_nonneg_left priced.1 (Nat.cast_nonneg (α := ℚ) segments)
        nlinarith [times]
      have two : segments = 2 := by
        by_contra other
        have three : (3 : ℚ) ≤ segments := by
          have atLeast : 3 ≤ segments := by omega
          exact_mod_cast atLeast
        nlinarith [cost.2, scaled]
      subst two
      push_cast at scaled cost
      have single : cents = 1 := by
        have below : (cents : ℚ) < 2 := by linarith [cost.2]
        have below' : cents < 2 := by exact_mod_cast below
        omega
      subst single
      push_cast at cost priced
      refine ⟨rfl, ?_, ?_⟩ <;> linarith [cost.2, priced.1]
  · rintro (⟨rfl, places⟩ | small | ⟨rfl, least, below⟩)
    · exact toFixed_eq_of_places nonneg places
    · exact toFixed_eq_of_small nonneg some small
    · have rounded : Decimal.roundHalfUp (price * 10 ^ 2) = 1 := by
        rw [roundHalfUp_cents nonneg]
        push_cast
        constructor <;> linarith
      rw [toFixed_eq_iff_bounds nonneg 1 rounded]
      push_cast
      constructor <;> linarith

end Nonneg

theorem charged_iff (price : Decimal) {segments : ℕ} (some : 1 ≤ segments) :
    Decimal.toFixed 2 price = Decimal.toFixed 4 (price * segments) ↔
      Charged price segments := by
  rcases le_total 0 price with nonneg | negative
  · exact charged_iff_of_nonneg nonneg some
  · have positive := charged_iff_of_nonneg (neg_nonneg.mpr negative) some
    rw [Decimal.toFixed_neg, neg_mul, Decimal.toFixed_neg, neg_inj] at positive
    rw [positive]
    unfold Charged
    rw [neg_mul, abs_neg, abs_neg, Decimal.toFixed_neg]
    have places : Decimal.HasPlaces 2 (-Decimal.toFixed 4 price) ↔
        Decimal.HasPlaces 2 (Decimal.toFixed 4 price) := by
      constructor
      · intro negated
        simpa using negated.neg
      · exact Decimal.HasPlaces.neg
    rw [places]

theorem run_select_ok {Answer : Type} {site : Site} {view : World → Answer}
    {answer : Answer} {before after : World}
    (ran : (Program.perform (select site view)).run before =
      (.ok answer, after)) : view before = answer ∧ after = before := by
  rw [Program.run_perform] at ran
  simp only [select, Prod.mk.injEq, Except.ok.injEq] at ran
  exact ⟨ran.1, ran.2.symm⟩

/-- Looking for a sender name changes nothing. -/
theorem run_resolveSender_ok {config : SmsConfig} {accountId : AccountId}
    {requested : Option String} {name : String} {before after : World}
    (ran : (resolveSender config accountId requested).run before =
      (.ok name, after)) : after = before := by
  unfold resolveSender at ran
  split at ran
  · obtain ⟨dedicated, between, read, ran⟩ := Program.run_bind_ok_iff.mp ran
    obtain ⟨_, rfl⟩ := run_select_ok read
    cases dedicated with
    | some _ => exact (Prod.mk.inj ran).2.symm
    | none =>
        obtain ⟨shared, between, read, ran⟩ := Program.run_bind_ok_iff.mp ran
        obtain ⟨_, rfl⟩ := run_select_ok read
        cases shared with
        | some _ => exact (Prod.mk.inj ran).2.symm
        | none => cases (Prod.mk.inj ran).1
  · obtain ⟨dedicated, between, read, ran⟩ := Program.run_bind_ok_iff.mp ran
    obtain ⟨_, rfl⟩ := run_select_ok read
    exact (Prod.mk.inj ran).2.symm

/-- The account's messages are billed as they are sent. -/
def PaysAsItGoes (world : World) (accountId : AccountId) : Prop :=
  ∃ permission, world.permissions.find? ⟨accountId, .sms⟩ = some permission ∧
    permission.granted = true ∧ payAsYouGo permission = true

theorem run_maybeIssuePaygBill {config : SmsConfig} {rate : Decimal}
    (finite : config.rate = .value rate) {accountId : AccountId} {world : World}
    (pays : PaysAsItGoes world accountId) (now : Time) (recipients : ℕ)
    (reference : Reference) :
    (maybeIssuePaygBill now config accountId recipients reference).run world =
      (.ok (), { world with
        bills := world.bills ++
          [smsBill now config.rateText rate accountId recipients reference]
            }) := by
  obtain ⟨permission, found, granted, payg⟩ := pays
  simp only [maybeIssuePaygBill, Program.bind_perform, Program.run_query,
    select, found, granted,
    payg, and_self, if_true, finite, Program.run_discard, Program.run_perform,
      createBill]

/-- An accepted message of such an account has its bill. -/
theorem send_billed {now : Time} {random : List Char} {config : SmsConfig}
    {rate : Decimal} {accountId : AccountId} {dto : SendSms} {sms : SmsMessage}
    {world submitted : World} (finite : config.rate = .value rate)
    (pays : PaysAsItGoes world accountId)
    (sent : (send now random config accountId dto).run world =
      (.ok sms, submitted)) :
    submitted.bills = world.bills ++
      [smsBill now config.rateText rate accountId sms.recipientCount
        sms.reference] := by
  unfold send at sent
  obtain ⟨account, _, found, prepared⟩ := Program.run_bind_ok_iff.mp sent
  obtain rfl := (findAccount_ok found).1
  dsimp only at prepared
  split at prepared
  · cases (Prod.mk.inj prepared).1
  obtain ⟨senderName, _, resolved, persisted⟩ :=
    Program.run_bind_ok_iff.mp prepared
  obtain rfl := run_resolveSender_ok resolved
  split at persisted
  · cases (Prod.mk.inj persisted).1
  rename_i reference _
  obtain ⟨row, created, inserted, charged⟩ :=
    Program.run_bind_ok_iff.mp persisted
  obtain ⟨_, billed, issued, queued⟩ := Program.run_bind_ok_iff.mp charged
  rw [Program.run_perform] at inserted
  split at inserted
  · rename_i answered
    obtain ⟨_, same⟩ := Relation.create_ok answered
    obtain ⟨itself, rfl⟩ := Prod.mk.inj inserted
    cases itself
    subst same
    rw [run_maybeIssuePaygBill finite ?pays] at issued
    case pays => exact pays
    cases issued
    simp only [enqueue, Program.bind_perform, Program.run_query,
      createJob] at queued
    cases queued
    rfl
  · cases (Prod.mk.inj inserted).1

/-- The run ended with a send call for the message that the provider
accepted. -/
def TakenBy (before after : World) (smsId : Reference) : Prop :=
  ∃ accepted, after.smsRail = before.smsRail ++ [⟨smsId, accepted, true⟩]

theorem not_takenBy_self {before after : World}
    (same : after.smsRail = before.smsRail) (smsId : Reference) :
    ¬ TakenBy before after smsId := by
  rintro ⟨accepted, grown⟩
  rw [same] at grown
  exact absurd grown (by simp)

/-- The columns that a message keeps for as long as it exists. -/
def SameMessage (sms row : SmsMessage) : Prop :=
  row.message = sms.message ∧ row.encoding = sms.encoding ∧
    row.recipientCount = sms.recipientCount

theorem messageCost_congr {sms row : SmsMessage} (same : SameMessage sms row)
    (rate : Decimal) : messageCost rate row = messageCost rate sms := by
  obtain ⟨message, encoding, recipientCount⟩ := same
  unfold messageCost segments
  rw [message, encoding, recipientCount]

theorem recordSent_cost (now : Time) (providerRequestId : String)
    (rate : Decimal) (ok : Bool) {world : World} {sms row : SmsMessage}
    (found : world.smsMessages.find? sms.reference = some row) :
    ∃ sent, ((recordSent now sms providerRequestId (some rate) ok).run
      world).2.smsMessages.find?
        sms.reference = some sent ∧
          sent.cost = some (messageCost rate sms) := by
  simp only [recordSent, Option.map_some, Program.run_catching,
    Program.run_discard,
    Program.run_perform, markSent, Relation.update, smsMessages, found]
  refine ⟨_, (Table.find?_modify_self _ _ _ _).trans (congrArg _ found), rfl⟩

/-- The part of the job after its claim. -/
theorem accepted_cost {now : Time} {providerRequestId : String} {rate : Decimal}
    {ok : Bool} {notice : Dispatched} {claimed after : World}
    {sms row : SmsMessage}
    (found : claimed.smsMessages.find? sms.reference = some row) (ran : (do
      recordSent now sms providerRequestId (some rate) ok
      Program.discard (dispatch now notice) : Db Unit).run claimed =
        (.ok (), after)) :
    ∃ sent, after.smsMessages.find? sms.reference = some sent ∧
      sent.cost = some (messageCost rate sms) := by
  obtain ⟨_, recorded, written, dispatched⟩ := Program.run_bind_ok_iff.mp ran
  obtain ⟨sent, foundSent, cost⟩ :=
    recordSent_cost now providerRequestId rate ok found
  rw [written] at foundSent
  obtain ⟨_, notified⟩ := Program.run_discard_ok_iff.mp dispatched
  obtain ⟨_, _, noticed, _, _, rfl⟩ := run_dispatch now notice recorded
  rw [noticed] at notified
  cases notified
  exact ⟨sent, foundSent, cost⟩

/-- A job that sends its message records what it costs. -/
theorem processSendJob_cost {times : SendTimes} {credentialsReady : Bool}
    {rate : Decimal} {provider : SmsSendRequest → SmsBehaviour}
    {smsId : Reference} {row : SmsMessage} {later after : World}
    (found : later.smsMessages.find? smsId = some row)
    (ran : (processSendJob times credentialsReady (some rate) provider
      smsId).run later =
      (.ok (), after)) (taken : TakenBy later after smsId) :
    ∃ sent, after.smsMessages.find? smsId = some sent ∧
      sent.cost = some (messageCost rate row) := by
  have foundRecovered : (later.smsMessages.modifyAll (recovered times.startedAt)
      (recovered_reference times.startedAt)).find? smsId =
        some (recovered times.startedAt row) := by
    rw [Table.find?_modifyAll, found, Option.map_some]
  have key : (recovered times.startedAt row).reference = smsId :=
    Table.key_of_find? foundRecovered
  have cost : messageCost rate (recovered times.startedAt row) =
    messageCost rate row := by
    apply messageCost_congr
    unfold recovered
    split
    · exact ⟨rfl, rfl, rfl⟩
    · exact ⟨rfl, rfl, rfl⟩
  simp only [processSendJob, Program.bind_perform, Program.run_query,
    recoverClaims,
    Relation.findUnique, select, smsMessages, foundRecovered] at ran
  split at ran
  · cases ran
    exact absurd taken (not_takenBy_self rfl smsId)
  by_cases claims : Claimable
      { later with
        smsMessages := later.smsMessages.modifyAll (recovered times.startedAt)
          (recovered_reference times.startedAt) } smsId
  · simp only [Program.run_query, claimMessage, key, if_pos claims,
      one_ne_zero, if_false, sendOnRail] at ran
    split at ran
    · subst key
      have foundClaimed :=
        (Table.find?_modify_self _ _ (withStatus times.claimedAt .processing)
        fun _ => rfl).trans (congrArg (Option.map _) foundRecovered)
      rw [← cost]
      exact accepted_cost foundClaimed ran
    · simp only [Program.run_query] at ran
      split at ran <;> cases (Prod.mk.inj ran).1
  · simp only [Program.run_query, claimMessage, key, if_neg claims,
      if_true] at ran
    cases ran
    exact absurd taken (not_takenBy_self rfl smsId)

/-! ## Bill and cost -/

theorem segments_pos (sms : SmsMessage) : 1 ≤ segments sms :=
  le_max_left _ _

/-- A pay-as-you-go message is billed what it costs exactly when the price of
its recipients is charged for its segments. -/
theorem payg_bill_eq_cost_iff {now : Time} {random : List Char}
    {config : SmsConfig} {rate : Decimal} (finite : config.rate = .value rate)
    {accountId : AccountId} {dto : SendSms} {sms : SmsMessage}
    {world submitted : World} (pays : PaysAsItGoes world accountId)
    (sent : (send now random config accountId dto).run world =
      (.ok sms, submitted)) {times : SendTimes} {credentialsReady : Bool}
    {provider : SmsSendRequest → SmsBehaviour} {row : SmsMessage}
    {later after : World}
    (found : later.smsMessages.find? sms.reference = some row)
    (same : SameMessage sms row)
    (ran : (processSendJob times credentialsReady (some rate) provider
      sms.reference).run later =
      (.ok (), after)) (taken : TakenBy later after sms.reference) :
    ∃ bill, submitted.bills = world.bills ++ [bill] ∧ bill.type = .payAsYouGo ∧
      bill.metadata = some (.sms sms.reference sms.recipientCount rate) ∧
      ∃ final, after.smsMessages.find? sms.reference = some final ∧
      ∃ cost, final.cost = some cost ∧
        ((bill.amount : Decimal) = cost ↔
          Charged (rate * sms.recipientCount) (segments sms)) := by
  obtain ⟨final, foundFinal, cost⟩ := processSendJob_cost found ran taken
  refine ⟨_, send_billed finite pays sent, rfl, rfl, final, foundFinal, _, cost,
    ?_⟩
  rw [messageCost_congr same, ← charged_iff _ (segments_pos sms)]
  unfold messageCost
  rw [mul_right_comm]
  exact Iff.rfl

/-- An account whose messages are billed as they are sent. -/
def paygWorld : World where
  accounts :=
    Table.empty.insert { id := "a", accountId := "ACC-1"
                         sourceCode := "AAAAA" }
  permissions := Table.empty.insert
    { key := ⟨"a", .sms⟩, granted := true
      permissionMeta := some (.obj [("payAsYouGo", .bool true)]) }

theorem paygWorld_pays : PaysAsItGoes paygWorld "a" := ⟨_, rfl, rfl, rfl⟩

def twentyEach : SmsConfig :=
  { defaultSender := "ZOOINFO", rate := .value 20, rateText := "20" }

def fifteenLetters : List Char := "QWERTYUIOPASDFG".toList

/-- The submission of a message to one number, and the turn in which Beem takes
it. -/
def submission (message : String) : Except AppError SmsMessage × World :=
  (send 1 fifteenLetters twentyEach "a" { message
                                          recipients :=
                                            ["0712345678"] }).run paygWorld

def submittedMessage (message : String) : SmsMessage :=
  newMessage 1 "a" { message, recipients := ["0712345678"] } "ZOOINFO"
    ["255712345678"] "AAAAAQWERTYUIOPASDFG"

def taking (message : String) : Except AppError Unit × World :=
  (processSendJob ⟨2, 2, 3⟩ true (some 20)
    (fun _ => ⟨true, .answered 200 (some (.obj [("request_id", .num "7")])) ""⟩)
    "AAAAAQWERTYUIOPASDFG").run (submission message).2

theorem payg_bill_eq_cost_short :
    ∃ bill, (submission "hello").2.bills = paygWorld.bills ++ [bill] ∧
      bill.type = .payAsYouGo ∧
        bill.metadata = some (.sms "AAAAAQWERTYUIOPASDFG" 1 20) ∧
      ∃ final, (taking "hello").2.smsMessages.find? "AAAAAQWERTYUIOPASDFG" =
        some final ∧ ∃ cost, final.cost = some cost ∧
        ((bill.amount : Decimal) = cost ↔
          Charged (20 * (1 : ℕ)) (segments (submittedMessage "hello"))) := by
  have sent : submission "hello" =
    (.ok (submittedMessage "hello"), (submission "hello").2) :=
    Prod.ext (by decide +kernel) rfl
  have taken : taking "hello" = (.ok (), (taking "hello").2) :=
    Prod.ext (by decide +kernel) rfl
  have queued : (submission "hello").2.smsMessages.find?
    "AAAAAQWERTYUIOPASDFG" =
      some (submittedMessage "hello") := by
    decide +kernel
  exact payg_bill_eq_cost_iff rfl paygWorld_pays sent queued ⟨rfl, rfl, rfl⟩
    taken ⟨true, by decide +kernel⟩

/-- A message of 161 characters. -/
def longMessage : String := String.ofList (List.replicate 161 'x')

/-- Two segments to one number: billed 20, and recorded as 40. -/
theorem longMessage_underbilled :
    ∃ bill, (submission longMessage).2.bills = [bill] ∧
      bill.type = .payAsYouGo ∧
      bill.metadata = some (.sms "AAAAAQWERTYUIOPASDFG" 1 20) ∧
      ∃ final, (taking longMessage).2.smsMessages.find? "AAAAAQWERTYUIOPASDFG" =
        some final ∧
      ∃ cost, final.cost = some cost ∧ (bill.amount : Decimal) ≠ cost := by
  have billed : (submission longMessage).2.bills =
      [smsBill 1 "20" 20 "a" 1 "AAAAAQWERTYUIOPASDFG"] := by
    decide +kernel
  have recorded :
    ((taking longMessage).2.smsMessages.find? "AAAAAQWERTYUIOPASDFG").map
      SmsMessage.cost = some (some 40) := by
    decide +kernel
  obtain ⟨final, found, cost⟩ := Option.map_eq_some_iff.mp recorded
  exact ⟨_, billed, rfl, rfl, final, found, 40, cost, by decide +kernel⟩

end CloudStudio.Sms
