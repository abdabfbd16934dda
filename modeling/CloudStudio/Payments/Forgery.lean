import CloudStudio.Payments.Receiver
import CloudStudio.Payments.Runs

/-!
# What a forged webhook can change

The receiver skips the verification of a payload without a checksum and applies
it. Such a payload leaves every transaction, wallet and ledger row as it was
exactly when it is harmless: it is refused, it reaches no row, its record is not
written, or it restates the row it reaches.
-/

namespace CloudStudio.Payments

open CloudStudio.Data CloudStudio.Transactions CloudStudio.Platform
open CloudStudio.Wallets

/-- Every collection, deposit, payout, batch, wallet and ledger row is as it
was. -/
structure SameRows (before after : World) : Prop where
  collections : after.collections = before.collections
  deposits : after.deposits = before.deposits
  payouts : after.payouts = before.payouts
  batches : after.batches = before.batches
  wallets : after.wallets = before.wallets
  ledger : after.ledger = before.ledger

theorem SameRows.refl (world : World) : SameRows world world :=
  ⟨rfl, rfl, rfl, rfl, rfl, rfl⟩

/-- The payload carries the checksum of its canonical form under the key. -/
def Signed (hmac : Hmac) (checksumKey : String) (body : Json) : Prop :=
  body.get? "checksum" =
    some (.str (createPayloadChecksum hmac checksumKey body))

/-- The payload carries a checksum, and it is not the expected one. -/
def WronglySigned (hmac : Hmac) (checksumKey : String) (body : Json) : Prop :=
  ∃ provided, (payloadOf body).get? "checksum" = some provided ∧
    provided.truthy = true ∧
    provided.toText ≠ createPayloadChecksum hmac checksumKey (payloadOf body)

/-- The provider's query endpoint has reported the status the payload gives for
its order reference. -/
def ReportedByProvider (reported : Reference → TxStatus → Prop)
    (decimalOf : String → Option Decimal) (body : Json) : Prop :=
  ∃ status, (recordOf decimalOf (dataOf body)).nextStatus? = some status ∧
    reported (orderReferenceOf body) status

/-- A member that is present says what the column holds. -/
def Restated {Value : Type} (member : Wire Value) (column : Option Value) :
    Prop :=
  ∀ value, member = .given value → column = some value

theorem or_eq_iff_restated {Value : Type} {member : Wire Value}
    {column : Option Value} :
    member.value?.or column = column ↔ Restated member column := by
  cases member <;> simp [Wire.value?, Restated, eq_comm]

/-- The same for the provider's status, which `null` clears. -/
def StatusRestated (member : Wire String) (column : Option String) : Prop :=
  Restated member column ∧ (member = .null → column = none)

theorem assign_eq_iff_restated {member : Wire String} {column : Option String} :
    member.assign column = column ↔ StatusRestated member column := by
  cases member <;> simp [Wire.assign, StatusRestated, Restated, eq_comm]

/-- The record says what the collection's row holds, which was last written
now. -/
structure RestatesCollection (now : Time) (record : ProviderRecord)
    (collection : Collection) : Prop where
  status : record.nextStatus? = some collection.status
  undue : ¬ CreditDue collection.status collection.walletCreditedAt
  providerStatus : StatusRestated record.status collection.providerStatus
  id : Restated record.id collection.providerTxId
  paymentReference : Restated record.paymentReference
    collection.paymentReference
  collectedAmount : Restated record.collectedAmount collection.collectedAmount
  collectedCurrency : Restated record.collectedCurrency
    collection.collectedCurrency
  message : Restated record.message collection.message
  customer : ∀ customer, record.customer = some customer →
    collection.customer = some customer
  updatedAt : collection.updatedAt = now

structure RestatesDeposit (now : Time) (record : ProviderRecord)
    (deposit : Deposit) :
    Prop where
  status : record.nextStatus? = some deposit.status
  undue : ¬ CreditDue deposit.status deposit.walletCreditedAt
  providerStatus : StatusRestated record.status deposit.providerStatus
  id : Restated record.id deposit.providerTxId
  paymentReference : Restated record.paymentReference deposit.paymentReference
  collectedAmount : Restated record.collectedAmount deposit.collectedAmount
  collectedCurrency : Restated record.collectedCurrency
    deposit.collectedCurrency
  message : Restated record.message deposit.message
  customer : ∀ customer, record.customer = some customer →
    deposit.customer = some customer
  updatedAt : deposit.updatedAt = now

structure RestatesPayout (now : Time) (record : ProviderRecord)
    (payout : Payout) :
    Prop where
  status : record.nextStatus? = some payout.status
  undue : ¬ RefundDue payout.status payout
  providerStatus : StatusRestated record.status payout.providerStatus
  id : Restated record.id payout.providerTxId
  fee : Restated record.fee payout.fee
  message : Restated record.message payout.message
  updatedAt : payout.updatedAt = now

/-- The counters and the status of a batch are those of its items, and were last
written now. -/
structure InStep (now : Time) (statuses : List TxStatus)
    (batch : DisbursementBatch) :
    Prop where
  success : batch.successCount = statuses.countP fun status => status = .success
  failed : batch.failedCount = statuses.countP fun status =>
    status ∈ TERMINAL_FAIL
  status : batch.status =
    batchStatusOf batch.successCount batch.failedCount statuses.length
  updatedAt : batch.updatedAt = now

/-- The record does not touch a row of this status: its own status or another
member is of the wrong type, or it repeats a final status. -/
def Unwritten (fits : Prop) (record : ProviderRecord) (status : TxStatus) :
    Prop :=
  record.nextStatus? = none ∨ ¬ fits ∨
    status ∈ FINAL_STATUSES ∧ record.nextStatus? = some status

/-- The update of a payout leaves its batch as it is. -/
def BatchInStep (now : Time) (world : World) (payout : Payout) : Prop :=
  ∀ batchId batch, payout.batchId = some batchId →
    world.batches.find? batchId = some batch →
      InStep now (itemStatuses world batchId) batch

/-- The event reaches no row, or the row it reaches is not written or is
restated. -/
def Inert (now : Time) (event : String) (reference : Reference)
    (record : ProviderRecord) (world : World) : Prop :=
  if Text.startsWith event "PAYMENT" then
    match world.collections.find? reference, world.deposits.find? reference with
    | some collection, _ =>
        Unwritten record.FitsPayment record collection.status ∨
          RestatesCollection now record collection
    | none, some deposit =>
        Unwritten record.FitsPayment record deposit.status ∨
          RestatesDeposit now record deposit
    | none, none => True
  else if Text.startsWith event "PAYOUT" then
    match world.payouts.find? reference with
    | some payout =>
        Unwritten record.FitsPayout record payout.status ∨
          RestatesPayout now record payout ∧ BatchInStep now world payout
    | none => True
  else True

/-- A payload that is refused, names no order, or is inert. -/
def Harmless (hmac : Hmac) (decimalOf : String → Option Decimal)
    (checksumKey : String) (now : Time) (body : Json) (world : World) : Prop :=
  WronglySigned hmac checksumKey body ∨ orderReferenceOf body = "" ∨
    Inert now (eventOf body) (orderReferenceOf body)
      (recordOf decimalOf (dataOf body)) world

/-! ## Each update -/

theorem customer_or_eq_iff {given column : Option Json} :
    given.or column = column ↔ ∀ customer, given = some customer →
      column = some customer := by
  cases given <;> simp [eq_comm]

theorem collectionUpdate_eq_self_iff {now : Time} {record : ProviderRecord}
    {nextStatus : TxStatus} {collection : Collection}
    (mapped : record.nextStatus? = some nextStatus)
    (undue : ¬ CreditDue nextStatus collection.walletCreditedAt) :
    collectionUpdate now record nextStatus none collection collection =
      collection ↔ RestatesCollection now record collection := by
  constructor
  · intro same
    have status : nextStatus = collection.status :=
      congrArg Collection.status same
    subst status
    exact
      { status := mapped
        undue
        providerStatus :=
          assign_eq_iff_restated.mp (congrArg Collection.providerStatus same)
        id := or_eq_iff_restated.mp (congrArg Collection.providerTxId same)
        paymentReference :=
          or_eq_iff_restated.mp (congrArg Collection.paymentReference same)
        collectedAmount :=
          or_eq_iff_restated.mp (congrArg Collection.collectedAmount same)
        collectedCurrency :=
          or_eq_iff_restated.mp (congrArg Collection.collectedCurrency same)
        message := or_eq_iff_restated.mp (congrArg Collection.message same)
        customer := customer_or_eq_iff.mp (congrArg Collection.customer same)
        updatedAt := (congrArg Collection.updatedAt same).symm }
  · intro restates
    have status := Option.some.inj (mapped.symm.trans restates.status)
    rw [collectionUpdate, status,
      assign_eq_iff_restated.mpr restates.providerStatus,
      or_eq_iff_restated.mpr restates.id,
        or_eq_iff_restated.mpr restates.paymentReference,
      or_eq_iff_restated.mpr restates.collectedAmount,
      or_eq_iff_restated.mpr restates.collectedCurrency,
      or_eq_iff_restated.mpr restates.message,
        customer_or_eq_iff.mpr restates.customer,
      ← restates.updatedAt]
    rfl

theorem depositUpdate_eq_self_iff {now : Time} {record : ProviderRecord}
    {nextStatus : TxStatus} {deposit : Deposit}
    (mapped : record.nextStatus? = some nextStatus)
    (undue : ¬ CreditDue nextStatus deposit.walletCreditedAt) :
    depositUpdate now record nextStatus false deposit deposit = deposit ↔
      RestatesDeposit now record deposit := by
  constructor
  · intro same
    have status : nextStatus = deposit.status := congrArg Deposit.status same
    subst status
    exact
      { status := mapped
        undue
        providerStatus :=
          assign_eq_iff_restated.mp (congrArg Deposit.providerStatus same)
        id := or_eq_iff_restated.mp (congrArg Deposit.providerTxId same)
        paymentReference :=
          or_eq_iff_restated.mp (congrArg Deposit.paymentReference same)
        collectedAmount :=
          or_eq_iff_restated.mp (congrArg Deposit.collectedAmount same)
        collectedCurrency :=
          or_eq_iff_restated.mp (congrArg Deposit.collectedCurrency same)
        message := or_eq_iff_restated.mp (congrArg Deposit.message same)
        customer := customer_or_eq_iff.mp (congrArg Deposit.customer same)
        updatedAt := (congrArg Deposit.updatedAt same).symm }
  · intro restates
    have status := Option.some.inj (mapped.symm.trans restates.status)
    rw [depositUpdate, status,
      assign_eq_iff_restated.mpr restates.providerStatus,
      or_eq_iff_restated.mpr restates.id,
        or_eq_iff_restated.mpr restates.paymentReference,
      or_eq_iff_restated.mpr restates.collectedAmount,
      or_eq_iff_restated.mpr restates.collectedCurrency,
      or_eq_iff_restated.mpr restates.message,
        customer_or_eq_iff.mpr restates.customer,
      ← restates.updatedAt]
    rfl

theorem payoutUpdate_eq_self_iff {now : Time} {record : ProviderRecord}
    {nextStatus : TxStatus} {payout : Payout}
    (mapped : record.nextStatus? = some nextStatus)
    (undue : ¬ RefundDue nextStatus payout) :
    payoutUpdate now record nextStatus false payout payout = payout ↔
      RestatesPayout now record payout := by
  constructor
  · intro same
    have status : nextStatus = payout.status := congrArg Payout.status same
    subst status
    exact
      { status := mapped
        undue
        providerStatus :=
          assign_eq_iff_restated.mp (congrArg Payout.providerStatus same)
        id := or_eq_iff_restated.mp (congrArg Payout.providerTxId same)
        fee := or_eq_iff_restated.mp (congrArg Payout.fee same)
        message := or_eq_iff_restated.mp (congrArg Payout.message same)
        updatedAt := (congrArg Payout.updatedAt same).symm }
  · intro restates
    have status := Option.some.inj (mapped.symm.trans restates.status)
    rw [payoutUpdate, status,
      assign_eq_iff_restated.mpr restates.providerStatus,
      or_eq_iff_restated.mpr restates.id, or_eq_iff_restated.mpr restates.fee,
      or_eq_iff_restated.mpr restates.message, ← restates.updatedAt]
    rfl

theorem recounted_eq_self_iff {now : Time} {statuses : List TxStatus}
    {batch : DisbursementBatch} :
    recounted now statuses batch = batch ↔ InStep now statuses batch := by
  constructor
  · intro same
    have success := congrArg DisbursementBatch.successCount same
    have failed := congrArg DisbursementBatch.failedCount same
    have status := congrArg DisbursementBatch.status same
    simp only [recounted] at success failed status
    refine ⟨success.symm, failed.symm, ?_,
      (congrArg DisbursementBatch.updatedAt same).symm⟩
    rw [← success, ← failed]
    exact status.symm
  · intro inStep
    rw [recounted, ← inStep.success, ← inStep.failed, ← inStep.status, ← inStep.updatedAt]

/-- A row that is written is neither refused nor already final. -/
theorem not_unwritten {fits : Prop} {record : ProviderRecord}
    {status nextStatus : TxStatus}
    (mapped : record.nextStatus? = some nextStatus)
    (changes : ¬ (status ∈ FINAL_STATUSES ∧ status = nextStatus))
    (writable : fits) : ¬ Unwritten fits record status := by
  rintro (unreadable | unfit | ⟨isFinal, same⟩)
  · rw [mapped] at unreadable
    cases unreadable
  · exact unfit writable
  · rw [mapped] at same
    exact changes ⟨isFinal, (Option.some.inj same).symm⟩

/-- Crediting a collection sets its `walletCreditedAt`. -/
theorem credit_changes (now : Time) (record : ProviderRecord)
    (nextStatus : TxStatus) (fee : ComputedFee) {world : World}
    {collection : Collection}
    (found : world.collections.find? collection.reference = some collection)
    (uncredited : collection.walletCreditedAt = none) :
    (withCollection now record nextStatus (some fee) collection
      (world.withConfig collection.accountId)).collections ≠
        world.collections := by
  intro same
  simp only [withCollection, (withConfig_rest world _).2.2] at same
  rw [Table.modify_eq_self_iff found] at same
  have credited := congrArg Collection.walletCreditedAt same
  simp [collectionUpdate, uncredited] at credited

/-- A record that makes a credit due does not restate the row. -/
theorem not_restates_of_creditDue {now : Time} {record : ProviderRecord}
    {nextStatus : TxStatus} {collection : Collection}
    (mapped : record.nextStatus? = some nextStatus)
    (due : CreditDue nextStatus collection.walletCreditedAt) :
    ¬ RestatesCollection now record collection := by
  intro restates
  have status := Option.some.inj (mapped.symm.trans restates.status)
  exact restates.undue (status ▸ due)

theorem collection_unharmed_iff (now : Time) {reference : Reference}
    (record : ProviderRecord) {world : World} {collection : Collection}
    (found : world.collections.find? reference = some collection) :
    SameRows world ((applyCollectionUpdate now reference record).run world).2 ↔
      Unwritten record.FitsPayment record collection.status ∨
        RestatesCollection now record collection := by
  have runs := run_applyCollectionUpdate now reference record world
  generalize ((applyCollectionUpdate now reference record).run world).1 =
    result at runs
  generalize ((applyCollectionUpdate now reference record).run world).2 =
    after at runs ⊢
  have key := Table.key_of_find? found
  cases runs with
  | unknown absent => simp [absent] at found
  | unreadable other _ unreadable =>
      exact iff_of_true (.refl world) (.inl (.inl unreadable))
  | unchanged other nextStatus at_key mapped isFinal same =>
      cases found.symm.trans at_key
      exact iff_of_true (.refl world)
        (.inl (.inr (.inr ⟨isFinal, same ▸ mapped⟩)))
  | refused other nextStatus left at_key mapped changes unfit either =>
      refine iff_of_true ?_ (.inl (.inr (.inl unfit)))
      rcases either with rfl | rfl
      · exact .refl _
      · unfold World.withConfig
        split <;> exact ⟨rfl, rfl, rfl, rfl, rfl, rfl⟩
  | written other nextStatus after at_key mapped changes fits undue noticed =>
      cases found.symm.trans at_key
      obtain ⟨deliveries, jobs, rfl⟩ := noticed
      have rows :
        SameRows world (withCollection now record nextStatus none
        collection world) ↔
          collectionUpdate now record nextStatus none collection collection =
            collection := by
        rw [← Table.modify_eq_self_iff (key ▸ found)
          (collectionUpdate_reference now record nextStatus none collection)]
        exact ⟨SameRows.collections, fun same =>
          ⟨same, rfl, rfl, rfl, rfl, rfl⟩⟩
      rw [or_iff_right (not_unwritten mapped changes fits),
        ← collectionUpdate_eq_self_iff mapped undue, ← rows]
      exact ⟨fun same => ⟨same.1, rfl, rfl, rfl, rfl, rfl⟩,
        fun same => ⟨same.1, rfl, rfl, rfl, rfl, rfl⟩⟩
  | credited other nextStatus basis fee wallet amount after at_key mapped
      changes fits due basis_eq fee_eq allowed noticed =>
      cases found.symm.trans at_key
      obtain ⟨deliveries, jobs, rfl⟩ := noticed
      refine iff_of_false (fun same => ?_)
        (not_or.mpr ⟨not_unwritten mapped changes fits,
        not_restates_of_creditDue mapped due⟩)
      exact credit_changes now record nextStatus fee (key ▸ found) due.2
        same.collections
  | uncredited other nextStatus basis fee error at_key mapped changes
      fits due basis_eq fee_eq refused =>
      cases found.symm.trans at_key
      refine iff_of_false (fun same => ?_)
        (not_or.mpr ⟨not_unwritten mapped changes fits,
        not_restates_of_creditDue mapped due⟩)
      exact credit_changes now record nextStatus fee (key ▸ found) due.2
        same.collections

theorem deposit_unharmed_iff (now : Time) {reference : Reference}
    (record : ProviderRecord) {world : World} {deposit : Deposit}
    (found : world.deposits.find? reference = some deposit) :
    SameRows world ((applyDepositUpdate now reference record).run world).2 ↔
      Unwritten record.FitsPayment record deposit.status ∨
        RestatesDeposit now record deposit := by
  have runs := run_applyDepositUpdate now reference record world
  generalize ((applyDepositUpdate now reference record).run world).1 =
    result at runs
  generalize ((applyDepositUpdate now reference record).run world).2 =
    after at runs ⊢
  have at_row := found
  rw [← show deposit.reference = reference from
    Table.key_of_find? found] at at_row
  have credited_changes (nextStatus : TxStatus)
    (uncredited : deposit.walletCreditedAt = none) :
      (withDeposit now record nextStatus true deposit world).deposits ≠
        world.deposits := by
    intro same
    simp only [withDeposit] at same
    rw [Table.modify_eq_self_iff at_row] at same
    have credited := congrArg Deposit.walletCreditedAt same
    simp [depositUpdate, uncredited] at credited
  have not_restates {nextStatus : TxStatus}
    (mapped : record.nextStatus? = some nextStatus)
      (due : CreditDue nextStatus deposit.walletCreditedAt) :
      ¬ RestatesDeposit now record deposit := by
    intro restates
    have status := Option.some.inj (mapped.symm.trans restates.status)
    exact restates.undue (status ▸ due)
  cases runs with
  | unknown absent => simp [absent] at found
  | unreadable other _ unreadable =>
      exact iff_of_true (.refl world) (.inl (.inl unreadable))
  | unchanged other nextStatus at_key mapped isFinal same =>
      cases found.symm.trans at_key
      exact iff_of_true (.refl world)
        (.inl (.inr (.inr ⟨isFinal, same ▸ mapped⟩)))
  | refused other nextStatus at_key mapped changes unfit =>
      exact iff_of_true (.refl world) (.inl (.inr (.inl unfit)))
  | written other nextStatus after at_key mapped changes fits undue noticed =>
      cases found.symm.trans at_key
      obtain ⟨deliveries, jobs, rfl⟩ := noticed
      rw [or_iff_right (not_unwritten mapped changes fits),
        ← depositUpdate_eq_self_iff mapped undue, ← Table.modify_eq_self_iff
          at_row (depositUpdate_reference now record nextStatus false deposit)]
      exact ⟨SameRows.deposits, fun same => ⟨rfl, same, rfl, rfl, rfl, rfl⟩⟩
  | credited other nextStatus wallet amount after at_key mapped changes
      fits due allowed noticed =>
      cases found.symm.trans at_key
      obtain ⟨deliveries, jobs, rfl⟩ := noticed
      refine iff_of_false (fun same => ?_)
        (not_or.mpr ⟨not_unwritten mapped changes fits,
        not_restates mapped due⟩)
      exact credited_changes nextStatus due.2 same.deposits
  | uncredited other nextStatus error at_key mapped changes fits due refused =>
      cases found.symm.trans at_key
      refine iff_of_false (fun same => ?_)
        (not_or.mpr ⟨not_unwritten mapped changes fits,
        not_restates mapped due⟩)
      exact credited_changes nextStatus due.2 same.deposits

/-- A refund sets the payout's `refundedAt`. -/
theorem refund_changes (now : Time) (record : ProviderRecord)
    (nextStatus : TxStatus) {world : World} {payout : Payout}
    (found : world.payouts.find? payout.reference = some payout)
    (unrefunded : payout.refundedAt = none) :
    (withPayout now record nextStatus true payout world).payouts ≠
      world.payouts := by
  intro same
  simp only [withPayout] at same
  rw [Table.modify_eq_self_iff found] at same
  have refunded := congrArg Payout.refundedAt same
  simp [payoutUpdate, unrefunded] at refunded

theorem not_restates_of_refundDue {now : Time} {record : ProviderRecord}
    {nextStatus : TxStatus} {payout : Payout}
    (mapped : record.nextStatus? = some nextStatus)
    (due : RefundDue nextStatus payout) :
    ¬ RestatesPayout now record payout := by
  intro restates
  have status := Option.some.inj (mapped.symm.trans restates.status)
  exact restates.undue (status ▸ due)

/-- The recount leaves the batches alone just when the payout's batch is in
step. -/
theorem withRecount_batches_iff (now : Time) (payout : Payout) (world : World) :
    (withRecount now payout.batchId world).batches = world.batches ↔
      BatchInStep now world payout := by
  unfold BatchInStep withRecount
  cases payout.batchId with
  | none => simp
  | some batchId =>
      dsimp only
      cases found : world.batches.find? batchId with
      | none =>
          rw [Table.modify_absent found]
          refine iff_of_true rfl fun other batch same at_key => ?_
          cases same
          simp [found] at at_key
      | some batch =>
          rw [Table.modify_eq_self_iff found, recounted_eq_self_iff]
          constructor
          · intro inStep other row same at_key
            cases same
            cases found.symm.trans at_key
            exact inStep
          · exact fun inStep => inStep batchId batch rfl found

/-- The recount touches batches only. -/
theorem sameRows_withRecount_iff (now : Time) (batchId : Option Reference)
    {world settled : World} (batches : settled.batches = world.batches) :
    SameRows world (withRecount now batchId settled) ↔
      SameRows world settled ∧
        (withRecount now batchId settled).batches = settled.batches := by
  rw [batches]
  unfold withRecount
  cases batchId with
  | none => simp [batches]
  | some batchId =>
      exact ⟨fun same =>
        ⟨⟨same.1, same.2, same.3, batches, same.5, same.6⟩, same.4⟩,
        fun ⟨same, recounted⟩ =>
          ⟨same.1, same.2, same.3, recounted, same.5, same.6⟩⟩

/-- Notices are none of the rows. -/
theorem Noticed.sameRows_iff {notices : List Dispatched}
    {world before after : World} (noticed : Noticed notices before after) :
    SameRows world after ↔ SameRows world before := by
  obtain ⟨deliveries, jobs, rfl⟩ := noticed
  exact ⟨fun same => ⟨same.1, same.2, same.3, same.4, same.5, same.6⟩,
    fun same => ⟨same.1, same.2, same.3, same.4, same.5, same.6⟩⟩

/-- The write and the refund of a payout leave the rows as they were just when
the record restates the payout. -/
theorem Settled.sameRows_iff {now : Time} {record : ProviderRecord}
    {nextStatus : TxStatus} {payout : Payout} {world settled : World}
    (settles : Settled now record nextStatus payout world settled)
    (found : world.payouts.find? payout.reference = some payout)
    (mapped : record.nextStatus? = some nextStatus) :
    SameRows world settled ↔ RestatesPayout now record payout := by
  cases settles with
  | kept undue =>
      rw [← payoutUpdate_eq_self_iff mapped undue, ← Table.modify_eq_self_iff
        found (payoutUpdate_reference now record nextStatus false payout)]
      exact ⟨SameRows.payouts, fun same => ⟨rfl, rfl, same, rfl, rfl, rfl⟩⟩
  | refunded wallet amount due allowed =>
      exact iff_of_false
        (fun same => refund_changes now record nextStatus found
          due.2.2 same.payouts)
        (not_restates_of_refundDue mapped due)

theorem payout_unharmed_iff (now : Time) {reference : Reference}
    (record : ProviderRecord) {world : World} {payout : Payout}
    (found : world.payouts.find? reference = some payout) :
    SameRows world ((applyPayoutUpdate now reference record).run world).2 ↔
      Unwritten record.FitsPayout record payout.status ∨
        RestatesPayout now record payout ∧ BatchInStep now world payout := by
  have runs := run_applyPayoutUpdate now reference record world
  generalize ((applyPayoutUpdate now reference record).run world).1 =
    result at runs
  generalize ((applyPayoutUpdate now reference record).run world).2 =
    after at runs ⊢
  have at_row := found
  rw [← show payout.reference = reference from
    Table.key_of_find? found] at at_row
  cases runs with
  | unknown absent => simp [absent] at found
  | unreadable other _ unreadable =>
      exact iff_of_true (.refl world) (.inl (.inl unreadable))
  | unchanged other nextStatus at_key mapped isFinal same =>
      cases found.symm.trans at_key
      exact iff_of_true (.refl world)
        (.inl (.inr (.inr ⟨isFinal, same ▸ mapped⟩)))
  | refused other nextStatus at_key mapped changes unfit =>
      exact iff_of_true (.refl world) (.inl (.inr (.inl unfit)))
  | unrefunded other nextStatus error at_key mapped changes fits due refused =>
      cases found.symm.trans at_key
      rw [or_iff_right (not_unwritten mapped changes fits)]
      exact iff_of_false
        (fun same => refund_changes now record nextStatus at_row
          due.2.2 same.payouts)
        fun restates => not_restates_of_refundDue mapped due restates.1
  | uncounted other nextStatus settled after batchId at_key mapped changes
      fits settles batch absent noticed =>
      cases found.symm.trans at_key
      have inStep : BatchInStep now world payout := by
        intro other row same at_batch
        cases batch.symm.trans same
        simp [absent] at at_batch
      rw [or_iff_right (not_unwritten mapped changes fits),
        noticed.sameRows_iff,
        settles.sameRows_iff at_row mapped, and_iff_left inStep]
  | finished other nextStatus settled after recounts at_key mapped
      changes fits settles single noticed =>
      cases found.symm.trans at_key
      rw [or_iff_right (not_unwritten mapped changes fits),
        noticed.sameRows_iff,
        sameRows_withRecount_iff now payout.batchId settles.batches,
        ← settles.sameRows_iff at_row mapped, withRecount_batches_iff]
      refine and_congr_right fun same => ?_
      simp only [BatchInStep, itemStatuses, same.payouts, same.batches]

/-- An update that reaches no row leaves the state alone. -/
theorem run_applyCollectionUpdate_unknown (now : Time) {reference : Reference}
    (record : ProviderRecord) {world : World}
    (absent : world.collections.find? reference = none) :
    (applyCollectionUpdate now reference record).run world =
      (.ok { handled := false }, world) := by
  simp only [applyCollectionUpdate, Program.bind_perform, Program.run_query,
    Relation.findUnique, select, Platform.collections, absent]
  rfl

theorem run_applyDepositUpdate_unknown (now : Time) {reference : Reference}
    (record : ProviderRecord) {world : World}
    (absent : world.deposits.find? reference = none) :
    (applyDepositUpdate now reference record).run world =
      (.ok { handled := false }, world) := by
  simp only [applyDepositUpdate, Program.bind_perform, Program.run_query,
    Relation.findUnique, select, Platform.deposits, absent]
  rfl

theorem run_applyPayoutUpdate_unknown (now : Time) {reference : Reference}
    (record : ProviderRecord) {world : World}
    (absent : world.payouts.find? reference = none) :
    (applyPayoutUpdate now reference record).run world =
      (.ok { handled := false }, world) := by
  simp only [applyPayoutUpdate, Program.bind_perform, Program.run_query,
    Relation.findUnique, select, Platform.payouts, absent]
  rfl

/-- An update that reaches a row and succeeds reports that it handled the
record. -/
theorem handled_of_found (now : Time) {reference : Reference}
    (record : ProviderRecord) {world : World} {collection : Collection}
    (found : world.collections.find? reference = some collection)
    {applied : Applied}
    (ran : ((applyCollectionUpdate now reference record).run world).1 =
      .ok applied) : applied.handled = true := by
  have runs := run_applyCollectionUpdate now reference record world
  rw [ran] at runs
  generalize ((applyCollectionUpdate now reference record).run world).2 =
    after at runs
  cases runs with
  | unknown absent => simp [absent] at found
  | unchanged => rfl
  | written => rfl
  | credited => rfl

/-- The deposit is only tried when no collection has the reference. -/
theorem snd_run_route_payment (now : Time) {event : String}
    (reference : Reference) (record : ProviderRecord) (world : World)
    (payment : Text.startsWith event "PAYMENT" = true) :
    ((route now event reference record).run world).2 =
      if world.collections.find? reference = none then
        ((applyDepositUpdate now reference record).run world).2
      else ((applyCollectionUpdate now reference record).run world).2 := by
  simp only [route, payment, if_true, Program.run_bind]
  cases found : world.collections.find? reference with
  | none =>
      simp only [run_applyCollectionUpdate_unknown now record found,
        Program.when_true, Program.snd_run_discard, if_true]
  | some collection =>
      have handled (applied : Applied) :
          ((applyCollectionUpdate now reference record).run world).1 =
            .ok applied →
            applied.handled = true := handled_of_found now record found
      revert handled
      rcases (applyCollectionUpdate now reference record).run world with
        ⟨error | applied, after⟩
      · exact fun _ => rfl
      · intro handled
        simp only [handled applied rfl, Bool.true_eq_false, Program.when_false,
          Program.run_returned, reduceCtorEq, if_false]

theorem route_unharmed_iff (now : Time) (event : String) (reference : Reference)
    (record : ProviderRecord) (world : World) :
    SameRows world ((route now event reference record).run world).2 ↔
      Inert now event reference record world := by
  unfold Inert
  split
  · rename_i payment
    rw [snd_run_route_payment now reference record world payment]
    cases found : world.collections.find? reference with
    | some collection => exact collection_unharmed_iff now record found
    | none =>
        cases paid : world.deposits.find? reference with
        | some deposit => exact deposit_unharmed_iff now record paid
        | none =>
            rw [if_pos rfl, run_applyDepositUpdate_unknown now record paid]
            exact iff_of_true (.refl world) trivial
  · rename_i notPayment
    split
    · rename_i payout
      simp only [route, if_neg notPayment, if_pos payout,
        Program.snd_run_discard]
      cases found : world.payouts.find? reference with
      | some row => exact payout_unharmed_iff now record found
      | none =>
          rw [run_applyPayoutUpdate_unknown now record found]
          exact iff_of_true (.refl world) trivial
    · rename_i notPayout
      simp only [route, if_neg notPayment, if_neg notPayout]
      exact iff_of_true (.refl world) trivial

/-- The verification fails just on a payload that carries a wrong checksum. -/
theorem verify_eq_false_iff (hmac : Hmac) {checksumKey : String}
    (configured : checksumKey ≠ "") (body : Json) :
    verifyClickPesaWebhook hmac (some checksumKey) (payloadOf body) = false ↔
      WronglySigned hmac checksumKey body := by
  simp only [verifyClickPesaWebhook, configured, if_false, WronglySigned]
  cases (payloadOf body).get? "checksum" with
  | none => simp
  | some provided =>
      by_cases truthy : provided.truthy = true
      · simp [truthy]
      · simp [truthy]

/-- Without faith in the payload the receiver still applies it, unless it is
harmless. -/
theorem clickpesa_unharmed_iff (hmac : Hmac)
    (decimalOf : String → Option Decimal) {checksumKey : String}
    (configured : checksumKey ≠ "") (now : Time) (body : Json) (world : World) :
    SameRows world ((clickpesa hmac decimalOf (some checksumKey) now body).run
      world).2 ↔ Harmless hmac decimalOf checksumKey now body world := by
  unfold clickpesa Harmless
  rw [← verify_eq_false_iff hmac configured body]
  split
  · rename_i refused
    exact iff_of_true (.refl world) (.inl (Bool.not_eq_true _ ▸ refused))
  rename_i verified
  rw [not_not] at verified
  rw [or_iff_right (by simp [verified])]
  split
  · rename_i unnamed
    exact iff_of_true (.refl world) (.inl unnamed)
  rename_i named
  rw [or_iff_right named, ← route_unharmed_iff, Program.run_catching]
  rcases (route now (eventOf body) (orderReferenceOf body)
    (recordOf decimalOf (dataOf body))).run world with ⟨_ | _, after⟩
      <;> exact Iff.rfl

/-- A body without the checksum of its canonical form, about a status the
provider has not reported, leaves the rows as they were exactly when it is
harmless. -/
theorem unsigned_unharmed_iff (hmac : Hmac)
    (decimalOf : String → Option Decimal)
    (reported : Reference → TxStatus → Prop) (checksumKey : String)
    (configured : checksumKey ≠ "") (now : Time) (body : Json) (world : World) :
    (¬ Signed hmac checksumKey body →
      ¬ ReportedByProvider reported decimalOf body → SameRows world
        ((clickpesa hmac decimalOf (some checksumKey) now body).run world).2) ↔
      Signed hmac checksumKey body ∨
        ReportedByProvider reported decimalOf body ∨
        Harmless hmac decimalOf checksumKey now body world := by
  rw [clickpesa_unharmed_iff hmac decimalOf configured]
  simp only [or_iff_not_imp_left]

/-- A payload without a checksum that names no order. -/
def unnamedBody : Json :=
  .obj [("event", .str "PAYMENT RECEIVED"),
    ("data", .obj [("status", .str "SUCCESS")])]

/-- The same payload with the reference of a pending collection. -/
def forgedBody : Json :=
  .obj [("event", .str "PAYMENT RECEIVED"),
    ("data", .obj [("orderReference", .str "AAAAA000000000000001"),
      ("status", .str "SUCCESS")])]

theorem unsigned_unharmed_iff_unnamed :
    SameRows pendingWorld
      ((clickpesa (fun key text => key ++ text) (fun _ => none) (some "secret")
        2 unnamedBody).run pendingWorld).2 :=
  (unsigned_unharmed_iff (fun key text => key ++ text) (fun _ => none)
    (fun _ _ => False) "secret" (by decide) 2 unnamedBody pendingWorld).mpr
    (.inr (.inr (.inr (.inl (by decide +kernel))))) nofun
      fun ⟨_, _, never⟩ => never

/-- A payload without a checksum credits the collection it names, although the
provider has never reported a success. -/
theorem forged_success_credits :
    ¬ (¬ Signed (fun key text => key ++ text) "secret" forgedBody →
      ¬ ReportedByProvider (fun _ _ => False) (fun _ => none) forgedBody →
      SameRows pendingWorld
        ((clickpesa (fun key text => key ++ text) (fun _ => none)
          (some "secret") 2 forgedBody).run pendingWorld).2) := by
  intro unharmed
  have same := (unharmed nofun fun ⟨_, _, never⟩ => never).ledger
  have credited :
    ((clickpesa (fun key text => key ++ text) (fun _ => none) (some "secret") 2
      forgedBody).run pendingWorld).2.ledger.map
        (fun row => (row.amount : Decimal)) = [9800] := by
    decide +kernel
  rw [same] at credited
  cases credited

end CloudStudio.Payments
