import CloudStudio.Payments.Provider
import CloudStudio.Platform.Webhooks
import CloudStudio.Wallets.Model

/-!
# The transaction status engine

`webhooks/txn-status.service.ts`.  Each update reads its row, writes the row and
then moves the wallet, in three separate steps; the write also puts back columns
as they were read.
-/

namespace CloudStudio.Payments

open CloudStudio.Data CloudStudio.Transactions CloudStudio.Platform
open CloudStudio.Wallets

/-- What an update answers. -/
structure Applied where
  handled : Bool
  status : Option TxStatus := none
  deriving DecidableEq

/-- The row `collection.update` writes over `row`, for the row read before. -/
def collectionUpdate (now : Time) (record : ProviderRecord)
    (nextStatus : TxStatus) (fee : Option ComputedFee)
    (collection row : Collection) : Collection :=
  { row with
    status := nextStatus
    providerStatus := record.status.assign row.providerStatus
    providerTxId := record.id.value?.or collection.providerTxId
    paymentReference :=
      record.paymentReference.value?.or collection.paymentReference
    collectedAmount :=
      record.collectedAmount.value?.or collection.collectedAmount
    collectedCurrency :=
      record.collectedCurrency.value?.or collection.collectedCurrency
    feeAmount := (fee.map ComputedFee.feeAmount).or collection.feeAmount
    feeBps := (fee.map ComputedFee.feeBps).or collection.feeBps
    message := record.message.value?.or collection.message
    customer := record.customer.or collection.customer
    walletCreditedAt :=
      if fee.isSome then some now else collection.walletCreditedAt
    updatedAt := now }

theorem collectionUpdate_reference (now : Time) (record : ProviderRecord)
    (nextStatus : TxStatus) (fee : Option ComputedFee)
    (collection row : Collection) :
    (collectionUpdate now record nextStatus fee collection row).reference =
      row.reference := rfl

/-- `collection.update`; the guard it relies on is the row's
`walletCreditedAt`. -/
def updateCollection (now : Time) (record : ProviderRecord)
    (nextStatus : TxStatus) (fee : Option ComputedFee)
    (collection : Collection) : Statement Collection :=
  { collections.update "collection.update" collection.reference
      (collectionUpdate now record nextStatus fee collection)
      (collectionUpdate_reference now record nextStatus fee collection) with
    expects := fun expectation world =>
      match expectation, world.collections.find? collection.reference with
      | .currentGuard, some row => row.walletCreditedAt =
          collection.walletCreditedAt
      | _, _ => true }

/-- The net amount of a collection; the fee stays with the platform. -/
def collectionCredit (collection updated : Collection) (fee : ComputedFee) :
    MoveInput :=
  let gross : Decimal := updated.collectedAmount.getD updated.amount
  let net := gross - fee.feeAmount
  { accountId := collection.accountId
    type := .collection
    txType := .collectionCredit
    amount := .value (Decimal.toFixed 2 net)
    description :=
      s!"Collection received ({collection.reference}, fee {fee.feeAmount.text} TZS @ {fee.feeBps} bps)"
    reference := some collection.reference
    ignoreFrozen := true }

def creditCollection (now : Time) (collection updated : Collection) :
    Option ComputedFee → Db Unit
  | some fee =>
      Program.discard (move now (collectionCredit collection updated fee))
  | none => pure ()

/-- The amount the fee is computed on: the record's, or the row's own amount. -/
def feeBasis (record : ProviderRecord) (collection : Collection) :
    NumberInput :=
  match record.collectedAmount with
  | .given amount => .value amount
  | .missing | .null => .value collection.amount
  | .illTyped => .malformed

/-- The write and what follows it.  `fee` is set when the wallet is to be
credited. -/
def finishCollection (now : Time) (record : ProviderRecord)
    (nextStatus : TxStatus) (fee : Option ComputedFee)
    (collection : Collection) : Db Applied :=
  if ¬ record.FitsPayment then .threw .invalidValue
  else do
    let updated ← Program.perform
      (updateCollection now record nextStatus fee collection)
    creditCollection now collection updated fee
    Program.when (collection.status ∉ FINAL_STATUSES)
      (Program.discard (dispatch now
      ⟨.collectionStatus, collection.accountId, collection.reference,
        .transaction nextStatus⟩))
    pure { handled := true, status := some nextStatus }

/-- Applies a provider record to the collection it names. -/
def applyCollectionUpdate (now : Time) (orderReference : Reference)
    (record : ProviderRecord) : Db Applied := do
  let collection ← Program.perform
    (collections.findUnique "collection.find" orderReference)
  match collection with
  | none => pure { handled := false }
  | some collection =>
      match record.nextStatus? with
      | none => .threw .invalidValue
      | some nextStatus =>
          if collection.status ∈ FINAL_STATUSES ∧ collection.status =
            nextStatus then
            pure { handled := true, status := some nextStatus }
          else if nextStatus = .success ∧
            collection.walletCreditedAt = none then do
            let fee ← computeFee .collection collection.accountId
              (feeBasis record collection)
            finishCollection now record nextStatus (some fee) collection
          else finishCollection now record nextStatus none collection

/-- A pending collection of 10000. -/
def pendingWorld : World where
  accounts :=
    Table.empty.insert { id := "a", accountId := "ACC-1"
                         sourceCode := "AAAAA" }
  wallets := (Table.empty.insert { key := ⟨"a", .collection⟩ }).insert
    { key := ⟨"a", .disbursement⟩ }
  collections := Table.empty.insert
    { accountId := "a", reference := "AAAAA000000000000001"
      amount := Money.round 10000
      phoneNumber := "255712345678", createdAt := 1, updatedAt := 1 }

/-- The row `deposit.update` writes over `row`, for the row read before. -/
def depositUpdate (now : Time) (record : ProviderRecord) (nextStatus : TxStatus)
    (shouldCredit : Bool) (deposit row : Deposit) : Deposit :=
  { row with
    status := nextStatus
    providerStatus := record.status.assign row.providerStatus
    providerTxId := record.id.value?.or deposit.providerTxId
    paymentReference :=
      record.paymentReference.value?.or deposit.paymentReference
    collectedAmount := record.collectedAmount.value?.or deposit.collectedAmount
    collectedCurrency :=
      record.collectedCurrency.value?.or deposit.collectedCurrency
    message := record.message.value?.or deposit.message
    customer := record.customer.or deposit.customer
    walletCreditedAt :=
      if shouldCredit then some now else deposit.walletCreditedAt
    updatedAt := now }

theorem depositUpdate_reference (now : Time) (record : ProviderRecord)
    (nextStatus : TxStatus) (shouldCredit : Bool) (deposit row : Deposit) :
    (depositUpdate now record nextStatus shouldCredit deposit row).reference =
      row.reference := rfl

def updateDeposit (now : Time) (record : ProviderRecord) (nextStatus : TxStatus)
    (shouldCredit : Bool) (deposit : Deposit) : Statement Deposit :=
  { deposits.update "deposit.update" deposit.reference
      (depositUpdate now record nextStatus shouldCredit deposit)
      (depositUpdate_reference now record nextStatus shouldCredit deposit) with
    expects := fun expectation world =>
      match expectation, world.deposits.find? deposit.reference with
      | .currentGuard, some row => row.walletCreditedAt =
          deposit.walletCreditedAt
      | _, _ => true }

/-- The whole amount of a deposit, on the DISBURSEMENT wallet. -/
def depositCredit (deposit updated : Deposit) : MoveInput where
  accountId := deposit.accountId
  type := .disbursement
  txType := .deposit
  amount := .value (updated.collectedAmount.getD updated.amount)
  description := s!"Deposit received ({deposit.reference})"
  reference := some deposit.reference
  ignoreFrozen := true

def finishDeposit (now : Time) (record : ProviderRecord) (nextStatus : TxStatus)
    (shouldCredit : Bool) (deposit : Deposit) : Db Applied :=
  if ¬ record.FitsPayment then .threw .invalidValue
  else do
    let updated ← Program.perform
      (updateDeposit now record nextStatus shouldCredit deposit)
    Program.when shouldCredit
      (Program.discard (move now (depositCredit deposit updated)))
    Program.when (deposit.status ∉ FINAL_STATUSES)
      (Program.discard (dispatch now
      ⟨.depositStatus, deposit.accountId, deposit.reference,
        .transaction nextStatus⟩))
    pure { handled := true, status := some nextStatus }

/-- Mirrors the collection engine; no platform fee is charged on deposits. -/
def applyDepositUpdate (now : Time) (orderReference : Reference)
    (record : ProviderRecord) : Db Applied := do
  let deposit ← Program.perform
    (deposits.findUnique "deposit.find" orderReference)
  match deposit with
  | none => pure { handled := false }
  | some deposit =>
      match record.nextStatus? with
      | none => .threw .invalidValue
      | some nextStatus =>
          if deposit.status ∈ FINAL_STATUSES ∧ deposit.status = nextStatus then
            pure { handled := true, status := some nextStatus }
          else
            finishDeposit now record nextStatus
              (nextStatus = .success ∧ deposit.walletCreditedAt = none) deposit

/-- The status of a batch with these counts of its items. -/
def batchStatusOf (success failed total : ℕ) : BatchStatus :=
  if success + failed = total then
    if success = total then .completed
    else if success = 0 then .failed
    else .partiallyFailed
  else .processing

/-- The statuses of the items of a batch. -/
def itemStatuses (world : World) (batchId : Reference) : List TxStatus :=
  (world.payouts.rows.filter fun payout => payout.batchId = some batchId).map
    Payout.status

/-- The batch row with its counters recomputed from its items. -/
def recounted (now : Time) (statuses : List TxStatus)
    (batch : DisbursementBatch) : DisbursementBatch :=
  let success := statuses.countP fun status => status = .success
  let failed := statuses.countP fun status => status ∈ TERMINAL_FAIL
  { batch with
    successCount := success
    failedCount := failed
    status := batchStatusOf success failed statuses.length
    updatedAt := now }

theorem recounted_reference (now : Time) (statuses : List TxStatus)
    (batch : DisbursementBatch) : (recounted now statuses batch).reference =
      batch.reference := rfl

/-- `batch.update`; the counts it writes were read before. -/
def updateBatch (now : Time) (batchId : Reference) (statuses : List TxStatus) :
    Statement DisbursementBatch :=
  { batches.update "batch.update" batchId (recounted now statuses)
      (recounted_reference now statuses) with
    expects := fun expectation world =>
      match expectation, world.batches.find? batchId with
      | .currentCount, some batch =>
          recounted now statuses batch =
            recounted now (itemStatuses world batchId) batch
      | _, _ => true }

/-- Recomputes batch counters and status from its payout rows. -/
def updateBatchCounters (now : Time) (batchId : Reference) : Db Unit := do
  let statuses ← Program.perform (select "batch.items" fun world =>
    itemStatuses world batchId)
  let batch ← Program.perform (updateBatch now batchId statuses)
  Program.when (batch.status ≠ .processing) (Program.discard (dispatch now
    ⟨.batchStatus, batch.accountId, batch.reference, .batch batch.status⟩))

/-- The row `payout.update` writes over `row`, for the row read before. -/
def payoutUpdate (now : Time) (record : ProviderRecord) (nextStatus : TxStatus)
    (shouldRefund : Bool) (payout row : Payout) : Payout :=
  { row with
    status := nextStatus
    providerStatus := record.status.assign row.providerStatus
    providerTxId := record.id.value?.or payout.providerTxId
    fee := record.fee.value?.or payout.fee
    message := record.message.value?.or payout.message
    refundedAt := if shouldRefund then some now else payout.refundedAt
    updatedAt := now }

theorem payoutUpdate_reference (now : Time) (record : ProviderRecord)
    (nextStatus : TxStatus) (shouldRefund : Bool) (payout row : Payout) :
    (payoutUpdate now record nextStatus shouldRefund payout row).reference =
      row.reference := rfl

def updatePayout (now : Time) (record : ProviderRecord) (nextStatus : TxStatus)
    (shouldRefund : Bool) (payout : Payout) : Statement Payout :=
  { payouts.update "payout.update" payout.reference
      (payoutUpdate now record nextStatus shouldRefund payout)
      (payoutUpdate_reference now record nextStatus shouldRefund payout) with
    expects := fun expectation world =>
      match expectation, world.payouts.find? payout.reference with
      | .currentGuard, some row => row.refundedAt = payout.refundedAt
      | _, _ => true }

/-- What the creation of a payout debited for it. -/
def fullDebit (payout : Payout) : Decimal :=
  match payout.feeAmount with
  | some fee => payout.amount + fee
  | none => payout.amount

/-- A refund returns the full debit to the wallet that funded the payout. -/
def payoutRefund (payout : Payout) : MoveInput where
  accountId := payout.accountId
  type := payout.sourceWallet
  txType := .refund
  amount := .value (Decimal.toFixed 2 (fullDebit payout))
  description := s!"Payout refund ({payout.reference})"
  reference := some payout.reference
  ignoreFrozen := true

/-- The event of a payout update: batch items report under their batch. -/
def payoutNotice (payout : Payout) (nextStatus : TxStatus) : Dispatched :=
  match payout.batchId with
  | some batchId =>
      ⟨.batchStatus, payout.accountId, batchId, .transaction nextStatus⟩
  | none =>
      ⟨.disbursementStatus, payout.accountId, payout.reference,
        .transaction nextStatus⟩

/-- Dispatches the event; for a batch item the batch is looked up for its
payload. -/
def announcePayout (now : Time) (payout : Payout) (nextStatus : TxStatus) :
    Db Unit :=
  match payout.batchId with
  | some batchId => do
      let _ ← Program.perform (batches.findUnique "batch.find" batchId)
      Program.discard (dispatch now (payoutNotice payout nextStatus))
  | none => Program.discard (dispatch now (payoutNotice payout nextStatus))

def recountBatch (now : Time) : Option Reference → Db Unit
  | some batchId => updateBatchCounters now batchId
  | none => pure ()

def finishPayout (now : Time) (record : ProviderRecord) (nextStatus : TxStatus)
    (shouldRefund : Bool) (payout : Payout) : Db Applied :=
  if ¬ record.FitsPayout then .threw .invalidValue
  else do
    let _ ← Program.perform
      (updatePayout now record nextStatus shouldRefund payout)
    Program.when shouldRefund (Program.discard (move now (payoutRefund payout)))
    Program.when (payout.status ∉ FINAL_STATUSES)
      (announcePayout now payout nextStatus)
    recountBatch now payout.batchId
    pure { handled := true, status := some nextStatus }

/-- Applies a provider record to the payout it names. -/
def applyPayoutUpdate (now : Time) (orderReference : Reference)
    (record : ProviderRecord) : Db Applied := do
  let payout ← Program.perform (payouts.findUnique "payout.find" orderReference)
  match payout with
  | none => pure { handled := false }
  | some payout =>
      match record.nextStatus? with
      | none => .threw .invalidValue
      | some nextStatus =>
          if payout.status ∈ FINAL_STATUSES ∧ payout.status = nextStatus then
            pure { handled := true, status := some nextStatus }
          else
            finishPayout now record nextStatus
              (nextStatus ∈ TERMINAL_FAIL ∧ payout.walletDebitedAt.isSome ∧
                payout.refundedAt = none) payout

end CloudStudio.Payments
