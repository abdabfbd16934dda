import CloudStudio.Data.Decimal
import CloudStudio.Data.Table
import CloudStudio.Data.Json

/-!
# Database schema

The tables of `prisma/schema.prisma` that the money paths read or write, with
the columns those paths use.  Row ids are identified with a unique column of the
same row: a wallet with its account and type, a collection, deposit, payout or
batch with its reference.
-/

namespace CloudStudio.Platform

open CloudStudio.Data

abbrev AccountId := String
abbrev Reference := String

/-- Milliseconds since the epoch. -/
abbrev Time := ℕ

inductive AccountStatus where
  | active | suspended
  deriving DecidableEq, Repr

inductive WalletType where
  | collection | disbursement
  deriving DecidableEq, Repr

inductive WalletStatus where
  | active | frozen
  deriving DecidableEq, Repr

inductive WalletTxType where
  | deposit | withdrawal | collectionCredit | payoutDebit | batchHold | refund
  | adjustment | transferOut | transferIn
  deriving DecidableEq, Repr

inductive TxStatus where
  | pending | processing | success | failed | reversed | refunded | expired
  deriving DecidableEq, Repr

inductive PayoutChannel where
  | mobileMoney | bank
  deriving DecidableEq, Repr

/-- `payoutKind`, a string column with these three values. -/
inductive PayoutKind where
  | customer | withdrawal | autoSweep
  deriving DecidableEq, Repr

inductive BatchStatus where
  | pending | processing | completed | partiallyFailed | failed | cancelled
  deriving DecidableEq, Repr

inductive SettlementType where
  | mobile | bank
  deriving DecidableEq, Repr

inductive MobileMethod where
  | airtel | tigo | vodacom | halopesa
  deriving DecidableEq, Repr

inductive WebhookEvent where
  | collectionStatus | disbursementStatus | batchStatus | smsStatus | walletUpdate
  | depositStatus
  deriving DecidableEq, Repr

inductive DeliveryStatus where
  | pending | delivered | failed | dead
  deriving DecidableEq, Repr

inductive JobStatus where
  | pending | processing | completed | failed | dead
  deriving DecidableEq, Repr

inductive ServiceKey where
  | collection | disbursement | sms
  deriving DecidableEq, Repr

inductive SenderType where
  | shared | dedicated
  deriving DecidableEq, Repr

inductive SmsStatus where
  | queued | processing | sent | delivered | failed
  deriving DecidableEq, Repr

inductive BillType where
  | subscription | payAsYouGo | manual
  deriving DecidableEq, Repr

inductive BillStatus where
  | pending | paid | cancelled
  deriving DecidableEq, Repr

/-! ## Rows -/

/-- Basis points.  Both writers of a fee schedule (`AccountsService.create` and
`FeesService.updateConfig`) keep them between 0 and 10000. -/
abbrev Bps := { bps : ℕ // bps ≤ 10000 }

/-- A percentage, a hundred at most. -/
def Bps.percent (value : ℕ) : Bps :=
  ⟨min value 100 * 100, by omega⟩

/-- A decimal text of at most two places that `AMOUNT_PATTERN` accepts. -/
abbrev Amount := { amount : Money // 0 ≤ (amount : Decimal) }

def Amount.shillings (value : ℕ) : Amount :=
  ⟨Money.round value, Decimal.toFixed_nonneg value.cast_nonneg⟩

/-- `accountId` is the public identifier, `id` the internal one. -/
structure Account where
  id : AccountId
  accountId : String
  accountName : String := ""
  sourceCode : String
  status : AccountStatus := .active
  autoSweep : Bool := true
  deriving DecidableEq

/-- The unique index `[accountId, type]` of a wallet. -/
structure WalletKey where
  accountId : AccountId
  type : WalletType
  deriving DecidableEq, Repr

structure Wallet where
  key : WalletKey
  currency : String := "TZS"
  balance : Money := 0
  status : WalletStatus := .active
  deriving DecidableEq

structure WalletTransaction where
  walletId : WalletKey
  type : WalletTxType
  amount : Money
  balanceBefore : Money
  balanceAfter : Money
  currency : String
  reference : Option String
  description : String
  createdBy : Option String
  createdAt : Time
  deriving DecidableEq

structure WalletTransfer where
  accountId : AccountId
  reference : Reference
  clientReference : Option String
  amount : Money
  feeAmount : Money
  feeBps : ℕ
  currency : String
  status : TxStatus
  deriving DecidableEq

structure FeeConfig where
  accountId : AccountId
  collectionBelowBps : Bps := Bps.percent 5
  collectionThreshold : Money := Money.round 3000
  collectionAboveBps : Bps := Bps.percent 2
  disbursementBelowBps : Bps := Bps.percent 5
  disbursementThreshold : Money := Money.round 3000
  disbursementAboveBps : Bps := Bps.percent 2
  transferBps : Bps := Bps.percent 2
  deriving DecidableEq

structure Collection where
  accountId : AccountId
  reference : Reference
  clientReference : Option String := none
  provider : String := "CLICKPESA"
  amount : Money
  currency : String := "TZS"
  phoneNumber : String
  status : TxStatus := .pending
  providerTxId : Option String := none
  providerStatus : Option String := none
  paymentReference : Option String := none
  collectedAmount : Option Decimal := none
  collectedCurrency : Option String := none
  feeAmount : Option Money := none
  feeBps : Option ℕ := none
  message : Option String := none
  failureReason : Option String := none
  customer : Option Json := none
  walletCreditedAt : Option Time := none
  createdAt : Time
  updatedAt : Time

structure Deposit where
  accountId : AccountId
  walletId : WalletKey
  reference : Reference
  clientReference : Option String := none
  provider : String := "CLICKPESA"
  amount : Money
  currency : String := "TZS"
  phoneNumber : String
  status : TxStatus := .pending
  providerTxId : Option String := none
  providerStatus : Option String := none
  paymentReference : Option String := none
  collectedAmount : Option Decimal := none
  collectedCurrency : Option String := none
  message : Option String := none
  failureReason : Option String := none
  customer : Option Json := none
  walletCreditedAt : Option Time := none
  createdAt : Time
  updatedAt : Time

structure DisbursementBatch where
  accountId : AccountId
  name : String
  reference : Reference
  status : BatchStatus := .pending
  totalCount : ℕ
  totalAmount : Money
  successCount : ℕ := 0
  failedCount : ℕ := 0
  createdAt : Time
  updatedAt : Time
  deriving DecidableEq

structure Payout where
  accountId : AccountId
  batchId : Option Reference := none
  channel : PayoutChannel
  reference : Reference
  clientReference : Option String := none
  sourceWallet : WalletType := .disbursement
  payoutKind : PayoutKind := .customer
  amount : Money
  currency : String := "TZS"
  phoneNumber : Option String := none
  accountNumber : Option String := none
  accountName : Option String := none
  bic : Option String := none
  transferType : Option String := none
  status : TxStatus := .pending
  providerTxId : Option String := none
  providerStatus : Option String := none
  fee : Option Decimal := none
  feeAmount : Option Money := none
  feeBps : Option ℕ := none
  message : Option String := none
  walletDebitedAt : Option Time := none
  refundedAt : Option Time := none
  createdAt : Time
  updatedAt : Time
  deriving DecidableEq

/-- The unique index `[accountId, service]` of a permission. -/
structure PermissionKey where
  accountId : AccountId
  service : ServiceKey
  deriving DecidableEq, Repr

structure ServicePermission where
  key : PermissionKey
  granted : Bool := false
  permissionMeta : Option Json := none

/-- `createPayoutLink`, the only writer of an amount, takes no negative one. -/
structure PayoutLink where
  accountId : AccountId
  tokenHash : String
  amount : Amount
  currency : String := "TZS"
  expiresAt : Time
  redeemedAt : Option Time := none
  recipientPhone : Option String := none
  payoutMethod : Option String := none
  beneficiaryName : Option String := none
  payoutId : Option Reference := none
  createdAt : Time
  updatedAt : Time
  deriving DecidableEq

/-- `accountId` is `none` for a sender name shared by all accounts. -/
structure SenderName where
  accountId : Option AccountId
  name : String
  type : SenderType := .dedicated
  isApproved : Bool := true
  deriving DecidableEq

/-- An entry of the `recipients` column. -/
structure SmsRecipient where
  recipientId : ℕ
  destAddr : String
  status : String := "PENDING"
  deriving DecidableEq

/-- `scheduledAt` in ISO form. -/
structure SmsMessage where
  accountId : AccountId
  reference : Reference
  senderName : String
  message : String
  encoding : ℕ := 0
  recipients : List SmsRecipient
  recipientCount : ℕ
  status : SmsStatus := .queued
  providerRequestId : Option String := none
  failureReason : Option String := none
  scheduledAt : Option String := none
  cost : Option Decimal := none
  sentAt : Option Time := none
  deliveredAt : Option Time := none
  createdAt : Time
  updatedAt : Time
  deriving DecidableEq

/-- The `metadata` that the platform itself gives a bill: the plan, or the
message with its recipients and its rate. -/
inductive BillMetadata where
  | plan (planId : String)
  | sms (smsReference : Reference) (recipients : ℕ) (rate : Decimal)
  deriving DecidableEq

structure Bill where
  accountId : AccountId
  type : BillType
  title : String
  description : String := ""
  amount : Money
  currency : String := "TZS"
  isRecurring : Bool := false
  periodDays : Option ℕ := none
  dueDate : Option Time := none
  status : BillStatus := .pending
  issuedBy : Option String := none
  paidAt : Option Time := none
  metadata : Option BillMetadata := none
  createdAt : Time
  deriving DecidableEq

structure Plan where
  id : String
  name : String
  description : Option String := none
  recurringAmount : Money
  periodDays : ℕ := 30
  isActive : Bool := true
  deriving DecidableEq

/-- `accountId` is unique: an account has one plan at a time. -/
structure AccountPlan where
  accountId : AccountId
  planId : String
  recurringAmount : Money
  periodDays : ℕ := 30
  nextBillingDate : Option Time := none
  status : BillStatus := .pending
  deriving DecidableEq

/-- `displayPrefix` is the column `prefix`.  The key itself is never stored. -/
structure ApiKey where
  id : String
  accountId : AccountId
  name : String := "default"
  displayPrefix : String
  keyHash : String
  lastUsedAt : Option Time := none
  revokedAt : Option Time := none
  createdAt : Time
  deriving DecidableEq

structure SettlementAccount where
  id : String
  accountId : AccountId
  type : SettlementType
  method : Option MobileMethod := none
  phoneNumber : Option String := none
  bankName : Option String := none
  bankInitials : Option String := none
  accountNumber : Option String := none
  accountName : Option String := none
  isDefault : Bool := true
  isActive : Bool := true
  createdAt : Time
  updatedAt : Time
  deriving DecidableEq

structure WebhookEndpoint where
  id : String
  accountId : AccountId
  url : String
  events : List WebhookEvent
  isActive : Bool := true
  deriving DecidableEq

structure WebhookDelivery where
  endpointId : String
  event : WebhookEvent
  reference : Reference
  status : DeliveryStatus := .pending
  attempts : ℕ := 0
  nextAttemptAt : Option Time := none
  deriving DecidableEq

/-- The jobs of the queues the money paths use, with their payloads.  A delivery
is named by its position in the deliveries table. -/
inductive JobPayload where
  | payoutProcess (payoutId : Reference)
  | smsSend (smsId : Reference)
  | batchProcess (batchId : Reference) (payoutIds : List Reference)
  | webhookDeliver (deliveryId : ℕ)
  deriving DecidableEq

structure Job where
  payload : JobPayload
  status : JobStatus := .pending
  attempts : ℕ := 0
  maxAttempts : ℕ := 5
  runAt : Time
  deriving DecidableEq

/-- What happened at the payment provider: a create-payout call, whether the
provider executed it and whether the platform got a usable answer; and the
provider itself failing, reversing or refunding a payout.  The platform never
reads this. -/
inductive RailEvent where
  | submission (reference : Reference) (executed accepted : Bool)
  | failure (reference : Reference)
  deriving DecidableEq

/-- A send call at the SMS provider: whether the provider accepted the message,
and whether the platform got an answer that says so. -/
structure SmsSubmission where
  reference : Reference
  accepted : Bool
  answered : Bool
  deriving DecidableEq

/-- The status an outgoing event reports. -/
inductive Notice where
  | transaction (status : TxStatus)
  | batch (status : BatchStatus)
  | sms (status : SmsStatus)
  deriving DecidableEq

/-- One call of the outgoing webhook dispatcher. -/
structure Dispatched where
  event : WebhookEvent
  accountId : AccountId
  reference : Reference
  notice : Notice
  deriving DecidableEq

/-- All tables, in insertion order, and the histories that stand beside them:
what the payment and the SMS provider did, and which events were dispatched. -/
structure World where
  accounts : Table Account.id := .empty
  wallets : Table Wallet.key := .empty
  ledger : List WalletTransaction := []
  transfers : Table WalletTransfer.reference := .empty
  feeConfigs : Table FeeConfig.accountId := .empty
  collections : Table Collection.reference := .empty
  deposits : Table Deposit.reference := .empty
  payouts : Table Payout.reference := .empty
  batches : Table DisbursementBatch.reference := .empty
  settlementAccounts : Table SettlementAccount.id := .empty
  permissions : Table ServicePermission.key := .empty
  payoutLinks : Table PayoutLink.tokenHash := .empty
  senderNames : List SenderName := []
  smsMessages : Table SmsMessage.reference := .empty
  bills : List Bill := []
  plans : Table Plan.id := .empty
  accountPlans : Table AccountPlan.accountId := .empty
  apiKeys : Table ApiKey.id := .empty
  endpoints : Table WebhookEndpoint.id := .empty
  deliveries : List WebhookDelivery := []
  jobs : List Job := []
  rail : List RailEvent := []
  smsRail : List SmsSubmission := []
  dispatched : List Dispatched := []

/-- The sum of the amounts a list of ledger rows has for a wallet. -/
def amountsOn (rows : List WalletTransaction) (wallet : WalletKey) : Decimal :=
  ((rows.filter fun row => row.walletId = wallet).map
    fun row => (row.amount : Decimal)).sum

namespace World

/-- The balance of a wallet; an account without the wallet has nothing in it. -/
def balance (world : World) (wallet : WalletKey) : Decimal :=
  ((world.wallets.find? wallet).map fun row => (row.balance : Decimal)).getD 0

/-- The ledger rows of a wallet, in insertion order. -/
def rowsOf (world : World) (wallet : WalletKey) : List WalletTransaction :=
  world.ledger.filter fun row => row.walletId = wallet

/-- The sum of the amounts of a wallet's ledger rows. -/
def ledgerSum (world : World) (wallet : WalletKey) : Decimal :=
  amountsOn world.ledger wallet

end World

theorem amountsOn_append (first second : List WalletTransaction)
    (wallet : WalletKey) :
    amountsOn (first ++ second) wallet =
      amountsOn first wallet + amountsOn second wallet := by
  simp [amountsOn]

end CloudStudio.Platform
