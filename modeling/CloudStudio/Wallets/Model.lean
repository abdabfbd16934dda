import CloudStudio.Platform.Fees
import CloudStudio.Platform.Reference

/-!
# The wallet service

`wallets/wallets.service.ts`: the ledger mutation `move`, the two-leg
`transferCollectionToDisbursement`, `setFrozen` and `ledgerIntegrity`.  Each
Prisma call is one statement; the two mutations run them in a transaction that
asks for no isolation level.
-/

namespace CloudStudio.Wallets

open CloudStudio.Data CloudStudio.Transactions CloudStudio.Platform

def walletName : WalletType → String
  | .collection => "COLLECTION"
  | .disbursement => "DISBURSEMENT"

abbrev walletFrozen (type : WalletType) : AppError :=
  .forbidden .walletFrozen (walletName type ++ " wallet is frozen")

abbrev walletNotFound (message : String) : AppError :=
  .missing .walletNotFound message

abbrev insufficientFunds (message : String) : AppError :=
  .forbidden .insufficientFunds message

/-- The statement that re-checks the floor: `updateMany` with
`balance >= delta`, which then takes `delta` off the balance. -/
def decrementBalance (site : Site) (wallet : WalletKey) (delta : Decimal) :
    Statement ℕ where
  label := site
  answer := fun world =>
    match world.wallets.find? wallet with
    | some row => .ok (if delta ≤ row.balance then 1 else 0)
    | none => .ok 0
  effect := fun met world =>
    match met.wallets.find? wallet with
    | some row =>
        if delta ≤ row.balance then
          { world with
            wallets := world.wallets.modify wallet
              (fun row =>
                { row with balance := Money.round (row.balance - delta) })
              fun _ => rfl }
        else world
    | none => world
  locks := fun world =>
    match world.wallets.find? wallet with
    | some row => if delta ≤ row.balance then [.wallet wallet] else []
    | none => []
  expects := fun expectation world =>
    match expectation, world.wallets.find? wallet with
    | .exactColumn, some row => delta ≤ row.balance →
        (Money.round (row.balance - delta) : Decimal) =
          row.balance + Money.round (-delta)
    | _, _ => true

/-- `balance: { increment: delta }`. -/
def incrementBalance (site : Site) (wallet : WalletKey) (delta : Decimal) :
    Statement Wallet :=
  { wallets.update site wallet
      (fun row => { row with balance := Money.round (row.balance + delta) })
      fun _ => rfl with
    expects := fun expectation world =>
      match expectation, world.wallets.find? wallet with
      | .exactColumn, some row =>
          (Money.round (row.balance + delta) : Decimal) =
            row.balance + Money.round delta
      | _, _ => true }

/-- `data: { balance: after }`, where `after` was computed as `before + delta`
from an earlier read. -/
def overwriteBalance (site : Site) (wallet : WalletKey) (before : Money)
    (delta : Decimal) : Statement Wallet :=
  { wallets.update site wallet
      (fun row => { row with balance := Money.round (before + delta) })
      fun _ => rfl with
    expects := fun expectation world =>
      match expectation, world.wallets.find? wallet with
      | .overwrittenBalance, some row => row.balance = before
      | .exactColumn, _ =>
          (Money.round (before + delta) : Decimal) = before + Money.round delta
      | _, _ => true }

/-- A balance update that rests on an earlier read of the wallet: on its balance
and, unless freezes are ignored, on its status. -/
def restingOn {Answer : Type} (read : Wallet) (ignoreFrozen : Bool)
    (statement : Statement Answer) : Statement Answer :=
  { statement with
    expects := fun expectation world =>
      match expectation, world.wallets.find? read.key with
      | .currentBalance, some row => row.balance = read.balance
      | .currentStatus, some row => ignoreFrozen ∨ row.status = read.status
      | _, _ => statement.expects expectation world }

/-- Accepts the public accountId or the internal row id. -/
def getWallet (accountId : String) (type : WalletType) : Db Wallet := do
  let resolved ← resolveAccountId accountId
  let wallet ← Program.perform
    (wallets.findUnique "wallet.find" ⟨resolved.getD accountId, type⟩)
  match wallet with
  | some wallet => pure wallet
  | none => .threw (walletNotFound (walletName type ++ " wallet not found"))

structure MoveInput where
  accountId : String
  type : WalletType
  txType : WalletTxType
  amount : NumberInput
  description : String
  reference : Option Reference := none
  actorId : Option String := none
  ignoreFrozen : Bool := false
  deriving DecidableEq

/-- Direction is determined by the ledger type; `ADJUSTMENT` uses the sign. -/
def isDebit (txType : WalletTxType) (amount : Decimal) : Bool :=
  txType ∈ [WalletTxType.withdrawal, .payoutDebit, .batchHold] ∨
    (txType = .adjustment ∧ amount < 0)

/-- The ledger row `move` writes for a balance it has read. -/
def moveRow (now : Time) (input : MoveInput) (wallet : Wallet)
    (amount : Decimal) (balanceBefore : Money) : WalletTransaction :=
  let delta := |amount|
  let signed := if isDebit input.txType amount then -delta else delta
  { walletId := wallet.key
    type := input.txType
    amount := Money.round signed
    balanceBefore
    balanceAfter := Money.round (balanceBefore + signed)
    currency := wallet.currency
    reference := input.reference
    description := input.description
    createdBy := input.actorId
    createdAt := now }

/-- The transaction of `move`, on the wallet found before it. -/
def moveTransaction (now : Time) (input : MoveInput) (wallet : Wallet)
    (amount : Decimal) : Tx WalletTransaction := do
  let current ← Body.perform (wallets.findUnique "move.read" wallet.key)
  match current with
  | none => .threw (walletNotFound "Wallet not found")
  | some current =>
      if current.status = .frozen ∧ ¬ input.ignoreFrozen then
        .threw (walletFrozen input.type)
      else
        let delta := |amount|
        let debit := isDebit input.txType amount
        let row := moveRow now input wallet amount current.balance
        if debit ∧ (current.balance : Decimal) - delta < 0 then
          .threw (insufficientFunds
            s!"Insufficient funds: balance {current.balance.text} {wallet.currency}, requested {Decimal.toFixedText 2 delta}")
        else if debit then do
          -- conditional update re-checks the floor inside the transaction
          let count ← Body.perform (restingOn current input.ignoreFrozen
            (decrementBalance "move.decrement" wallet.key delta))
          if count = 0 then
            .threw (insufficientFunds
              "Insufficient funds (concurrent update prevented)")
          else
            Body.perform (createLedgerRow "move.ledger" row)
        else do
          let _ ← Body.perform (restingOn current input.ignoreFrozen
            (incrementBalance "move.increment" wallet.key delta))
          Body.perform (createLedgerRow "move.ledger" row)

/-- Core ledger mutation.  Returns the created ledger row. -/
def move (now : Time) (input : MoveInput) : Db WalletTransaction :=
  match input.amount with
  | .malformed => .threw .invalidValue
  | .nonFinite =>
      .threw (.forbidden .validationFailed
        "Amount must be a non-zero finite value")
  | .value amount =>
      if amount = 0 then
        .threw (.forbidden .validationFailed
          "Amount must be a non-zero finite value")
      else do
        let wallet ← getWallet input.accountId input.type
        if wallet.status = .frozen ∧ ¬ input.ignoreFrozen then
          .threw (walletFrozen input.type)
        else
          Program.atomically "move.commit"
            (moveTransaction now input wallet amount)

/-! ## `transferCollectionToDisbursement` -/

structure TransferInput where
  amount : NumberInput
  reference : Option String := none
  deriving DecidableEq

/-- The two wallets and the amounts of a transfer that has passed its checks. -/
structure TransferPlan where
  accountId : AccountId
  source : Wallet
  target : Wallet
  amount : Decimal
  fee : ComputedFee
  reference : Reference
  clientReference : Option String
  actorId : Option String

def TransferPlan.totalDebit (plan : TransferPlan) : Decimal :=
  plan.amount + plan.fee.feeAmount

def TransferPlan.outRow (now : Time) (plan : TransferPlan) (before : Money) :
    WalletTransaction where
  walletId := plan.source.key
  type := .transferOut
  amount := Money.round (-plan.totalDebit)
  balanceBefore := before
  balanceAfter := Money.round (before - plan.totalDebit)
  currency := plan.source.currency
  reference := some plan.reference
  description :=
    s!"Transfer to DISBURSEMENT (fee {plan.fee.feeAmount.text} TZS @ {plan.fee.feeBps} bps)"
  createdBy := plan.actorId
  createdAt := now

def TransferPlan.inRow (now : Time) (plan : TransferPlan) (before : Money) :
    WalletTransaction where
  walletId := plan.target.key
  type := .transferIn
  amount := Money.round plan.amount
  balanceBefore := before
  balanceAfter := Money.round (before + plan.amount)
  currency := plan.target.currency
  reference := some plan.reference
  description := s!"Transfer from COLLECTION ({plan.reference})"
  createdBy := plan.actorId
  createdAt := now

def TransferPlan.transfer (plan : TransferPlan) : WalletTransfer where
  accountId := plan.accountId
  reference := plan.reference
  clientReference := plan.clientReference
  amount := Money.round plan.amount
  feeAmount := plan.fee.feeAmount
  feeBps := plan.fee.feeBps
  currency := plan.source.currency
  status := .success

/-- Leg 2: credit DISBURSEMENT (amount), then record the transfer. -/
def transferCredit (now : Time) (plan : TransferPlan) : Tx WalletTransfer := do
  let dst ← Body.perform
    (wallets.findUnique "transfer.read-target" plan.target.key)
  match dst with
  | none => .threw (walletNotFound "DISBURSEMENT wallet not found")
  | some dst =>
      if dst.status = .frozen then .threw (walletFrozen .disbursement)
      else do
        let _ ← Body.perform (restingOn dst false
          (overwriteBalance "transfer.credit" plan.target.key
            dst.balance plan.amount))
        let _ ← Body.perform
          (createLedgerRow "transfer.in" (plan.inRow now dst.balance))
        Body.perform (transfers.create "transfer.create" plan.transfer)

/-- Leg 1: debit COLLECTION (amount + fee); then leg 2. -/
def transferTransaction (now : Time) (plan : TransferPlan) :
    Tx WalletTransfer :=
  do
  let src ← Body.perform
    (wallets.findUnique "transfer.read-source" plan.source.key)
  match src with
  | none => .threw (walletNotFound "COLLECTION wallet not found")
  | some src =>
      if src.status = .frozen then .threw (walletFrozen .collection)
      else if (src.balance : Decimal) - plan.totalDebit < 0 then
        .threw (insufficientFunds
          s!"Insufficient funds: balance {src.balance.text}, requested {Decimal.toFixedText 2 plan.totalDebit} (incl. {plan.fee.feeAmount.text} fee)")
      else do
        let count ← Body.perform (restingOn src false
          (decrementBalance "transfer.debit" plan.source.key plan.totalDebit))
        if count = 0 then
          .threw (insufficientFunds
            "Insufficient funds (concurrent update prevented)")
        else do
          let _ ← Body.perform
            (createLedgerRow "transfer.out" (plan.outRow now src.balance))
          transferCredit now plan

/-- The duplicate-reference guard (per account, transfers only). -/
def findDuplicateTransfer (accountId : AccountId) (reference : String) :
    Statement (Option WalletTransfer) :=
  select "transfer.duplicate" fun world =>
    world.transfers.rows.find? fun transfer =>
      transfer.accountId = accountId ∧
        transfer.clientReference = some (Text.toUpperCase reference)

/-- Everything after the guard: the amount, the fee and the transaction.
`reference` is the generated `WT...` reference. -/
def transferAmount (now : Time) (reference : Reference) (accountId : AccountId)
    (source target : Wallet) (dto : TransferInput) (actorId : Option String) :
    Db WalletTransfer :=
  match dto.amount with
  | .malformed => .threw .invalidValue
  | .nonFinite =>
      .threw (.forbidden .validationFailed
        "Amount must be a positive finite value")
  | .value amount =>
      if amount = 0 ∨ amount < 0 then
        .threw (.forbidden .validationFailed
          "Amount must be a positive finite value")
      else do
        let fee ← computeTransferFee accountId amount
        Program.atomically "transfer.commit" (transferTransaction now
          { accountId, source, target, amount, fee, reference
            clientReference := upperReference dto.reference, actorId })

/-- Instant internal move of funds from the COLLECTION wallet to the DISBURSEMENT
wallet, charged at the account's transfer fee. -/
def transferCollectionToDisbursement (now : Time) (reference : Reference)
    (accountId : String) (dto : TransferInput) (actorId : Option String) :
    Db WalletTransfer := do
  let resolved ← resolveAccountId accountId
  match resolved with
  | none => .threw (.missing .notFound "Account not found")
  | some resolved =>
      let source ← getWallet resolved .collection
      let target ← getWallet resolved .disbursement
      if source.status = .frozen then .threw (walletFrozen .collection)
      else if target.status = .frozen then .threw (walletFrozen .disbursement)
      else
        match nonEmpty dto.reference with
        | none => transferAmount now reference resolved source target dto actorId
        | some clientReference => do
            let dupe ← Program.perform (findDuplicateTransfer resolved clientReference)
            match dupe with
            | some _ => .threw (.conflict .duplicateReference
                "A transfer with this client reference already exists")
            | none => transferAmount now reference resolved source target dto actorId

def setFrozen (accountId : String) (type : WalletType) (frozen : Bool) :
    Db Wallet :=
  do
  let wallet ← getWallet accountId type
  Program.perform (wallets.update "wallet.freeze" wallet.key
    (fun row => { row with status := if frozen then .frozen else .active })
    fun _ => rfl)

structure IntegrityReport where
  balance : Money
  ledgerSum : Decimal
  transactionCount : ℕ
  consistent : Bool
  discrepancy : Decimal
  deriving DecidableEq

/-- Reconciliation helper used by the admin computational review. -/
def ledgerIntegrity (accountId : String) (type : WalletType) :
    Db IntegrityReport :=
  do
  let wallet ← getWallet accountId type
  let (sum, count) ← Program.perform (select "ledger.aggregate" fun world =>
    (world.ledgerSum wallet.key, (world.rowsOf wallet.key).length))
  pure
    { balance := wallet.balance
      ledgerSum := sum
      transactionCount := count
      consistent := (wallet.balance : Decimal) == sum
      discrepancy := wallet.balance - sum }

end CloudStudio.Wallets
