import CloudStudio.Payouts.Creation

/-!
# Settling the COLLECTION wallet

`SettlementsService`: manual withdrawals and the sweeps to the account's default
settlement account.  A withdrawal is debited its amount and the fee; a sweep is
debited the whole balance, and the fee is taken from what is paid out.
-/

namespace CloudStudio.Payouts

open CloudStudio.Data CloudStudio.Transactions CloudStudio.Platform
open CloudStudio.Payments
open CloudStudio.Wallets

/-- `MIN_PAYOUT_TZS` as `parseInt` reads it; `none` is `NaN`, below which
nothing is. -/
abbrev MinPayout := Option ℤ

def MinPayout.text : MinPayout → String
  | some limit => toString limit
  | none => "NaN"

/-- `amount.lessThan(this.minPayout)`. -/
def BelowMinimum (minPayout : MinPayout) (amount : Decimal) : Prop :=
  ∃ limit ∈ minPayout, amount < limit

instance (minPayout : MinPayout) (amount : Decimal) :
    Decidable (BelowMinimum minPayout amount) :=
  match minPayout with
  | none => isFalse fun ⟨_, member, _⟩ => nomatch member
  | some limit =>
      decidable_of_iff (amount < limit)
        ⟨fun below => ⟨limit, rfl, below⟩, fun ⟨_, member, below⟩ =>
          Option.some.inj member ▸ below⟩

/-- The oldest active default settlement account. -/
def defaultSettlement (world : World) (accountId : AccountId) :
    Option SettlementAccount :=
  ((world.settlementAccounts.rows.filter fun row =>
    row.accountId = accountId ∧ row.isActive ∧ row.isDefault).mergeSort
      fun first second => first.createdAt ≤ second.createdAt).head?

/-- The API could take the payout: the initials of a bank account stand in for
its BIC. -/
def payable (settlement : SettlementAccount) : Bool :=
  match settlement.type with
  | .mobile => true
  | .bank => settlement.bankInitials.any fun initials => isBic initials.toList

/-- The settlement account that is to be paid to. -/
def selectSettlement (site : Site) (view : World → Option SettlementAccount) :
    Statement (Option SettlementAccount) :=
  { select site view with
    expects := fun expectation world =>
      match expectation with
      | .payableSettlement => (view world).all payable
      | _ => true }

def getDefaultSettlementAccount (accountId : AccountId) :
    Db (Option SettlementAccount) :=
  do
  let account ← Program.perform (select "settlement.account" fun world =>
    world.accounts.find? accountId)
  match account with
  | none => .threw (.missing .notFound "Account not found")
  | some _ =>
      Program.perform (selectSettlement "settlement.default" fun world =>
      defaultSettlement world accountId)

/-- A settlement account the request names, or the default one. -/
def findSettlement (accountId : AccountId)
    (settlementAccountId : Option String) : Db (Option SettlementAccount) :=
  match nonEmpty settlementAccountId with
  | some id => Program.perform (selectSettlement "settlement.find" fun world =>
      world.settlementAccounts.rows.find? fun row =>
        row.id = id ∧ row.accountId = accountId ∧ row.isActive)
  | none => getDefaultSettlementAccount accountId

abbrev noSettlement : AppError :=
  .badRequest .validationFailed
    "No active settlement account configured for this customer"

/-- A column that only one type of settlement account has. -/
def onSettlement {Value : Type} (wanted : SettlementType)
    (settlement : SettlementAccount) (value : Option Value) : Option Value :=
  if settlement.type = wanted then value else none

def settlementChannel (settlement : SettlementAccount) : PayoutChannel :=
  match settlement.type with
  | .bank => .bank
  | .mobile => .mobileMoney

/-- The payout row of a settlement. -/
def settlementPayout (now : Time) (account : Account)
    (settlement : SettlementAccount) (kind : PayoutKind) (reference : Reference)
    (clientReference : Option String) (amount : Decimal) (fee : ComputedFee) :
    Payout where
  accountId := account.id
  channel := settlementChannel settlement
  reference
  clientReference
  sourceWallet := .collection
  payoutKind := kind
  amount := Money.round amount
  feeAmount := some fee.feeAmount
  feeBps := some fee.feeBps
  phoneNumber := onSettlement .mobile settlement settlement.phoneNumber
  accountNumber := onSettlement .bank settlement settlement.accountNumber
  accountName := onSettlement .bank settlement
    (some (settlement.accountName.getD account.sourceCode))
  bic := onSettlement .bank settlement settlement.bankInitials
  transferType := onSettlement .bank settlement (some "ACH")
  walletDebitedAt := some now
  createdAt := now
  updatedAt := now

/-- A debit of the COLLECTION wallet for a settlement. -/
def settlementDebit (accountId : AccountId) (amount : Decimal)
    (description : String) (reference : Reference) (actorId : Option String) :
    MoveInput where
  accountId
  type := .collection
  txType := .withdrawal
  amount := .value (Decimal.toFixed 2 amount)
  description
  reference := some reference
  actorId

structure WithdrawalDto where
  amount : Amount
  reference : Option String := none
  settlementAccountId : Option String := none

/-- The fee, the minimum and the reference of a withdrawal. -/
def prepareWithdrawalTo (now : Time) (random : List Char)
    (minPayout : MinPayout) (account : Account) (settlement : SettlementAccount)
    (dto : WithdrawalDto) (actorId : Option String) : Db Hold := do
  let fee ← computeFee .disbursement account.id (.value dto.amount.val)
  if BelowMinimum minPayout (dto.amount.val + fee.feeAmount) then
    .threw (.badRequest .validationFailed
      s!"Withdrawal must be at least {minPayout.text} TZS including fees")
  else
    match buildReference random account.sourceCode dto.reference with
    | .error error => .threw error
    | .ok reference =>
        pure
          { debit := settlementDebit account.id (dto.amount.val + fee.feeAmount)
              s!"Settlement withdrawal ({reference})" reference actorId
            payout :=
              settlementPayout now account settlement .withdrawal reference
              (upperReference dto.reference) dto.amount.val fee }

/-- The checks of a withdrawal. -/
def prepareWithdrawal (now : Time) (random : List Char) (minPayout : MinPayout)
    (accountId : AccountId) (dto : WithdrawalDto) (actorId : Option String) :
    Db Hold :=
  do
  let account ← findAccount accountId
  let settlement ← findSettlement accountId dto.settlementAccountId
  match settlement with
  | none => .threw noSettlement
  | some settlement =>
      if (dto.amount.val : Decimal) ≤ 0 then
        .threw (.badRequest .validationFailed
          "Amount must be greater than zero")
      else prepareWithdrawalTo now random minPayout account settlement dto actorId

def createWithdrawal (now : Time) (random : List Char) (minPayout : MinPayout)
    (accountId : AccountId) (dto : WithdrawalDto) (actorId : Option String) :
    Db Payout :=
  do
  let hold ← prepareWithdrawal now random minPayout accountId dto actorId
  holdAndQueue now hold

/-- The balance a sweep sees; an account without the wallet has nothing. -/
def readBalance (accountId : AccountId) : Db Money := do
  let wallet ← Program.perform
    (wallets.findUnique "sweep.wallet" ⟨accountId, .collection⟩)
  pure ((wallet.map Wallet.balance).getD 0)

/-- The debit of the whole balance and the payout of what the fee leaves. -/
def sweepHold (now : Time) (account : Account) (settlement : SettlementAccount)
    (balance : Money) (fee : ComputedFee) (title : String)
    (reference : Reference) :
    Hold where
  debit :=
    settlementDebit account.id balance s!"{title} ({reference})" reference none
  payout := settlementPayout now account settlement .autoSweep reference
    (some "AUTO-SWEEP") (balance - fee.feeAmount) fee

/-- What an auto-sweep reports for an account. -/
inductive SweepDetail where
  | skipped (reason : String)
  | dryRun (reference : Reference) (amount : Decimal)
  | created (reference : Reference) (amount : Decimal)
  | failed (error : AppError)
  deriving DecidableEq

/-- An auto-sweep payout of the account since then that has not failed. -/
def sweptSince (startOfToday : Time) (accountId : AccountId) (world : World) :
    Bool :=
  world.payouts.rows.any fun row =>
    row.accountId = accountId ∧ row.payoutKind = .autoSweep ∧
      startOfToday ≤ row.createdAt ∧ row.status ≠ .failed

/-- The fee, the minimum and the reference of a leg; without a hold, why not. -/
def prepareSweep (now : Time) (random : List Char) (minPayout : MinPayout) (dryRun : Bool)
    (account : Account) (settlement : SettlementAccount) (balance : Money) :
    Db (SweepDetail ⊕ Hold) := do
  let fee ← computeFee .disbursement account.id (.value balance)
  let payoutAmount : Decimal := balance - fee.feeAmount
  if BelowMinimum minPayout payoutAmount then
    pure (.inl (.skipped
      s!"balance below minimum payout ({Decimal.toFixedText 2 payoutAmount} after fee)"))
  else
    match buildReference random account.sourceCode none with
    | .error error => .threw error
    | .ok reference =>
        if dryRun then pure (.inl (.dryRun reference payoutAmount))
        else pure (.inr (sweepHold now account settlement balance fee "Auto-sweep" reference))

/-- The checks of a leg: a settlement account, a balance, and no sweep today. -/
def prepareLeg (now startOfToday : Time) (random : List Char)
    (minPayout : MinPayout) (dryRun : Bool) (account : Account) :
    Db (SweepDetail ⊕ Hold) :=
  do
  let settlement ← getDefaultSettlementAccount account.id
  match settlement with
  | none => pure (.inl (.skipped "no settlement account"))
  | some settlement => do
      let balance ← readBalance account.id
      if (balance : Decimal) ≤ 0 then
        pure (.inl (.skipped "empty collection wallet"))
      else do
        let alreadySwept ← Program.perform
          (select "sweep.findFirst" (sweptSince startOfToday account.id))
        if alreadySwept then pure (.inl (.skipped "already swept today"))
        else prepareSweep now random minPayout dryRun account settlement balance

def finishLeg (now : Time) : SweepDetail ⊕ Hold → Db SweepDetail
  | .inl detail => pure detail
  | .inr hold => do
      let payout ← holdAndQueue now hold
      pure (.created payout.reference payout.amount)

/-- One account of the sweep; a leg that fails does not stop the others. -/
def sweepLeg (now startOfToday : Time) (random : List Char)
    (minPayout : MinPayout) (dryRun : Bool) (account : Account) :
    Db SweepDetail :=
  Program.catching
    (do
      let prepared ← prepareLeg now startOfToday random minPayout dryRun account
      finishLeg now prepared)
    fun error => pure (.failed error)

/-- The legs one after another, with what each reports. -/
def sweepAll (sweep : Account → Db SweepDetail) :
    List Account → Db (List (AccountId × SweepDetail))
  | [] => pure []
  | account :: rest => do
      let detail ← sweep account
      let details ← sweepAll sweep rest
      pure ((account.id, detail) :: details)

/-- Daily sweep of every active account with auto-sweep on. -/
def runAutoSweep (now startOfToday : Time) (random : AccountId → List Char)
    (minPayout : MinPayout) (dryRun : Bool) :
    Db (List (AccountId × SweepDetail)) :=
  do
  let accounts ← Program.perform (select "sweep.accounts" fun world =>
    world.accounts.rows.filter fun account => account.status = .active ∧
      account.autoSweep)
  sweepAll (fun account =>
    sweepLeg now startOfToday (random account.id) minPayout dryRun account)
      accounts

/-- The checks of an immediate sweep of one account. -/
def prepareSweepNow (now : Time) (random : List Char) (minPayout : MinPayout)
    (accountId : AccountId) : Db Hold := do
  let account ← findAccount accountId
  let settlement ← getDefaultSettlementAccount account.id
  match settlement with
  | none => .threw noSettlement
  | some settlement => do
      let balance ← readBalance account.id
      if (balance : Decimal) ≤ 0 then
        .threw (.badRequest .validationFailed
          "Collection wallet is empty — nothing to sweep")
      else do
        let fee ← computeFee .disbursement account.id (.value balance)
        let payoutAmount : Decimal := balance - fee.feeAmount
        if BelowMinimum minPayout payoutAmount then
          .threw (.badRequest .validationFailed
            s!"Balance after fee ({Decimal.toFixedText 2 payoutAmount} TZS) is below the {minPayout.text} TZS payout minimum")
        else
          match buildReference random account.sourceCode none with
          | .error error => .threw error
          | .ok reference =>
              pure (sweepHold now account settlement balance fee "Manual sweep"
                reference)

/-- Admin "sweep now". -/
def sweepNow (now : Time) (random : List Char) (minPayout : MinPayout)
    (accountId : String) : Db Payout := do
  let resolved ← resolveAccountId accountId
  match resolved with
  | none => .threw (.missing .notFound "Account not found")
  | some resolved => do
      let hold ← prepareSweepNow now random minPayout resolved
      holdAndQueue now hold

end CloudStudio.Payouts
