import CloudStudio.Accounts.ApiKeys
import CloudStudio.Accounts.Creation
import CloudStudio.Admin.Computations
import CloudStudio.Billing.Model
import CloudStudio.Wallets.Actions

/-!
# The admin's routes

The routes under `admin/accounts/:accountId`, each as the call its controller
makes with the identifier of the path, and the analytics events it tracks.
Audit rows, which name the account an identifier resolves to, are not part of
the model.
-/

namespace CloudStudio.Admin

open CloudStudio.Data CloudStudio.Transactions CloudStudio.Platform
open CloudStudio.Accounts
open CloudStudio.Billing CloudStudio.Payouts CloudStudio.Wallets

/-- The columns of a key that are shown; the hash is not. -/
structure KeyView where
  id : String
  name : String
  displayPrefix : String
  lastUsedAt : Option Time
  revokedAt : Option Time
  createdAt : Time

def ApiKey.view (key : ApiKey) : KeyView where
  id := key.id
  name := key.name
  displayPrefix := key.displayPrefix
  lastUsedAt := key.lastUsedAt
  revokedAt := key.revokedAt
  createdAt := key.createdAt

/-- An account with the rows of `ACCOUNT_INCLUDE`. -/
structure AccountDetail where
  account : Account
  permissions : List ServicePermission
  wallets : List Wallet
  apiKeys : List KeyView
  accountPlan : Option (AccountPlan × Option Plan)
  settlementAccounts : List SettlementAccount
  feeConfig : Option FeeConfig

def planOf (world : World) (account : AccountId) :
    Option (AccountPlan × Option Plan) :=
  (world.accountPlans.find? account).map fun row =>
    (row, world.plans.find? row.planId)

def keysOf (world : World) (account : AccountId) : List KeyView :=
  (world.apiKeys.rows.filter fun key => key.accountId = account).map ApiKey.view

def permissionsOf (world : World) (account : AccountId) :
    List ServicePermission :=
  world.permissions.rows.filter fun permission =>
    permission.key.accountId = account

/-- `include: ACCOUNT_INCLUDE`. -/
def detailOf (world : World) (account : Account) : AccountDetail where
  account
  permissions := permissionsOf world account.id
  wallets := walletsOf world account.id
  apiKeys := keysOf world account.id
  accountPlan := planOf world account.id
  settlementAccounts :=
    world.settlementAccounts.rows.filter fun row => row.accountId = account.id
  feeConfig := world.feeConfigs.find? account.id

/-- Accepts the public accountId or the internal row id. -/
def getByPublicId (accountPublicId : String) : Db AccountDetail := do
  let byPublic ← Program.perform (select "account.byPublicId" fun world =>
    (world.accounts.rows.find? fun account =>
      account.accountId == accountPublicId).map (detailOf world))
  match byPublic with
  | some account => pure account
  | none => do
      let byId ← Program.perform (select "account.byId" fun world =>
        (world.accounts.find? accountPublicId).map (detailOf world))
      match byId with
      | some account => pure account
      | none =>
          .threw (.missing .notFound s!"Account {accountPublicId} not found")

/-- The row that `accountOverview` reads first. -/
structure PreviewedAccount where
  account : Account
  permissions : List ServicePermission
  wallets : List Wallet
  apiKeys : List KeyView
  accountPlan : Option (AccountPlan × Option Plan)
  webhookEndpoints : List WebhookEndpoint

structure AccountOverview where
  account : PreviewedAccount
  collections : List Collection
  payouts : List Payout
  batches : List DisbursementBatch
  sms : List SmsMessage
  bills : List Bill

/-- The pages of an overview. -/
structure OverviewPages where
  txSkip : ℕ
  txTake : ℕ
  smsSkip : ℕ
  smsTake : ℕ

def previewOf (world : World) (account : Account) : PreviewedAccount where
  account
  permissions := permissionsOf world account.id
  wallets := walletsOf world account.id
  apiKeys := keysOf world account.id
  accountPlan := planOf world account.id
  webhookEndpoints := world.endpoints.rows.filter fun row =>
    row.accountId = account.id

/-- "Preview all accounts data". -/
def accountOverview (pages : OverviewPages) (accountId : String) :
    Db (Option AccountOverview) := do
  let resolved ← resolveAccountId accountId
  match resolved with
  | none => pure none
  | some resolved => do
      let account ← Program.perform (select "overview.account" fun world =>
        (world.accounts.find? resolved).map (previewOf world))
      match account with
      | none => pure none
      | some account =>
          let id := account.account.id
          Program.perform (select "overview.rows" fun world => some
            { account
              collections :=
                newestFirst Collection.createdAt pages.txSkip pages.txTake
                (world.collections.rows.filter fun row => row.accountId = id)
              payouts := newestFirst Payout.createdAt pages.txSkip pages.txTake
                (world.payouts.rows.filter fun row => row.accountId = id)
              batches := newestFirst DisbursementBatch.createdAt 0 20
                (world.batches.rows.filter fun row => row.accountId = id)
              sms := newestFirst SmsMessage.createdAt
                pages.smsSkip pages.smsTake
                (world.smsMessages.rows.filter fun row => row.accountId = id)
              bills := newestFirst Bill.createdAt 0 20
                (world.bills.filter fun row => row.accountId = id) })

/-- A result that is missing is a 404 of the controller. -/
def orNotFound {Result : Type} (program : Db (Option Result)) : Db Result := do
  let result ← program
  match result with
  | some result => pure result
  | none => .threw (.missing .notFound "Account not found")

def walletRank : WalletType → ℕ
  | .collection => 0
  | .disbursement => 1

def getWallets (accountId : String) : Db (List Wallet) := do
  let resolved ← resolveAccountId accountId
  Program.perform (select "wallet.findMany" fun world =>
    (walletsOf world (resolved.getD "__none__")).mergeSort fun first second =>
      walletRank first.key.type ≤ walletRank second.key.type)

structure TransactionPage where
  items : List WalletTransaction
  total : ℕ
  wallet : Wallet

def getTransactions (type : WalletType) (skip take : ℕ) (accountId : String) :
    Db TransactionPage := do
  let wallet ← getWallet accountId type
  Program.perform (select "walletTransaction.findMany" fun world =>
    let rows := world.ledger.filter fun row => row.walletId = wallet.key
    { items := newestFirst WalletTransaction.createdAt skip take rows
      total := rows.length, wallet })

/-- A movement that an admin asks for. -/
def adminMove (now : Time) (txType : WalletTxType) (title adminId : String)
    (type : WalletType) (dto : WalletAmount) (accountId : String) :
    Db WalletTransaction :=
  move now
    { accountId, type, txType, amount := dto.amount
      description := s!"{title}: {dto.reason}"
      reference := dto.reference, actorId := some adminId }

/-- The identifier is not resolved. -/
def listSettlementAccounts (accountId : String) : Db (List SettlementAccount) :=
  Program.perform (select "settlementAccount.findMany" fun world =>
    (world.settlementAccounts.rows.filter fun row => row.accountId =
      accountId).mergeSort
      fun first second => first.isDefault && !second.isDefault ||
        first.isDefault == second.isDefault && decide
          (first.createdAt ≤ second.createdAt))

structure AutoSweepSetting where
  id : AccountId
  accountId : String
  autoSweep : Bool

/-- Toggles the daily auto-sweep for an account. -/
def setAutoSweep (enabled : Bool) (accountId : String) : Db AutoSweepSetting :=
  do
  let resolved ← resolveAccountId accountId
  match resolved with
  | none => .threw (.missing .notFound "Account not found")
  | some resolved => do
      let account ← Program.perform
        (accounts.update "account.autoSweep" resolved
        (fun account => { account with autoSweep := enabled }) fun _ => rfl)
      pure { id := account.id, accountId := account.accountId
             autoSweep := account.autoSweep }

/-- `feeConfig.create`: the account has to exist. -/
def createFeeConfig (accountId : AccountId) : Statement FeeConfig :=
  { feeConfigs.create "feeConfig.create" { accountId } with
    answer := fun world =>
      if (world.accounts.find? accountId).isSome then
        (feeConfigs.create "feeConfig.create" { accountId }).answer world
      else .error (.plain "Foreign key constraint violated") }

/-- `FeesService.getConfig` for an identifier from a path, which is not
resolved. -/
def getFeeConfig (accountId : String) : Db FeeConfig := do
  let existing ← Program.perform
    (feeConfigs.findUnique "feeConfig.find" accountId)
  match existing with
  | some config => pure config
  | none =>
      Program.catching (Program.perform (createFeeConfig accountId)) fun _ => do
        let row ← Program.perform
          (feeConfigs.findUnique "feeConfig.reread" accountId)
        match row with
        | some config => pure config
        | none => .threw (.missing .notFound "Fee config not found")

/-- `FeesService.updateConfig` for such an identifier. -/
def updateFeeConfig (patch : FeePatch) (accountId : String) : Db FeeConfig := do
  let _ ← getFeeConfig accountId
  match checkPatch patch with
  | .error error => .threw error
  | .ok change =>
      Program.perform
        (feeConfigs.update "feeConfig.update" accountId change.apply
        change.apply_accountId)

/-! ## The routes -/

/-- A row of `analytics_events`. -/
structure AnalyticsEvent where
  name : String
  accountId : String
  value : Option Money := none
  walletType : Option WalletType := none
  channel : Option PayoutChannel := none

/-- `PATCH`: the contact fields are not part of the model. -/
def updateAccount (accountName : Option String) (accountId : String) :
    Db Account :=
  do
  let before ← getEntity accountId
  Program.perform (accounts.update "account.update" before.id
    (fun account => { account with
      accountName :=
        match nonEmpty accountName with
        | some accountName => Text.trim accountName
        | none => account.accountName })
    fun _ => rfl)

def withStatus (status : AccountStatus) (account : Account) : Account :=
  { account with status }

theorem withStatus_id (status : AccountStatus) (account : Account) :
    (withStatus status account).id = account.id := rfl

/-- `suspend` and `activate`, with the event of a change. -/
def setStatusTracked (status : AccountStatus) (name : String)
    (accountId : String) :
    Db (Account × List AnalyticsEvent) := do
  let account ← getEntity accountId
  if account.status = status then pure (account, [])
  else do
    let updated ← Program.perform
      (accounts.update "account.setStatus" account.id
      (withStatus status) (withStatus_id status))
    pure (updated, [{ name, accountId := account.id }])

/-- The event names the identifier of the path. -/
def setFrozenTracked (type : WalletType) (frozen : Bool) (accountId : String) :
    Db (Wallet × List AnalyticsEvent) := do
  let updated ← setFrozen accountId type frozen
  pure (updated,
    [{ name := if frozen then "wallet.freeze" else "wallet.activate"
       accountId, walletType := some type }])

def sweepNowTracked (now : Time) (random : List Char) (minPayout : MinPayout)
    (accountId : String) : Db (Payout × List AnalyticsEvent) := do
  let payout ← sweepNow now random minPayout accountId
  pure (payout,
    [{ name := "settlement.sweep_now", accountId := payout.accountId
       value := some payout.amount, channel := some payout.channel }])

/-- A route that tracks nothing. -/
def untracked {Result : Type} (program : Db Result) :
    Db (Result × List AnalyticsEvent) :=
  do
  let result ← program
  pure (result, [])

inductive AdminOp where
  | detail
  | overview (pages : OverviewPages)
  | computations (range : DateRange)
  | wallets
  | transactions (type : WalletType) (skip take : ℕ)
  | deposit (now : Time) (adminId : String) (type : WalletType)
      (dto : WalletAmount)
  | withdraw (now : Time) (adminId : String) (type : WalletType)
      (dto : WalletAmount)
  | freeze (type : WalletType)
  | unfreeze (type : WalletType)
  | permissions (items : List PermissionItem)
  | issueKey (sha256 : Sha256) (apiKeyPrefix : String) (now : Time)
      (draw : KeyDraw) (name : String)
  | revokeKey (now : Time) (keyId : String)
  | update (accountName : Option String)
  | suspend
  | activate
  | assignPlan (calendar : Calendar) (now : Time) (adminId planId : String)
  | createBill (now : Time) (adminId : String) (dto : CreateBillDto)
  | payBill (now : Time) (billId : ℕ)
  | bills (skip take : ℕ) (status : Option BillStatus)
  | fees
  | updateFees (patch : FeePatch)
  | settlements
  | createSettlement (now : Time) (id : String) (input : SettlementInput)
  | updateSettlement (now : Time) (settlementId : String)
      (patch : SettlementPatch)
  | autoSweep (enabled : Bool)
  | sweepNow (now : Time) (random : List Char) (minPayout : MinPayout)

/-- What a route answers. -/
def AdminOp.Response : AdminOp → Type
  | .detail => AccountDetail
  | .overview _ => AccountOverview
  | .computations _ => List WalletReview
  | .wallets => List Wallet
  | .transactions .. => TransactionPage
  | .deposit .. | .withdraw .. => WalletTransaction
  | .freeze _ | .unfreeze _ => Wallet
  | .permissions _ => List ServicePermission
  | .issueKey .. => IssuedKey
  | .revokeKey .. => RevokedKey
  | .update _ | .suspend | .activate => Account
  | .assignPlan .. => AccountPlan × Plan
  | .createBill .. | .payBill .. => Bill
  | .bills .. => BillPage
  | .fees | .updateFees _ => FeeConfig
  | .settlements => List SettlementAccount
  | .createSettlement .. | .updateSettlement .. => SettlementAccount
  | .autoSweep _ => AutoSweepSetting
  | .sweepNow .. => Payout

/-- What its controller calls for the identifier of the path. -/
def AdminOp.program (accountId : String) :
    (op : AdminOp) → Db (op.Response × List AnalyticsEvent)
  | .detail => untracked (getByPublicId accountId)
  | .overview pages => untracked (orNotFound (accountOverview pages accountId))
  | .computations range =>
      untracked (orNotFound (Admin.computations accountId range))
  | .wallets => untracked (getWallets accountId)
  | .transactions type skip take =>
      untracked (getTransactions type skip take accountId)
  | .deposit now adminId type dto =>
      untracked
        (adminMove now .deposit "Admin deposit" adminId type dto accountId)
  | .withdraw now adminId type dto =>
      untracked
        (adminMove now .withdrawal "Admin withdrawal" adminId
        type dto accountId)
  | .freeze type => setFrozenTracked type true accountId
  | .unfreeze type => setFrozenTracked type false accountId
  | .permissions items => untracked (setPermissions accountId items)
  | .issueKey sha256 apiKeyPrefix now draw name =>
      untracked (issueApiKey sha256 apiKeyPrefix now draw accountId name)
  | .revokeKey now keyId => untracked (revokeApiKey now accountId keyId)
  | .update accountName => untracked (updateAccount accountName accountId)
  | .suspend => setStatusTracked .suspended "account.suspended" accountId
  | .activate => setStatusTracked .active "account.activated" accountId
  | .assignPlan calendar now adminId planId =>
      untracked (Billing.assignPlan calendar now adminId accountId planId)
  | .createBill now adminId dto =>
      untracked (Billing.createBill now adminId accountId dto)
  | .payBill now billId => untracked (markBillPaid now accountId billId)
  | .bills skip take status => untracked (listBills skip take status accountId)
  | .fees => untracked (getFeeConfig accountId)
  | .updateFees patch => untracked (updateFeeConfig patch accountId)
  | .settlements => untracked (listSettlementAccounts accountId)
  | .createSettlement now id input =>
      untracked (upsertSettlementAccount now id accountId input none)
  | .updateSettlement now settlementId patch =>
      untracked (updateSettlementAccount now accountId settlementId patch)
  | .autoSweep enabled => untracked (setAutoSweep enabled accountId)
  | .sweepNow now random minPayout =>
      sweepNowTracked now random minPayout accountId

end CloudStudio.Admin
