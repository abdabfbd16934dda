import CloudStudio.Transactions.Program
import CloudStudio.Platform.Schema

/-!
# Statements against the database

The Prisma calls of the services as statements of `Transactions.Program`: one
`Relation` per table, with `findUnique`, `create` and `update`.  A create that
meets its unique index and an update that finds no row fail; both take the row
lock, or the lock on the index entry, that the database takes.
-/

namespace CloudStudio.Platform

open CloudStudio.Data CloudStudio.Transactions

/-- The entries of `ErrorCodes` the modelled paths use. -/
inductive ErrorCode where
  | validationFailed | walletFrozen | walletNotFound | insufficientFunds
  | duplicateReference | invalidReference | notFound | providerError | conflict
  | unauthorized | accountSuspended | serviceNotGranted | channelNotAllowed
  | walletActionsNotGranted | invalidSender | invalidCredentials | apiKeyRevoked
  deriving DecidableEq, Repr

inductive HttpStatus where
  | badRequest | unauthorized | forbidden | notFound | conflict
  deriving DecidableEq, Repr

/-- What a call can throw: an HTTP exception, a plain `Error`, or what Prisma,
the decimal library and the language itself raise. -/
inductive AppError where
  | http (status : HttpStatus) (code : ErrorCode) (message : String)
  | plain (message : String)
  | uniqueViolation
  | recordNotFound
  | invalidValue
  deriving DecidableEq, Repr

namespace AppError

abbrev badRequest (code : ErrorCode) (message : String) : AppError :=
  .http .badRequest code message

abbrev forbidden (code : ErrorCode) (message : String) : AppError :=
  .http .forbidden code message

abbrev missing (code : ErrorCode) (message : String) : AppError :=
  .http .notFound code message

abbrev conflict (code : ErrorCode) (message : String) : AppError :=
  .http .conflict code message

end AppError

/-- The rows and index entries a statement can lock. -/
inductive RowKey where
  | wallet (key : WalletKey)
  | transfer (reference : Reference)
  | feeConfig (accountId : AccountId)
  | collection (reference : Reference)
  | deposit (reference : Reference)
  | payout (reference : Reference)
  | batch (reference : Reference)
  | payoutLink (tokenHash : String)
  | account (id : AccountId)
  | permission (key : PermissionKey)
  | smsMessage (reference : Reference)
  | endpoint (id : String)
  | settlementAccount (id : String)
  | plan (id : String)
  | accountPlan (accountId : AccountId)
  | apiKey (id : String)
  deriving DecidableEq

/-- What the services take for granted about the state a write meets.

- `currentGuard`: the column that guards a wallet movement is as it was read.
- `overwrittenBalance`: a balance replaced by a computed value is as it was
  read.
- `exactColumn`: a balance and its ledger amount round alike on assignment.
- `truthfulAnswer`: a create-payout call comes back as rejected exactly for
  payouts the provider does not execute.
- `currentBalance`: a wallet's balance is as its movement read it.
- `currentStatus`: so is the status of a wallet whose freeze is not ignored.
- `settledJob`: a job that goes back to its queue has no payout that is still
  pending although a submission of it stands.
- `settledPayout`: no such payout is put back to pending while its job is
  unfinished.
- `currentCount`: a recount of a batch writes what a fresh one would.
- `settledMessage`: a message that the SMS provider has accepted is not opened
  again while its job is unfinished.
- `currentRecipients`: delivery reports are written over the recipients as they
  were read.
- `payableSettlement`: a settlement account that is read to be paid to is not a
  bank account whose initials are missing or no BIC. -/
inductive Expectation where
  | currentGuard | overwrittenBalance | exactColumn | truthfulAnswer
  | currentBalance | currentStatus | settledJob | settledPayout | currentCount
  | settledMessage | currentRecipients | payableSettlement
  deriving DecidableEq

/-- The name of a call site, for choosing the statements that fail. -/
abbrev Site := String

abbrev Statement := Query World RowKey Expectation Site AppError
abbrev Tx := Body World RowKey Expectation Site AppError
abbrev Db := Program World RowKey Expectation Site AppError

variable {Row Key Answer : Type} {key : Row → Key}

/-- A statement that only reads. -/
def select (site : Site) (view : World → Answer) : Statement Answer where
  label := site
  answer := fun world => .ok (view world)

/-- The rows of a page, newest first.  The database leaves open how rows of one
time are ordered; here they stand as in their table. -/
def newestFirst (createdAt : Row → Time) (skip take : ℕ) (rows : List Row) :
    List Row :=
  ((rows.mergeSort fun first second => createdAt second ≤ createdAt first).drop
    skip).take take

/-- A table of the schema: how to reach it and how its rows are locked. -/
structure Relation (key : Row → Key) where
  table : World → Table key
  put : Table key → World → World
  lock : Key → RowKey

namespace Relation

variable [DecidableEq Key] (relation : Relation key)

def findUnique (site : Site) (wanted : Key) : Statement (Option Row) :=
  select site fun world => (relation.table world).find? wanted

/-- Insert a row, or fail on the unique index. -/
def create (site : Site) (row : Row) : Statement Row where
  label := site
  answer := fun world =>
    if ((relation.table world).find? (key row)).isSome then .error
      .uniqueViolation
    else .ok row
  effect := fun _ world =>
    relation.put ((relation.table world).insert row) world
  locks := fun _ => [relation.lock (key row)]

/-- `createMany`: insert all rows, or fail on the unique index. -/
def createMany (site : Site) (rows : List Row) : Statement Unit where
  label := site
  answer := fun world =>
    match (relation.table world).insertAll? rows with
    | some _ => .ok ()
    | none => .error .uniqueViolation
  effect := fun _ world =>
    relation.put ((relation.table world).insertAll rows) world
  locks := fun _ => rows.map fun row => relation.lock (key row)

/-- Change the row with a key, or fail when there is none. -/
def update (site : Site) (wanted : Key) (change : Row → Row)
    (keeps : ∀ row, key (change row) = key row) : Statement Row where
  label := site
  answer := fun world =>
    match (relation.table world).find? wanted with
    | some row => .ok (change row)
    | none => .error .recordNotFound
  effect := fun _ world =>
    relation.put ((relation.table world).modify wanted change keeps) world
  locks := fun _ => [relation.lock wanted]

/-- Drop the row with a key, or fail when there is none. -/
def delete (site : Site) (wanted : Key) : Statement Unit where
  label := site
  answer := fun world =>
    if ((relation.table world).find? wanted).isSome then .ok () else .error
      .recordNotFound
  effect := fun _ world =>
    relation.put ((relation.table world).erase wanted) world
  locks := fun _ => [relation.lock wanted]

variable {relation}

theorem create_ok {site : Site} {row answer : Row} {world : World}
    (answered : (relation.create site row).answer world = .ok answer) :
    (relation.table world).find? (key row) = none ∧ answer = row := by
  by_cases taken : ((relation.table world).find? (key row)).isSome
  · simp [create, taken] at answered
  · simp only [create, if_neg taken] at answered
    exact ⟨by simpa using taken, (Except.ok.inj answered).symm⟩

theorem createMany_answer (site : Site) (rows : List Row) (world : World) :
    (relation.createMany site rows).answer world =
      if ((relation.table world).insertAll? rows).isSome then .ok ()
      else .error .uniqueViolation := by
  cases inserted : (relation.table world).insertAll? rows
    <;> simp [createMany, inserted]

theorem createMany_ok {site : Site} {rows : List Row} {world : World}
    (answered : (relation.createMany site rows).answer world = .ok ()) :
    ((relation.table world).insertAll rows).rows =
      (relation.table world).rows ++ rows := by
  cases inserted : (relation.table world).insertAll? rows with
  | none => simp [createMany, inserted] at answered
  | some table =>
      obtain ⟨same, added⟩ := Table.insertAll_of_insertAll? inserted
      rw [same, added]

theorem update_ok {site : Site} {wanted : Key} {change : Row → Row}
    {keeps : ∀ row, key (change row) = key row} {answer : Row} {world : World}
    (answered : (relation.update site wanted change keeps).answer world =
      .ok answer) :
    ∃ found, (relation.table world).find? wanted = some found ∧
      answer = change found := by
  cases found : (relation.table world).find? wanted with
  | none => simp [update, found] at answered
  | some row =>
      simp only [update, found] at answered
      exact ⟨row, rfl, (Except.ok.inj answered).symm⟩

end Relation

def wallets : Relation Wallet.key where
  table := World.wallets
  put := fun table world => { world with wallets := table }
  lock := .wallet

def transfers : Relation WalletTransfer.reference where
  table := World.transfers
  put := fun table world => { world with transfers := table }
  lock := .transfer

def feeConfigs : Relation FeeConfig.accountId where
  table := World.feeConfigs
  put := fun table world => { world with feeConfigs := table }
  lock := .feeConfig

def collections : Relation Collection.reference where
  table := World.collections
  put := fun table world => { world with collections := table }
  lock := .collection

def deposits : Relation Deposit.reference where
  table := World.deposits
  put := fun table world => { world with deposits := table }
  lock := .deposit

def payouts : Relation Payout.reference where
  table := World.payouts
  put := fun table world => { world with payouts := table }
  lock := .payout

def batches : Relation DisbursementBatch.reference where
  table := World.batches
  put := fun table world => { world with batches := table }
  lock := .batch

def payoutLinks : Relation PayoutLink.tokenHash where
  table := World.payoutLinks
  put := fun table world => { world with payoutLinks := table }
  lock := .payoutLink

def accounts : Relation Account.id where
  table := World.accounts
  put := fun table world => { world with accounts := table }
  lock := .account

def permissions : Relation ServicePermission.key where
  table := World.permissions
  put := fun table world => { world with permissions := table }
  lock := .permission

def smsMessages : Relation SmsMessage.reference where
  table := World.smsMessages
  put := fun table world => { world with smsMessages := table }
  lock := .smsMessage

def endpoints : Relation WebhookEndpoint.id where
  table := World.endpoints
  put := fun table world => { world with endpoints := table }
  lock := .endpoint

def settlementAccounts : Relation SettlementAccount.id where
  table := World.settlementAccounts
  put := fun table world => { world with settlementAccounts := table }
  lock := .settlementAccount

def plans : Relation Plan.id where
  table := World.plans
  put := fun table world => { world with plans := table }
  lock := .plan

def accountPlans : Relation AccountPlan.accountId where
  table := World.accountPlans
  put := fun table world => { world with accountPlans := table }
  lock := .accountPlan

def apiKeys : Relation ApiKey.id where
  table := World.apiKeys
  put := fun table world => { world with apiKeys := table }
  lock := .apiKey

/-- `walletTransaction.create`. -/
def createLedgerRow (site : Site) (row : WalletTransaction) :
    Statement WalletTransaction where
  label := site
  answer := fun _ => .ok row
  effect := fun _ world => { world with ledger := world.ledger ++ [row] }

/-- `bill.create`. -/
def createBill (site : Site) (bill : Bill) : Statement Bill where
  label := site
  answer := fun _ => .ok bill
  effect := fun _ world => { world with bills := world.bills ++ [bill] }

/-- `job.create`; the answer is the position of the new job. -/
def createJob (site : Site) (job : Job) : Statement ℕ where
  label := site
  answer := fun world => .ok world.jobs.length
  effect := fun _ world => { world with jobs := world.jobs ++ [job] }

/-- `webhookDelivery.create`; the answer is the position of the new delivery. -/
def createDelivery (site : Site) (delivery : WebhookDelivery) :
    Statement ℕ where
  label := site
  answer := fun world => .ok world.deliveries.length
  effect := fun _ world =>
    { world with deliveries := world.deliveries ++ [delivery] }

/-- `PrismaService.resolveAccountId`: an internal row id or a public
identifier. -/
def resolveAccountId (idOrPublicId : String) : Db (Option AccountId) :=
  if idOrPublicId = "" then pure none
  else do
    let byId ← Program.perform (select "account.findUnique(id)" fun world =>
      world.accounts.find? idOrPublicId)
    match byId with
    | some account => pure (some account.id)
    | none =>
        let byPublic ← Program.perform
          (select "account.findUnique(accountId)" fun world =>
          world.accounts.rows.find? fun account =>
            account.accountId == idOrPublicId)
        pure (byPublic.map Account.id)

end CloudStudio.Platform
