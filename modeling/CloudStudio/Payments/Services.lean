import CloudStudio.Payments.Receiver
import CloudStudio.Platform.Reference

/-!
# The collection and deposit services

`CollectionsService` and `DepositsService`.  A USSD push is initiated at the
provider; its outcome comes by webhook, or is asked for by a refresh or by the
cron poll.  The provider is an argument, and so are the random characters of a
reference.
-/

namespace CloudStudio.Payments

open CloudStudio.Data CloudStudio.Transactions CloudStudio.Platform
open CloudStudio.Wallets

/-- The body of an initiate request.  Its amount has passed the validation
pattern: a decimal of at most two places. -/
structure UssdPushInitiate where
  amount : Money
  currency : Option String := none
  phoneNumber : String
  reference : Option String := none

abbrev invalidReference : AppError :=
  .forbidden .invalidReference
    "Client reference must be 1-15 alphanumeric characters"

def findAccount (accountId : AccountId) : Db Account := do
  let account ← Program.perform (select "account.findUnique" fun world =>
    world.accounts.find? accountId)
  match account with
  | some account => pure account
  | none => .threw (.missing .notFound "Account not found")

/-- Idempotency: rejects a repeated client reference for the same account. -/
def rejectRepeated (site : Site) (repeated : String → World → Bool)
    (message : String) (clientReference : Option String) : Db Unit :=
  match nonEmpty clientReference with
  | none => pure ()
  | some reference => do
      let dupe ← Program.perform
        (select site (repeated (Text.toUpperCase reference)))
      Program.when (dupe = true)
        (.threw (.conflict .duplicateReference message))

/-- The members of `result.data`, if there is any. -/
def answeredRecord (result : ProviderResult ProviderRecord) : ProviderRecord :=
  result.data.getD {}

/-- The columns of the new row take the answer's status and id. -/
def Storable (result : ProviderResult ProviderRecord) : Prop :=
  (answeredRecord result).status.WellTyped ∧
    (answeredRecord result).id.WellTyped

instance (result : ProviderResult ProviderRecord) :
    Decidable (Storable result) :=
  inferInstanceAs (Decidable (_ ∧ _))

/-- The status a row starts with. -/
def initialStatus (result : ProviderResult ProviderRecord) : TxStatus :=
  if result.ok then mapProviderStatus
    (answeredRecord result).status.value? else .pending

def newCollection (now : Time) (accountId : AccountId) (dto : UssdPushInitiate)
    (orderRef : Reference) (result : ProviderResult ProviderRecord) :
    Collection where
  accountId
  reference := orderRef
  clientReference := upperReference dto.reference
  amount := dto.amount
  currency := dto.currency.getD "TZS"
  phoneNumber := dto.phoneNumber
  status := initialStatus result
  providerTxId := (answeredRecord result).id.value?
  providerStatus := (answeredRecord result).status.value?
  createdAt := now
  updatedAt := now

def failedCollection (now : Time) (error : Option String) (row : Collection) :
    Collection :=
  { row with
    status := .failed
    failureReason := some (error.getD "provider error")
    message := error.or row.message
    updatedAt := now }

theorem failedCollection_reference (now : Time) (error : Option String)
    (row : Collection) :
    (failedCollection now error row).reference = row.reference := rfl

/-- The row of an initiated collection; a refused push fails it. -/
def createCollection (now : Time) (row : Collection)
    (result : ProviderResult ProviderRecord) : Db Collection :=
  if ¬ Storable result then .threw .invalidValue
  else do
    let collection ← Program.perform
      (collections.create "collection.create" row)
    if result.ok then pure collection
    else do
      let _ ← Program.perform
        (collections.update "collection.fail" collection.reference
        (failedCollection now result.error)
          (failedCollection_reference now result.error))
      .threw (.forbidden .providerError
        (result.error.getD "Provider rejected the collection request"))

/-- The body of an initiate-push call to the provider. -/
structure PushRequest where
  amount : Money
  currency : String
  orderReference : Reference
  phoneNumber : String
  deriving DecidableEq

def pushRequest (dto : UssdPushInitiate) (orderReference : Reference) :
    PushRequest where
  amount := dto.amount
  currency := dto.currency.getD "TZS"
  orderReference
  phoneNumber := dto.phoneNumber

/-- `provider.initiateUssdPush`. -/
abbrev PushProvider :=
  PushRequest → ProviderResult ProviderRecord

/-- `CollectionsService.initiate`, which builds its reference twice and pushes
under the second. -/
def initiateCollection (now : Time) (random again : List Char)
    (accountId : AccountId) (dto : UssdPushInitiate) (provider : PushProvider) :
    Db Collection :=
  do
  let account ← findAccount accountId
  match buildReference random account.sourceCode dto.reference with
  | .error _ => .threw invalidReference
  | .ok _ => do
      rejectRepeated "collection.findFirst" (fun wanted world =>
          world.collections.rows.any fun row =>
            row.accountId = accountId ∧ row.clientReference = some wanted)
        "A collection with this client reference already exists" dto.reference
      match buildReference again account.sourceCode dto.reference with
      | .error error => .threw error
      | .ok orderRef =>
          let result := provider (pushRequest dto orderRef)
          createCollection now (newCollection now accountId dto orderRef result)
            result

def newDeposit (now : Time) (accountId : AccountId) (wallet : Wallet)
    (dto : UssdPushInitiate) (reference : Reference)
    (result : ProviderResult ProviderRecord) : Deposit where
  accountId
  walletId := wallet.key
  reference
  clientReference := upperReference dto.reference
  amount := dto.amount
  currency := dto.currency.getD "TZS"
  phoneNumber := dto.phoneNumber
  status := initialStatus result
  providerTxId := (answeredRecord result).id.value?
  providerStatus := (answeredRecord result).status.value?
  createdAt := now
  updatedAt := now

def failedDeposit (now : Time) (error : Option String) (row : Deposit) :
    Deposit :=
  { row with
    status := .failed
    failureReason := some (error.getD "provider error")
    message := error.or row.message
    updatedAt := now }

theorem failedDeposit_reference (now : Time) (error : Option String)
    (row : Deposit) :
    (failedDeposit now error row).reference = row.reference := rfl

def createDeposit (now : Time) (row : Deposit)
    (result : ProviderResult ProviderRecord) : Db Deposit :=
  if ¬ Storable result then .threw .invalidValue
  else do
    let deposit ← Program.perform (deposits.create "deposit.create" row)
    if result.ok then pure deposit
    else do
      let _ ← Program.perform (deposits.update "deposit.fail" deposit.reference
        (failedDeposit now result.error)
          (failedDeposit_reference now result.error))
      .threw (.forbidden .providerError
        (result.error.getD "Provider rejected the deposit request"))

/-- `DepositsService.initiate`. -/
def initiateDeposit (now : Time) (random : List Char) (accountId : AccountId)
    (dto : UssdPushInitiate) (provider : PushProvider) : Db Deposit := do
  let account ← findAccount accountId
  let wallet ← Program.perform
    (wallets.findUnique "wallet.find" ⟨accountId, .disbursement⟩)
  match wallet with
  | none => .threw (walletNotFound "DISBURSEMENT wallet not found")
  | some wallet =>
      match buildReference random account.sourceCode dto.reference with
      | .error _ => .threw invalidReference
      | .ok reference => do
          rejectRepeated "deposit.findFirst" (fun wanted world =>
              world.deposits.rows.any fun row =>
                row.accountId = accountId ∧ row.clientReference = some wanted)
            "A deposit with this client reference already exists" dto.reference
          let result := provider (pushRequest dto reference)
          createDeposit now
            (newDeposit now accountId wallet dto reference result) result

/-- What the two services share: their table and the engine that updates it. -/
structure PaymentService {Row : Type} (reference : Row → Reference) where
  name : String
  relation : Relation reference
  accountId : Row → AccountId
  status : Row → TxStatus
  createdAt : Row → Time
  applyUpdate : Time → Reference → ProviderRecord → Db Applied

/-- `result.ok && Array.isArray(result.data) && result.data.length > 0`, and
then `result.data[0]`. -/
def firstRecord (result : ProviderResult (List ProviderRecord)) :
    Option ProviderRecord :=
  if result.ok then result.data.bind List.head? else none

namespace PaymentService

variable {Row : Type} {reference : Row → Reference}
  (service : PaymentService reference)

def get (accountId : AccountId) (wanted : Reference) : Db Row := do
  let row ← Program.perform (select (service.name ++ ".get") fun world =>
    (service.relation.table world).rows.find? fun row =>
      reference row = wanted ∧ service.accountId row = accountId)
  match row with
  | some row => pure row
  | none => .threw (.missing .notFound s!"{service.name} {wanted} not found")

/-- Manual status refresh (client-initiated). -/
def refreshStatus (now : Time) (accountId : AccountId) (wanted : Reference)
    (queryPayment : Reference → ProviderResult (List ProviderRecord)) :
    Db Row :=
  do
  let row ← service.get accountId wanted
  if service.status row ∈ FINAL_STATUSES then pure row
  else
    match firstRecord (queryPayment (reference row)) with
    | some record => do
        Program.discard (service.applyUpdate now (reference row) record)
        service.get accountId wanted
    | none => pure row

/-- The oldest rows still open at the cutoff. -/
def openRows (now afterMs : Time) (batchSize : ℕ) (world : World) :
    List Reference :=
  let due := (service.relation.table world).rows.filter fun row =>
    service.status row ∈ [TxStatus.pending, .processing] ∧
      service.createdAt row + afterMs ≤ now
  ((due.mergeSort fun first second =>
    service.createdAt first ≤ service.createdAt second).take batchSize).map
      reference

/-- One turn of the poll's loop. -/
def pollOne (now : Time)
    (queryPayment : Reference → ProviderResult (List ProviderRecord))
    (wanted : Reference) : Db Unit := do
  let row ← Program.perform
    (service.relation.findUnique (service.name ++ ".find") wanted)
  match row with
  | none => pure ()
  | some _ =>
      match firstRecord (queryPayment wanted) with
      | some record => Program.discard (service.applyUpdate now wanted record)
      | none => pure ()

/-- Cron: polls open rows whose webhook may never arrive. -/
def pollPending (now afterMs : Time) (batchSize : ℕ)
    (queryPayment : Reference → ProviderResult (List ProviderRecord)) : Db ℕ :=
  do
  let pending ← Program.perform (select (service.name ++ ".findMany")
    (service.openRows now afterMs batchSize))
  Program.forEach pending (service.pollOne now queryPayment)
  pure pending.length

end PaymentService

def collectionsService : PaymentService Collection.reference where
  name := "Collection"
  relation := collections
  accountId := Collection.accountId
  status := Collection.status
  createdAt := Collection.createdAt
  applyUpdate := applyCollectionUpdate

def depositsService : PaymentService Deposit.reference where
  name := "Deposit"
  relation := deposits
  accountId := Deposit.accountId
  status := Deposit.status
  createdAt := Deposit.createdAt
  applyUpdate := applyDepositUpdate

end CloudStudio.Payments
