import CloudStudio.Payments.TxnStatus

/-!
# The payout jobs

`DisbursementsService.processPayoutJob` and `processBatchJob`: a pending payout
is created at the provider, and the answer goes to the status engine.  What the
provider does on a call is an argument; `World.rail` keeps its history.
-/

namespace CloudStudio.Payouts

open CloudStudio.Data CloudStudio.Transactions CloudStudio.Platform
open CloudStudio.Payments

/-- The body of a create-payout call. -/
inductive PayoutRequest where
  | mobileMoney (amount : Money) (currency : String)
      (orderReference : Reference) (phoneNumber : Option String)
  | bank (amount : Money) (accountNumber accountName bic : Option String)
      (orderReference : Reference) (accountCurrency currency : String)
      (transferType : Option String)

/-- What the provider does on a create call: whether it executes the payout, and
what comes back, at first and after a refreshed token. -/
structure Behaviour where
  executed : Bool
  first : Exchange ProviderRecord
  retried : Exchange ProviderRecord

def Behaviour.result (behaviour : Behaviour) (credentialsReady : Bool) :
    ProviderResult ProviderRecord :=
  request credentialsReady behaviour.first behaviour.retried

/-- `result.ok && result.data`. -/
def acceptedRecord (result : ProviderResult ProviderRecord) :
    Option ProviderRecord :=
  if result.ok then result.data else none

/-- The record says that the provider failed, reversed or refunded the
payout. -/
def failing (record : ProviderRecord) : Bool :=
  match record.nextStatus? with
  | some status => status ∈ TERMINAL_FAIL
  | none => false

/-- What a create call adds to the history of the rail. -/
def railEvents (reference : Reference) (executed : Bool)
    (accepted : Option ProviderRecord) : List RailEvent :=
  .submission reference executed accepted.isSome ::
    if accepted.any failing then [.failure reference] else []

/-- A call without a usable answer is about a payout that the provider does not
execute, on this call or on another. -/
def Truthful (rail : List RailEvent) (reference : Reference)
    (executed accepted : Bool) : Prop :=
  (accepted = false →
    executed = false ∧ ∀ was, RailEvent.submission reference true was ∉ rail) ∧
  (executed = true → ∀ was, RailEvent.submission reference was false ∉ rail)

instance (rail : List RailEvent) (reference : Reference)
    (executed accepted : Bool) :
    Decidable (Truthful rail reference executed accepted) :=
  inferInstanceAs (Decidable ((_ → _ ∧ _) ∧ (_ → _)))

/-- A create call.  Without credentials nothing is sent. -/
def createOnRail (credentialsReady : Bool) (behaviour : Behaviour)
    (reference : Reference) :
    Statement (ProviderResult ProviderRecord) where
  label := "provider.create"
  answer := fun _ => .ok (behaviour.result credentialsReady)
  effect := fun _ world =>
    { world with
      rail := world.rail ++ railEvents reference
        (credentialsReady && behaviour.executed)
        (acceptedRecord (behaviour.result credentialsReady)) }
  expects := fun expectation world =>
    match expectation with
    | .truthfulAnswer => decide (Truthful world.rail reference
        (credentialsReady && behaviour.executed)
        (acceptedRecord (behaviour.result credentialsReady)).isSome)
    | _ => true

/-- The provider has a record about a payout; a failing one is its own
failure. -/
def noteRecord (reference : Reference) (record : ProviderRecord) :
    Statement Unit where
  label := "provider.record"
  answer := fun _ => .ok ()
  effect := fun _ world =>
    { world with
      rail := world.rail ++ if failing record then [.failure reference] else []
        }

/-- A provider record comes in by webhook or poll. -/
def receiveRecord (now : Time) (reference : Reference)
    (record : ProviderRecord) : Db Unit := do
  Program.perform (noteRecord reference record)
  Program.discard (applyPayoutUpdate now reference record)

/-- `{ ...result.data, status: result.data.status ?? 'PENDING' }`. -/
def orPending (record : ProviderRecord) : ProviderRecord :=
  match record.status with
  | .missing | .null => { record with status := .given "PENDING" }
  | .given _ | .illTyped => record

/-- The provider rejected the request: failed, and refunded by the status
engine. -/
def rejection (error : Option String) : ProviderRecord where
  status := .given "FAILED"
  message :=
    match error with
    | some error => .given error
    | none => .missing

def payoutRequest (payout : Payout) : PayoutRequest :=
  match payout.channel with
  | .mobileMoney => .mobileMoney payout.amount "TZS" payout.reference
      payout.phoneNumber
  | .bank => .bank payout.amount payout.accountNumber payout.accountName
      payout.bic payout.reference "TZS" "TZS" payout.transferType

/-- A batch item's bank request has no transfer type. -/
def batchItemRequest (payout : Payout) : PayoutRequest :=
  match payout.channel with
  | .mobileMoney => .mobileMoney payout.amount "TZS" payout.reference
      payout.phoneNumber
  | .bank => .bank payout.amount payout.accountNumber payout.accountName
      payout.bic payout.reference "TZS" "TZS" none

/-- Both jobs do this for a payout: only a pending one is created. -/
def processPayout (now : Time) (credentialsReady : Bool)
    (provider : PayoutRequest → Behaviour) (requestOf : Payout → PayoutRequest)
    (complete : ProviderRecord → ProviderRecord) (payoutId : Reference) :
    Db Unit :=
  do
  let payout ← Program.perform (payouts.findUnique "payout.job" payoutId)
  match payout with
  | none => pure ()
  | some payout =>
      if payout.status ≠ .pending then pure ()
      else do
        let result ← Program.perform
          (createOnRail credentialsReady (provider (requestOf payout))
            payout.reference)
        match acceptedRecord result with
        | some record =>
            Program.discard
              (applyPayoutUpdate now payout.reference (complete record))
        | none =>
            Program.discard
              (applyPayoutUpdate now payout.reference (rejection result.error))

/-- Queue handler: calls the provider. -/
def processPayoutJob (now : Time) (credentialsReady : Bool)
    (provider : PayoutRequest → Behaviour) (payoutId : Reference) : Db Unit :=
  processPayout now credentialsReady provider payoutRequest orPending payoutId

/-- Queue handler: processes batch items sequentially.  `provider turn` is what
the provider does on the call for the item of this turn. -/
def processBatchJob (now : Time) (credentialsReady : Bool)
    (provider : ℕ → PayoutRequest → Behaviour) (payoutIds : List Reference) :
    Db Unit :=
  Program.forEach payoutIds.zipIdx fun item =>
    processPayout now credentialsReady (provider item.2) batchItemRequest id
      item.1

/-- A missing status counts as pending anyway. -/
theorem nextStatus?_orPending (record : ProviderRecord) :
    (orPending record).nextStatus? = record.nextStatus? := by
  unfold orPending
  cases status : record.status with
  | missing => simp [ProviderRecord.nextStatus?, status, Wire.value?]; decide
  | null => simp [ProviderRecord.nextStatus?, status, Wire.value?]; decide
  | given => rfl
  | illTyped => rfl

end CloudStudio.Payouts
