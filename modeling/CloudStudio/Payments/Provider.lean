import CloudStudio.Data.Text
import CloudStudio.Platform.Schema

/-!
# What the payment provider says

Provider records as the status engine reads them, `mapProviderStatus`, and how
`ClickPesaClient.request` turns an HTTP exchange into a result.
-/

namespace CloudStudio.Payments

open CloudStudio.Data CloudStudio.Platform

/-- A member of a provider record: `undefined`, `null`, a value the column it
goes to takes, or something else. -/
inductive Wire (Value : Type) where
  | missing
  | null
  | given (value : Value)
  | illTyped
  deriving DecidableEq

namespace Wire

variable {Value : Type}

/-- `member ?? undefined`. -/
def value? : Wire Value → Option Value
  | .given value => some value
  | .missing | .null | .illTyped => none

def WellTyped (wire : Wire Value) : Prop := wire ≠ .illTyped

instance (wire : Wire Value) : Decidable wire.WellTyped :=
  match wire with
  | .missing | .null | .given _ => isTrue nofun
  | .illTyped => isFalse fun typed => typed rfl

/-- A column written with this member: `undefined` leaves it alone. -/
def assign (wire : Wire Value) (column : Option Value) : Option Value :=
  match wire with
  | .given value => some value
  | .null => none
  | .missing | .illTyped => column

end Wire

/-- The members of a payment or payout record the engine reads. -/
structure ProviderRecord where
  status : Wire String := .missing
  id : Wire String := .missing
  paymentReference : Wire String := .missing
  collectedAmount : Wire Decimal := .missing
  collectedCurrency : Wire String := .missing
  fee : Wire Decimal := .missing
  message : Wire String := .missing
  customer : Option Json := none

/-- Maps provider statuses to internal ones. -/
def mapProviderStatus (status : Option String) : TxStatus :=
  match Text.toUpperCase (status.getD "") with
  | "SUCCESS" | "SUCCESSFUL" | "SETTLED" | "COMPLETED" | "PAID" | "ACCEPTED" =>
      .success
  | "PROCESSING" | "IN_PROGRESS" | "ONGOING" => .processing
  | "FAILED" | "REJECTED" | "CANCELLED" | "CANCELED" | "ERROR" => .failed
  | "REFUNDED" => .refunded
  | "REVERSED" => .reversed
  | "EXPIRED" | "TIMEOUT" => .expired
  | _ => .pending

def TERMINAL_FAIL : List TxStatus := [.failed, .reversed, .refunded]

def FINAL_STATUSES : List TxStatus := [.success, .failed, .reversed, .refunded]

namespace ProviderRecord

/-- `mapProviderStatus(record.status)`, which throws on a status that is not a
string. -/
def nextStatus? (record : ProviderRecord) : Option TxStatus :=
  match record.status with
  | .illTyped => none
  | status => some (mapProviderStatus status.value?)

/-- The columns of a collection or deposit take what the record has for them. -/
def FitsPayment (record : ProviderRecord) : Prop :=
  record.id.WellTyped ∧ record.paymentReference.WellTyped ∧
    record.collectedAmount.WellTyped ∧ record.collectedCurrency.WellTyped ∧
    record.message.WellTyped

/-- The same for a payout. -/
def FitsPayout (record : ProviderRecord) : Prop :=
  record.id.WellTyped ∧ record.fee.WellTyped ∧ record.message.WellTyped

instance (record : ProviderRecord) : Decidable record.FitsPayment :=
  inferInstanceAs (Decidable (_ ∧ _))

instance (record : ProviderRecord) : Decidable record.FitsPayout :=
  inferInstanceAs (Decidable (_ ∧ _))

end ProviderRecord

/-- A member for a text column. -/
def textMember (member : Option Json) : Wire String :=
  match member with
  | none => .missing
  | some .null => .null
  | some (.str text) => .given text
  | some _ => .illTyped

/-- A member for a decimal column, written as `String(member)`.  `decimalOf` is
the decimal library's parser; a text without a finite value has none. -/
def decimalMember (decimalOf : String → Option Decimal) (member : Option Json) :
    Wire Decimal :=
  match member with
  | none => .missing
  | some .null => .null
  | some value =>
      match decimalOf value.toText with
      | some number => .given number
      | none => .illTyped

/-- The record in a webhook's `data`. -/
def recordOf (decimalOf : String → Option Decimal) (data : Json) :
    ProviderRecord where
  status := textMember (data.get? "status")
  id := textMember (data.get? "id")
  paymentReference := textMember (data.get? "paymentReference")
  collectedAmount := decimalMember decimalOf (data.get? "collectedAmount")
  collectedCurrency := textMember (data.get? "collectedCurrency")
  fee := decimalMember decimalOf (data.get? "fee")
  message := textMember (data.get? "message")
  customer := data.present? "customer"

structure ProviderResult (Data : Type) where
  ok : Bool
  data : Option Data := none
  error : Option String := none

/-- One HTTP exchange: an answer, with the detail its body gives for an error,
or none (a timeout, a transport error, a failed authorisation). -/
inductive Exchange (Data : Type) where
  | answered (httpStatus : ℕ) (data : Option Data) (detail : String)
  | lost (message : Option String)

/-- The error text for an answer that is not a success. -/
def providerError (httpStatus : ℕ) (detail : String) : String :=
  let base := s!"ClickPesa {httpStatus}" ++ if detail =
    "" then "" else ": " ++ detail
  if httpStatus = 401 then
    base ++ " — check the ClickPesa dashboard: API key scopes (Collections/Disbursements) must be enabled, Whitelisted IP must include this server's egress IP, and after changing checksum settings tokens must be regenerated"
  else base

def Exchange.result {Data : Type} : Exchange Data → ProviderResult Data
  | .answered httpStatus data detail =>
      if 200 ≤ httpStatus ∧ httpStatus < 300 then { ok := true, data }
      else { ok := false, error := providerError httpStatus detail }
  | .lost message =>
      { ok := false, error := message.getD "ClickPesa request failed" }

/-- `ClickPesaClient.request`: a 401 drops the token and asks once more. -/
def request {Data : Type} (credentialsReady : Bool)
    (first retried : Exchange Data) : ProviderResult Data :=
  if credentialsReady then
    match first with
    | .answered 401 _ _ => retried.result
    | other => other.result
  else { ok := false, error := "ClickPesa credentials not configured" }

end CloudStudio.Payments
