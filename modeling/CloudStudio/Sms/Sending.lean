import CloudStudio.Payouts.Creation
import CloudStudio.Sms.Messages

/-!
# Accepting messages

`SmsService.send`: the recipients, the sender name, the message row, the bill of
a pay-as-you-go account and the job.  The provider is called later, by the job.
-/

namespace CloudStudio.Sms

open CloudStudio.Data CloudStudio.Transactions CloudStudio.Platform
open CloudStudio.Payments
open CloudStudio.Payouts

/-- `sms.defaultSender` and `sms.rateTzs`, with the text the language prints for
it. -/
structure SmsConfig where
  defaultSender : String
  rate : NumberInput
  rateText : String

/-- The body of a send request; `scheduleAt` is in ISO form. -/
structure SendSms where
  senderName : Option String := none
  message : String
  recipients : List String
  scheduleAt : Option String := none

/-- `Array.from(new Set(numbers))`: each once, where it first stands. -/
def distinct (numbers : List String) : List String :=
  numbers.foldl
    (fun kept number => if number ∈ kept then kept else kept ++ [number]) []

/-- A dedicated approved sender name of the account. -/
def dedicatedSender (accountId : AccountId) (wanted : Option String)
    (world : World) : Option SenderName :=
  world.senderNames.find? fun sender =>
    sender.accountId = some accountId ∧ sender.type = .dedicated ∧
      sender.isApproved ∧
      ∀ name ∈ wanted, sender.name = name

/-- An approved sender name of all accounts. -/
def sharedSender (name : String) (world : World) : Option SenderName :=
  world.senderNames.find? fun sender =>
    sender.accountId = none ∧ sender.name = name ∧ sender.type = .shared ∧
      sender.isApproved

/-- Dedicated first, then shared; without a request the account's dedicated
sender, or the platform's. -/
def resolveSender (config : SmsConfig) (accountId : AccountId)
    (requested : Option String) : Db String :=
  match nonEmpty requested with
  | some requested => do
      let name := Text.toUpperCase requested
      let dedicated ← Program.perform
        (select "sender.dedicated" (dedicatedSender accountId (some name)))
      match dedicated with
      | some _ => pure name
      | none => do
          let shared ← Program.perform
            (select "sender.shared" (sharedSender name))
          match shared with
          | some _ => pure name
          | none => .threw (.forbidden .invalidSender
              s!"Sender name \"{requested}\" is not approved for this account (dedicated or shared senders only)")
  | none => do
      let dedicated ← Program.perform
        (select "sender.default" (dedicatedSender accountId none))
      pure ((dedicated.map SenderName.name).getD config.defaultSender)

/-- `meta?.payAsYouGo === true`. -/
def payAsYouGo (permission : ServicePermission) : Bool :=
  match permission.permissionMeta.bind (Json.get? "payAsYouGo") with
  | some (.bool true) => true
  | _ => false

def smsBill (now : Time) (rateText : String) (rate : Decimal)
    (accountId : AccountId) (recipients : ℕ) (reference : Reference) :
    Bill where
  accountId
  type := .payAsYouGo
  title := s!"SMS usage ({reference})"
  description := s!"{recipients} recipient(s) at {rateText} TZS each"
  amount := Money.round (rate * recipients)
  metadata := some (.sms reference recipients rate)
  createdAt := now

/-- Bills a send when the account's permission says so. -/
def maybeIssuePaygBill (now : Time) (config : SmsConfig) (accountId : AccountId)
    (recipients : ℕ) (reference : Reference) : Db Unit := do
  let permission ← Program.perform (select "sms.permission" fun world =>
    world.permissions.find? ⟨accountId, .sms⟩)
  match permission with
  | none => pure ()
  | some permission =>
      if permission.granted ∧ payAsYouGo permission then
        match config.rate with
        | .value rate =>
            Program.discard (Program.perform (createBill "bill.create"
            (smsBill now config.rateText rate accountId recipients reference)))
        | .nonFinite | .malformed => .threw .invalidValue
      else pure ()

def newMessage (now : Time) (accountId : AccountId) (dto : SendSms)
    (senderName : String) (unique : List String) (reference : Reference) :
    SmsMessage where
  accountId
  reference
  senderName
  message := dto.message
  recipients := unique.zipIdx.map fun recipient =>
    { recipientId := recipient.2 + 1, destAddr := recipient.1 }
  recipientCount := unique.length
  scheduledAt := nonEmpty dto.scheduleAt
  createdAt := now
  updatedAt := now

/-- Validate, persist, bill and queue. -/
def send (now : Time) (random : List Char) (config : SmsConfig)
    (accountId : AccountId) (dto : SendSms) : Db SmsMessage := do
  let account ← findAccount accountId
  let normalized := dto.recipients.filterMap normalizePhoneNumber
  if normalized = [] then
    .threw (.badRequest .validationFailed
      "No valid recipient numbers after normalization")
  else do
    let unique := distinct normalized
    let senderName ← resolveSender config accountId dto.senderName
    match buildReference random account.sourceCode none with
    | .error error => .threw error
    | .ok reference => do
        let sms ← Program.perform (smsMessages.create "sms.create"
          (newMessage now accountId dto senderName unique reference))
        maybeIssuePaygBill now config accountId unique.length reference
        let _ ← enqueue "sms.enqueue" now (.smsSend sms.reference)
        pure sms

end CloudStudio.Sms
