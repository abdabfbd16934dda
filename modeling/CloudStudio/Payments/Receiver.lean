import CloudStudio.Payments.Checksum
import CloudStudio.Payments.TxnStatus

/-!
# The webhook receiver

`WebhookReceiverController.clickpesa`.  The receiver checks the checksum, routes
the event to the status engine and never answers with an error.
-/

namespace CloudStudio.Payments

open CloudStudio.Data CloudStudio.Transactions CloudStudio.Platform

/-- `body ?? {}`. -/
def payloadOf : Json → Json
  | .null => .obj []
  | body => body

/-- `String(body?.event ?? '').toUpperCase()`. -/
def eventOf (body : Json) : String :=
  Text.toUpperCase (((body.present? "event").map Json.toText).getD "")

/-- `body?.data ?? {}`. -/
def dataOf (body : Json) : Json :=
  (body.present? "data").getD (.obj [])

/-- `String(data.orderReference ?? '')`. -/
def orderReferenceOf (body : Json) : Reference :=
  (((dataOf body).present? "orderReference").map Json.toText).getD ""

/-- Collections and wallet deposits share the payment rail: collections first,
then deposits. -/
def route (now : Time) (event : String) (orderReference : Reference)
    (record : ProviderRecord) : Db Unit :=
  if Text.startsWith event "PAYMENT" then do
    let applied ← applyCollectionUpdate now orderReference record
    Program.when (applied.handled = false)
      (Program.discard (applyDepositUpdate now orderReference record))
  else if Text.startsWith event "PAYOUT" then
    Program.discard (applyPayoutUpdate now orderReference record)
  else pure ()

/-- `POST /webhooks/clickpesa`. -/
def clickpesa (hmac : Hmac) (decimalOf : String → Option Decimal)
    (checksumKey : Option String) (now : Time) (body : Json) : Db Unit :=
  if ¬ verifyClickPesaWebhook hmac checksumKey (payloadOf body) then pure ()
  else if orderReferenceOf body = "" then pure ()
  else
    Program.catching
      (route now (eventOf body) (orderReferenceOf body)
        (recordOf decimalOf (dataOf body)))
      -- never 500 the provider; the cron poller will reconcile
      fun _ => pure ()

end CloudStudio.Payments
