import CloudStudio.Payments.Services
import CloudStudio.Payouts.Settlements
import CloudStudio.Sms.Sending
import CloudStudio.Wallets.Actions
import CloudStudio.Webhooks.Endpoints

/-!
# Requests by API key

The routes by which an account changes something, each behind its guards.  The
clock, random characters, new ids and what a provider answers come with the
request.
-/

namespace CloudStudio.Tenancy

open CloudStudio.Data CloudStudio.Transactions CloudStudio.Platform
open CloudStudio.Payments
open CloudStudio.Payouts CloudStudio.Wallets

inductive Request where
  | collect (random again : List Char) (dto : UssdPushInitiate)
      (result : ProviderResult ProviderRecord)
  | refreshCollection (reference : Reference)
      (queryPayment : Reference → ProviderResult (List ProviderRecord))
  | fund (random : List Char) (dto : UssdPushInitiate)
      (result : ProviderResult ProviderRecord)
  | refreshDeposit (reference : Reference)
      (queryPayment : Reference → ProviderResult (List ProviderRecord))
  | payout (random : List Char) (channel : PayoutChannel) (dto : PayoutDto)
  | batch (random : List Char) (randoms : ℕ → List Char) (dto : CreateBatchDto)
  | payoutLink (tokenHash : String) (dto : CreatePayoutLinkDto)
  | transfer (reference : Reference) (dto : TransferInput)
  | deposit (type : WalletType) (dto : WalletAmount)
  | withdraw (type : WalletType) (dto : WalletAmount)
  | settle (random : List Char) (minPayout : MinPayout) (dto : WithdrawalDto)
  | sendSms (random : List Char) (config : Sms.SmsConfig) (dto : Sms.SendSms)
  | createEndpoint (id : String) (dto : Webhooks.CreateEndpointDto)
  | updateEndpoint (endpointId : String) (dto : Webhooks.UpdateEndpointDto)
  | removeEndpoint (endpointId : String)

/-- The service and channel that `RequireService` asks for; the routes under
`wallets` and `me` ask for none. -/
def Request.gate : Request → Option (ServiceKey × Option PayoutChannel)
  | .collect .. | .fund .. => some (.collection, some .mobileMoney)
  | .refreshCollection .. | .refreshDeposit .. => some (.collection, none)
  | .payout _ channel _ => some (.disbursement, some channel)
  | .batch .. | .payoutLink .. => some (.disbursement, none)
  | .sendSms .. => some (.sms, none)
  | .transfer .. | .deposit .. | .withdraw .. | .settle .. => none
  | .createEndpoint .. | .updateEndpoint .. | .removeEndpoint .. => none

/-- What the controller calls for the account of the key. -/
def Request.handler (now : Time) (apiKeyId : String) (caller : RequestAccount) :
    Request → Db Unit
  | .collect random again dto result =>
      Program.discard
        (initiateCollection now random again caller.account.id dto fun _ =>
        result)
  | .refreshCollection reference queryPayment =>
      Program.discard (collectionsService.refreshStatus now caller.account.id
        (Text.toUpperCase reference) queryPayment)
  | .fund random dto result =>
      Program.discard (initiateDeposit now random caller.account.id dto
        fun _ => result)
  | .refreshDeposit reference queryPayment =>
      Program.discard (depositsService.refreshStatus now caller.account.id
        (Text.toUpperCase reference) queryPayment)
  | .payout random channel dto =>
      Program.discard (createPayout now random caller.account.id channel dto)
  | .batch random randoms dto =>
      Program.discard (createBatch now random randoms caller.account.id dto)
  | .payoutLink tokenHash dto =>
      Program.discard (createPayoutLink now tokenHash caller.account.id dto)
  | .transfer reference dto =>
      Program.discard
        (transferCollectionToDisbursement now reference caller.account.id dto
        (some apiKeyId))
  | .deposit type dto =>
      Program.discard (Wallets.deposit now apiKeyId caller type dto)
  | .withdraw type dto =>
      Program.discard (Wallets.withdraw now apiKeyId caller type dto)
  | .settle random minPayout dto =>
      Program.discard
        (createWithdrawal now random minPayout caller.account.id dto
        (some apiKeyId))
  | .sendSms random config dto =>
      Program.discard (Sms.send now random config caller.account.id dto)
  | .createEndpoint id dto =>
      Program.discard (Webhooks.create id caller.account.id dto)
  | .updateEndpoint endpointId dto =>
      Program.discard (Webhooks.update caller.account.id endpointId dto)
  | .removeEndpoint endpointId => Webhooks.remove caller.account.id endpointId

/-- What `ServicePermissionGuard` says of the route. -/
def Request.allowed (request : Request) (caller : RequestAccount) :
    Except AppError Unit :=
  match request.gate with
  | none => .ok ()
  | some (service, channel) => servicePermissionGuard caller service channel

/-- The handler behind the permission guard. -/
def Request.gated (request : Request) (now : Time) (apiKeyId : String)
    (caller : RequestAccount) : Db Unit :=
  match request.allowed caller with
  | .error error => .threw error
  | .ok () => request.handler now apiKeyId caller

/-- A request of the account whose key it carries. -/
def Request.program (request : Request) (now : Time) (apiKeyId : String)
    (accountId : AccountId) : Db Unit := do
  let caller ← apiKeyGuard accountId
  request.gated now apiKeyId caller

end CloudStudio.Tenancy
