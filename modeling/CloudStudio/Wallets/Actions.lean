import CloudStudio.Platform.Guards
import CloudStudio.Wallets.Model

/-!
# Deposits and withdrawals by API key

`WalletController.deposit` and `.withdraw`, which need `walletActions` on a
permission of the account.
-/

namespace CloudStudio.Wallets

open CloudStudio.Data CloudStudio.Transactions CloudStudio.Platform

/-- The service whose permission covers a wallet. -/
def walletService : WalletType → ServiceKey
  | .collection => .collection
  | .disbursement => .disbursement

/-- `meta?.walletActions === true`. -/
def walletActions (permission : ServicePermission) : Bool :=
  match permission.permissionMeta.bind (Json.get? "walletActions") with
  | some (.bool true) => true
  | _ => false

def assertWalletActions (request : RequestAccount) (type : WalletType) :
    Except AppError Unit :=
  let service := walletService type
  match request.permission? service with
  | some permission =>
      if permission.granted ∧ walletActions permission then .ok ()
      else
        .error (.forbidden .walletActionsNotGranted
          s!"Wallet deposit/withdrawal requires \"walletActions\" permission on the {serviceName service} service")
  | none =>
      .error (.forbidden .walletActionsNotGranted
        s!"Wallet deposit/withdrawal requires \"walletActions\" permission on the {serviceName service} service")

/-- The body of a deposit or withdrawal; the actor is the API key. -/
structure WalletAmount where
  amount : NumberInput
  reason : String
  reference : Option String := none

/-- A movement the account asks for itself. -/
def walletAction (now : Time) (txType : WalletTxType) (title : String)
    (apiKeyId : String) (request : RequestAccount) (type : WalletType)
    (dto : WalletAmount) : Db WalletTransaction :=
  match assertWalletActions request type with
  | .error error => .threw error
  | .ok () =>
      move now
        { accountId := request.account.id
          type
          txType
          amount := dto.amount
          description := s!"{title}: {dto.reason}"
          reference := dto.reference
          actorId := some apiKeyId }

def deposit (now : Time) (apiKeyId : String) (request : RequestAccount)
    (type : WalletType) (dto : WalletAmount) : Db WalletTransaction :=
  walletAction now .deposit "API deposit" apiKeyId request type dto

def withdraw (now : Time) (apiKeyId : String) (request : RequestAccount)
    (type : WalletType) (dto : WalletAmount) : Db WalletTransaction :=
  walletAction now .withdrawal "API withdrawal" apiKeyId request type dto

end CloudStudio.Wallets
