import CloudStudio.Platform.Database

/-!
# Who may call

`common/guards` and the account operations of the admin: API-key authentication,
the permission gate of a route, suspending an account and setting its
permissions.  A caller is its account: `Accounts.ApiKeys` finds the account of a
key.
-/

namespace CloudStudio.Platform

open CloudStudio.Data CloudStudio.Transactions

def serviceName : ServiceKey → String
  | .collection => "COLLECTION"
  | .disbursement => "DISBURSEMENT"
  | .sms => "SMS"

def channelName : PayoutChannel → String
  | .mobileMoney => "MOBILE_MONEY"
  | .bank => "BANK"

/-- `item === text`. -/
def Json.isText (text : String) : Json → Bool
  | .str other => other == text
  | _ => false

/-- `meta?.channels` does not stand against the channel: it is no array, or an
empty one, or includes it. -/
def channelAllowed (permissionMeta : Option Json) (channel : PayoutChannel) :
    Bool :=
  match permissionMeta.bind (Json.get? "channels") with
  | some (.arr channels) =>
      channels.isEmpty || channels.any (Json.isText (channelName channel))
  | _ => true

/-- The account of a request, with its permissions. -/
structure RequestAccount where
  account : Account
  permissions : List ServicePermission

def RequestAccount.permission? (request : RequestAccount)
    (service : ServiceKey) : Option ServicePermission :=
  request.permissions.find? fun permission => permission.key.service = service

/-- What of an account and its DISBURSEMENT permission decides about a
payout. -/
structure Grant where
  status : AccountStatus
  granted : Bool
  mobileMoney : Bool
  bank : Bool
  deriving DecidableEq

def Grant.allows (grant : Grant) : PayoutChannel → Bool
  | .mobileMoney => grant.mobileMoney
  | .bank => grant.bank

/-- The account is active and the service is granted. -/
def Grant.Passes (grant : Grant) : Prop :=
  grant.status = .active ∧ grant.granted = true

instance (grant : Grant) : Decidable grant.Passes :=
  inferInstanceAs (Decidable (_ ∧ _))

def grantOf (account : Account) (permission : Option ServicePermission) :
    Grant where
  status := account.status
  granted := permission.any ServicePermission.granted
  mobileMoney :=
    channelAllowed (permission.bind ServicePermission.permissionMeta)
    .mobileMoney
  bank := channelAllowed (permission.bind ServicePermission.permissionMeta)
    .bank

theorem allows_grantOf (account : Account)
    (permission : Option ServicePermission) (channel : PayoutChannel) :
    (grantOf account permission).allows channel =
      channelAllowed (permission.bind ServicePermission.permissionMeta)
        channel := by
  cases channel <;> rfl

/-- What a request's guards read about payouts. -/
def RequestAccount.grant (request : RequestAccount) : Grant :=
  grantOf request.account (request.permission? .disbursement)

/-- What they would read in this state. -/
def World.grant? (world : World) (accountId : AccountId) : Option Grant :=
  (world.accounts.find? accountId).map fun account =>
    grantOf account (world.permissions.find? ⟨accountId, .disbursement⟩)

/-- `ApiKeyGuard`. -/
def apiKeyGuard (accountId : AccountId) : Db RequestAccount := do
  let found ← Program.perform (select "apiKey.findUnique" fun world =>
    (world.accounts.find? accountId).map fun account =>
      ({ account, permissions := world.permissions.rows.filter fun permission =>
          permission.key.accountId = accountId } : RequestAccount))
  match found with
  | none =>
      .threw (.http .unauthorized .apiKeyRevoked
      "API key is invalid or has been revoked")
  | some request =>
      if request.account.status = .suspended then
        .threw (.http .unauthorized .accountSuspended
          s!"Account \"{request.account.accountName}\" is suspended. Contact the platform admin.")
      else pure request

/-- `ServicePermissionGuard`, for the service and channel of the route. -/
def servicePermissionGuard (request : RequestAccount) (service : ServiceKey)
    (channel : Option PayoutChannel) : Except AppError Unit :=
  match request.permission? service with
  | none => .error (.forbidden .serviceNotGranted
      s!"Service \"{serviceName service}\" is not granted to this account")
  | some permission =>
      if ¬ permission.granted then
        .error (.forbidden .serviceNotGranted
          s!"Service \"{serviceName service}\" is not granted to this account")
      else
        match channel with
        | none => .ok ()
        | some channel =>
            if channelAllowed permission.permissionMeta channel then .ok ()
            else
              .error (.forbidden .channelNotAllowed
                s!"Channel \"{channelName channel}\" is not allowed for service \"{serviceName service}\" on this account")

/-- A route behind both guards. -/
def guarded {Result : Type} (accountId : AccountId) (service : ServiceKey)
    (channel : Option PayoutChannel) (handler : RequestAccount → Db Result) :
    Db Result :=
  do
  let request ← apiKeyGuard accountId
  match servicePermissionGuard request service channel with
  | .error error => .threw error
  | .ok () => handler request

/-- `getEntity`: accepts the public accountId or the internal row id. -/
def getEntity (accountId : String) : Db Account := do
  let resolved ← resolveAccountId accountId
  match resolved with
  | none => .threw (.missing .notFound "Account not found")
  | some resolved => do
      let account ← Program.perform
        (accounts.findUnique "account.entity" resolved)
      match account with
      | some account => pure account
      | none => .threw (.missing .notFound "Account not found")

def setStatus (accountId : String) (status : AccountStatus) : Db Account := do
  let account ← getEntity accountId
  if account.status = status then pure account
  else
    Program.perform (accounts.update "account.setStatus" account.id
      (fun account => { account with status }) fun _ => rfl)

/-- All suspensions are performed manually by the admin. -/
def suspend (accountId : String) : Db Account := setStatus accountId .suspended

def activate (accountId : String) : Db Account := setStatus accountId .active

structure PermissionItem where
  service : ServiceKey
  granted : Bool
  permissionMeta : Option Json := none

def PermissionItem.update (item : PermissionItem)
    (permission : ServicePermission) : ServicePermission :=
  { permission with
    granted := item.granted
    permissionMeta := item.permissionMeta.or permission.permissionMeta }

def PermissionItem.create (accountId : AccountId) (item : PermissionItem) :
    ServicePermission where
  key := ⟨accountId, item.service⟩
  granted := item.granted
  permissionMeta := item.permissionMeta

/-- `servicePermission.upsert`. -/
def upsertPermission (accountId : AccountId) (item : PermissionItem) :
    Statement Unit where
  label := "permission.upsert"
  answer := fun _ => .ok ()
  effect := fun met world =>
    match met.permissions.find? ⟨accountId, item.service⟩ with
    | some _ =>
        { world with
          permissions :=
            world.permissions.modify ⟨accountId, item.service⟩ item.update
            fun _ => rfl }
    | none =>
        { world with
          permissions := world.permissions.insert (item.create accountId) }
  locks := fun _ => [.permission ⟨accountId, item.service⟩]

/-- The upserts of one request, in one transaction. -/
def upsertAll (accountId : AccountId) : List PermissionItem → Tx Unit
  | [] => pure ()
  | item :: rest => do
      Body.perform (upsertPermission accountId item)
      upsertAll accountId rest

/-- Grants or revokes service permissions.  Accounts start with none granted. -/
def setPermissions (accountId : String) (items : List PermissionItem) :
    Db (List ServicePermission) := do
  let resolved ← resolveAccountId accountId
  match resolved with
  | none => .threw (.missing .notFound "Account not found")
  | some resolved => do
      Program.atomically "permission.commit" (upsertAll resolved items)
      Program.perform (select "permission.findMany" fun world =>
        world.permissions.rows.filter fun permission =>
          permission.key.accountId = resolved)

end CloudStudio.Platform
