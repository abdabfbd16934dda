import CloudStudio.Admin.Routes
import CloudStudio.Transactions.Commitments

/-!
# Staff

`common/guards/jwt-auth.guard.ts` and `common/guards/roles.guard.ts` before the
routes of the staff.  `@Roles('ADMIN', 'SERVICEMAN')` grants read access to
servicemen, route by route: the one thing their requests can write is the
default fee schedule of an account that has none. Routes on tables that are not
part of the model (audit rows, analytics, traces, staff) are left out.
-/

namespace CloudStudio.Admin

open CloudStudio.Data CloudStudio.Transactions CloudStudio.Platform
open CloudStudio.Billing

/-- The response of a guard that turns a request down. -/
structure Refusal where
  status : HttpStatus
  code : String
  message : String
  deriving DecidableEq

/-- What a token carries. -/
structure JwtPayload where
  sub : String
  email : String
  name : String
  role : Option String

/-- `header.split(' ')` is a `bearer` scheme and a token. -/
def bearerToken? (authorization : Option String) : Option String :=
  match (authorization.getD "").toList.splitOn ' ' with
  | scheme :: token :: _ =>
      if scheme.map Char.toLower = "bearer".toList ∧ token ≠ [] then
        some (String.ofList token)
      else none
  | _ => none

/-- `JwtAuthGuard`; `verifyAsync` is that of the JWT library. -/
def jwtAuthGuard (verifyAsync : String → Option JwtPayload)
    (authorization : Option String) : Except Refusal JwtPayload :=
  match bearerToken? authorization with
  | none => .error ⟨.unauthorized, "UNAUTHORIZED", "Missing bearer token"⟩
  | some token =>
      match verifyAsync token with
      | none =>
          .error ⟨.unauthorized, "UNAUTHORIZED", "Invalid or expired token"⟩
      | some payload => .ok payload

def roleRefused (role : String) : Refusal :=
  ⟨.forbidden, "FORBIDDEN", s!"Role \"{role}\" may not access this resource"⟩

/-- `RolesGuard`. -/
def rolesGuard (required : List String) (user : JwtPayload) :
    Except Refusal Unit :=
  if required = [] then .ok ()
  else
    match nonEmpty user.role with
    | none => .error ⟨.forbidden, "FORBIDDEN", "Authentication required"⟩
    | some role => if role ∈ required then .ok () else .error (roleRefused role)

structure AccountRow where
  account : Account
  wallets : List Wallet

structure AccountPage where
  items : List AccountRow
  total : ℕ

/-- `AccountsService.list`, with the creation times of the accounts and
PostgreSQL's `ILIKE` as arguments. -/
def listAccounts (createdAt : Account → Time)
    (contains : String → String → Bool) (skip take : ℕ)
    (status : Option AccountStatus) (search : Option String) : Db AccountPage :=
  Program.perform (select "account.findMany" fun world =>
    let rows := world.accounts.rows.filter fun account =>
      (∀ wanted ∈ status, account.status = wanted) ∧
        ∀ text ∈ nonEmpty search, contains account.accountName text = true ∨
          contains account.accountId text = true
    { items := (newestFirst createdAt skip take rows).map fun account =>
        { account, wallets := walletsOf world account.id }
      total := rows.length })

/-- `BillingService.listPlans`, with the creation times of the plans. -/
def listPlans (createdAt : Plan → Time) : Db (List Plan) :=
  Program.perform (select "plan.findMany" fun world =>
    (world.plans.rows.filter Plan.isActive).mergeSort fun first second =>
      createdAt first ≤ createdAt second)

/-- `plan.create`: the name is unique too. -/
def insertPlan (plan : Plan) : Statement Plan :=
  { plans.create "plan.create" plan with
    answer := fun world =>
      if world.plans.rows.any fun row =>
        row.name = plan.name then .error .uniqueViolation
      else (plans.create "plan.create" plan).answer world }

/-- `BillingService.createPlan`; the services of a plan are not part of the
model. -/
def createPlan (id name : String) (description : Option String)
    (recurringAmount : Money) (periodDays : Option ℕ) : Db Plan := do
  let name := Text.trim name
  let clash ← Program.perform (select "plan.findUnique(name)" fun world =>
    world.plans.rows.find? fun plan => plan.name = name)
  match clash with
  | some _ =>
      .threw (.conflict .validationFailed
      "A plan with this name already exists")
  | none =>
      Program.perform (insertPlan
        { id, name, description, recurringAmount
          periodDays := periodDays.getD 30 })

inductive StaffRoute where
  | account (accountId : String) (op : AdminOp)
  | createAccount (now : Time) (generated : Accounts.Generated)
      (dto : Accounts.CreateAccountDto)
  | listAccounts (createdAt : Account → Time) (contains : String → String →
      Bool)
      (skip take : ℕ) (status : Option AccountStatus) (search : Option String)
  | createPlan (id name : String) (description : Option String)
      (recurringAmount : Money) (periodDays : Option ℕ)
  | listPlans (createdAt : Plan → Time)

def StaffRoute.Response : StaffRoute → Type
  | .account _ op => op.Response × List AnalyticsEvent
  | .createAccount .. => Account
  | .listAccounts .. => AccountPage
  | .createPlan .. => Plan
  | .listPlans _ => List Plan

def StaffRoute.program : (route : StaffRoute) → Db route.Response
  | .account accountId op => op.program accountId
  | .createAccount now generated dto => Accounts.create now generated dto
  | .listAccounts createdAt contains skip take status search =>
      Admin.listAccounts createdAt contains skip take status search
  | .createPlan id name description recurringAmount periodDays =>
      Admin.createPlan id name description recurringAmount periodDays
  | .listPlans createdAt => Admin.listPlans createdAt

/-- `@Roles` of the routes of an account. -/
def AdminOp.roles : AdminOp → List String
  | .detail | .overview _ | .computations _ | .wallets | .transactions
      .. | .bills ..
  | .fees | .settlements => ["ADMIN", "SERVICEMAN"]
  | .deposit .. | .withdraw .. | .freeze _ | .unfreeze _ | .permissions
      _ | .issueKey ..
  | .revokeKey .. | .update _ | .suspend | .activate | .assignPlan
      .. | .createBill ..
  | .payBill .. | .updateFees _ | .createSettlement .. | .updateSettlement ..
  | .autoSweep _ | .sweepNow .. => ["ADMIN"]

def StaffRoute.roles : StaffRoute → List String
  | .account _ op => op.roles
  | .listAccounts .. | .listPlans _ => ["ADMIN", "SERVICEMAN"]
  | .createAccount .. | .createPlan .. => ["ADMIN"]

/-- A request of the staff: `UseGuards(JwtAuthGuard, RolesGuard)`, then the
handler. -/
def staffRequest (verifyAsync : String → Option JwtPayload)
    (authorization : Option String) (route : StaffRoute) :
    Db (Except Refusal route.Response) :=
  match jwtAuthGuard verifyAsync authorization with
  | .error refusal => pure (.error refusal)
  | .ok user =>
      match rolesGuard route.roles user with
      | .error refusal => pure (.error refusal)
      | .ok () => do
          let response ← route.program
          pure (.ok response)

/-- At most the default fee schedule of an account that had none has been
added. -/
def AddsDefault (before after : World) : Prop :=
  after = before ∨
    ∃ accountId, (before.accounts.find? accountId).isSome ∧
      before.feeConfigs.find? accountId = none ∧
      after = { before with feeConfigs :=
        before.feeConfigs.insert { accountId } }

/-- No account's fees are another than before. -/
theorem AddsDefault.configOf {before after : World}
    (adds : AddsDefault before after) (accountId : AccountId) :
    after.configOf accountId = before.configOf accountId := by
  rcases adds with rfl | ⟨added, _, absent, rfl⟩
  · rfl
  · simp only [World.configOf, Table.find?_insert]
    by_cases same : added = accountId
    · subst same
      rw [absent]
      simp
    · simp [same]

section

variable {Id : Type}

/-- Nothing is committed by a transaction, and single statements add defaults at
most. -/
def readOnly : Stakes Id World Site where
  marked := fun _ => false
  valid := fun _ => True
  quiet := AddsDefault
  stake := fun _ _ _ => False
  valid_quiet := fun _ _ => trivial
  valid_stake := fun _ _ => trivial

def ReadsOnly {Result : Type} (id : Id) (program : Db Result) : Prop :=
  program.Obeys readOnly id (fun _ => True) fun _ => True

variable {Answer Result : Type} {id : Id}

namespace ReadsOnly

theorem bind {program : Db Answer} {rest : Answer → Db Result}
    (first : ReadsOnly id program)
    (next : ∀ answer, ReadsOnly id (rest answer)) :
    ReadsOnly id (program >>= rest) :=
  Program.Obeys.bind (first.mono (fun answer _ => next answer)
    fun answer _ => next answer)

theorem select {site : Site} {view : World → Answer} :
    ReadsOnly id (Program.perform (Platform.select site view)) :=
  Program.Obeys.perform rfl fun _ _ _ _ => ⟨.inl rfl, trivial⟩

theorem resolveAccountId (idOrPublicId : String) :
    ReadsOnly id (Platform.resolveAccountId idOrPublicId) := by
  unfold Platform.resolveAccountId
  split
  · exact trivial
  · apply select.bind
    intro byId
    cases byId with
    | some account => exact trivial
    | none => exact select.bind fun _ => trivial

theorem getWallet (accountId : String) (type : WalletType) :
    ReadsOnly id (Wallets.getWallet accountId type) := by
  apply (resolveAccountId accountId).bind
  intro resolved
  apply select.bind
  intro wallet
  cases wallet <;> exact trivial

theorem getByPublicId (accountPublicId : String) :
    ReadsOnly id (Admin.getByPublicId accountPublicId) := by
  apply select.bind
  intro byPublic
  cases byPublic with
  | some account => exact trivial
  | none =>
      apply select.bind
      intro byId
      cases byId <;> exact trivial

theorem orNotFound {program : Db (Option Answer)}
    (reads : ReadsOnly id program) :
    ReadsOnly id (Admin.orNotFound program) := by
  apply reads.bind
  intro found
  cases found <;> exact trivial

theorem accountOverview (pages : OverviewPages) (accountId : String) :
    ReadsOnly id (Admin.accountOverview pages accountId) := by
  apply (resolveAccountId accountId).bind
  intro resolved
  cases resolved with
  | none => exact trivial
  | some resolved =>
      apply select.bind
      intro account
      cases account with
      | none => exact trivial
      | some account => exact select

theorem reviewWallets (range : DateRange) (wallets : List Wallet) :
    ReadsOnly id (Admin.reviewWallets range wallets) := by
  induction wallets with
  | nil => exact trivial
  | cons wallet rest ih =>
      apply select.bind
      intro rows
      exact ih.bind fun _ => trivial

theorem computations (accountId : String) (range : DateRange) :
    ReadsOnly id (Admin.computations accountId range) := by
  apply (resolveAccountId accountId).bind
  intro resolved
  cases resolved with
  | none => exact trivial
  | some resolved =>
      apply select.bind
      intro wallets
      cases wallets with
      | none => exact trivial
      | some wallets => exact (reviewWallets range wallets).bind fun _ =>
          trivial

/-- The row is created for an account that exists and has none. -/
theorem getFeeConfig (accountId : String) :
    ReadsOnly id (Admin.getFeeConfig accountId) := by
  apply select.bind
  intro existing
  cases existing with
  | some config => exact trivial
  | none =>
      apply Program.Obeys.catching
      · refine Program.Obeys.perform rfl fun world _ answer answered =>
          ⟨.inr ?_, trivial⟩
        simp only [createFeeConfig] at answered
        split at answered
        · rename_i exists_
          exact ⟨accountId, exists_, (Relation.create_ok answered).1, rfl⟩
        · cases answered
      · intro _
        apply select.bind
        intro row
        cases row <;> exact trivial
      · exact fun _ _ => trivial

theorem untracked {program : Db Answer} (reads : ReadsOnly id program) :
    ReadsOnly id (Admin.untracked program) :=
  reads.bind fun _ => trivial

/-- A route of an account that servicemen may use. -/
theorem adminOp {op : AdminOp} (accountId : String)
    (granted : "SERVICEMAN" ∈ op.roles) :
    ReadsOnly id (op.program accountId) := by
  cases op with
  | detail => exact (getByPublicId accountId).untracked
  | overview pages =>
      exact (accountOverview pages accountId).orNotFound.untracked
  | computations range =>
      exact (computations accountId range).orNotFound.untracked
  | wallets =>
      exact ((resolveAccountId accountId).bind fun _ => select).untracked
  | transactions type skip take =>
      exact ((getWallet accountId type).bind fun _ => select).untracked
  | bills skip take status =>
      exact ((resolveAccountId accountId).bind fun _ => select).untracked
  | fees => exact (getFeeConfig accountId).untracked
  | settlements => exact select.untracked
  | _ => simp [AdminOp.roles] at granted

theorem route {route : StaffRoute} (granted : "SERVICEMAN" ∈ route.roles) :
    ReadsOnly id route.program := by
  cases route with
  | account accountId op => exact adminOp accountId granted
  | listAccounts => exact select
  | listPlans => exact select
  | createAccount => simp [StaffRoute.roles] at granted
  | createPlan => simp [StaffRoute.roles] at granted

end ReadsOnly

/-! ## Runs -/

/-- The request carries a valid token of a serviceman. -/
def Serviceman (verifyAsync : String → Option JwtPayload)
    (authorization : Option String) : Prop :=
  ∃ user, jwtAuthGuard verifyAsync authorization = .ok user ∧
    user.role = some "SERVICEMAN"

theorem rolesGuard_serviceman {required : List String} {user : JwtPayload}
    (restricted : required ≠ []) (role : user.role = some "SERVICEMAN") :
    rolesGuard required user =
      if "SERVICEMAN" ∈ required then .ok () else .error
        (roleRefused "SERVICEMAN") := by
  unfold rolesGuard
  rw [if_neg restricted, role]
  rfl

theorem StaffRoute.roles_ne_nil (route : StaffRoute) : route.roles ≠ [] := by
  cases route with
  | account accountId op => cases op <;> exact List.cons_ne_nil _ _
  | _ => exact List.cons_ne_nil _ _

variable {verifyAsync : String → Option JwtPayload}
  {authorization : Option String}

theorem staffRequest_refused (serviceman : Serviceman verifyAsync authorization)
    {route : StaffRoute} (reserved : "SERVICEMAN" ∉ route.roles) :
    staffRequest verifyAsync authorization route =
      .returned (.error (roleRefused "SERVICEMAN")) := by
  obtain ⟨user, passes, role⟩ := serviceman
  unfold staffRequest
  rw [passes]
  simp only [rolesGuard_serviceman route.roles_ne_nil role, if_neg reserved]
  rfl

theorem staffRequest_readsOnly
    (serviceman : Serviceman verifyAsync authorization) (route : StaffRoute) :
    ReadsOnly id (staffRequest verifyAsync authorization route) := by
  by_cases granted : "SERVICEMAN" ∈ route.roles
  · obtain ⟨user, passes, role⟩ := serviceman
    unfold staffRequest
    rw [passes]
    simp only [rolesGuard_serviceman route.roles_ne_nil role, if_pos granted]
    exact (ReadsOnly.route granted).bind fun _ => trivial
  · rw [staffRequest_refused serviceman granted]
    exact trivial

/-- A request of the staff, or any other call that runs meanwhile. -/
inductive Caller where
  | staff (authorization : Option String) (route : StaffRoute)
  | other (program : Db Unit)

def Caller.program (verifyAsync : String → Option JwtPayload) : Caller → Db Unit
  | .staff authorization route =>
      Program.discard (staffRequest verifyAsync authorization route)
  | .other program => program

variable [DecidableEq Id]

/-- A request of a serviceman: each of its steps leaves the database as it is
but for a default fee schedule, which changes no fee, and a route reserved to
admins runs no step. -/
theorem serviceman_reads_only (world : World) (callers : Id → Caller)
    (schedule : List (Event Id AppError)) (event : Event Id AppError)
    (route : StaffRoute) (asks : callers event.id = .staff authorization route)
    (serviceman : Serviceman verifyAsync authorization) :
    let before :=
      (Config.start world fun id => (callers id).program verifyAsync).run
      schedule
    AddsDefault before.state (before.step event).state ∧
      (∀ accountId, (before.step event).state.configOf accountId =
        before.state.configOf accountId) ∧
      ("SERVICEMAN" ∉ route.roles →
        staffRequest verifyAsync authorization route =
          .returned (.error (roleRefused "SERVICEMAN"))) := by
  intro before
  have reads : ReadsOnly event.id ((callers event.id).program verifyAsync) := by
    rw [asks]
    exact (staffRequest_readsOnly serviceman route).bind fun _ => trivial
  have start :
    ((Config.start world fun id => (callers id).program verifyAsync).thread
      event.id).Obeys readOnly event.id (fun _ => True) (fun _ => True) := reads
  have obeys : (before.thread event.id).Obeys readOnly event.id (fun _ => True)
      (fun _ => True) :=
    Config.calm_run (fun _ _ => id) (fun _ => trivial) start schedule
  have adds : AddsDefault before.state (before.step event).state := by
    rcases (Config.calm_step (fun _ _ => id) trivial obeys).2 with same | adds
    · exact .inl same
    · exact adds
  exact ⟨adds, adds.configOf, staffRequest_refused serviceman⟩

/-- An account whose fees nobody has asked for yet. -/
def unpriced : Account where
  id := "a"
  accountId := "ACC-1"
  sourceCode := "AAAAA"

def watcherToken (token : String) : Option JwtPayload :=
  if token = "t" then
    some { sub := "s", email := "w@z.test", name := "Watcher", role := some "SERVICEMAN" }
  else none

/-- A serviceman reads the fees of an account while they are set for the first
time. -/
def feeCallers (reads : Bool) : Caller :=
  if reads then .staff (some "Bearer t") (.account "a" .fees)
  else .other (Program.discard (getFeeConfig "a"))

theorem serviceman_reads_only_fees :
    let world : World := { accounts := Table.empty.insert unpriced }
    let before :=
      (Config.start world fun id => (feeCallers id).program watcherToken).run
      [.run true, .run false]
    AddsDefault before.state (before.step (.run true)).state :=
  (serviceman_reads_only _ feeCallers [.run true, .run false] (.run true)
    (.account "a" .fees) rfl ⟨_, rfl, rfl⟩).1

end

end CloudStudio.Admin
