import CloudStudio.Wallets.Runs

/-!
# Billing

`billing/billing.service.ts`: plans assigned to accounts, the bills of a plan
and those an admin writes.  How many days make a later date is the calendar's
matter and an argument. The billing mode kept on the account and the free
metadata of a manual bill are not part of the model, and a bill is named by its
position.
-/

namespace CloudStudio.Billing

open CloudStudio.Data CloudStudio.Transactions CloudStudio.Platform

/-- `date.setDate(date.getDate() + days)`. -/
abbrev Calendar := Time → ℕ → Time

/-- The row that an assignment writes when the account has none. -/
def newAccountPlan (accountId : AccountId) (plan : Plan)
    (nextBillingDate : Time) :
    AccountPlan where
  accountId := accountId
  planId := plan.id
  recurringAmount := plan.recurringAmount
  periodDays := plan.periodDays
  nextBillingDate := some nextBillingDate

/-- What it changes in the row the account has. -/
def renewedPlan (plan : Plan) (nextBillingDate : Time) (row : AccountPlan) :
    AccountPlan :=
  { row with
    planId := plan.id
    recurringAmount := plan.recurringAmount
    periodDays := plan.periodDays
    nextBillingDate := some nextBillingDate }

/-- `accountPlan.upsert`. -/
def upsertAccountPlan (accountId : AccountId) (plan : Plan)
    (nextBillingDate : Time) :
    Statement AccountPlan where
  label := "accountPlan.upsert"
  answer := fun world => .ok (((world.accountPlans.find? accountId).map
    (renewedPlan plan nextBillingDate)).getD
      (newAccountPlan accountId plan nextBillingDate))
  effect := fun met world =>
    if (met.accountPlans.find? accountId).isSome then
      { world with
        accountPlans :=
          world.accountPlans.modify accountId (renewedPlan plan nextBillingDate)
          fun _ => rfl }
    else
      { world with
        accountPlans := world.accountPlans.insert
          (newAccountPlan accountId plan nextBillingDate) }
  locks := fun _ => [.accountPlan accountId]

/-- The bill of one period of a plan. -/
def planBill (now : Time) (accountId : AccountId)
    (planId planName description : String) (amount : Money) (periodDays : ℕ)
    (dueDate : Time) (issuedBy : String) : Bill where
  accountId := accountId
  type := .subscription
  title := s!"Subscription: {planName}"
  description := description
  amount := amount
  isRecurring := true
  periodDays := some periodDays
  dueDate := some dueDate
  issuedBy := some issuedBy
  metadata := some (.plan planId)
  createdAt := now

/-- The account an identifier names. -/
def namedAccount (accountId : String) : Db Account := do
  let resolved ← resolveAccountId accountId
  match resolved with
  | none => .threw (.missing .notFound "Account not found")
  | some resolved => do
      let account ← Program.perform
        (accounts.findUnique "billing.account" resolved)
      match account with
      | some account => pure account
      | none => .threw (.missing .notFound "Account not found")

/-- Assigns the current plan and recurring amount to the account. -/
def assignPlan (calendar : Calendar) (now : Time) (adminId : String)
    (accountId planId : String) : Db (AccountPlan × Plan) := do
  let plan ← Program.perform (plans.findUnique "plan.find" planId)
  match plan.filter Plan.isActive with
  | none => .threw (.missing .notFound "Plan not found")
  | some plan => do
      let account ← namedAccount accountId
      let nextBillingDate := calendar now plan.periodDays
      let accountPlan ← Program.perform
        (upsertAccountPlan account.id plan nextBillingDate)
      -- keep the account-level billing mode in sync
      let _ ← Program.perform (accounts.update "account.billingMode" account.id
        (fun account => account) fun _ => rfl)
      -- first recurring bill
      let _ ← Program.perform (Platform.createBill "bill.first"
        (planBill now account.id plan.id plan.name (plan.description.getD "")
          plan.recurringAmount plan.periodDays nextBillingDate adminId))
      pure (accountPlan, plan)

structure CreateBillDto where
  type : BillType
  title : String
  description : String := ""
  amount : Money
  isRecurring : Bool := false
  periodDays : Option ℕ := none
  dueDate : Option Time := none

/-- Admin manually assigns a bill to the account. -/
def createBill (now : Time) (adminId : String) (accountId : String)
    (dto : CreateBillDto) :
    Db Bill := do
  let account ← namedAccount accountId
  if dto.type = .subscription then
    .threw (.badRequest .validationFailed
      "Subscription bills are generated via plan assignment or the recurring job")
  else
    Program.perform (Platform.createBill "bill.create"
      { accountId := account.id, type := dto.type, title := dto.title
        description := dto.description, amount := dto.amount
        isRecurring := dto.isRecurring
        periodDays :=
          if dto.isRecurring then some (dto.periodDays.getD 30) else none
        dueDate := dto.dueDate, issuedBy := some adminId, createdAt := now })

/-- `bill.update`. -/
def payBill (now : Time) (billId : ℕ) : Statement Bill where
  label := "bill.pay"
  answer := fun world =>
    match world.bills[billId]? with
    | some bill => .ok { bill with status := .paid, paidAt := some now }
    | none => .error .recordNotFound
  effect := fun _ world =>
    { world with
      bills := world.bills.modify billId fun bill =>
        { bill with status := .paid, paidAt := some now } }

def markBillPaid (now : Time) (accountId : String) (billId : ℕ) : Db Bill := do
  let resolved ← resolveAccountId accountId
  match resolved with
  | none => .threw (.missing .notFound "Bill not found")
  | some resolved => do
      let bill ← Program.perform (select "bill.findFirst" fun world =>
        world.bills[billId]?.filter fun bill => bill.accountId = resolved)
      match bill with
      | none => .threw (.missing .notFound "Bill not found")
      | some _ => Program.perform (payBill now billId)

structure BillPage where
  items : List Bill
  total : ℕ

def listBills (skip take : ℕ) (status : Option BillStatus)
    (accountId : String) :
    Db BillPage := do
  let resolved ← resolveAccountId accountId
  Program.perform (select "bill.findMany" fun world =>
    let rows := world.bills.filter fun bill =>
      bill.accountId = resolved.getD "__none__" ∧ ∀ wanted ∈ status,
        bill.status = wanted
    { items := newestFirst Bill.createdAt skip take rows
      total := rows.length })

/-- A plan to be billed, with the plan's name. -/
structure DuePlan where
  assigned : AccountPlan
  planName : String

/-- At most 200 plans whose date has come. -/
def duePlans (now : Time) (world : World) : List DuePlan :=
  ((world.accountPlans.rows.filter fun row =>
    row.nextBillingDate.any fun date => date ≤ now).take 200).filterMap
      fun row =>
      (world.plans.find? row.planId).map fun plan => ⟨row, plan.name⟩

/-- The bill that falls due, and then the date of the next. -/
def issueRecurring (calendar : Calendar) (now : Time) (due : DuePlan) :
    Db Unit :=
  do
  let dueDate := due.assigned.nextBillingDate.getD now
  let _ ← Program.perform (Platform.createBill "bill.recurring"
    (planBill now due.assigned.accountId due.assigned.planId due.planName ""
      due.assigned.recurringAmount due.assigned.periodDays dueDate "system"))
  let _ ← Program.perform
    (accountPlans.update "accountPlan.advance" due.assigned.accountId
    (fun row => { row with
      nextBillingDate := some (calendar dueDate due.assigned.periodDays) })
        fun _ => rfl)
  pure ()

/-- Cron: issues the next recurring subscription bill for due accounts. -/
def runRecurringBilling (calendar : Calendar) (now : Time) : Db ℕ := do
  let due ← Program.perform (select "accountPlan.findMany" (duePlans now))
  Program.forEach due (issueRecurring calendar now)
  pure due.length

end CloudStudio.Billing
