import Mathlib.Logic.Function.Iterate
import CloudStudio.Billing.Model

/-!
# The bills of a plan

`assignPlan` and `runRecurringBilling` of `billing/billing.service.ts`, one
database statement a step and any number of calls at a time.  Both write a bill
for the row's `nextBillingDate`, and the row and the bill are separate
statements that nothing holds together.  A call that stops takes no more steps.
-/

namespace CloudStudio.Billing

open Function CloudStudio.Data CloudStudio.Transactions CloudStudio.Platform

/-- A plan that a run has read, and which of the account's assignments it
was. -/
structure Due where
  plan : DuePlan
  assignment : ℕ

def Due.accountId (due : Due) : AccountId :=
  due.plan.assigned.accountId

/-- The date the bill is for. -/
def Due.date (now : Time) (due : Due) : Time :=
  due.plan.assigned.nextBillingDate.getD now

/-- Where a call stands. -/
inductive Stage where
  | idle
  /-- `assignPlan` has read the plan and the account. -/
  | assigning (now : Time) (adminId : String) (accountId : AccountId)
      (plan : Plan)
  /-- It has written the row of this assignment; the first bill is next. -/
  | firstBill (now : Time) (adminId : String) (accountId : AccountId)
      (plan : Plan) (assignment : ℕ)
  /-- `runRecurringBilling` is at the head of its loop. -/
  | issuing (now : Time) (due : List Due)
  /-- The bill is written; the row's next date is next. -/
  | advancing (now : Time) (due : Due) (rest : List Due)

def Stage.assigning? : Stage → Option Plan
  | .assigning _ _ _ plan => some plan
  | _ => none

def Stage.firstBill? : Stage → Option (AccountId × ℕ)
  | .firstBill _ _ accountId _ assignment => some (accountId, assignment)
  | _ => none

def Stage.advancing? : Stage → Option Due
  | .advancing _ due _ => some due
  | _ => none

/-- A subscription bill, with the assignment it is for and the function that
wrote it. -/
structure Issued where
  assignment : ℕ
  recurring : Bool
  bill : Bill

def Issued.For (accountId : AccountId) (assignment : ℕ) (issued : Issued) :
    Prop :=
  issued.assignment = assignment ∧ issued.bill.accountId = accountId

instance (accountId : AccountId) (assignment : ℕ) (issued : Issued) :
    Decidable (issued.For accountId assignment) :=
  inferInstanceAs (Decidable (_ ∧ _))

/-- The database and the calls; how often each account was assigned a plan, the
first date of its last assignment, and the subscription bills written so far. -/
structure BillingState (Call : Type) where
  world : World
  calls : Call → Stage := fun _ => .idle
  assigned : AccountId → ℕ := fun _ => 0
  firstDate : AccountId → Time := fun _ => 0
  issued : List Issued := []

inductive BillingEvent (Call : Type) where
  | assignStarts (call : Call)
  | assigns (call : Call)
  | firstBill (call : Call)
  | recurringStarts (call : Call)
  | issues (call : Call)
  | advances (call : Call)
  | ends (call : Call)

/-- The bill that `assignPlan` writes. -/
def firstBillOf (calendar : Calendar) (now : Time) (adminId : String)
    (accountId : AccountId) (plan : Plan) : Bill :=
  planBill now accountId plan.id plan.name (plan.description.getD "")
    plan.recurringAmount plan.periodDays (calendar now plan.periodDays) adminId

/-- The bill that a recurring run writes. -/
def recurringBillOf (now : Time) (due : Due) : Bill :=
  planBill now due.accountId due.plan.assigned.planId due.plan.planName ""
    due.plan.assigned.recurringAmount due.plan.assigned.periodDays
      (due.date now) "system"

/-- The statement after it. -/
def advanceDate (calendar : Calendar) (now : Time) (due : Due) :
    Statement AccountPlan :=
  accountPlans.update "accountPlan.advance" due.accountId
    (fun row => { row with
      nextBillingDate :=
        some (calendar (due.date now) due.plan.assigned.periodDays) })
    fun _ => rfl

section

variable {Call : Type} [DecidableEq Call]

def BillingState.enter (state : BillingState Call) (call : Call)
    (stage : Stage) : BillingState Call :=
  { state with calls := update state.calls call stage }

/-- The state after a bill. -/
def BillingState.issue (state : BillingState Call) (issued : Issued) :
    BillingState Call :=
  { state with
    world := (Platform.createBill "bill.create" issued.bill).effect
      state.world state.world
    issued := state.issued ++ [issued] }

/-- The state after the row of an assignment. -/
def BillingState.assign (calendar : Calendar) (state : BillingState Call)
    (now : Time) (accountId : AccountId) (plan : Plan) : BillingState Call :=
  let date := calendar now plan.periodDays
  { state with
    world :=
      (upsertAccountPlan accountId plan date).effect state.world state.world
    assigned := update state.assigned accountId (state.assigned accountId + 1)
    firstDate := update state.firstDate accountId date }

inductive BillingStep (calendar : Calendar) :
    BillingState Call → BillingEvent Call → BillingState Call → Prop where
  /-- The reads before the row is written. -/
  | assignStarts (state : BillingState Call) (call : Call) (now : Time)
      (adminId : String)
      (accountId planId : String) (plan : Plan) (account : Account) :
      state.calls call = .idle →
      (state.world.plans.find? planId).filter Plan.isActive = some plan →
      (namedAccount accountId).run state.world = (.ok account, state.world) →
      BillingStep calendar state (.assignStarts call)
        (state.enter call (.assigning now adminId account.id plan))
  | assigns (state : BillingState Call) (call : Call) (now : Time)
      (adminId : String) (accountId : AccountId) (plan : Plan) :
      state.calls call = .assigning now adminId accountId plan →
      BillingStep calendar state (.assigns call)
        ((state.assign calendar now accountId plan).enter call
          (.firstBill now adminId accountId plan
            (state.assigned accountId + 1)))
  | firstBill (state : BillingState Call) (call : Call) (now : Time)
      (adminId : String)
      (accountId : AccountId) (plan : Plan) (assignment : ℕ) :
      state.calls call = .firstBill now adminId accountId plan assignment →
      BillingStep calendar state (.firstBill call)
        ((state.issue ⟨assignment, false,
          firstBillOf calendar now adminId accountId plan⟩).enter call .idle)
  | recurringStarts (state : BillingState Call) (call : Call) (now : Time) :
      state.calls call = .idle →
      BillingStep calendar state (.recurringStarts call)
        (state.enter call
          (.issuing now ((duePlans now state.world).map fun plan =>
          ⟨plan, state.assigned plan.assigned.accountId⟩)))
  | issues (state : BillingState Call) (call : Call) (now : Time) (due : Due)
      (rest : List Due) :
      state.calls call = .issuing now (due :: rest) →
      BillingStep calendar state (.issues call)
        ((state.issue ⟨due.assignment, true, recurringBillOf now due⟩).enter
          call (.advancing now due rest))
  | advances (state : BillingState Call) (call : Call) (now : Time) (due : Due)
      (rest : List Due) :
      state.calls call = .advancing now due rest →
      BillingStep calendar state (.advances call)
        ({ state with
            world :=
              (advanceDate calendar now due).effect state.world
              state.world }.enter call
          (.issuing now rest))
  | ends (state : BillingState Call) (call : Call) (now : Time) :
      state.calls call = .issuing now [] →
      BillingStep calendar state (.ends call) (state.enter call .idle)

/-- A run from a database, with the state before each event. -/
inductive BillingRun (calendar : Calendar) (world : World) :
    List (BillingState Call × BillingEvent Call) → BillingState Call →
      Prop where
  | start : BillingRun calendar world [] { world := world }
  | step (steps : List (BillingState Call × BillingEvent Call))
      (event : BillingEvent Call) (state next : BillingState Call) :
      BillingRun calendar world steps state →
        BillingStep calendar state event next →
      BillingRun calendar world (steps ++ [(state, event)]) next

/-- No two bills of one assignment are due on the same date. -/
def OncePerDate (issued : List Issued) : Prop :=
  issued.Pairwise fun first second =>
    first.For second.bill.accountId second.assignment →
      first.bill.dueDate ≠ second.bill.dueDate

/-- The recurring bills of the account's last assignment. -/
def BillingState.recurring (state : BillingState Call) (accountId : AccountId) :
    ℕ :=
  state.issued.countP fun issued =>
    issued.recurring ∧ issued.For accountId (state.assigned accountId)

/-- A call has written such a bill and not yet the date. -/
def BillingState.Advancing (state : BillingState Call) (accountId : AccountId) :
    Prop :=
  ∃ call due, (state.calls call).advancing? = some due ∧
    due.accountId = accountId ∧ due.assignment = state.assigned accountId

/-- The row's date is the assignment's first, moved one period for each
recurring bill; only a bill whose call has still to write the date is not
counted. -/
def DatesAdvance (calendar : Calendar) (state : BillingState Call) : Prop :=
  ∀ accountId row, state.world.accountPlans.find? accountId = some row →
    ∃ periods,
      row.nextBillingDate =
        some ((fun date => calendar date row.periodDays)^[periods]
          (state.firstDate accountId)) ∧
      (state.Advancing accountId → periods + 1 = state.recurring accountId) ∧
      (¬ state.Advancing accountId → periods = state.recurring accountId)

/-- The account's row is as the run read it, and no plan has been assigned
since. -/
def Due.Current (state : BillingState Call) (due : Due) : Prop :=
  state.world.accountPlans.find? due.accountId = some due.plan.assigned ∧
    due.assignment = state.assigned due.accountId

/-- A recurring bill is written while the row is as it was read, no call still
has the date of an earlier one to write, and `assignPlan` has written no bill
for the assignment; the date is written while the row is as it was read;
`assignPlan` writes its bill when there is no recurring one yet. -/
def Orderly (state : BillingState Call) : BillingEvent Call → Prop
  | .issues call =>
      ∀ now due rest, state.calls call = .issuing now (due :: rest) →
        due.Current state ∧ ¬ state.Advancing due.accountId ∧
          ∀ issued ∈ state.issued, issued.For due.accountId due.assignment →
            issued.recurring
  | .advances call =>
      ∀ now due rest, state.calls call = .advancing now due rest →
        due.Current state
  | .firstBill call =>
      ∀ accountId assignment,
        (state.calls call).firstBill? = some (accountId, assignment) →
        ∀ issued ∈ state.issued, issued.For accountId assignment →
          issued.recurring = false
  | _ => True

/-- The row of the account's last assignment: its date is past every date a
recurring bill was written for, but for the bill whose call has still to move
it. -/
structure Dated (calendar : Calendar) (state : BillingState Call)
    (accountId : AccountId) (row : AccountPlan) (periods : ℕ) (date : Time) :
    Prop where
  next : row.nextBillingDate = some date
  moved : date =
    (fun date => calendar date row.periodDays)^[periods]
      (state.firstDate accountId)
  between : state.Advancing accountId → periods + 1 = state.recurring accountId
  settled : ¬ state.Advancing accountId → periods = state.recurring accountId
  billed : ∀ issued ∈ state.issued, issued.recurring = true →
    issued.For accountId (state.assigned accountId) →
      ∃ due, issued.bill.dueDate = some due ∧
        (due < date ∨ (state.Advancing accountId ∧ due = date))

structure Consistent (calendar : Calendar) (state : BillingState Call) :
    Prop where
  plans : ∀ plan ∈ state.world.plans.rows, 0 < plan.periodDays
  assigning : ∀ call plan, (state.calls call).assigning? = some plan →
    0 < plan.periodDays
  numbers : ∀ issued ∈ state.issued,
    issued.assignment ≤ state.assigned issued.bill.accountId
  /-- The first bill of an assignment is written once. -/
  firsts : ∀ call accountId assignment,
    (state.calls call).firstBill? = some (accountId, assignment) →
      assignment ≤ state.assigned accountId ∧
      (∀ issued ∈ state.issued, issued.For accountId assignment →
        issued.recurring = true) ∧
      ∀ other, (state.calls other).firstBill? = some (accountId, assignment) →
        other = call
  /-- One call at a time moves a date, and finds the row as it was read. -/
  advances : ∀ call due, (state.calls call).advancing? = some due →
    due.assignment ≤ state.assigned due.accountId ∧
      (due.assignment = state.assigned due.accountId →
        state.world.accountPlans.find? due.accountId = some due.plan.assigned ∧
          ∀ other due', (state.calls other).advancing? = some due' →
            due'.accountId = due.accountId → due'.assignment = due.assignment →
              other = call)
  rows : ∀ accountId row, state.world.accountPlans.find? accountId = some row →
    0 < row.periodDays ∧ ∃ periods date,
      Dated calendar state accountId row periods date
  once : OncePerDate state.issued

@[simp] theorem calls_enter_self (state : BillingState Call) (call : Call)
    (stage : Stage) : (state.enter call stage).calls call = stage :=
  update_self ..

theorem calls_enter_ne (state : BillingState Call) {call other : Call}
    (stage : Stage) (differs : other ≠ call) :
    (state.enter call stage).calls other = state.calls other :=
  update_of_ne differs ..

/-- What a call that moves leaves in every other call's place. -/
theorem calls_enter {state : BillingState Call} {call other : Call}
    {stage : Stage} {Answer : Type} {view : Stage → Option Answer}
    {answer : Answer}
    (seen : view ((state.enter call stage).calls other) = some answer) :
    (other = call ∧ view stage = some answer) ∨
      (other ≠ call ∧ view (state.calls other) = some answer) := by
  by_cases same : other = call
  · subst same
    rw [calls_enter_self] at seen
    exact .inl ⟨rfl, seen⟩
  · rw [calls_enter_ne state stage same] at seen
    exact .inr ⟨same, seen⟩

/-- A call that neither was moving a date nor is now. -/
theorem advancing_enter {state : BillingState Call} {call : Call}
    {stage : Stage} (was : (state.calls call).advancing? = none)
    (now : stage.advancing? = none) (accountId : AccountId) :
    (state.enter call stage).Advancing accountId ↔
      state.Advancing accountId := by
  constructor
  · rintro ⟨other, due, seen, owner, last⟩
    rcases calls_enter seen with ⟨_, here⟩ | ⟨_, there⟩
    · rw [now] at here
      cases here
    · exact ⟨other, due, there, owner, last⟩
  · rintro ⟨other, due, seen, owner, last⟩
    refine ⟨other, due, ?_, owner, last⟩
    by_cases same : other = call
    · rw [same, was] at seen
      cases seen
    · rw [calls_enter_ne state stage same]
      exact seen

omit [DecidableEq Call] in
/-- What the row's date depends on. -/
theorem Dated.congr {calendar : Calendar} {state next : BillingState Call}
    {accountId : AccountId} {row : AccountPlan} {periods : ℕ} {date : Time}
    (dated : Dated calendar state accountId row periods date)
    (first : next.firstDate accountId = state.firstDate accountId)
    (same : next.assigned accountId = state.assigned accountId)
    (advancing : next.Advancing accountId ↔ state.Advancing accountId)
    (count : next.recurring accountId = state.recurring accountId)
    (bills : ∀ issued ∈ next.issued, issued.recurring = true →
      issued.For accountId (state.assigned accountId) → issued ∈ state.issued) :
    Dated calendar next accountId row periods date where
  next := dated.next
  moved := by rw [dated.moved, first]
  between := by
    rw [advancing, count]
    exact dated.between
  settled := by
    rw [advancing, count]
    exact dated.settled
  billed := by
    intro issued written recurring mine
    rw [same] at mine
    rw [advancing]
    exact dated.billed issued (bills issued written recurring mine) recurring
      mine

/-- A call moves on without a statement that writes, perhaps to the first bill
of an assignment that has none. -/
theorem Consistent.quiet {calendar : Calendar} {state : BillingState Call}
    (consistent : Consistent calendar state) {call : Call} {stage : Stage}
    (periods : ∀ plan, stage.assigning? = some plan → 0 < plan.periodDays)
    (first : ∀ accountId assignment,
      stage.firstBill? = some (accountId, assignment) →
      assignment ≤ state.assigned accountId ∧
      (∀ issued ∈ state.issued, issued.For accountId assignment →
        issued.recurring = true) ∧
      ∀ other, (state.calls other).firstBill? ≠ some (accountId, assignment))
    (was : (state.calls call).advancing? = none)
    (now : stage.advancing? = none) :
    Consistent calendar (state.enter call stage) where
  plans := consistent.plans
  assigning := by
    intro other plan seen
    rcases calls_enter seen with ⟨_, here⟩ | ⟨_, there⟩
    · exact periods plan here
    · exact consistent.assigning other plan there
  numbers := consistent.numbers
  firsts := by
    intro other accountId assignment seen
    rcases calls_enter seen with ⟨here, entered⟩ | ⟨_, there⟩
    · obtain ⟨within, unwritten, nobody⟩ := first accountId assignment entered
      refine ⟨within, unwritten, fun third seen' => ?_⟩
      rcases calls_enter seen' with ⟨too, _⟩ | ⟨_, there'⟩
      · rw [too, here]
      · exact absurd there' (nobody third)
    · obtain ⟨within, unwritten, alone⟩ :=
        consistent.firsts other accountId assignment there
      refine ⟨within, unwritten, fun third seen' => ?_⟩
      rcases calls_enter seen' with ⟨_, entered⟩ | ⟨_, there'⟩
      · exact absurd there ((first accountId assignment entered).2.2 other)
      · exact alone third there'
  advances := by
    intro other due seen
    rcases calls_enter seen with ⟨_, here⟩ | ⟨_, there⟩
    · rw [now] at here
      cases here
    · obtain ⟨within, last⟩ := consistent.advances other due there
      refine ⟨within, fun current =>
        ⟨(last current).1, fun third due' seen' => ?_⟩⟩
      rcases calls_enter seen' with ⟨_, here⟩ | ⟨_, there'⟩
      · rw [now] at here
        cases here
      · exact (last current).2 third due' there'
  rows := by
    intro accountId row found
    obtain ⟨positive, periods, date, dated⟩ :=
      consistent.rows accountId row found
    exact ⟨positive, periods, date,
      dated.congr rfl rfl (advancing_enter was now accountId) rfl
      fun _ written _ _ => written⟩
  once := consistent.once

/-! ## The statements that write -/

omit [DecidableEq Call] in
theorem mem_issue {state : BillingState Call} {issued : Issued} {old : Issued}
    (written : old ∈ (state.issue issued).issued) :
    old ∈ state.issued ∨ old = issued := by
  rcases List.mem_append.mp written with before | now
  · exact .inl before
  · exact .inr (List.mem_singleton.mp now)

omit [DecidableEq Call] in
/-- A bill for an assignment that has none for its date. -/
theorem OncePerDate.issue {state : BillingState Call} {issued : Issued}
    (once : OncePerDate state.issued)
    (fresh : ∀ old ∈ state.issued,
      old.For issued.bill.accountId issued.assignment →
      old.bill.dueDate ≠ issued.bill.dueDate) :
    OncePerDate (state.issue issued).issued := by
  apply List.pairwise_append.mpr
  refine ⟨once, List.pairwise_singleton _ _, ?_⟩
  intro old before new now
  rw [List.mem_singleton.mp now]
  exact fresh old before

omit [DecidableEq Call] in
theorem recurring_issue (state : BillingState Call) (issued : Issued)
    (accountId : AccountId) :
    (state.issue issued).recurring accountId = state.recurring accountId +
      if issued.recurring ∧
        issued.For accountId (state.assigned accountId) then 1 else 0 := by
  simp only [BillingState.recurring, BillingState.issue, List.countP_append,
    List.countP_singleton]
  exact congrArg _ (if_congr decide_eq_true_iff rfl rfl)

omit [DecidableEq Call] in
/-- `assignPlan` writes the first bill of an assignment that has no bill. -/
theorem Consistent.firstIssue {calendar : Calendar} {state : BillingState Call}
    (consistent : Consistent calendar state) {issued : Issued}
    (first : issued.recurring = false)
    (within : issued.assignment ≤ state.assigned issued.bill.accountId)
    (nobody : ∀ call, (state.calls call).firstBill? ≠
      some (issued.bill.accountId, issued.assignment))
    (none_yet : ∀ old ∈ state.issued,
      ¬ old.For issued.bill.accountId issued.assignment) :
    Consistent calendar (state.issue issued) where
  plans := consistent.plans
  assigning := consistent.assigning
  numbers := by
    intro old written
    rcases mem_issue written with before | rfl
    · exact consistent.numbers old before
    · exact within
  firsts := by
    intro call accountId assignment seen
    obtain ⟨known, unwritten, alone⟩ :=
      consistent.firsts call accountId assignment seen
    refine ⟨known, fun old written mine => ?_, alone⟩
    rcases mem_issue written with before | rfl
    · exact unwritten old before mine
    · apply absurd seen
      rw [← mine.1, ← mine.2]
      exact nobody call
  advances := consistent.advances
  rows := by
    intro accountId row found
    obtain ⟨positive, periods, date, dated⟩ :=
      consistent.rows accountId row found
    refine ⟨positive, periods, date, dated.congr rfl rfl Iff.rfl ?_ ?_⟩
    · rw [recurring_issue, first]
      simp
    · intro old written recurring _
      rcases mem_issue written with before | rfl
      · exact before
      · rw [first] at recurring
        cases recurring
  once := consistent.once.issue fun old before mine =>
    absurd mine (none_yet old before)

omit [DecidableEq Call] in
/-- The row of an account after a plan is assigned to it, and the other rows. -/
theorem find?_assign (calendar : Calendar) (state : BillingState Call)
    (now : Time) (accountId other : AccountId) (plan : Plan) :
    (state.assign calendar now accountId plan).world.accountPlans.find? other =
      if other = accountId then
        some (((state.world.accountPlans.find? accountId).map
          (renewedPlan plan (calendar now plan.periodDays))).getD
            (newAccountPlan accountId plan (calendar now plan.periodDays)))
      else state.world.accountPlans.find? other := by
  simp only [BillingState.assign, upsertAccountPlan]
  split
  · next present =>
      obtain ⟨row, found⟩ := Option.isSome_iff_exists.mp present
      refine (Table.find?_modify state.world.accountPlans accountId other
        (renewedPlan plan (calendar now plan.periodDays)) fun _ => rfl).trans ?_
      by_cases same : other = accountId
      · subst same
        simp [found]
      · simp [same]
  · next absent =>
      refine (Table.find?_insert _ _ _).trans ?_
      by_cases same : other = accountId
      · subst same
        simp [Option.not_isSome_iff_eq_none.mp absent, newAccountPlan]
      · simp [same, Ne.symm same, newAccountPlan]

omit [DecidableEq Call] in
/-- A new assignment has no bill and no call yet. -/
theorem Consistent.assign {calendar : Calendar} {state : BillingState Call}
    (consistent : Consistent calendar state) {now : Time}
    {accountId : AccountId} {plan : Plan} (positive : 0 < plan.periodDays) :
    Consistent calendar (state.assign calendar now accountId plan) where
  plans := by
    intro other member
    apply consistent.plans other
    have same : (state.assign calendar now accountId plan).world.plans =
      state.world.plans := by
      simp only [BillingState.assign, upsertAccountPlan]
      split <;> rfl
    rwa [same] at member
  assigning := consistent.assigning
  numbers := by
    intro issued written
    have before := consistent.numbers issued written
    by_cases mine : issued.bill.accountId = accountId
    · rw [mine] at before ⊢
      exact before.trans (by simp [BillingState.assign])
    · simpa [BillingState.assign, mine] using before
  firsts := by
    intro call other assignment seen
    obtain ⟨within, rest⟩ := consistent.firsts call other assignment seen
    refine ⟨?_, rest⟩
    by_cases mine : other = accountId
    · subst mine
      exact within.trans (by simp [BillingState.assign])
    · simpa [BillingState.assign, mine] using within
  advances := by
    intro call due seen
    obtain ⟨within, last⟩ := consistent.advances call due seen
    by_cases mine : due.accountId = accountId
    · subst mine
      have later : (state.assign calendar now due.accountId plan).assigned
        due.accountId =
          state.assigned due.accountId + 1 := by simp [BillingState.assign]
      rw [later]
      exact ⟨by omega, fun current => by omega⟩
    · have same : (state.assign calendar now accountId plan).assigned
        due.accountId =
          state.assigned due.accountId := by simp [BillingState.assign, mine]
      rw [same, find?_assign, if_neg mine]
      exact ⟨within, last⟩
  rows := by
    intro other row found
    rw [find?_assign] at found
    by_cases mine : other = accountId
    · subst mine
      rw [if_pos rfl] at found
      have later : (state.assign calendar now other plan).assigned other =
          state.assigned other + 1 := by simp [BillingState.assign]
      have nobody : ¬ (state.assign calendar now other plan).Advancing
        other := by
        rintro ⟨call, due, seen, rfl, current⟩
        have within := (consistent.advances call due seen).1
        omega
      have unbilled : ∀ issued ∈ state.issued,
          ¬ issued.For other
            ((state.assign calendar now other plan).assigned other) := by
        rintro issued written ⟨number, rfl⟩
        have within := consistent.numbers issued written
        omega
      have none_yet : (state.assign calendar now other plan).recurring other =
        0 := by
        apply List.countP_eq_zero.mpr
        intro issued written counted
        exact unbilled issued written (of_decide_eq_true counted).2
      have written : row.periodDays = plan.periodDays ∧
          row.nextBillingDate = some (calendar now plan.periodDays) := by
        obtain rfl := Option.some.inj found
        cases state.world.accountPlans.find? other <;> exact ⟨rfl, rfl⟩
      refine ⟨written.1 ▸ positive, 0, _, written.2, ?_, ?_, ?_, ?_⟩
      · simp [BillingState.assign]
      · exact fun advancing => absurd advancing nobody
      · exact fun _ => none_yet.symm
      · exact fun issued old _ for_it => absurd for_it (unbilled issued old)
    · rw [if_neg mine] at found
      obtain ⟨fine, periods, date, dated⟩ := consistent.rows other row found
      have same : (state.assign calendar now accountId plan).assigned other =
          state.assigned other := by simp [BillingState.assign, mine]
      refine ⟨fine, periods, date,
        dated.congr ?_ same ?_ ?_ fun _ written _ _ => written⟩
      · simp [BillingState.assign, mine]
      · simp only [BillingState.Advancing, same]
        exact Iff.rfl
      · simp only [BillingState.recurring, same]
        rfl
  once := consistent.once

/-- Only the call that moves changes whether an account's date is being
moved. -/
theorem advancing_of_other {state : BillingState Call} {call : Call}
    {stage : Stage} {accountId : AccountId}
    (was : ∀ due, (state.calls call).advancing? = some due →
      due.accountId ≠ accountId)
    (now : ∀ due, stage.advancing? = some due → due.accountId ≠ accountId) :
    (state.enter call stage).Advancing accountId ↔
      state.Advancing accountId := by
  constructor
  · rintro ⟨other, due, seen, owner, last⟩
    rcases calls_enter seen with ⟨_, here⟩ | ⟨_, there⟩
    · exact absurd owner (now due here)
    · exact ⟨other, due, there, owner, last⟩
  · rintro ⟨other, due, seen, owner, last⟩
    refine ⟨other, due, ?_, owner, last⟩
    by_cases same : other = call
    · subst same
      exact absurd owner (was due seen)
    · rw [calls_enter_ne state stage same]
      exact seen

/-- A run writes the bill of the date it has read. -/
theorem Consistent.issues {calendar : Calendar} {state : BillingState Call}
    (consistent : Consistent calendar state) {call : Call} {now : Time}
    {due : Due} {rest : List Due}
    (at_ : state.calls call = .issuing now (due :: rest))
    (orderly : Orderly state (.issues call)) :
    Consistent calendar
      ((state.issue ⟨due.assignment, true, recurringBillOf now due⟩).enter call
      (.advancing now due rest)) := by
  obtain ⟨⟨found, last⟩, nobody, unwritten⟩ := orderly now due rest at_
  obtain ⟨positive, periods, date, dated⟩ :=
    consistent.rows due.accountId _ found
  have dueDate : (recurringBillOf now due).dueDate = some date := by
    simp [recurringBillOf, planBill, Due.date, dated.next]
  have advancing :
    ((state.issue ⟨due.assignment, true, recurringBillOf now due⟩).enter call
      (.advancing now due rest)).Advancing due.accountId :=
    ⟨call, due, by rw [calls_enter_self]; rfl, rfl, last⟩
  constructor
  · exact consistent.plans
  · intro other plan seen
    rcases calls_enter seen with ⟨_, here⟩ | ⟨_, there⟩
    · cases here
    · exact consistent.assigning other plan there
  · intro issued written
    rcases mem_issue written with before | rfl
    · exact consistent.numbers issued before
    · exact le_of_eq last
  · intro other accountId assignment seen
    rcases calls_enter seen with ⟨_, here⟩ | ⟨_, there⟩
    · cases here
    · obtain ⟨within, none_yet, alone⟩ :=
        consistent.firsts other accountId assignment there
      refine ⟨within, fun issued written mine => ?_, fun third seen' => ?_⟩
      · rcases mem_issue written with before | rfl
        · exact none_yet issued before mine
        · rfl
      · rcases calls_enter seen' with ⟨_, here⟩ | ⟨_, there'⟩
        · cases here
        · exact alone third there'
  · intro other due' seen
    rcases calls_enter seen with ⟨here, entered⟩ | ⟨_, there⟩
    · obtain rfl : due = due' := Option.some.inj entered
      refine ⟨le_of_eq last, fun _ =>
        ⟨found, fun third due' seen' owner same => ?_⟩⟩
      rcases calls_enter seen' with ⟨too, _⟩ | ⟨_, there'⟩
      · rw [too, here]
      · exact absurd ⟨third, due', there', owner, same.trans last⟩ nobody
    · obtain ⟨within, current⟩ := consistent.advances other due' there
      refine ⟨within, fun newest =>
        ⟨(current newest).1, fun third due'' seen' owner same => ?_⟩⟩
      rcases calls_enter seen' with ⟨_, entered⟩ | ⟨_, there'⟩
      · obtain rfl : due = due'' := Option.some.inj entered
        refine absurd ⟨other, due', there, owner.symm, ?_⟩ nobody
        rw [owner]
        exact newest
      · exact (current newest).2 third due'' there' owner same
  · intro accountId row at_row
    by_cases mine : accountId = due.accountId
    · subst mine
      obtain rfl : due.plan.assigned = row :=
        Option.some.inj (found.symm.trans at_row)
      refine ⟨positive, periods, date, dated.next, dated.moved, ?_, ?_, ?_⟩
      · intro _
        refine Eq.trans ?_ (recurring_issue state _ due.accountId).symm
        rw [if_pos ⟨rfl, last, rfl⟩, dated.settled nobody]
      · exact fun still => absurd advancing still
      · intro issued written recurring for_it
        rcases mem_issue written with before | rfl
        · obtain ⟨day, dueOn, past | ⟨between, _⟩⟩ :=
            dated.billed issued before recurring for_it
          · exact ⟨day, dueOn, .inl past⟩
          · exact absurd between nobody
        · exact ⟨date, dueDate, .inr ⟨advancing, rfl⟩⟩
    · obtain ⟨fine, periods', date', dated'⟩ :=
        consistent.rows accountId row at_row
      refine ⟨fine, periods', date', dated'.congr rfl rfl ?_ ?_ ?_⟩
      · apply advancing_of_other
        · intro due' seen
          rw [show (state.issue _).calls call = _ from at_] at seen
          cases seen
        · intro due' entered
          obtain rfl : due = due' := Option.some.inj entered
          exact Ne.symm mine
      · refine (recurring_issue state _ accountId).trans ?_
        rw [if_neg fun both => mine both.2.2.symm, Nat.add_zero]
      · intro issued written _ for_it
        rcases mem_issue written with before | rfl
        · exact before
        · exact absurd for_it.2.symm mine
  · apply consistent.once.issue
    intro old before for_it
    have recurring := unwritten old before for_it
    obtain ⟨day, dueOn, past | ⟨between, _⟩⟩ :=
      dated.billed old before recurring (last ▸ for_it)
    · rw [dueOn, dueDate]
      exact fun same => (ne_of_lt past) (Option.some.inj same)
    · exact absurd between nobody

/-- It moves the row's date by one period. -/
theorem Consistent.advance {calendar : Calendar} {state : BillingState Call}
    (later : ∀ date days, 0 < days → date < calendar date days)
    (consistent : Consistent calendar state) {call : Call} {now : Time}
    {due : Due} {rest : List Due}
    (at_ : state.calls call = .advancing now due rest)
    (orderly : Orderly state (.advances call)) :
    Consistent calendar ({ state with
      world :=
        (advanceDate calendar now due).effect state.world state.world }.enter
        call (.issuing now rest)) := by
  obtain ⟨found, last⟩ := orderly now due rest at_
  have moving : (state.calls call).advancing? = some due := by
    rw [at_]
    rfl
  have alone := ((consistent.advances call due moving).2 last).2
  obtain ⟨positive, periods, date, dated⟩ :=
    consistent.rows due.accountId _ found
  have was : due.date now = date := by simp [Due.date, dated.next]
  have rows (accountId : AccountId) :
      ((advanceDate calendar now due).effect state.world
        state.world).accountPlans.find?
          accountId =
        if accountId = due.accountId then
          some { due.plan.assigned with
            nextBillingDate :=
              some (calendar date due.plan.assigned.periodDays) }
        else state.world.accountPlans.find? accountId := by
    refine (Table.find?_modify state.world.accountPlans due.accountId accountId
      (fun row => { row with
        nextBillingDate :=
          some (calendar (due.date now) due.plan.assigned.periodDays) })
      fun _ => rfl).trans ?_
    by_cases mine : accountId = due.accountId
    · rw [if_pos mine, if_pos mine, mine, found, was]
      rfl
    · rw [if_neg mine, if_neg mine]
  constructor
  · exact consistent.plans
  · intro other plan seen
    rcases calls_enter seen with ⟨_, here⟩ | ⟨_, there⟩
    · cases here
    · exact consistent.assigning other plan there
  · exact consistent.numbers
  · intro other accountId assignment seen
    rcases calls_enter seen with ⟨_, here⟩ | ⟨_, there⟩
    · cases here
    · obtain ⟨within, none_yet, single⟩ :=
        consistent.firsts other accountId assignment there
      refine ⟨within, none_yet, fun third seen' => ?_⟩
      rcases calls_enter seen' with ⟨_, here⟩ | ⟨_, there'⟩
      · cases here
      · exact single third there'
  · intro other due' seen
    rcases calls_enter seen with ⟨_, here⟩ | ⟨differs, there⟩
    · cases here
    · obtain ⟨within, current⟩ := consistent.advances other due' there
      refine ⟨within, fun newest =>
        ⟨?_, fun third due'' seen' owner same => ?_⟩⟩
      · refine (rows due'.accountId).trans ?_
        rw [if_neg]
        · exact (current newest).1
        · intro owner
          refine absurd (alone other due' there owner ?_) differs
          rw [last, ← owner]
          exact newest
      · rcases calls_enter seen' with ⟨_, here⟩ | ⟨_, there'⟩
        · cases here
        · exact (current newest).2 third due'' there' owner same
  · intro accountId row at_row
    have looked := (rows accountId).symm.trans at_row
    by_cases mine : accountId = due.accountId
    · subst mine
      rw [if_pos rfl] at looked
      obtain rfl := Option.some.inj looked
      have past : date < calendar date due.plan.assigned.periodDays :=
        later date _ positive
      have nobody : ¬ ({ state with
          world :=
            (advanceDate calendar now due).effect state.world
            state.world }.enter call
            (.issuing now rest)).Advancing due.accountId := by
        rintro ⟨other, due', seen, owner, newest⟩
        rcases calls_enter seen with ⟨_, here⟩ | ⟨differs, there⟩
        · cases here
        · exact differs (alone other due' there owner (newest.trans last.symm))
      refine ⟨positive, periods + 1, _, rfl, ?_, ?_, ?_, ?_⟩
      · rw [iterate_succ_apply']
        exact congrArg (fun day => calendar day _) dated.moved
      · exact fun advancing => absurd advancing nobody
      · exact fun _ => dated.between ⟨call, due, moving, rfl, last⟩
      · intro issued written recurring for_it
        obtain ⟨day, dueOn, before | ⟨_, same⟩⟩ :=
          dated.billed issued written recurring for_it
        · exact ⟨day, dueOn, .inl (before.trans past)⟩
        · exact ⟨day, dueOn, .inl (same ▸ past)⟩
    · rw [if_neg mine] at looked
      obtain ⟨fine, periods', date', dated'⟩ :=
        consistent.rows accountId row looked
      refine ⟨fine, periods', date',
        dated'.congr rfl rfl ?_ rfl fun _ written _ _ => written⟩
      apply advancing_of_other
      · intro due' seen
        obtain rfl : due = due' := Option.some.inj (moving.symm.trans seen)
        exact Ne.symm mine
      · intro due' entered
        cases entered
  · exact consistent.once

/-! ## Every run -/

/-- What each step of the calls preserves. -/
theorem Consistent.next {calendar : Calendar} {state next : BillingState Call}
    {event : BillingEvent Call}
    (later : ∀ date days, 0 < days → date < calendar date days)
    (consistent : Consistent calendar state)
    (steps : BillingStep calendar state event next)
    (orderly : Orderly state event) : Consistent calendar next := by
  have no_first (stage : Stage) (none : stage.firstBill? = none)
      (accountId : AccountId) (assignment : ℕ)
      (entered : stage.firstBill? = some (accountId, assignment)) :
      assignment ≤ state.assigned accountId ∧
      (∀ issued ∈ state.issued, issued.For accountId assignment →
        issued.recurring = true) ∧
      ∀ other, (state.calls other).firstBill? ≠
        some (accountId, assignment) := by
    rw [none] at entered
    cases entered
  cases steps with
  | assignStarts call now adminId accountId planId plan account at_ chosen _ =>
      apply consistent.quiet
      · intro other same
        obtain rfl : plan = other := Option.some.inj same
        obtain ⟨found, _⟩ := Option.filter_eq_some_iff.mp chosen
        exact consistent.plans plan (Table.mem_of_find? found)
      · exact no_first _ rfl
      · rw [at_]
        rfl
      · rfl
  | assigns call now adminId accountId plan at_ =>
      have positive : 0 < plan.periodDays := by
        apply consistent.assigning call plan
        rw [at_]
        rfl
      have newest : (state.assign calendar now accountId plan).assigned
        accountId =
          state.assigned accountId + 1 := by simp [BillingState.assign]
      apply Consistent.quiet (Consistent.assign consistent positive)
      · intro other same
        cases same
      · intro other assignment entered
        obtain ⟨rfl, rfl⟩ : accountId = other ∧ state.assigned accountId + 1 =
          assignment := by
          simpa [Stage.firstBill?] using entered
        refine ⟨le_of_eq newest.symm, fun issued written for_it => ?_,
          fun third seen => ?_⟩
        · obtain ⟨number, rfl⟩ := for_it
          have within := consistent.numbers issued written
          omega
        · have within := (consistent.firsts third _ _ seen).1
          omega
      · rw [show (state.assign calendar now accountId plan).calls call = _ from
          at_]
        rfl
      · rfl
  | firstBill call now adminId accountId plan assignment at_ =>
      have writing : (state.calls call).firstBill? =
        some (accountId, assignment) := by
        rw [at_]
        rfl
      obtain ⟨within, unwritten, alone⟩ :=
        consistent.firsts call accountId assignment writing
      have left : Consistent calendar (state.enter call .idle) := by
        apply consistent.quiet
        · intro plan same
          cases same
        · exact no_first _ rfl
        · rw [at_]
          rfl
        · rfl
      refine Consistent.firstIssue left rfl within ?_ ?_
      · intro other seen
        rcases calls_enter seen with ⟨_, here⟩ | ⟨differs, there⟩
        · cases here
        · exact differs (alone other there)
      · intro old before for_it
        have recurs := unwritten old before for_it
        rw [orderly accountId assignment writing old before for_it] at recurs
        cases recurs
  | recurringStarts call now at_ =>
      apply consistent.quiet
      · intro plan same
        cases same
      · exact no_first _ rfl
      · rw [at_]
        rfl
      · rfl
  | issues call now due rest at_ => exact consistent.issues at_ orderly
  | advances call now due rest at_ => exact consistent.advance later at_ orderly
  | ends call now at_ =>
      apply consistent.quiet
      · intro plan same
        cases same
      · exact no_first _ rfl
      · rw [at_]
        rfl
      · rfl

theorem Consistent.run {calendar : Calendar} {world : World}
    {steps : List (BillingState Call × BillingEvent Call)}
    {state : BillingState Call}
    (later : ∀ date days, 0 < days → date < calendar date days)
    (unassigned : world.accountPlans.rows = [])
    (periods : ∀ plan ∈ world.plans.rows, 0 < plan.periodDays)
    (runs : BillingRun calendar world steps state)
    (orderly : ∀ step ∈ steps, Orderly step.1 step.2) :
    Consistent calendar state := by
  induction runs with
  | start =>
      have no_row (accountId : AccountId) : world.accountPlans.find? accountId =
        none := by
        simp [Table.find?, unassigned]
      constructor
      · exact periods
      · intro call plan seen
        cases seen
      · intro issued written
        cases written
      · intro call accountId assignment seen
        cases seen
      · intro call due seen
        cases seen
      · intro accountId row found
        rw [no_row accountId] at found
        cases found
      · exact List.Pairwise.nil
  | step steps event before next _ more ih =>
      have earlier := ih fun step taken =>
        orderly step (List.mem_append_left _ taken)
      apply earlier.next later more
      exact orderly (before, event)
        (List.mem_append_right _ (List.mem_singleton_self _))

/-- The bills of a run are the subscription bills it has issued. -/
theorem BillingRun.bills {calendar : Calendar} {world : World}
    {steps : List (BillingState Call × BillingEvent Call)}
    {state : BillingState Call} (runs : BillingRun calendar world steps state) :
    state.world.bills = world.bills ++ state.issued.map Issued.bill ∧
      ∀ issued ∈ state.issued, issued.bill.type = .subscription := by
  induction runs with
  | start =>
      exact ⟨(List.append_nil _).symm, fun issued written => by cases written⟩
  | step steps event before next _ more ih =>
      obtain ⟨all, types⟩ := ih
      have written (issued : Issued) (type : issued.bill.type = .subscription) :
          (before.issue issued).world.bills =
              world.bills ++ (before.issue issued).issued.map Issued.bill ∧
            ∀ old ∈ (before.issue issued).issued,
              old.bill.type = .subscription := by
        constructor
        · simp [BillingState.issue, Platform.createBill, all]
        · intro old member
          rcases mem_issue member with earlier | same
          · exact types old earlier
          · rw [same]
            exact type
      cases more with
      | assigns call now adminId accountId plan _ =>
          refine ⟨Eq.trans ?_ all, types⟩
          simp only [BillingState.enter, BillingState.assign, upsertAccountPlan]
          split <;> rfl
      | firstBill call now adminId accountId plan assignment _ =>
          exact written ⟨assignment, false,
            firstBillOf calendar now adminId accountId plan⟩ rfl
      | issues call now due rest _ =>
          exact written ⟨due.assignment, true, recurringBillOf now due⟩ rfl
      | _ => exact ⟨all, types⟩

/-- In a run whose every step is orderly, no assignment has two bills for one
date, and its date has moved one period for each recurring bill. -/
theorem plan_billed_once (calendar : Calendar)
    (later : ∀ date days, 0 < days → date < calendar date days) (world : World)
    (unassigned : world.accountPlans.rows = [])
    (periods : ∀ plan ∈ world.plans.rows, 0 < plan.periodDays)
    (steps : List (BillingState Call × BillingEvent Call))
    (state : BillingState Call) (runs : BillingRun calendar world steps state)
    (orderly : ∀ step ∈ steps, Orderly step.1 step.2) :
    OncePerDate state.issued ∧ DatesAdvance calendar state ∧
      state.world.bills = world.bills ++ state.issued.map Issued.bill ∧
      ∀ issued ∈ state.issued, issued.bill.type = .subscription := by
  have consistent := Consistent.run later unassigned periods runs orderly
  refine ⟨consistent.once, ?_, runs.bills⟩
  intro accountId row found
  obtain ⟨_, moved, date, dated⟩ := consistent.rows accountId row found
  exact ⟨moved, dated.moved ▸ dated.next, dated.between, dated.settled⟩

end

def everyDay : Calendar :=
  fun date days => date + days * 86400000

theorem everyDay_later (date : Time) (days : ℕ) (some_days : 0 < days) :
    date < everyDay date days := by
  have positive : 0 < days * 86400000 := Nat.mul_pos some_days (by decide)
  exact Nat.lt_add_of_pos_right positive

def monthly : Plan where
  id := "P"
  name := "Monthly"
  recurringAmount := Money.round 10000

def planned : Account where
  id := "a"
  accountId := "ACC-1"
  sourceCode := "AAAAA"

/-- An account and a plan that nobody has. -/
def unplannedWorld : World where
  accounts := Table.empty.insert planned
  plans := Table.empty.insert monthly

theorem periods_unplannedWorld :
    ∀ plan ∈ unplannedWorld.plans.rows, 0 < plan.periodDays := by
  decide

/-- `assignPlan` at time 0 has written the row. -/
theorem row_written : ∃ steps, (∀ step ∈ steps, Orderly step.1 step.2) ∧
    BillingRun everyDay unplannedWorld steps
      ((({ world := unplannedWorld } : BillingState ℕ).enter 0
        (.assigning 0 "admin" "a" monthly)).assign everyDay 0 "a"
          monthly |>.enter 0 (.firstBill 0 "admin" "a" monthly 1)) := by
  refine ⟨_, ?_, .step _ (.assigns 0) _ _ (.step _ (.assignStarts 0) _ _ .start
    (.assignStarts _ 0 0 "admin" "a" "P" monthly planned rfl rfl ?_))
    (.assigns _ 0 0 "admin" "a" monthly rfl)⟩
  · intro step taken
    rcases List.mem_append.mp taken with before | now
    · rw [List.mem_singleton.mp before]
      trivial
    · rw [List.mem_singleton.mp now]
      trivial
  · rfl

/-- The call that assigned the plan stops there; a run bills the period and
moves the date. -/
theorem stopped_assignment_billed_once :
    ∃ steps state,
      BillingRun everyDay unplannedWorld steps (state : BillingState ℕ) ∧
      state.issued.length = 1 ∧ OncePerDate state.issued ∧
        DatesAdvance everyDay state := by
  obtain ⟨steps, orderly, assigned⟩ := row_written
  have second := BillingRun.step steps _ _ _ assigned
    (.recurringStarts _ 1 (everyDay 0 30) rfl)
  have third :=
    BillingRun.step _ _ _ _ second (.issues _ 1 (everyDay 0 30) _ [] rfl)
  have fourth :=
    BillingRun.step _ _ _ _ third (.advances _ 1 (everyDay 0 30) _ [] rfl)
  obtain ⟨once, moved, _⟩ :=
    plan_billed_once everyDay everyDay_later unplannedWorld rfl
    periods_unplannedWorld _ _ fourth (by
      intro step taken
      rcases List.mem_append.mp taken with before | last
      · rcases List.mem_append.mp before with earlier | third
        · rcases List.mem_append.mp earlier with assigning | second
          · exact orderly step assigning
          · rw [List.mem_singleton.mp second]
            trivial
        · rw [List.mem_singleton.mp third]
          intro now due rest at_
          cases at_
          refine ⟨⟨rfl, rfl⟩, ?_, fun issued written => by cases written⟩
          rintro ⟨call, due, seen, _⟩
          rcases calls_enter seen with ⟨_, here⟩ | ⟨_, there⟩
          · cases here
          · rcases calls_enter there with ⟨_, here⟩ | ⟨_, there⟩
            · cases here
            · rcases @calls_enter ℕ _ _ _ _ _ _ Stage.advancing? _ there with
                ⟨_, here⟩ | ⟨_, there⟩
              · cases here
              · cases there
      · rw [List.mem_singleton.mp last]
        intro now due rest at_
        cases at_
        exact ⟨rfl, rfl⟩)
  exact ⟨_, _, fourth, rfl, once, moved⟩

/-- `assignPlan` bills the first period, and so does the first run after its
date. -/
theorem first_period_billed_twice :
    ¬ ∀ (calendar : Calendar),
      (∀ date days, 0 < days → date < calendar date days) →
      ∀ world : World, world.accountPlans.rows = [] →
      (∀ plan ∈ world.plans.rows, 0 < plan.periodDays) →
      ∀ steps (state : BillingState ℕ), BillingRun calendar world steps state →
        OncePerDate state.issued ∧ DatesAdvance calendar state := by
  intro always
  obtain ⟨steps, _, assigned⟩ := row_written
  have second :=
    BillingRun.step steps _ _ _ assigned
    (.firstBill _ 0 0 "admin" "a" monthly 1 rfl)
  have third :=
    BillingRun.step _ _ _ _ second (.recurringStarts _ 1 (everyDay 0 30) rfl)
  have fourth :=
    BillingRun.step _ _ _ _ third (.issues _ 1 (everyDay 0 30) _ [] rfl)
  have once :=
    (always everyDay everyDay_later unplannedWorld rfl periods_unplannedWorld _
    _ fourth).1
  exact (List.pairwise_cons.mp once).1 _ (List.mem_singleton_self _) ⟨rfl, rfl⟩
    rfl

end CloudStudio.Billing
