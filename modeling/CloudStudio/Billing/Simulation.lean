import Mathlib.Logic.Relation
import CloudStudio.Billing.Recurrence

/-!
# The functions take these steps

`assignPlan` and `runRecurringBilling` of `Billing.Model`, each running alone,
against the steps of `Billing.Recurrence`: an idle call goes through them to the
same database.
-/

namespace CloudStudio.Billing

open CloudStudio.Data CloudStudio.Transactions CloudStudio.Platform

variable {Call : Type} [DecidableEq Call]

/-- One step, whatever its event. -/
def Moves (calendar : Calendar) (state next : BillingState Call) : Prop :=
  ∃ event, BillingStep calendar state event next

theorem run_issueRecurring (calendar : Calendar) (now : Time) (due : Due)
    (world : World)
    (present : (world.accountPlans.find? due.accountId).isSome) :
    (issueRecurring calendar now due.plan).run world =
      (.ok (), (advanceDate calendar now due).effect
        { world with bills := world.bills ++ [recurringBillOf now due] }
        { world with bills := world.bills ++ [recurringBillOf now due] }) := by
  obtain ⟨row, found⟩ := Option.isSome_iff_exists.mp present
  have there : world.accountPlans.find? due.plan.assigned.accountId =
    some row := found
  simp only [issueRecurring, Program.bind_perform, Program.run_query,
    Platform.createBill, Relation.update, accountPlans, there]
  rfl

/-- A row that is there stays. -/
theorem advanceDate_present {calendar : Calendar} {now : Time} {due : Due}
    {world : World} {accountId : AccountId}
    (present : (world.accountPlans.find? accountId).isSome) :
    (((advanceDate calendar now due).effect world world).accountPlans.find?
      accountId).isSome := by
  have looked := Table.find?_modify world.accountPlans due.accountId accountId
    (fun row => { row with
      nextBillingDate :=
        some (calendar (due.date now) due.plan.assigned.periodDays) })
    fun _ => rfl
  refine (congrArg Option.isSome looked).trans ?_
  split
  · rw [Option.isSome_map]
    exact present
  · exact present

/-- The loop bills every plan of its list and moves every date. -/
theorem issues_simulated (calendar : Calendar) (now : Time) (call : Call)
    (due : List Due) (state : BillingState Call)
    (head : state.calls call = .issuing now due)
    (present : ∀ one ∈ due,
      (state.world.accountPlans.find? one.accountId).isSome) :
    ∃ next, Relation.ReflTransGen (Moves calendar) state next ∧
      next.calls call = .issuing now [] ∧
      (Program.forEach (due.map Due.plan) (issueRecurring calendar now)).run
        state.world = (.ok (), next.world) := by
  induction due generalizing state with
  | nil => exact ⟨state, .refl, head, rfl⟩
  | cons one rest ih =>
      let billed :=
        (state.issue ⟨one.assignment, true, recurringBillOf now one⟩).enter call
        (.advancing now one rest)
      let moved : BillingState Call := { billed with
        world :=
          (advanceDate calendar now one).effect billed.world
          billed.world }.enter call (.issuing now rest)
      have here : (state.world.accountPlans.find? one.accountId).isSome :=
        present one List.mem_cons_self
      have first : BillingStep calendar state (.issues call) billed :=
        .issues state call now one rest head
      have second : BillingStep calendar billed (.advances call) moved :=
        .advances billed call now one rest (calls_enter_self _ _ _)
      obtain ⟨next, moves, ends, ran⟩ := ih moved (calls_enter_self _ _ _) (by
        intro other member
        exact advanceDate_present
          (present other (List.mem_cons_of_mem one member)))
      refine ⟨next, .head ⟨_, first⟩ (.head ⟨_, second⟩ moves), ends, ?_⟩
      change ((issueRecurring calendar now one.plan).bind _).run state.world = _
      refine (Program.run_bind (issueRecurring calendar now one.plan) _
        state.world).trans ?_
      rw [run_issueRecurring calendar now one state.world here]
      exact ran

/-- A run of the job that nobody disturbs. -/
theorem runRecurringBilling_simulated (calendar : Calendar) (now : Time)
    (call : Call) (state : BillingState Call)
    (idle : state.calls call = .idle) :
    ∃ next, Relation.ReflTransGen (Moves calendar) state next ∧
      next.calls call = .idle ∧
      ((runRecurringBilling calendar now).run state.world).2 = next.world := by
  let due : List Due := (duePlans now state.world).map fun plan =>
    ⟨plan, state.assigned plan.assigned.accountId⟩
  have plans : due.map Due.plan = duePlans now state.world := by
    simp [due, List.map_map, Function.comp_def]
  have started : BillingStep calendar state (.recurringStarts call)
      (state.enter call (.issuing now due)) :=
        .recurringStarts state call now idle
  obtain ⟨next, moves, ends, ran⟩ := issues_simulated calendar now call due
    (state.enter call (.issuing now due)) (calls_enter_self _ _ _) (by
      intro one member
      obtain ⟨plan, chosen, rfl⟩ := List.mem_map.mp member
      obtain ⟨row, listed, named⟩ := List.mem_filterMap.mp chosen
      obtain ⟨_, _, rfl⟩ := Option.map_eq_some_iff.mp named
      have there : row ∈ state.world.accountPlans.rows :=
        (List.mem_filter.mp (List.mem_of_mem_take listed)).1
      exact Option.isSome_iff_exists.mpr ⟨row, Table.find?_of_mem there⟩)
  refine ⟨next.enter call .idle,
    .head ⟨_, started⟩ (moves.tail ⟨_, .ends next call now ends⟩),
    calls_enter_self _ _ _, ?_⟩
  rw [plans] at ran
  have whole : (runRecurringBilling calendar now).run state.world =
      (.ok (duePlans now state.world).length, next.world) := by
    simp only [runRecurringBilling, Program.bind_perform, Program.run_query,
      select, Program.run_bind]
    rw [show (Program.forEach (duePlans now state.world)
      (issueRecurring calendar now)).run state.world = _ from ran]
    rfl
  rw [whole]
  rfl

theorem namedAccount_finds {accountId : String} {account : Account}
    {world after : World}
    (named : (namedAccount accountId).run world = (.ok account, after)) :
    world.accounts.find? account.id = some account := by
  simp only [namedAccount, Program.run_bind, run_resolveAccountId] at named
  cases resolved : world.resolve accountId with
  | none =>
      rw [resolved] at named
      cases congrArg Prod.fst named
  | some id =>
      rw [resolved] at named
      simp only [Program.run_bind, Program.run_perform, Relation.findUnique,
        select, accounts] at named
      cases found : world.accounts.find? id with
      | none =>
          rw [found] at named
          cases congrArg Prod.fst named
      | some row =>
          rw [found] at named
          obtain rfl : row = account := Except.ok.inj (congrArg Prod.fst named)
          rw [show row.id = id from Table.key_of_find? found]
          exact found

theorem run_upsertAccountPlan (accountId : AccountId) (plan : Plan)
    (date : Time) (world : World) :
    (Program.perform (upsertAccountPlan accountId plan date)).run world =
      (.ok (((world.accountPlans.find? accountId).map
        (renewedPlan plan date)).getD
          (newAccountPlan accountId plan date)),
        (upsertAccountPlan accountId plan date).effect world world) := by
  rw [Program.run_perform]
  rfl

theorem accounts_upsertAccountPlan (accountId : AccountId) (plan : Plan)
    (date : Time) (world : World) :
    ((upsertAccountPlan accountId plan date).effect world world).accounts =
      world.accounts := by
  simp only [upsertAccountPlan]
  split <;> rfl

/-- The statement that keeps the billing mode in step leaves the modelled
columns alone. -/
theorem run_billingMode {world : World} {account : Account}
    (listed : world.accounts.find? account.id = some account) :
    (Program.perform
      (accounts.update "account.billingMode" account.id (fun account => account)
      fun _ => rfl)).run world = (.ok account, world) := by
  have same : world.accounts.modify account.id (fun account => account)
    (fun _ => rfl) =
      world.accounts := Table.modify_eq_self listed rfl _
  simp only [Program.run_perform, Relation.update, accounts, listed, same]

/-- An assignment that nobody disturbs. -/
theorem assignPlan_simulated (calendar : Calendar) (now : Time)
    (adminId accountId planId : String) (call : Call)
    (state : BillingState Call) (idle : state.calls call = .idle) {plan : Plan}
    {account : Account}
    (chosen : (state.world.plans.find? planId).filter Plan.isActive = some plan)
    (named : (namedAccount accountId).run state.world =
      (.ok account, state.world)) :
    ∃ next, Relation.ReflTransGen (Moves calendar) state next ∧
      next.calls call = .idle ∧
      ((assignPlan calendar now adminId accountId planId).run state.world).2 =
        next.world := by
  let read := state.enter call (.assigning now adminId account.id plan)
  let written := (read.assign calendar now account.id plan).enter call
    (.firstBill now adminId account.id plan (state.assigned account.id + 1))
  let billed := (written.issue ⟨state.assigned account.id + 1, false,
    firstBillOf calendar now adminId account.id plan⟩).enter call .idle
  have first : BillingStep calendar state (.assignStarts call) read :=
    .assignStarts state call now adminId accountId planId plan account
      idle chosen named
  have second : BillingStep calendar read (.assigns call) written :=
    .assigns read call now adminId account.id plan (calls_enter_self _ _ _)
  have third : BillingStep calendar written (.firstBill call) billed :=
    .firstBill written call now adminId account.id plan _
      (calls_enter_self _ _ _)
  refine ⟨billed, .head ⟨_, first⟩ (.head ⟨_, second⟩ (.single ⟨_, third⟩)),
    calls_enter_self _ _ _, ?_⟩
  have listed :
    ((upsertAccountPlan account.id plan (calendar now plan.periodDays)).effect
      state.world state.world).accounts.find? account.id = some account := by
    rw [accounts_upsertAccountPlan]
    exact namedAccount_finds named
  have found : ((plans.table state.world).find? planId).filter Plan.isActive =
    some plan :=
    chosen
  have whole : (assignPlan calendar now adminId accountId planId).run
    state.world =
      (.ok (((state.world.accountPlans.find? account.id).map
        (renewedPlan plan (calendar now plan.periodDays))).getD
          (newAccountPlan account.id plan (calendar now plan.periodDays)),
            plan),
        billed.world) := by
    rw [assignPlan, Program.run_bind, Program.run_perform]
    simp only [Relation.findUnique, select, found]
    rw [Program.run_bind, named]
    simp only []
    rw [Program.run_bind, run_upsertAccountPlan]
    simp only []
    rw [Program.run_bind, run_billingMode listed]
    rfl
  rw [whole]

end CloudStudio.Billing
