import CloudStudio.Payouts.Runs

/-!
# The minimum payout

The provider rejects payouts below a minimum.  The sweeps compare it with what
is paid out; a withdrawal compares it with what is debited, the fee included.
-/

namespace CloudStudio.Payouts

open CloudStudio.Data CloudStudio.Transactions CloudStudio.Platform
open CloudStudio.Payments
open CloudStudio.Wallets

/-- The payouts stay, and those that are added are good. -/
def AddsPayouts (good : Payout → Prop) (before after : World) : Prop :=
  ∃ added, after.payouts.rows = before.payouts.rows ++ added ∧ ∀ payout ∈ added,
    good payout

section

variable {good : Payout → Prop} {before world after : World}

theorem AddsPayouts.same (payouts : after.payouts = before.payouts) :
    AddsPayouts good before after :=
  ⟨[], by rw [payouts, List.append_nil], by simp⟩

theorem AddsPayouts.prepared (adds : AddsPayouts good before world)
    (prepared : Prepared world after) : AddsPayouts good before after := by
  obtain ⟨configs, rfl⟩ := prepared
  exact adds

theorem AddsPayouts.insert {payout : Payout}
    (adds : AddsPayouts good before world)
    (fresh : world.payouts.find? payout.reference = none) (fits : good payout)
    (payouts : after.payouts = world.payouts.insert payout) :
    AddsPayouts good before after := by
  obtain ⟨added, rows, each⟩ := adds
  refine ⟨added ++ [payout], ?_, ?_⟩
  · rw [payouts, Table.rows_insert fresh, rows, List.append_assoc]
  · intro other member
    rw [List.mem_append, List.mem_singleton] at member
    rcases member with earlier | rfl
    · exact each other earlier
    · exact fits

theorem AddsPayouts.added {payout : Payout}
    (adds : AddsPayouts good before after)
    (member : payout ∈ addedPayouts before after) : good payout := by
  obtain ⟨added, rows, each⟩ := adds
  rw [addedPayouts, rows, List.drop_left] at member
  exact each payout member

/-- Whatever fails, the only payout a hold can add is its own. -/
theorem holdAndQueue_adds (now : Time) {hold : Hold}
    (fits : (∃ wallet amount, MoveAllowed hold.debit world wallet amount) →
      world.payouts.find? hold.payout.reference = none → good hold.payout)
    (adds : AddsPayouts good before world) :
    (holdAndQueue now hold).Holds (· = world) (fun _ => AddsPayouts good before)
      (AddsPayouts good before) := by
  apply Program.Holds.bind
  · exact (move_holds now hold.debit world).mono (fun _ same => same)
      (fun _ _ moved => moved) (fun _ same => same ▸ adds)
  intro row
  apply Program.Holds.each
  rintro _ ⟨wallet, amount, allowed, rfl, rfl⟩
  have created :
    (Program.perform (payouts.create "payout.create" hold.payout)).Holds
      (· = world.record (moveRow now hold.debit wallet amount wallet.balance))
      (fun _ => AddsPayouts good before) (AddsPayouts good before) := by
    apply Program.Holds.perform
    · rintro answer _ ⟨_, rfl, answers, rfl⟩
      obtain ⟨fresh, rfl⟩ := Relation.create_ok answers
      exact adds.insert fresh (fits ⟨wallet, amount, allowed⟩ fresh) rfl
    · rintro _ rfl
      exact adds
  apply created.bind
  intro payout
  apply (enqueue_holds _ now _ ?_).bind
  · exact fun _ => Program.Holds.returned fun _ kept => kept
  · exact fun _ _ kept => kept

end

inductive SettlementPayment where
  | createWithdrawal (random : List Char) (accountId : AccountId)
      (dto : WithdrawalDto) (actorId : Option String)
  | runAutoSweep (startOfToday : Time) (random : AccountId → List Char)
      (dryRun : Bool)
  | sweepNow (random : List Char) (accountId : String)

def SettlementPayment.program (now : Time) (minPayout : MinPayout) :
    SettlementPayment → Db Unit
  | .createWithdrawal random accountId dto actorId => Program.discard
      (Payouts.createWithdrawal now random minPayout accountId dto actorId)
  | .runAutoSweep startOfToday random dryRun => Program.discard
      (Payouts.runAutoSweep now startOfToday random minPayout dryRun)
  | .sweepNow random accountId => Program.discard
      (Payouts.sweepNow now random minPayout accountId)

/-- Whatever fails in the call, no payout it creates is below the minimum. -/
def MeetsMinimum (now : Time) (minPayout : MinPayout) (world : World)
    (payment : SettlementPayment) : Prop :=
  ∀ faults, ∀ payout ∈
    addedPayouts world ((payment.program now minPayout).exec faults world).2,
      ¬ BelowMinimum minPayout payout.amount

/-- A withdrawal that goes through, of less than the minimum. -/
def Underpays (now : Time) (minPayout : MinPayout) (world : World) :
    SettlementPayment → Prop
  | .createWithdrawal random accountId dto actorId =>
      BelowMinimum minPayout dto.amount.val ∧
        ∃ hold, WithdrawalPlan now random minPayout accountId dto
          actorId world hold ∧ Holdable world hold
  | .runAutoSweep .. => False
  | .sweepNow .. => False

section

variable {world : World} {minPayout : MinPayout}

theorem createWithdrawal_adds (world : World) (minPayout : MinPayout)
    (now : Time) (random : List Char) (accountId : AccountId)
    (dto : WithdrawalDto) (actorId : Option String) :
    (createWithdrawal now random minPayout accountId dto actorId).Holds
      (· = world)
      (fun _ => AddsPayouts (fun payout => payout.amount = dto.amount.val ∧
        ∃ hold, WithdrawalPlan now random minPayout accountId dto
          actorId world hold ∧ Holdable world hold) world)
      (AddsPayouts (fun payout => payout.amount = dto.amount.val ∧
        ∃ hold, WithdrawalPlan now random minPayout accountId dto
          actorId world hold ∧ Holdable world hold) world) := by
  apply Program.Holds.bind
  · exact (prepareWithdrawal_plan now random minPayout accountId
      dto actorId).mono (fun _ same => same) (fun _ _ planned => planned)
      fun _ sound => (AddsPayouts.same rfl).prepared sound.prepared
  intro hold
  apply Program.Holds.each
  rintro state ⟨sound, plan⟩
  apply holdAndQueue_adds now _ ((AddsPayouts.same rfl).prepared sound.prepared)
  rintro allowed fresh
  exact ⟨plan.amount, hold, plan, (holdable_of_prepared sound.prepared hold).mp
    ⟨allowed, fresh⟩⟩

/-- Payouts of at least the minimum. -/
abbrev Sufficient (minPayout : MinPayout) (before after : World) : Prop :=
  AddsPayouts (fun payout => ¬ BelowMinimum minPayout payout.amount) before
    after

/-- A sweep that is planned adds a payout of at least the minimum. -/
theorem swept_adds (now : Time) {start prepared : World} {random : List Char}
    {account : Account} {hold : Hold} (adds : Sufficient minPayout start world)
    (plan : SweepPlan now random minPayout account world hold)
    (sound : Configured account.id world prepared) :
    (holdAndQueue now hold).Holds (· = prepared)
      (fun _ => Sufficient minPayout start) (Sufficient minPayout start) := by
  apply holdAndQueue_adds now _ (adds.prepared sound.prepared)
  exact fun _ _ => plan.enough

theorem sweepNow_adds (world : World) (minPayout : MinPayout) (now : Time)
    (random : List Char) (accountId : String) :
    (sweepNow now random minPayout accountId).Holds (· = world)
      (fun _ => Sufficient minPayout world) (Sufficient minPayout world) := by
  apply Program.Holds.bind
  · exact (readOnly_holds (resolveAccountId_readOnly accountId)).mono
      (fun _ same => same)
      (fun _ _ same => same) fun _ prepared =>
        (AddsPayouts.same rfl).prepared prepared
  intro resolved
  cases resolved with
  | none =>
      apply Program.Holds.threw
      rintro _ rfl
      exact .same rfl
  | some resolved =>
      apply Program.Holds.bind
      · exact (prepareSweepNow_plan now random minPayout resolved).mono
          (fun _ same => same)
          (fun _ _ planned => planned) fun _ sound =>
            (AddsPayouts.same rfl).prepared sound.prepared
      intro hold
      apply Program.Holds.each
      rintro state ⟨sound, account, found, plan⟩
      have key : account.id = resolved := Table.key_of_find? found
      exact swept_adds now (.same rfl) plan (key ▸ sound)

theorem sweepLeg_adds (now startOfToday : Time) (random : List Char)
    (dryRun : Bool) (account : Account) {start : World}
    (adds : Sufficient minPayout start world) :
    (sweepLeg now startOfToday random minPayout dryRun account).Holds
      (· = world)
      (fun _ => Sufficient minPayout start) (Sufficient minPayout start) := by
  have tried :
    (prepareLeg now startOfToday random minPayout dryRun account >>= finishLeg
      now).Holds (· = world) (fun _ => Sufficient minPayout start)
      (Sufficient minPayout start) := by
    apply Program.Holds.bind
    · exact (prepareLeg_plan now startOfToday random minPayout
        dryRun account).mono (fun _ same => same) (fun _ _ planned => planned)
        fun _ sound => adds.prepared sound.prepared
    intro prepared
    apply Program.Holds.each
    rintro state ⟨sound, plan⟩
    cases prepared with
    | inl detail =>
        apply Program.Holds.returned
        rintro _ rfl
        exact adds.prepared sound.prepared
    | inr hold =>
        apply (swept_adds now adds (plan hold rfl) sound).bind
        exact fun _ => Program.Holds.returned fun _ kept => kept
  apply tried.catching
  · exact fun _ => Program.Holds.returned fun _ kept => kept
  · exact fun _ kept => kept

/-- A loop over accounts keeps what each of its legs keeps. -/
theorem sweepAll_holds {sweep : Account → Db SweepDetail}
    {accounts : List Account} {invariant : World → Prop}
    (leg : ∀ account,
      (sweep account).Holds invariant (fun _ => invariant) invariant) :
    (sweepAll sweep accounts).Holds invariant (fun _ => invariant)
      invariant := by
  induction accounts with
  | nil => exact Program.Holds.returned fun _ kept => kept
  | cons account rest ih =>
      apply (leg account).bind
      intro detail
      apply ih.bind
      exact fun _ => Program.Holds.returned fun _ kept => kept

theorem runAutoSweep_adds (world : World) (minPayout : MinPayout)
    (now startOfToday : Time) (random : AccountId → List Char) (dryRun : Bool) :
    (runAutoSweep now startOfToday random minPayout dryRun).Holds (· = world)
      (fun _ => Sufficient minPayout world) (Sufficient minPayout world) := by
  apply Program.Holds.bind (Program.Holds.read (fun _ => rfl) _ _)
  · intro accounts
    apply sweepAll_holds
    exact fun account => Program.Holds.each fun _ adds =>
      sweepLeg_adds now startOfToday (random account.id) dryRun account adds
  · rintro _ _ rfl _
    exact .same rfl
  · rintro _ rfl
    exact .same rfl

/-- No payout of the settlement service is below the minimum, unless a
withdrawal of less than the minimum reaches it with its fee and goes through. -/
theorem meetsMinimum_iff (now : Time) (minPayout : MinPayout) (world : World)
    (payment : SettlementPayment) :
    MeetsMinimum now minPayout world payment ↔
      ¬ Underpays now minPayout world payment := by
  unfold MeetsMinimum
  cases payment with
  | createWithdrawal random accountId dto actorId =>
      constructor
      · rintro meets ⟨below, hold, plan, holdable⟩
        rcases run_createWithdrawal now random minPayout accountId dto
          actorId world with
          ⟨created, left, createdPlan, _, ran, rows⟩ | ⟨stuck, _⟩
        · have at_end :
            (((SettlementPayment.createWithdrawal random accountId dto
              actorId).program now minPayout).exec (fun _ => none) world).2 =
                left := by
            rw [Program.exec_noFaults]
            simp only [SettlementPayment.program, Program.snd_run_discard, ran]
          have member : created.payout ∈ addedPayouts world left := by
            rw [addedPayouts, rows, List.drop_left]
            exact List.mem_singleton_self _
          have enough :=
            meets (fun _ => none) created.payout (by rw [at_end]; exact member)
          rw [createdPlan.amount] at enough
          exact enough below
        · exact stuck hold plan holdable
      · intro fair faults payout member below
        have adds :=
          (createWithdrawal_adds world minPayout now random accountId dto
          actorId).discard.final faults
        obtain ⟨amount, goes⟩ := AddsPayouts.added adds member
        rw [amount] at below
        exact fair ⟨below, goes⟩
  | runAutoSweep startOfToday random dryRun =>
      apply iff_of_true _ not_false
      intro faults payout member
      have adds := (runAutoSweep_adds world minPayout now startOfToday random
        dryRun).discard.final faults
      exact AddsPayouts.added adds member
  | sweepNow random accountId =>
      apply iff_of_true _ not_false
      intro faults payout member
      have adds :=
        (sweepNow_adds world minPayout now random accountId).discard.final
        faults
      exact AddsPayouts.added adds member

end

/-- An account with 2000 in its COLLECTION wallet and a settlement account. -/
def settledWorld : World where
  accounts :=
    Table.empty.insert { id := "a", accountId := "ACC-1"
                         sourceCode := "AAAAA" }
  wallets := (Table.empty.insert { key := ⟨"a", .collection⟩, balance := Money.round 2000 }).insert
    { key := ⟨"a", .disbursement⟩ }
  settlementAccounts := Table.empty.insert
    { id := "s1", accountId := "a", type := .mobile, method := some .airtel
      phoneNumber := some "255682345678", createdAt := 1, updatedAt := 1 }

/-- A withdrawal of 960, for which 1008 are debited. -/
def smallWithdrawal : SettlementPayment :=
  .createWithdrawal "00000000000000A".toList "a"
    { amount := Amount.shillings 960 } none

theorem smallWithdrawal_underpaid :
    ¬ MeetsMinimum 5 (some 1000) settledWorld smallWithdrawal := by
  intro meets
  have paid : ∃ payout ∈ addedPayouts settledWorld
      ((smallWithdrawal.program 5 (some 1000)).exec (fun _ => none) settledWorld).2,
      (payout.amount : Decimal) < 1000 := by
    decide +kernel
  obtain ⟨payout, member, below⟩ := paid
  exact meets (fun _ => none) payout member ⟨1000, rfl, by exact_mod_cast below⟩

end CloudStudio.Payouts
