import CloudStudio.Payouts.Independence
import CloudStudio.Payouts.Minimum

/-!
# Swept once a day

The sweep is scheduled for midnight in Dar es Salaam, and the day it looks back
on starts at midnight of the host.  Which accounts it skips as already swept
depends on both.
-/

namespace CloudStudio.Payouts

open CloudStudio.Data CloudStudio.Transactions CloudStudio.Platform
open CloudStudio.Payments
open CloudStudio.Wallets

/-- A day in milliseconds. -/
def DAY : ℕ := 86400000

/-- Africa/Dar_es_Salaam is three hours ahead of UTC all year. -/
def darEsSalaam : ℤ := 10800000

/-- The midnight that began the day of `now` in a zone; in that of the host it
is `setHours(0, 0, 0, 0)`. -/
def startOfDay (offset : ℤ) (now : Time) : Time :=
  ((now : ℤ) - (now + offset) % DAY).toNat

/-- A payout of a sweep of the account that has not failed, created on the
day. -/
def SweptOn (day : Time) (accountId : AccountId) (world : World) : Prop :=
  ∃ row ∈ world.payouts.rows, row.accountId = accountId ∧
    row.payoutKind = .autoSweep ∧
    row.status ≠ .failed ∧ day ≤ row.createdAt ∧ row.createdAt < day + DAY

/-- The payout of a sweep is at least the minimum. -/
def AtLeast (minPayout : MinPayout) (amount : Decimal) : Prop :=
  ∃ limit ∈ minPayout, (limit : Decimal) ≤ amount

section

variable {now startOfToday : Time} {random : List Char} {minPayout : MinPayout}
variable {world : World} {account : Account}

theorem belowMinimum_ne_swept (amount : String) :
    s!"balance below minimum payout ({amount} after fee)" ≠
      "already swept today" := by
  intro same
  have heads :
    ("balance below minimum payout (" ++ amount ++ " after fee)").toList.head? =
      "already swept today".toList.head? :=
        congrArg (fun text => text.toList.head?) same
  have first : "balance below minimum payout (".toList =
      'b' :: "alance below minimum payout (".toList := by decide
  have other : "already swept today".toList.head? = some 'a' := by decide
  rw [String.toList_append, String.toList_append, first, other] at heads
  cases heads

/-- When a leg skips its account as already swept. -/
theorem leg_swept_iff (found : world.accounts.find? account.id = some account) :
    ((sweepLeg now startOfToday random minPayout false account).run world).1 =
        .ok (.skipped "already swept today") ↔
      (defaultSettlement world account.id).isSome ∧
        0 < (collectionBalance world account.id : Decimal) ∧
        sweptSince startOfToday account.id world = true := by
  rw [run_sweepLeg, run_prepareLeg now startOfToday random minPayout found]
  cases defaultSettlement world account.id with
  | none => simp
  | some settlement =>
      simp only [Option.isSome_some, true_and]
      by_cases empty : (collectionBalance world account.id : Decimal) ≤ 0
      · simp [empty, not_lt.mpr empty]
      · simp only [if_neg empty, not_le.mp empty, true_and]
        by_cases swept : sweptSince startOfToday account.id world = true
        · simp [swept]
        · simp only [swept, Bool.false_eq_true, if_false, iff_false]
          rw [run_prepareSweep]
          by_cases below : BelowMinimum minPayout (sweepAmount world account.id)
          · rw [if_pos below]
            intro same
            simp only [Except.ok.injEq, SweepDetail.skipped.injEq] at same
            exact belowMinimum_ne_swept _ same
          · rw [if_neg below]
            cases buildReference random account.sourceCode none with
            | error error =>
                intro same
                cases same
            | ok reference =>
                simp only
                rcases run_holdAndQueue now (sweepHold now account settlement
                  (collectionBalance world account.id)
                    (sweepFee world account.id) "Auto-sweep"
                  reference) (world.withConfig account.id) with
                  ⟨_, _, _, _, ran⟩ | ⟨_, _, _, ran, _⟩
                · rw [ran]
                  intro same
                  cases same
                · rw [ran]
                  intro same
                  cases same

/-- The checks of a leg that is to be swept: an active default settlement
account, a balance, and enough of it; a reference, an active wallet and a free
reference. -/
structure Sweepable (now : Time) (random : List Char) (minPayout : MinPayout)
    (account : Account) (world : World) : Prop where
  positive : 0 < (collectionBalance world account.id : Decimal)
  enough : ¬ BelowMinimum minPayout (sweepAmount world account.id)
  hold : ∃ settlement reference,
    defaultSettlement world account.id = some settlement ∧
    buildReference random account.sourceCode none = .ok reference ∧
    Holdable world
      (sweepHold now account settlement (collectionBalance world account.id)
      (sweepFee world account.id) "Auto-sweep" reference)

/-- When a leg creates a payout. -/
theorem leg_created_iff
    (found : world.accounts.find? account.id = some account) :
    (∃ reference amount,
      ((sweepLeg now startOfToday random minPayout false account).run
        world).1 = .ok (.created reference amount)) ↔
      sweptSince startOfToday account.id world = false ∧
        Sweepable now random minPayout account world := by
  rw [run_sweepLeg, run_prepareLeg now startOfToday random minPayout found]
  cases default : defaultSettlement world account.id with
  | none =>
      apply iff_of_false
      · rintro ⟨reference, amount, same⟩
        cases same
      · rintro ⟨_, _, _, settlement, _, there, _⟩
        rw [default] at there
        cases there
  | some settlement =>
      simp only
      by_cases empty : (collectionBalance world account.id : Decimal) ≤ 0
      · rw [if_pos empty]
        apply iff_of_false
        · rintro ⟨reference, amount, same⟩
          cases same
        · exact fun sweeps => not_lt.mpr empty sweeps.2.positive
      rw [if_neg empty]
      by_cases swept : sweptSince startOfToday account.id world = true
      · rw [if_pos swept]
        apply iff_of_false
        · rintro ⟨reference, amount, same⟩
          cases same
        · rintro ⟨unswept, _⟩
          rw [swept] at unswept
          cases unswept
      rw [if_neg swept, run_prepareSweep]
      by_cases below : BelowMinimum minPayout (sweepAmount world account.id)
      · rw [if_pos below]
        apply iff_of_false
        · rintro ⟨reference, amount, same⟩
          cases same
        · exact fun sweeps => sweeps.2.enough below
      rw [if_neg below]
      cases built : buildReference random account.sourceCode none with
      | error error =>
          apply iff_of_false
          · rintro ⟨reference, amount, same⟩
            cases same
          · rintro ⟨_, _, _, _, _, _, built', _⟩
            rw [built] at built'
            cases built'
      | ok reference =>
          simp only
          have holdable :=
            holdable_of_prepared (prepared_withConfig world account.id)
            (sweepHold now account settlement
              (collectionBalance world account.id)
              (sweepFee world account.id) "Auto-sweep" reference)
          rcases run_holdAndQueue now (sweepHold now account settlement
            (collectionBalance world account.id) (sweepFee world account.id)
              "Auto-sweep"
            reference) (world.withConfig account.id) with
            ⟨goes, _, _, _, ran⟩ | ⟨stuck, _, _, ran, _⟩
          · rw [ran]
            apply iff_of_true ⟨_, _, rfl⟩
            exact ⟨by simpa using swept, not_le.mp empty, below, settlement,
              reference, default, built, holdable.mp goes⟩
          · rw [ran]
            apply iff_of_false
            · rintro ⟨_, _, same⟩
              cases same
            · rintro ⟨_, _, _, other, _, there, built', goes⟩
              rw [default] at there
              cases there
              rw [built] at built'
              cases built'
              exact stuck (holdable.mpr goes)

end

section

variable (now : Time) (random : AccountId → List Char) (minPayout : MinPayout)

/-- A call that meets no failure and returns is a run with that result. -/
theorem run_of_returned {Result : Type} {program : Db Result}
    {world left : World} {result : Result}
    (returned : program.exec (throwing fun _ => none) world =
      (.returned result, left)) : (program.run world).1 = .ok result := by
  have none_fails : (throwing fun _ => none : Site → Option (Fault AppError)) =
      fun _ => none := rfl
  rw [none_fails, Program.exec_noFaults] at returned
  have outcome := congrArg Prod.fst returned
  cases ran : (program.run world).1 with
  | error error =>
      rw [ran] at outcome
      cases outcome
  | ok answer =>
      rw [ran] at outcome
      exact congrArg Except.ok (Outcome.returned.inj outcome)

/-- The leg of each eligible account in a run is its leg alone. -/
theorem run_runAutoSweep (startOfToday : Time) {world : World}
    (codes : (world.accounts.rows.map Account.sourceCode).Nodup) :
    ∃ details,
      ((runAutoSweep now startOfToday random minPayout false).run world).1 =
        .ok details ∧ details.map Prod.fst = (eligible world).map Account.id ∧
      ∀ account ∈ eligible world, ∃ detail, (account.id, detail) ∈ details ∧
        ((sweepLeg now startOfToday (random account.id) minPayout false
          account).run world).1 = .ok detail := by
  have listed : ∀ account ∈ eligible world, account ∈ world.accounts.rows :=
    fun account member => (List.mem_filter.mp member).1
  have there : ∀ other ∈ eligible world, ∃ row,
    world.accounts.find? other.id = some row :=
    fun other member => ⟨other, Table.find?_of_mem (listed other member)⟩
  have independent :=
    legOf_independent now startOfToday random minPayout codes listed
  refine ⟨_,
    run_of_returned (exec_runAutoSweep now startOfToday random minPayout
    (fun _ => none) rfl world), execLegs_accounts _ independent.returns _ world,
      ?_⟩
  intro account member
  obtain ⟨detail, alone, inRun, _⟩ :=
    execLegs_alone (fun _ _ => none) independent
    (fun _ inAll => inAll) member
      (world.accounts.unique.sublist (List.filter_sublist.map _)) there
    (SameFor.refl (there account member))
  refine ⟨detail, inRun, ?_⟩
  obtain ⟨own, left, ran, legs⟩ :=
    execLegs_cons (fun _ _ => none) independent.returns account [] world
  rw [legs] at alone
  cases alone
  exact run_of_returned ran

/-- An account is skipped as already swept exactly when it was swept on the day
in Dar es Salaam, and any other that can be swept is. -/
def SweepsDaily (offset : ℤ) (world : World) : Prop :=
  ∃ details,
    ((runAutoSweep now (startOfDay offset now) random minPayout false).run
    world).1 =
      .ok details ∧
    ∀ account ∈ eligible world, ∃ detail, (account.id, detail) ∈ details ∧
      (detail = .skipped "already swept today" ↔
        SweptOn (startOfDay darEsSalaam now) account.id world) ∧
      (¬ SweptOn (startOfDay darEsSalaam now) account.id world →
        (defaultSettlement world account.id).isSome →
        AtLeast minPayout (sweepAmount world account.id) →
        ∃ reference amount, detail = .created reference amount)

/-- For an account with a settlement account and a balance, the payouts since
midnight of the host are those of the day in Dar es Salaam, and nothing else
stands against a sweep. -/
structure DaysAgree (offset : ℤ) (world : World) (account : Account) :
    Prop where
  skips : ((defaultSettlement world account.id).isSome ∧
      0 < (collectionBalance world account.id : Decimal) ∧
      sweptSince (startOfDay offset now) account.id world = true) ↔
    SweptOn (startOfDay darEsSalaam now) account.id world
  sweeps : ¬ SweptOn (startOfDay darEsSalaam now) account.id world →
    (defaultSettlement world account.id).isSome →
    AtLeast minPayout (sweepAmount world account.id) →
    sweptSince (startOfDay offset now) account.id world = false ∧
      Sweepable now (random account.id) minPayout account world

/-- The accounts of a run are skipped and swept by the day in Dar es Salaam just
when the days agree for each of them. -/
theorem sweepsDaily_iff (offset : ℤ) (world : World)
    (codes : (world.accounts.rows.map Account.sourceCode).Nodup) :
    SweepsDaily now random minPayout offset world ↔
      ∀ account ∈ eligible world,
        DaysAgree now random minPayout offset world account := by
  obtain ⟨details, ran, ids, legs⟩ :=
    run_runAutoSweep now random minPayout (startOfDay offset now) codes
  constructor
  · rintro ⟨others, same, daily⟩ account member
    rw [ran] at same
    cases same
    obtain ⟨detail, inRun, leg⟩ := legs account member
    obtain ⟨other, alsoInRun, skips, sweeps⟩ := daily account member
    have distinct : (details.map Prod.fst).Nodup := by
      rw [ids]
      exact world.accounts.unique.sublist (List.filter_sublist.map _)
    have equal : other = detail :=
      congrArg Prod.snd (List.inj_on_of_nodup_map distinct alsoInRun inRun rfl)
    subst equal
    have found : world.accounts.find? account.id = some account :=
      Table.find?_of_mem (List.mem_filter.mp member).1
    constructor
    · rw [← skips, ← leg_swept_iff found, leg]
      simp
    · intro unswept settles enough
      obtain ⟨reference, amount, created⟩ := sweeps unswept settles enough
      apply (leg_created_iff found).mp
      rw [leg, created]
      exact ⟨reference, amount, rfl⟩
  · intro agree
    refine ⟨details, ran, ?_⟩
    intro account member
    obtain ⟨detail, inRun, leg⟩ := legs account member
    have found : world.accounts.find? account.id = some account :=
      Table.find?_of_mem (List.mem_filter.mp member).1
    obtain ⟨skips, sweeps⟩ := agree account member
    refine ⟨detail, inRun, ?_, ?_⟩
    · rw [← skips, ← leg_swept_iff found, leg]
      simp
    · intro unswept settles enough
      obtain ⟨unswept, sweepable⟩ := sweeps unswept settles enough
      obtain ⟨reference, amount, created⟩ :=
        (leg_created_iff found).mpr ⟨unswept, sweepable⟩
      rw [leg] at created
      exact ⟨reference, amount, Except.ok.inj created⟩

end

/-- Swept at one in the afternoon in Dar es Salaam, and with 5000 collected
since. -/
def sweptYesterday : World :=
  { settledWorld with
    wallets := Table.empty.insert { key := ⟨"a", .collection⟩, balance := Money.round 5000 }
    payouts := Table.empty.insert
      { accountId := "a", channel := .mobileMoney
        reference := "AAAAA000000000000001"
        sourceWallet := .collection, payoutKind := .autoSweep, amount :=
          Money.round 4900
        phoneNumber := some "255682345678", status := .success, createdAt :=
          36000000
        updatedAt := 36000000 } }

theorem sweepsDaily_iff_yesterday :
    SweepsDaily 75600000 (fun _ => "00000000000000B".toList) (some 1000) 0
      sweptYesterday ↔ ∀ account ∈ eligible sweptYesterday, DaysAgree 75600000
        (fun _ => "00000000000000B".toList) (some 1000) 0 sweptYesterday
          account :=
  sweepsDaily_iff 75600000 _ _ 0 sweptYesterday (by decide)

/-- At the next midnight in Dar es Salaam a host on UTC still counts that sweep
as today's. -/
theorem sweptYesterday_skipped :
    ¬ SweepsDaily 75600000 (fun _ => "00000000000000B".toList) (some 1000) 0
      sweptYesterday := by
  rintro ⟨details, ran, daily⟩
  have reported : ((runAutoSweep 75600000 (startOfDay 0 75600000)
      (fun _ => "00000000000000B".toList) (some 1000) false).run sweptYesterday).1 =
        .ok [("a", .skipped "already swept today")] := by
    decide +kernel
  rw [reported] at ran
  cases ran
  obtain ⟨detail, member, skips, _⟩ := daily
    { id := "a", accountId := "ACC-1", sourceCode := "AAAAA" } (by decide)
  cases List.mem_singleton.mp member
  obtain ⟨row, there, _, _, _, since, _⟩ := skips.mp rfl
  have earlier : ∀ row ∈ sweptYesterday.payouts.rows,
      row.createdAt < startOfDay darEsSalaam 75600000 := by
    decide
  exact not_lt.mpr since (earlier row there)

end CloudStudio.Payouts
