import CloudStudio.Payouts.Plans

/-!
# Settlements run alone

What a withdrawal and one leg of a sweep do when no other call runs at the same
time and nothing fails: which checks decide whether a payout is created, and
which one it is.
-/

namespace CloudStudio.Payouts

open CloudStudio.Data CloudStudio.Transactions CloudStudio.Platform
open CloudStudio.Payments
open CloudStudio.Wallets

/-- The debit is allowed and the reference is free. -/
def Holdable (world : World) (hold : Hold) : Prop :=
  (∃ wallet amount, MoveAllowed hold.debit world wallet amount) ∧
    world.payouts.find? hold.payout.reference = none

theorem holdable_congr {world other : World} (hold : Hold)
    (accounts : other.accounts = world.accounts)
    (wallets : other.wallets = world.wallets)
    (payouts : other.payouts = world.payouts) :
    Holdable other hold ↔ Holdable world hold := by
  unfold Holdable
  rw [payouts]
  simp only [moveAllowed_congr accounts wallets]

theorem holdable_of_prepared {before after : World}
    (prepared : Prepared before after) (hold : Hold) :
    Holdable after hold ↔ Holdable before hold := by
  obtain ⟨configs, rfl⟩ := prepared
  exact holdable_congr hold rfl rfl rfl

/-- A hold becomes a payout, or no payout is created. -/
theorem run_holdAndQueue (now : Time) (hold : Hold) (world : World) :
    (Holdable world hold ∧ ∃ wallet amount,
      MoveAllowed hold.debit world wallet amount ∧
      (holdAndQueue now hold).run world = (.ok hold.payout,
        queued now hold (moveRow now hold.debit wallet amount wallet.balance)
          world)) ∨
    (¬ Holdable world hold ∧ ∃ error left, (holdAndQueue now hold).run world =
      (.error error, left) ∧ left.payouts = world.payouts) := by
  unfold holdAndQueue
  rcases run_move_cases now hold.debit world with ⟨wallet, amount,
    allowed, ran⟩ | ⟨refused, error, ran⟩
  · simp only [Program.run_bind, ran, Program.run_perform, Relation.create,
      payouts, enqueue, createJob]
    cases fresh : world.payouts.find? hold.payout.reference with
    | none =>
        have free : (world.record (moveRow now hold.debit wallet amount
            wallet.balance)).payouts.find? hold.payout.reference = none := fresh
        simp only [free]
        left
        exact ⟨⟨⟨wallet, amount, allowed⟩, fresh⟩, wallet, amount, allowed, rfl⟩
    | some payout =>
        have taken : (world.record (moveRow now hold.debit wallet amount
            wallet.balance)).payouts.find? hold.payout.reference =
              some payout := fresh
        simp only [taken]
        right
        refine ⟨?_, _, _, rfl, rfl⟩
        rintro ⟨_, free⟩
        rw [fresh] at free
        cases free
  · right
    simp only [Program.run_bind, ran]
    refine ⟨?_, error, world, rfl, rfl⟩
    rintro ⟨⟨wallet, amount, allowed⟩, _⟩
    exact refused wallet amount allowed

theorem run_getDefaultSettlementAccount {world : World} {accountId : AccountId}
    {account : Account}
    (found : world.accounts.find? accountId = some account) :
    (getDefaultSettlementAccount accountId).run world =
      (.ok (defaultSettlement world accountId), world) := by
  simp only [getDefaultSettlementAccount, Program.bind_perform,
    Program.run_query, select, found]
  rfl

theorem run_findSettlement {world : World} {accountId : AccountId}
    {account : Account} (found : world.accounts.find? accountId = some account)
    (id : Option String) :
    (findSettlement accountId id).run world =
      (.ok (wantedSettlement world accountId id), world) := by
  unfold findSettlement wantedSettlement
  cases nonEmpty id with
  | some id => rfl
  | none => exact run_getDefaultSettlementAccount found

theorem run_prepareWithdrawal (now : Time) (random : List Char)
    (minPayout : MinPayout) (accountId : AccountId) (dto : WithdrawalDto)
    (actorId : Option String) (world : World) :
    (∃ hold,
      WithdrawalPlan now random minPayout accountId dto actorId world hold ∧
      (prepareWithdrawal now random minPayout accountId dto actorId).run world =
        (.ok hold, world.withConfig accountId)) ∨
    ((∀ hold, ¬ WithdrawalPlan now random minPayout accountId dto
      actorId world hold) ∧
      ∃ error left,
        (prepareWithdrawal now random minPayout accountId dto actorId).run
        world = (.error error, left) ∧ Prepared world left) := by
  simp only [prepareWithdrawal, findAccount, Program.run_bind,
    Program.run_perform, select]
  cases found : world.accounts.find? accountId with
  | none =>
      right
      refine ⟨?_, _, _, rfl, .refl world⟩
      rintro hold ⟨_, _, _, _, _, there, _⟩
      rw [found] at there
      cases there
  | some account =>
      have key : account.id = accountId := Table.key_of_find? found
      simp only [Program.pure_eq, Program.run_returned,
        run_findSettlement found]
      cases wanted : wantedSettlement world accountId
        dto.settlementAccountId with
      | none =>
          right
          refine ⟨?_, _, _, rfl, .refl world⟩
          rintro hold ⟨_, _, _, _, _, _, there, _⟩
          rw [wanted] at there
          cases there
      | some settlement =>
          simp only
          split
          · rename_i small
            right
            refine ⟨?_, _, _, rfl, .refl world⟩
            exact fun hold plan => not_lt.mpr small plan.positive
          rename_i positive
          simp only [prepareWithdrawalTo, Program.run_bind, run_computeFee, key]
          split
          · rename_i below
            right
            refine ⟨?_, _, _, rfl, prepared_withConfig world accountId⟩
            exact fun hold plan => plan.enough below
          rename_i enough
          cases built : buildReference random account.sourceCode
            dto.reference with
          | error error =>
              right
              refine ⟨?_, _, _, rfl, prepared_withConfig world accountId⟩
              rintro hold ⟨_, _, other, _, _, there, _, built', _⟩
              rw [found] at there
              cases there
              rw [built] at built'
              cases built'
          | ok reference =>
              left
              exact ⟨_,
                ⟨not_le.mp positive, enough, account, settlement,
                reference, found, wanted, built, rfl⟩, rfl⟩

/-- A withdrawal creates the payout of its plan, or none. -/
theorem run_createWithdrawal (now : Time) (random : List Char)
    (minPayout : MinPayout) (accountId : AccountId) (dto : WithdrawalDto)
    (actorId : Option String) (world : World) :
    (∃ hold left,
      WithdrawalPlan now random minPayout accountId dto actorId world hold ∧
      Holdable world hold ∧
      (createWithdrawal now random minPayout accountId dto actorId).run world =
        (.ok hold.payout, left) ∧
      left.payouts.rows = world.payouts.rows ++ [hold.payout]) ∨
    ((∀ hold,
      WithdrawalPlan now random minPayout accountId dto actorId world hold →
        ¬ Holdable world hold) ∧
      ∃ error left,
        (createWithdrawal now random minPayout accountId dto actorId).run
        world = (.error error, left) ∧ left.payouts = world.payouts) := by
  simp only [createWithdrawal, Program.run_bind]
  rcases run_prepareWithdrawal now random minPayout accountId dto
    actorId world with
    ⟨hold, plan, ran⟩ | ⟨unplanned, error, left, ran, sound⟩
  · rw [ran]
    have holdable :=
      holdable_of_prepared (prepared_withConfig world accountId) hold
    obtain ⟨configs, same⟩ := prepared_withConfig world accountId
    have payouts : (world.withConfig accountId).payouts = world.payouts := by
      rw [same]
    rcases run_holdAndQueue now hold (world.withConfig accountId) with
      ⟨goes, wallet, amount, allowed, held⟩ | ⟨stuck, error, left, held, rows⟩
    · left
      refine ⟨hold, _, plan, holdable.mp goes, held, ?_⟩
      rw [← payouts]
      exact Table.rows_insert goes.2
    · right
      refine ⟨?_, error, left, held, rows.trans payouts⟩
      intro other otherPlan goes
      exact stuck (holdable.mpr (plan.unique otherPlan ▸ goes))
  · rw [ran]
    obtain ⟨configs, rfl⟩ := sound
    exact .inr ⟨fun hold plan => (unplanned hold plan).elim, error, _, rfl, rfl⟩

/-- The balance a sweep sees. -/
def collectionBalance (world : World) (accountId : AccountId) : Money :=
  ((world.wallets.find? ⟨accountId, .collection⟩).map Wallet.balance).getD 0

/-- The fee of a sweep. -/
def sweepFee (world : World) (accountId : AccountId) : ComputedFee :=
  (world.configOf accountId).fee .disbursement
    (collectionBalance world accountId)

/-- What the fee leaves of the balance. -/
def sweepAmount (world : World) (accountId : AccountId) : Decimal :=
  collectionBalance world accountId - (sweepFee world accountId).feeAmount

section

variable (now startOfToday : Time) (random : List Char) (minPayout : MinPayout)
variable {world : World} {account : Account}

theorem run_readBalance (accountId : AccountId) (world : World) :
    (readBalance accountId).run world =
      (.ok (collectionBalance world accountId), world) := rfl

theorem run_prepareSweep (settlement : SettlementAccount) :
    (prepareSweep now random minPayout false account settlement
        (collectionBalance world account.id)).run world =
      if BelowMinimum minPayout (sweepAmount world account.id) then
        (.ok (.inl
          (.skipped
          s!"balance below minimum payout ({Decimal.toFixedText 2 (sweepAmount world account.id)} after fee)")),
          world.withConfig account.id)
      else
        match buildReference random account.sourceCode none with
        | .error error => (.error error, world.withConfig account.id)
        | .ok reference =>
            (.ok (.inr
              (sweepHold now account settlement
              (collectionBalance world account.id)
              (sweepFee world account.id) "Auto-sweep" reference)),
              world.withConfig account.id) := by
  simp only [prepareSweep, Program.run_bind, run_computeFee]
  by_cases below : BelowMinimum minPayout (sweepAmount world account.id)
  · rw [if_pos below]
    unfold sweepAmount sweepFee at below
    rw [if_pos below]
    rfl
  · rw [if_neg below]
    unfold sweepAmount sweepFee at below
    rw [if_neg below]
    cases buildReference random account.sourceCode none <;> rfl

theorem run_prepareLeg
    (found : world.accounts.find? account.id = some account) :
    (prepareLeg now startOfToday random minPayout false account).run world =
      match defaultSettlement world account.id with
      | none => (.ok (.inl (.skipped "no settlement account")), world)
      | some settlement =>
          if (collectionBalance world account.id : Decimal) ≤ 0 then
            (.ok (.inl (.skipped "empty collection wallet")), world)
          else if sweptSince startOfToday account.id world then
            (.ok (.inl (.skipped "already swept today")), world)
          else (prepareSweep now random minPayout false account settlement
            (collectionBalance world account.id)).run world := by
  simp only [prepareLeg, Program.run_bind,
    run_getDefaultSettlementAccount found]
  cases defaultSettlement world account.id with
  | none => rfl
  | some settlement =>
      simp only [Program.run_bind, run_readBalance]
      split
      · rfl
      · simp only [Program.bind_perform, Program.run_query, select]
        split
        · rfl
        · rfl

/-- What the leg reports, from the result of its checks. -/
theorem run_sweepLeg :
    (sweepLeg now startOfToday random minPayout false account).run world =
      match (prepareLeg now startOfToday random minPayout false account).run
        world with
      | (.error error, left) => (.ok (.failed error), left)
      | (.ok (.inl detail), left) => (.ok detail, left)
      | (.ok (.inr hold), left) =>
          match (holdAndQueue now hold).run left with
          | (.error error, after) => (.ok (.failed error), after)
          | (.ok payout, after) =>
              (.ok (.created payout.reference payout.amount), after) := by
  simp only [sweepLeg, Program.run_catching, Program.run_bind]
  rcases (prepareLeg now startOfToday random minPayout false account).run
    world with
    ⟨error | (detail | hold), left⟩
  · rfl
  · rfl
  · simp only [finishLeg, Program.run_bind]
    rcases (holdAndQueue now hold).run left with ⟨error | payout, after⟩
    · rfl
    · rfl

end

end CloudStudio.Payouts
