import CloudStudio.Payouts.Debits
import CloudStudio.Payouts.AllOrNothing

/-!
# What a settlement plans

The checks of a withdrawal and of a sweep come to a plan: which settlement
account is paid, under which reference, and how much.  Up to the plan the state
gains at most the account's default fee schedule.
-/

namespace CloudStudio.Payouts

open CloudStudio.Data CloudStudio.Transactions CloudStudio.Platform
open CloudStudio.Payments
open CloudStudio.Wallets

/-- The settlement account a withdrawal goes to. -/
def wantedSettlement (world : World) (accountId : AccountId)
    (id : Option String) : Option SettlementAccount :=
  match nonEmpty id with
  | some id => world.settlementAccounts.rows.find? fun row =>
      row.id = id ∧ row.accountId = accountId ∧ row.isActive
  | none => defaultSettlement world accountId

/-- What the checks of a withdrawal find, up to its hold. -/
structure WithdrawalPlan (now : Time) (random : List Char)
    (minPayout : MinPayout) (accountId : AccountId) (dto : WithdrawalDto)
    (actorId : Option String) (world : World) (hold : Hold) : Prop where
  positive : 0 < (dto.amount.val : Decimal)
  enough : ¬ BelowMinimum minPayout (dto.amount.val +
    ((world.configOf accountId).fee .disbursement dto.amount.val).feeAmount)
  plan : ∃ account settlement reference,
    world.accounts.find? accountId = some account ∧
    wantedSettlement world accountId dto.settlementAccountId = some settlement ∧
    buildReference random account.sourceCode dto.reference = .ok reference ∧
    hold =
      { debit := settlementDebit accountId (dto.amount.val +
          ((world.configOf accountId).fee .disbursement
            dto.amount.val).feeAmount)
          s!"Settlement withdrawal ({reference})" reference actorId
        payout := settlementPayout now account settlement .withdrawal reference
          (upperReference dto.reference) dto.amount.val
          ((world.configOf accountId).fee .disbursement dto.amount.val) }

theorem WithdrawalPlan.unique {now : Time} {random : List Char}
    {minPayout : MinPayout} {accountId : AccountId} {dto : WithdrawalDto}
    {actorId : Option String} {world : World} {hold other : Hold}
    (plan : WithdrawalPlan now random minPayout accountId dto
      actorId world hold)
    (otherPlan : WithdrawalPlan now random minPayout accountId dto
      actorId world other) : other = hold := by
  obtain ⟨account, settlement, reference, found, wanted, built, rfl⟩ :=
    plan.plan
  obtain ⟨_, _, _, found', wanted', built', rfl⟩ := otherPlan.plan
  rw [found] at found'
  cases found'
  rw [wanted] at wanted'
  cases wanted'
  rw [built] at built'
  cases built'
  rfl

/-- The payout of a withdrawal is of the amount asked for. -/
theorem WithdrawalPlan.amount {now : Time} {random : List Char}
    {accountId : AccountId} {dto : WithdrawalDto} {actorId : Option String}
    {hold : Hold} {world : World} {minPayout : MinPayout}
    (plan : WithdrawalPlan now random minPayout accountId dto
      actorId world hold) : hold.payout.amount = dto.amount.val := by
  obtain ⟨account, settlement, reference, _, _, _, rfl⟩ := plan.plan
  exact Money.round_coe dto.amount.val

/-- A sweep of an account's balance to its default settlement account, of at
least the minimum. -/
structure SweepPlan (now : Time) (random : List Char) (minPayout : MinPayout)
    (account : Account) (world : World) (hold : Hold) : Prop where
  plan : ∃ settlement balance fee title reference,
    defaultSettlement world account.id = some settlement ∧
    buildReference random account.sourceCode none = .ok reference ∧
    hold = sweepHold now account settlement balance fee title reference
  enough : ¬ BelowMinimum minPayout hold.payout.amount

theorem sweepPlan {now : Time} {random : List Char} {account : Account}
    {settlement : SettlementAccount} {balance : Money} {fee : ComputedFee}
    {title : String} {reference : Reference} {minPayout : MinPayout}
    {world : World}
    (default : defaultSettlement world account.id = some settlement)
    (built : buildReference random account.sourceCode none = .ok reference)
    (enough : ¬ BelowMinimum minPayout (balance - fee.feeAmount)) :
    SweepPlan now random minPayout account world
      (sweepHold now account settlement balance fee title reference) := by
  refine ⟨⟨settlement, balance, fee, title, reference, default, built, rfl⟩, ?_⟩
  have amount :
    ((sweepHold now account settlement balance fee title
    reference).payout.amount : Decimal) = balance - fee.feeAmount :=
    Decimal.toFixed_of_hasPlaces (balance.property.sub fee.feeAmount.property)
  rw [amount]
  exact enough

/-- At most the account's default fee schedule has been added. -/
def Configured (accountId : AccountId) (before after : World) : Prop :=
  after = before ∨ after = before.withConfig accountId

theorem Configured.prepared {accountId : AccountId} {before after : World}
    (configured : Configured accountId before after) :
    Prepared before after := by
  rcases configured with rfl | rfl
  · exact .refl after
  · exact prepared_withConfig before accountId

section

variable {world : World}

theorem default_holds (accountId : AccountId) {rest : World → Prop}
    (stays : rest world) :
    (getDefaultSettlementAccount accountId).Holds (· = world)
      (fun settlement after => after = world ∧
        settlement = defaultSettlement world accountId) rest := by
  apply (stays_holds (Program.ReadOnly.read fun _ => rfl) stays).bind
  intro account
  cases account with
  | none =>
      apply Program.Holds.threw
      rintro state rfl
      exact stays
  | some account =>
      apply Program.Holds.read (fun _ => rfl)
      · rintro state settlement rfl answered
        cases answered
        exact ⟨rfl, rfl⟩
      · rintro state rfl
        exact stays

theorem readBalance_readOnly (accountId : AccountId) :
    (readBalance accountId).ReadOnly :=
  (Program.ReadOnly.read fun _ => rfl).bind fun _ => .returned _

theorem prepareSweep_plan (now : Time) (random : List Char)
    (minPayout : MinPayout) (dryRun : Bool) (account : Account)
    {settlement : SettlementAccount} (balance : Money)
    (default : defaultSettlement world account.id = some settlement) :
    (prepareSweep now random minPayout dryRun account settlement balance).Holds
      (· = world) (fun prepared after => Configured account.id world after ∧
        ∀ hold, prepared = .inr hold →
          SweepPlan now random minPayout account world hold)
      (Configured account.id world) := by
  apply (fee_holds _ _ _ (.inl rfl)).bind
  intro fee
  dsimp only
  split
  · apply Program.Holds.returned
    rintro _ ⟨rfl, _⟩
    refine ⟨.inr rfl, ?_⟩
    intro hold same
    cases same
  rename_i enough
  cases built : buildReference random account.sourceCode none with
  | error _ =>
      apply Program.Holds.threw
      rintro _ ⟨rfl, _⟩
      exact .inr rfl
  | ok reference =>
      dsimp only
      split
      · apply Program.Holds.returned
        rintro _ ⟨rfl, _⟩
        refine ⟨.inr rfl, ?_⟩
        intro hold same
        cases same
      · apply Program.Holds.returned
        rintro _ ⟨rfl, _⟩
        refine ⟨.inr rfl, ?_⟩
        intro hold same
        cases same
        exact sweepPlan default built enough

theorem prepareLeg_plan (now startOfToday : Time) (random : List Char)
    (minPayout : MinPayout) (dryRun : Bool) (account : Account) :
    (prepareLeg now startOfToday random minPayout dryRun account).Holds
      (· = world) (fun prepared after => Configured account.id world after ∧
        ∀ hold, prepared = .inr hold →
          SweepPlan now random minPayout account world hold)
      (Configured account.id world) := by
  have skips (reason : String) :
      (Program.returned (.inl (.skipped reason)) :
        Db (SweepDetail ⊕ Hold)).Holds (· = world)
        (fun prepared after => Configured account.id world after ∧
          ∀ hold, prepared = .inr hold →
            SweepPlan now random minPayout account world hold)
        (Configured account.id world) := by
    apply Program.Holds.returned
    rintro state rfl
    refine ⟨.inl rfl, ?_⟩
    intro hold same
    cases same
  apply (default_holds account.id (.inl rfl)).bind
  intro settlement
  apply Program.Holds.given
  intro default
  cases settlement with
  | none => exact skips _
  | some settlement =>
      apply (stays_holds (readBalance_readOnly _) (.inl rfl)).bind
      intro balance
      split
      · exact skips _
      apply (stays_holds (Program.ReadOnly.read fun _ => rfl) (.inl rfl)).bind
      intro alreadySwept
      split
      · exact skips _
      · exact prepareSweep_plan now random minPayout dryRun account
          balance default.symm

theorem prepareSweepNow_plan (now : Time) (random : List Char)
    (minPayout : MinPayout) (accountId : AccountId) :
    (prepareSweepNow now random minPayout accountId).Holds (· = world)
      (fun hold after => Configured accountId world after ∧
        ∃ account, world.accounts.find? accountId = some account ∧
          SweepPlan now random minPayout account world hold)
      (Configured accountId world) := by
  apply (account_holds accountId (.inl rfl)).bind
  intro account
  apply Program.Holds.given
  intro found
  have key : account.id = accountId := Table.key_of_find? found
  subst key
  apply (default_holds account.id (.inl rfl)).bind
  intro settlement
  apply Program.Holds.given
  intro default
  cases settlement with
  | none =>
      apply Program.Holds.threw
      rintro state rfl
      exact .inl rfl
  | some settlement =>
      apply (stays_holds (readBalance_readOnly _) (.inl rfl)).bind
      intro balance
      dsimp only
      split
      · apply Program.Holds.threw
        rintro state rfl
        exact .inl rfl
      apply (fee_holds _ _ _ (.inl rfl)).bind
      intro fee
      split
      · apply Program.Holds.threw
        rintro _ ⟨rfl, _⟩
        exact .inr rfl
      rename_i enough
      cases built : buildReference random account.sourceCode none with
      | error _ =>
          apply Program.Holds.threw
          rintro _ ⟨rfl, _⟩
          exact .inr rfl
      | ok reference =>
          apply Program.Holds.returned
          rintro _ ⟨rfl, _⟩
          exact ⟨.inr rfl, account, found, sweepPlan default.symm built enough⟩

theorem findSettlement_holds (accountId : AccountId) (id : Option String)
    {rest : World → Prop} (stays : rest world) :
    (findSettlement accountId id).Holds (· = world)
      (fun settlement after => after = world ∧
        settlement = wantedSettlement world accountId id) rest := by
  unfold findSettlement wantedSettlement
  cases nonEmpty id with
  | none => exact default_holds accountId stays
  | some id =>
      apply Program.Holds.read (fun _ => rfl)
      · rintro after settlement rfl answered
        cases answered
        exact ⟨rfl, rfl⟩
      · rintro after rfl
        exact stays

theorem prepareWithdrawal_plan (now : Time) (random : List Char)
    (minPayout : MinPayout) (accountId : AccountId) (dto : WithdrawalDto)
    (actorId : Option String) :
    (prepareWithdrawal now random minPayout accountId dto actorId).Holds
      (· = world) (fun hold after => Configured accountId world after ∧
        WithdrawalPlan now random minPayout accountId dto actorId world hold)
      (Configured accountId world) := by
  apply (account_holds accountId (.inl rfl)).bind
  intro account
  apply Program.Holds.given
  intro found
  have key : account.id = accountId := Table.key_of_find? found
  subst key
  apply (findSettlement_holds _ _ (.inl rfl)).bind
  intro settlement
  apply Program.Holds.given
  intro settles
  cases settlement with
  | none =>
      apply Program.Holds.threw
      rintro after rfl
      exact .inl rfl
  | some settlement =>
      dsimp only
      split
      · apply Program.Holds.threw
        rintro after rfl
        exact .inl rfl
      rename_i positive
      apply (fee_holds _ _ _ (.inl rfl)).bind
      intro fee
      split
      · apply Program.Holds.threw
        rintro _ ⟨rfl, _⟩
        exact .inr rfl
      rename_i enough
      cases built : buildReference random account.sourceCode dto.reference with
      | error _ =>
          apply Program.Holds.threw
          rintro _ ⟨rfl, _⟩
          exact .inr rfl
      | ok reference =>
          apply Program.Holds.returned
          rintro _ ⟨rfl, rfl⟩
          exact ⟨.inr rfl, not_le.mp positive, enough, account, settlement,
            reference, found, settles.symm, built, rfl⟩

end

end CloudStudio.Payouts
