import CloudStudio.Payments.Failures
import CloudStudio.Payments.Initiation
import CloudStudio.Payouts.Settlements

/-!
# What a creation holds

Every single payout is prepared by reads and at most a default fee
configuration, and comes to a hold: a debit and a row.  Although the debits are
computed in different ways, each is what the row's amount and fee add up to.
-/

namespace CloudStudio.Payouts

open CloudStudio.Data CloudStudio.Transactions CloudStudio.Platform
open CloudStudio.Payments
open CloudStudio.Wallets

/-- At most fee configurations have been added. -/
def Prepared (before after : World) : Prop :=
  ∃ feeConfigs, after = { before with feeConfigs }

theorem Prepared.refl (world : World) : Prepared world world :=
  ⟨world.feeConfigs, rfl⟩

theorem prepared_withConfig (world : World) (accountId : AccountId) :
    Prepared world (world.withConfig accountId) := by
  unfold World.withConfig
  split
  · exact .refl world
  · exact ⟨_, rfl⟩

/-- The debit is a debit of the whole of what the new row says was debited, on
the wallet the row names. -/
structure Hold.Fits (hold : Hold) : Prop where
  reference : hold.debit.reference = some hold.payout.reference
  account : hold.debit.accountId = hold.payout.accountId
  wallet : hold.debit.type = hold.payout.sourceWallet
  debits : hold.debit.txType = .payoutDebit ∨ hold.debit.txType = .withdrawal
  amount : hold.debit.amount = .value (fullDebit hold.payout)
  cents : Decimal.HasPlaces 2 (fullDebit hold.payout)
  nonneg : 0 ≤ fullDebit hold.payout
  debited : hold.payout.walletDebitedAt.isSome
  unrefunded : hold.payout.refundedAt = none
  pending : hold.payout.status = .pending
  single : hold.payout.batchId = none

/-- A hold of an account that exists. -/
def Hold.FitsIn (world : World) (hold : Hold) : Prop :=
  hold.Fits ∧ ∃ account, world.accounts.find? hold.payout.accountId =
    some account

/-- The reference of the payout a leg reports as created. -/
def SweepDetail.reference? : SweepDetail → Option Reference
  | .created reference _ => some reference
  | .skipped _ | .dryRun _ _ | .failed _ => none

/-- What the checks of a leg come to: a hold, or a report that nothing is
created. -/
def LegFits (world : World) : SweepDetail ⊕ Hold → Prop
  | .inl detail => detail.reference? = none
  | .inr hold => hold.FitsIn world

/-- A sweep takes the whole balance of the COLLECTION wallet. -/
structure Hold.Sweeps (world : World) (accountId : AccountId) (hold : Hold) :
    Prop where
  account : hold.payout.accountId = accountId
  wallet : hold.payout.sourceWallet = .collection
  balance : fullDebit hold.payout = world.balance ⟨accountId, .collection⟩

/-- The hold of a leg, if there is one, is a sweep. -/
def LegSweeps (world : World) (accountId : AccountId) :
    SweepDetail ⊕ Hold → Prop
  | .inl _ => True
  | .inr hold => hold.Sweeps world accountId

section

variable {world : World}

/-- A program that only reads, whatever is wanted of the state it leaves. -/
theorem stays_holds {Answer : Type} {program : Db Answer}
    (readOnly : program.ReadOnly) {rest : World → Prop} (stays : rest world) :
    program.Holds (· = world) (fun _ after => after = world) rest :=
  (readOnly world).mono (fun _ same => same) (fun _ _ same => same)
    fun _ same => same ▸ stays

theorem account_holds (accountId : AccountId) {rest : World → Prop}
    (stays : rest world) :
    (findAccount accountId).Holds (· = world)
      (fun account after => after = world ∧ world.accounts.find? accountId =
        some account) rest :=
  (findAccount_finds accountId).mono (fun _ same => same)
    (fun _ _ found => found) fun _ same => same ▸ stays

theorem fee_holds (kind : FeeKind) (accountId : AccountId) (value : Decimal)
    {rest : World → Prop} (stays : rest world) :
    (computeFee kind accountId (.value value)).Holds (· = world)
      (fun fee after => after = world.withConfig accountId ∧
        fee = (world.configOf accountId).fee kind value) rest := by
  intro faults state same
  subst same
  rcases exec_computeFee kind accountId value faults state with
    ⟨_, ran⟩ | ⟨_, outcome, ran, fails⟩
  · rw [ran]
    exact ⟨rfl, rfl⟩
  · rw [ran]
    cases outcome with
    | returned fee => exact (fails fee rfl).elim
    | threw error => exact stays
    | stopped => exact stays

theorem findAccount_holds (accountId : AccountId) :
    (findAccount accountId).Holds (· = world)
      (fun account after => after = world ∧ world.accounts.find? accountId =
        some account) (Prepared world) :=
  account_holds accountId (.refl world)

/-- A program that only reads, in front of others. -/
theorem readOnly_holds {Answer : Type} {program : Db Answer}
    (readOnly : program.ReadOnly) :
    program.Holds (· = world) (fun _ after => after = world) (Prepared world) :=
  stays_holds readOnly (.refl world)

theorem computeFee_holds (kind : FeeKind) (accountId : AccountId)
    (value : Decimal) :
    (computeFee kind accountId (.value value)).Holds (· = world)
      (fun fee after => after = world.withConfig accountId ∧
        fee = (world.configOf accountId).fee kind value) (Prepared world) :=
  fee_holds kind accountId value (.refl world)

theorem getDefaultSettlementAccount_readOnly (accountId : AccountId) :
    (getDefaultSettlementAccount accountId).ReadOnly := by
  apply (Program.ReadOnly.read fun _ => rfl).bind
  intro account
  cases account with
  | none => exact .threw _
  | some account => exact .read fun _ => rfl

/-- An account that has a default settlement account exists. -/
theorem getDefaultSettlementAccount_holds (accountId : AccountId) :
    (getDefaultSettlementAccount accountId).Holds (· = world)
      (fun _ after => after = world ∧ ∃ account,
        world.accounts.find? accountId = some account) (Prepared world) := by
  have lookup : (Program.perform (select "settlement.account" fun world =>
      world.accounts.find? accountId) : Db (Option Account)).Holds (· = world)
        (fun answer after => after = world ∧ world.accounts.find? accountId =
          answer)
        (Prepared world) := by
    apply Program.Holds.read (fun _ => rfl)
    · rintro state answer rfl answered
      cases answered
      exact ⟨rfl, rfl⟩
    · rintro state rfl
      exact .refl state
  apply lookup.bind
  intro answer
  cases answer with
  | none =>
      apply Program.Holds.threw
      rintro state ⟨rfl, _⟩
      exact .refl state
  | some account =>
      apply Program.Holds.read (fun _ => rfl)
      · rintro state _ ⟨rfl, found⟩ _
        exact ⟨rfl, account, found⟩
      · rintro state ⟨rfl, _⟩
        exact .refl state

theorem findSettlement_readOnly (accountId : AccountId)
    (wanted : Option String) : (findSettlement accountId wanted).ReadOnly := by
  unfold findSettlement
  split
  · exact .read fun _ => rfl
  · exact getDefaultSettlementAccount_readOnly accountId

theorem readBalance_holds (accountId : AccountId) :
    (readBalance accountId).Holds (· = world)
      (fun balance after => after = world ∧
        (balance : Decimal) = world.balance ⟨accountId, .collection⟩)
          (Prepared world) := by
  have lookup : (Program.perform (wallets.findUnique "sweep.wallet"
      ⟨accountId, .collection⟩) : Db (Option Wallet)).Holds (· = world)
        (fun answer after => after = world ∧
          world.wallets.find? ⟨accountId, .collection⟩ = answer)
            (Prepared world) := by
    apply Program.Holds.read (fun _ => rfl)
    · rintro state answer rfl answered
      cases answered
      exact ⟨rfl, rfl⟩
    · rintro state rfl
      exact .refl state
  apply lookup.bind
  intro wallet
  apply Program.Holds.returned
  rintro state ⟨rfl, found⟩
  refine ⟨rfl, ?_⟩
  simp only [World.balance, found]
  cases wallet <;> rfl

theorem payoutHold_fits (now : Time) (accountId : AccountId) (channel : PayoutChannel)
    (dto : PayoutDto) (reference : Reference) (config : FeeConfig) :
    Hold.Fits
      { debit := payoutDebit accountId dto reference (config.fee .disbursement dto.amount.val)
        payout := newPayout now accountId channel dto reference
          (config.fee .disbursement dto.amount.val) } := by
  have feeNonneg :
    0 ≤ ((config.fee .disbursement dto.amount.val).feeAmount : Decimal) :=
    FeeConfig.charge_nonneg _ dto.amount.property
  have cents := dto.amount.val.property.add
    (config.fee .disbursement dto.amount.val).feeAmount.property
  constructor
  · rfl
  · rfl
  · rfl
  · exact .inl rfl
  · exact congrArg NumberInput.value (Decimal.toFixed_of_hasPlaces cents)
  · exact cents
  · exact add_nonneg dto.amount.property feeNonneg
  · rfl
  · rfl
  · rfl
  · rfl

/-- A settlement whose debit is what is paid out and the fee. -/
theorem settlementHold_fits {now : Time} {account : Account}
    {settlement : SettlementAccount} {kind : PayoutKind} {reference : Reference}
    {clientReference : Option String} {amount debit : Decimal}
    {fee : ComputedFee} {description : String} {actorId : Option String}
    (adds : debit = amount + fee.feeAmount) (cents : Decimal.HasPlaces 2 amount)
    (nonneg : 0 ≤ debit) :
    Hold.Fits
      { debit := settlementDebit account.id debit description reference actorId
        payout := settlementPayout now account settlement kind reference
          clientReference amount fee } := by
  have full : fullDebit (settlementPayout now account settlement kind reference
      clientReference amount fee) = debit := by
    simp only [fullDebit, settlementPayout, Money.coe_round_of_hasPlaces cents]
    exact adds.symm
  have debitCents : Decimal.HasPlaces 2 debit := by
    rw [adds]
    exact cents.add fee.feeAmount.property
  constructor
  · rfl
  · rfl
  · rfl
  · exact .inr rfl
  · rw [full]
    exact congrArg NumberInput.value (Decimal.toFixed_of_hasPlaces debitCents)
  · rw [full]
    exact debitCents
  · rw [full]
    exact nonneg
  · rfl
  · rfl
  · rfl
  · rfl

theorem sweepHold_sweeps (now : Time) (account : Account)
    (settlement : SettlementAccount) {balance : Money} (fee : ComputedFee)
    (title : String) (reference : Reference)
    (read : (balance : Decimal) = world.balance ⟨account.id, .collection⟩) :
    (sweepHold now account settlement balance fee title reference).Sweeps world
      account.id := by
  constructor
  · rfl
  · rfl
  · have cents := balance.property.sub fee.feeAmount.property
    rw [← read]
    simp only [sweepHold, settlementPayout, fullDebit,
      Money.coe_round_of_hasPlaces cents]
    exact sub_add_cancel _ _

/-- What the fee leaves of a swept balance, and the fee, are the balance. -/
theorem sweepHold_fits (now : Time) (account : Account)
    (settlement : SettlementAccount) {balance : Money} (fee : ComputedFee)
    (title : String) (reference : Reference)
    (positive : ¬ (balance : Decimal) ≤ 0) :
    (sweepHold now account settlement balance fee title reference).Fits := by
  apply settlementHold_fits
  · exact (sub_add_cancel _ _).symm
  · exact balance.property.sub fee.feeAmount.property
  · exact (not_le.mp positive).le

/-! ## The preparations -/

theorem preparePayout_holds (now : Time) (random : List Char)
    (accountId : AccountId) (channel : PayoutChannel) (dto : PayoutDto) :
    (preparePayout now random accountId channel dto).Holds (· = world)
      (fun hold after => Prepared world after ∧ hold.FitsIn world)
        (Prepared world) := by
  apply (findAccount_holds accountId).bind
  intro account
  cases buildReference random account.sourceCode dto.reference with
  | error _ =>
      apply Program.Holds.threw
      rintro state ⟨rfl, _⟩
      exact .refl state
  | ok reference =>
      intro faults state ⟨same, found⟩
      subst same
      refine Program.Holds.bind
        (readOnly_holds (rejectRepeated_readOnly _ _ _ _))
        (fun _ => Program.Holds.bind (computeFee_holds _ _ _) fun fee => ?_)
          faults state rfl
      apply Program.Holds.returned
      rintro after ⟨rfl, rfl⟩
      refine ⟨prepared_withConfig state accountId, ?_, account, found⟩
      exact payoutHold_fits now accountId channel dto reference _

theorem prepareWithdrawal_holds (now : Time) (random : List Char)
    (minPayout : MinPayout) (accountId : AccountId) (dto : WithdrawalDto)
    (actorId : Option String) :
    (prepareWithdrawal now random minPayout accountId dto actorId).Holds
      (· = world)
      (fun hold after => Prepared world after ∧ hold.FitsIn world)
        (Prepared world) := by
  apply (findAccount_holds accountId).bind
  rintro account faults state ⟨same, found⟩
  subst same
  have key : account.id = accountId := Table.key_of_find? found
  refine Program.Holds.bind (readOnly_holds (findSettlement_readOnly _ _))
    (fun settlement => ?_) faults state rfl
  cases settlement with
  | none =>
      apply Program.Holds.threw
      rintro state rfl
      exact .refl state
  | some settlement =>
      dsimp only
      split
      · apply Program.Holds.threw
        rintro state rfl
        exact .refl state
      apply (computeFee_holds _ _ _).bind
      intro fee
      split
      · apply Program.Holds.threw
        rintro _ ⟨rfl, _⟩
        exact prepared_withConfig state account.id
      cases buildReference random account.sourceCode dto.reference with
      | error _ =>
          apply Program.Holds.threw
          rintro _ ⟨rfl, _⟩
          exact prepared_withConfig state account.id
      | ok reference =>
          apply Program.Holds.returned
          rintro _ ⟨rfl, rfl⟩
          refine ⟨prepared_withConfig state account.id, ?_, account, ?_⟩
          · apply settlementHold_fits rfl dto.amount.val.property
            exact add_nonneg dto.amount.property
              (FeeConfig.charge_nonneg _ dto.amount.property)
          · change state.accounts.find? account.id = some account
            rw [key]
            exact found

theorem prepareSweep_holds (now : Time) (random : List Char)
    (minPayout : MinPayout) (dryRun : Bool) (account : Account)
    (settlement : SettlementAccount) {balance : Money}
    (exists_ : ∃ row, world.accounts.find? account.id = some row)
    (positive : ¬ (balance : Decimal) ≤ 0)
    (read : (balance : Decimal) = world.balance ⟨account.id, .collection⟩) :
    (prepareSweep now random minPayout dryRun account settlement balance).Holds
      (· = world)
      (fun prepared after => Prepared world after ∧ LegFits world prepared ∧
        LegSweeps world account.id prepared) (Prepared world) := by
  apply (computeFee_holds _ _ _).bind
  intro fee
  dsimp only
  split
  · apply Program.Holds.returned
    rintro _ ⟨rfl, _⟩
    exact ⟨prepared_withConfig world account.id, rfl, trivial⟩
  cases buildReference random account.sourceCode none with
  | error _ =>
      apply Program.Holds.threw
      rintro _ ⟨rfl, _⟩
      exact prepared_withConfig world account.id
  | ok reference =>
      dsimp only
      split
      · apply Program.Holds.returned
        rintro _ ⟨rfl, _⟩
        exact ⟨prepared_withConfig world account.id, rfl, trivial⟩
      · apply Program.Holds.returned
        rintro _ ⟨rfl, _⟩
        exact ⟨prepared_withConfig world account.id,
          ⟨sweepHold_fits now account settlement fee "Auto-sweep" reference
            positive, exists_⟩,
          sweepHold_sweeps now account settlement fee "Auto-sweep"
            reference read⟩

theorem prepareLeg_holds (now startOfToday : Time) (random : List Char)
    (minPayout : MinPayout) (dryRun : Bool) (account : Account) :
    (prepareLeg now startOfToday random minPayout dryRun account).Holds
      (· = world)
      (fun prepared after => Prepared world after ∧ LegFits world prepared ∧
        LegSweeps world account.id prepared) (Prepared world) := by
  have skips (reason : String) (pre : World → Prop) (same : ∀ state, pre state →
    state = world) :
      (Program.returned (.inl (.skipped reason)) :
        Db (SweepDetail ⊕ Hold)).Holds pre
        (fun prepared after => Prepared world after ∧ LegFits world prepared ∧
          LegSweeps world account.id prepared) (Prepared world) := by
    apply Program.Holds.returned
    intro state met
    rw [same state met]
    exact ⟨.refl _, rfl, trivial⟩
  apply (getDefaultSettlementAccount_holds _).bind
  intro settlement
  cases settlement with
  | none => exact skips _ _ fun _ met => met.1
  | some settlement =>
      rintro faults state ⟨same, exists_⟩
      refine Program.Holds.bind (readBalance_holds _)
        (fun balance => Program.Holds.given fun read => ?_) faults state same
      split
      · exact skips _ _ fun _ met => met
      rename_i positive
      apply (readOnly_holds (Program.ReadOnly.read fun _ => rfl)).bind
      intro alreadySwept
      split
      · exact skips _ _ fun _ met => met
      · exact prepareSweep_holds now random minPayout dryRun account settlement
          exists_ positive read

theorem prepareSweepNow_holds (now : Time) (random : List Char)
    (minPayout : MinPayout) (accountId : AccountId) :
    (prepareSweepNow now random minPayout accountId).Holds (· = world)
      (fun hold after => Prepared world after ∧ hold.FitsIn world ∧
        hold.Sweeps world accountId) (Prepared world) := by
  apply (findAccount_holds accountId).bind
  rintro account faults state ⟨same, found⟩
  subst same
  have key : account.id = accountId := Table.key_of_find? found
  subst key
  refine Program.Holds.bind
    (readOnly_holds (getDefaultSettlementAccount_readOnly _))
    (fun settlement => ?_) faults state rfl
  cases settlement with
  | none =>
      apply Program.Holds.threw
      rintro state rfl
      exact .refl state
  | some settlement =>
      apply (readBalance_holds _).bind
      intro balance
      apply Program.Holds.given
      intro read
      dsimp only
      split
      · apply Program.Holds.threw
        rintro state rfl
        exact .refl state
      rename_i positive
      apply (computeFee_holds _ _ _).bind
      intro fee
      split
      · apply Program.Holds.threw
        rintro _ ⟨rfl, _⟩
        exact prepared_withConfig state account.id
      cases buildReference random account.sourceCode none with
      | error _ =>
          apply Program.Holds.threw
          rintro _ ⟨rfl, _⟩
          exact prepared_withConfig state account.id
      | ok reference =>
          apply Program.Holds.returned
          rintro _ ⟨rfl, _⟩
          exact ⟨prepared_withConfig state account.id,
            ⟨sweepHold_fits now account settlement fee "Manual sweep"
              reference positive, account, found⟩,
            sweepHold_sweeps now account settlement fee "Manual sweep"
              reference read⟩

end

end CloudStudio.Payouts
