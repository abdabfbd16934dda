import CloudStudio.Accounts.Creation
import CloudStudio.Payments.TxnStatus

/-!
# Fees under every reachable schedule

Schedules are written by account creation, by default on a first read and by
`updateConfig`.  Under all of them a fee is a share of its amount rounded to
cents, and takes no more than the amount, so that what is left and the fee add
up to it again.
-/

namespace CloudStudio.Accounts

open CloudStudio.Data CloudStudio.Transactions CloudStudio.Platform
open CloudStudio.Payouts
open CloudStudio.Payments

inductive FeeCall where
  | create (now : Time) (generated : Generated) (dto : CreateAccountDto)
  | read (accountId : AccountId)
  | update (accountId : AccountId) (patch : FeePatch)

def FeeCall.program : FeeCall → Db Unit
  | .create now generated dto =>
      Program.discard (Accounts.create now generated dto)
  | .read accountId => Program.discard (getConfig accountId)
  | .update accountId patch => Program.discard (updateConfig accountId patch)

/-- The state after calls run one after another, accepted or rejected. -/
def afterCalls (calls : List FeeCall) (world : World) : World :=
  calls.foldl (fun world call => (call.program.run world).2) world

/-- The schedule a patch leaves, if its checks pass. -/
def patchedConfig (patch : FeePatch) (config : FeeConfig) : FeeConfig :=
  match checkPatch patch with
  | .ok change => change.apply config
  | .error _ => config

/-- A rejected update leaves the schedule as it was, and an accepted one
overrides what the patch gives; other accounts keep theirs. -/
theorem configOf_updateConfig (accountId owner : AccountId) (patch : FeePatch)
    (world : World) :
    ((updateConfig accountId patch).run world).2.configOf owner =
      if owner = accountId then patchedConfig patch (world.configOf owner)
      else world.configOf owner := by
  have configured : ∃ row,
    (world.withConfig accountId).feeConfigs.find? accountId = some row ∧
      row = world.configOf accountId := by
    unfold World.withConfig World.configOf
    cases found : world.feeConfigs.find? accountId with
    | some row => exact ⟨row, found, rfl⟩
    | none =>
        refine ⟨{ accountId }, ?_, rfl⟩
        simp [Table.find?_insert, found]
  have others : (world.withConfig accountId).configOf owner =
    world.configOf owner := by
    unfold World.withConfig
    cases found : world.feeConfigs.find? accountId with
    | some row => rfl
    | none =>
        simp only [World.configOf, Table.find?_insert]
        by_cases same : accountId = owner
        · subst same
          simp [found]
        · simp [same]
  obtain ⟨row, found, row_eq⟩ := configured
  simp only [updateConfig, Program.run_bind, run_getConfig, patchedConfig]
  cases checkPatch patch with
  | error error =>
      simp only [Program.run_threw, others, ite_self]
  | ok change =>
      simp only [Program.run_perform, Relation.update, feeConfigs, found]
      simp only [World.configOf, Table.find?_modify] at others ⊢
      split
      · rename_i same
        subst same
        rw [found, Option.map_some, Option.getD_some, row_eq]
        rfl
      · exact others

/-- A fee at a rate: the share of the amount rounded half up to cents, between
nothing and the amount. -/
structure IsFee (bps : ℕ) (amount : Decimal) (fee : Money) : Prop where
  rounded : (fee : Decimal) = (⌊amount * bps / 10000 * 100 + 1 / 2⌋ : ℤ) / 100
  nonneg : 0 ≤ (fee : Decimal)
  le : (fee : Decimal) ≤ amount

theorem isFee_charge (bps : Bps) (amount : Amount) :
    IsFee bps.val amount.val (FeeConfig.charge bps amount.val) := by
  obtain ⟨amount, nonneg⟩ := amount
  constructor
  · have share : 0 ≤ (amount : Decimal) * bps.val / 10000 * 100 := by positivity
    rw [FeeConfig.charge, Money.coe_round, Decimal.toFixed, Decimal.roundHalfUp]
    norm_num only
    rw [if_pos share]
  · exact FeeConfig.charge_nonneg bps nonneg
  · have le := FeeConfig.charge_le_abs bps amount.property
    rw [abs_of_nonneg nonneg] at le
    exact (le_abs_self _).trans le

theorem charge_mono (bps : Bps) {less more : Decimal} (le : less ≤ more) :
    (FeeConfig.charge bps less : Decimal) ≤ FeeConfig.charge bps more := by
  apply Decimal.toFixed_mono
  gcongr

/-- The rate of a tier. -/
def tierBps (config : FeeConfig) (kind : FeeKind) (amount : Decimal) : Bps :=
  if amount < config.threshold kind then config.belowBps
    kind else config.aboveBps kind

theorem fee_eq (config : FeeConfig) (kind : FeeKind) (amount : Decimal) :
    config.fee kind amount =
      { feeAmount := FeeConfig.charge (tierBps config kind amount) amount
        feeBps := (tierBps config kind amount).val
        thresholdApplied :=
          if amount < config.threshold kind then .below else .above } := by
  unfold FeeConfig.fee tierBps
  by_cases below : amount < config.threshold kind <;> simp [below]

/-- The net of a collection that was charged the fee on its gross: it is not
negative, and together with the fee it is the gross. -/
def NetRestores (amount : Amount) (fee : ComputedFee) : Prop :=
  ∀ collection updated : Collection,
    updated.collectedAmount.getD updated.amount = (amount.val : Decimal) →
    ∃ net, (collectionCredit collection updated fee).amount = .value net ∧
      0 ≤ net ∧ net + fee.feeAmount = amount.val

/-- The payout of a sweep of a balance that was charged the fee on it: it is not
negative, and together with the fee it is the balance, which is what is
debited. -/
def SweepRestores (balance : Amount) (fee : ComputedFee) : Prop :=
  ∀ (now : Time) (account : Account) (settlement : SettlementAccount) (title : String)
    (reference : Reference),
    let hold := sweepHold now account settlement balance.val fee title reference
    0 ≤ (hold.payout.amount : Decimal) ∧
      (hold.payout.amount : Decimal) + fee.feeAmount = balance.val ∧
      hold.debit.amount = .value balance.val

theorem netRestores {amount : Amount} {fee : ComputedFee}
    (le : (fee.feeAmount : Decimal) ≤ amount.val) : NetRestores amount fee := by
  intro collection updated gross
  refine ⟨Decimal.toFixed 2 (amount.val - fee.feeAmount), ?_, ?_, ?_⟩
  · rw [← gross]
    rfl
  · exact Decimal.toFixed_nonneg (sub_nonneg.mpr le)
  · rw [Decimal.toFixed_of_hasPlaces
      (amount.val.property.sub fee.feeAmount.property), sub_add_cancel]

theorem sweepRestores {balance : Amount} {fee : ComputedFee}
    (le : (fee.feeAmount : Decimal) ≤ balance.val) :
    SweepRestores balance fee := by
  intro now account settlement title reference
  have cents := balance.val.property.sub fee.feeAmount.property
  have paid :
    ((sweepHold now account settlement balance.val fee title
    reference).payout.amount : Decimal) = balance.val - fee.feeAmount :=
        Decimal.toFixed_of_hasPlaces cents
  refine ⟨?_, ?_, ?_⟩
  · rw [paid]
    exact sub_nonneg.mpr le
  · rw [paid, sub_add_cancel]
  · exact congrArg NumberInput.value
      (Decimal.toFixed_of_hasPlaces balance.val.property)

/-- After any calls, both fees on an amount are its share at the account's rate,
the net of a collection and the payout of a sweep are what the fee leaves, and
within a tier a larger amount pays no smaller fee. -/
theorem fees_never_exceed (calls : List FeeCall) (start : World)
    (accountId : AccountId) (amount : Amount) :
    let world := afterCalls calls start
    (∀ kind, ∃ fee,
      ((computeFee kind accountId (.value amount.val)).run world).1 = .ok fee ∧
        fee.feeBps = (tierBps (world.configOf accountId) kind amount.val).val ∧
        IsFee fee.feeBps amount.val fee.feeAmount ∧ NetRestores amount fee ∧
        SweepRestores amount fee ∧
        ∀ (larger : Amount) other, (amount.val : Decimal) ≤ larger.val →
          ((computeFee kind accountId (.value larger.val)).run world).1 =
            .ok other →
          other.thresholdApplied = fee.thresholdApplied →
          (fee.feeAmount : Decimal) ≤ other.feeAmount) ∧
    ∃ fee, ((computeTransferFee accountId amount.val).run world).1 = .ok fee ∧
      fee.feeBps = (world.configOf accountId).transferBps.val ∧
      IsFee fee.feeBps amount.val fee.feeAmount ∧
      ∀ (larger : Amount) other, (amount.val : Decimal) ≤ larger.val →
        ((computeTransferFee accountId larger.val).run world).1 = .ok other →
        (fee.feeAmount : Decimal) ≤ other.feeAmount := by
  intro world
  constructor
  · intro kind
    refine ⟨(world.configOf accountId).fee kind amount.val, ?_⟩
    rw [run_computeFee, fee_eq]
    have charged :=
      isFee_charge (tierBps (world.configOf accountId) kind amount.val) amount
    refine ⟨rfl, rfl, charged, netRestores charged.le, sweepRestores charged.le,
      ?_⟩
    intro larger other le computed tier
    rw [run_computeFee, fee_eq] at computed
    cases computed
    have rate : tierBps (world.configOf accountId) kind larger.val =
        tierBps (world.configOf accountId) kind amount.val := by
      unfold tierBps
      by_cases below : (amount.val : Decimal) <
        (world.configOf accountId).threshold kind
      · by_cases above : (larger.val : Decimal) <
          (world.configOf accountId).threshold kind
        · rw [if_pos below, if_pos above]
        · rw [if_pos below, if_neg above] at tier
          cases tier
      · have above : ¬ (larger.val : Decimal) <
          (world.configOf accountId).threshold kind :=
          fun small => below (lt_of_le_of_lt le small)
        rw [if_neg below, if_neg above]
    simp only [rate]
    exact charge_mono _ le
  · refine ⟨(world.configOf accountId).transferFee amount.val, ?_⟩
    rw [Wallets.run_computeTransferFee]
    refine ⟨rfl, rfl, isFee_charge _ amount, ?_⟩
    intro larger other le computed
    rw [Wallets.run_computeTransferFee] at computed
    cases computed
    exact charge_mono _ le

end CloudStudio.Accounts
