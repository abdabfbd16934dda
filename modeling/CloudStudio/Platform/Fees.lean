import CloudStudio.Platform.Database

/-!
# Fees

`fees/fees.service.ts`.  The configuration row is created on first read.  Fee
amounts are rounded to cents with `toFixed(2)`.
-/

namespace CloudStudio.Platform

open CloudStudio.Data CloudStudio.Transactions

/-- What reaches `new Prisma.Decimal(...)`: a number, `NaN` or an infinity, or a
text the constructor rejects. -/
inductive NumberInput where
  | value (value : Decimal)
  | nonFinite
  | malformed
  deriving DecidableEq

def NumberInput.value? : NumberInput → Option Decimal
  | .value number => some number
  | .nonFinite | .malformed => none

inductive FeeKind where
  | collection | disbursement
  deriving DecidableEq

inductive FeeTier where
  | below | above
  deriving DecidableEq

structure ComputedFee where
  feeAmount : Money
  feeBps : ℕ
  thresholdApplied : FeeTier
  deriving DecidableEq

namespace FeeConfig

def threshold (config : FeeConfig) : FeeKind → Money
  | .collection => config.collectionThreshold
  | .disbursement => config.disbursementThreshold

def belowBps (config : FeeConfig) : FeeKind → Bps
  | .collection => config.collectionBelowBps
  | .disbursement => config.disbursementBelowBps

def aboveBps (config : FeeConfig) : FeeKind → Bps
  | .collection => config.collectionAboveBps
  | .disbursement => config.disbursementAboveBps

/-- `value.mul(feeBps).div(10000).toFixed(2)`. -/
def charge (bps : Bps) (value : Decimal) : Money :=
  Money.round (value * bps.val / 10000)

/-- The fee `computeFee` returns under this configuration. -/
def fee (config : FeeConfig) (kind : FeeKind) (value : Decimal) : ComputedFee :=
  let tier := if value < config.threshold kind then FeeTier.below else .above
  let bps := match tier with
    | .below => config.belowBps kind
    | .above => config.aboveBps kind
  { feeAmount := charge bps value, feeBps := bps.val, thresholdApplied := tier }

/-- The fee `computeTransferFee` returns under this configuration. -/
def transferFee (config : FeeConfig) (value : Decimal) : ComputedFee where
  feeAmount := charge config.transferBps value
  feeBps := config.transferBps.val
  thresholdApplied := .above

/-- A fee on a non-negative amount is not negative. -/
theorem charge_nonneg (bps : Bps) {value : Decimal} (nonneg : 0 ≤ value) :
    0 ≤ (charge bps value : Decimal) := by
  refine Decimal.toFixed_nonneg ?_
  positivity

/-- A fee on a whole number of cents takes at most the amount; on a negative
amount it takes at most as much again. -/
theorem charge_le_abs (bps : Bps) {value : Decimal}
    (cents : Decimal.HasPlaces 2 value) :
    |(charge bps value : Decimal)| ≤ |value| := by
  have share : |value * bps.val / 10000| ≤ |value| := by
    have part : (bps.val : Decimal) ≤ 10000 := by exact_mod_cast bps.property
    rw [abs_div, abs_mul, Nat.abs_cast,
      abs_of_pos (show (0 : Decimal) < 10000 by norm_num),
      div_le_iff₀ (by norm_num)]
    exact mul_le_mul_of_nonneg_left part (abs_nonneg value)
  obtain ⟨low, high⟩ := abs_le.mp share
  have upper := Decimal.toFixed_mono 2 high
  have lower := Decimal.toFixed_mono 2 low
  rw [Decimal.toFixed_neg, Decimal.toFixed_of_hasPlaces cents.abs] at lower
  rw [Decimal.toFixed_of_hasPlaces cents.abs] at upper
  exact abs_le.mpr ⟨lower, upper⟩

end FeeConfig

/-- Fetches the account's fee config, creating the default row on demand. -/
def getConfig (accountId : AccountId) : Db FeeConfig := do
  let existing ← Program.perform
    (feeConfigs.findUnique "feeConfig.find" accountId)
  match existing with
  | some config => pure config
  | none =>
      Program.catching
        (Program.perform (feeConfigs.create "feeConfig.create" { accountId }))
        -- a concurrent create won; read its row
        fun _ => do
          let row ← Program.perform
            (feeConfigs.findUnique "feeConfig.reread" accountId)
          match row with
          | some config => pure config
          | none => .threw (.missing .notFound "Fee config not found")

/-- The platform fee for a collection or disbursement.  An amount the decimal
library or the columns cannot take ends the call. -/
def computeFee (kind : FeeKind) (accountId : AccountId) (amount : NumberInput) :
    Db ComputedFee := do
  let config ← getConfig accountId
  match amount with
  | .value value => pure (config.fee kind value)
  | .nonFinite | .malformed => .threw .invalidValue

/-- Transfer fee (collection to disbursement wallet move), default 2%. -/
def computeTransferFee (accountId : AccountId) (amount : Decimal) :
    Db ComputedFee :=
  do
  let config ← getConfig accountId
  pure (config.transferFee amount)

/-- The configuration `getConfig` finds or creates. -/
def World.configOf (world : World) (accountId : AccountId) : FeeConfig :=
  (world.feeConfigs.find? accountId).getD { accountId }

end CloudStudio.Platform
