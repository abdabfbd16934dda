import Mathlib.Data.Rat.Floor
import Mathlib.Tactic.Linarith
import Mathlib.Tactic.NormNum
import Mathlib.Tactic.Positivity
import Mathlib.Tactic.FieldSimp
import Mathlib.Tactic.Ring

/-!
# Exact decimals and rounding

Decimal values are exact rationals.  Rounding to a number of places is half away
from zero, which is both the decimal library's `ROUND_HALF_UP` behind
`toFixed` and what a `numeric(p, s)` column does on assignment.
-/

namespace CloudStudio.Data

/-- An exact decimal value. -/
abbrev Decimal := ℚ

namespace Decimal

/-- Nearest integer, ties away from zero. -/
def roundHalfUp (value : Decimal) : ℤ :=
  if 0 ≤ value then ⌊value + 1 / 2⌋ else -⌊-value + 1 / 2⌋

/-- `value` rounded to `places` decimals. -/
def toFixed (places : ℕ) (value : Decimal) : Decimal :=
  roundHalfUp (value * 10 ^ places) / 10 ^ places

/-- `value` has at most `places` decimals. -/
def HasPlaces (places : ℕ) (value : Decimal) : Prop :=
  ∃ units : ℤ, value = units / 10 ^ places

theorem scale_pos (places : ℕ) : (0 : ℚ) < 10 ^ places := by positivity

theorem scale_ne_zero (places : ℕ) : (10 : ℚ) ^ places ≠ 0 :=
  (scale_pos places).ne'

@[simp] theorem roundHalfUp_intCast (units : ℤ) :
    roundHalfUp (units : ℚ) = units := by
  have floor (n : ℤ) : ⌊(n : ℚ) + 1 / 2⌋ = n := by
    rw [Int.floor_eq_iff]
    constructor <;> linarith
  unfold roundHalfUp
  split
  · exact floor units
  · rw [← Int.cast_neg, floor, neg_neg]

@[simp] theorem roundHalfUp_neg (value : Decimal) :
    roundHalfUp (-value) = -roundHalfUp value := by
  rcases lt_trichotomy value 0 with negative | rfl | positive
  · simp [roundHalfUp, negative.le, not_le.mpr negative]
  · norm_num [roundHalfUp]
  · simp [roundHalfUp, positive.le, not_le.mpr positive]

theorem roundHalfUp_nonneg {value : Decimal} (nonneg : 0 ≤ value) :
    0 ≤ roundHalfUp value := by
  rw [roundHalfUp, if_pos nonneg]
  exact Int.floor_nonneg.mpr (by linarith)

theorem hasPlaces_toFixed (places : ℕ) (value : Decimal) :
    HasPlaces places (toFixed places value) :=
  ⟨_, rfl⟩

theorem toFixed_of_hasPlaces {places : ℕ} {value : Decimal}
    (exact_ : HasPlaces places value) : toFixed places value = value := by
  obtain ⟨units, rfl⟩ := exact_
  rw [toFixed, div_mul_cancel₀ _ (scale_ne_zero places), roundHalfUp_intCast]

theorem toFixed_eq_self_iff {places : ℕ} {value : Decimal} :
    toFixed places value = value ↔ HasPlaces places value := by
  constructor
  · intro fixed
    rw [← fixed]
    exact hasPlaces_toFixed places value
  · exact toFixed_of_hasPlaces

instance (places : ℕ) (value : Decimal) : Decidable (HasPlaces places value) :=
  decidable_of_iff (toFixed places value = value) toFixed_eq_self_iff

@[simp] theorem toFixed_toFixed (places : ℕ) (value : Decimal) :
    toFixed places (toFixed places value) = toFixed places value :=
  toFixed_of_hasPlaces (hasPlaces_toFixed places value)

@[simp] theorem toFixed_neg (places : ℕ) (value : Decimal) :
    toFixed places (-value) = -toFixed places value := by
  simp [toFixed, neg_div]

theorem toFixed_nonneg {places : ℕ} {value : Decimal} (nonneg : 0 ≤ value) :
    0 ≤ toFixed places value := by
  have scaled : 0 ≤ value * 10 ^ places :=
    mul_nonneg nonneg (scale_pos places).le
  exact div_nonneg
    (by exact_mod_cast roundHalfUp_nonneg scaled) (scale_pos places).le

theorem roundHalfUp_mono {less more : Decimal} (le : less ≤ more) :
    roundHalfUp less ≤ roundHalfUp more := by
  unfold roundHalfUp
  split <;> split
  · exact Int.floor_le_floor (by linarith)
  · linarith
  · have low : 0 ≤ ⌊-less + 1 / 2⌋ := Int.floor_nonneg.mpr (by linarith)
    have high : 0 ≤ ⌊more + 1 / 2⌋ := Int.floor_nonneg.mpr (by linarith)
    linarith
  · exact neg_le_neg (Int.floor_le_floor (by linarith))

theorem toFixed_mono (places : ℕ) {less more : Decimal} (le : less ≤ more) :
    toFixed places less ≤ toFixed places more := by
  have scale := scale_pos places
  have units := roundHalfUp_mono (mul_le_mul_of_nonneg_right le scale.le)
  unfold toFixed
  gcongr

namespace HasPlaces

variable {places : ℕ} {left right : Decimal}

theorem zero : HasPlaces places 0 := ⟨0, by simp⟩

theorem add (hleft : HasPlaces places left) (hright : HasPlaces places right) :
    HasPlaces places (left + right) := by
  obtain ⟨m, rfl⟩ := hleft
  obtain ⟨n, rfl⟩ := hright
  exact ⟨m + n, by push_cast; ring⟩

theorem neg (hleft : HasPlaces places left) : HasPlaces places (-left) := by
  obtain ⟨m, rfl⟩ := hleft
  exact ⟨-m, by push_cast; ring⟩

theorem sub (hleft : HasPlaces places left) (hright : HasPlaces places right) :
    HasPlaces places (left - right) := by
  rw [sub_eq_add_neg]
  exact hleft.add hright.neg

theorem abs (hleft : HasPlaces places left) : HasPlaces places |left| := by
  rcases abs_choice left with same | negated
  · rwa [same]
  · rw [negated]
    exact hleft.neg

end HasPlaces

/-- `value.toFixed(places)` as text.  The sign is that of the unrounded
value. -/
def toFixedText (places : ℕ) (value : Decimal) : String :=
  let units := (roundHalfUp (value * 10 ^ places)).natAbs
  let fraction := String.ofList
    ((Nat.toDigits 10 (units % 10 ^ places)).leftpad places '0')
  let whole := toString (units / 10 ^ places)
  (if value < 0 then "-" else "") ++
    if places = 0 then whole else whole ++ "." ++ fraction

end Decimal

/-- An amount of two decimals: what a `numeric(20, 2)` column holds and what
`toFixed(2)` returns. -/
abbrev Money := { value : Decimal // Decimal.HasPlaces 2 value }

namespace Money

/-- Rounding to two decimals. -/
def round (value : Decimal) : Money :=
  ⟨Decimal.toFixed 2 value, Decimal.hasPlaces_toFixed 2 value⟩

instance : Zero Money := ⟨⟨0, Decimal.HasPlaces.zero⟩⟩

def text (amount : Money) : String := Decimal.toFixedText 2 amount

@[simp] theorem coe_round (value : Decimal) :
    ((round value : Money) : Decimal) = Decimal.toFixed 2 value := rfl

@[simp] theorem coe_zero : ((0 : Money) : Decimal) = 0 := rfl

@[simp] theorem round_coe (amount : Money) :
    round (amount : Decimal) = amount :=
  Subtype.ext (Decimal.toFixed_of_hasPlaces amount.property)

theorem coe_round_of_hasPlaces {value : Decimal}
    (exact_ : Decimal.HasPlaces 2 value) :
    ((round value : Money) : Decimal) = value :=
  Decimal.toFixed_of_hasPlaces exact_

end Money

end CloudStudio.Data
