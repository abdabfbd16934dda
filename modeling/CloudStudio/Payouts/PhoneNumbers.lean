import CloudStudio.Data.Patterns
import CloudStudio.Payouts.Creation
import Mathlib.Tactic.IntervalCases

/-!
# Phone numbers

What `normalizePhoneNumber` accepts, next to the patterns with which the API
validates phone numbers.  A text stands for a subscriber if its digits are the
subscriber's number, bare or after the trunk or the country code; every other
character is skipped.
-/

namespace CloudStudio.Payouts

open CloudStudio.Data.Patterns

/-- `\d` -/
def decimalDigits : List Char := "0123456789".toList

/-- The country code of Tanzania. -/
def countryCode : List Char := "255".toList

/-- `[67]\d{8}` -/
def subscriberPattern : RegularExpression Char :=
  oneOf ['6', '7'] * oneOf decimalDigits ^ 8

/-- `^255[67]\d{8}$`, for collections, deposits, payouts and payout links. -/
def mobilePattern : RegularExpression Char :=
  literal countryCode * subscriberPattern

/-- `^(\+?255|0)?[67]\d{8}$`, for the recipients of messages and for settlement
accounts. -/
def dialledPattern : RegularExpression Char :=
  optionally (optionally (.char '+') * literal countryCode + .char '0') *
    subscriberPattern

/-- The number of a mobile subscriber, without trunk or country code. -/
abbrev Subscriber := { number : List Char // subscriberPattern.rmatch number }

/-- The canonical form: 255712345678. -/
def Subscriber.canonical (subscriber : Subscriber) : String :=
  String.ofList (countryCode ++ subscriber.val)

/-- What may stand before a subscriber's number. -/
def leads : List (List Char) := [[], ['0'], countryCode]

/-- `replace(/[^\d]/g, '')`. -/
def digitsOf (raw : String) : List Char := raw.toList.filter Char.isDigit

/-- The digits of the text are the subscriber's number, alone or after a
lead. -/
def Spells (raw : String) (subscriber : Subscriber) : Prop :=
  ∃ lead ∈ leads, digitsOf raw = lead ++ subscriber.val

theorem mem_decimalDigits_iff (char : Char) :
    char ∈ decimalDigits ↔ char.isDigit := by
  constructor
  · intro listed
    exact List.all_eq_true.mp
      (by decide : decimalDigits.all Char.isDigit) char listed
  · intro digit
    have range : 48 ≤ char.toNat ∧ char.toNat ≤ 57 :=
      Char.isDigit_iff_toNat.mp digit
    obtain ⟨least, greatest⟩ := range
    rw [← Char.ofNat_toNat char]
    generalize char.toNat = code at least greatest
    interval_cases code <;> decide

theorem subscriberPattern_iff (number : List Char) :
    subscriberPattern.rmatch number ↔
      ∃ network rest, number = network :: rest ∧
        (network = '6' ∨ network = '7') ∧
        rest.length = 8 ∧ ∀ digit ∈ rest, digit.isDigit := by
  simp only [subscriberPattern, RegularExpression.mul_rmatch_iff,
    oneOf_rmatch_iff,
    oneOf_pow_rmatch_iff, mem_decimalDigits_iff, List.mem_cons,
      List.not_mem_nil, or_false]
  constructor
  · rintro ⟨_, rest, rfl, ⟨network, mobile, rfl⟩, eight, digits⟩
    exact ⟨network, rest, rfl, mobile, eight, digits⟩
  · rintro ⟨network, rest, rfl, mobile, eight, digits⟩
    exact ⟨[network], rest, rfl, ⟨network, mobile, rfl⟩, eight, digits⟩

theorem mobilePattern_iff (number : List Char) :
    mobilePattern.rmatch number ↔
      ∃ subscriber : Subscriber, number = countryCode ++ subscriber.val := by
  simp only [mobilePattern, RegularExpression.mul_rmatch_iff,
    literal_rmatch_iff]
  constructor
  · rintro ⟨_, rest, rfl, rfl, matched⟩
    exact ⟨⟨rest, matched⟩, rfl⟩
  · rintro ⟨subscriber, rfl⟩
    exact ⟨_, _, rfl, rfl, subscriber.property⟩

/-- The check of `normalizePhoneNumber` is the pattern it is written with. -/
theorem isMobileNumber_iff (number : List Char) :
    isMobileNumber number ↔ mobilePattern.rmatch number := by
  rw [mobilePattern_iff]
  constructor
  · intro mobile
    unfold isMobileNumber at mobile
    split at mobile
    next network rest =>
      obtain ⟨first, eight, digits⟩ := of_decide_eq_true mobile
      exact ⟨⟨network :: rest, (subscriberPattern_iff _).mpr
        ⟨network, rest, rfl, first, eight, List.all_eq_true.mp digits⟩⟩, rfl⟩
    next => cases mobile
  · rintro ⟨⟨number, matched⟩, rfl⟩
    obtain ⟨network, rest, rfl, first, eight, digits⟩ :=
      (subscriberPattern_iff number).mp matched
    exact decide_eq_true ⟨first, eight, List.all_eq_true.mpr digits⟩

/-- The number starts with 6 or 7 and consists of nine digits. -/
theorem Subscriber.shape (subscriber : Subscriber) :
    (∃ network rest, subscriber.val = network :: rest ∧
      (network = '6' ∨ network = '7')) ∧
      subscriber.val.length = 9 ∧ ∀ digit ∈ subscriber.val, digit.isDigit := by
  obtain ⟨number, matched⟩ := subscriber
  obtain ⟨network, rest, rfl, first, eight, digits⟩ :=
    (subscriberPattern_iff number).mp matched
  refine ⟨⟨network, rest, rfl, first⟩, congrArg (· + 1) eight,
    fun digit member => ?_⟩
  rcases List.mem_cons.mp member with rfl | later
  · rcases first with rfl | rfl <;> rfl
  · exact digits digit later

/-- Nothing of a number is skipped. -/
theorem Subscriber.filter_digits (subscriber : Subscriber) :
    subscriber.val.filter Char.isDigit = subscriber.val :=
  List.filter_eq_self.mpr subscriber.shape.2.2

theorem Subscriber.canonical_injective :
    Function.Injective Subscriber.canonical := by
  intro first second same
  exact Subtype.ext (List.append_cancel_left (String.ofList_injective same))

/-- The three branches of `normalizePhoneNumber`. -/
def withCountryCode (digits : List Char) : List Char :=
  if countryCode.isPrefixOf digits then digits
  else
    match digits with
    | '0' :: rest => countryCode ++ rest
    | _ => if digits.length = 9 then countryCode ++ digits else digits

theorem normalizePhoneNumber_eq (raw : String) :
    normalizePhoneNumber raw =
      if isMobileNumber (withCountryCode (digitsOf raw)) then
        some (String.ofList (withCountryCode (digitsOf raw)))
      else none :=
  rfl

/-- Each lead is replaced by the country code.  A bare number takes the third
branch: it starts with 6 or 7, so neither with the country code nor with the
trunk code. -/
theorem withCountryCode_lead (subscriber : Subscriber) {lead : List Char}
    (listed : lead ∈ leads) :
    withCountryCode (lead ++ subscriber.val) =
      countryCode ++ subscriber.val := by
  obtain ⟨⟨network, rest, shape, first⟩, nine, _⟩ := subscriber.shape
  simp only [leads, List.mem_cons, List.not_mem_nil, or_false] at listed
  rcases listed with rfl | rfl | rfl
  · have foreign : ¬ countryCode.isPrefixOf subscriber.val := by
      rw [shape]
      rcases first with rfl | rfl <;> exact Bool.false_ne_true
    unfold withCountryCode
    rw [List.nil_append, if_neg foreign]
    split
    next later trunk =>
      obtain ⟨rfl, _⟩ := List.cons.inj (shape.symm.trans trunk)
      rcases first with first | first <;> cases first
    next => exact if_pos nine
  · rfl
  · exact if_pos (List.isPrefixOf_iff_prefix.mpr (List.prefix_append _ _))

/-- Nothing but a lead is ever replaced. -/
theorem lead_of_withCountryCode {digits : List Char} {subscriber : Subscriber}
    (same : withCountryCode digits = countryCode ++ subscriber.val) :
    ∃ lead ∈ leads, digits = lead ++ subscriber.val := by
  unfold withCountryCode at same
  split at same
  next => exact ⟨countryCode, by simp [leads], same⟩
  next foreign =>
    split at same
    next rest =>
      exact ⟨['0'], by simp [leads],
      congrArg ('0' :: ·) (List.append_cancel_left same)⟩
    next =>
      split at same
      next => exact ⟨[], by simp [leads], List.append_cancel_left same⟩
      next =>
        -- the digits would start with the country code after all
        rw [same] at foreign
        exact absurd (List.isPrefixOf_iff_prefix.mpr (List.prefix_append _ _))
          foreign

theorem normalizePhoneNumber_eq_some_iff (raw phone : String) :
    normalizePhoneNumber raw = some phone ↔
      ∃ subscriber, Spells raw subscriber ∧ phone = subscriber.canonical := by
  rw [normalizePhoneNumber_eq, Option.ite_none_right_eq_some,
    isMobileNumber_iff, mobilePattern_iff]
  constructor
  · rintro ⟨⟨subscriber, same⟩, answer⟩
    refine ⟨subscriber, lead_of_withCountryCode same, ?_⟩
    rw [← Option.some.inj answer, same, Subscriber.canonical]
  · rintro ⟨subscriber, ⟨lead, listed, spelled⟩, rfl⟩
    rw [spelled, withCountryCode_lead subscriber listed]
    exact ⟨⟨subscriber, rfl⟩, rfl⟩

theorem Spells.normalized {raw : String} {subscriber : Subscriber}
    (spells : Spells raw subscriber) :
    normalizePhoneNumber raw = some subscriber.canonical :=
  (normalizePhoneNumber_eq_some_iff raw _).mpr ⟨subscriber, spells, rfl⟩

theorem normalizePhoneNumber_ne_none_iff (raw : String) :
    normalizePhoneNumber raw ≠ none ↔ ∃ subscriber, Spells raw subscriber := by
  constructor
  · intro accepted
    obtain ⟨phone, normal⟩ := Option.ne_none_iff_exists'.mp accepted
    obtain ⟨subscriber, spells, _⟩ :=
      (normalizePhoneNumber_eq_some_iff raw phone).mp normal
    exact ⟨subscriber, spells⟩
  · rintro ⟨subscriber, spells⟩ refused
    cases spells.normalized.symm.trans refused

/-- A text spells one subscriber at most. -/
theorem Spells.unique {raw : String} {first second : Subscriber}
    (spells : Spells raw first) (again : Spells raw second) : first = second :=
  Subscriber.canonical_injective
    (Option.some.inj (spells.normalized.symm.trans again.normalized))

theorem spells_canonical (subscriber : Subscriber) :
    Spells subscriber.canonical subscriber := by
  refine ⟨countryCode, by simp [leads], ?_⟩
  rw [digitsOf, Subscriber.canonical, String.toList_ofList, List.filter_append,
    subscriber.filter_digits]
  rfl

/-- A lead written with other characters around its digits is a lead. -/
theorem spells_append {raw : String} {lead : List Char}
    {subscriber : Subscriber} (listed : lead.filter Char.isDigit ∈ leads)
    (same : raw.toList = lead ++ subscriber.val) : Spells raw subscriber := by
  refine ⟨_, listed, ?_⟩
  rw [digitsOf, same, List.filter_append, subscriber.filter_digits]

theorem mobilePattern_spells {raw : String}
    (matched : mobilePattern.rmatch raw.toList) :
    ∃ subscriber, Spells raw subscriber := by
  obtain ⟨subscriber, same⟩ := (mobilePattern_iff raw.toList).mp matched
  exact ⟨subscriber, spells_append (by decide) same⟩

theorem dialledPattern_spells {raw : String}
    (matched : dialledPattern.rmatch raw.toList) :
    ∃ subscriber, Spells raw subscriber := by
  simp only [dialledPattern, RegularExpression.mul_rmatch_iff,
    optionally_rmatch_iff,
    RegularExpression.add_rmatch_iff, RegularExpression.char_rmatch_iff,
    literal_rmatch_iff] at matched
  obtain ⟨lead, number, same, allowed, isNumber⟩ := matched
  refine ⟨⟨number, isNumber⟩, spells_append ?_ same⟩
  rcases allowed with rfl | ⟨plus, code, rfl, (rfl | rfl), rfl⟩ | rfl <;> decide

/-- Normalisation accepts exactly the spellings of a subscriber and answers the
canonical one; it changes no canonical number, and it accepts whatever the API's
patterns let through. -/
theorem normalizePhoneNumber_correct :
    (∀ raw, normalizePhoneNumber raw ≠ none ↔ ∃ subscriber,
      Spells raw subscriber) ∧ (∀ raw subscriber, Spells raw subscriber →
      normalizePhoneNumber raw = some subscriber.canonical) ∧
    (∀ raw, (normalizePhoneNumber raw).bind normalizePhoneNumber =
      normalizePhoneNumber raw) ∧
    (∀ subscriber first second, Spells first subscriber →
      Spells second subscriber →
      normalizePhoneNumber first = normalizePhoneNumber second) ∧
    ∀ raw : String, dialledPattern.rmatch raw.toList ∨
      mobilePattern.rmatch raw.toList → normalizePhoneNumber raw ≠ none := by
  refine ⟨normalizePhoneNumber_ne_none_iff, fun _ _ => Spells.normalized,
    fun raw => ?_,
    fun subscriber first second spells again => ?_, fun raw matched => ?_⟩
  · cases normal : normalizePhoneNumber raw with
    | none => rfl
    | some phone =>
        obtain ⟨subscriber, _, rfl⟩ :=
          (normalizePhoneNumber_eq_some_iff raw phone).mp normal
        exact (spells_canonical subscriber).normalized
  · exact spells.normalized.trans again.normalized.symm
  · rw [normalizePhoneNumber_ne_none_iff]
    exact matched.elim dialledPattern_spells mobilePattern_spells

/-- A canonical number is stored as it came. -/
theorem payoutPhone_eq_self {phone : String}
    (mobile : isMobileNumber phone.toList) :
    payoutPhone (some phone) = some phone := by
  obtain ⟨subscriber, same⟩ :=
    (mobilePattern_iff _).mp ((isMobileNumber_iff _).mp mobile)
  have canonical : phone = subscriber.canonical := by
    rw [Subscriber.canonical, ← same, String.ofList_toList]
  rw [canonical, payoutPhone, Option.getD_some,
    (spells_canonical subscriber).normalized, Option.some_or]

/-- No recipient is dropped, and each becomes a canonical number. -/
theorem filterMap_normalizePhoneNumber {recipients : List String}
    (dialled : ∀ raw ∈ recipients, dialledPattern.rmatch raw.toList) :
    ∃ subscribers : List Subscriber, subscribers.length = recipients.length ∧
      recipients.filterMap normalizePhoneNumber =
        subscribers.map Subscriber.canonical := by
  induction recipients with
  | nil => exact ⟨[], rfl, rfl⟩
  | cons raw recipients ih =>
      obtain ⟨subscriber, spells⟩ :=
        dialledPattern_spells (dialled raw List.mem_cons_self)
      obtain ⟨subscribers, length, same⟩ :=
        ih fun other member => dialled other (List.mem_cons_of_mem _ member)
      refine ⟨subscriber :: subscribers, congrArg (· + 1) length, ?_⟩
      rw [List.filterMap_cons_some spells.normalized, same, List.map_cons]

end CloudStudio.Payouts
