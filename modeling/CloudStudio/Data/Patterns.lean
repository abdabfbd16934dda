import Mathlib.Computability.RegularExpressions

/-!
# Patterns on whole texts

The parts that the patterns of input validation are written with, as regular
expressions: a literal, a class of symbols, an optional part and a counted
repetition of a class.  Each comes with what it matches.
-/

namespace CloudStudio.Data.Patterns

open RegularExpression

variable {Symbol : Type}

/-- `word`. -/
def literal (word : List Symbol) : RegularExpression Symbol :=
  word.foldr (fun symbol rest => char symbol * rest) 1

/-- `[symbols]`. -/
def oneOf (symbols : List Symbol) : RegularExpression Symbol :=
  symbols.foldr (fun symbol others => char symbol + others) 0

/-- `(pattern)?`. -/
def optionally (pattern : RegularExpression Symbol) :
    RegularExpression Symbol :=
  1 + pattern

variable [DecidableEq Symbol]

theorem literal_rmatch_iff (word text : List Symbol) :
    (literal word).rmatch text ↔ text = word := by
  induction word generalizing text with
  | nil => exact one_rmatch_iff text
  | cons symbol word ih =>
      refine (mul_rmatch_iff _ _ text).trans ⟨?_, fun same => ?_⟩
      · rintro ⟨first, rest, rfl, one, others⟩
        rw [(char_rmatch_iff symbol first).mp one, (ih rest).mp others]
        rfl
      · exact ⟨[symbol], word, same, (char_rmatch_iff symbol _).mpr rfl,
          (ih word).mpr rfl⟩

theorem oneOf_rmatch_iff (symbols text : List Symbol) :
    (oneOf symbols).rmatch text ↔ ∃ symbol ∈ symbols, text = [symbol] := by
  induction symbols with
  | nil => simp [oneOf]
  | cons symbol symbols ih =>
      have step : (oneOf (symbol :: symbols)).rmatch text ↔
          (char symbol).rmatch text ∨ (oneOf symbols).rmatch text :=
        add_rmatch_iff _ _ text
      rw [step, char_rmatch_iff, ih, List.exists_mem_cons_iff]

theorem optionally_rmatch_iff (pattern : RegularExpression Symbol)
    (text : List Symbol) :
    (optionally pattern).rmatch text ↔ text = [] ∨ pattern.rmatch text := by
  rw [optionally, add_rmatch_iff, one_rmatch_iff]

theorem oneOf_pow_rmatch_iff (symbols : List Symbol) (count : ℕ)
    (text : List Symbol) :
    (oneOf symbols ^ count).rmatch text ↔
      text.length = count ∧ ∀ symbol ∈ text, symbol ∈ symbols := by
  induction count generalizing text with
  | zero =>
      have none : (oneOf symbols ^ 0).rmatch text ↔ text = [] :=
        one_rmatch_iff text
      rw [none, List.length_eq_zero_iff]
      exact ⟨fun empty => ⟨empty, by simp [empty]⟩, And.left⟩
  | succ count ih =>
      have step : (oneOf symbols ^ (count + 1)).rmatch text ↔ _ :=
        mul_rmatch_iff _ _ text
      rw [step]
      constructor
      · rintro ⟨first, rest, rfl, matched, one⟩
        obtain ⟨symbol, listed, rfl⟩ := (oneOf_rmatch_iff symbols rest).mp one
        obtain ⟨length, each⟩ := (ih first).mp matched
        refine ⟨by simp [length], fun other member => ?_⟩
        rcases List.mem_append.mp member with before | last
        · exact each other before
        · exact List.mem_singleton.mp last ▸ listed
      · rintro ⟨length, each⟩
        have nonempty : text ≠ [] := by
          rintro rfl
          cases length
        refine ⟨text.dropLast, [text.getLast nonempty],
          (List.dropLast_append_getLast nonempty).symm, (ih _).mpr ⟨?_, ?_⟩,
          (oneOf_rmatch_iff symbols _).mpr
            ⟨_, each _ (List.getLast_mem nonempty), rfl⟩⟩
        · rw [List.length_dropLast, length, Nat.add_sub_cancel]
        · exact fun symbol member =>
            each symbol (List.dropLast_subset text member)

end CloudStudio.Data.Patterns
