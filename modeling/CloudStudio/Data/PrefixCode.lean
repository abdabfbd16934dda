import Mathlib.Data.List.Basic

/-!
# Codes that can be read back

A value written before a rest can be read back when the text determines both.
Codes of which none is the beginning of another can be read back before any
rest, others only before one that stops them.  Lists of such values, closed by a
symbol or separated by one, can be read back as well.
-/

namespace CloudStudio.Data.PrefixCode

variable {Value Symbol : Type}

/-- Before rests that stop it, the text of the value is that of no other valid
one. -/
def Reads (text : Value → List Symbol) (valid : Value → Prop)
    (stops : List Symbol → Prop) (value : Value) : Prop :=
  ∀ other rest rest', valid other → stops rest → stops rest' →
    text value ++ rest = text other ++ rest' → value = other ∧ rest = rest'

/-- Every rest. -/
def Anywhere (_ : List Symbol) : Prop := True

/-- The text of no valid value begins that of another. -/
def PrefixFree (text : Value → List Symbol) (valid : Value → Prop) : Prop :=
  ∀ value other, valid value → valid other → text value <+: text other →
    value = other

theorem PrefixFree.reads {text : Value → List Symbol} {valid : Value → Prop}
    (free : PrefixFree text valid) {value : Value} (isValid : valid value) :
    Reads text valid Anywhere value := by
  intro other rest rest' otherValid _ _ same
  have first : text value <+: text other ++ rest' :=
    same ▸ List.prefix_append _ _
  have second : text other <+: text other ++ rest' := List.prefix_append _ _
  have equal : value = other := by
    rcases List.prefix_or_prefix_of_prefix first second with before | after
    · exact free value other isValid otherValid before
    · exact (free other value otherValid isValid after).symm
  subst equal
  exact ⟨rfl, List.append_cancel_left same⟩

/-- Symbols that go on for as long as they have a property. -/
theorem append_inj_of_stops {holds : Symbol → Prop}
    {first second rest rest' : List Symbol}
    (firstAll : ∀ symbol ∈ first, holds symbol)
    (secondAll : ∀ symbol ∈ second, holds symbol)
    (stops : ∀ symbol ∈ rest.head?, ¬ holds symbol)
    (stops' : ∀ symbol ∈ rest'.head?, ¬ holds symbol)
    (same : first ++ rest = second ++ rest') :
    first = second ∧ rest = rest' := by
  induction first generalizing second with
  | nil =>
      cases second with
      | nil => exact ⟨rfl, same⟩
      | cons symbol second =>
          rw [List.nil_append] at same
          rw [same] at stops
          exact absurd (secondAll symbol List.mem_cons_self) (stops symbol rfl)
  | cons symbol first ih =>
      cases second with
      | nil =>
          rw [List.nil_append] at same
          rw [← same] at stops'
          exact absurd (firstAll symbol List.mem_cons_self) (stops' symbol rfl)
      | cons other second =>
          simp only [List.cons_append, List.cons.injEq] at same
          rw [List.forall_mem_cons] at firstAll secondAll
          obtain ⟨equal, rests⟩ := ih firstAll.2 secondAll.2 same.2
          exact ⟨by rw [same.1, equal], rests⟩

section Closed

variable {text : Value → List Symbol} {valid : Value → Prop} {close : Symbol}

theorem flatMap_reads (free : PrefixFree text valid)
    (opens : ∀ value, valid value → ∃ symbol tail, text value = symbol :: tail ∧
      symbol ≠ close) {values others : List Value}
    (allValid : ∀ value ∈ values, valid value)
    (othersValid : ∀ value ∈ others, valid value) {rest rest' : List Symbol}
    (same : values.flatMap text ++ close :: rest = others.flatMap text ++
      close :: rest') : values = others ∧ rest = rest' := by
  induction values generalizing others with
  | nil =>
      cases others with
      | nil => exact ⟨rfl, (List.cons.inj same).2⟩
      | cons other others =>
          obtain ⟨symbol, tail, begins, differs⟩ :=
            opens other (othersValid _ List.mem_cons_self)
          simp only [List.flatMap_nil, List.nil_append, List.flatMap_cons,
            begins, List.cons_append, List.cons.injEq] at same
          exact absurd same.1.symm differs
  | cons value values ih =>
      rw [List.forall_mem_cons] at allValid
      cases others with
      | nil =>
          obtain ⟨symbol, tail, begins, differs⟩ := opens value allValid.1
          simp only [List.flatMap_nil, List.nil_append, List.flatMap_cons,
            begins, List.cons_append, List.cons.injEq] at same
          exact absurd same.1 differs
      | cons other others =>
          rw [List.forall_mem_cons] at othersValid
          simp only [List.flatMap_cons, List.append_assoc] at same
          obtain ⟨rfl, rests⟩ :=
            free.reads allValid.1 other _ _ othersValid.1 trivial trivial same
          obtain ⟨rfl, equal⟩ := ih allValid.2 othersValid.2 rests
          exact ⟨rfl, equal⟩

theorem flatMap_injective (free : PrefixFree text valid)
    (opens : ∀ value, valid value → ∃ symbol tail, text value = symbol :: tail ∧
      symbol ≠ close) {values others : List Value}
    (allValid : ∀ value ∈ values, valid value)
    (othersValid : ∀ value ∈ others, valid value)
    (same : values.flatMap text = others.flatMap text) : values = others := by
  have closed : values.flatMap text ++ close :: [] = others.flatMap text ++
    close :: [] := by
    rw [same]
  exact (flatMap_reads free opens allValid othersValid closed).1

end Closed

section Separated

variable (text : Value → List Symbol) (separator close : Symbol)

/-- The values after the first, each behind a separator, and the closing
symbol. -/
def following : List Value → List Symbol → List Symbol
  | [], rest => close :: rest
  | value :: values, rest => separator :: (text value ++ following values rest)

/-- The values with separators between them, and the closing symbol. -/
def separated : List Value → List Symbol → List Symbol
  | [], rest => close :: rest
  | value :: values, rest =>
      text value ++ following text separator close values rest

variable {text separator close} {valid : Value → Prop}
  {stops : List Symbol → Prop}

theorem stops_following (atSeparator : ∀ rest, stops (separator :: rest))
    (atClose : ∀ rest, stops (close :: rest)) (values : List Value)
    (rest : List Symbol) :
    stops (following text separator close values rest) := by
  cases values with
  | nil => exact atClose rest
  | cons value values => exact atSeparator _

theorem following_reads (apart : separator ≠ close)
    (atSeparator : ∀ rest, stops (separator :: rest))
    (atClose : ∀ rest, stops (close :: rest)) {values others : List Value}
    (reads : ∀ value ∈ values, Reads text valid stops value)
    (othersValid : ∀ other ∈ others, valid other) {rest rest' : List Symbol}
    (same : following text separator close values rest =
      following text separator close others rest') :
    values = others ∧ rest = rest' := by
  induction values generalizing others with
  | nil =>
      cases others with
      | nil => exact ⟨rfl, (List.cons.inj same).2⟩
      | cons other others => exact absurd (List.cons.inj same).1.symm apart
  | cons value values ih =>
      rw [List.forall_mem_cons] at reads
      cases others with
      | nil => exact absurd (List.cons.inj same).1 apart
      | cons other others =>
          rw [List.forall_mem_cons] at othersValid
          obtain ⟨rfl, rests⟩ := reads.1 other _ _ othersValid.1
            (stops_following atSeparator atClose values rest)
            (stops_following atSeparator atClose others rest')
              (List.cons.inj same).2
          obtain ⟨rfl, equal⟩ := ih reads.2 othersValid.2 rests
          exact ⟨rfl, equal⟩

theorem separated_reads (apart : separator ≠ close)
    (atSeparator : ∀ rest, stops (separator :: rest))
    (atClose : ∀ rest, stops (close :: rest))
    (opens : ∀ value, valid value → ∃ symbol tail, text value = symbol :: tail ∧
      symbol ≠ close) {values others : List Value}
    (allValid : ∀ value ∈ values, valid value)
    (reads : ∀ value ∈ values, Reads text valid stops value)
    (othersValid : ∀ other ∈ others, valid other) {rest rest' : List Symbol}
    (same : separated text separator close values rest =
      separated text separator close others rest') :
    values = others ∧ rest = rest' := by
  cases values with
  | nil =>
      cases others with
      | nil => exact ⟨rfl, (List.cons.inj same).2⟩
      | cons other others =>
          obtain ⟨symbol, tail, begins, differs⟩ :=
            opens other (othersValid _ List.mem_cons_self)
          simp only [separated, begins, List.cons_append,
            List.cons.injEq] at same
          exact absurd same.1.symm differs
  | cons value values =>
      rw [List.forall_mem_cons] at reads
      cases others with
      | nil =>
          obtain ⟨symbol, tail, begins, differs⟩ :=
            opens value (allValid _ List.mem_cons_self)
          simp only [separated, begins, List.cons_append,
            List.cons.injEq] at same
          exact absurd same.1 differs
      | cons other others =>
          rw [List.forall_mem_cons] at othersValid
          obtain ⟨rfl, rests⟩ := reads.1 other _ _ othersValid.1
            (stops_following atSeparator atClose values rest)
            (stops_following atSeparator atClose others rest') same
          obtain ⟨rfl, equal⟩ :=
            following_reads apart atSeparator atClose reads.2
              othersValid.2 rests
          exact ⟨rfl, equal⟩

end Separated

end CloudStudio.Data.PrefixCode
