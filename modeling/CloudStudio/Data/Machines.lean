import Mathlib.Algebra.Ring.Nat
import Mathlib.Data.List.Basic

/-!
# Machines

A machine goes from state to state by labelled steps.  Its runs are finite and
keep the events of their steps, oldest first.  When every event belongs to one
party, and a step changes nothing of the others, the events of one party are a
run of that party's own machine; and a step that pays out of a store can be
taken only as often as the store lasts.
-/

namespace CloudStudio.Data.Machines

variable {State Event : Type}

/-- From which state which event leads where. -/
abbrev Step (State Event : Type) := State → Event → State → Prop

/-- A run from a state, with the events of its steps. -/
inductive Run (step : Step State Event) (first : State) :
    List Event → State → Prop where
  | start : Run step first [] first
  | next {events : List Event} {event : Event} {state following : State} :
      Run step first events state → step state event following →
      Run step first (events ++ [event]) following

section

variable {Party Label : Type} [DecidableEq Party]

/-- The labels of the events of one party. -/
def labelsOf (party : Party) (events : List (Party × Label)) : List Label :=
  (events.filter fun event => event.1 = party).map Prod.snd

theorem labelsOf_append (party : Party) (events more : List (Party × Label)) :
    labelsOf party (events ++ more) = labelsOf party events ++ labelsOf
      party more := by
  simp [labelsOf]

theorem mem_labelsOf {party : Party} {label : Label}
    {events : List (Party × Label)} :
    label ∈ labelsOf party events ↔ (party, label) ∈ events := by
  simp [labelsOf]

end

namespace Run

variable {step : Step State Event} {first state middle : State}
  {events later : List Event}

/-- What holds at the start and is kept by every step holds after every run. -/
theorem invariant {Good : List Event → State → Prop} (initially : Good [] first)
    (kept : ∀ events state event following, Good events state →
      step state event following → Good (events ++ [event]) following)
    (run : Run step first events state) : Good events state := by
  induction run with
  | start => exact initially
  | next _ taken ih => exact kept _ _ _ _ ih taken

/-- What every step keeps holds after every run. -/
theorem keeps {Good : State → Prop} (initially : Good first)
    (kept : ∀ state event following, Good state → step state event following →
      Good following) (run : Run step first events state) : Good state := by
  induction run with
  | start => exact initially
  | next _ taken ih => exact kept _ _ _ ih taken

theorem append (earlier : Run step first events middle)
    (rest : Run step middle later state) :
    Run step first (events ++ later) state := by
  induction rest with
  | start => simpa using earlier
  | next _ taken ih => simpa using Run.next ih taken

theorem single {event : Event} (taken : step first event state) :
    Run step first [event] state :=
  show Run step first ([] ++ [event]) state from .next .start taken

theorem cons {event : Event} (taken : step first event middle)
    (rest : Run step middle later state) :
    Run step first (event :: later) state :=
  (single taken).append rest

/-- A run has come through where any first part of its events leads. -/
theorem split {whole : List Event} (run : Run step first whole state)
    (parts : whole = events ++ later) :
    ∃ middle, Run step first events middle ∧ Run step middle later state := by
  induction run generalizing later with
  | start =>
      obtain ⟨rfl, rfl⟩ := List.append_eq_nil_iff.mp parts.symm
      exact ⟨first, .start, .start⟩
  | @next before event reached following earlier taken ih =>
      rcases List.eq_nil_or_concat later with rfl | ⟨rest, last, rfl⟩
      · rw [List.append_nil] at parts
        exact ⟨following, parts ▸ earlier.next taken, .start⟩
      · rw [List.concat_eq_append, ← List.append_assoc] at parts
        obtain ⟨same, lastSame⟩ := List.append_inj' parts rfl
        obtain rfl := List.singleton_inj.mp lastSame
        obtain ⟨middle, before', rest'⟩ := ih same
        exact ⟨middle, before', by simpa using rest'.next taken⟩

section

variable {Party Label Local : Type} [DecidableEq Party]

/-- The labels of one party are a run of that party alone. -/
theorem project {step : Step State (Party × Label)} {own : Step Local Label}
    {events : List (Party × Label)} (view : State → Party → Local)
    (acts : ∀ state party label following, step state (party, label) following →
      own (view state party) label (view following party))
    (frame : ∀ state party label following other,
      step state (party, label) following →
      other ≠ party → view following other = view state other) (party : Party)
    (run : Run step first events state) :
    Run own (view first party) (labelsOf party events) (view state party) := by
  induction run with
  | start => exact .start
  | @next events event state following _ taken ih =>
      obtain ⟨actor, label⟩ := event
      rw [labelsOf_append]
      by_cases mine : actor = party
      · subst mine
        simpa [labelsOf] using ih.next (acts _ _ _ _ taken)
      · rw [frame _ _ _ _ _ taken (Ne.symm mine)]
        simpa [labelsOf, mine] using ih

end

/-- What the events of a run pay comes out of the store they started from and
what was put into it on the way. -/
theorem within_store {Good : State → Prop} {store : State → ℕ}
    {pays puts : Event → ℕ} (initially : Good first)
    (kept : ∀ state event following, Good state → step state event following →
      Good following)
    (each : ∀ state event following, Good state → step state event following →
      store following + pays event ≤ store state + puts event)
    (run : Run step first events state) :
    store state + (events.map pays).sum ≤
      store first + (events.map puts).sum := by
  induction run with
  | start => exact Nat.le_refl _
  | next earlier taken ih =>
      have paid := each _ _ _ (earlier.keeps initially kept) taken
      simp only [List.map_append, List.map_cons, List.map_nil, List.sum_append,
        List.sum_cons, List.sum_nil]
      omega

end Run

end CloudStudio.Data.Machines
