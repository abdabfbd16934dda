import Mathlib.Algebra.BigOperators.Group.Finset.Piecewise
import Mathlib.Tactic.Abel

/-!
# Independent parties

Events act on a shared state, each on behalf of one party.  What a party sees is
changed by its own events only, in a way that depends on nothing else, and so is
what each event adds to a common meter.  Then a party ends where its own events
alone would have brought it, the meter moves by the sum of what each party alone
would have moved it by, and the order of events of different parties makes no
difference.
-/

namespace CloudStudio.Data.Independence

variable {State Party Label View Amount : Type} [DecidableEq Party]
  [AddCommGroup Amount]

/-- Each event acts on its own party only, by what this party sees. -/
structure Independent (Good : State → Prop)
    (act : Party × Label → State → State) (view : Party → State → View)
    (meter : State → Amount) : Prop where
  good : ∀ event state, Good state → Good (act event state)
  frame : ∀ event state other, Good state → other ≠ event.1 →
    view other (act event state) = view other state
  own : ∀ event first second, Good first → Good second →
    view event.1 first = view event.1 second →
    view event.1 (act event first) = view event.1 (act event second) ∧
      meter (act event first) - meter first =
        meter (act event second) - meter second

/-- The state after all events, the oldest first. -/
def after (act : Party × Label → State → State) (events : List (Party × Label))
    (state : State) : State :=
  events.foldl (fun state event => act event state) state

/-- The events of one party. -/
def eventsOf (party : Party) (events : List (Party × Label)) :
    List (Party × Label) :=
  events.filter fun event => event.1 = party

theorem eventsOf_cons_self (event : Party × Label)
    (events : List (Party × Label)) :
    eventsOf event.1 (event :: events) = event :: eventsOf event.1 events := by
  simp [eventsOf]

theorem eventsOf_cons_ne {party : Party} {event : Party × Label}
    (other : party ≠ event.1) (events : List (Party × Label)) :
    eventsOf party (event :: events) = eventsOf party events := by
  simp [eventsOf, Ne.symm other]

section

variable {Good : State → Prop} {act : Party × Label → State → State}
  {view : Party → State → View} {meter : State → Amount}
  (independent : Independent Good act view meter)

include independent

/-- The events of one party do the same to it and to the meter from any two
states that the party cannot tell apart. -/
theorem Independent.own_after {party : Party} {first second : State}
    (good : Good first) (good' : Good second)
    (same : view party first = view party second)
    (events : List (Party × Label)) :
    view party (after act (eventsOf party events) first) =
        view party (after act (eventsOf party events) second) ∧
      meter (after act (eventsOf party events) first) - meter first =
        meter (after act (eventsOf party events) second) - meter second := by
  induction events generalizing first second with
  | nil => exact ⟨same, by simp [eventsOf, after]⟩
  | cons event rest ih =>
      by_cases mine : party = event.1
      · subst mine
        obtain ⟨sameNext, moved⟩ :=
          independent.own event first second good good' same
        obtain ⟨sameLast, movedLast⟩ := ih (independent.good event first good)
          (independent.good event second good') sameNext
        rw [eventsOf_cons_self]
        refine ⟨sameLast, ?_⟩
        have total := congrArg₂ (· + ·) movedLast moved
        simp only [sub_add_sub_cancel] at total
        exact total
      · rw [eventsOf_cons_ne mine]
        exact ih good good' same

/-- A party ends where its own events alone would have brought it. -/
theorem Independent.view_after (state : State) (good : Good state)
    (party : Party) (events : List (Party × Label)) :
    view party (after act events state) =
      view party (after act (eventsOf party events) state) := by
  induction events generalizing state with
  | nil => rfl
  | cons event rest ih =>
      have next := independent.good event state good
      by_cases mine : party = event.1
      · subst mine
        rw [eventsOf_cons_self]
        exact ih _ next
      · rw [eventsOf_cons_ne mine]
        have framed := independent.frame event state party good mine
        exact (ih _ next).trans (independent.own_after next good framed rest).1

/-- The meter moves by the sum of what each party alone would have moved it
by. -/
theorem Independent.meter_after (state : State) (good : Good state)
    (parties : Finset Party) {events : List (Party × Label)}
    (listed : ∀ event ∈ events, event.1 ∈ parties) :
    meter (after act events state) - meter state =
      ∑ party ∈ parties,
        (meter (after act (eventsOf party events) state) - meter state) := by
  induction events generalizing state with
  | nil => simp [eventsOf, after]
  | cons event rest ih =>
      obtain ⟨actor, restListed⟩ := List.forall_mem_cons.mp listed
      have next := independent.good event state good
      have later := ih _ next restListed
      have others : ∑ party ∈ parties.erase event.1,
          (meter (after act (eventsOf party (event :: rest)) state) - meter
            state) =
          ∑ party ∈ parties.erase event.1,
            (meter (after act (eventsOf party rest) (act event state)) -
              meter (act event state)) := by
        apply Finset.sum_congr rfl
        intro party member
        have apart := Finset.ne_of_mem_erase member
        rw [eventsOf_cons_ne apart]
        have framed := independent.frame event state party good apart
        exact (independent.own_after next good framed rest).2.symm
      rw [← Finset.add_sum_erase _ _ actor] at later ⊢
      rw [others, eventsOf_cons_self]
      have split : meter (after act (event :: rest) state) - meter state =
          meter (after act rest (act event state)) - meter (act event state) +
            (meter (act event state) - meter state) :=
              (sub_add_sub_cancel _ _ _).symm
      rw [split, later]
      change _ =
        meter (after act (eventsOf event.1 rest) (act event state)) - meter
        state + _
      abel

/-- Only the order of each party's own events matters. -/
theorem Independent.order_free (state : State) (good : Good state)
    {events others : List (Party × Label)}
    (own : ∀ party, eventsOf party events = eventsOf party others) :
    (∀ party, view party (after act events state) =
      view party (after act others state)) ∧
      meter (after act events state) = meter (after act others state) := by
  refine ⟨fun party => ?_, ?_⟩
  · have left := independent.view_after state good party events
    rw [own] at left
    exact left.trans (independent.view_after state good party others).symm
  · let parties := ((events ++ others).map Prod.fst).toFinset
    have listed {event : Party × Label} (member : event ∈ events ++ others) :
        event.1 ∈ parties := List.mem_toFinset.mpr (List.mem_map_of_mem member)
    have left := independent.meter_after state good parties fun event member =>
      listed (List.mem_append_left others member)
    have right := independent.meter_after state good parties fun event member =>
      listed (List.mem_append_right events member)
    simp only [own] at left
    exact sub_left_inj.mp (left.trans right.symm)

end

end CloudStudio.Data.Independence
