import CloudStudio.Transactions.Program

/-!
# Calls that complete

Rules for programs that run alone and complete: `Preserves invariant program`
says that from every state of the invariant a call that returns ends in such a
state.  A call that throws is not spoken about.
-/

namespace CloudStudio.Transactions.Program

variable {State Key Expectation Label Error Result Answer : Type}

/-- A composed program returns when both parts do. -/
theorem run_bind_ok_iff
    {program : Program State Key Expectation Label Error Answer}
    {rest : Answer → Program State Key Expectation Label Error Result}
    {state after : State} {result : Result} :
    (program >>= rest).run state = (.ok result, after) ↔
      ∃ answer middle, program.run state = (.ok answer, middle) ∧
        (rest answer).run middle = (.ok result, after) := by
  rw [run_bind]
  rcases program.run state with ⟨error | answer, middle⟩
  · simp
  · constructor
    · exact fun ran => ⟨answer, middle, rfl, ran⟩
    · rintro ⟨_, _, same, ran⟩
      cases same
      exact ran

theorem run_discard_ok_iff
    {program : Program State Key Expectation Label Error Answer}
    {state after : State} :
    program.discard.run state = (.ok (), after) ↔
      ∃ answer, program.run state = (.ok answer, after) := by
  rw [run_discard]
  rcases program.run state with ⟨error | answer, written⟩ <;> simp

/-- A call that returns keeps the invariant. -/
def Preserves (invariant : State → Prop)
    (program : Program State Key Expectation Label Error Result) : Prop :=
  ∀ state, invariant state → ∀ result after,
    program.run state = (.ok result, after) → invariant after

namespace Preserves

variable {invariant : State → Prop}

theorem returned (result : Result) :
    Preserves invariant (Program.returned result :
      Program State Key Expectation Label Error Result) := by
  intro state holds answer after ran
  cases ran
  exact holds

theorem threw (error : Error) :
    Preserves invariant (Program.threw error :
      Program State Key Expectation Label Error Result) := by
  intro state _ answer after ran
  cases ran

theorem bind {program : Program State Key Expectation Label Error Answer}
    {rest : Answer → Program State Key Expectation Label Error Result}
    (first : Preserves invariant program)
    (next : ∀ answer, Preserves invariant (rest answer)) :
    Preserves invariant (program >>= rest) := by
  intro state holds result after ran
  obtain ⟨answer, middle, ranFirst, ranRest⟩ := run_bind_ok_iff.mp ran
  exact next answer middle (first state holds answer middle ranFirst)
    result after ranRest

theorem discard {program : Program State Key Expectation Label Error Answer}
    (preserves : Preserves invariant program) :
    Preserves invariant program.discard :=
  preserves.bind fun _ => .returned ()

/-- A statement that writes nothing. -/
theorem read {statement : Query State Key Expectation Label Error Answer}
    (reads : ∀ state, statement.effect state state = state) :
    Preserves invariant (Program.perform statement) := by
  intro state holds result after ran
  rw [run_perform] at ran
  cases answered : statement.answer state with
  | ok answer =>
      rw [answered, reads] at ran
      cases ran
      exact holds
  | error error =>
      rw [answered] at ran
      cases ran

theorem forEach {Item : Type}
    {step : Item → Program State Key Expectation Label Error Unit}
    (preserves : ∀ item, Preserves invariant (step item)) (items : List Item) :
    Preserves invariant (Program.forEach items step) := by
  induction items with
  | nil => exact .returned ()
  | cons item rest ih => exact (preserves item).bind fun _ => ih

end Preserves

end CloudStudio.Transactions.Program
