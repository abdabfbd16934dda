import CloudStudio.Transactions.Failure

/-!
# One program in two states

`Program.Agrees related program post` says that from related states, under the
same failures, the program ends alike: with the same outcome, in states that are
related again, and with results that satisfy `post`.
-/

namespace CloudStudio.Transactions

variable {State Key Expectation Label Error Result Answer : Type}

/-- Two ends of one program: the same outcome in related states. -/
structure Alike (related : State → State → Prop) (post : Result → Prop)
    (first second : Outcome Error Result × State) : Prop where
  outcome : first.1 = second.1
  state : related first.2 second.2
  result : ∀ result, first.1 = .returned result → post result

/-- The statement answers alike in related states and keeps them related. -/
def Query.Agrees (related : State → State → Prop)
    (statement : Query State Key Expectation Label Error Answer)
    (post : Answer → Prop) : Prop :=
  ∀ first second, related first second →
    statement.answer first = statement.answer second ∧
      ∀ answer, statement.answer first = .ok answer →
        related (statement.effect first first)
          (statement.effect second second) ∧ post answer

def Body.Agrees (related : State → State → Prop)
    (body : Body State Key Expectation Label Error Result)
    (post : Result → Prop) : Prop :=
  ∀ faults first second, related first second →
    Alike related post (body.exec faults first) (body.exec faults second)

def Program.Agrees (related : State → State → Prop)
    (program : Program State Key Expectation Label Error Result)
    (post : Result → Prop) : Prop :=
  ∀ faults first second, related first second →
    Alike related post (program.exec faults first) (program.exec faults second)

variable {related : State → State → Prop} {post : Result → Prop}
  {mid : Answer → Prop}

theorem Alike.threw {first second : State} {error : Error}
    (same : related first second) :
    Alike related post (.threw error, first) (.threw error, second) where
  outcome := rfl
  state := same
  result := by
    intro result returned
    cases returned

theorem Alike.stopped {first second : State} (same : related first second) :
    Alike related post (.stopped, first)
      ((.stopped, second) : Outcome Error Result × State) where
  outcome := rfl
  state := same
  result := by
    intro result returned
    cases returned

theorem Alike.returned {first second : State} {result : Result}
    (same : related first second) (good : post result) :
    Alike related post (.returned result, first)
      ((.returned result, second) : Outcome Error Result × State) where
  outcome := rfl
  state := same
  result := by
    intro other returned
    cases returned
    exact good

/-- A statement that only reads what related states share. -/
theorem Query.Agrees.read
    {statement : Query State Key Expectation Label Error Answer}
    (idle : ∀ state, statement.effect state state = state)
    (answers : ∀ first second, related first second →
      statement.answer first = statement.answer second)
    (good : ∀ first second answer, related first second →
      statement.answer first = .ok answer → mid answer) :
    statement.Agrees related mid := by
  intro first second same
  refine ⟨answers first second same, ?_⟩
  intro answer answered
  rw [idle, idle]
  exact ⟨same, good first second answer same answered⟩

namespace Body.Agrees

theorem returned {result : Result} (good : post result) :
    Body.Agrees related
      (.returned result : Body State Key Expectation Label Error Result) post :=
  fun _ _ _ same => .returned same good

theorem threw (error : Error) :
    Body.Agrees related
      (.threw error : Body State Key Expectation Label Error Result) post :=
  fun _ _ _ same => .threw same

theorem query {statement : Query State Key Expectation Label Error Answer}
    {next : Answer → Body State Key Expectation Label Error Result}
    {failed : Error → Body State Key Expectation Label Error Result}
    (agrees : statement.Agrees related mid)
    (answered : ∀ answer, mid answer → (next answer).Agrees related post)
    (fails : ∀ error, (failed error).Agrees related post) :
    Body.Agrees related (.query statement next failed) post := by
  intro faults first second same
  obtain ⟨answers, effects⟩ := agrees first second same
  simp only [Body.exec]
  cases faults statement.label with
  | some fault =>
      cases fault with
      | throws error => exact fails error faults first second same
      | stops => exact .stopped same
  | none =>
      rw [← answers]
      cases answered_ : statement.answer first with
      | error error => exact fails error faults first second same
      | ok answer =>
          obtain ⟨later, good⟩ := effects answer answered_
          exact answered answer good faults _ _ later

end Body.Agrees

namespace Program.Agrees

theorem returned {result : Result} (good : post result) :
    Program.Agrees related
      (.returned result : Program State Key Expectation Label Error Result)
        post :=
  fun _ _ _ same => .returned same good

theorem threw (error : Error) :
    Program.Agrees related
      (.threw error : Program State Key Expectation Label Error Result) post :=
  fun _ _ _ same => .threw same

theorem weaken {better : Result → Prop}
    {program : Program State Key Expectation Label Error Result}
    (agrees : program.Agrees related better)
    (weaker : ∀ result, better result → post result) :
    program.Agrees related post := by
  intro faults first second same
  have alike := agrees faults first second same
  exact ⟨alike.outcome, alike.state, fun result ended => weaker result (alike.result result ended)⟩

theorem bind {program : Program State Key Expectation Label Error Answer}
    {rest : Answer → Program State Key Expectation Label Error Result}
    (agrees : program.Agrees related mid)
    (next : ∀ answer, mid answer → (rest answer).Agrees related post) :
    (program >>= rest).Agrees related post := by
  intro faults first second same
  have alike := agrees faults first second same
  rw [exec_bind, exec_bind]
  rcases at_first : program.exec faults first with ⟨outcome, left⟩
  rcases at_second : program.exec faults second with ⟨other, right⟩
  rw [at_first, at_second] at alike
  obtain ⟨outcomes, states, results⟩ := alike
  simp only at outcomes states results
  subst outcomes
  cases outcome with
  | returned answer => exact next answer (results answer rfl) faults left right states
  | threw error => exact .threw states
  | stopped => exact .stopped states

theorem perform {statement : Query State Key Expectation Label Error Result}
    (agrees : statement.Agrees related post) :
    (Program.perform statement).Agrees related post := by
  intro faults first second same
  obtain ⟨answers, effects⟩ := agrees first second same
  simp only [Program.perform, Program.exec]
  cases faults statement.label with
  | some fault =>
      cases fault with
      | throws error => exact .threw same
      | stops => exact .stopped same
  | none =>
      rw [← answers]
      cases answered_ : statement.answer first with
      | error error => exact .threw same
      | ok answer =>
          obtain ⟨later, good⟩ := effects answer answered_
          exact .returned later good

/-- A statement whose answer is not used. -/
theorem performThen {statement : Query State Key Expectation Label Error Answer}
    {rest : Program State Key Expectation Label Error Result}
    (answers : ∀ state, ∃ answer, statement.answer state = .ok answer)
    (effects : ∀ first second, related first second →
      related (statement.effect first first) (statement.effect second second))
    (next : rest.Agrees related post) :
    (Program.perform statement >>= fun _ => rest).Agrees related post := by
  intro faults first second same
  obtain ⟨answer, at_first⟩ := answers first
  obtain ⟨other, at_second⟩ := answers second
  simp only [exec_perform_bind]
  cases faults statement.label with
  | some fault =>
      cases fault with
      | throws error => exact .threw same
      | stops => exact .stopped same
  | none =>
      rw [at_first, at_second]
      exact next faults _ _ (effects first second same)

theorem atomically {label : Label}
    {body : Body State Key Expectation Label Error Result}
    (agrees : body.Agrees related post) :
    (Program.atomically label body).Agrees related post := by
  intro faults first second same
  have alike := agrees faults first second same
  simp only [Program.atomically, Program.exec]
  rcases at_first : body.exec faults first with ⟨outcome, left⟩
  rcases at_second : body.exec faults second with ⟨other, right⟩
  rw [at_first, at_second] at alike
  obtain ⟨outcomes, states, results⟩ := alike
  simp only at outcomes states results
  subst outcomes
  cases outcome with
  | threw error => exact .threw same
  | stopped => exact .stopped same
  | returned answer =>
      cases faults label with
      | some fault =>
          cases fault with
          | throws error => exact .threw same
          | stops => exact .stopped same
      | none => exact .returned states (results answer rfl)

theorem catching {program : Program State Key Expectation Label Error Result}
    {handler : Error → Program State Key Expectation Label Error Result}
    (agrees : program.Agrees related post)
    (handles : ∀ error, (handler error).Agrees related post) :
    (program.catching handler).Agrees related post := by
  intro faults first second same
  have alike := agrees faults first second same
  rw [exec_catching, exec_catching]
  rcases at_first : program.exec faults first with ⟨outcome, left⟩
  rcases at_second : program.exec faults second with ⟨other, right⟩
  rw [at_first, at_second] at alike
  obtain ⟨outcomes, states, results⟩ := alike
  simp only at outcomes states results
  subst outcomes
  cases outcome with
  | returned answer => exact .returned states (results answer rfl)
  | threw error => exact handles error faults left right states
  | stopped => exact .stopped states

end Program.Agrees

/-- The statements and commits that throw, and what. -/
def throwing (failures : Label → Option Error) (label : Label) :
    Option (Fault Error) :=
  (failures label).map .throws

theorem throwing_ne_stops (failures : Label → Option Error) (label : Label) :
    throwing failures label ≠ some .stops := by
  unfold throwing
  cases failures label <;> simp

theorem Body.exec_throwing (failures : Label → Option Error)
    (body : Body State Key Expectation Label Error Result) (state : State) :
    (body.exec (throwing failures) state).1 ≠ .stopped := by
  induction body generalizing state with
  | returned result => simp [exec]
  | threw error => simp [exec]
  | query statement next failed nextIH failedIH =>
      simp only [exec]
      split
      · exact failedIH _ _
      · rename_i stops
        exact (throwing_ne_stops failures _ stops).elim
      · split
        · exact nextIH _ _
        · exact failedIH _ _

/-- Exceptions do not stop the process. -/
theorem Program.exec_throwing (failures : Label → Option Error)
    (program : Program State Key Expectation Label Error Result)
    (state : State) :
    (program.exec (throwing failures) state).1 ≠ .stopped := by
  induction program generalizing state with
  | returned result => simp [exec]
  | threw error => simp [exec]
  | query statement next failed nextIH failedIH =>
      simp only [exec]
      split
      · exact failedIH _ _
      · rename_i stops
        exact (throwing_ne_stops failures _ stops).elim
      · split
        · exact nextIH _ _
        · exact failedIH _ _
  | transaction label body next failed nextIH failedIH =>
      simp only [exec]
      have inside := body.exec_throwing failures state
      generalize body.exec (throwing failures) state = ended at inside ⊢
      rcases ended with ⟨_ | _ | _, written⟩
      · dsimp only
        split
        · exact failedIH _ _
        · rename_i stops
          exact (throwing_ne_stops failures _ stops).elim
        · exact nextIH _ _
      · exact failedIH _ _
      · exact (inside rfl).elim

/-- Every program ends somewhere. -/
theorem Program.Holds.anyway {pre : State → Prop}
    (program : Program State Key Expectation Label Error Result) :
    program.Holds pre (fun _ _ => True) fun _ => True := by
  intro faults state _
  rcases program.exec faults state with ⟨_ | _ | _, _⟩ <;> trivial

/-- A program that handles every exception returns. -/
theorem Program.catching_returns (failures : Label → Option Error)
    (program : Program State Key Expectation Label Error Result)
    (handler : Error → Result) (state : State) :
    ∃ result, ((program.catching fun error => .returned (handler error)).exec
      (throwing failures) state).1 = .returned result := by
  rw [exec_catching]
  have ends := program.exec_throwing failures state
  generalize program.exec (throwing failures) state = ended at ends ⊢
  rcases ended with ⟨result | error | _, written⟩
  · exact ⟨result, rfl⟩
  · exact ⟨handler error, rfl⟩
  · exact (ends rfl).elim

end CloudStudio.Transactions
