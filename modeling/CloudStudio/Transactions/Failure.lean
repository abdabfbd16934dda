import CloudStudio.Transactions.Program

/-!
# Programs under failures

Rules for one program run alone while any of its statements and commits may
fail. `Program.Holds pre program post rest` says that from every state of `pre`
and whatever fails, a call that returns ends in `post` and one that throws or
stops ends in `rest`.

A program that never recovers from a failing statement (`Program.Straight`)
returns exactly when nothing fails on the path it takes without failures.
-/

namespace CloudStudio.Transactions

variable {State Key Expectation Label Error Result Answer : Type}

/-- A call has ended in `post` with its result, or in `rest` without one. -/
def Ends (post : Result → State → Prop) (rest : State → Prop) :
    Outcome Error Result × State → Prop
  | (.returned result, after) => post result after
  | (.threw _, after) => rest after
  | (.stopped, after) => rest after

theorem Ends.mono {post post' : Result → State → Prop}
    {rest rest' : State → Prop} {ended : Outcome Error Result × State}
    (ends : Ends post rest ended)
    (weaker : ∀ result after, post result after → post' result after)
    (weakerRest : ∀ after, rest after → rest' after) :
    Ends post' rest' ended := by
  rcases ended with ⟨_ | _ | _, after⟩
  · exact weaker _ _ ends
  · exact weakerRest _ ends
  · exact weakerRest _ ends

/-- A transaction body that returns has written a state of `post`. -/
def Body.Holds (pre : State → Prop)
    (body : Body State Key Expectation Label Error Result)
    (post : Result → State → Prop) : Prop :=
  ∀ faults state, pre state → Ends post (fun _ => True) (body.exec faults state)

/-- Whatever fails, the program ends in `post` or, without a result, in
`rest`. -/
def Program.Holds (pre : State → Prop)
    (program : Program State Key Expectation Label Error Result)
    (post : Result → State → Prop) (rest : State → Prop) : Prop :=
  ∀ faults state, pre state → Ends post rest (program.exec faults state)

/-- The states a statement can leave when it answers. -/
def After (pre : State → Prop)
    (statement : Query State Key Expectation Label Error Answer)
    (answer : Answer) (after : State) : Prop :=
  ∃ before, pre before ∧ statement.answer before = .ok answer ∧
    after = statement.effect before before

namespace Body.Holds

variable {pre : State → Prop} {post : Result → State → Prop}

theorem returned {result : Result}
    (holds : ∀ state, pre state → post result state) :
    Body.Holds pre (.returned result :
      Body State Key Expectation Label Error Result) post :=
  fun _ state met => holds state met

theorem threw (error : Error) :
    Body.Holds pre
      (.threw error : Body State Key Expectation Label Error Result) post :=
  fun _ _ _ => trivial

theorem query {statement : Query State Key Expectation Label Error Answer}
    {next : Answer → Body State Key Expectation Label Error Result}
    {failed : Error → Body State Key Expectation Label Error Result}
    (answered : ∀ answer,
      Body.Holds (After pre statement answer) (next answer) post)
    (fails : ∀ error, Body.Holds pre (failed error) post) :
    Body.Holds pre (.query statement next failed) post := by
  intro faults state met
  simp only [Body.exec]
  split
  · exact fails _ faults state met
  · trivial
  · split
    · rename_i answer answers
      exact answered answer faults _ ⟨state, met, answers, rfl⟩
    · exact fails _ faults state met

end Body.Holds

theorem Body.exec_perform_bind (faults : Label → Option (Fault Error))
    (statement : Query State Key Expectation Label Error Answer)
    (rest : Answer → Body State Key Expectation Label Error Result)
    (state : State) :
    (Body.perform statement >>= rest).exec faults state =
      match faults statement.label with
      | some (.throws error) => (.threw error, state)
      | some .stops => (.stopped, state)
      | none =>
          match statement.answer state with
          | .ok answer =>
              (rest answer).exec faults (statement.effect state state)
          | .error error => (.threw error, state) := by
  change (Body.query statement rest .threw).exec faults state = _
  split
  · simp only [Body.exec, *]
  · simp only [Body.exec, *]
  · split <;> simp only [Body.exec, *]

namespace Program

theorem exec_perform_bind (faults : Label → Option (Fault Error))
    (statement : Query State Key Expectation Label Error Answer)
    (rest : Answer → Program State Key Expectation Label Error Result)
    (state : State) :
    (perform statement >>= rest).exec faults state =
      match faults statement.label with
      | some (.throws error) => (.threw error, state)
      | some .stops => (.stopped, state)
      | none =>
          match statement.answer state with
          | .ok answer =>
              (rest answer).exec faults (statement.effect state state)
          | .error error => (.threw error, state) := by
  change (query statement rest .threw).exec faults state = _
  split
  · simp only [exec, *]
  · simp only [exec, *]
  · split <;> simp only [exec, *]

theorem exec_catching (faults : Label → Option (Fault Error))
    (program : Program State Key Expectation Label Error Result)
    (handler : Error → Program State Key Expectation Label Error Result)
    (state : State) :
    (program.catching handler).exec faults state =
      match program.exec faults state with
      | (.returned result, written) => (.returned result, written)
      | (.threw error, written) => (handler error).exec faults written
      | (.stopped, written) => (.stopped, written) := by
  induction program generalizing state with
  | returned result => rfl
  | threw error => rfl
  | query statement next failed nextIH failedIH =>
      simp only [catching, exec]
      rcases faults statement.label with _ | fault
      · cases statement.answer state with
        | ok answer => exact nextIH answer _
        | error error => exact failedIH error _
      · cases fault with
        | throws error => exact failedIH error _
        | stops => rfl
  | transaction label body next failed nextIH failedIH =>
      simp only [catching, exec]
      rcases body.exec faults state with ⟨outcome, written⟩
      cases outcome with
      | threw error => exact failedIH error _
      | stopped => rfl
      | returned answer =>
          rcases faults label with _ | fault
          · exact nextIH answer _
          · cases fault with
            | throws error => exact failedIH error _
            | stops => rfl

namespace Holds

variable {pre mid rest : State → Prop} {post : Result → State → Prop}

theorem mono {pre' rest' : State → Prop} {post' : Result → State → Prop}
    {program : Program State Key Expectation Label Error Result}
    (holds : program.Holds pre post rest)
    (stronger : ∀ state, pre' state → pre state)
    (weaker : ∀ result state, post result state → post' result state)
    (weakerRest : ∀ state, rest state → rest' state) :
    program.Holds pre' post' rest' :=
  fun faults state met => (holds faults state (stronger state met)).mono
    weaker weakerRest

theorem returned {result : Result}
    (holds : ∀ state, pre state → post result state) :
    Holds pre
      (.returned result : Program State Key Expectation Label Error Result)
      post rest :=
  fun _ state met => holds state met

theorem threw {error : Error} (holds : ∀ state, pre state → rest state) :
    Holds pre (.threw error : Program State Key Expectation Label Error Result)
      post rest :=
  fun _ state met => holds state met

/-- A part of the precondition that does not speak of the state. -/
theorem given {fact : Prop}
    {program : Program State Key Expectation Label Error Result}
    (holds : fact → program.Holds pre post rest) :
    program.Holds (fun state => pre state ∧ fact) post rest :=
  fun faults state met => holds met.2 faults state met.1

/-- A precondition, one state at a time. -/
theorem each {program : Program State Key Expectation Label Error Result}
    (holds : ∀ state, pre state → program.Holds (· = state) post rest) :
    program.Holds pre post rest :=
  fun faults state met => holds state met faults state rfl

/-- Where a call ends when it ends there with or without a result. -/
theorem final {state : State}
    {program : Program State Key Expectation Label Error Result}
    (holds : program.Holds (· = state) (fun _ => rest) rest)
    (faults : Label → Option (Fault Error)) :
    rest (program.exec faults state).2 := by
  have ends := holds faults state rfl
  generalize program.exec faults state = ended at ends ⊢
  rcases ended with ⟨_ | _ | _, after⟩
  · exact ends
  · exact ends
  · exact ends

theorem bind {middle : Answer → State → Prop}
    {program : Program State Key Expectation Label Error Answer}
    {continue_ : Answer → Program State Key Expectation Label Error Result}
    (first : program.Holds pre middle rest)
    (next : ∀ answer, (continue_ answer).Holds (middle answer) post rest) :
    (program >>= continue_).Holds pre post rest := by
  intro faults state met
  have ends := first faults state met
  rw [exec_bind]
  generalize program.exec faults state = ended at ends ⊢
  rcases ended with ⟨_ | _ | _, after⟩
  · exact next _ faults after ends
  · exact ends
  · exact ends

theorem discard {program : Program State Key Expectation Label Error Answer}
    {post : State → Prop} (holds : program.Holds pre (fun _ => post) rest) :
    program.discard.Holds pre (fun _ => post) rest :=
  holds.bind fun _ => .returned fun _ ended => ended

/-- A single statement. -/
theorem perform {statement : Query State Key Expectation Label Error Result}
    (answered : ∀ answer after, After pre statement answer after →
      post answer after) (fails : ∀ state, pre state → rest state) :
    (Program.perform statement).Holds pre post rest := by
  intro faults state met
  simp only [Program.perform, exec]
  split
  · exact fails state met
  · exact fails state met
  · split
    · rename_i answer answers
      exact answered answer _ ⟨state, met, answers, rfl⟩
    · exact fails state met

/-- A statement that writes nothing. -/
theorem read {statement : Query State Key Expectation Label Error Result}
    (idle : ∀ state, statement.effect state state = state)
    (answered : ∀ state answer, pre state →
      statement.answer state = .ok answer →
      post answer state) (fails : ∀ state, pre state → rest state) :
    (Program.perform statement).Holds pre post rest := by
  apply perform ?_ fails
  rintro answer after ⟨before, met, answers, rfl⟩
  rw [idle]
  exact answered before answer met answers

theorem atomically {label : Label}
    {body : Body State Key Expectation Label Error Result}
    (holds : body.Holds pre post) (fails : ∀ state, pre state → rest state) :
    (Program.atomically label body).Holds pre post rest := by
  intro faults state met
  have ends := holds faults state met
  simp only [Program.atomically, exec]
  generalize body.exec faults state = ended at ends ⊢
  rcases ended with ⟨_ | _ | _, after⟩
  · simp only
    split
    · exact fails state met
    · exact fails state met
    · exact ends
  · exact fails state met
  · exact fails state met

theorem catching {program : Program State Key Expectation Label Error Result}
    {handler : Error → Program State Key Expectation Label Error Result}
    (holds : program.Holds pre post mid)
    (handles : ∀ error, (handler error).Holds mid post rest)
    (stopped : ∀ state, mid state → rest state) :
    (program.catching handler).Holds pre post rest := by
  intro faults state met
  have ends := holds faults state met
  rw [exec_catching]
  generalize program.exec faults state = ended at ends ⊢
  rcases ended with ⟨_ | _ | _, after⟩
  · exact ends
  · exact handles _ faults after ends
  · exact stopped after ends

theorem when {condition : Prop} [Decidable condition]
    {program : Program State Key Expectation Label Error Unit}
    {post : State → Prop}
    (holds : condition → program.Holds pre (fun _ => post) rest)
    (skipped : ¬ condition → ∀ state, pre state → post state) :
    (Program.when condition program).Holds pre (fun _ => post) rest := by
  unfold Program.when
  split
  · rename_i taken
    exact holds taken
  · rename_i untaken
    exact .returned (skipped untaken)

/-- A loop whose every turn keeps the invariant. -/
theorem forEach {Item : Type} {invariant : State → Prop} {items : List Item}
    {step : Item → Program State Key Expectation Label Error Unit}
    (turn : ∀ item ∈ items,
      (step item).Holds invariant (fun _ => invariant) rest) :
    (Program.forEach items step).Holds invariant (fun _ => invariant) rest := by
  induction items with
  | nil => exact .returned fun _ kept => kept
  | cons item others ih =>
      apply bind (turn item List.mem_cons_self)
      exact fun _ => ih fun other member =>
        turn other (List.mem_cons_of_mem _ member)

end Holds

end Program

/-- The program never changes the state. -/
def Program.ReadOnly
    (program : Program State Key Expectation Label Error Result) : Prop :=
  ∀ state, program.Holds (· = state) (fun _ after => after = state) (· = state)

/-- A call that does not return leaves the state alone. -/
def Program.AllOrNothing
    (program : Program State Key Expectation Label Error Result) : Prop :=
  ∀ state, program.Holds (· = state) (fun _ _ => True) (· = state)

namespace Program

theorem ReadOnly.returned (result : Result) :
    (Program.returned result :
      Program State Key Expectation Label Error Result).ReadOnly :=
  fun _ => .returned fun _ same => same

theorem ReadOnly.threw (error : Error) :
    (Program.threw error :
      Program State Key Expectation Label Error Result).ReadOnly :=
  fun _ => .threw fun _ same => same

theorem ReadOnly.read
    {statement : Query State Key Expectation Label Error Answer}
    (idle : ∀ state, statement.effect state state = state) :
    (Program.perform statement).ReadOnly :=
  fun _ => .read idle (fun _ _ same _ => same) fun _ same => same

theorem ReadOnly.bind
    {program : Program State Key Expectation Label Error Answer}
    {rest : Answer → Program State Key Expectation Label Error Result}
    (first : program.ReadOnly) (next : ∀ answer, (rest answer).ReadOnly) :
    (program >>= rest).ReadOnly :=
  fun state => (first state).bind fun answer => next answer state

theorem ReadOnly.allOrNothing
    {program : Program State Key Expectation Label Error Result}
    (readOnly : program.ReadOnly) : program.AllOrNothing :=
  fun state => (readOnly state).mono (fun _ same => same) (fun _ _ _ => trivial)
    fun _ same => same

/-- Reading first does not matter. -/
theorem AllOrNothing.after
    {program : Program State Key Expectation Label Error Answer}
    {rest : Answer → Program State Key Expectation Label Error Result}
    (first : program.ReadOnly) (next : ∀ answer, (rest answer).AllOrNothing) :
    (program >>= rest).AllOrNothing :=
  fun state => (first state).bind fun answer => next answer state

theorem AllOrNothing.atomically (label : Label)
    (body : Body State Key Expectation Label Error Result) :
    (Program.atomically label body).AllOrNothing := by
  intro state
  apply Holds.atomically ?_ fun _ same => same
  intro faults before _
  rcases body.exec faults before with ⟨_ | _ | _, after⟩ <;> trivial

end Program

/-! ## The path without failures -/

/-- The statements a body runs when none fails. -/
def Body.visited :
    Body State Key Expectation Label Error Result → State → List Label
  | .returned _, _ => []
  | .threw _, _ => []
  | .query statement next failed, state =>
      statement.label ::
        match statement.answer state with
        | .ok answer => (next answer).visited (statement.effect state state)
        | .error error => (failed error).visited state

/-- The statements and commits a program runs when none fails. -/
def Program.visited :
    Program State Key Expectation Label Error Result → State → List Label
  | .returned _, _ => []
  | .threw _, _ => []
  | .query statement next failed, state =>
      statement.label ::
        match statement.answer state with
        | .ok answer => (next answer).visited (statement.effect state state)
        | .error error => (failed error).visited state
  | .transaction label body next failed, state =>
      body.visited state ++
        match body.run state with
        | (.error error, _) => (failed error).visited state
        | (.ok answer, written) => label :: (next answer).visited written

theorem Program.visited_bind
    (program : Program State Key Expectation Label Error Answer)
    (rest : Answer → Program State Key Expectation Label Error Result)
    (state : State) :
    (program >>= rest).visited state = program.visited state ++
      match program.run state with
      | (.ok answer, written) => (rest answer).visited written
      | (.error _, _) => [] := by
  change (program.bind rest).visited state = _
  induction program generalizing state with
  | returned answer => rfl
  | threw error => rfl
  | query statement next failed nextIH failedIH =>
      simp only [Program.bind, visited, run]
      cases statement.answer state with
      | ok answer => exact congrArg _ (nextIH answer _)
      | error error => exact congrArg _ (failedIH error _)
  | transaction label body next failed nextIH failedIH =>
      simp only [Program.bind, visited, run, List.append_assoc]
      rcases body.run state with ⟨error | answer, written⟩
      · exact congrArg _ (failedIH error _)
      · exact congrArg _ (congrArg _ (nextIH answer _))

/-- None of these statements fails. -/
def Clear (faults : Label → Option (Fault Error)) (labels : List Label) :
    Prop :=
  ∀ label ∈ labels, faults label = none

theorem clear_nil {faults : Label → Option (Fault Error)} :
    Clear faults [] := by
  simp [Clear]

theorem clear_cons {faults : Label → Option (Fault Error)} {label : Label}
    {labels : List Label} :
    Clear faults (label :: labels) ↔ faults label = none ∧
      Clear faults labels := by
  simp [Clear]

theorem clear_append {faults : Label → Option (Fault Error)}
    {first second : List Label} :
    Clear faults (first ++ second) ↔ Clear faults first ∧
      Clear faults second := by
  simp [Clear, or_imp, forall_and]

theorem Body.exec_of_clear {faults : Label → Option (Fault Error)}
    {body : Body State Key Expectation Label Error Result} {state : State}
    (clear : Clear faults (body.visited state)) :
    body.exec faults state =
      (Outcome.ofExcept (body.run state).1, (body.run state).2) := by
  induction body generalizing state with
  | returned result => rfl
  | threw error => rfl
  | query statement next failed nextIH failedIH =>
      simp only [visited, clear_cons] at clear
      obtain ⟨here, later⟩ := clear
      simp only [exec, run, here]
      cases answered : statement.answer state with
      | ok answer =>
          rw [answered] at later
          exact nextIH answer later
      | error error =>
          rw [answered] at later
          exact failedIH error later

/-- When nothing on the path fails, the call is the one without failures. -/
theorem Program.exec_of_clear {faults : Label → Option (Fault Error)}
    {program : Program State Key Expectation Label Error Result} {state : State}
    (clear : Clear faults (program.visited state)) :
    program.exec faults state =
      (Outcome.ofExcept (program.run state).1, (program.run state).2) := by
  induction program generalizing state with
  | returned result => rfl
  | threw error => rfl
  | query statement next failed nextIH failedIH =>
      simp only [visited, clear_cons] at clear
      obtain ⟨here, later⟩ := clear
      simp only [exec, run, here]
      cases answered : statement.answer state with
      | ok answer =>
          rw [answered] at later
          exact nextIH answer later
      | error error =>
          rw [answered] at later
          exact failedIH error later
  | transaction label body next failed nextIH failedIH =>
      simp only [visited, clear_append] at clear
      obtain ⟨inside, later⟩ := clear
      simp only [exec, run, Body.exec_of_clear inside]
      rcases ran : body.run state with ⟨error | answer, written⟩
      · rw [ran] at later
        exact failedIH error later
      · rw [ran] at later
        simp only [clear_cons] at later
        simp only [Outcome.ofExcept, later.1]
        exact nextIH answer later.2

/-- A failing statement ends the body. -/
def Body.Straight : Body State Key Expectation Label Error Result → Prop
  | .returned _ => True
  | .threw _ => True
  | .query _ next failed =>
      (∀ answer, (next answer).Straight) ∧ ∀ error, ∃ thrown,
        failed error = .threw thrown

/-- A failing statement or commit ends the program. -/
def Program.Straight : Program State Key Expectation Label Error Result → Prop
  | .returned _ => True
  | .threw _ => True
  | .query _ next failed =>
      (∀ answer, (next answer).Straight) ∧ ∀ error, ∃ thrown,
        failed error = .threw thrown
  | .transaction _ body next failed =>
      body.Straight ∧ (∀ answer, (next answer).Straight) ∧
        ∀ error, ∃ thrown, failed error = .threw thrown

theorem Body.Straight.returned_clear {faults : Label → Option (Fault Error)}
    {body : Body State Key Expectation Label Error Result}
    {state written : State} {result : Result} (straight : body.Straight)
    (returned : body.exec faults state = (.returned result, written)) :
    Clear faults (body.visited state) := by
  induction body generalizing state with
  | returned result => exact clear_nil
  | threw error => exact clear_nil
  | query statement next failed nextIH failedIH =>
      simp only [exec] at returned
      simp only [visited, clear_cons]
      rcases here : faults statement.label with _ | fault
      · rw [here] at returned
        simp only at returned
        refine ⟨rfl, ?_⟩
        cases answered : statement.answer state with
        | ok answer =>
            rw [answered] at returned
            exact nextIH answer (straight.1 answer) returned
        | error error =>
            obtain ⟨thrown, throws⟩ := straight.2 error
            rw [answered] at returned
            simp only [throws] at returned
            cases returned
      · rw [here] at returned
        cases fault with
        | throws error =>
            obtain ⟨thrown, throws⟩ := straight.2 error
            simp only [throws] at returned
            cases returned
        | stops => cases returned

/-- A straight program returns only when nothing on its path fails. -/
theorem Program.Straight.returned_clear {faults : Label → Option (Fault Error)}
    {program : Program State Key Expectation Label Error Result}
    {state written : State} {result : Result} (straight : program.Straight)
    (returned : program.exec faults state = (.returned result, written)) :
    Clear faults (program.visited state) := by
  induction program generalizing state with
  | returned result => exact clear_nil
  | threw error => exact clear_nil
  | query statement next failed nextIH failedIH =>
      simp only [exec] at returned
      simp only [visited, clear_cons]
      rcases here : faults statement.label with _ | fault
      · rw [here] at returned
        simp only at returned
        refine ⟨rfl, ?_⟩
        cases answered : statement.answer state with
        | ok answer =>
            rw [answered] at returned
            exact nextIH answer (straight.1 answer) returned
        | error error =>
            obtain ⟨thrown, throws⟩ := straight.2 error
            rw [answered] at returned
            simp only [throws] at returned
            cases returned
      · rw [here] at returned
        cases fault with
        | throws error =>
            obtain ⟨thrown, throws⟩ := straight.2 error
            simp only [throws] at returned
            cases returned
        | stops => cases returned
  | transaction label body next failed nextIH failedIH =>
      obtain ⟨inside, nextStraight, rethrows⟩ := straight
      simp only [exec] at returned
      rcases ran : body.exec faults state with ⟨answer | error | _, after⟩
      · have clear := inside.returned_clear ran
        have same := Body.exec_of_clear clear
        rw [ran] at same
        rcases run_eq : body.run state with ⟨error | found, left⟩
        · rw [run_eq] at same
          cases same
        rw [run_eq] at same
        cases same
        rw [ran] at returned
        simp only at returned
        simp only [visited, clear_append, run_eq, clear_cons]
        refine ⟨clear, ?_⟩
        rcases here : faults label with _ | fault
        · rw [here] at returned
          exact ⟨rfl, nextIH answer (nextStraight answer) returned⟩
        · rw [here] at returned
          cases fault with
          | throws error =>
              obtain ⟨thrown, throws⟩ := rethrows error
              simp only [throws] at returned
              cases returned
          | stops => cases returned
      · obtain ⟨thrown, throws⟩ := rethrows error
        rw [ran] at returned
        simp only [throws] at returned
        cases returned
      · rw [ran] at returned
        cases returned

theorem Program.straight_perform
    (statement : Query State Key Expectation Label Error Answer) :
    (Program.perform statement).Straight :=
  ⟨fun _ => trivial, fun error => ⟨error, rfl⟩⟩

theorem Program.Straight.bind
    {program : Program State Key Expectation Label Error Answer}
    {rest : Answer → Program State Key Expectation Label Error Result}
    (straight : program.Straight) (next : ∀ answer, (rest answer).Straight) :
    (program >>= rest).Straight := by
  change (program.bind rest).Straight
  induction program with
  | returned answer => exact next answer
  | threw error => trivial
  | query statement later failed laterIH failedIH =>
      refine ⟨fun answer => laterIH answer (straight.1 answer), fun error => ?_⟩
      obtain ⟨thrown, throws⟩ := straight.2 error
      exact ⟨thrown, congrArg (fun failure => failure.bind rest) throws⟩
  | transaction label body later failed laterIH failedIH =>
      refine ⟨straight.1, fun answer => laterIH answer (straight.2.1 answer),
        fun error => ?_⟩
      obtain ⟨thrown, throws⟩ := straight.2.2 error
      exact ⟨thrown, congrArg (fun failure => failure.bind rest) throws⟩

end CloudStudio.Transactions
