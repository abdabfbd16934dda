import CloudStudio.Transactions.Protocol

/-!
# Laws of single statements

`Program.Lawful` says that every statement of a program, whatever state it
meets, makes only changes that a law allows; one law is for the statements that
stand alone, another for those inside transactions.  No other thread can break
it, so it holds of every statement of every run.
-/

namespace CloudStudio.Transactions

variable {Id State Key Expectation Label Error Result Answer : Type}

/-- Every statement of the transaction obeys the law, and what it returns is in
`post`. -/
def Body.Lawful (assumed : List Expectation) (law : State → State → Prop)
    (post : Result → Prop) :
    Body State Key Expectation Label Error Result → Prop
  | .returned result => post result
  | .threw _ => True
  | .query statement next failed =>
      (∀ state answer,
        (∀ expectation ∈ assumed, statement.expects expectation state = true) →
        statement.answer state = .ok answer →
          law state (statement.effect state state) ∧
            (next answer).Lawful assumed law post) ∧
      ∀ error, (failed error).Lawful assumed law post

/-- Every statement of the program obeys the law of its place, and what it
returns is in `post`. -/
def Program.Lawful (assumed : List Expectation)
    (alone inside : State → State → Prop) (post : Result → Prop) :
    Program State Key Expectation Label Error Result → Prop
  | .returned result => post result
  | .threw _ => True
  | .query statement next failed =>
      (∀ state answer,
        (∀ expectation ∈ assumed, statement.expects expectation state = true) →
        statement.answer state = .ok answer →
          alone state (statement.effect state state) ∧
            (next answer).Lawful assumed alone inside post) ∧
      ∀ error, (failed error).Lawful assumed alone inside post
  | .transaction _ body next failed =>
      body.Lawful assumed inside
        (fun answer => (next answer).Lawful assumed alone inside post) ∧
      ∀ error, (failed error).Lawful assumed alone inside post

/-- The same for a thread that may be inside a transaction. -/
def Thread.Lawful (assumed : List Expectation)
    (alone inside : State → State → Prop) (post : Result → Prop) :
    Thread State Key Expectation Label Error Result → Prop
  | .outside program => program.Lawful assumed alone inside post
  | .inside body _ next failed =>
      body.Lawful assumed inside
        (fun answer => (next answer).Lawful assumed alone inside post) ∧
      ∀ error, (failed error).Lawful assumed alone inside post
  | .stopped => True

variable {assumed : List Expectation} {alone inside : State → State → Prop}

namespace Body.Lawful

variable {law : State → State → Prop}

theorem mono {post post' : Result → Prop}
    {body : Body State Key Expectation Label Error Result}
    (lawful : body.Lawful assumed law post)
    (weaker : ∀ result, post result → post' result) :
    body.Lawful assumed law post' := by
  induction body with
  | returned result => exact weaker result lawful
  | threw error => exact trivial
  | query statement next failed nextIH failedIH =>
      constructor
      · intro state answer met answered
        obtain ⟨obeys, rest⟩ := lawful.1 state answer met answered
        exact ⟨obeys, nextIH answer rest⟩
      · exact fun error => failedIH error (lawful.2 error)

/-- Fewer expectations are assumed, and the law allows more. -/
theorem weaken {law' : State → State → Prop} {fewer : List Expectation}
    (kept : ∀ expectation ∈ fewer, expectation ∈ assumed)
    (allows : ∀ before after, law before after → law' before after)
    {post : Result → Prop}
    {body : Body State Key Expectation Label Error Result}
    (lawful : body.Lawful fewer law post) : body.Lawful assumed law' post := by
  induction body with
  | returned result => exact lawful
  | threw error => exact trivial
  | query statement next failed nextIH failedIH =>
      constructor
      · intro state answer met answered
        obtain ⟨obeys, rest⟩ := lawful.1 state answer
          (fun expectation member => met expectation (kept expectation member))
            answered
        exact ⟨allows _ _ obeys, nextIH answer rest⟩
      · exact fun error => failedIH error (lawful.2 error)

/-- A statement that changes nothing. -/
theorem read {post : Result → Prop}
    {statement : Query State Key Expectation Label Error Answer}
    {next : Answer → Body State Key Expectation Label Error Result}
    {failed : Error → Body State Key Expectation Label Error Result}
    (refl : ∀ state, law state state)
    (idle : ∀ state, statement.effect state state = state)
    (lawfulNext : ∀ state answer, statement.answer state = .ok answer →
      (next answer).Lawful assumed law post)
    (lawfulFailed : ∀ error, (failed error).Lawful assumed law post) :
    (Body.query statement next failed).Lawful assumed law post := by
  constructor
  · intro state answer met answered
    rw [idle]
    exact ⟨refl state, lawfulNext state answer answered⟩
  · exact lawfulFailed

/-- A law that allows everything. -/
theorem always (free : ∀ before after, law before after) {post : Result → Prop}
    (holds : ∀ result, post result)
    (body : Body State Key Expectation Label Error Result) :
    body.Lawful assumed law post := by
  induction body with
  | returned result => exact holds result
  | threw error => exact trivial
  | query statement next failed nextIH failedIH =>
      constructor
      · intro state answer _ _
        exact ⟨free _ _, nextIH answer⟩
      · exact failedIH

end Body.Lawful

namespace Program.Lawful

variable {post : Result → Prop}

theorem mono {post' : Result → Prop}
    {program : Program State Key Expectation Label Error Result}
    (lawful : program.Lawful assumed alone inside post)
    (weaker : ∀ result, post result → post' result) :
    program.Lawful assumed alone inside post' := by
  induction program with
  | returned result => exact weaker result lawful
  | threw error => exact trivial
  | query statement next failed nextIH failedIH =>
      constructor
      · intro state answer met answered
        obtain ⟨obeys, rest⟩ := lawful.1 state answer met answered
        exact ⟨obeys, nextIH answer rest⟩
      · exact fun error => failedIH error (lawful.2 error)
  | transaction label body next failed nextIH failedIH =>
      constructor
      · exact lawful.1.mono fun answer => nextIH answer
      · exact fun error => failedIH error (lawful.2 error)

/-- Fewer expectations are assumed, and the laws allow more. -/
theorem weaken {alone' inside' : State → State → Prop}
    {fewer : List Expectation}
    (kept : ∀ expectation ∈ fewer, expectation ∈ assumed)
    (allowsAlone : ∀ before after, alone before after → alone' before after)
    (allowsInside : ∀ before after, inside before after → inside' before after)
    {program : Program State Key Expectation Label Error Result}
    (lawful : program.Lawful fewer alone inside post) :
    program.Lawful assumed alone' inside' post := by
  induction program with
  | returned result => exact lawful
  | threw error => exact trivial
  | query statement next failed nextIH failedIH =>
      constructor
      · intro state answer met answered
        obtain ⟨obeys, rest⟩ := lawful.1 state answer
          (fun expectation member => met expectation (kept expectation member))
            answered
        exact ⟨allowsAlone _ _ obeys, nextIH answer rest⟩
      · exact fun error => failedIH error (lawful.2 error)
  | transaction label body next failed nextIH failedIH =>
      constructor
      · apply (lawful.1.mono fun answer => nextIH answer).weaken
          kept allowsInside
      · exact fun error => failedIH error (lawful.2 error)

/-- Sequential composition: the rest is lawful for whatever the first part
returns. -/
theorem bind {middle : Answer → Prop}
    {program : Program State Key Expectation Label Error Answer}
    {rest : Answer → Program State Key Expectation Label Error Result}
    (first : program.Lawful assumed alone inside middle)
    (next : ∀ answer, middle answer →
      (rest answer).Lawful assumed alone inside post) :
    (program >>= rest).Lawful assumed alone inside post := by
  change (program.bind rest).Lawful assumed alone inside post
  induction program with
  | returned answer => exact next answer first
  | threw error => exact trivial
  | query statement later failed laterIH failedIH =>
      constructor
      · intro state answer met answered
        obtain ⟨obeys, rest⟩ := first.1 state answer met answered
        exact ⟨obeys, laterIH answer rest⟩
      · exact fun error => failedIH error (first.2 error)
  | transaction label body later failed laterIH failedIH =>
      constructor
      · exact first.1.mono fun answer => laterIH answer
      · exact fun error => failedIH error (first.2 error)

/-- A call for its effect only. -/
theorem discard {middle : Answer → Prop}
    {program : Program State Key Expectation Label Error Answer}
    {post : Unit → Prop} (lawful : program.Lawful assumed alone inside middle)
    (ends : post ()) :
    (Program.discard program).Lawful assumed alone inside post :=
  lawful.bind fun _ _ => ends

/-- A statement whose change the law always allows. -/
theorem perform {statement : Query State Key Expectation Label Error Result}
    (obeys : ∀ state answer,
      (∀ expectation ∈ assumed, statement.expects expectation state = true) →
      statement.answer state = .ok answer →
        alone state (statement.effect state state) ∧ post answer) :
    (Program.perform statement).Lawful assumed alone inside post :=
  ⟨obeys, fun _ => trivial⟩

/-- A statement that changes nothing. -/
theorem read {statement : Query State Key Expectation Label Error Result}
    (refl : ∀ state, alone state state)
    (idle : ∀ state, statement.effect state state = state)
    (answers : ∀ state answer, statement.answer state = .ok answer →
      post answer) :
    (Program.perform statement).Lawful assumed alone inside post := by
  apply perform
  intro state answer met answered
  rw [idle]
  exact ⟨refl state, answers state answer answered⟩

/-- Laws that allow everything. -/
theorem always (freeAlone : ∀ before after, alone before after)
    (freeInside : ∀ before after, inside before after) {post : Result → Prop}
    (holds : ∀ result, post result)
    (program : Program State Key Expectation Label Error Result) :
    program.Lawful assumed alone inside post := by
  induction program with
  | returned result => exact holds result
  | threw error => exact trivial
  | query statement next failed nextIH failedIH =>
      constructor
      · intro state answer _ _
        exact ⟨freeAlone _ _, nextIH answer⟩
      · exact failedIH
  | transaction label body next failed nextIH failedIH =>
      constructor
      · exact (Body.Lawful.always freeInside (fun _ => trivial) body).mono
          fun answer _ => nextIH answer
      · exact failedIH

end Program.Lawful

section

variable [DecidableEq Expectation]

/-- The same statement, taking for granted that `claim` holds of what it
changes. -/
def Query.resting (taken : Expectation) (claim : State → State → Bool)
    (statement : Query State Key Expectation Label Error Answer) :
    Query State Key Expectation Label Error Answer :=
  { statement with
    expects := fun expectation state =>
      if expectation = taken then claim state (statement.effect state state)
      else statement.expects expectation state }

def Body.resting (taken : Expectation) (claim : State → State → Bool) :
    Body State Key Expectation Label Error Result →
      Body State Key Expectation Label Error Result
  | .returned result => .returned result
  | .threw error => .threw error
  | .query statement next failed =>
      .query (statement.resting taken claim)
        (fun answer => (next answer).resting taken claim)
        (fun error => (failed error).resting taken claim)

/-- The same program, each of whose statements takes `claim` for granted of its
change. -/
def Program.resting (taken : Expectation) (claim : State → State → Bool) :
    Program State Key Expectation Label Error Result →
      Program State Key Expectation Label Error Result
  | .returned result => .returned result
  | .threw error => .threw error
  | .query statement next failed =>
      .query (statement.resting taken claim)
        (fun answer => (next answer).resting taken claim)
        (fun error => (failed error).resting taken claim)
  | .transaction label body next failed =>
      .transaction label (body.resting taken claim)
        (fun answer => (next answer).resting taken claim)
        (fun error => (failed error).resting taken claim)

end

section

variable [DecidableEq Expectation]
variable (taken : Expectation) (claim : State → State → Bool)

@[simp] theorem Program.resting_bind
    (program : Program State Key Expectation Label Error Answer)
    (rest : Answer → Program State Key Expectation Label Error Result) :
    (program >>= rest).resting taken claim =
      program.resting taken claim >>= fun answer =>
        (rest answer).resting taken claim := by
  change (program.bind rest).resting taken claim =
    (program.resting taken claim).bind _
  induction program with
  | returned answer => rfl
  | threw error => rfl
  | query statement next failed nextIH failedIH =>
      simp only [Program.bind, Program.resting, nextIH, failedIH]
  | transaction label body next failed nextIH failedIH =>
      simp only [Program.bind, Program.resting, nextIH, failedIH]

@[simp] theorem Program.resting_discard
    (program : Program State Key Expectation Label Error Answer) :
    program.discard.resting taken claim =
      (program.resting taken claim).discard :=
  Program.resting_bind taken claim program fun _ => .returned ()

@[simp] theorem Program.resting_perform
    (statement : Query State Key Expectation Label Error Answer) :
    (Program.perform statement).resting taken claim =
      Program.perform (statement.resting taken claim) := rfl

variable [DecidableEq Id] [DecidableEq Key] {Ghost : Type}
variable {protocol : Protocol Id State Key Expectation Ghost} {id : Id}
variable {others : List Expectation}

omit [DecidableEq Key] in
/-- What the other expectations say, a statement with an added one says too. -/
private theorem meets_resting
    {statement : Query State Key Expectation Label Error Answer} {state : State}
    (apart : ∀ expectation ∈ others, expectation ∈ protocol.assumed ∧
      expectation ≠ taken) (meets : ∀ expectation ∈ protocol.assumed,
      (statement.resting taken claim).expects expectation state = true) :
    ∀ expectation ∈ others, statement.expects expectation state = true := by
  intro expectation member
  obtain ⟨assumes, differs⟩ := apart expectation member
  have rests := meets expectation assumes
  simp only [Query.resting, if_neg differs] at rests
  exact rests

theorem Body.Safe.resting {done : Answer → (State → State) → Ghost → Prop}
    {done' : Answer → (State → State) → Ghost → Prop}
    {thrown : Error → Ghost → Prop} {thrown' : Error → Ghost → Prop}
    {body : Body State Key Expectation Label Error Answer}
    {written : State → State} {ghost : Ghost}
    (apart : ∀ expectation ∈ others, expectation ∈ protocol.assumed ∧
      expectation ≠ taken)
    (safe : body.Safe (protocol.assuming others) id done thrown written ghost)
    (weakerDone : ∀ answer written ghost,
      done answer written ghost → done' answer written ghost)
    (weakerThrown : ∀ error ghost, thrown error ghost → thrown' error ghost) :
    (body.resting taken claim).Safe protocol id done' thrown'
      written ghost := by
  induction body generalizing written ghost with
  | returned answer => exact weakerDone answer written ghost safe
  | threw error => exact weakerThrown error ghost safe
  | query statement next failed nextIH failedIH =>
      refine ⟨?_, fun error => failedIH error (safe.2 error)⟩
      intro state owner held kept own free meets answer answered
      obtain ⟨ghost', kept', safeNext⟩ := safe.1 state owner held kept own free
        (meets_resting taken claim apart meets) answer answered
      exact ⟨ghost', kept', nextIH answer safeNext⟩

/-- A program that is safe without the added expectation is safe with it. -/
theorem Program.Safe.resting {post : Result → Ghost → Prop}
    {thrown : Error → Ghost → Prop}
    {program : Program State Key Expectation Label Error Result} {ghost : Ghost}
    (apart : ∀ expectation ∈ others, expectation ∈ protocol.assumed ∧
      expectation ≠ taken)
    (safe : program.Safe (protocol.assuming others) id post thrown ghost) :
    (program.resting taken claim).Safe protocol id post thrown ghost := by
  induction program generalizing ghost with
  | returned result => exact safe
  | threw error => exact safe
  | query statement next failed nextIH failedIH =>
      refine ⟨?_, fun error => failedIH error (safe.2 error)⟩
      intro state owner held kept own free meets answer answered
      obtain ⟨ghost', kept', guaranteed, safeNext⟩ :=
        safe.1 state owner held kept own free
        (meets_resting taken claim apart meets) answer answered
      exact ⟨ghost', kept', guaranteed, nextIH answer safeNext⟩
  | transaction label body next failed nextIH failedIH =>
      refine ⟨Body.Safe.resting taken claim apart safe.1 ?_ ?_,
        fun error => failedIH error (safe.2 error)⟩
      · intro answer written ghost commit
        refine ⟨?_, fun error => failedIH error (commit.2 error)⟩
        intro state owner held kept own
        obtain ⟨ghost', kept', guaranteed, committed, safeNext⟩ :=
          commit.1 state owner held kept own
        exact ⟨ghost', kept', guaranteed, committed, nextIH answer safeNext⟩
      · exact fun error ghost safeFailed => failedIH error safeFailed

end

/-! ## Every statement of every run -/

namespace Config

variable [DecidableEq Id] [DecidableEq Key]
variable {config : Config Id State Key Expectation Label Error Result}

/-- The state that the statement of an event meets and the one it leaves, if one
runs. -/
def changed? (config : Config Id State Key Expectation Label Error Result) :
    Event Id Error → Option (State × State)
  | .run id =>
      match config.thread id with
      | .outside (.query statement _ _) =>
          if Free config.owner id (statement.locks config.state) then
            match statement.answer config.state with
            | .ok _ =>
                some (config.state, statement.effect config.state config.state)
            | .error _ => none
          else none
      | .inside (.query statement _ _) written _ _ =>
          if Free config.owner id (statement.locks (written config.state)) then
            match statement.answer (written config.state) with
            | .ok _ => some (written config.state,
                statement.effect (written config.state) (written config.state))
            | .error _ => none
          else none
      | _ => none
  | _ => none

variable (assumed alone inside) in
/-- Every thread is lawful. -/
def Lawful (post : Id → Result → Prop)
    (config : Config Id State Key Expectation Label Error Result) : Prop :=
  ∀ id, (config.thread id).Lawful assumed alone inside (post id)

variable {post : Id → Result → Prop}

omit [DecidableEq Key] in
private theorem lawful_put (lawful : config.Lawful assumed alone inside post) {id : Id}
    {thread : Thread State Key Expectation Label Error Result}
    (own : thread.Lawful assumed alone inside (post id)) :
    (config.put id thread).Lawful assumed alone inside post := by
  intro other
  by_cases same : other = id
  · subst same
    simpa [put] using own
  · simpa [put, same] using lawful other

/-- Every event keeps the threads lawful. -/
theorem Lawful.step (lawful : config.Lawful assumed alone inside post)
    (event : Event Id Error) (meets : config.Meets assumed event) :
    (config.step event).Lawful assumed alone inside post := by
  cases event with
  | run id =>
      have own := lawful id
      simp only [Config.step, Config.advance]
      unfold Meets at meets
      split
      · rename_i statement next failed running
        rw [running] at own
        simp only [running] at meets
        split
        · cases answered : statement.answer config.state with
          | ok answer => exact lawful_put lawful (own.1 config.state answer meets answered).2
          | error error => exact lawful_put lawful (own.2 error)
        · exact lawful
      · rename_i label body next failed running
        rw [running] at own
        exact lawful_put lawful own
      · rename_i statement nextBody failedBody written next failed running
        rw [running] at own
        simp only [running] at meets
        split
        · cases answered : statement.answer (written config.state) with
          | ok answer =>
              have rest :=
                (own.1.1 (written config.state) answer meets answered).2
              exact lawful_put lawful ⟨rest, own.2⟩
          | error error => exact lawful_put lawful ⟨own.1.2 error, own.2⟩
        · exact lawful
      · rename_i answer written next failed running
        rw [running] at own
        exact lawful_put lawful own.1
      · rename_i error written next failed running
        rw [running] at own
        exact lawful_put lawful (own.2 error)
      · exact lawful
  | fail id error =>
      have own := lawful id
      simp only [Config.step, Config.interrupt]
      split
      · rename_i statement next failed running
        rw [running] at own
        exact lawful_put lawful (own.2 error)
      · rename_i label body next failed running
        rw [running] at own
        exact lawful_put lawful (own.2 error)
      · rename_i statement nextBody failedBody written next failed running
        rw [running] at own
        exact lawful_put lawful ⟨own.1.2 error, own.2⟩
      · rename_i answer written next failed running
        rw [running] at own
        exact lawful_put lawful (own.2 error)
      · exact lawful
  | stop id => exact lawful_put lawful trivial

theorem Lawful.run (lawful : config.Lawful assumed alone inside post)
    (schedule : List (Event Id Error))
    (expected : config.AsExpected assumed schedule) :
    (config.run schedule).Lawful assumed alone inside post := by
  induction schedule generalizing config with
  | nil => exact lawful
  | cons event rest ih => exact ih (lawful.step event expected.1) expected.2

omit [DecidableEq Key] in
/-- The statement an event runs obeys the law of its place. -/
theorem Lawful.changed (lawful : config.Lawful assumed alone inside post)
    {event : Event Id Error} (meets : config.Meets assumed event)
    {before after : State}
    (changes : config.changed? event = some (before, after)) :
    alone before after ∨ inside before after := by
  unfold changed? at changes
  unfold Meets at meets
  split at changes
  · rename_i id
    have own := lawful id
    split at changes
    · rename_i statement next failed running
      rw [running] at own
      simp only [running] at meets
      split at changes
      · split at changes
        · rename_i answer answered
          cases changes
          exact .inl (own.1 config.state answer meets answered).1
        · cases changes
      · cases changes
    · rename_i statement nextBody failedBody written next failed running
      rw [running] at own
      simp only [running] at meets
      split at changes
      · split at changes
        · rename_i answer answered
          cases changes
          exact .inr (own.1.1 (written config.state) answer meets answered).1
        · cases changes
      · cases changes
    · cases changes
  · cases changes

/-- Without a commit the committed state changes at most as a single statement
may. -/
theorem Lawful.uncommitted (lawful : config.Lawful assumed alone inside post)
    {event : Event Id Error} (meets : config.Meets assumed event)
    (commitless : config.commits? event = none) :
    (config.step event).state = config.state ∨
      alone config.state (config.step event).state := by
  cases event with
  | run id =>
      have own := lawful id
      simp only [commits?] at commitless
      simp only [Config.step, Config.advance]
      unfold Meets at meets
      split
      · rename_i statement next failed running
        rw [running] at own
        simp only [running] at meets
        split
        · cases answered : statement.answer config.state with
          | ok answer => exact .inr (own.1 config.state answer meets answered).1
          | error error => exact .inl rfl
        · exact .inl rfl
      · exact .inl rfl
      · split
        · split <;> exact .inl rfl
        · exact .inl rfl
      · rename_i answer written next failed running
        simp only [running] at commitless
        cases commitless
      · exact .inl rfl
      · exact .inl rfl
  | fail id error =>
      simp only [Config.step, Config.interrupt]
      split <;> exact .inl rfl
  | stop id => exact .inl rfl

/-- As long as nobody commits, the committed state keeps what single statements
keep. -/
theorem Lawful.uncommitted_run {keeps : State → Prop}
    (lawful : config.Lawful assumed alone inside post)
    (kept : ∀ before after, alone before after → keeps before → keeps after)
    (schedule : List (Event Id Error))
    (expected : config.AsExpected assumed schedule)
    (commitless : config.committers schedule = [])
    (holds : keeps config.state) : keeps (config.run schedule).state := by
  induction schedule generalizing config with
  | nil => exact holds
  | cons event rest ih =>
      simp only [committers, List.append_eq_nil_iff,
        Option.toList_eq_nil_iff] at commitless
      apply ih (lawful.step event expected.1) expected.2 commitless.2
      rcases lawful.uncommitted expected.1 commitless.1 with same | changed
      · rwa [same]
      · exact kept _ _ changed holds

end Config

end CloudStudio.Transactions
