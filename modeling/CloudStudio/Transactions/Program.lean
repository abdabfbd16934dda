import Mathlib.Logic.Function.Basic

/-!
# Programs over a transactional database

A program is a tree of single database statements.  Each statement is atomic:
from the state it meets it computes an answer and an effect.  Statements stand
alone (autocommit) or inside a transaction, whose effects become visible
together at commit and are discarded when its body throws.

`Program.exec` runs one program alone under any choice of failing statements,
and `Program.run` is the same reading with no failure.  Many programs at once
are the subject of `Transactions.Interleaving`.
-/

namespace CloudStudio.Transactions

/-- One database statement.  `effect met` is the row change decided in the state
`met`; inside a transaction it is applied again to the state found at commit.
`expects` never runs: it records what the statement's author takes for granted
about the state it meets. -/
structure Query (State Key Expectation Label Error Answer : Type) where
  label : Label
  answer : State → Except Error Answer
  effect : State → State → State := fun _ state => state
  locks : State → List Key := fun _ => []
  expects : Expectation → State → Bool := fun _ _ => true

/-- The statements of one transaction. -/
inductive Body (State Key Expectation Label Error Result : Type) : Type 1 where
  | returned (result : Result)
  | threw (error : Error)
  | query {Answer : Type}
      (statement : Query State Key Expectation Label Error Answer)
      (next : Answer → Body State Key Expectation Label Error Result)
      (failed : Error → Body State Key Expectation Label Error Result)

/-- A program: autocommitted statements and transactions. -/
inductive Program (State Key Expectation Label Error Result : Type) :
    Type 1 where
  | returned (result : Result)
  | threw (error : Error)
  | query {Answer : Type}
      (statement : Query State Key Expectation Label Error Answer)
      (next : Answer → Program State Key Expectation Label Error Result)
      (failed : Error → Program State Key Expectation Label Error Result)
  | transaction {Answer : Type} (label : Label)
      (body : Body State Key Expectation Label Error Answer)
      (next : Answer → Program State Key Expectation Label Error Result)
      (failed : Error → Program State Key Expectation Label Error Result)

/-- What makes a statement or a commit fail: an exception, or the process
stopping there. -/
inductive Fault (Error : Type) where
  | throws (error : Error)
  | stops

/-- How a call ends. -/
inductive Outcome (Error Result : Type) where
  | returned (result : Result)
  | threw (error : Error)
  | stopped
  deriving DecidableEq

variable {State Key Expectation Label Error Result Answer : Type}

namespace Body

/-- Sequential composition; an exception skips the rest. -/
def bind (body : Body State Key Expectation Label Error Answer)
    (rest : Answer → Body State Key Expectation Label Error Result) :
    Body State Key Expectation Label Error Result :=
  match body with
  | .returned answer => rest answer
  | .threw error => .threw error
  | .query statement next failed =>
      .query statement (fun answer => (next answer).bind rest)
        (fun error => (failed error).bind rest)

instance : Monad (Body State Key Expectation Label Error) where
  pure := .returned
  bind := bind

/-- A single statement. -/
def perform (statement : Query State Key Expectation Label Error Answer) :
    Body State Key Expectation Label Error Answer :=
  .query statement .returned .threw

/-- Run the statements alone from a state, each statement failing where `faults`
says so. -/
def exec (faults : Label → Option (Fault Error)) :
    Body State Key Expectation Label Error Result → State →
      Outcome Error Result × State
  | .returned result, state => (.returned result, state)
  | .threw error, state => (.threw error, state)
  | .query statement next failed, state =>
      match faults statement.label with
      | some (.throws error) => (failed error).exec faults state
      | some .stops => (.stopped, state)
      | none =>
          match statement.answer state with
          | .ok answer =>
              (next answer).exec faults (statement.effect state state)
          | .error error => (failed error).exec faults state

/-- Run the statements alone, none failing. -/
def run : Body State Key Expectation Label Error Result → State →
    Except Error Result × State
  | .returned result, state => (.ok result, state)
  | .threw error, state => (.error error, state)
  | .query statement next failed, state =>
      match statement.answer state with
      | .ok answer => (next answer).run (statement.effect state state)
      | .error error => (failed error).run state

end Body

namespace Program

/-- Sequential composition; an exception skips the rest. -/
def bind (program : Program State Key Expectation Label Error Answer)
    (rest : Answer → Program State Key Expectation Label Error Result) :
    Program State Key Expectation Label Error Result :=
  match program with
  | .returned answer => rest answer
  | .threw error => .threw error
  | .query statement next failed =>
      .query statement (fun answer => (next answer).bind rest)
        (fun error => (failed error).bind rest)
  | .transaction label body next failed =>
      .transaction label body (fun answer => (next answer).bind rest)
        (fun error => (failed error).bind rest)

instance : Monad (Program State Key Expectation Label Error) where
  pure := .returned
  bind := bind

/-- `try program catch handler`. -/
def catching (program : Program State Key Expectation Label Error Result)
    (handler : Error → Program State Key Expectation Label Error Result) :
    Program State Key Expectation Label Error Result :=
  match program with
  | .returned result => .returned result
  | .threw error => handler error
  | .query statement next failed =>
      .query statement (fun answer => (next answer).catching handler)
        (fun error => (failed error).catching handler)
  | .transaction label body next failed =>
      .transaction label body (fun answer => (next answer).catching handler)
        (fun error => (failed error).catching handler)

/-- A single autocommitted statement. -/
def perform (statement : Query State Key Expectation Label Error Answer) :
    Program State Key Expectation Label Error Answer :=
  .query statement .returned .threw

/-- One transaction around `body`. -/
def atomically (label : Label)
    (body : Body State Key Expectation Label Error Result) :
    Program State Key Expectation Label Error Result :=
  .transaction label body .returned .threw

/-- Run a program for every element of a list, in order. -/
def forEach {Item : Type} (items : List Item)
    (step : Item → Program State Key Expectation Label Error Unit) :
    Program State Key Expectation Label Error Unit :=
  match items with
  | [] => .returned ()
  | item :: rest => (step item).bind fun _ => forEach rest step

/-- `if condition then program`. -/
def when (condition : Prop) [Decidable condition]
    (program : Program State Key Expectation Label Error Unit) :
    Program State Key Expectation Label Error Unit :=
  if condition then program else .returned ()

/-- `await program` for its effect only. -/
def discard (program : Program State Key Expectation Label Error Answer) :
    Program State Key Expectation Label Error Unit :=
  program.bind fun _ => .returned ()

/-- Run a program alone from a state, each statement and commit failing where
`faults` says so.  A transaction that does not commit leaves the state as it
was when it began. -/
def exec (faults : Label → Option (Fault Error)) :
    Program State Key Expectation Label Error Result → State →
      Outcome Error Result × State
  | .returned result, state => (.returned result, state)
  | .threw error, state => (.threw error, state)
  | .query statement next failed, state =>
      match faults statement.label with
      | some (.throws error) => (failed error).exec faults state
      | some .stops => (.stopped, state)
      | none =>
          match statement.answer state with
          | .ok answer =>
              (next answer).exec faults (statement.effect state state)
          | .error error => (failed error).exec faults state
  | .transaction label body next failed, state =>
      match body.exec faults state with
      | (.threw error, _) => (failed error).exec faults state
      | (.stopped, _) => (.stopped, state)
      | (.returned answer, written) =>
          match faults label with
          | some (.throws error) => (failed error).exec faults state
          | some .stops => (.stopped, state)
          | none => (next answer).exec faults written

/-- Run a program alone, nothing failing. -/
def run : Program State Key Expectation Label Error Result → State →
    Except Error Result × State
  | .returned result, state => (.ok result, state)
  | .threw error, state => (.error error, state)
  | .query statement next failed, state =>
      match statement.answer state with
      | .ok answer => (next answer).run (statement.effect state state)
      | .error error => (failed error).run state
  | .transaction _ body next failed, state =>
      match body.run state with
      | (.error error, _) => (failed error).run state
      | (.ok answer, written) => (next answer).run written

end Program

/-! ## Running composed programs -/

/-- The outcome of a call that meets no fault. -/
def Outcome.ofExcept : Except Error Result → Outcome Error Result
  | .ok result => .returned result
  | .error error => .threw error

namespace Body

@[simp] theorem pure_eq (result : Result) :
    (pure result : Body State Key Expectation Label Error Result) =
      .returned result := rfl

@[simp] theorem bind_returned (answer : Answer)
    (rest : Answer → Body State Key Expectation Label Error Result) :
    (Body.returned answer >>= rest) = rest answer := rfl

@[simp] theorem bind_threw (error : Error)
    (rest : Answer → Body State Key Expectation Label Error Result) :
    (Body.threw error >>= rest) = .threw error := rfl

@[simp] theorem bind_perform
    (statement : Query State Key Expectation Label Error Answer)
    (rest : Answer → Body State Key Expectation Label Error Result) :
    (Body.perform statement >>= rest) = .query statement rest .threw := rfl

@[simp] theorem run_returned (result : Result) (state : State) :
    (Body.returned result :
      Body State Key Expectation Label Error Result).run state =
      (.ok result, state) := rfl

@[simp] theorem run_threw (error : Error) (state : State) :
    (Body.threw error :
      Body State Key Expectation Label Error Result).run state =
      (.error error, state) := rfl

theorem run_query
    (statement : Query State Key Expectation Label Error Answer)
    (next : Answer → Body State Key Expectation Label Error Result)
    (failed : Error → Body State Key Expectation Label Error Result)
    (state : State) :
    (Body.query statement next failed).run state =
      match statement.answer state with
      | .ok answer => (next answer).run (statement.effect state state)
      | .error error => (failed error).run state := by
  simp only [run]

theorem run_perform (statement : Query State Key Expectation Label Error Answer)
    (state : State) :
    (Body.perform statement).run state =
      match statement.answer state with
      | .ok answer => (.ok answer, statement.effect state state)
      | .error error => (.error error, state) := by
  simp only [perform, run]

theorem exec_noFaults (body : Body State Key Expectation Label Error Result)
    (state : State) :
    body.exec (fun _ => none) state =
      (Outcome.ofExcept (body.run state).1, (body.run state).2) := by
  induction body generalizing state with
  | returned result => rfl
  | threw error => rfl
  | query statement next failed nextIH failedIH =>
      simp only [exec, run]
      cases statement.answer state with
      | ok answer => exact nextIH answer _
      | error error => exact failedIH error _

end Body

namespace Program

@[simp] theorem pure_eq (result : Result) :
    (pure result : Program State Key Expectation Label Error Result) =
      .returned result := rfl

@[simp] theorem bind_returned (answer : Answer)
    (rest : Answer → Program State Key Expectation Label Error Result) :
    (Program.returned answer >>= rest) = rest answer := rfl

@[simp] theorem bind_threw (error : Error)
    (rest : Answer → Program State Key Expectation Label Error Result) :
    (Program.threw error >>= rest) = .threw error := rfl

@[simp] theorem bind_perform
    (statement : Query State Key Expectation Label Error Answer)
    (rest : Answer → Program State Key Expectation Label Error Result) :
    (Program.perform statement >>= rest) = .query statement rest .threw := rfl

@[simp] theorem bind_atomically (label : Label)
    (body : Body State Key Expectation Label Error Answer)
    (rest : Answer → Program State Key Expectation Label Error Result) :
    (Program.atomically label body >>= rest) =
      .transaction label body rest .threw := rfl

@[simp] theorem run_returned (result : Result) (state : State) :
    (Program.returned result :
      Program State Key Expectation Label Error Result).run state =
      (.ok result, state) := rfl

@[simp] theorem run_threw (error : Error) (state : State) :
    (Program.threw error :
      Program State Key Expectation Label Error Result).run state =
      (.error error, state) := rfl

theorem run_query
    (statement : Query State Key Expectation Label Error Answer)
    (next : Answer → Program State Key Expectation Label Error Result)
    (failed : Error → Program State Key Expectation Label Error Result)
    (state : State) :
    (Program.query statement next failed).run state =
      match statement.answer state with
      | .ok answer => (next answer).run (statement.effect state state)
      | .error error => (failed error).run state := by
  simp only [run]

theorem run_perform (statement : Query State Key Expectation Label Error Answer)
    (state : State) :
    (Program.perform statement).run state =
      match statement.answer state with
      | .ok answer => (.ok answer, statement.effect state state)
      | .error error => (.error error, state) := by
  simp only [perform, run]

theorem run_transaction (label : Label)
    (body : Body State Key Expectation Label Error Answer)
    (next : Answer → Program State Key Expectation Label Error Result)
    (failed : Error → Program State Key Expectation Label Error Result)
    (state : State) :
    (Program.transaction label body next failed).run state =
      match body.run state with
      | (.error error, _) => (failed error).run state
      | (.ok answer, written) => (next answer).run written := by
  simp only [run]

theorem run_bind (program : Program State Key Expectation Label Error Answer)
    (rest : Answer → Program State Key Expectation Label Error Result)
    (state : State) :
    (program >>= rest).run state =
      match program.run state with
      | (.ok answer, written) => (rest answer).run written
      | (.error error, written) => (.error error, written) := by
  change (program.bind rest).run state = _
  induction program generalizing state with
  | returned result => rfl
  | threw error => rfl
  | query statement next failed nextIH failedIH =>
      simp only [bind, run]
      cases statement.answer state with
      | ok answer => exact nextIH answer _
      | error error => exact failedIH error _
  | transaction label body next failed nextIH failedIH =>
      simp only [bind, run]
      rcases body.run state with ⟨outcome, written⟩
      cases outcome with
      | ok answer => exact nextIH answer _
      | error error => exact failedIH error _

theorem run_catching
    (program : Program State Key Expectation Label Error Result)
    (handler : Error → Program State Key Expectation Label Error Result)
    (state : State) :
    (program.catching handler).run state =
      match program.run state with
      | (.ok result, written) => (.ok result, written)
      | (.error error, written) => (handler error).run written := by
  induction program generalizing state with
  | returned result => rfl
  | threw error => rfl
  | query statement next failed nextIH failedIH =>
      simp only [catching, run]
      cases statement.answer state with
      | ok answer => exact nextIH answer _
      | error error => exact failedIH error _
  | transaction label body next failed nextIH failedIH =>
      simp only [catching, run]
      rcases body.run state with ⟨outcome, written⟩
      cases outcome with
      | ok answer => exact nextIH answer _
      | error error => exact failedIH error _

@[simp] theorem when_true
    (program : Program State Key Expectation Label Error Unit) :
    Program.when True program = program := rfl

@[simp] theorem when_false
    (program : Program State Key Expectation Label Error Unit) :
    Program.when False program = .returned () := rfl

theorem run_discard (program : Program State Key Expectation Label Error Answer)
    (state : State) :
    program.discard.run state =
      match program.run state with
      | (.ok _, written) => (.ok (), written)
      | (.error error, written) => (.error error, written) := by
  change (program >>= fun _ => .returned ()).run state = _
  rw [run_bind]
  rcases program.run state with ⟨outcome, written⟩
  cases outcome <;> rfl

theorem snd_run_discard
    (program : Program State Key Expectation Label Error Answer)
    (state : State) :
    (program.discard.run state).2 = (program.run state).2 := by
  rw [run_discard]
  rcases program.run state with ⟨_ | _, written⟩ <;> rfl

theorem exec_bind (faults : Label → Option (Fault Error))
    (program : Program State Key Expectation Label Error Answer)
    (rest : Answer → Program State Key Expectation Label Error Result)
    (state : State) :
    (program >>= rest).exec faults state =
      match program.exec faults state with
      | (.returned answer, written) => (rest answer).exec faults written
      | (.threw error, written) => (.threw error, written)
      | (.stopped, written) => (.stopped, written) := by
  change (program.bind rest).exec faults state = _
  induction program generalizing state with
  | returned result => rfl
  | threw error => rfl
  | query statement next failed nextIH failedIH =>
      simp only [bind, exec]
      rcases faults statement.label with _ | fault
      · cases statement.answer state with
        | ok answer => exact nextIH answer _
        | error error => exact failedIH error _
      · cases fault with
        | throws error => exact failedIH error _
        | stops => rfl
  | transaction label body next failed nextIH failedIH =>
      simp only [bind, exec]
      rcases body.exec faults state with ⟨outcome, written⟩
      cases outcome with
      | threw error => exact failedIH error _
      | stopped => rfl
      | returned answer =>
          rcases faults label with _ | fault
          · exact nextIH answer _
          · cases fault with
            | throws error => exact failedIH error _
            | stops => rfl

/-- With no fault the two readings of a program agree. -/
theorem exec_noFaults
    (program : Program State Key Expectation Label Error Result)
    (state : State) :
    program.exec (fun _ => none) state =
      (Outcome.ofExcept (program.run state).1, (program.run state).2) := by
  induction program generalizing state with
  | returned result => rfl
  | threw error => rfl
  | query statement next failed nextIH failedIH =>
      simp only [exec, run]
      cases statement.answer state with
      | ok answer => exact nextIH answer _
      | error error => exact failedIH error _
  | transaction label body next failed nextIH failedIH =>
      simp only [exec, run, Body.exec_noFaults]
      rcases body.run state with ⟨outcome, written⟩
      cases outcome with
      | ok answer => exact nextIH answer _
      | error error => exact failedIH error _

end Program

end CloudStudio.Transactions
