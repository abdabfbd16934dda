import CloudStudio.Transactions.Program

/-!
# Interleavings at READ COMMITTED

Any number of programs run against one database, one statement at a time.  A
statement inside a transaction sees the latest committed state with its own
transaction's changes on top, and waits while another transaction holds the lock
on a row it writes.  Commit makes the changes visible and releases the locks.

A schedule is a list of events.  Besides running the next statement of a thread,
an event may make that statement fail, or stop the thread for good; both undo
an open transaction that does not recover.
-/

namespace CloudStudio.Transactions

/-- A running call: between transactions, inside one with the changes it has
written so far, or stopped. -/
inductive Thread (State Key Expectation Label Error Result : Type) :
    Type 1 where
  | outside (program : Program State Key Expectation Label Error Result)
  | inside {Answer : Type}
      (body : Body State Key Expectation Label Error Answer)
      (written : State → State)
      (next : Answer → Program State Key Expectation Label Error Result)
      (failed : Error → Program State Key Expectation Label Error Result)
  | stopped

/-- How a thread has ended, if it has. -/
def Thread.outcome? {State Key Expectation Label Error Result : Type} :
    Thread State Key Expectation Label Error Result →
      Option (Outcome Error Result)
  | .outside (.returned result) => some (.returned result)
  | .outside (.threw error) => some (.threw error)
  | .stopped => some .stopped
  | _ => none

/-- The committed state, the transaction holding each row lock, and the
threads. -/
structure Config (Id State Key Expectation Label Error Result : Type) :
    Type 1 where
  state : State
  owner : Key → Option Id
  thread : Id → Thread State Key Expectation Label Error Result

/-- What the scheduler does next. -/
inductive Event (Id Error : Type) where
  | run (id : Id)
  | fail (id : Id) (error : Error)
  | stop (id : Id)

variable {Id State Key Expectation Label Error Result Answer : Type}

/-- The thread an event moves. -/
def Event.id : Event Id Error → Id
  | .run id => id
  | .fail id _ => id
  | .stop id => id

/-- No other transaction holds a lock on these rows. -/
def Free (owner : Key → Option Id) (id : Id) (keys : List Key) : Prop :=
  ∀ key ∈ keys, owner key = none ∨ owner key = some id

/-- Give the row locks to `id`. -/
def acquire [DecidableEq Key] (owner : Key → Option Id) (id : Id)
    (keys : List Key) : Key → Option Id :=
  fun key => if key ∈ keys then some id else owner key

/-- Drop every row lock of `id`. -/
def release [DecidableEq Id] (owner : Key → Option Id) (id : Id) :
    Key → Option Id :=
  fun key => if owner key = some id then none else owner key

instance [DecidableEq Id] (owner : Key → Option Id) (id : Id)
    (keys : List Key) : Decidable (Free owner id keys) :=
  inferInstanceAs (Decidable (∀ key ∈ keys, _))

/-- A lock of another transaction stays where it is. -/
theorem acquire_of_ne [DecidableEq Key] {owner : Key → Option Id}
    {id other : Id} {keys : List Key} {key : Key} (free : Free owner id keys)
    (owned : owner key = some other) (differ : other ≠ id) :
    acquire owner id keys key = some other := by
  unfold acquire
  split
  · rename_i member
    rcases free key member with unowned | own
    · rw [owned] at unowned
      cases unowned
    · rw [owned] at own
      exact absurd (Option.some.inj own) differ
  · exact owned

@[simp] theorem acquire_nil [DecidableEq Key] (owner : Key → Option Id)
    (id : Id) : acquire owner id [] = owner := by
  funext key
  simp [acquire]

theorem acquire_of_mem [DecidableEq Key] {owner : Key → Option Id} {id : Id}
    {keys : List Key} {key : Key} (member : key ∈ keys) :
    acquire owner id keys key = some id :=
  if_pos member

theorem acquire_of_own [DecidableEq Key] {owner : Key → Option Id} {id : Id}
    {keys : List Key} {key : Key} (owned : owner key = some id) :
    acquire owner id keys key = some id := by
  unfold acquire
  split
  · rfl
  · exact owned

theorem release_of_ne [DecidableEq Id] {owner : Key → Option Id} {id other : Id}
    {key : Key} (owned : owner key = some other) (differ : other ≠ id) :
    release owner id key = some other := by
  unfold release
  rw [owned, if_neg]
  exact fun equal => differ (Option.some.inj equal)

namespace Config

variable [DecidableEq Id] [DecidableEq Key]

/-- Every thread at the start of its program, no lock held. -/
def start (state : State)
    (program : Id → Program State Key Expectation Label Error Result) :
    Config Id State Key Expectation Label Error Result where
  state
  owner := fun _ => none
  thread := fun id => .outside (program id)

/-- Replace one thread. -/
def put (config : Config Id State Key Expectation Label Error Result) (id : Id)
    (thread : Thread State Key Expectation Label Error Result) :
    Config Id State Key Expectation Label Error Result :=
  { config with thread := Function.update config.thread id thread }

/-- Run the next statement of a thread.  A thread that has ended, or whose
statement waits for a row lock, does not move. -/
def advance (config : Config Id State Key Expectation Label Error Result)
    (id : Id) : Config Id State Key Expectation Label Error Result :=
  match config.thread id with
  | .outside (.query statement next failed) =>
      if Free config.owner id (statement.locks config.state) then
        match statement.answer config.state with
        | .ok answer =>
            { config.put id (.outside (next answer)) with
              state := statement.effect config.state config.state }
        | .error error => config.put id (.outside (failed error))
      else config
  | .outside (.transaction _ body next failed) =>
      config.put id (.inside body (fun state => state) next failed)
  | .inside (.query statement nextBody failedBody) written next failed =>
      if Free config.owner id (statement.locks (written config.state)) then
        match statement.answer (written config.state) with
        | .ok answer =>
            { config.put id (.inside (nextBody answer)
                (fun state =>
                  statement.effect (written config.state) (written state))
                next failed) with
              owner := acquire config.owner id
                (statement.locks (written config.state)) }
        | .error error =>
            config.put id (.inside (failedBody error) written next failed)
      else config
  | .inside (.returned answer) written next _ =>
      { config.put id (.outside (next answer)) with
        state := written config.state
        owner := release config.owner id }
  | .inside (.threw error) _ _ failed =>
      { config.put id (.outside (failed error)) with
        owner := release config.owner id }
  | _ => config

/-- Make the next statement, or the commit, of a thread fail. -/
def interrupt (config : Config Id State Key Expectation Label Error Result)
    (id : Id) (error : Error) :
    Config Id State Key Expectation Label Error Result :=
  match config.thread id with
  | .outside (.query _ _ failed) => config.put id (.outside (failed error))
  | .outside (.transaction _ _ _ failed) =>
      config.put id (.outside (failed error))
  | .inside (.query _ _ failedBody) written next failed =>
      config.put id (.inside (failedBody error) written next failed)
  | .inside (.returned _) _ _ failed =>
      { config.put id (.outside (failed error)) with
        owner := release config.owner id }
  | _ => config

/-- One event. -/
def step (config : Config Id State Key Expectation Label Error Result) :
    Event Id Error → Config Id State Key Expectation Label Error Result
  | .run id => config.advance id
  | .fail id error => config.interrupt id error
  | .stop id => { config.put id .stopped with owner := release config.owner id }

/-- A whole schedule. -/
def run (config : Config Id State Key Expectation Label Error Result)
    (schedule : List (Event Id Error)) :
    Config Id State Key Expectation Label Error Result :=
  schedule.foldl step config

/-- The statement an event runs meets the expectations in `assumed`. -/
def Meets (assumed : List Expectation)
    (config : Config Id State Key Expectation Label Error Result) :
    Event Id Error → Prop
  | .run id =>
      match config.thread id with
      | .outside (.query statement _ _) =>
          ∀ expectation ∈ assumed, statement.expects expectation config.state =
            true
      | .inside (.query statement _ _) written _ _ =>
          ∀ expectation ∈ assumed,
            statement.expects expectation (written config.state) = true
      | _ => True
  | _ => True

/-- Every statement the schedule runs meets the expectations in `assumed`. -/
def AsExpected (assumed : List Expectation)
    (config : Config Id State Key Expectation Label Error Result) :
    List (Event Id Error) → Prop
  | [] => True
  | event :: rest =>
      config.Meets assumed event ∧ (config.step event).AsExpected assumed rest

/-- The thread whose transaction an event commits. -/
def commits? (config : Config Id State Key Expectation Label Error Result) :
    Event Id Error → Option Id
  | .run id =>
      match config.thread id with
      | .inside (.returned _) _ _ _ => some id
      | _ => none
  | _ => none

/-- The threads that commit transactions, in order. -/
def committers (config : Config Id State Key Expectation Label Error Result) :
    List (Event Id Error) → List Id
  | [] => []
  | event :: rest =>
      (config.commits? event).toList ++ (config.step event).committers rest

instance (assumed : List Expectation)
    (config : Config Id State Key Expectation Label Error Result)
    (event : Event Id Error) : Decidable (config.Meets assumed event) := by
  unfold Meets
  split
  · split <;> infer_instance
  · infer_instance

/-- Whether a schedule is as expected can be computed. -/
instance decidableAsExpected (assumed : List Expectation)
    (config : Config Id State Key Expectation Label Error Result) :
    (schedule : List (Event Id Error)) →
      Decidable (config.AsExpected assumed schedule)
  | [] => isTrue trivial
  | event :: rest =>
      have := decidableAsExpected assumed (config.step event) rest
      inferInstanceAs (Decidable (_ ∧ _))

omit [DecidableEq Id] [DecidableEq Key] in
theorem meets_nil (config : Config Id State Key Expectation Label Error Result)
    (event : Event Id Error) : config.Meets [] event := by
  unfold Meets
  split
  · split <;> simp
  · trivial

/-- A schedule always meets the expectations when nothing is assumed. -/
theorem asExpected_nil
    (config : Config Id State Key Expectation Label Error Result)
    (schedule : List (Event Id Error)) : config.AsExpected [] schedule := by
  induction schedule generalizing config with
  | nil => trivial
  | cons event rest ih => exact ⟨config.meets_nil event, ih _⟩

@[simp] theorem run_nil
    (config : Config Id State Key Expectation Label Error Result) :
    config.run [] = config := rfl

@[simp] theorem run_cons
    (config : Config Id State Key Expectation Label Error Result)
    (event : Event Id Error) (rest : List (Event Id Error)) :
    config.run (event :: rest) = (config.step event).run rest := rfl

theorem run_append
    (config : Config Id State Key Expectation Label Error Result)
    (first second : List (Event Id Error)) :
    config.run (first ++ second) = (config.run first).run second :=
  List.foldl_append ..

theorem asExpected_append (assumed : List Expectation)
    (config : Config Id State Key Expectation Label Error Result)
    (first second : List (Event Id Error)) :
    config.AsExpected assumed (first ++ second) ↔
      config.AsExpected assumed first ∧
        (config.run first).AsExpected assumed second := by
  induction first generalizing config with
  | nil => simp [AsExpected]
  | cons event rest ih => simp [AsExpected, ih, and_assoc]

end Config

end CloudStudio.Transactions
