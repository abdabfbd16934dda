import Mathlib.Data.List.Induction
import Mathlib.Data.List.TakeWhile
import CloudStudio.Transactions.Commitments

/-!
# What a thread reads first

A request is checked once, by its first statement.  `firstMet` is the state that
this statement meets.  A run goes as if the statement had always answered what
it answers there, so what follows from that answer can be shown of the program
alone.
-/

namespace CloudStudio.Transactions

open Function

variable {Id State Key Expectation Label Error Result : Type}

/-- The same program, whose first statement answers as it does in `met`. -/
def Program.answering (met : State) :
    Program State Key Expectation Label Error Result →
      Program State Key Expectation Label Error Result
  | .query statement next failed =>
      .query { statement with answer := fun _ => statement.answer met } next
        failed
  | program => program

/-- The first statement takes no lock, so it never waits. -/
def Program.StartsUnlocked :
    Program State Key Expectation Label Error Result → Prop
  | .query statement _ _ => ∀ state, statement.locks state = []
  | _ => True

namespace Config

variable [DecidableEq Id] [DecidableEq Key]

/-- The state in which a thread runs its first statement. -/
def firstMet (config : Config Id State Key Expectation Label Error Result)
    (schedule : List (Event Id Error)) (id : Id) : State :=
  (config.run (schedule.takeWhile fun event => event.id ≠ id)).state

/-- The two runs have come to the same state; the threads that have not started
stand before their programs. -/
structure Follows
    (program answered : Id → Program State Key Expectation Label Error Result)
    (started : Id → Prop)
    (config config' : Config Id State Key Expectation Label Error Result) :
    Prop where
  state : config'.state = config.state
  owner : config'.owner = config.owner
  running : ∀ id, started id → config'.thread id = config.thread id
  waiting : ∀ id, ¬ started id → config.thread id = .outside (program id) ∧
    config'.thread id = .outside (answered id)

variable
  {program answered : Id → Program State Key Expectation Label Error Result}
variable {started : Id → Prop}
  {config config' : Config Id State Key Expectation Label Error Result}

/-- A step depends on the state, the locks and the thread it moves. -/
theorem step_congr {event : Event Id Error}
    (state : config'.state = config.state)
    (owner : config'.owner = config.owner)
    (thread : config'.thread event.id = config.thread event.id) :
    (config'.step event).state = (config.step event).state ∧
      (config'.step event).owner = (config.step event).owner ∧
      (config'.step event).thread event.id =
        (config.step event).thread event.id := by
  obtain ⟨world, locks, threads⟩ := config
  obtain ⟨world', locks', threads'⟩ := config'
  dsimp only at state owner thread
  subst state owner
  cases event with
  | run id =>
      simp only [Event.id] at thread ⊢
      simp only [step, advance, thread]
      split
      · split
        · split <;> simp [put]
        · exact ⟨rfl, rfl, thread⟩
      · simp [put]
      · split
        · split <;> simp [put]
        · exact ⟨rfl, rfl, thread⟩
      · simp [put]
      · simp [put]
      · exact ⟨rfl, rfl, thread⟩
  | fail id error =>
      simp only [Event.id] at thread ⊢
      simp only [step, interrupt, thread]
      split <;> first | exact ⟨rfl, rfl, thread⟩ | simp [put]
  | stop id => simp [step, put, Event.id]

/-- The first step of a thread whose first statement answers as in the state it
meets. -/
theorem step_answering {event : Event Id Error}
    (state : config'.state = config.state)
    (owner : config'.owner = config.owner)
    {first : Program State Key Expectation Label Error Result}
    (unlocked : first.StartsUnlocked)
    (thread : config.thread event.id = .outside first)
    (thread' : config'.thread event.id =
      .outside (first.answering config.state)) :
    (config'.step event).state = (config.step event).state ∧
      (config'.step event).owner = (config.step event).owner ∧
      (config'.step event).thread event.id =
        (config.step event).thread event.id := by
  cases first with
  | returned _ => exact step_congr state owner (thread'.trans thread.symm)
  | threw _ => exact step_congr state owner (thread'.trans thread.symm)
  | transaction _ _ _ _ =>
      exact step_congr state owner (thread'.trans thread.symm)
  | query statement next failed =>
      have free :
        Free config.owner event.id (statement.locks config.state) := by
        rw [unlocked]
        simp [Free]
      simp only [Program.answering] at thread'
      cases event with
      | run id =>
          simp only [Event.id] at thread thread' free ⊢
          simp only [step, advance, thread, thread', state, owner, if_pos free]
          split <;> simp [put, owner, state]
      | fail id error =>
          simp only [Event.id] at thread thread' ⊢
          simp [step, interrupt, thread, thread', put, owner, state]
      | stop id => simp [step, put, Event.id, owner, state]

/-- One step: its thread has started then. -/
theorem Follows.step (follows : Follows program answered started config config')
    (event : Event Id Error)
    (answers : ¬ started event.id → answered event.id = program event.id ∨
      (program event.id).StartsUnlocked ∧
        answered event.id = (program event.id).answering config.state) :
    Follows program answered (fun id => started id ∨ event.id = id)
      (config.step event) (config'.step event) := by
  have moved : (config'.step event).state = (config.step event).state ∧
      (config'.step event).owner = (config.step event).owner ∧
      (config'.step event).thread event.id =
        (config.step event).thread event.id := by
    by_cases before : started event.id
    · exact step_congr follows.state follows.owner (follows.running _ before)
    · obtain ⟨thread, thread'⟩ := follows.waiting _ before
      rcases answers before with same | ⟨unlocked, same⟩
      · rw [same] at thread'
        exact step_congr follows.state follows.owner (thread'.trans thread.symm)
      · rw [same] at thread'
        exact step_answering follows.state follows.owner unlocked thread thread'
  refine ⟨moved.1, moved.2.1, fun id begun => ?_, fun id waits => ?_⟩
  · by_cases mover : id = event.id
    · subst mover
      exact moved.2.2
    · rw [step_thread_of_ne event mover, step_thread_of_ne event mover]
      exact follows.running id (begun.resolve_right fun same => mover same.symm)
  · have mover : id ≠ event.id := fun same => waits (.inr same.symm)
    rw [step_thread_of_ne event mover, step_thread_of_ne event mover]
    exact follows.waiting id fun begun => waits (.inl begun)

variable {start : State} {schedule : List (Event Id Error)}

/-- Whole runs, when the first statements answer as they do in the states they
meet. -/
theorem follows_run (answers : ∀ id, answered id = program id ∨
      (program id).StartsUnlocked ∧ answered id = (program id).answering
        ((Config.start start program).firstMet schedule id)) :
    Follows program answered (fun id => ∃ event ∈ schedule, event.id = id)
      ((Config.start start program).run schedule)
      ((Config.start start answered).run schedule) := by
  suffices prefixes : ∀ first rest, first ++ rest = schedule →
      Follows program answered (fun id => ∃ event ∈ first, event.id = id)
        ((Config.start start program).run first)
        ((Config.start start answered).run first) from
    prefixes schedule [] (List.append_nil _)
  intro first
  induction first using List.reverseRecOn with
  | nil =>
      intro _ _
      exact ⟨rfl, rfl, fun _ begun => by simp at begun, fun _ _ => ⟨rfl, rfl⟩⟩
  | append_singleton earlier event ih =>
      intro rest whole
      have whole' : earlier ++ (event :: rest) = schedule := by
        simpa using whole
      have stepped := (ih (event :: rest) whole').step event fun absent => by
        refine (answers event.id).imp_right fun primed => ⟨primed.1, ?_⟩
        have met : schedule.takeWhile (fun other => other.id ≠ event.id) =
          earlier := by
          rw [← whole', List.takeWhile_append_of_pos,
            List.takeWhile_cons_of_neg, List.append_nil]
          · simp
          · intro other member
            exact decide_eq_true fun same => absent ⟨other, member, same⟩
        rw [primed.2, firstMet, met]
      simpa [run_append, or_comm, List.mem_append, or_and_right,
        exists_or] using stepped

/-- The step after such a run. -/
theorem step_follows (answers : ∀ id, answered id = program id ∨
      (program id).StartsUnlocked ∧ answered id = (program id).answering
        ((Config.start start program).firstMet schedule id))
    (event : Event Id Error) :
    (((Config.start start answered).run schedule).step event).state =
      (((Config.start start program).run schedule).step event).state := by
  refine ((follows_run answers).step event fun absent => ?_).state
  refine (answers event.id).imp_right fun primed => ⟨primed.1, ?_⟩
  have met : schedule.takeWhile (fun other => other.id ≠ event.id) = schedule :=
    List.takeWhile_eq_self_iff.mpr fun other member =>
      decide_eq_true fun same => absent ⟨other, member, same⟩
  rw [primed.2, firstMet, met]

end Config

end CloudStudio.Transactions
