import CloudStudio.Data.Machines
import Mathlib.Data.Finset.Card
import Mathlib.Logic.Function.Basic

/-!
# The cron registry

`IiiCronService.fire`, called by the timers of every registered entry.  A name
is marked as running before its handler starts and unmarked when the handler has
settled, whether it returned or threw.  So the runs of one name come one after
another, and no failure keeps the next one from starting.
-/

namespace CloudStudio.Queue.Cron

open CloudStudio.Data.Machines

/-- Where one call of `fire` stands. -/
inductive FirePhase where
  | waiting
  | skipped
  | handling (name : String)
  | ended
  deriving DecidableEq

inductive CronEvent where
  /-- The handler is started. -/
  | started (name : String)
  /-- The name is running: never overlap. -/
  | skipped (name : String)
  /-- The handler has settled. -/
  | settled (name : String) (failed : Bool)
  deriving DecidableEq

structure CronState (Firing : Type) where
  running : Finset String := ∅
  firings : Firing → FirePhase := fun _ => .waiting

section

variable {Firing : Type} [DecidableEq Firing]

def CronState.enter (state : CronState Firing) (firing : Firing)
    (running : Finset String) (phase : FirePhase) : CronState Firing :=
  { running, firings := Function.update state.firings firing phase }

inductive CronStep :
    CronState Firing → Firing × CronEvent → CronState Firing → Prop where
  | started (state : CronState Firing) (firing : Firing) (name : String) :
      state.firings firing = .waiting → name ∉ state.running →
      CronStep state (firing, .started name)
        (state.enter firing (insert name state.running) (.handling name))
  | skipped (state : CronState Firing) (firing : Firing) (name : String) :
      state.firings firing = .waiting → name ∈ state.running →
      CronStep state (firing, .skipped name)
        (state.enter firing state.running .skipped)
  | settled (state : CronState Firing) (firing : Firing) (name : String)
      (failed : Bool) : state.firings firing = .handling name →
      CronStep state (firing, .settled name failed)
        (state.enter firing (state.running.erase name) .ended)

/-- The event starts, or ends, a run of the handler of this name. -/
def CronEvent.starts (name : String) : CronEvent → Bool
  | .started other => other = name
  | _ => false

def CronEvent.ends (name : String) : CronEvent → Bool
  | .settled other _ => other = name
  | _ => false

def startsOf (name : String) (events : List (Firing × CronEvent)) : ℕ :=
  events.countP fun event => event.2.starts name

def endsOf (name : String) (events : List (Firing × CronEvent)) : ℕ :=
  events.countP fun event => event.2.ends name

variable {state following : CronState Firing}
  {events : List (Firing × CronEvent)}

theorem firings_enter (firing other : Firing) (running : Finset String)
    (phase : FirePhase) :
    (state.enter firing running phase).firings other =
      if other = firing then phase else state.firings other := by
  simp only [CronState.enter, Function.update_apply]

omit [DecidableEq Firing] in
theorem startsOf_append (name : String) (event : Firing × CronEvent) :
    startsOf name (events ++ [event]) =
      startsOf name events + if event.2.starts name then 1 else 0 := by
  rw [startsOf, List.countP_append, List.countP_singleton]
  rfl

omit [DecidableEq Firing] in
theorem endsOf_append (name : String) (event : Firing × CronEvent) :
    endsOf name (events ++ [event]) = endsOf name events + if event.2.ends
      name then 1 else 0 := by
  rw [endsOf, List.countP_append, List.countP_singleton]
  rfl

/-- The marked names are those with a handler at work, and each has one. -/
structure Marked (events : List (Firing × CronEvent))
    (state : CronState Firing) : Prop where
  alone : ∀ firing other name, state.firings firing = .handling name →
    state.firings other = .handling name → firing = other
  marked : ∀ name, name ∈ state.running ↔ ∃ firing,
    state.firings firing = .handling name
  turns : ∀ name, startsOf name events =
    endsOf name events + if name ∈ state.running then 1 else 0

theorem Marked.started {firing : Firing} {name : String}
    (marked : Marked events state) (free : name ∉ state.running)
    (waiting : state.firings firing = .waiting) :
    Marked (events ++ [(firing, .started name)])
      (state.enter firing (insert name state.running) (.handling name)) := by
  have nobody (other : Firing) : state.firings other ≠ .handling name :=
    fun handling =>
    free ((marked.marked name).mpr ⟨other, handling⟩)
  constructor
  · intro first second which
    rw [firings_enter, firings_enter]
    split <;> split
    · rename_i same same'
      exact fun _ _ => same.trans same'.symm
    · rintro ⟨⟩ handling
      exact absurd handling (nobody second)
    · rintro handling ⟨⟩
      exact absurd handling (nobody first)
    · exact marked.alone first second which
  · intro which
    simp only [firings_enter]
    rw [CronState.enter, Finset.mem_insert, marked.marked which]
    constructor
    · rintro (rfl | ⟨other, handling⟩)
      · exact ⟨firing, if_pos rfl⟩
      · refine ⟨other, ?_⟩
        rw [if_neg, handling]
        rintro rfl
        rw [waiting] at handling
        cases handling
    · rintro ⟨other, handling⟩
      split at handling
      · cases handling
        exact .inl rfl
      · exact .inr ⟨other, handling⟩
  · intro which
    have turns := marked.turns which
    rw [startsOf_append, endsOf_append, turns]
    by_cases same : name = which
    · subst same
      simp [CronEvent.starts, CronEvent.ends, CronState.enter, free]
    · simp [CronEvent.starts, CronEvent.ends, CronState.enter,
        same, Ne.symm same]

theorem Marked.settled {firing : Firing} {name : String}
    (marked : Marked events state) (failed : Bool)
    (handling : state.firings firing = .handling name) :
    Marked (events ++ [(firing, .settled name failed)])
      (state.enter firing (state.running.erase name) .ended) := by
  have listed : name ∈ state.running :=
    (marked.marked name).mpr ⟨firing, handling⟩
  constructor
  · intro first second which
    rw [firings_enter, firings_enter]
    split <;> split
    · nofun
    · nofun
    · nofun
    · exact marked.alone first second which
  · intro which
    simp only [firings_enter]
    rw [CronState.enter, Finset.mem_erase, marked.marked which]
    constructor
    · rintro ⟨other, first, at_⟩
      refine ⟨first, ?_⟩
      rw [if_neg, at_]
      rintro rfl
      rw [handling] at at_
      cases at_
      exact other rfl
    · rintro ⟨first, at_⟩
      split at at_
      · cases at_
      · rename_i apart
        refine ⟨?_, first, at_⟩
        rintro rfl
        exact apart (marked.alone first firing which at_ handling)
  · intro which
    have turns := marked.turns which
    rw [startsOf_append, endsOf_append, turns]
    by_cases same : name = which
    · subst same
      simp [CronEvent.starts, CronEvent.ends, CronState.enter, listed]
    · simp [CronEvent.starts, CronEvent.ends, CronState.enter,
        same, Ne.symm same]

theorem Marked.next {event : Firing × CronEvent} (marked : Marked events state)
    (taken : CronStep state event following) :
    Marked (events ++ [event]) following := by
  cases taken with
  | started firing name waiting free => exact marked.started free waiting
  | skipped firing name waiting listed =>
      have kept (other : Firing) (which : String) :
          (state.enter firing state.running .skipped).firings other =
            .handling which ↔ state.firings other = .handling which := by
        rw [firings_enter]
        split
        · rename_i same
          rw [same, waiting]
          simp
        · rfl
      constructor
      · intro first second which
        rw [kept, kept]
        exact marked.alone first second which
      · intro which
        simp only [kept]
        exact marked.marked which
      · intro which
        rw [startsOf_append, endsOf_append]
        exact marked.turns which
  | settled firing name failed handling => exact marked.settled failed handling

/-- What holds of the registry after any run. -/
structure CronSafe (events : List (Firing × CronEvent))
    (state : CronState Firing) : Prop where
  /-- Never overlap. -/
  alone : ∀ firing other name, state.firings firing = .handling name →
    state.firings other = .handling name → firing = other
  /-- Every run of a name has ended before the next one starts. -/
  turns : ∀ name earlier later, events = earlier ++ later →
    endsOf name earlier ≤ startsOf name earlier ∧
      startsOf name earlier ≤ endsOf name earlier + 1
  /-- A tick starts the handler unless it is at work, however its last run
  ended. -/
  again : ∀ firing name, state.firings firing = .waiting →
    ((∃ following, CronStep state (firing, .started name) following) ↔
      ∀ other, state.firings other ≠ .handling name)

/-- Whatever the order of ticks, and whichever handlers throw. -/
theorem cron_safe (run : Run CronStep {} events state) :
    CronSafe events state := by
  have start : Marked ([] : List (Firing × CronEvent)) {} :=
    ⟨nofun, fun name => by simp, fun name => by simp [startsOf, endsOf]⟩
  have reached {events : List (Firing × CronEvent)} {state : CronState Firing}
      (run : Run CronStep {} events state) : Marked events state :=
    run.invariant start fun _ _ _ _ marked taken => marked.next taken
  refine ⟨(reached run).alone, fun name earlier later parts => ?_,
    fun firing name waiting => ?_⟩
  · obtain ⟨middle, before, _⟩ := run.split parts
    have turns := (reached before).turns name
    split at turns <;> omega
  · constructor
    · rintro ⟨_, taken⟩ other handling
      cases taken with
      | started _ _ _ free =>
          exact free (((reached run).marked name).mpr ⟨other, handling⟩)
    · intro nobody
      refine ⟨_, .started state firing name waiting fun listed => ?_⟩
      obtain ⟨other, handling⟩ := ((reached run).marked name).mp listed
      exact nobody other handling

end

/-- A handler that throws, a tick that is skipped, and a tick after it. -/
theorem cron_safe_poll :
    ∃ state : CronState ℕ, CronSafe [(0, .started "poll"), (1, .skipped "poll"),
      (0, .settled "poll" true), (2, .started "poll")] state := by
  have run : Run CronStep ({} : CronState ℕ) [(0, .started "poll")] _ :=
    .single (.started _ 0 "poll" rfl (by decide))
  have run := run.next (.skipped _ 1 "poll" rfl (by decide))
  have run := run.next (.settled _ 0 "poll" true rfl)
  have run := run.next (.started _ 2 "poll" rfl (by decide))
  exact ⟨_, cron_safe run⟩

end CloudStudio.Queue.Cron
