import CloudStudio.Data.Machines
import Mathlib.Data.Finset.Card

/-!
# The poll loop of one instance

`poll` is started by a timer, so one call may still wait for its claim when the
next one begins.  Every call goes on claiming while `inFlight` is below the
configured concurrency; each looks before its claim, and counts after it.  So
what is in flight can pass the concurrency by as many jobs as there are other
calls waiting, and by no more.
-/

namespace CloudStudio.Queue

open CloudStudio.Data.Machines

section

variable (Poll Job : Type)

/-- The fields of `IiiQueueService`, the calls of `poll` that wait for their
claim, and the calls of `process` that have not settled. -/
structure PollState where
  inFlight : ℤ := 0
  stopping : Bool := false
  claiming : Finset Poll := ∅
  processing : Finset Job := ∅

inductive PollEvent where
  /-- The timer calls `poll`. -/
  | poll (call : Poll)
  /-- `claim` returns a job. -/
  | claimed (call : Poll) (job : Job)
  /-- `claim` returns null: no job is due, or its statement failed. -/
  | unclaimed (call : Poll)
  /-- `process` has settled. -/
  | settled (job : Job)
  /-- `onModuleDestroy`. -/
  | stop

end

section

variable {Poll Job : Type} [DecidableEq Poll] [DecidableEq Job]
  (concurrency : ℕ)

/-- The condition of the loop, on to the next claim. -/
def PollState.loop (call : Poll) (state : PollState Poll Job) :
    PollState Poll Job :=
  if state.inFlight < concurrency ∧ state.stopping = false then
    { state with claiming := insert call state.claiming }
  else state

def PollState.stops (call : Poll) (state : PollState Poll Job) :
    PollState Poll Job :=
  { state with claiming := state.claiming.erase call }

def PollState.processes (job : Job) (state : PollState Poll Job) :
    PollState Poll Job :=
  { state with inFlight := state.inFlight + 1, processing := insert job state.processing }

/-- One step of the instance.  A `poll` that finds it stopping returns, as its
loop would. -/
inductive PollStep :
    PollState Poll Job → PollEvent Poll Job → PollState Poll Job → Prop where
  | poll (state : PollState Poll Job) (call : Poll) :
      call ∉ state.claiming →
        PollStep state (.poll call) (state.loop concurrency call)
  | claimed (state : PollState Poll Job) (call : Poll) (job : Job) :
      call ∈ state.claiming → job ∉ state.processing →
      PollStep state (.claimed call job)
        (((state.stops call).processes job).loop concurrency call)
  | unclaimed (state : PollState Poll Job) (call : Poll) :
      call ∈ state.claiming →
        PollStep state (.unclaimed call) (state.stops call)
  | settled (state : PollState Poll Job) (job : Job) :
      job ∈ state.processing →
      PollStep state (.settled job)
        { state with
          inFlight := state.inFlight - 1
          processing := state.processing.erase job }
  | stop (state : PollState Poll Job) :
      PollStep state .stop { state with stopping := true }

/-- At most this many calls wait for their claim at a time. -/
def Overlapping (overlap : ℕ) :
    Step (PollState Poll Job) (PollEvent Poll Job) :=
  fun state event following =>
    PollStep concurrency state event following ∧
      following.claiming.card ≤ overlap

/-- There is nothing in hand, or there is a slot and fewer jobs in hand than
slots and calls that wait for their claim. -/
def Fits (overlap jobs : ℕ) : Prop :=
  jobs = 0 ∨ 0 < concurrency ∧ jobs < concurrency + overlap

/-- The counter is what it says, and what may still be claimed has its place. -/
structure WithinSlots (overlap : ℕ) (state : PollState Poll Job) : Prop where
  counted : state.inFlight = state.processing.card
  room : Fits concurrency overlap (state.processing.card + state.claiming.card)

variable {concurrency} {overlap : ℕ} {state following : PollState Poll Job}

theorem Fits.fewer {few many : ℕ} (fits : Fits concurrency overlap many)
    (fewer : few ≤ many) : Fits concurrency overlap few := by
  unfold Fits at fits ⊢
  omega

omit [DecidableEq Job] in
/-- A call that goes on to its claim has seen a free slot. -/
theorem WithinSlots.loop {call : Poll}
    (counted : state.inFlight = state.processing.card)
    (room : Fits concurrency overlap
      (state.processing.card + state.claiming.card))
    (few : (state.loop concurrency call).claiming.card ≤ overlap) :
    WithinSlots concurrency overlap (state.loop concurrency call) := by
  unfold PollState.loop at few ⊢
  split
  · rename_i free
    rw [if_pos free] at few
    have below : state.processing.card < concurrency := by
      have free := free.1
      rw [counted] at free
      exact_mod_cast free
    refine ⟨counted, .inr ?_⟩
    simp only at few ⊢
    omega
  · exact ⟨counted, room⟩

theorem WithinSlots.next {event : PollEvent Poll Job}
    (within : WithinSlots concurrency overlap state)
    (taken : Overlapping concurrency overlap state event following) :
    WithinSlots concurrency overlap following := by
  obtain ⟨taken, few⟩ := taken
  cases taken with
  | poll call outside => exact .loop within.counted within.room few
  | claimed call job waiting fresh =>
      have fewer := Finset.card_erase_add_one waiting
      have more := Finset.card_insert_of_notMem fresh
      refine .loop ?_ ?_ few
      · simp only [PollState.processes, PollState.stops, more, within.counted]
        push_cast
        rfl
      · apply within.room.fewer
        simp only [PollState.processes, PollState.stops, more]
        omega
  | unclaimed call waiting =>
      refine ⟨within.counted, within.room.fewer ?_⟩
      exact Nat.add_le_add_left Finset.card_erase_le _
  | settled job running =>
      have fewer := Finset.card_erase_add_one running
      have counted := within.counted
      refine ⟨?_,
        within.room.fewer (Nat.add_le_add_right Finset.card_erase_le _)⟩
      simp only
      rw [counted]
      omega
  | stop => exact ⟨within.counted, within.room⟩

def PollState.Stopping (state : PollState Poll Job) : Prop :=
  state.stopping = true

/-- A job that is taken on. -/
def PollEvent.takes : PollEvent Poll Job → ℕ
  | .claimed _ _ => 1
  | _ => 0

/-- Once it is stopping, an instance takes on what its waiting calls claim, and
nothing else. -/
theorem stopping_next {event : PollEvent Poll Job} (stopping : state.Stopping)
    (taken : PollStep concurrency state event following) :
    following.Stopping ∧
      following.claiming.card + event.takes ≤ state.claiming.card + 0 := by
  have stays (between : PollState Poll Job) (call : Poll)
    (stops : between.stopping = true) :
      between.loop concurrency call = between := by
    unfold PollState.loop
    rw [if_neg (by simp [stops])]
  cases taken with
  | poll call outside =>
      rw [stays state call stopping]
      exact ⟨stopping, Nat.le_refl _⟩
  | claimed call job waiting fresh =>
      have fewer := Finset.card_erase_add_one waiting
      rw [stays _ call (show (state.stops call |>.processes job).stopping = true from stopping)]
      exact ⟨stopping, fewer.le⟩
  | unclaimed call waiting => exact ⟨stopping, Finset.card_erase_le⟩
  | settled job running => exact ⟨stopping, Nat.le_refl _⟩
  | stop => exact ⟨rfl, Nat.le_refl _⟩

/-- What holds of an instance after any run. -/
structure PollSafe (concurrency overlap : ℕ) (state : PollState Poll Job) :
    Prop where
  /-- The counter is the number of jobs in hand. -/
  counted : state.inFlight = state.processing.card
  /-- They pass the concurrency by the calls beyond one that wait at a time, and
  without a slot there are none. -/
  bounded : Fits concurrency overlap state.processing.card
  /-- After `onModuleDestroy` only the calls that wait then take on a job each. -/
  stopped : ∀ later final, Run (PollStep concurrency) state later final →
    state.Stopping → (later.map PollEvent.takes).sum ≤ state.claiming.card

/-- Whatever the order of timers, claims and ends of jobs. -/
theorem poll_safe {events : List (PollEvent Poll Job)}
    (run : Run (Overlapping concurrency overlap) {} events state) :
    PollSafe concurrency overlap state := by
  have start : WithinSlots concurrency overlap ({} : PollState Poll Job) :=
    ⟨rfl, .inl rfl⟩
  have within : WithinSlots concurrency overlap state :=
    run.keeps start fun _ _ _ within taken => within.next taken
  refine ⟨within.counted, within.room.fewer (Nat.le_add_right _ _), ?_⟩
  intro later final continues stopping
  have paid : final.claiming.card + (later.map PollEvent.takes).sum ≤
      state.claiming.card + (later.map fun _ => 0).sum := by
    apply continues.within_store stopping
    · exact fun _ _ _ stopping taken => (stopping_next stopping taken).1
    · exact fun _ _ _ stopping taken => (stopping_next stopping taken).2
  have nothing : (later.map fun _ => 0).sum = 0 := by simp
  omega

end

/-- With one slot, two calls that wait at a time take on two jobs. -/
theorem poll_safe_overlapping :
    ∃ state : PollState ℕ ℕ, state.inFlight = 2 ∧ PollSafe 1 2 state := by
  have run : Run (Overlapping 1 2) ({} : PollState ℕ ℕ) [.poll 0] _ :=
    .single ⟨.poll _ 0 (by decide), by decide⟩
  have run := run.next ⟨.poll _ 1 (by decide), by decide⟩
  have run := run.next ⟨.claimed _ 0 7 (by decide) (by decide), by decide⟩
  have run := run.next ⟨.claimed _ 1 8 (by decide) (by decide), by decide⟩
  exact ⟨_, by decide, poll_safe run⟩

end CloudStudio.Queue
