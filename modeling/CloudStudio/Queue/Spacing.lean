import CloudStudio.Queue.Workers

/-!
# The spacing of payout creation

The provider takes one payout create per merchant and interval.
`processPayoutJob` sleeps for the interval before its request, `processBatchJob`
after each of its requests, and the queue runs handlers of both kinds side by
side.  Here the handlers of `Payouts.Jobs` have a clock: what they read, what
the provider answers and how long anything takes are left open, and a request is
noted when it is sent.
-/

namespace CloudStudio.Queue

open CloudStudio.Platform CloudStudio.Payouts

/-- `mockProviders ? 0 : clickpesa.payoutMinIntervalMs`. -/
def spacingMs (mockProviders : Bool) (payoutMinIntervalMs : ℕ) : ℕ :=
  if mockProviders then 0 else payoutMinIntervalMs

/-- Where a handler stands.  `waited` is when the wait began that lies behind
the next request, if there was one. -/
inductive Handler where
  /-- Before `payout.findUnique`. -/
  | payoutReads (payoutId : Reference)
  | payoutWaits (payoutId : Reference) (since : Time)
  | payoutCalls (payoutId : Reference) (waited : Option Time) (retried : Bool)
  | payoutUpdates (payoutId : Reference)
  /-- At the head of the loop. -/
  | batchReads (waited : Option Time) (payoutIds : List Reference)
  | batchCalls (payoutId : Reference) (waited : Option Time) (retried : Bool)
      (payoutIds : List Reference)
  | batchUpdates (payoutId : Reference) (payoutIds : List Reference)
  | batchWaits (since : Time) (payoutIds : List Reference)
  /-- In the handler of another queue. -/
  | elsewhere
  | returned
  | threw

/-- The handler that is registered for a job. -/
def handlerOf : JobPayload → Handler
  | .payoutProcess payoutId => .payoutReads payoutId
  | .batchProcess _ payoutIds => .batchReads none payoutIds
  | .smsSend _ | .webhookDeliver _ => .elsewhere

/-- The wait that is on, or that lies behind the next request. -/
def Handler.waited : Handler → Option Time
  | .payoutWaits _ since | .batchWaits since _ => some since
  | .payoutCalls _ waited _ | .batchReads waited _ | .batchCalls _ waited _ _ =>
      waited
  | .payoutReads _ | .payoutUpdates _ | .batchUpdates _
      _ | .elsewhere | .returned
  | .threw => none

/-- Nothing but a timer ends this state. -/
def Handler.asleep : Handler → Bool
  | .payoutWaits _ _ | .batchWaits _ _ => true
  | _ => false

/-- A step of a handler at a time, and whether it sends a create request.
`request` repeats a request once when the answer is `401`. -/
inductive HandlerStep (spacing : ℕ) (now : Time) :
    Handler → Bool → Handler → Prop where
  /-- There is no such payout, or it is not pending. -/
  | payoutSkips (payoutId : Reference) :
      HandlerStep spacing now (.payoutReads payoutId) false .returned
  | payoutReads (payoutId : Reference) : 0 < spacing →
      HandlerStep spacing now (.payoutReads payoutId) false
        (.payoutWaits payoutId now)
  | payoutReadsUnspaced (payoutId : Reference) : spacing = 0 →
      HandlerStep spacing now (.payoutReads payoutId) false
        (.payoutCalls payoutId none false)
  | payoutWakes (payoutId : Reference) (since : Time) : since + spacing ≤ now →
      HandlerStep spacing now (.payoutWaits payoutId since) false
        (.payoutCalls payoutId (some since) false)
  /-- No credentials, or no token. -/
  | payoutNotSent (payoutId : Reference) (waited : Option Time)
      (retried : Bool) :
      HandlerStep spacing now (.payoutCalls payoutId waited retried) false
        (.payoutUpdates payoutId)
  | payoutSends (payoutId : Reference) (waited : Option Time) (retried : Bool) :
      HandlerStep spacing now (.payoutCalls payoutId waited retried) true
        (.payoutUpdates payoutId)
  | payoutUnauthorized (payoutId : Reference) (waited : Option Time) :
      HandlerStep spacing now (.payoutCalls payoutId waited false) true
        (.payoutCalls payoutId none true)
  | payoutUpdated (payoutId : Reference) :
      HandlerStep spacing now (.payoutUpdates payoutId) false .returned
  | batchEnds (waited : Option Time) :
      HandlerStep spacing now (.batchReads waited []) false .returned
  /-- `continue`. -/
  | batchSkips (waited : Option Time) (payoutId : Reference)
      (payoutIds : List Reference) :
      HandlerStep spacing now (.batchReads waited (payoutId :: payoutIds)) false
        (.batchReads waited payoutIds)
  | batchReads (waited : Option Time) (payoutId : Reference)
      (payoutIds : List Reference) :
      HandlerStep spacing now (.batchReads waited (payoutId :: payoutIds)) false
        (.batchCalls payoutId waited false payoutIds)
  | batchNotSent (payoutId : Reference) (waited : Option Time) (retried : Bool)
      (payoutIds : List Reference) :
      HandlerStep spacing now (.batchCalls payoutId waited retried payoutIds)
        false (.batchUpdates payoutId payoutIds)
  | batchSends (payoutId : Reference) (waited : Option Time) (retried : Bool)
      (payoutIds : List Reference) :
      HandlerStep spacing now (.batchCalls payoutId waited retried payoutIds)
        true (.batchUpdates payoutId payoutIds)
  | batchUnauthorized (payoutId : Reference) (waited : Option Time)
      (payoutIds : List Reference) :
      HandlerStep spacing now (.batchCalls payoutId waited false payoutIds) true
        (.batchCalls payoutId none true payoutIds)
  | batchUpdated (payoutId : Reference) (payoutIds : List Reference) :
      0 < spacing →
      HandlerStep spacing now (.batchUpdates payoutId payoutIds) false
        (.batchWaits now payoutIds)
  | batchUpdatedUnspaced (payoutId : Reference) (payoutIds : List Reference) :
      spacing = 0 →
      HandlerStep spacing now (.batchUpdates payoutId payoutIds) false
        (.batchReads none payoutIds)
  | batchWakes (since : Time) (payoutIds : List Reference) :
      since + spacing ≤ now →
      HandlerStep spacing now (.batchWaits since payoutIds) false
        (.batchReads (some since) payoutIds)
  | elsewhereReturns : HandlerStep spacing now .elsewhere false .returned
  /-- A database statement fails; what fails in `request` is its answer. -/
  | throws (handler : Handler) : handler ≠ .returned → handler.asleep = false →
      HandlerStep spacing now handler false .threw

/-- A request needs no more waiting, and none lies behind the next. -/
theorem HandlerStep.sends {spacing now : ℕ} {handler next : Handler}
    (steps : HandlerStep spacing now handler true next) :
    handler.asleep = false ∧ next.waited = none := by
  cases steps <;> exact ⟨rfl, rfl⟩

/-- Without a request, the wait is one that begins now or the one there was; the
timer ends it no sooner than the interval is over. -/
theorem HandlerStep.waits {spacing now : ℕ} {handler next : Handler}
    (steps : HandlerStep spacing now handler false next) {since : Time}
    (waited : next.waited = some since) :
    (since = now ∧ next.asleep = true) ∨
      (handler.waited = some since ∧
        (next.asleep = false → handler.asleep = false ∨
          since + spacing ≤ now)) := by
  cases steps with
  | payoutReads payoutId _ => exact .inl ⟨(Option.some.inj waited).symm, rfl⟩
  | batchUpdated payoutId payoutIds _ =>
      exact .inl ⟨(Option.some.inj waited).symm, rfl⟩
  | payoutWakes payoutId began slept =>
      obtain rfl : began = since := Option.some.inj waited
      exact .inr ⟨rfl, fun _ => .inr slept⟩
  | batchWakes began payoutIds slept =>
      obtain rfl : began = since := Option.some.inj waited
      exact .inr ⟨rfl, fun _ => .inr slept⟩
  | batchSkips | batchReads => exact .inr ⟨waited, fun _ => .inl rfl⟩
  | _ => cases waited

/-- A create request that was sent. -/
structure CreateCall (Worker : Type) where
  worker : Worker
  sentAt : Time

/-- The queue, where the handler of each worker stands, and the requests so
far. -/
structure TimedState (Worker : Type) where
  queue : QueueState Worker := {}
  handlers : Worker → Handler := fun _ => .returned
  clock : Time := 0
  calls : List (CreateCall Worker) := []

inductive TimedEvent (Worker : Type) where
  | queue (now : Time) (event : QueueEvent Worker)
  | handler (now : Time) (worker : Worker) (sends : Bool)

section

variable {Worker : Type} [DecidableEq Worker]

/-- The queue goes on with a job when its handler is done with it. -/
def TimedState.Permits (state : TimedState Worker) : QueueEvent Worker → Prop
  | .handled worker => state.handlers worker = .returned
  | .threw worker => state.handlers worker = .threw
  | _ => True

/-- A handler starts with the job its worker has claimed. -/
def TimedState.handlersAfter (state : TimedState Worker) :
    QueueEvent Worker → Worker → Handler
  | .start worker _ =>
      match (state.queue.workers worker).job? with
      | some (_, job) =>
          Function.update state.handlers worker (handlerOf job.payload)
      | none => state.handlers
  | _ => state.handlers

inductive TimedStep (spacing : ℕ) :
    TimedState Worker → TimedEvent Worker → TimedState Worker → Prop where
  | queue (state : TimedState Worker) (now : Time) (event : QueueEvent Worker)
      (next : QueueState Worker) :
      state.clock ≤ now → state.Permits event →
        QueueStep state.queue event next →
      TimedStep spacing state (.queue now event)
        { queue := next, handlers := state.handlersAfter event, clock := now
          calls := state.calls }
  | handler (state : TimedState Worker) (now : Time) (worker : Worker)
      (position : ℕ) (job : Job) (sends : Bool) (next : Handler) :
      state.clock ≤ now → state.queue.workers worker = .handling position job →
      HandlerStep spacing now (state.handlers worker) sends next →
      TimedStep spacing state (.handler now worker sends)
        { queue := state.queue, handlers := Function.update state.handlers worker next
          clock := now
          calls := state.calls ++ if sends then [⟨worker, now⟩] else [] }

/-- A run from the first start of the queue, with the state before each
event. -/
inductive TimedRun (spacing : ℕ) :
    List (TimedState Worker × TimedEvent Worker) → TimedState Worker →
      Prop where
  | start : TimedRun spacing [] {}
  | step (steps : List (TimedState Worker × TimedEvent Worker))
      (event : TimedEvent Worker) (state next : TimedState Worker) :
      TimedRun spacing steps state → TimedStep spacing state event next →
      TimedRun spacing (steps ++ [(state, event)]) next

/-- The queue's own steps are those of the queue without a clock. -/
theorem TimedRun.queue {spacing : ℕ}
    {steps : List (TimedState Worker × TimedEvent Worker)}
    {state : TimedState Worker} (runs : TimedRun spacing steps state) :
    ∃ events, QueueRun fresh events state.queue := by
  induction runs with
  | start => exact ⟨[], .start⟩
  | step steps event before next runs more ih =>
      obtain ⟨events, queued⟩ := ih
      cases more with
      | queue now event after _ _ moved =>
          exact ⟨events ++ [event], .step events event before.queue after queued moved⟩
      | handler now worker position job sends after _ _ _ =>
          exact ⟨events, queued⟩

/-- Any two requests are at least the interval apart. -/
def SpacedOut (spacing : ℕ) (calls : List (CreateCall Worker)) : Prop :=
  calls.Pairwise fun first second => first.sentAt + spacing ≤ second.sentAt

/-- Since a worker's wait began, no other worker has sent a request; a request
without a wait (the first of a batch, and the one that repeats another) is sent
when the interval after the last request is over. -/
def RailFree (spacing : ℕ) (state : TimedState Worker) :
    TimedEvent Worker → Prop
  | .handler now worker true =>
      match (state.handlers worker).waited with
      | some since => ∀ call ∈ state.calls, call.worker ≠ worker →
          call.sentAt ≤ since
      | none => ∀ call ∈ state.calls, call.sentAt + spacing ≤ now
  | _ => True

/-! ## Each handler keeps its own requests apart -/

/-- No request is later than the clock; a worker sent none since its wait began,
and is not awake before the interval is over. -/
structure WaitsKept (spacing : ℕ) (state : TimedState Worker) : Prop where
  past : ∀ call ∈ state.calls, call.sentAt ≤ state.clock
  own : ∀ worker since, (state.handlers worker).waited = some since →
    ∀ call ∈ state.calls, call.worker = worker → call.sentAt ≤ since
  slept : ∀ worker since, (state.handlers worker).waited = some since →
    (state.handlers worker).asleep = false → since + spacing ≤ state.clock

theorem waited_handlerOf (payload : JobPayload) :
    (handlerOf payload).waited = none := by
  cases payload <;> rfl

/-- What a queue's step leaves to wait for was waited for before. -/
theorem handlersAfter_waited (state : TimedState Worker) (event : QueueEvent Worker)
    {worker : Worker} {since : Time}
    (waited : (state.handlersAfter event worker).waited = some since) :
    state.handlersAfter event worker = state.handlers worker := by
  cases event with
  | start starting position =>
      cases holds : (state.queue.workers starting).job? with
      | none => simp only [TimedState.handlersAfter, holds]
      | some held =>
          simp only [TimedState.handlersAfter, holds] at waited ⊢
          by_cases same : worker = starting
          · subst same
            rw [Function.update_self, waited_handlerOf] at waited
            cases waited
          · exact Function.update_of_ne same _ _
  | _ => rfl

theorem WaitsKept.next {spacing : ℕ} {state next : TimedState Worker}
    {event : TimedEvent Worker} (kept : WaitsKept spacing state)
    (steps : TimedStep spacing state event next) : WaitsKept spacing next := by
  cases steps with
  | queue now event after later _ _ =>
      constructor
      · intro call sent
        exact (kept.past call sent).trans later
      · intro worker since waited call sent mine
        have same := handlersAfter_waited state event waited
        exact kept.own worker since (same ▸ waited) call sent mine
      · intro worker since waited awake
        have same := handlersAfter_waited state event waited
        exact (kept.slept worker since (same ▸ waited) (same ▸ awake)).trans later
  | handler now moving position job sends after later _ moves =>
      have others {worker : Worker} (other : worker ≠ moving) :
          Function.update state.handlers moving after worker = state.handlers worker :=
        Function.update_of_ne other _ _
      constructor
      · intro call sent
        rcases List.mem_append.mp sent with old | new
        · exact (kept.past call old).trans later
        · cases sends with
          | true => exact le_of_eq (congrArg CreateCall.sentAt (List.mem_singleton.mp new))
          | false => cases new
      · intro worker since waited call sent mine
        by_cases same : worker = moving
        · subst same
          change (Function.update state.handlers worker after worker).waited =
            _ at waited
          rw [Function.update_self] at waited
          cases sends with
          | true =>
              rw [moves.sends.2] at waited
              cases waited
          | false =>
              have old : call ∈ state.calls := by simpa using sent
              rcases moves.waits waited with ⟨rfl, _⟩ | ⟨before, _⟩
              · exact (kept.past call old).trans later
              · exact kept.own worker since before call old mine
        · have before : (state.handlers worker).waited = some since := by
            rw [← others same]
            exact waited
          rcases List.mem_append.mp sent with old | new
          · exact kept.own worker since before call old mine
          · cases sends with
            | true =>
                obtain rfl := List.mem_singleton.mp new
                exact absurd mine.symm same
            | false => cases new
      · intro worker since waited awake
        by_cases same : worker = moving
        · subst same
          change (Function.update state.handlers worker after worker).waited =
            _ at waited
          change (Function.update state.handlers worker after worker).asleep =
            _ at awake
          rw [Function.update_self] at waited awake
          cases sends with
          | true =>
              rw [moves.sends.2] at waited
              cases waited
          | false =>
              rcases moves.waits waited with ⟨_, sleeps⟩ | ⟨before, woken⟩
              · rw [awake] at sleeps
                cases sleeps
              · rcases woken awake with awakeBefore | slept
                · exact (kept.slept worker since before awakeBefore).trans later
                · exact slept
        · change (Function.update state.handlers moving after worker).waited =
            _ at waited
          change (Function.update state.handlers moving after worker).asleep =
            _ at awake
          rw [others same] at waited awake
          exact (kept.slept worker since waited awake).trans later

theorem WaitsKept.run {spacing : ℕ}
    {steps : List (TimedState Worker × TimedEvent Worker)}
    {state : TimedState Worker} (runs : TimedRun spacing steps state) :
    WaitsKept spacing state := by
  induction runs with
  | start =>
      refine ⟨?_, ?_, ?_⟩
      · intro call sent
        cases sent
      · intro worker since waited
        cases waited
      · intro worker since waited
        cases waited
  | step steps event before next _ more ih => exact ih.next more

/-- A request on a free rail is the interval after every other. -/
theorem SpacedOut.next {spacing : ℕ} {state next : TimedState Worker}
    {event : TimedEvent Worker} (spaced : SpacedOut spacing state.calls)
    (kept : WaitsKept spacing state) (steps : TimedStep spacing state event next)
    (free : RailFree spacing state event) : SpacedOut spacing next.calls := by
  cases steps with
  | queue now event after later _ _ => exact spaced
  | handler now worker position job sends after later _ moves =>
      cases sends with
      | false => simpa using spaced
      | true =>
          apply List.pairwise_append.mpr
          refine ⟨spaced, List.pairwise_singleton _ _, ?_⟩
          intro call old new only
          obtain rfl := List.mem_singleton.mp only
          cases waited : (state.handlers worker).waited with
          | none =>
              simp only [RailFree, waited] at free
              exact free call old
          | some since =>
              simp only [RailFree, waited] at free
              have before : call.sentAt ≤ since := by
                by_cases mine : call.worker = worker
                · exact kept.own worker since waited call old mine
                · exact free call old mine
              have slept := kept.slept worker since waited moves.sends.1
              calc
                call.sentAt + spacing ≤ since + spacing :=
                  Nat.add_le_add_right before _
                _ ≤ state.clock := slept
                _ ≤ now := later

/-- In a run whose every request meets a free rail, the requests are spaced
out. -/
theorem requests_spaced_out (mockProviders : Bool) (payoutMinIntervalMs : ℕ)
    (steps : List (TimedState Worker × TimedEvent Worker))
    (state : TimedState Worker)
    (runs : TimedRun (spacingMs mockProviders payoutMinIntervalMs) steps state)
    (free : ∀ step ∈ steps,
      RailFree (spacingMs mockProviders payoutMinIntervalMs) step.1 step.2) :
    SpacedOut (spacingMs mockProviders payoutMinIntervalMs) state.calls := by
  induction runs with
  | start => exact List.Pairwise.nil
  | step steps event before next runs more ih =>
      have earlier := ih fun step taken =>
        free step (List.mem_append_left _ taken)
      have last :=
        free (before, event)
        (List.mem_append_right _ (List.mem_singleton_self _))
      exact earlier.next (WaitsKept.run runs) more last

/-- A run whose requests so far met a free rail goes on with another step. -/
theorem TimedRun.step_free {spacing : ℕ}
    {steps : List (TimedState Worker × TimedEvent Worker)}
    {event : TimedEvent Worker} {state next : TimedState Worker}
    (runs : TimedRun spacing steps state ∧ ∀ step ∈ steps,
      RailFree spacing step.1 step.2)
    (more : TimedStep spacing state event next)
    (free : RailFree spacing state event) :
    TimedRun spacing (steps ++ [(state, event)]) next ∧
      ∀ step ∈ steps ++ [(state, event)], RailFree spacing step.1 step.2 := by
  refine ⟨.step steps event state next runs.1 more, ?_⟩
  intro step taken
  rcases List.mem_append.mp taken with old | new
  · exact runs.2 step old
  · rw [List.mem_singleton.mp new]
    exact free

end

/-- A batch of two payouts: the second request is sent when the wait after the first is
over. -/
theorem batch_spaced_out :
    SpacedOut 61000 [(⟨0, 0⟩ : CreateCall ℕ), ⟨0, 61005⟩] := by
  have first : TimedRun 61000 [] ({} : TimedState ℕ) ∧
      ∀ step ∈ ([] : List (TimedState ℕ × TimedEvent ℕ)),
        RailFree 61000 step.1 step.2 :=
    ⟨.start, by simp⟩
  have second := TimedRun.step_free first
    (.queue _ 0 (.enqueue (.batchProcess "B" ["p", "q"]) 5 0) _ (Nat.le_refl 0)
      trivial (.enqueue _ _ _ _))
    trivial
  have third := TimedRun.step_free second
    (.queue _ 0 (.claim 0 0 [] 0) _ (Nat.le_refl 0) trivial
      (.claim _ _ _ _ _ _ rfl (by decide) rfl)) trivial
  have fourth := TimedRun.step_free third
    (.queue _ 0 (.start 0 0) _ (Nat.le_refl 0) trivial (.start _ _ _ _ rfl))
      trivial
  have fifth := TimedRun.step_free fourth
    (.handler _ 0 0 0 _ false _ (Nat.le_refl 0) rfl (.batchReads none "p" ["q"])) trivial
  have sixth := TimedRun.step_free fifth
    (.handler _ 0 0 0 _ true _ (Nat.le_refl 0) rfl
      (.batchSends "p" none false ["q"]))
    (by intro call sent; cases sent)
  have seventh := TimedRun.step_free sixth
    (.handler _ 5 0 0 _ false _ (Nat.zero_le 5) rfl
      (.batchUpdated "p" ["q"] (by decide))) trivial
  have eighth := TimedRun.step_free seventh
    (.handler _ 61005 0 0 _ false _
      (by decide) rfl (.batchWakes 5 ["q"] (by decide))) trivial
  have ninth := TimedRun.step_free eighth
    (.handler _ 61005 0 0 _ false _ (Nat.le_refl _) rfl
      (.batchReads (some 5) "q" [])) trivial
  have tenth := TimedRun.step_free ninth
    (.handler _ 61005 0 0 _ true _ (Nat.le_refl _) rfl (.batchSends "q" (some 5) false []))
    (by
      intro call sent other
      obtain rfl := List.mem_singleton.mp sent
      exact absurd rfl other)
  exact requests_spaced_out false 61000 _ _ tenth.1 tenth.2

/-- Two payout jobs wait at the same time, and their requests leave together. -/
theorem jobs_call_together :
    ¬ ∀ (spacing : ℕ) (steps : List (TimedState ℕ × TimedEvent ℕ)) (state : TimedState ℕ),
      0 < spacing → TimedRun (spacingMs false spacing) steps state →
      SpacedOut (spacingMs false spacing) state.calls := by
  intro always
  have first : TimedRun 61000 [] ({} : TimedState ℕ) := .start
  have second := TimedRun.step _ _ _ _ first
    (.queue _ 0 (.enqueue (.payoutProcess "p") 5 0) _ (Nat.le_refl 0) trivial
      (.enqueue _ _ _ _))
  have third := TimedRun.step _ _ _ _ second
    (.queue _ 0 (.enqueue (.payoutProcess "q") 5 0) _ (Nat.le_refl 0) trivial
      (.enqueue _ _ _ _))
  have fourth := TimedRun.step _ _ _ _ third
    (.queue _ 0 (.claim 0 0 [] 0) _ (Nat.le_refl 0) trivial
      (.claim _ _ _ _ _ _ rfl (by decide) rfl))
  have fifth := TimedRun.step _ _ _ _ fourth
    (.queue _ 0 (.claim 1 0 [] 1) _ (Nat.le_refl 0) trivial
      (.claim _ _ _ _ _ _ rfl (by decide) rfl))
  have sixth := TimedRun.step _ _ _ _ fifth
    (.queue _ 0 (.start 0 0) _ (Nat.le_refl 0) trivial (.start _ _ _ _ rfl))
  have seventh := TimedRun.step _ _ _ _ sixth
    (.queue _ 0 (.start 1 1) _ (Nat.le_refl 0) trivial (.start _ _ _ _ rfl))
  have eighth := TimedRun.step _ _ _ _ seventh
    (.handler _ 0 0 0 _ false _ (Nat.le_refl 0) rfl (.payoutReads "p" (by decide)))
  have ninth := TimedRun.step _ _ _ _ eighth
    (.handler _ 0 1 1 _ false _ (Nat.le_refl 0) rfl
      (.payoutReads "q" (by decide)))
  have tenth := TimedRun.step _ _ _ _ ninth
    (.handler _ 61000 0 0 _ false _
      (by decide) rfl (.payoutWakes "p" 0 (by decide)))
  have eleventh := TimedRun.step _ _ _ _ tenth
    (.handler _ 61000 1 1 _ false _ (Nat.le_refl _) rfl
      (.payoutWakes "q" 0 (by decide)))
  have twelfth := TimedRun.step _ _ _ _ eleventh
    (.handler _ 61000 0 0 _ true _ (Nat.le_refl _) rfl
      (.payoutSends "p" (some 0) false))
  have thirteenth := TimedRun.step _ _ _ _ twelfth
    (.handler _ 61000 1 1 _ true _ (Nat.le_refl _) rfl
      (.payoutSends "q" (some 0) false))
  have spaced := always 61000 _ _ (by decide) thirteenth
  have apart : 61000 + 61000 ≤ 61000 :=
    (List.pairwise_cons.mp spaced).1 ⟨1, 61000⟩ (List.mem_singleton_self _)
  omega

end CloudStudio.Queue
