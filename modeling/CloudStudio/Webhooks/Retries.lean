import CloudStudio.Webhooks.Deliveries

/-!
# Retries

Every POST is counted, so the bound on the attempts is a bound on the POSTs.  A
job that is the newest of its delivery finds an attempt left and its time come;
only a job that was enqueued before another attempt can come too early, or once
too often.
-/

namespace CloudStudio.Webhooks

open CloudStudio.Platform

def attemptsOf (deliveryId : ℕ) (box : Outbox) : ℕ :=
  (box.deliveries[deliveryId]?.map WebhookDelivery.attempts).getD 0

/-- What a step adds to the POSTs of a delivery it also counts. -/
structure Counts (deliveryId : ℕ) (box next : Outbox) : Prop where
  grows : postsTo deliveryId box <+: postsTo deliveryId next
  counted : (postsTo deliveryId box).length = attemptsOf deliveryId box →
    (postsTo deliveryId next).length = attemptsOf deliveryId next

theorem Counts.of_same {deliveryId : ℕ} {box next : Outbox}
    (attempts : attemptsOf deliveryId next = attemptsOf deliveryId box)
    (posts : postsTo deliveryId next = postsTo deliveryId box) :
    Counts deliveryId box next := by
  constructor
  · rw [posts]
  · intro counted
    rw [posts, attempts]
    exact counted

theorem attemptsOf_of_found {deliveryId : ℕ} {box : Outbox}
    {delivery : WebhookDelivery}
    (found : box.deliveries[deliveryId]? = some delivery) :
    attemptsOf deliveryId box = delivery.attempts := by
  rw [attemptsOf, found]
  rfl

theorem counts_executed {deliveryId : ℕ} {box next : Outbox} {visit : Visit}
    (executed : Executed visit deliveryId box next) :
    Counts deliveryId box next := by
  cases executed with
  | missing => exact .of_same rfl rfl
  | delivered => exact .of_same rfl rfl
  | disabled delivery next found undelivered inactive row jobs posts =>
      apply Counts.of_same _ posts
      rw [attemptsOf_of_found row, attemptsOf_of_found found]
  | posted delivery written more next found undelivered active attempts
      pending dead later unretried row jobs posts =>
      constructor
      · exact ⟨_, posts.symm⟩
      · intro counted
        rw [attemptsOf_of_found found] at counted
        rw [posts, List.length_append, counted, attemptsOf_of_found row,
          attempts]
        rfl

theorem counts_step {deliveryId : ℕ} {box next : Outbox} {event : BoxEvent}
    (steps : BoxStep box event next) : Counts deliveryId box next := by
  cases steps with
  | dispatch now endpointId event reference =>
      refine .of_same ?_ ?_
      · unfold attemptsOf dispatchTo
        rw [List.getElem?_append]
        split
        · rfl
        · rename_i beyond
          rw [List.getElem?_eq_none (Nat.le_of_not_lt beyond)]
          cases deliveryId - box.deliveries.length with
          | zero => rfl
          | succ more => rfl
      · rfl
  | execute index job visit again found due later =>
      have left : Counts deliveryId box (leftAfter box index job again) :=
        .of_same rfl rfl
      by_cases same : job.deliveryId = deliveryId
      · have executed :=
          deliverJob_executed visit deliveryId (leftAfter box index job again)
        rw [same]
        have attempt := counts_executed executed
        exact ⟨attempt.grows, fun counted =>
          attempt.counted (left.counted counted)⟩
      · obtain ⟨row, posts, _⟩ :=
          deliverJob_other same visit (leftAfter box index job again)
        have apart : Counts deliveryId (leftAfter box index job again)
            (deliverJob visit job.deliveryId
              (leftAfter box index job again)) := by
          apply Counts.of_same _ posts
          rw [attemptsOf, row]
          rfl
        exact ⟨apart.grows, fun counted => apart.counted (left.counted counted)⟩
  | sweep now delay chosen selected => exact .of_same rfl rfl

theorem counts_run {deliveryId : ℕ} {first box : Outbox}
    {events : List BoxEvent} (runs : BoxRun first events box) :
    Counts deliveryId first box := by
  induction runs with
  | start => exact .of_same rfl rfl
  | step events event box next _ steps ih =>
      have last : Counts deliveryId box next := counts_step steps
      exact ⟨ih.grows.trans last.grows, fun counted =>
        last.counted (ih.counted counted)⟩

/-- A job runs that was enqueued before the last attempt of its delivery, and
attempts it again: after five attempts, or before the time of the next. -/
def RepeatsEarly (deliveryId : ℕ) (box : Outbox) : BoxEvent → Prop
  | .execute index visit _ => ∃ job delivery, box.jobs[index]? = some job ∧
      job.deliveryId = deliveryId ∧
        box.deliveries[deliveryId]? = some delivery ∧
      delivery.status ≠ .delivered ∧ visit.isActive = true ∧
      job.seen ≠ delivery.attempts ∧ ¬ Ready visit.now delivery
  | _ => False

/-- The delivery has been delivered, or has used up its attempts. -/
def Ended (deliveryId : ℕ) (box : Outbox) : Prop :=
  ∃ delivery, box.deliveries[deliveryId]? = some delivery ∧
    (delivery.status = .delivered ∨ 5 ≤ delivery.attempts)

/-- A job that is the newest of its delivery finds it ready. -/
theorem attemptsReady {deliveryId index : ℕ} {box : Outbox} {job : DeliverJob}
    {visit : Visit} {again : Option Time} (kept : Kept deliveryId box)
    (found : box.jobs[index]? = some job) (due : job.runAt ≤ visit.now)
    (single : ¬ RepeatsEarly deliveryId box (.execute index visit again))
    (is_its : job.deliveryId = deliveryId) :
    AttemptsReady deliveryId visit (leftAfter box index job again) := by
  intro delivery at_delivery undelivered active
  by_cases newest : job.seen = delivery.attempts
  · have fine :=
      kept.jobs delivery at_delivery job (List.mem_of_getElem? found) is_its
    obtain ⟨left, inTime⟩ := fine.fresh newest undelivered
    exact ⟨left, fun at_ is_at => (inTime at_ is_at).trans due⟩
  · by_contra early
    exact single ⟨job, delivery, found, is_its, at_delivery, undelivered,
      active, newest, early⟩

theorem Kept.next {deliveryId : ℕ} {box next : Outbox} {event : BoxEvent}
    (kept : Kept deliveryId box) (steps : BoxStep box event next)
    (single : ¬ RepeatsEarly deliveryId box event) : Kept deliveryId next := by
  cases steps with
  | dispatch now endpointId event reference =>
      exact kept.dispatch now endpointId event reference
  | execute index job visit again found due later =>
      apply (kept.leftAfter found due later).deliver
      exact attemptsReady kept found due single
  | sweep now delay chosen selected => exact kept.sweep now delay selected

theorem kept_empty (deliveryId : ℕ) : Kept deliveryId {} := by
  constructor
  · intro _
    exact ⟨rfl, nofun⟩
  · intro delivery found
    cases found
  · intro delivery found
    cases found

/-- A delivery that has ended makes no more POSTs. -/
theorem Ended.executed {deliveryId : ℕ} {box next : Outbox} {visit : Visit}
    (ended : Ended deliveryId box) (ready : AttemptsReady deliveryId visit box)
    (executed : Executed visit deliveryId box next) :
    Ended deliveryId next ∧ postsTo deliveryId next =
      postsTo deliveryId box := by
  obtain ⟨before, at_before, isOver⟩ := ended
  cases executed with
  | missing => exact ⟨⟨before, at_before, isOver⟩, rfl⟩
  | delivered => exact ⟨⟨before, at_before, isOver⟩, rfl⟩
  | disabled delivery next found undelivered inactive row jobs posts =>
      rw [at_before] at found
      cases found
      exact ⟨⟨_, row, .inr (isOver.resolve_left undelivered)⟩, posts⟩
  | posted delivery written more next found undelivered active attempts
      pending dead later unretried row jobs posts =>
      rw [at_before] at found
      cases found
      have below := (ready before at_before undelivered active).1
      exact absurd (isOver.resolve_left undelivered) (Nat.not_le_of_lt below)

theorem Ended.next {deliveryId : ℕ} {box next : Outbox} {event : BoxEvent}
    (ended : Ended deliveryId box) (kept : Kept deliveryId box)
    (steps : BoxStep box event next)
    (single : ¬ RepeatsEarly deliveryId box event) :
    Ended deliveryId next ∧ postsTo deliveryId next =
      postsTo deliveryId box := by
  cases steps with
  | dispatch now endpointId event reference =>
      obtain ⟨delivery, found, isOver⟩ := ended
      obtain ⟨within, _⟩ := List.getElem?_eq_some_iff.mp found
      exact ⟨⟨delivery, (List.getElem?_append_left within).trans found, isOver⟩,
        rfl⟩
  | execute index job visit again found due later =>
      have left : Ended deliveryId (leftAfter box index job again) := ended
      by_cases same : job.deliveryId = deliveryId
      · rw [same]
        exact left.executed (attemptsReady kept found due single same)
          (deliverJob_executed visit deliveryId _)
      · obtain ⟨row, posts, _⟩ :=
          deliverJob_other same visit (leftAfter box index job again)
        obtain ⟨delivery, at_delivery, isOver⟩ := left
        exact ⟨⟨delivery, row.trans at_delivery, isOver⟩, posts⟩
  | sweep now delay chosen selected => exact ⟨ended, rfl⟩

/-! ## Five attempts, each in time, and none after the end -/

/-- What a run respects for one delivery. -/
structure RetriesRespected (deliveryId : ℕ) (events : List BoxEvent)
    (box : Outbox) :
    Prop where
  atMostFive : (postsTo deliveryId box).length ≤ 5
  inTime : ∀ post ∈ postsTo deliveryId box, ∀ due ∈ post.delivery.nextAttemptAt,
    due ≤ post.madeAt
  isOver : ∀ earlier later middle, events = earlier ++ later →
    BoxRun {} earlier middle → BoxRun middle later box →
    ∀ delivery, middle.deliveries[deliveryId]? = some delivery →
      delivery.status = .delivered ∨ delivery.status = .dead →
      postsTo deliveryId box = postsTo deliveryId middle

/-- No job of the delivery attempts it too early, or too often, after another
one. -/
def NoneRepeatsEarly (deliveryId : ℕ) (first : Outbox) (events : List BoxEvent)
    (box : Outbox) : Prop :=
  ∀ earlier event later before next, events = earlier ++ event :: later →
    BoxRun first earlier before → BoxStep before event next →
      BoxRun next later box →
    ¬ RepeatsEarly deliveryId before event

theorem BoxRun.cons {first next box : Outbox} {event : BoxEvent}
    {events : List BoxEvent} (steps : BoxStep first event next)
    (runs : BoxRun next events box) : BoxRun first (event :: events) box := by
  induction runs with
  | start => exact .step [] event first next .start steps
  | step events last middle after runs more ih =>
      exact .step (event :: events) last middle after ih more

theorem BoxRun.append {first middle box : Outbox}
    {earlier later : List BoxEvent} (runs : BoxRun first earlier middle)
    (more : BoxRun middle later box) : BoxRun first (earlier ++ later) box := by
  induction more with
  | start =>
      rw [List.append_nil]
      exact runs
  | step events event before next _ steps ih =>
      rw [← List.append_assoc]
      exact .step (earlier ++ events) event before next ih steps

theorem Kept.run {deliveryId : ℕ} {first box : Outbox} {events : List BoxEvent}
    (kept : Kept deliveryId first) (runs : BoxRun first events box)
    (single : NoneRepeatsEarly deliveryId first events box) :
    Kept deliveryId box := by
  suffices all : ∀ earlier later middle, events = earlier ++ later →
      BoxRun first earlier middle → BoxRun middle later box →
        Kept deliveryId middle from
    all events [] box (List.append_nil events).symm runs .start
  intro earlier later middle split before rest
  induction before generalizing later with
  | start => exact kept
  | step earlier event previous next before steps ih =>
      have split_ : events = earlier ++ event :: later := by
        rw [split, List.append_assoc]
        rfl
      apply (ih (event :: later) split_ (rest.cons steps)).next steps
      exact single earlier event later previous next split_ before steps rest

/-- From a state in which the delivery has ended, no more POSTs. -/
theorem Ended.run {deliveryId : ℕ} {first box : Outbox} {events : List BoxEvent}
    (ended : Ended deliveryId first) (kept : Kept deliveryId first)
    (runs : BoxRun first events box)
    (single : NoneRepeatsEarly deliveryId first events box) :
    postsTo deliveryId box = postsTo deliveryId first := by
  suffices all : ∀ earlier later middle, events = earlier ++ later →
      BoxRun first earlier middle → BoxRun middle later box →
      Kept deliveryId middle ∧ Ended deliveryId middle ∧
        postsTo deliveryId middle = postsTo deliveryId first from
    (all events [] box (List.append_nil events).symm runs .start).2.2
  intro earlier later middle split before rest
  induction before generalizing later with
  | start => exact ⟨kept, ended, rfl⟩
  | step earlier event previous next before steps ih =>
      have split_ : events = earlier ++ event :: later := by
        rw [split, List.append_assoc]
        rfl
      obtain ⟨keptBefore, endedBefore, posts⟩ :=
        ih (event :: later) split_ (rest.cons steps)
      have once :=
        single earlier event later previous next split_ before steps rest
      obtain ⟨endedNow, unposted⟩ := endedBefore.next keptBefore steps once
      exact ⟨keptBefore.next steps once, endedNow, unposted.trans posts⟩

/-- An early repetition makes a sixth POST, or one before its time. -/
theorem post_of_repeatsEarly {deliveryId : ℕ} {box next : Outbox}
    {event : BoxEvent}
    (counted : (postsTo deliveryId box).length = attemptsOf deliveryId box)
    (steps : BoxStep box event next)
    (repeats : RepeatsEarly deliveryId box event) :
    5 < (postsTo deliveryId next).length ∨
      ∃ post ∈ postsTo deliveryId next, ∃ due ∈ post.delivery.nextAttemptAt,
        post.madeAt < due := by
  cases steps with
  | dispatch => exact absurd repeats id
  | sweep => exact absurd repeats id
  | execute index job visit again found due later =>
      obtain ⟨job', delivery, found', is_its, at_delivery, undelivered,
        active, _, early⟩ :=
        repeats
      rw [found] at found'
      cases found'
      rw [is_its]
      have executed :=
        deliverJob_executed visit deliveryId (leftAfter box index job again)
      have here : (leftAfter box index job again).deliveries[deliveryId]? =
        some delivery :=
        at_delivery
      generalize deliverJob visit deliveryId (leftAfter box index job again) =
        next at executed ⊢
      cases executed with
      | missing absent =>
          rw [here] at absent
          cases absent
      | delivered delivery' found' isOver =>
          rw [here] at found'
          cases found'
          exact absurd isOver undelivered
      | disabled delivery' _ found' _ inactive =>
          rw [active] at inactive
          cases inactive
      | posted delivery' written more _ found' _ _ attempts _ _ _ _
          row jobs posts =>
          rw [here] at found'
          cases found'
          rw [posts]
          by_cases left : delivery.attempts < 5
          · have late : ¬ ∀ due ∈ delivery.nextAttemptAt, due ≤ visit.now :=
              fun inTime => early ⟨left, inTime⟩
            simp only [not_forall, not_le] at late
            obtain ⟨at_, is_at, before⟩ := late
            exact .inr ⟨_, List.mem_append_right _ (List.mem_singleton_self _),
              at_, is_at, before⟩
          · rw [attemptsOf_of_found at_delivery] at counted
            have all :
              (postsTo deliveryId (leftAfter box index job again)).length =
              delivery.attempts := counted
            rw [List.length_append, all, List.length_singleton]
            exact .inl (by omega)

/-- The retries of a delivery are respected along a run exactly when none of its
jobs attempts it too early, or too often, after another one has. -/
theorem retries_respected_iff (events : List BoxEvent) (box : Outbox)
    (runs : BoxRun {} events box) (deliveryId : ℕ) :
    RetriesRespected deliveryId events box ↔
      NoneRepeatsEarly deliveryId {} events box := by
  have uncounted : (postsTo deliveryId {}).length = attemptsOf deliveryId {} :=
    rfl
  constructor
  · intro respected earlier event later before next split runsBefore
      steps rest repeats
    have counted := (counts_run runsBefore).counted uncounted
    have grows : postsTo deliveryId next <+: postsTo deliveryId box :=
      (counts_run rest).grows
    rcases post_of_repeatsEarly counted steps repeats with many | ⟨post, made,
      due, is_due, early⟩
    · have fewer := grows.length_le
      have bound := respected.atMostFive
      omega
    · have inTime := respected.inTime post (grows.subset made) due is_due
      exact absurd inTime (Nat.not_le_of_lt early)
  · intro single
    have kept : Kept deliveryId box := (kept_empty deliveryId).run runs single
    have counted := (counts_run runs).counted uncounted
    constructor
    · cases found : box.deliveries[deliveryId]? with
      | none =>
          rw [(kept.unborn found).1]
          exact Nat.zero_le 5
      | some delivery =>
          rw [counted, attemptsOf_of_found found]
          exact (kept.row delivery found).bounded
    · cases found : box.deliveries[deliveryId]? with
      | none =>
          rw [(kept.unborn found).1]
          nofun
      | some delivery => exact (kept.row delivery found).punctual
    · intro earlier later middle split before rest delivery found isOver
      have singleBefore : NoneRepeatsEarly deliveryId {} earlier middle := by
        intro past event future previous next splitPast runsPast steps toMiddle
        apply single past event (future ++ later) previous next _ runsPast steps
          (toMiddle.append rest)
        rw [split, splitPast, List.append_assoc]
        rfl
      have singleAfter : NoneRepeatsEarly deliveryId middle later box := by
        intro past event future previous next splitLater runsPast steps toBox
        apply single (earlier ++ past) event future previous next _
          (before.append runsPast) steps toBox
        rw [split, splitLater, List.append_assoc]
      have keptMiddle : Kept deliveryId middle :=
        (kept_empty deliveryId).run before singleBefore
      have ended : Ended deliveryId middle := by
        refine ⟨delivery, found, ?_⟩
        rcases isOver with delivered | dead
        · exact .inl delivered
        · exact .inr ((keptMiddle.row delivery found).dead dead)
      exact ended.run keptMiddle rest singleAfter

/-- An endpoint that never answers, visited at this time. -/
def lostVisit (now : Time) : Visit := ⟨now, true, none, 0, 0, 1⟩

/-- The first attempt is lost, the sweep adds a job beside the retry that is
due, and the one fails again. -/
def retriedBox : Outbox :=
  let dispatched := dispatchTo 0 "e" .smsStatus "m" {}
  let attempted :=
    deliverJob (lostVisit 0) 0 (leftAfter dispatched 0 ⟨0, 0, 0⟩ none)
  let swept := sweepDueRetries 1 (fun _ => 0) [0] attempted
  deliverJob (lostVisit 1) 0 (leftAfter swept 0 ⟨0, 1, 1⟩ none)

def retriedEvents : List BoxEvent :=
  [.dispatch 0 "e" .smsStatus "m", .execute 0 (lostVisit 0) none,
    .sweep 1 (fun _ => 0) [0], .execute 0 (lostVisit 1) none]

theorem retriedBox_reached : BoxRun {} retriedEvents retriedBox := by
  have first := BoxRun.step [] _ {} _ .start (.dispatch {} 0 "e" .smsStatus "m")
  have second := BoxRun.step _ _ _ _ first
    (.execute _ 0 ⟨0, 0, 0⟩ (lostVisit 0) none rfl (by decide) nofun)
  have third := BoxRun.step _ _ _ _ second
    (.sweep _ 1 (fun _ => 0) [0] ⟨by decide, by decide, by decide⟩)
  exact BoxRun.step _ _ _ _ third
    (.execute _ 0 ⟨0, 1, 1⟩ (lostVisit 1) none rfl (by decide) nofun)

theorem retries_respected_iff_retried :
    (postsTo 0 retriedBox).length = 2 ∧
      (RetriesRespected 0 retriedEvents retriedBox ↔
        NoneRepeatsEarly 0 {} retriedEvents retriedBox) :=
  ⟨by decide, retries_respected_iff _ _ retriedBox_reached 0⟩

/-- The other job follows the retry at once. -/
def sweptBox : Outbox :=
  deliverJob (lostVisit 1) 0 (leftAfter retriedBox 0 ⟨0, 1, 1⟩ none)

theorem swept_too_early :
    ¬ ∀ events box, BoxRun {} events box → RetriesRespected 0 events box := by
  intro all
  have repeated := BoxRun.step _ _ _ _ retriedBox_reached
    (.execute _ 0 ⟨0, 1, 1⟩ (lostVisit 1) none rfl (by decide) nofun)
  have inTime := (all _ sweptBox repeated).inTime
  revert inTime
  decide

end CloudStudio.Webhooks
