import CloudStudio.Transactions.Growth

/-!
# What is at stake in a step

Some steps of a program are at stake: the commits of its transactions, and the
statements outside transactions at marked sites.  `Program.Obeys` bounds what
those may change and what the other statements may change, and tells what a call
returns before any step at stake from what it returns later.  Unlike an
expectation of a statement, a condition on the steps at stake covers commits.
-/

namespace CloudStudio.Transactions

open Function

variable {Id State Key Expectation Label Error Result Answer : Type}

/-- The marked sites, and what the steps at stake of each thread and all other
steps may change in states of which `valid` holds. -/
structure Stakes (Id State Label : Type) where
  marked : Label → Bool
  valid : State → Prop
  quiet : State → State → Prop
  stake : Id → State → State → Prop
  valid_quiet : ∀ {before after}, quiet before after → valid before →
    valid after
  valid_stake : ∀ {id before after}, stake id before after → valid before →
    valid after

/-- What a step that is at stake or not may change. -/
def Stakes.Allows (rules : Stakes Id State Label) (id : Id) (atStake : Bool)
    (before after : State) : Prop :=
  if atStake then rules.stake id before after else rules.quiet before after

/-- The rules allow a thread no more than the wider rules do, and hold of more
states. -/
structure Stakes.Within (rules wider : Stakes Id State Label) (id : Id) :
    Prop where
  marked : wider.marked = rules.marked
  valid : ∀ {state}, wider.valid state → rules.valid state
  quiet : ∀ {before after}, rules.quiet before after → wider.quiet before after
  stake : ∀ {before after}, rules.stake id before after →
    wider.stake id before after

theorem Stakes.Within.allows {rules wider : Stakes Id State Label} {id : Id}
    (within : rules.Within wider id) {atStake : Bool} {before after : State}
    (allows : rules.Allows id atStake before after) :
    wider.Allows id atStake before after := by
  cases atStake with
  | true => exact within.stake allows
  | false => exact within.quiet allows

variable (rules : Stakes Id State Label) (id : Id)

/-- If the transaction commits, what it has written is a change at stake, and
what it returns is in `post`. -/
def Body.Commits (post : Answer → Prop) :
    Body State Key Expectation Label Error Answer → (State → State) → Prop
  | .returned answer, written =>
      (∀ state, rules.valid state → rules.stake id state (written state)) ∧
        post answer
  | .threw _, _ => True
  | .query statement next failed, written =>
      (∀ state, rules.valid state → ∀ answer,
        statement.answer (written state) = .ok answer →
        (next answer).Commits post
          fun later => statement.effect (written state) (written later)) ∧
      ∀ error, (failed error).Commits post written

/-- The program changes what its steps may change.  What it returns before any
step at stake is in `clean`, what it returns later is in `post`. -/
def Program.Obeys (post : Result → Prop) :
    Program State Key Expectation Label Error Result → (Result → Prop) → Prop
  | .returned result, clean => clean result
  | .threw _, _ => True
  | .query statement next failed, clean =>
      (∀ state, rules.valid state → ∀ answer,
        statement.answer state = .ok answer →
        rules.Allows id (rules.marked statement.label) state
          (statement.effect state state) ∧
        (next answer).Obeys post
          (bif rules.marked statement.label then post else clean)) ∧
      ∀ error, (failed error).Obeys post clean
  | .transaction _ body next failed, clean =>
      body.Commits rules id (fun answer => (next answer).Obeys post post)
        (fun state => state) ∧
      ∀ error, (failed error).Obeys post clean

/-- The same for a thread that may be inside a transaction. -/
def Thread.Obeys (post : Result → Prop) :
    Thread State Key Expectation Label Error Result → (Result → Prop) → Prop
  | .outside program, clean => program.Obeys rules id post clean
  | .inside body written next failed, clean =>
      body.Commits rules id (fun answer =>
        (next answer).Obeys rules id post post) written ∧
      ∀ error, (failed error).Obeys rules id post clean
  | .stopped, _ => True

section

variable {rules} {id}

theorem Body.Commits.mono {post post' : Answer → Prop}
    {body : Body State Key Expectation Label Error Answer}
    {written : State → State} (commits : body.Commits rules id post written)
    (weaker : ∀ answer, post answer → post' answer) :
    body.Commits rules id post' written := by
  induction body generalizing written with
  | returned answer => exact ⟨commits.1, weaker answer commits.2⟩
  | threw error => exact trivial
  | query statement next failed nextIH failedIH =>
      constructor
      · exact fun state valid answer answered =>
          nextIH answer (commits.1 state valid answer answered)
      · exact fun error => failedIH error (commits.2 error)

theorem Body.Commits.under {wider : Stakes Id State Label}
    (within : rules.Within wider id) {post : Answer → Prop}
    {body : Body State Key Expectation Label Error Answer}
    {written : State → State} (commits : body.Commits rules id post written) :
    body.Commits wider id post written := by
  induction body generalizing written with
  | returned answer =>
      exact ⟨fun state valid =>
        within.stake (commits.1 state (within.valid valid)), commits.2⟩
  | threw error => exact trivial
  | query statement next failed nextIH failedIH =>
      constructor
      · exact fun state valid answer answered =>
          nextIH answer (commits.1 state (within.valid valid) answer answered)
      · exact fun error => failedIH error (commits.2 error)

namespace Program.Obeys

variable {post post' clean clean' : Result → Prop}

theorem mono {program : Program State Key Expectation Label Error Result}
    (obeys : program.Obeys rules id post clean)
    (weakerPost : ∀ result, post result → post' result)
    (weakerClean : ∀ result, clean result → clean' result) :
    program.Obeys rules id post' clean' := by
  induction program generalizing clean clean' with
  | returned result => exact weakerClean result obeys
  | threw error => exact trivial
  | query statement next failed nextIH failedIH =>
      constructor
      · intro state valid answer answered
        obtain ⟨changes, rest⟩ := obeys.1 state valid answer answered
        refine ⟨changes, nextIH answer rest ?_⟩
        cases rules.marked statement.label with
        | true => exact weakerPost
        | false => exact weakerClean
      · exact fun error => failedIH error (obeys.2 error) weakerClean
  | transaction label body next failed nextIH failedIH =>
      constructor
      · exact obeys.1.mono fun answer rest => nextIH answer rest weakerPost
      · exact fun error => failedIH error (obeys.2 error) weakerClean

theorem under {wider : Stakes Id State Label} (within : rules.Within wider id)
    {program : Program State Key Expectation Label Error Result}
    (obeys : program.Obeys rules id post clean) :
    program.Obeys wider id post clean := by
  induction program generalizing clean with
  | returned result => exact obeys
  | threw error => exact trivial
  | query statement next failed nextIH failedIH =>
      constructor
      · intro state valid answer answered
        obtain ⟨changes, rest⟩ :=
          obeys.1 state (within.valid valid) answer answered
        rw [within.marked]
        exact ⟨within.allows changes, nextIH answer rest⟩
      · exact fun error => failedIH error (obeys.2 error)
  | transaction label body next failed nextIH failedIH =>
      constructor
      · exact (obeys.1.under within).mono fun answer rest => nextIH answer rest
      · exact fun error => failedIH error (obeys.2 error)

theorem bind {program : Program State Key Expectation Label Error Answer}
    {rest : Answer → Program State Key Expectation Label Error Result}
    (obeys :
      program.Obeys rules id
      (fun answer => (rest answer).Obeys rules id post post)
      fun answer => (rest answer).Obeys rules id post clean) :
    (program >>= rest).Obeys rules id post clean := by
  change (program.bind rest).Obeys rules id post clean
  induction program generalizing clean with
  | returned answer => exact obeys
  | threw error => exact trivial
  | query statement next failed nextIH failedIH =>
      constructor
      · intro state valid answer answered
        obtain ⟨changes, continues⟩ := obeys.1 state valid answer answered
        refine ⟨changes, ?_⟩
        cases marked : rules.marked statement.label with
        | true => exact nextIH answer (by rwa [marked] at continues)
        | false => exact nextIH answer (by rwa [marked] at continues)
      · exact fun error => failedIH error (obeys.2 error)
  | transaction label body next failed nextIH failedIH =>
      constructor
      · exact obeys.1.mono fun answer continues => nextIH answer continues
      · exact fun error => failedIH error (obeys.2 error)

/-- A first part without a step at stake, and a rest that obeys from what it
returns. -/
theorem andThen {mid : Answer → Prop}
    {program : Program State Key Expectation Label Error Answer}
    {rest : Answer → Program State Key Expectation Label Error Result}
    (obeys : program.Obeys rules id (fun _ => False) mid)
    (continues : ∀ answer, mid answer →
      (rest answer).Obeys rules id post clean) :
    (program >>= rest).Obeys rules id post clean :=
  bind (obeys.mono (fun _ => False.elim) continues)

/-- What the first part returns is in `mid`, before and after a step at
stake. -/
theorem seq {mid : Answer → Prop}
    {program : Program State Key Expectation Label Error Answer}
    {rest : Answer → Program State Key Expectation Label Error Result}
    (obeys : program.Obeys rules id mid mid)
    (continues : ∀ answer, mid answer →
      (rest answer).Obeys rules id post post) :
    (program >>= rest).Obeys rules id post post :=
  bind (obeys.mono continues continues)

/-- A statement at a site that is not marked. -/
theorem perform {statement : Query State Key Expectation Label Error Result}
    (unmarked : rules.marked statement.label = false)
    (changes : ∀ state, rules.valid state → ∀ answer,
      statement.answer state = .ok answer →
      rules.quiet state (statement.effect state state) ∧ clean answer) :
    (Program.perform statement).Obeys rules id post clean := by
  refine ⟨fun state valid answer answered => ?_, fun _ => trivial⟩
  obtain ⟨quiet, holds⟩ := changes state valid answer answered
  rw [unmarked]
  exact ⟨quiet, holds⟩

/-- A statement at a marked site. -/
theorem staked {statement : Query State Key Expectation Label Error Result}
    (marked : rules.marked statement.label = true)
    (changes : ∀ state, rules.valid state → ∀ answer, statement.answer state = .ok answer →
      rules.stake id state (statement.effect state state) ∧ post answer) :
    (Program.perform statement).Obeys rules id post clean := by
  refine ⟨fun state valid answer answered => ?_, fun _ => trivial⟩
  obtain ⟨stake, holds⟩ := changes state valid answer answered
  rw [marked]
  exact ⟨stake, holds⟩

/-- `try`: the handler obeys too, before a step at stake and after one. -/
theorem catching {program : Program State Key Expectation Label Error Result}
    {handler : Error → Program State Key Expectation Label Error Result}
    (obeys : program.Obeys rules id post clean)
    (handles : ∀ error, (handler error).Obeys rules id post clean)
    (weaker : ∀ result, clean result → post result) :
    (program.catching handler).Obeys rules id post clean := by
  have later (error : Error) : (handler error).Obeys rules id post post :=
    (handles error).mono (fun _ holds => holds) weaker
  induction program generalizing clean with
  | returned result => exact obeys
  | threw error => exact handles error
  | query statement next failed nextIH failedIH =>
      constructor
      · intro state valid answer answered
        obtain ⟨changes, rest⟩ := obeys.1 state valid answer answered
        refine ⟨changes, ?_⟩
        cases marked : rules.marked statement.label with
        | true => exact nextIH answer (by rwa [marked] at rest) later (fun _ holds => holds)
        | false => exact nextIH answer (by rwa [marked] at rest) handles weaker
      · exact fun error => failedIH error (obeys.2 error) handles weaker
  | transaction label body next failed nextIH failedIH =>
      constructor
      · exact obeys.1.mono fun answer rest =>
          nextIH answer rest later fun _ holds => holds
      · exact fun error => failedIH error (obeys.2 error) handles weaker

end Program.Obeys

/-- What a transaction that only grows the state writes is a change at stake. -/
theorem Body.Grows.commits {growth : Growth State}
    (allowed : ∀ before after, growth.grows before after →
      rules.stake id before after)
    {body : Body State Key Expectation Label Error Answer}
    (changes : body.Grows growth) {post : Answer → Prop}
    (ends : ∀ answer, post answer) {written : State → State}
    (wrote : ∀ state, growth.grows state (written state)) :
    body.Commits rules id post written := by
  induction body generalizing written with
  | returned answer =>
      exact ⟨fun state _ => allowed _ _ (wrote state), ends answer⟩
  | threw error => exact trivial
  | query statement next failed nextIH failedIH =>
      refine ⟨fun _ _ answer _ =>
        nextIH answer (changes.2.1 answer) fun later => ?_,
        fun error => failedIH error (changes.2.2 error) wrote⟩
      exact growth.trans (wrote later) (changes.1 _ _)

/-- A program whose growth the rules allow at every step. -/
theorem Program.Grows.obeys {growth : Growth State}
    (allowed : ∀ label before after, growth.grows before after →
      rules.Allows id (rules.marked label) before after)
    (staked : ∀ before after, growth.grows before after →
      rules.stake id before after)
    {program : Program State Key Expectation Label Error Result}
    (changes : program.Grows growth) :
    program.Obeys rules id (fun _ => True) fun _ => True := by
  induction program with
  | returned result => exact trivial
  | threw error => exact trivial
  | query statement next failed nextIH failedIH =>
      refine ⟨fun state _ answer _ =>
        ⟨allowed _ _ _ (changes.1 state state), ?_⟩,
        fun error => failedIH error (changes.2.2 error)⟩
      rw [Bool.cond_self]
      exact nextIH answer (changes.2.1 answer)
  | transaction label body next failed nextIH failedIH =>
      refine ⟨changes.1.commits staked
        (fun answer => nextIH answer (changes.2.1 answer))
        growth.refl, fun error => failedIH error (changes.2.2 error)⟩

end

namespace Thread.Obeys

variable {rules : Stakes Id State Label} {id : Id}
  {post post' clean clean' : Result → Prop}
variable {thread : Thread State Key Expectation Label Error Result}

theorem mono (obeys : thread.Obeys rules id post clean)
    (weakerPost : ∀ result, post result → post' result)
    (weakerClean : ∀ result, clean result → clean' result) :
    thread.Obeys rules id post' clean' := by
  cases thread with
  | outside program => exact Program.Obeys.mono obeys weakerPost weakerClean
  | inside body written next failed =>
      exact ⟨obeys.1.mono fun _ rest => rest.mono weakerPost weakerPost,
        fun error => (obeys.2 error).mono weakerPost weakerClean⟩
  | stopped => exact trivial

theorem under {wider : Stakes Id State Label} (within : rules.Within wider id)
    (obeys : thread.Obeys rules id post clean) :
    thread.Obeys wider id post clean := by
  cases thread with
  | outside program => exact Program.Obeys.under within obeys
  | inside body written next failed =>
      exact ⟨(obeys.1.under within).mono fun _ rest => rest.under within,
        fun error => (obeys.2 error).under within⟩
  | stopped => exact trivial

end Thread.Obeys

/-! ## Every step of every run -/

namespace Config

variable [DecidableEq Id] [DecidableEq Key]

/-- The event commits a transaction, or its statement is at a marked site and
succeeds. -/
def atStake (marked : Label → Bool)
    (config : Config Id State Key Expectation Label Error Result) :
    Event Id Error → Bool
  | .run id =>
      match config.thread id with
      | .outside (.query statement _ _) =>
          if Free config.owner id (statement.locks config.state) then
            match statement.answer config.state with
            | .ok _ => marked statement.label
            | .error _ => false
          else false
      | .inside (.returned _) _ _ _ => true
      | _ => false
  | _ => false

/-- A condition on every event of a schedule, in the configuration it meets. -/
def Throughout
    (condition : Config Id State Key Expectation Label Error Result →
      Event Id Error → Prop)
    (config : Config Id State Key Expectation Label Error Result) :
    List (Event Id Error) → Prop
  | [] => True
  | event :: rest => condition config event ∧
      (config.step event).Throughout condition rest

instance decidableThroughout
    (condition : Config Id State Key Expectation Label Error Result →
      Event Id Error → Prop)
    [∀ config event, Decidable (condition config event)]
    (config : Config Id State Key Expectation Label Error Result) :
    (schedule : List (Event Id Error)) →
      Decidable (config.Throughout condition schedule)
  | [] => isTrue trivial
  | event :: rest =>
      have := decidableThroughout condition (config.step event) rest
      inferInstanceAs (Decidable (_ ∧ _))

variable {config : Config Id State Key Expectation Label Error Result}

/-- An event moves the thread it names. -/
theorem step_thread_of_ne (event : Event Id Error) {other : Id}
    (differ : other ≠ event.id) :
    (config.step event).thread other = config.thread other := by
  have elsewhere (thread : Thread State Key Expectation Label Error Result) :
      (config.put event.id thread).thread other = config.thread other :=
    update_of_ne differ _ _
  cases event with
  | run id =>
      simp only [step, advance]
      split
      · split
        · split <;> exact elsewhere _
        · rfl
      · exact elsewhere _
      · split
        · split <;> exact elsewhere _
        · rfl
      · exact elsewhere _
      · exact elsewhere _
      · rfl
  | fail id error =>
      simp only [step, interrupt]
      split <;> first | exact elsewhere _ | rfl
  | stop id => exact elsewhere _

section

variable {rules : Stakes Id State Label} {id : Id} {post clean : Result → Prop}

variable (rules id post clean config) in
/-- In the next configuration the thread goes on obeying, and the committed
state is one that a step at stake, or another step, may leave. -/
def ObeysNext (atStake : Bool)
    (next : Config Id State Key Expectation Label Error Result) : Prop :=
  (next.thread id).Obeys rules id post (bif atStake then post else clean) ∧
    (atStake = false ∧ next.state = config.state ∨
      rules.Allows id atStake config.state next.state)

omit [DecidableEq Key] in
/-- The thread moves on, and the committed state stays. -/
theorem obeysNext_put {thread : Thread State Key Expectation Label Error Result}
    {next : Config Id State Key Expectation Label Error Result}
    (moved : next.thread = (config.put id thread).thread)
    (same : next.state = config.state)
    (obeys : thread.Obeys rules id post clean) :
    config.ObeysNext rules id post clean false next := by
  have own : (config.put id thread).thread id = thread := update_self _ _ _
  refine ⟨?_, .inl ⟨rfl, same⟩⟩
  rw [moved, own]
  exact obeys

theorem advance_obeys (valid : rules.valid config.state)
    (obeys : (config.thread id).Obeys rules id post clean) :
    config.ObeysNext rules id post clean
      (config.atStake rules.marked (.run id : Event Id Error))
      (config.advance id) := by
  have own (thread : Thread State Key Expectation Label Error Result) :
      (config.put id thread).thread id = thread :=
    update_self _ _ _
  cases running : config.thread id with
  | outside program =>
      rw [running] at obeys
      cases program with
      | query statement next failed =>
          simp only [advance, atStake, running]
          split
          · cases answered : statement.answer config.state with
            | ok answer =>
                obtain ⟨changes, continues⟩ :=
                  obeys.1 config.state valid answer answered
                exact ⟨by rw [own]; exact continues, .inr changes⟩
            | error error => exact obeysNext_put rfl rfl (obeys.2 error)
          · exact ⟨by rw [running]; exact obeys, .inl ⟨rfl, rfl⟩⟩
      | transaction label body next failed =>
          simp only [advance, atStake, running]
          exact obeysNext_put rfl rfl obeys
      | returned | threw =>
          simp only [advance, atStake, running]
          exact ⟨by rw [running]; exact obeys, .inl ⟨rfl, rfl⟩⟩
  | inside body written next failed =>
      rw [running] at obeys
      cases body with
      | query statement nextBody failedBody =>
          simp only [advance, atStake, running]
          split
          · cases answered : statement.answer (written config.state) with
            | ok answer =>
                have continues := obeys.1.1 config.state valid answer answered
                exact obeysNext_put rfl rfl ⟨continues, obeys.2⟩
            | error error =>
                exact obeysNext_put rfl rfl ⟨obeys.1.2 error, obeys.2⟩
          · exact ⟨by rw [running]; exact obeys, .inl ⟨rfl, rfl⟩⟩
      | returned answer =>
          simp only [advance, atStake, running]
          exact ⟨by
            rw [own]; exact obeys.1.2, .inr (obeys.1.1 config.state valid)⟩
      | threw error =>
          simp only [advance, atStake, running]
          exact obeysNext_put rfl rfl (obeys.2 error)
  | stopped =>
      simp only [advance, atStake, running]
      exact ⟨by rw [running]; exact trivial, .inl ⟨rfl, rfl⟩⟩

omit [DecidableEq Key] in
theorem interrupt_obeys (error : Error)
    (obeys : (config.thread id).Obeys rules id post clean) :
    config.ObeysNext rules id post clean false (config.interrupt id error) := by
  simp only [interrupt]
  split
  · rename_i statement next failed running
    rw [running] at obeys
    exact obeysNext_put rfl rfl (obeys.2 error)
  · rename_i label body next failed running
    rw [running] at obeys
    exact obeysNext_put rfl rfl (obeys.2 error)
  · rename_i statement nextBody failedBody written next failed running
    rw [running] at obeys
    exact obeysNext_put rfl rfl ⟨obeys.1.2 error, obeys.2⟩
  · rename_i answer written next failed running
    rw [running] at obeys
    exact obeysNext_put rfl rfl (obeys.2 error)
  · exact ⟨obeys, .inl ⟨rfl, rfl⟩⟩

/-- The thread that an event moves goes on obeying, and the committed state
changes as a step of its kind may. -/
theorem step_obeys {event : Event Id Error} (valid : rules.valid config.state)
    (obeys : (config.thread event.id).Obeys rules event.id post clean) :
    config.ObeysNext rules event.id post clean
      (config.atStake rules.marked event) (config.step event) := by
  cases event with
  | run id => exact advance_obeys valid obeys
  | fail id error => exact interrupt_obeys error obeys
  | stop id => exact obeysNext_put rfl rfl trivial

/-- Nothing is at stake for a thread that only does what `quiet` allows: an
event of it leaves the state or changes it so. -/
theorem calm_step {event : Event Id Error}
    (nothing : ∀ before after, ¬ rules.stake event.id before after)
    (valid : rules.valid config.state)
    (obeys : (config.thread event.id).Obeys rules event.id post clean) :
    ((config.step event).thread event.id).Obeys rules event.id post clean ∧
      ((config.step event).state = config.state ∨
        rules.quiet config.state (config.step event).state) := by
  obtain ⟨moved, changed⟩ := step_obeys valid obeys
  cases atStake : config.atStake rules.marked event with
  | false =>
      rw [atStake] at moved changed
      exact ⟨moved, changed.imp And.right fun quiet => quiet⟩
  | true =>
      rw [atStake] at changed
      rcases changed with ⟨calm, _⟩ | stake
      · cases calm
      · exact absurd stake (nothing _ _)

/-- Whatever the other threads do. -/
theorem calm_run (nothing : ∀ before after, ¬ rules.stake id before after)
    (valid : ∀ state, rules.valid state)
    (obeys : (config.thread id).Obeys rules id post clean)
    (schedule : List (Event Id Error)) :
    ((config.run schedule).thread id).Obeys rules id post clean := by
  induction schedule generalizing config with
  | nil => exact obeys
  | cons event rest ih =>
      refine ih ?_
      by_cases mover : id = event.id
      · subst mover
        exact (calm_step nothing (valid _) obeys).1
      · rwa [step_thread_of_ne event mover]

end

section

variable
  {condition weaker : Config Id State Key Expectation Label Error Result →
  Event Id Error → Prop}

theorem throughout_of_mem {schedule : List (Event Id Error)}
    (holds : ∀ config, ∀ event ∈ schedule, condition config event) :
    config.Throughout condition schedule := by
  induction schedule generalizing config with
  | nil => exact trivial
  | cons event rest ih =>
      exact ⟨holds config event List.mem_cons_self,
        ih fun config event member =>
          holds config event (List.mem_cons_of_mem _ member)⟩

theorem Throughout.mono {schedule : List (Event Id Error)}
    (throughout : config.Throughout condition schedule)
    (follows : ∀ config event, condition config event → weaker config event) :
    config.Throughout weaker schedule := by
  induction schedule generalizing config with
  | nil => exact trivial
  | cons event rest ih =>
      exact ⟨follows config event throughout.1, ih throughout.2⟩

theorem throughout_append {early late : List (Event Id Error)} :
    config.Throughout condition (early ++ late) ↔
      config.Throughout condition early ∧
        (config.run early).Throughout condition late := by
  induction early generalizing config with
  | nil => exact ⟨fun throughout => ⟨trivial, throughout⟩, fun both => both.2⟩
  | cons event rest ih =>
      rw [List.cons_append, run_cons]
      exact (and_congr_right fun _ => ih).trans and_assoc.symm

theorem throughout_iff {schedule : List (Event Id Error)} :
    config.Throughout condition schedule ↔
      ∀ before event after, schedule = before ++ event :: after →
        condition (config.run before) event := by
  induction schedule generalizing config with
  | nil =>
      refine ⟨fun _ before event after split => ?_, fun _ => trivial⟩
      cases before <;> cases split
  | cons first rest ih =>
      constructor
      · rintro ⟨meets, later⟩ before event after split
        cases before with
        | nil =>
            cases split
            exact meets
        | cons head before =>
            cases split
            exact ih.mp later before event after rfl
      · intro holds
        refine ⟨holds [] first rest rfl, ih.mpr
          fun before event after split => ?_⟩
        exact holds (first :: before) event after
          (by rw [split, List.cons_append])

/-- A thread that no event names stands where it stood. -/
theorem run_thread_of_ne {schedule : List (Event Id Error)} {id : Id}
    (absent : ∀ event ∈ schedule, event.id ≠ id) :
    (config.run schedule).thread id = config.thread id := by
  induction schedule generalizing config with
  | nil => rfl
  | cons event rest ih =>
      rw [run_cons, ih fun event member =>
        absent event (List.mem_cons_of_mem _ member)]
      exact step_thread_of_ne event (absent event List.mem_cons_self).symm

end

section

variable {rules : Stakes Id State Label}

/-- Every thread obeys the rules, and before a step at stake returns what is in
`clean`. -/
structure Obeying (rules : Stakes Id State Label) (clean : Id → Result → Prop)
    (config : Config Id State Key Expectation Label Error Result) : Prop where
  valid : rules.valid config.state
  threads : ∀ id, (config.thread id).Obeys rules id (fun _ => True) (clean id)

namespace Obeying

variable {clean clean' : Id → Result → Prop} {event : Event Id Error}

omit [DecidableEq Id] [DecidableEq Key] in
theorem mono (obeying : config.Obeying rules clean)
    (weaker : ∀ id result, clean id result → clean' id result) :
    config.Obeying rules clean' where
  valid := obeying.valid
  threads :=
    fun id => (obeying.threads id).mono (fun _ holds => holds) (weaker id)

/-- A step at stake changes what it may. -/
theorem staked (obeying : config.Obeying rules clean)
    (atStake : config.atStake rules.marked event = true) :
    rules.stake event.id config.state (config.step event).state := by
  rcases (step_obeys obeying.valid (obeying.threads event.id)).2 with
    ⟨calm, _⟩ | allows
  · rw [atStake] at calm
    cases calm
  · rwa [atStake] at allows

/-- Any other step leaves the state, or changes what it may. -/
theorem quiet (obeying : config.Obeying rules clean)
    (calm : config.atStake rules.marked event = false) :
    (config.step event).state = config.state ∨
      rules.quiet config.state (config.step event).state := by
  rcases (step_obeys obeying.valid (obeying.threads event.id)).2 with
    ⟨_, same⟩ | allows
  · exact .inl same
  · rw [calm] at allows
    exact .inr allows

theorem step (obeying : config.Obeying rules clean)
    (calm : config.atStake rules.marked event = true → ∀ result,
      clean event.id result) : (config.step event).Obeying rules clean := by
  constructor
  · cases atStake : config.atStake rules.marked event with
    | true => exact rules.valid_stake (obeying.staked atStake) obeying.valid
    | false =>
        rcases obeying.quiet atStake with same | changes
        · rw [same]
          exact obeying.valid
        · exact rules.valid_quiet changes obeying.valid
  · intro other
    by_cases mover : other = event.id
    · subst mover
      have moved := (step_obeys obeying.valid (obeying.threads event.id)).1
      cases atStake : config.atStake rules.marked event with
      | false => rwa [atStake] at moved
      | true =>
          rw [atStake] at moved
          exact moved.mono (fun _ holds => holds) fun result _ =>
            calm atStake result
    · rw [step_thread_of_ne event mover]
      exact obeying.threads other

/-- What every allowed step keeps that meets the condition, a run keeps all of
whose steps do. -/
theorem run {condition : Config Id State Key Expectation Label Error Result →
      Event Id Error → Prop} (keeps : State → Prop)
    (obeying : config.Obeying rules clean) (schedule : List (Event Id Error))
    (throughout : config.Throughout condition schedule)
    (calm : ∀ config event, condition config event →
      config.Obeying rules clean →
      keeps config.state → config.atStake rules.marked event = true →
        ∀ result, clean event.id result)
    (staked : ∀ config event, condition config event →
      rules.valid config.state →
      keeps config.state → config.atStake rules.marked event = true →
        ∀ after, rules.stake event.id config.state after → keeps after)
    (quiet : ∀ before after, rules.quiet before after → keeps before →
      keeps after) (holds : keeps config.state) :
    config.Throughout (fun config event => condition config event ∧
        config.Obeying rules clean ∧ keeps config.state) schedule ∧
      (config.run schedule).Obeying rules clean ∧
        keeps (config.run schedule).state := by
  induction schedule generalizing config with
  | nil => exact ⟨trivial, obeying, holds⟩
  | cons event rest ih =>
      obtain ⟨meets, later⟩ := throughout
      have held : keeps (config.step event).state := by
        cases atStake : config.atStake rules.marked event with
        | true =>
            exact staked config event meets obeying.valid holds atStake _
              (obeying.staked atStake)
        | false =>
            rcases obeying.quiet atStake with same | changes
            · rwa [same]
            · exact quiet _ _ changes holds
      obtain ⟨met, reached⟩ :=
        ih (obeying.step (calm config event meets obeying holds)) later held
      exact ⟨⟨⟨meets, obeying, holds⟩, met⟩, reached⟩

omit [DecidableEq Id] [DecidableEq Key] in
/-- A call that returns without a step at stake returns what is in `clean`. -/
theorem returned (obeying : config.Obeying rules clean) {id : Id}
    {result : Result}
    (ended : (config.thread id).outcome? = some (.returned result)) :
    clean id result := by
  have obeys := obeying.threads id
  cases at_end : config.thread id with
  | outside program =>
      rw [at_end] at obeys ended
      cases program <;> simp [Thread.outcome?] at ended
      subst ended
      exact obeys
  | inside => simp [at_end, Thread.outcome?] at ended
  | stopped => simp [at_end, Thread.outcome?] at ended

end Obeying

end

end Config

end CloudStudio.Transactions
