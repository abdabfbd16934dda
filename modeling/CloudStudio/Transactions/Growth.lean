import CloudStudio.Transactions.Protocol

/-!
# Reading a database that grows

When every statement changes the state within a preorder, what a thread has read
is what it was in a past of the current state.  The protocol `remembering` keeps
one such past for each thread: a statement that reads can take the state it
meets for the next one.
-/

namespace CloudStudio.Transactions

open Function

variable {Id State Key Expectation Label Error Result Answer Answer' : Type}

/-- A preorder on states. -/
structure Growth (State : Type) where
  grows : State → State → Prop
  refl : ∀ state, grows state state
  trans : ∀ {first second third}, grows first second → grows second third →
    grows first third

variable {growth : Growth State}

/-- What the statement changes depends on the state it met. -/
def Query.Grows (growth : Growth State)
    (statement : Query State Key Expectation Label Error Answer) : Prop :=
  ∀ met state, growth.grows state (statement.effect met state)

def Body.Grows (growth : Growth State) :
    Body State Key Expectation Label Error Result → Prop
  | .returned _ | .threw _ => True
  | .query statement next failed =>
      statement.Grows growth ∧ (∀ answer, (next answer).Grows growth) ∧
        ∀ error, (failed error).Grows growth

def Program.Grows (growth : Growth State) :
    Program State Key Expectation Label Error Result → Prop
  | .returned _ | .threw _ => True
  | .query statement next failed =>
      statement.Grows growth ∧ (∀ answer, (next answer).Grows growth) ∧
        ∀ error, (failed error).Grows growth
  | .transaction _ body next failed =>
      body.Grows growth ∧ (∀ answer, (next answer).Grows growth) ∧
        ∀ error, (failed error).Grows growth

theorem Query.Grows.idle
    {statement : Query State Key Expectation Label Error Answer}
    (same : ∀ met state, statement.effect met state = state) :
    statement.Grows growth := by
  intro met state
  rw [same]
  exact growth.refl state

theorem Body.Grows.bind {body : Body State Key Expectation Label Error Answer}
    {rest : Answer → Body State Key Expectation Label Error Result}
    (first : body.Grows growth) (next : ∀ answer, (rest answer).Grows growth) :
    (body >>= rest).Grows growth := by
  change (body.bind rest).Grows growth
  induction body with
  | returned answer => exact next answer
  | threw error => exact trivial
  | query statement later failed laterIH failedIH =>
      exact ⟨first.1, fun answer => laterIH answer (first.2.1 answer),
        fun error => failedIH error (first.2.2 error)⟩

theorem Body.Grows.perform
    {statement : Query State Key Expectation Label Error Result}
    (changes : statement.Grows growth) :
    (Body.perform statement).Grows growth :=
  ⟨changes, fun _ => trivial, fun _ => trivial⟩

namespace Program.Grows

theorem bind {program : Program State Key Expectation Label Error Answer}
    {rest : Answer → Program State Key Expectation Label Error Result}
    (first : program.Grows growth)
    (next : ∀ answer, (rest answer).Grows growth) :
    (program >>= rest).Grows growth := by
  change (program.bind rest).Grows growth
  induction program with
  | returned answer => exact next answer
  | threw error => exact trivial
  | query statement later failed laterIH failedIH =>
      exact ⟨first.1, fun answer => laterIH answer (first.2.1 answer),
        fun error => failedIH error (first.2.2 error)⟩
  | transaction label body later failed laterIH failedIH =>
      exact ⟨first.1, fun answer => laterIH answer (first.2.1 answer),
        fun error => failedIH error (first.2.2 error)⟩

theorem perform {statement : Query State Key Expectation Label Error Result}
    (changes : statement.Grows growth) :
    (Program.perform statement).Grows growth :=
  ⟨changes, fun _ => trivial, fun _ => trivial⟩

theorem atomically {label : Label}
    {body : Body State Key Expectation Label Error Result}
    (changes : body.Grows growth) :
    (Program.atomically label body).Grows growth :=
  ⟨changes, fun _ => trivial, fun _ => trivial⟩

/-- `try`: the handler only grows the state too. -/
theorem catching {program : Program State Key Expectation Label Error Result}
    {handler : Error → Program State Key Expectation Label Error Result}
    (tried : program.Grows growth)
    (handles : ∀ error, (handler error).Grows growth) :
    (program.catching handler).Grows growth := by
  induction program with
  | returned result => exact tried
  | threw error => exact handles error
  | query statement next failed nextIH failedIH =>
      exact ⟨tried.1, fun answer => nextIH answer (tried.2.1 answer),
        fun error => failedIH error (tried.2.2 error)⟩
  | transaction label body next failed nextIH failedIH =>
      exact ⟨tried.1, fun answer => nextIH answer (tried.2.1 answer),
        fun error => failedIH error (tried.2.2 error)⟩

end Program.Grows

variable [DecidableEq Id]

/-- The current state has grown from the past that each thread remembers. -/
def remembering (Key Expectation : Type) (growth : Growth State) :
    Protocol Id State Key Expectation (Option State) where
  assumed := []
  invariant := fun state _ held => ∀ id, ∀ past ∈ held id,
    growth.grows past state
  guarantee := fun _ => growth.grows
  abandon := fun past => past
  guarantee_refl := fun _ => growth.refl
  invariant_abandon := by
    intro state owner held own kept
    simpa only [update_eq_self] using kept

variable [DecidableEq Key] {id : Id}

omit [DecidableEq Key] in
/-- The current state remembers itself, and the pasts of the others are its own
too. -/
theorem remembers {state : State} {owner : Key → Option Id}
    {held : Id → Option State}
    (kept : (remembering Key Expectation growth).invariant state owner
      held) (id : Id) (owner' : Key → Option Id) :
    (remembering Key Expectation growth).invariant state owner'
      (update held id (some state)) := by
  intro other past member
  by_cases same : other = id
  · subst same
    rw [update_self] at member
    obtain rfl := Option.some.inj member
    exact growth.refl _
  · rw [update_of_ne same] at member
    exact kept other past member

omit [DecidableEq Key] in
/-- A state that has grown from the current one has grown from every past. -/
theorem remembers_grown {state later : State} {owner owner' : Key → Option Id}
    {held : Id → Option State}
    (kept : (remembering Key Expectation growth).invariant state owner
      held) (grown : growth.grows state later) (id : Id) :
    (remembering Key Expectation growth).invariant later owner'
      (update held id (held id)) := by
  rw [update_eq_self]
  exact fun other past member => growth.trans (kept other past member) grown

/-- A transaction that only grows the state keeps the protocol, if its program
does. -/
theorem Body.Grows.safe {body : Body State Key Expectation Label Error Answer}
    (changes : body.Grows growth) {safeNext : Answer → Option State → Prop}
    {safeFailed : Error → Option State → Prop} {past : Option State}
    (next : ∀ answer, safeNext answer past)
    (failed : ∀ error, safeFailed error past) {written : State → State}
    (wrote : ∀ state, growth.grows state (written state)) :
    body.Safe (remembering Key Expectation growth) id
      (CommitSafe (remembering Key Expectation growth) id safeNext safeFailed)
        safeFailed written past := by
  induction body generalizing written with
  | returned answer =>
      refine ⟨fun state owner held kept own =>
        ⟨past, ?_, wrote state, trivial, next answer⟩, failed⟩
      subst own
      exact remembers_grown kept (wrote state) id
  | threw error => exact failed error
  | query statement later recover laterIH recoverIH =>
      refine ⟨fun state owner held kept own _ _ answer _ => ⟨past, ?_, ?_⟩,
        fun error =>
        recoverIH error (changes.2.2 error) wrote⟩
      · subst own
        rw [update_eq_self]
        exact kept
      · exact laterIH answer (changes.2.1 answer) fun state =>
          growth.trans (wrote state) (changes.1 _ _)

/-- A program that only grows the state keeps the protocol. -/
theorem Program.Grows.safe
    {program : Program State Key Expectation Label Error Result}
    (changes : program.Grows growth) (past : Option State) :
    program.Safe (remembering Key Expectation growth) id
      (fun _ _ => True) (fun _ _ => True) past := by
  induction program with
  | returned result => exact trivial
  | threw error => exact trivial
  | query statement next failed nextIH failedIH =>
      refine ⟨fun state owner held kept own _ _ answer _ =>
        ⟨past, ?_, changes.1 _ _,
        nextIH answer (changes.2.1 answer)⟩, fun error =>
          failedIH error (changes.2.2 error)⟩
      subst own
      exact remembers_grown kept (changes.1 state state) id
  | transaction label body next failed nextIH failedIH =>
      have fails (error : Error) := failedIH error (changes.2.2 error)
      exact ⟨changes.1.safe (fun answer => nextIH answer (changes.2.1 answer))
        fails growth.refl, fails⟩

/-- A statement that reads: what it meets has grown from the past, and is the
next one. -/
theorem Program.Safe.observe
    {statement : Query State Key Expectation Label Error Answer}
    {next : Answer → Program State Key Expectation Label Error Result}
    {failed : Error → Program State Key Expectation Label Error Result}
    {post : Result → Option State → Prop} {thrown : Error → Option State → Prop}
    {past : Option State}
    (idle : ∀ met state, statement.effect met state = state)
    (safeNext : ∀ now, (∀ state ∈ past, growth.grows state now) → ∀ answer,
      statement.answer now = .ok answer →
        (next answer).Safe (remembering Key Expectation growth) id post
          thrown (some now)) (safeFailed : ∀ error, (failed error).Safe
      (remembering Key Expectation growth) id post thrown past) :
    (Program.query statement next failed).Safe
      (remembering Key Expectation growth) id post thrown past := by
  refine ⟨fun state owner held kept own _ _ answer answered =>
    ⟨some state, ?_, ?_, ?_⟩, safeFailed⟩
  · rw [idle]
    exact remembers kept id owner
  · rw [idle]
    exact growth.refl state
  · subst own
    exact safeNext state (kept id) answer answered

/-- The same in a transaction that has written nothing. -/
theorem Body.Safe.observe
    {statement : Query State Key Expectation Label Error Answer'}
    {next : Answer' → Body State Key Expectation Label Error Answer}
    {failed : Error → Body State Key Expectation Label Error Answer}
    {done : Answer → (State → State) → Option State → Prop}
    {thrown : Error → Option State → Prop} {past : Option State}
    (idle : ∀ met state, statement.effect met state = state)
    (safeNext : ∀ now, (∀ state ∈ past, growth.grows state now) → ∀ answer,
      statement.answer now = .ok answer →
        (next answer).Safe (remembering Key Expectation growth) id done
          thrown (fun state => state) (some now))
    (safeFailed : ∀ error, (failed error).Safe
      (remembering Key Expectation growth) id done thrown
        (fun state => state) past) :
    (Body.query statement next failed).Safe
      (remembering Key Expectation growth) id done thrown
        (fun state => state) past := by
  refine ⟨fun state owner held kept own _ _ answer answered =>
    ⟨some state, ?_, ?_⟩, safeFailed⟩
  · exact remembers kept id _
  · simp only [idle]
    subst own
    exact safeNext state (kept id) answer answered

omit [DecidableEq Key] in
/-- A transaction that has written nothing commits nothing. -/
theorem CommitSafe.unwritten {answer : Answer} {past : Option State}
    {safeNext : Answer → Option State → Prop}
    {safeFailed : Error → Option State → Prop} (next : safeNext answer past)
    (failed : ∀ error, safeFailed error past) :
    CommitSafe (remembering Key Expectation growth) id safeNext
      safeFailed answer (fun state => state) past := by
  refine ⟨fun state owner held kept own =>
    ⟨past, ?_, growth.refl state, trivial, next⟩, failed⟩
  subst own
  exact remembers_grown kept (growth.refl state) id

end CloudStudio.Transactions
