import CloudStudio.Transactions.Protocol

/-!
# Invariants of single statements

`Program.Keeps good program post` says that every statement of a program keeps
`good` states good, whatever good state it has met, and that what the program
returns is in `post`.  Nothing a thread has read needs to stay as it was, so the
invariant holds of every interleaving (`Config.keeps_run`).
-/

namespace CloudStudio.Transactions

open Function

variable {Id State Key Expectation Label Error Result Answer : Type}

/-- The statement answers as `fits` says and changes good states into good ones;
what it changes depends on the state it met. -/
def Query.Keeps (assumed : List Expectation) (good : State → Prop)
    (statement : Query State Key Expectation Label Error Answer)
    (fits : Answer → Prop) : Prop :=
  ∀ met answer, good met →
    (∀ expectation ∈ assumed, statement.expects expectation met = true) →
    statement.answer met = .ok answer →
      (∀ state, good state → good (statement.effect met state)) ∧ fits answer

def Body.Keeps (assumed : List Expectation) (good : State → Prop)
    (post : Result → Prop) :
    Body State Key Expectation Label Error Result → Prop
  | .returned result => post result
  | .threw _ => True
  | .query statement next failed =>
      statement.Keeps assumed good (fun answer =>
        (next answer).Keeps assumed good post) ∧
        ∀ error, (failed error).Keeps assumed good post

def Program.Keeps (assumed : List Expectation) (good : State → Prop)
    (post : Result → Prop) :
    Program State Key Expectation Label Error Result → Prop
  | .returned result => post result
  | .threw _ => True
  | .query statement next failed =>
      statement.Keeps assumed good (fun answer =>
        (next answer).Keeps assumed good post) ∧
        ∀ error, (failed error).Keeps assumed good post
  | .transaction _ body next failed =>
      body.Keeps assumed good (fun answer =>
        (next answer).Keeps assumed good post) ∧
        ∀ error, (failed error).Keeps assumed good post

variable {assumed : List Expectation} {good : State → Prop}

theorem Query.Keeps.mono
    {statement : Query State Key Expectation Label Error Answer}
    {fits fits' : Answer → Prop} (keeps : statement.Keeps assumed good fits)
    (weaker : ∀ answer, fits answer → fits' answer) :
    statement.Keeps assumed good fits' := by
  intro met answer holds expected answered
  obtain ⟨kept, right⟩ := keeps met answer holds expected answered
  exact ⟨kept, weaker answer right⟩

/-- A statement whose change does not matter and whose answer is not looked
at. -/
theorem Query.Keeps.aside
    {statement : Query State Key Expectation Label Error Answer}
    {fits : Answer → Prop}
    (kept : ∀ met state, good state → good (statement.effect met state))
    (any : ∀ answer, fits answer) : statement.Keeps assumed good fits :=
  fun met answer _ _ _ => ⟨kept met, any answer⟩

/-- A statement that changes nothing. -/
theorem Query.Keeps.read
    {statement : Query State Key Expectation Label Error Answer}
    {fits : Answer → Prop}
    (idle : ∀ met state, statement.effect met state = state)
    (right : ∀ met answer, good met →
      (∀ expectation ∈ assumed, statement.expects expectation met = true) →
      statement.answer met = .ok answer → fits answer) :
    statement.Keeps assumed good fits := by
  intro met answer holds expected answered
  constructor
  · intro state kept
    rw [idle]
    exact kept
  · exact right met answer holds expected answered

namespace Body.Keeps

variable {post post' : Result → Prop}

theorem mono {body : Body State Key Expectation Label Error Result}
    (keeps : body.Keeps assumed good post)
    (weaker : ∀ result, post result → post' result) :
    body.Keeps assumed good post' := by
  induction body with
  | returned result => exact weaker result keeps
  | threw error => exact trivial
  | query statement next failed nextIH failedIH =>
      constructor
      · exact keeps.1.mono nextIH
      · exact fun error => failedIH error (keeps.2 error)

theorem bind {mid : Answer → Prop}
    {body : Body State Key Expectation Label Error Answer}
    {rest : Answer → Body State Key Expectation Label Error Result}
    (keeps : body.Keeps assumed good mid)
    (next : ∀ answer, mid answer → (rest answer).Keeps assumed good post) :
    (body >>= rest).Keeps assumed good post := by
  change (body.bind rest).Keeps assumed good post
  induction body with
  | returned answer => exact next answer keeps
  | threw error => exact trivial
  | query statement later failed laterIH failedIH =>
      constructor
      · exact keeps.1.mono laterIH
      · exact fun error => failedIH error (keeps.2 error)

theorem perform {statement : Query State Key Expectation Label Error Result}
    (keeps : statement.Keeps assumed good post) :
    (Body.perform statement).Keeps assumed good post :=
  ⟨keeps, fun _ => trivial⟩

end Body.Keeps

namespace Program.Keeps

variable {post post' : Result → Prop}

theorem mono {program : Program State Key Expectation Label Error Result}
    (keeps : program.Keeps assumed good post)
    (weaker : ∀ result, post result → post' result) :
    program.Keeps assumed good post' := by
  induction program with
  | returned result => exact weaker result keeps
  | threw error => exact trivial
  | query statement next failed nextIH failedIH =>
      constructor
      · exact keeps.1.mono nextIH
      · exact fun error => failedIH error (keeps.2 error)
  | transaction label body next failed nextIH failedIH =>
      constructor
      · exact keeps.1.mono nextIH
      · exact fun error => failedIH error (keeps.2 error)

/-- Sequential composition: the rest keeps the invariant for whatever the first
part returns. -/
theorem bind {mid : Answer → Prop}
    {program : Program State Key Expectation Label Error Answer}
    {rest : Answer → Program State Key Expectation Label Error Result}
    (keeps : program.Keeps assumed good mid)
    (next : ∀ answer, mid answer → (rest answer).Keeps assumed good post) :
    (program >>= rest).Keeps assumed good post := by
  change (program.bind rest).Keeps assumed good post
  induction program with
  | returned answer => exact next answer keeps
  | threw error => exact trivial
  | query statement later failed laterIH failedIH =>
      constructor
      · exact keeps.1.mono laterIH
      · exact fun error => failedIH error (keeps.2 error)
  | transaction label body later failed laterIH failedIH =>
      constructor
      · exact keeps.1.mono laterIH
      · exact fun error => failedIH error (keeps.2 error)

theorem perform {statement : Query State Key Expectation Label Error Result}
    (keeps : statement.Keeps assumed good post) :
    (Program.perform statement).Keeps assumed good post :=
  ⟨keeps, fun _ => trivial⟩

theorem atomically {label : Label}
    {body : Body State Key Expectation Label Error Result}
    (keeps : body.Keeps assumed good post) :
    (Program.atomically label body).Keeps assumed good post :=
  ⟨keeps, fun _ => trivial⟩

/-- `try`: the handler keeps the invariant too. -/
theorem catching {program : Program State Key Expectation Label Error Result}
    {handler : Error → Program State Key Expectation Label Error Result}
    (keeps : program.Keeps assumed good post)
    (handles : ∀ error, (handler error).Keeps assumed good post) :
    (program.catching handler).Keeps assumed good post := by
  induction program with
  | returned result => exact keeps
  | threw error => exact handles error
  | query statement next failed nextIH failedIH =>
      constructor
      · exact keeps.1.mono nextIH
      · exact fun error => failedIH error (keeps.2 error)
  | transaction label body next failed nextIH failedIH =>
      constructor
      · exact keeps.1.mono nextIH
      · exact fun error => failedIH error (keeps.2 error)

/-- A call for its effect only. -/
theorem discard {program : Program State Key Expectation Label Error Answer}
    {mid : Answer → Prop} {post : Unit → Prop}
    (keeps : program.Keeps assumed good mid) (ends : post ()) :
    (Program.discard program).Keeps assumed good post :=
  keeps.bind fun _ _ => ends

theorem when {condition : Prop} [Decidable condition]
    {program : Program State Key Expectation Label Error Unit}
    {post : Unit → Prop} (keeps : program.Keeps assumed good post)
    (skipped : post ()) :
    (Program.when condition program).Keeps assumed good post := by
  unfold Program.when
  split
  · exact keeps
  · exact skipped

theorem forEach {Item : Type} {items : List Item}
    {step : Item → Program State Key Expectation Label Error Unit}
    {post : Unit → Prop}
    (keeps : ∀ item ∈ items, (step item).Keeps assumed good post)
    (ends : post ()) :
    (Program.forEach items step).Keeps assumed good post := by
  induction items with
  | nil => exact ends
  | cons item rest ih =>
      apply (keeps item List.mem_cons_self).bind
      intro _ _
      exact ih fun other member =>
        keeps other (List.mem_cons_of_mem item member)

end Program.Keeps

theorem Body.Keeps.run {post : Result → Prop}
    {body : Body State Key Expectation Label Error Result} {state : State}
    (keeps : body.Keeps [] good post) (start : good state) :
    good (body.run state).2 ∧ ∀ result, (body.run state).1 = .ok result →
      post result := by
  induction body generalizing state with
  | returned result =>
      refine ⟨start, fun other same => ?_⟩
      cases same
      exact keeps
  | threw error => exact ⟨start, fun _ same => by cases same⟩
  | query statement next failed nextIH failedIH =>
      rw [Body.run_query]
      cases answered : statement.answer state with
      | ok answer =>
          obtain ⟨kept, rest⟩ := keeps.1 state answer start
            (fun _ member => by cases member) answered
          exact nextIH answer rest (kept state start)
      | error error => exact failedIH error (keeps.2 error) start

/-- A program that runs alone leaves a good state, however it ends. -/
theorem Program.Keeps.run {post : Result → Prop}
    {program : Program State Key Expectation Label Error Result} {state : State}
    (keeps : program.Keeps [] good post) (start : good state) :
    good (program.run state).2 := by
  induction program generalizing state with
  | returned result => exact start
  | threw error => exact start
  | query statement next failed nextIH failedIH =>
      rw [Program.run_query]
      cases answered : statement.answer state with
      | ok answer =>
          obtain ⟨kept, rest⟩ := keeps.1 state answer start
            (fun _ member => by cases member) answered
          exact nextIH answer rest (kept state start)
      | error error => exact failedIH error (keeps.2 error) start
  | transaction label body next failed nextIH failedIH =>
      obtain ⟨kept, rest⟩ := keeps.1.run start
      rw [Program.run_transaction]
      rcases ran : body.run state with ⟨error | answer, written⟩
      · exact failedIH error (keeps.2 error) start
      · rw [ran] at kept rest
        exact nextIH answer (rest answer rfl) kept

section

variable [DecidableEq Id]

/-- The rules of an invariant of the committed state alone. -/
def keeping (assumed : List Expectation) (good : State → Prop) :
    Protocol Id State Key Expectation Unit where
  assumed
  invariant := fun state _ _ => good state
  guarantee := fun _ _ _ => True
  abandon := id
  guarantee_refl := fun _ _ => trivial
  invariant_abandon := fun _ kept => kept

variable [DecidableEq Key] {id : Id}

/-- What a transaction has written keeps good states good, and it goes on like
that. -/
theorem Body.Keeps.safe {body : Body State Key Expectation Label Error Answer}
    {post : Answer → Prop} {done : Answer → (State → State) → Unit → Prop}
    {thrown : Error → Unit → Prop} {written : State → State}
    (keeps : body.Keeps assumed good post)
    (kept : ∀ state, good state → good (written state))
    (ends : ∀ answer written, post answer →
      (∀ state, good state → good (written state)) →
      done answer written ()) (throws : ∀ error, thrown error ()) :
    body.Safe (keeping assumed good) id done thrown written () := by
  induction body generalizing written with
  | returned answer => exact ends answer written keeps kept
  | threw error => exact throws error
  | query statement next failed nextIH failedIH =>
      constructor
      · intro state owner held holds _ _ expected answer answered
        obtain ⟨changes, rest⟩ :=
          keeps.1 (written state) answer (kept state holds) expected answered
        exact ⟨(), holds, nextIH answer rest fun later good =>
          changes _ (kept later good)⟩
      · exact fun error => failedIH error (keeps.2 error) kept

theorem Program.Keeps.safe
    {program : Program State Key Expectation Label Error Result}
    {post : Result → Prop} (keeps : program.Keeps assumed good post) :
    program.Safe (keeping assumed good) id (fun result _ => post result)
      (fun _ _ => True) () := by
  induction program with
  | returned result => exact keeps
  | threw error => exact trivial
  | query statement next failed nextIH failedIH =>
      constructor
      · intro state owner held holds _ _ expected answer answered
        obtain ⟨changes, rest⟩ := keeps.1 state answer holds expected answered
        exact ⟨(), changes state holds, trivial, nextIH answer rest⟩
      · exact fun error => failedIH error (keeps.2 error)
  | transaction label body next failed nextIH failedIH =>
      have fails (error : Error) := failedIH error (keeps.2 error)
      constructor
      · apply keeps.1.safe (fun _ holds => holds)
        · intro answer written rest kept
          constructor
          · intro state owner held holds _
            exact ⟨(), kept state holds, trivial, trivial, nextIH answer rest⟩
          · exact fails
        · exact fails
      · exact fails

/-- However programs interleave, fail or stop, an invariant that all their
statements keep holds. -/
theorem Config.keeps_run {state : State}
    {program : Id → Program State Key Expectation Label Error Result}
    {post : Result → Prop} (start : good state)
    (keeps : ∀ id, (program id).Keeps assumed good post)
    (schedule : List (Event Id Error))
    (expected : (Config.start state program).AsExpected assumed schedule) :
    good ((Config.start state program).run schedule).state := by
  have sound : Config.Sound (keeping assumed good)
    (fun _ result _ => post result)
      (fun _ _ _ => True) (Config.start state program) :=
    ⟨fun _ => (), start, fun id => (keeps id).safe⟩
  obtain ⟨held, reached, _⟩ := sound.run schedule expected
  exact reached

end

end CloudStudio.Transactions
