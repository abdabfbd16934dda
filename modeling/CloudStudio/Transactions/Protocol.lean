import Mathlib.Data.List.Nodup
import CloudStudio.Transactions.Interleaving

/-!
# Proving interleaved programs thread by thread

A protocol gives every thread a ghost value: what it has promised, or may still
do.  Its invariant relates the committed state, the row locks and all ghosts.
`Program.Safe` follows one program through its statements, at each one meeting
an arbitrary state of the protocol in which its own ghost is as it left it.  If
every thread is safe, every run keeps the invariant (`Config.Sound.run`).
-/

namespace CloudStudio.Transactions

open Function

variable
  {Id State Key Expectation Label Error Result Answer Answer' Ghost : Type}
variable [DecidableEq Id] [DecidableEq Key]

/-- The rules threads keep to.  `guarantee` is what every single change of the
committed state satisfies; `abandon` is a thread's ghost after its open
transaction is undone, and `committed` holds of it after a commit. -/
structure Protocol (Id State Key Expectation Ghost : Type) [DecidableEq Id]
    where
  assumed : List Expectation
  invariant : State → (Key → Option Id) → (Id → Ghost) → Prop
  guarantee : Id → State → State → Prop
  abandon : Ghost → Ghost
  committed : Ghost → Prop := fun _ => True
  guarantee_refl : ∀ id state, guarantee id state state
  invariant_abandon : ∀ {state owner held} (id : Id),
    invariant state owner held →
    invariant state (release owner id) (update held id (abandon (held id)))

variable (protocol : Protocol Id State Key Expectation Ghost)

/-- From here on the transaction keeps the protocol until it commits (`done`) or
is undone (`thrown`). -/
def Body.Safe (id : Id) (done : Answer → (State → State) → Ghost → Prop)
    (thrown : Error → Ghost → Prop) :
    Body State Key Expectation Label Error Answer → (State → State) → Ghost →
      Prop
  | .returned answer, written, ghost => done answer written ghost
  | .threw error, _, ghost => thrown error ghost
  | .query statement next failed, written, ghost =>
      (∀ state owner held, protocol.invariant state owner held →
        held id = ghost → Free owner id (statement.locks (written state)) →
        (∀ expectation ∈ protocol.assumed,
          statement.expects expectation (written state) = true) →
        ∀ answer, statement.answer (written state) = .ok answer →
          ∃ ghost',
            protocol.invariant state
              (acquire owner id (statement.locks (written state)))
              (update held id ghost') ∧
            (next answer).Safe id done thrown
              (fun later => statement.effect (written state) (written later))
                ghost') ∧
      ∀ error, (failed error).Safe id done thrown written ghost

/-- A commit keeps the protocol, and so does the failure of the commit. -/
def CommitSafe (id : Id) (safeNext : Answer → Ghost → Prop)
    (safeFailed : Error → Ghost → Prop) (answer : Answer)
    (written : State → State) (ghost : Ghost) : Prop :=
  (∀ state owner held, protocol.invariant state owner held → held id = ghost →
    ∃ ghost',
      protocol.invariant (written state) (release owner id)
        (update held id ghost') ∧
      protocol.guarantee id state (written state) ∧ protocol.committed ghost' ∧
      safeNext answer ghost') ∧
  ∀ error, safeFailed error (protocol.abandon ghost)

/-- From here on the program keeps the protocol and ends in `post` or
`thrown`. -/
def Program.Safe (id : Id) (post : Result → Ghost → Prop)
    (thrown : Error → Ghost → Prop) :
    Program State Key Expectation Label Error Result → Ghost → Prop
  | .returned result, ghost => post result ghost
  | .threw error, ghost => thrown error ghost
  | .query statement next failed, ghost =>
      (∀ state owner held, protocol.invariant state owner held →
        held id = ghost → Free owner id (statement.locks state) →
        (∀ expectation ∈ protocol.assumed,
          statement.expects expectation state = true) →
        ∀ answer, statement.answer state = .ok answer →
          ∃ ghost',
            protocol.invariant (statement.effect state state) owner
              (update held id ghost') ∧
            protocol.guarantee id state (statement.effect state state) ∧
            (next answer).Safe id post thrown ghost') ∧
      ∀ error, (failed error).Safe id post thrown ghost
  | .transaction _ body next failed, ghost =>
      body.Safe protocol id
        (CommitSafe protocol id
          (fun answer => (next answer).Safe id post thrown)
          (fun error => (failed error).Safe id post thrown))
        (fun error ghost =>
          (failed error).Safe id post thrown (protocol.abandon ghost))
        (fun state => state) ghost ∧
      ∀ error, (failed error).Safe id post thrown ghost

/-- The same for a thread that may be inside a transaction. -/
def Thread.Safe (id : Id) (post : Result → Ghost → Prop)
    (thrown : Error → Ghost → Prop) :
    Thread State Key Expectation Label Error Result → Ghost → Prop
  | .outside program, ghost => program.Safe protocol id post thrown ghost
  | .inside body written next failed, ghost =>
      body.Safe protocol id
        (CommitSafe protocol id
          (fun answer => (next answer).Safe protocol id post thrown)
          (fun error => (failed error).Safe protocol id post thrown))
        (fun error ghost =>
          (failed error).Safe protocol id post thrown (protocol.abandon ghost))
        written ghost
  | .stopped, _ => True

/-- `history` is `start` followed by what the threads have contributed, each
thread at one place. -/
def Contributes {Row : Type} (start history : List Row)
    (posted : Id → List Row) : Prop :=
  ∃ order : List Id, order.Nodup ∧ (∀ id, id ∈ order ↔ posted id ≠ []) ∧
    history = start ++ order.flatMap posted

omit [DecidableEq Id] in
theorem contributes_start {Row : Type} (start : List Row) :
    Contributes start start (fun _ : Id => []) :=
  ⟨[], by simp⟩

/-- A thread that has contributed nothing yet adds its rows at the end. -/
theorem Contributes.append {Row : Type} {start history rows : List Row}
    {posted : Id → List Row} {id : Id}
    (contributes : Contributes start history posted) (none_yet : posted id = [])
    (some_rows : rows ≠ []) :
    Contributes start (history ++ rows) (update posted id rows) := by
  obtain ⟨order, distinct, members, rfl⟩ := contributes
  have absent : id ∉ order := fun member => (members id).mp member none_yet
  refine ⟨order ++ [id], ?_, ?_, ?_⟩
  · exact distinct.append (List.nodup_singleton id) (by simpa using absent)
  · intro other
    by_cases same : other = id
    · subst same
      simp [some_rows]
    · simp [same, members other]
  · have others : order.flatMap (update posted id rows) =
      order.flatMap posted := by
      rw [List.flatMap_def, List.flatMap_def]
      congr 1
      refine List.map_congr_left fun other member => ?_
      have differ : other ≠ id := fun same => absent (same ▸ member)
      exact update_of_ne differ _ _
    simp [others]

/-- What holds of every thread's duty still does when one thread gets
another. -/
theorem duties_update {Duty : Type} {held : Id → Option Duty}
    {keeps : Duty → Prop} {id : Id} {next : Option Duty}
    (kept : ∀ id, ∀ duty ∈ held id, keeps duty)
    (holds : ∀ duty ∈ next, keeps duty) :
    ∀ other, ∀ duty ∈ update held id next other, keeps duty := by
  intro other rival theirs
  by_cases same : other = id
  · subst same
    rw [update_self] at theirs
    exact holds rival theirs
  · rw [update_of_ne same] at theirs
    exact kept other rival theirs

/-- No two threads have duties at one position, also after one has taken a free
one. -/
theorem exclusive_update {Duty Position : Type} {position : Duty → Position}
    {held : Id → Option Duty} {id : Id} {next : Option Duty}
    (sole : ∀ id other duty rival, held id = some duty →
      held other = some rival →
      position duty = position rival → id = other)
    (alone : ∀ other ≠ id, ∀ duty rival, next = some duty →
      held other = some rival →
      position duty ≠ position rival) :
    ∀ first second duty rival, update held id next first = some duty →
      update held id next second = some rival → position duty = position rival →
        first = second := by
  intro first second duty rival mine theirs equal
  by_cases isFirst : first = id
  · subst isFirst
    rw [update_self] at mine
    by_cases isSecond : second = first
    · exact isSecond.symm
    · rw [update_of_ne isSecond] at theirs
      exact (alone second isSecond duty rival mine theirs equal).elim
  · rw [update_of_ne isFirst] at mine
    by_cases isSecond : second = id
    · subst isSecond
      rw [update_self] at theirs
      exact (alone first isFirst rival duty theirs mine equal.symm).elim
    · rw [update_of_ne isSecond] at theirs
      exact sole first second duty rival mine theirs equal

namespace Body.Safe

variable {protocol} {id : Id} {thrown thrown' : Error → Ghost → Prop}
variable {done done' : Answer → (State → State) → Ghost → Prop}

theorem mono {body : Body State Key Expectation Label Error Answer}
    {written : State → State} {ghost : Ghost}
    (safe : body.Safe protocol id done thrown written ghost)
    (weakerDone : ∀ answer written ghost,
      done answer written ghost → done' answer written ghost)
    (weakerThrown : ∀ error ghost, thrown error ghost → thrown' error ghost) :
    body.Safe protocol id done' thrown' written ghost := by
  induction body generalizing written ghost with
  | returned answer => exact weakerDone answer written ghost safe
  | threw error => exact weakerThrown error ghost safe
  | query statement next failed nextIH failedIH =>
      refine ⟨?_, fun error => failedIH error (safe.2 error)⟩
      intro state owner held kept own free meets answer answered
      obtain ⟨ghost', kept', safeNext⟩ :=
        safe.1 state owner held kept own free meets answer answered
      exact ⟨ghost', kept', nextIH answer safeNext⟩

/-- A statement that changes and locks nothing keeps the ghost and the changes
written so far. -/
theorem read {statement : Query State Key Expectation Label Error Answer'}
    {next : Answer' → Body State Key Expectation Label Error Answer}
    {failed : Error → Body State Key Expectation Label Error Answer}
    {written : State → State} {ghost : Ghost}
    (idle : ∀ met state, statement.effect met state = state)
    (unlocked : ∀ state, statement.locks state = [])
    (safeNext : ∀ state owner held, protocol.invariant state owner held →
      held id = ghost → ∀ answer,
        statement.answer (written state) = .ok answer →
        (next answer).Safe protocol id done thrown written ghost)
    (safeFailed : ∀ error,
      (failed error).Safe protocol id done thrown written ghost) :
    (Body.query statement next failed).Safe protocol id done thrown
      written ghost := by
  refine ⟨?_, safeFailed⟩
  intro state owner held kept own _ _ answer answered
  have safe := safeNext state owner held kept own answer answered
  simp only [idle, unlocked, acquire_nil]
  subst own
  refine ⟨held id, ?_, safe⟩
  rwa [update_eq_self]

end Body.Safe

namespace Program.Safe

variable {protocol} {id : Id} {thrown thrown' : Error → Ghost → Prop}

theorem mono {post post' : Result → Ghost → Prop}
    {program : Program State Key Expectation Label Error Result} {ghost : Ghost}
    (safe : program.Safe protocol id post thrown ghost)
    (weakerPost : ∀ result ghost, post result ghost → post' result ghost)
    (weakerThrown : ∀ error ghost, thrown error ghost → thrown' error ghost) :
    program.Safe protocol id post' thrown' ghost := by
  induction program generalizing ghost with
  | returned result => exact weakerPost result ghost safe
  | threw error => exact weakerThrown error ghost safe
  | query statement next failed nextIH failedIH =>
      refine ⟨?_, fun error => failedIH error (safe.2 error)⟩
      intro state owner held kept own free meets answer answered
      obtain ⟨ghost', kept', guaranteed, safeNext⟩ :=
        safe.1 state owner held kept own free meets answer answered
      exact ⟨ghost', kept', guaranteed, nextIH answer safeNext⟩
  | transaction label body next failed nextIH failedIH =>
      refine ⟨Body.Safe.mono safe.1 ?_ ?_, fun error =>
        failedIH error (safe.2 error)⟩
      · intro answer written ghost commit
        refine ⟨?_, fun error => failedIH error (commit.2 error)⟩
        intro state owner held kept own
        obtain ⟨ghost', kept', guaranteed, committed, safeNext⟩ :=
          commit.1 state owner held kept own
        exact ⟨ghost', kept', guaranteed, committed, nextIH answer safeNext⟩
      · exact fun error ghost safeFailed => failedIH error safeFailed

/-- Sequential composition: the first part ends where the rest is safe. -/
theorem bind {post : Result → Ghost → Prop}
    {program : Program State Key Expectation Label Error Answer}
    {rest : Answer → Program State Key Expectation Label Error Result}
    {ghost : Ghost} (safe : program.Safe protocol id
      (fun answer => (rest answer).Safe protocol id post thrown) thrown ghost) :
    (program >>= rest).Safe protocol id post thrown ghost := by
  change (program.bind rest).Safe protocol id post thrown ghost
  induction program generalizing ghost with
  | returned answer => exact safe
  | threw error => exact safe
  | query statement next failed nextIH failedIH =>
      refine ⟨?_, fun error => failedIH error (safe.2 error)⟩
      intro state owner held kept own free meets answer answered
      obtain ⟨ghost', kept', guaranteed, safeNext⟩ :=
        safe.1 state owner held kept own free meets answer answered
      exact ⟨ghost', kept', guaranteed, nextIH answer safeNext⟩
  | transaction label body next failed nextIH failedIH =>
      refine ⟨Body.Safe.mono safe.1 ?_ ?_, fun error =>
        failedIH error (safe.2 error)⟩
      · intro answer written ghost commit
        refine ⟨?_, fun error => failedIH error (commit.2 error)⟩
        intro state owner held kept own
        obtain ⟨ghost', kept', guaranteed, committed, safeNext⟩ :=
          commit.1 state owner held kept own
        exact ⟨ghost', kept', guaranteed, committed, nextIH answer safeNext⟩
      · exact fun error ghost safeFailed => failedIH error safeFailed

/-- The rest is safe wherever the first part can end. -/
theorem andThen {mid : Answer → Ghost → Prop} {post : Result → Ghost → Prop}
    {program : Program State Key Expectation Label Error Answer}
    {rest : Answer → Program State Key Expectation Label Error Result}
    {ghost : Ghost} (safe : program.Safe protocol id mid thrown ghost)
    (safeRest : ∀ answer ghost, mid answer ghost →
      (rest answer).Safe protocol id post thrown ghost) :
    (program >>= rest).Safe protocol id post thrown ghost :=
  bind (safe.mono safeRest fun _ _ kept => kept)

/-- `try`: the handler is safe wherever the program can throw. -/
theorem catching {post : Result → Ghost → Prop} {mid : Error → Ghost → Prop}
    {program : Program State Key Expectation Label Error Result}
    {handler : Error → Program State Key Expectation Label Error Result}
    {ghost : Ghost} (safe : program.Safe protocol id post mid ghost)
    (handles : ∀ error ghost, mid error ghost →
      (handler error).Safe protocol id post thrown ghost) :
    (program.catching handler).Safe protocol id post thrown ghost := by
  induction program generalizing ghost with
  | returned result => exact safe
  | threw error => exact handles error ghost safe
  | query statement next failed nextIH failedIH =>
      refine ⟨?_, fun error => failedIH error (safe.2 error)⟩
      intro state owner held kept own free meets answer answered
      obtain ⟨ghost', kept', guaranteed, safeNext⟩ :=
        safe.1 state owner held kept own free meets answer answered
      exact ⟨ghost', kept', guaranteed, nextIH answer safeNext⟩
  | transaction label body next failed nextIH failedIH =>
      refine ⟨Body.Safe.mono safe.1 ?_ ?_, fun error =>
        failedIH error (safe.2 error)⟩
      · intro answer written ghost commit
        refine ⟨?_, fun error => failedIH error (commit.2 error)⟩
        intro state owner held kept own
        obtain ⟨ghost', kept', guaranteed, committed, safeNext⟩ :=
          commit.1 state owner held kept own
        exact ⟨ghost', kept', guaranteed, committed, nextIH answer safeNext⟩
      · exact fun error ghost safeFailed => failedIH error safeFailed

/-- A statement that changes nothing keeps the ghost. -/
theorem read {post : Result → Ghost → Prop}
    {statement : Query State Key Expectation Label Error Answer}
    {next : Answer → Program State Key Expectation Label Error Result}
    {failed : Error → Program State Key Expectation Label Error Result}
    {ghost : Ghost} (idle : ∀ met state, statement.effect met state = state)
    (safeNext : ∀ state owner held, protocol.invariant state owner held →
      held id = ghost → ∀ answer, statement.answer state = .ok answer →
        (next answer).Safe protocol id post thrown ghost)
    (safeFailed : ∀ error, (failed error).Safe protocol id post thrown ghost) :
    (Program.query statement next failed).Safe protocol id post
      thrown ghost := by
  refine ⟨?_, safeFailed⟩
  intro state owner held kept own _ _ answer answered
  have safe := safeNext state owner held kept own answer answered
  subst own
  rw [idle state state]
  refine ⟨held id, ?_, protocol.guarantee_refl id state, safe⟩
  rwa [update_eq_self]

end Program.Safe

/-! ## Changing the rules -/

/-- The same rules with another guarantee. -/
def Protocol.guaranteeing (protocol : Protocol Id State Key Expectation Ghost)
    (guarantee : Id → State → State → Prop)
    (guarantee_refl : ∀ id state, guarantee id state state) :
    Protocol Id State Key Expectation Ghost :=
  { protocol with guarantee, guarantee_refl }

/-- The same rules, other expectations assumed. -/
def Protocol.assuming (protocol : Protocol Id State Key Expectation Ghost)
    (assumed : List Expectation) : Protocol Id State Key Expectation Ghost :=
  { protocol with assumed }

section

variable {protocol} {guarantee : Id → State → State → Prop}
variable {guarantee_refl : ∀ id state, guarantee id state state} {id : Id}

theorem Body.Safe.guaranteeing {thrown thrown' : Error → Ghost → Prop}
    {done done' : Answer → (State → State) → Ghost → Prop}
    {body : Body State Key Expectation Label Error Answer}
    {written : State → State} {ghost : Ghost}
    (safe : body.Safe protocol id done thrown written ghost)
    (weakerDone : ∀ answer written ghost,
      done answer written ghost → done' answer written ghost)
    (weakerThrown : ∀ error ghost, thrown error ghost → thrown' error ghost) :
    body.Safe (protocol.guaranteeing guarantee guarantee_refl) id done'
      thrown' written ghost := by
  induction body generalizing written ghost with
  | returned answer => exact weakerDone answer written ghost safe
  | threw error => exact weakerThrown error ghost safe
  | query statement next failed nextIH failedIH =>
      refine ⟨?_, fun error => failedIH error (safe.2 error)⟩
      intro state owner held kept own free meets answer answered
      obtain ⟨ghost', kept', safeNext⟩ :=
        safe.1 state owner held kept own free meets answer answered
      exact ⟨ghost', kept', nextIH answer safeNext⟩

/-- A program that gives the stronger guarantee gives the weaker one. -/
theorem Program.Safe.guaranteeing {post : Result → Ghost → Prop}
    {thrown : Error → Ghost → Prop}
    {program : Program State Key Expectation Label Error Result} {ghost : Ghost}
    (safe : program.Safe protocol id post thrown ghost)
    (weaker : ∀ before after, protocol.guarantee id before after →
      guarantee id before after) :
    program.Safe (protocol.guaranteeing guarantee guarantee_refl) id post
      thrown ghost := by
  induction program generalizing ghost with
  | returned result => exact safe
  | threw error => exact safe
  | query statement next failed nextIH failedIH =>
      refine ⟨?_, fun error => failedIH error (safe.2 error)⟩
      intro state owner held kept own free meets answer answered
      obtain ⟨ghost', kept', guaranteed, safeNext⟩ :=
        safe.1 state owner held kept own free meets answer answered
      exact ⟨ghost', kept', weaker _ _ guaranteed, nextIH answer safeNext⟩
  | transaction label body next failed nextIH failedIH =>
      refine ⟨Body.Safe.guaranteeing safe.1 ?_ ?_,
        fun error => failedIH error (safe.2 error)⟩
      · intro answer written ghost commit
        refine ⟨?_, fun error => failedIH error (commit.2 error)⟩
        intro state owner held kept own
        obtain ⟨ghost', kept', guaranteed, committed, safeNext⟩ :=
          commit.1 state owner held kept own
        exact ⟨ghost', kept', weaker _ _ guaranteed, committed,
          nextIH answer safeNext⟩
      · exact fun error ghost safeFailed => failedIH error safeFailed

end

variable (post : Id → Result → Ghost → Prop)
  (thrown : Id → Error → Ghost → Prop)

/-- These ghosts satisfy the invariant and make every thread safe. -/
def Config.SoundWith (held : Id → Ghost)
    (config : Config Id State Key Expectation Label Error Result) : Prop :=
  protocol.invariant config.state config.owner held ∧
    ∀ id, (config.thread id).Safe protocol id (post id) (thrown id) (held id)

/-- Some ghosts satisfy the invariant and make every thread safe. -/
def Config.Sound
    (config : Config Id State Key Expectation Label Error Result) : Prop :=
  ∃ held, protocol.invariant config.state config.owner held ∧
    ∀ id, (config.thread id).Safe protocol id (post id) (thrown id) (held id)

namespace Config

variable {protocol post thrown}
variable {config : Config Id State Key Expectation Label Error Result}
variable {held : Id → Ghost}

/-- The ghosts of the other threads stay, so they stay safe. -/
private theorem safe_update {id : Id} {ghost : Ghost}
    {thread : Thread State Key Expectation Label Error Result}
    (others : ∀ other, (config.thread other).Safe protocol other (post other)
      (thrown other) (held other))
    (own : thread.Safe protocol id (post id) (thrown id) ghost) (other : Id) :
    ((config.put id thread).thread other).Safe protocol other (post other)
      (thrown other) (update held id ghost other) := by
  by_cases same : other = id
  · subst same
    simpa [put] using own
  · simpa [put, same] using others other

/-- A thread that goes on with the ghost it has. -/
private theorem soundWith_put {id : Id}
    {thread : Thread State Key Expectation Label Error Result}
    (sound : SoundWith protocol post thrown held config)
    (own : thread.Safe protocol id (post id) (thrown id) (held id)) :
    SoundWith protocol post thrown (update held id (held id))
      (config.put id thread) := by
  refine ⟨?_, safe_update sound.2 own⟩
  rw [update_eq_self]
  exact sound.1

private theorem soundWith_same
    (sound : SoundWith protocol post thrown held config) (id : Id) :
    SoundWith protocol post thrown (update held id (held id)) config := by
  rw [update_eq_self]
  exact sound

/-- Undoing the open transaction of a thread keeps a configuration sound. -/
private theorem soundWith_abandon {id : Id}
    {thread : Thread State Key Expectation Label Error Result}
    (sound : SoundWith protocol post thrown held config)
    (own : thread.Safe protocol id (post id) (thrown id)
      (protocol.abandon (held id))) :
    SoundWith protocol post thrown (update held id (protocol.abandon (held id)))
      { config.put id thread with owner := release config.owner id } :=
  ⟨protocol.invariant_abandon id sound.1, safe_update sound.2 own⟩

/-- Running one statement of a sound configuration as expected keeps it sound,
changes the committed state as guaranteed and, when it commits, leaves a
committed ghost. -/
theorem SoundWith.advance (sound : SoundWith protocol post thrown held config)
    (id : Id) (meets : config.Meets protocol.assumed (.run id)) :
    ∃ ghost,
      SoundWith protocol post thrown (update held id ghost)
      (config.advance id) ∧
      protocol.guarantee id config.state (config.advance id).state ∧
      (config.commits? (.run id) = some id → protocol.committed ghost) := by
  obtain ⟨kept, safe⟩ := sound
  have own := safe id
  have unchanged := protocol.guarantee_refl id config.state
  unfold Meets at meets
  unfold Config.advance Config.commits?
  dsimp only
  split
  · rename_i statement next failed running
    rw [running] at own
    simp only [running] at meets ⊢
    split
    · rename_i free
      cases answered : statement.answer config.state with
      | ok answer =>
          obtain ⟨ghost, kept', guaranteed, safeNext⟩ :=
            own.1 config.state config.owner held kept rfl free meets
              answer answered
          exact ⟨ghost, ⟨kept', safe_update safe safeNext⟩, guaranteed, nofun⟩
      | error error =>
          exact ⟨held id, soundWith_put ⟨kept, safe⟩ (own.2 error),
            unchanged, nofun⟩
    · exact ⟨held id, soundWith_same ⟨kept, safe⟩ id, unchanged, nofun⟩
  · rename_i label body next failed running
    rw [running] at own
    simp only [running]
    exact ⟨held id, soundWith_put ⟨kept, safe⟩ own.1, unchanged, nofun⟩
  · rename_i statement nextBody failedBody written next failed running
    rw [running] at own
    simp only [running] at meets ⊢
    split
    · rename_i free
      cases answered : statement.answer (written config.state) with
      | ok answer =>
          obtain ⟨ghost, kept', safeNext⟩ :=
            own.1 config.state config.owner held kept rfl free meets
              answer answered
          exact ⟨ghost, ⟨kept', safe_update safe safeNext⟩, unchanged, nofun⟩
      | error error =>
          exact ⟨held id, soundWith_put ⟨kept, safe⟩ (own.2 error),
            unchanged, nofun⟩
    · exact ⟨held id, soundWith_same ⟨kept, safe⟩ id, unchanged, nofun⟩
  · rename_i answer written next failed running
    rw [running] at own
    obtain ⟨ghost, kept', guaranteed, committed, safeNext⟩ :=
      own.1 config.state config.owner held kept rfl
    exact ⟨ghost, ⟨kept', safe_update safe safeNext⟩, guaranteed,
      fun _ => committed⟩
  · rename_i error written next failed running
    rw [running] at own
    simp only [running]
    exact ⟨_, soundWith_abandon ⟨kept, safe⟩ own, unchanged, nofun⟩
  · rename_i _ _ _ uncommitted _
    refine ⟨held id, soundWith_same ⟨kept, safe⟩ id, unchanged, ?_⟩
    split
    · rename_i running
      exact (uncommitted _ _ _ _ _ running).elim
    · exact nofun

/-- A failing statement or commit keeps a configuration sound. -/
theorem SoundWith.interrupt (sound : SoundWith protocol post thrown held config)
    (id : Id) (error : Error) :
    (∃ ghost, SoundWith protocol post thrown (update held id ghost)
      (config.interrupt id error)) ∧ (config.interrupt id error).state =
        config.state := by
  obtain ⟨kept, safe⟩ := sound
  have own := safe id
  unfold Config.interrupt
  split
  · rename_i statement next failed running
    rw [running] at own
    exact ⟨⟨_, soundWith_put ⟨kept, safe⟩ (own.2 error)⟩, rfl⟩
  · rename_i label body next failed running
    rw [running] at own
    exact ⟨⟨_, soundWith_put ⟨kept, safe⟩ (own.2 error)⟩, rfl⟩
  · rename_i statement nextBody failedBody written next failed running
    rw [running] at own
    exact ⟨⟨_, soundWith_put ⟨kept, safe⟩ (own.2 error)⟩, rfl⟩
  · rename_i answer written next failed running
    rw [running] at own
    exact ⟨⟨_, soundWith_abandon ⟨kept, safe⟩ (own.2 error)⟩, rfl⟩
  · exact ⟨⟨_, soundWith_same ⟨kept, safe⟩ id⟩, rfl⟩

/-- Every event keeps a configuration sound and changes no ghost but that of the
thread it moves. -/
theorem SoundWith.step (sound : SoundWith protocol post thrown held config)
    (event : Event Id Error) (meets : config.Meets protocol.assumed event) :
    ∃ ghost, SoundWith protocol post thrown (update held event.id ghost)
        (config.step event) ∧
      protocol.guarantee event.id config.state (config.step event).state ∧
      (config.commits? event = some event.id → protocol.committed ghost) := by
  cases event with
  | run id => exact sound.advance id meets
  | fail id error =>
      obtain ⟨⟨ghost, sound'⟩, same⟩ := sound.interrupt id error
      refine ⟨ghost, sound', ?_, nofun⟩
      change protocol.guarantee id config.state
        (config.interrupt id error).state
      rw [same]
      exact protocol.guarantee_refl id config.state
  | stop id =>
      exact ⟨_, soundWith_abandon sound trivial,
        protocol.guarantee_refl id config.state, nofun⟩

theorem Sound.step (sound : Sound protocol post thrown config)
    (event : Event Id Error) (meets : config.Meets protocol.assumed event) :
    Sound protocol post thrown (config.step event) ∧
      protocol.guarantee event.id config.state (config.step event).state := by
  obtain ⟨held, sound⟩ := sound
  obtain ⟨ghost, sound', guaranteed, _⟩ := SoundWith.step sound event meets
  exact ⟨⟨_, sound'⟩, guaranteed⟩

/-- Every run of a sound configuration, each statement meeting what the protocol
assumes, stays sound. -/
theorem Sound.run (sound : Sound protocol post thrown config)
    (schedule : List (Event Id Error))
    (expected : config.AsExpected protocol.assumed schedule) :
    Sound protocol post thrown (config.run schedule) := by
  induction schedule generalizing config with
  | nil => exact sound
  | cons event rest ih => exact ih (sound.step event expected.1).1 expected.2

/-- What every change guarantees, a run guarantees. -/
theorem Sound.guaranteed {relation : State → State → Prop}
    (refl : ∀ state, relation state state)
    (trans : ∀ {first second third}, relation first second →
      relation second third →
      relation first third)
    (weaker : ∀ id before after, protocol.guarantee id before after →
      relation before after) (sound : Sound protocol post thrown config)
    (schedule : List (Event Id Error))
    (expected : config.AsExpected protocol.assumed schedule) :
    relation config.state (config.run schedule).state := by
  induction schedule generalizing config with
  | nil => exact refl _
  | cons event rest ih =>
      obtain ⟨sound', guaranteed⟩ := sound.step event expected.1
      exact trans (weaker _ _ _ guaranteed) (ih sound' expected.2)

omit [DecidableEq Id] [DecidableEq Key] in
theorem id_of_commits? {event : Event Id Error} {id : Id}
    (commits : config.commits? event = some id) : event.id = id := by
  unfold commits? at commits
  split at commits
  · split at commits
    · exact Option.some.inj commits
    · cases commits
  · cases commits

/-- Threads that have committed keep a committed ghost, if nothing they do later
can take it from them. -/
theorem SoundWith.committers
    (lasting : ∀ {before after owner owner' held id ghost},
      protocol.invariant before owner held →
      protocol.invariant after owner' (update held id ghost) →
      protocol.guarantee id before after → protocol.committed (held id) →
      protocol.committed ghost)
    (sound : SoundWith protocol post thrown held config)
    (schedule : List (Event Id Error))
    (expected : config.AsExpected protocol.assumed schedule) :
    ∃ held', SoundWith protocol post thrown held' (config.run schedule) ∧
      (∀ id, protocol.committed (held id) → protocol.committed (held' id)) ∧
      ∀ id ∈ config.committers schedule, protocol.committed (held' id) := by
  induction schedule generalizing config held with
  | nil =>
      exact ⟨held, sound, fun _ kept => kept, fun _ member => by cases member⟩
  | cons event rest ih =>
      obtain ⟨ghost, sound', guaranteed, commits⟩ := sound.step event expected.1
      obtain ⟨held', ended, keeps, later⟩ := ih sound' expected.2
      refine ⟨held', ended, fun id kept => keeps id ?_, fun id member => ?_⟩
      · by_cases same : id = event.id
        · subst same
          rw [update_self]
          exact lasting sound.1 sound'.1 guaranteed kept
        · rwa [update_of_ne same]
      · rcases List.mem_append.mp member with now | after
        · have committing := Option.mem_toList.mp now
          have same := id_of_commits? committing
          subst same
          apply keeps
          rw [update_self]
          exact commits committing
        · exact later id after

/-- Threads that have ended satisfy their postcondition. -/
theorem Sound.ended (sound : Sound protocol post thrown config) :
    ∃ held, protocol.invariant config.state config.owner held ∧
      ∀ id, (∀ result, (config.thread id).outcome? = some (.returned result) →
          post id result (held id)) ∧
        (∀ error, (config.thread id).outcome? = some (.threw error) →
          thrown id error (held id)) := by
  obtain ⟨held, kept, safe⟩ := sound
  refine ⟨held, kept, fun id => ⟨?_, ?_⟩⟩
  · intro result ended
    have own := safe id
    cases at_end : config.thread id with
    | outside program =>
        rw [at_end] at own ended
        cases program <;> simp [Thread.outcome?] at ended
        subst ended
        exact own
    | inside => simp [at_end, Thread.outcome?] at ended
    | stopped => simp [at_end, Thread.outcome?] at ended
  · intro error ended
    have own := safe id
    cases at_end : config.thread id with
    | outside program =>
        rw [at_end] at own ended
        cases program <;> simp [Thread.outcome?] at ended
        subst ended
        exact own
    | inside => simp [at_end, Thread.outcome?] at ended
    | stopped => simp [at_end, Thread.outcome?] at ended

end Config

end CloudStudio.Transactions
