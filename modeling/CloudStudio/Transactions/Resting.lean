import CloudStudio.Transactions.Growth

/-!
# Programs that leave a thread as it was

Outside transactions a thread often holds nothing: its ghost is the same before
every statement and after every commit.  Such programs compose whatever they
return, and a part that changes nothing the protocol sees is one of them.
-/

namespace CloudStudio.Transactions

open Function

variable {Id State Key Expectation Label Error Result Answer Ghost : Type}
variable [DecidableEq Id] [DecidableEq Key]

/-- Run by this thread, the program keeps the protocol and ends as it began. -/
def Program.Rests (protocol : Protocol Id State Key Expectation Ghost) (id : Id)
    (rest : Ghost)
    (program : Program State Key Expectation Label Error Result) : Prop :=
  program.Safe protocol id (fun _ ghost => ghost = rest)
    (fun _ ghost => ghost = rest) rest

/-- The same, and what the program returns is in `post`. -/
def Program.Gives (protocol : Protocol Id State Key Expectation Ghost) (id : Id)
    (rest : Ghost) (post : Result → Prop)
    (program : Program State Key Expectation Label Error Result) : Prop :=
  program.Safe protocol id (fun result ghost => post result ∧ ghost = rest)
    (fun _ ghost => ghost = rest) rest

/-- The protocol sees nothing of what grows the state, and no lock that is free
to take. -/
structure Protocol.Unaware (protocol : Protocol Id State Key Expectation Ghost)
    (growth : Growth State) (rest : Ghost) : Prop where
  grown : ∀ {before after owner held}, protocol.invariant before owner held →
    growth.grows before after → protocol.invariant after owner held
  guaranteed : ∀ {before after}, growth.grows before after → ∀ id,
    protocol.guarantee id before after
  locked : ∀ {state owner held id keys}, protocol.invariant state owner held →
    Free owner id keys → protocol.invariant state (acquire owner id keys) held
  released : ∀ {state owner held id}, protocol.invariant state owner held →
    held id = rest → protocol.invariant state (release owner id) held
  abandoned : protocol.abandon rest = rest
  committed : protocol.committed rest

variable {protocol : Protocol Id State Key Expectation Ghost} {id : Id}
  {rest : Ghost}

namespace Program.Rests

/-- What comes later starts as the program began. -/
theorem bind {program : Program State Key Expectation Label Error Answer}
    {next : Answer → Program State Key Expectation Label Error Result}
    {post : Result → Ghost → Prop} (first : program.Rests protocol id rest)
    (later : ∀ answer,
      (next answer).Safe protocol id post (fun _ ghost => ghost = rest) rest) :
    (program >>= next).Safe protocol id post (fun _ ghost => ghost = rest)
      rest := by
  refine Program.Safe.andThen first ?_
  rintro answer _ rfl
  exact later answer

/-- `try`: the handler leaves the thread as it was too. -/
theorem catching {program : Program State Key Expectation Label Error Result}
    {handler : Error → Program State Key Expectation Label Error Result}
    (tried : program.Rests protocol id rest)
    (handles : ∀ error, (handler error).Rests protocol id rest) :
    (program.catching handler).Rests protocol id rest := by
  refine Program.Safe.catching tried ?_
  rintro error _ rfl
  exact handles error

theorem discard {program : Program State Key Expectation Label Error Answer}
    (rests : program.Rests protocol id rest) :
    (Program.discard program).Rests protocol id rest :=
  rests.bind fun _ => rfl

theorem when {condition : Prop} [Decidable condition]
    {program : Program State Key Expectation Label Error Unit}
    (rests : program.Rests protocol id rest) :
    (Program.when condition program).Rests protocol id rest := by
  unfold Program.when
  split
  · exact rests
  · exact rfl

theorem forEach {Item : Type} {items : List Item}
    {step : Item → Program State Key Expectation Label Error Unit}
    (rests : ∀ item, (step item).Rests protocol id rest) :
    (Program.forEach items step).Rests protocol id rest := by
  induction items with
  | nil => exact rfl
  | cons item others ih => exact (rests item).bind fun _ => ih

/-- A transaction that keeps the protocol up to its commit. -/
theorem atomically {label : Label}
    {body : Body State Key Expectation Label Error Result}
    (keeps : body.Safe protocol id
      (CommitSafe protocol id (fun _ ghost => ghost = rest)
        (fun (_ : Error) ghost => ghost = rest))
      (fun _ ghost => protocol.abandon ghost = rest) (fun state => state)
        rest) : (Program.atomically label body).Rests protocol id rest :=
  ⟨keeps, fun _ => rfl⟩

end Program.Rests

theorem Program.Gives.bind
    {program : Program State Key Expectation Label Error Answer}
    {next : Answer → Program State Key Expectation Label Error Result}
    {post : Answer → Prop} (first : program.Gives protocol id rest post)
    (later : ∀ answer, post answer → (next answer).Rests protocol id rest) :
    (program >>= next).Rests protocol id rest := by
  refine Program.Safe.andThen first ?_
  rintro answer _ ⟨given_, rfl⟩
  exact later answer given_

section

variable {growth : Growth State} (unaware : protocol.Unaware growth rest)
include unaware

theorem Body.Grows.unseen {body : Body State Key Expectation Label Error Answer}
    (changes : body.Grows growth) {safeNext : Answer → Ghost → Prop}
    {safeFailed : Error → Ghost → Prop} (next : ∀ answer, safeNext answer rest)
    (failed : ∀ error, safeFailed error rest) {written : State → State}
    (wrote : ∀ state, growth.grows state (written state)) :
    body.Safe protocol id (CommitSafe protocol id safeNext safeFailed)
      (fun error ghost => safeFailed error (protocol.abandon ghost))
        written rest := by
  have fails (error : Error) : safeFailed error (protocol.abandon rest) := by
    rw [unaware.abandoned]
    exact failed error
  induction body generalizing written with
  | returned answer =>
      refine ⟨fun state owner held kept own =>
        ⟨rest, ?_, unaware.guaranteed (wrote state) id,
        unaware.committed, next answer⟩, fails⟩
      rw [← own, update_eq_self]
      exact unaware.released (unaware.grown kept (wrote state)) own
  | threw error => exact fails error
  | query statement later recover laterIH recoverIH =>
      refine ⟨fun state owner held kept own free _ answer _ => ⟨rest, ?_, ?_⟩,
        fun error => recoverIH error (changes.2.2 error) wrote⟩
      · rw [← own, update_eq_self]
        exact unaware.locked kept free
      · exact laterIH answer (changes.2.1 answer) fun state =>
          growth.trans (wrote state) (changes.1 _ _)

/-- A program that changes nothing the protocol sees. -/
theorem Program.Grows.rests
    {program : Program State Key Expectation Label Error Result}
    (changes : program.Grows growth) : program.Rests protocol id rest := by
  induction program with
  | returned result => exact rfl
  | threw error => exact rfl
  | query statement next failed nextIH failedIH =>
      refine ⟨fun state owner held kept own _ _ answer _ => ⟨rest, ?_,
        unaware.guaranteed (changes.1 state state) id,
          nextIH answer (changes.2.1 answer)⟩,
        fun error => failedIH error (changes.2.2 error)⟩
      rw [← own, update_eq_self]
      exact unaware.grown kept (changes.1 state state)
  | transaction label body next failed nextIH failedIH =>
      have fails (error : Error) := failedIH error (changes.2.2 error)
      exact ⟨changes.1.unseen unaware
        (fun answer => nextIH answer (changes.2.1 answer)) fails
        growth.refl, fails⟩

end

end CloudStudio.Transactions
