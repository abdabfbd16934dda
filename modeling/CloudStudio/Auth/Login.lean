import CloudStudio.Data.Text
import CloudStudio.Platform.Database

/-!
# Signing in

`AuthService.login` with its lockout.  The failure counters are in memory.  An
attempt tests the lock when it arrives, waits for the user row and for the
comparison of the password, and then counts a failure or clears the count; other
attempts run while it waits.
-/

namespace CloudStudio.Auth

open CloudStudio.Data CloudStudio.Platform

/-- `MAX_FAILURES`, `FAILURE_WINDOW_MS` and `LOCKOUT_MS`. -/
structure Policy where
  maxFailures : ℕ
  failureWindow : ℕ
  lockout : ℕ

structure FailureRecord where
  count : ℕ
  firstAt : Time
  lockedUntil : Option Time := none
  deriving DecidableEq

structure StaffUser where
  email : String
  passwordHash : String
  isActive : Bool
  deriving DecidableEq

structure LoginDto where
  email : String
  password : String
  deriving DecidableEq

/-- The answer to every attempt that does not succeed. -/
abbrev invalidCredentials : AppError :=
  .http .unauthorized .invalidCredentials "Invalid email or password"

/-- How an attempt ends: refused by the lock, without an active user, with a
password that was compared and found wrong, or signed in. -/
inductive Outcome where
  | refused | noUser | wrong | success
  deriving DecidableEq, Repr

def Outcome.answer : Outcome → Except AppError Unit
  | .success => .ok ()
  | .refused | .noUser | .wrong => .error invalidCredentials

def emailOf (dto : LoginDto) : String :=
  Text.trim (Text.toLowerCase dto.email)

/-- `record?.lockedUntil && record.lockedUntil > now`. -/
def isLocked (now : Time) (record : Option FailureRecord) : Bool :=
  (record.bind FailureRecord.lockedUntil).any fun lockedUntil =>
    now < lockedUntil

/-- `registerFailure`, on the record of one email. -/
def registerFailure (policy : Policy) (now : Time)
    (record : Option FailureRecord) : FailureRecord :=
  match record with
  | none => { count := 1, firstAt := now }
  | some record =>
      if policy.failureWindow < now - record.firstAt then { count := 1, firstAt := now }
      else if policy.maxFailures ≤ record.count + 1 then
        { count := 0, firstAt := now
          lockedUntil := some (now + policy.lockout) }
      else { record with count := record.count + 1 }

/-- What becomes of an attempt once the user row and the comparison are
there. -/
def verdict (compare : String → String → Bool) (user : Option StaffUser)
    (password : String) : Outcome :=
  match user with
  | none => .noUser
  | some user =>
      if ¬ user.isActive then .noUser
      else if compare password user.passwordHash then .success
      else .wrong

/-- The record of the email after the verdict. -/
def recordAfter (policy : Policy) (now : Time) (outcome : Outcome)
    (record : Option FailureRecord) : Option FailureRecord :=
  match outcome with
  | .success => none
  | .refused => record
  | .noUser | .wrong => some (registerFailure policy now record)

/-- An attempt that has passed the lock and waits for its verdict. -/
structure Pending where
  email : String
  password : String
  startedAt : Time
  deriving DecidableEq

/-- An attempt that is over. -/
structure Attempt where
  email : String
  startedAt : Time
  endedAt : Time
  outcome : Outcome
  deriving DecidableEq

variable {Id : Type}

structure AuthState (Id : Type) where
  failures : String → Option FailureRecord := fun _ => none
  pending : Id → Option Pending := fun _ => none
  log : List Attempt := []

/-- An attempt arrives, or gets its verdict from the row that was found for
it. -/
inductive LoginEvent (Id : Type) where
  | arrives (now : Time) (id : Id) (dto : LoginDto)
  | concludes (now : Time) (id : Id) (user : Option StaffUser)

def LoginEvent.time : LoginEvent Id → Time
  | .arrives now _ _ => now
  | .concludes now _ _ => now

variable [DecidableEq Id] (policy : Policy) (compare : String → String → Bool)

/-- `login` up to its first wait. -/
def arrive (now : Time) (id : Id) (dto : LoginDto) (state : AuthState Id) :
    AuthState Id :=
  let email := emailOf dto
  if isLocked now (state.failures email) then
    { state with log := state.log ++ [⟨email, now, now, .refused⟩] }
  else
    { state with
      pending :=
        Function.update state.pending id (some ⟨email, dto.password, now⟩) }

/-- `login` from its last wait. -/
def conclude (now : Time) (id : Id) (pending : Pending) (outcome : Outcome)
    (state : AuthState Id) : AuthState Id where
  failures := Function.update state.failures pending.email
    (recordAfter policy now outcome (state.failures pending.email))
  pending := Function.update state.pending id none
  log := state.log ++ [⟨pending.email, pending.startedAt, now, outcome⟩]

/-- An attempt arrives once, and is concluded once. -/
def step (event : LoginEvent Id) (state : AuthState Id) : AuthState Id :=
  match event with
  | .arrives now id dto =>
      match state.pending id with
      | none => arrive now id dto state
      | some _ => state
  | .concludes now id user =>
      match state.pending id with
      | none => state
      | some pending =>
          conclude policy now id pending (verdict compare user pending.password)
            state

def run (events : List (LoginEvent Id)) (state : AuthState Id) : AuthState Id :=
  events.foldl (fun state event => step policy compare event state) state

end CloudStudio.Auth
