import CloudStudio.Auth.Login
import Mathlib.Data.Fintype.Defs
import Mathlib.Data.List.DropRight

/-!
# How many wrong passwords are compared?

The counter stands for the failures of a sliding window.  It does so as long as
attempts on an email do not overlap and a count never starts within a window of
a failure it leaves out.
-/

namespace CloudStudio.Auth

open Function
open CloudStudio.Platform

/-- The wrong passwords compared in a period, both ends included. -/
def wrongIn (opens closes : Time) (attempts : List Attempt) : ℕ :=
  attempts.countP fun attempt =>
    attempt.outcome = .wrong ∧ opens ≤ attempt.endedAt ∧
      attempt.endedAt ≤ closes

def Unbroken (attempts : List Attempt) : Prop :=
  ∀ attempt ∈ attempts, attempt.outcome ≠ .success

instance (attempts : List Attempt) : Decidable (Unbroken attempts) :=
  inferInstanceAs (Decidable (∀ attempt ∈ attempts, _))

/-- The attempts after the last successful one. -/
def sinceSuccess (attempts : List Attempt) : List Attempt :=
  attempts.rtakeWhile fun attempt => attempt.outcome ≠ .success

section Windows

variable {attempts segment : List Attempt} {attempt : Attempt}

theorem sinceSuccess_success (success : attempt.outcome = .success) :
    sinceSuccess (attempts ++ [attempt]) = [] :=
  List.rtakeWhile_concat_neg _ _ _ (by simp [success])

theorem sinceSuccess_concat (failed : attempt.outcome ≠ .success) :
    sinceSuccess (attempts ++ [attempt]) = sinceSuccess attempts ++ [attempt] :=
  List.rtakeWhile_concat_pos _ _ _ (by simp [failed])

/-- Attempts without success at the end are part of those since the last one. -/
theorem suffix_sinceSuccess (before : List Attempt)
    (unbroken : Unbroken segment) :
    segment <:+ sinceSuccess (before ++ segment) := by
  induction segment using List.reverseRecOn with
  | nil => exact List.nil_suffix
  | append_singleton segment last ih =>
      have failed : last.outcome ≠ .success := unbroken last (by simp)
      have rest : Unbroken segment := by
        intro attempt member
        exact unbroken attempt (List.mem_append_left _ member)
      rw [← List.append_assoc, sinceSuccess_concat failed]
      obtain ⟨more, same⟩ := ih rest
      exact ⟨more, by rw [← List.append_assoc, same]⟩

theorem wrongIn_append (opens closes : Time) (first second : List Attempt) :
    wrongIn opens closes (first ++ second) =
      wrongIn opens closes first + wrongIn opens closes second :=
  List.countP_append

theorem wrongIn_suffix (opens closes : Time) (suffix : segment <:+ attempts) :
    wrongIn opens closes segment ≤ wrongIn opens closes attempts :=
  suffix.sublist.countP_le

/-- How many of the attempts had a wrong password. -/
def wrongs (attempts : List Attempt) : ℕ :=
  attempts.countP fun attempt => attempt.outcome = .wrong

theorem wrongIn_le_wrongs (opens closes : Time) (attempts : List Attempt) :
    wrongIn opens closes attempts ≤ wrongs attempts := by
  apply List.countP_mono_left
  intro attempt _ counted
  simp only [decide_eq_true_iff] at counted ⊢
  exact counted.1

/-- Wrong passwords from before the period do not count. -/
theorem wrongIn_eq_zero {opens closes : Time}
    (early : ∀ attempt ∈ attempts, attempt.outcome = .wrong →
      attempt.endedAt < opens) : wrongIn opens closes attempts = 0 := by
  unfold wrongIn
  rw [List.countP_eq_zero]
  intro attempt member counted
  simp only [decide_eq_true_iff] at counted
  exact absurd (early attempt member counted.1) (not_lt.mpr counted.2.1)

end Windows

variable (policy : Policy)

/-- With this attempt, the last window since a success has as many wrong
passwords as are allowed. -/
def LimitReached (before : List Attempt) (attempt : Attempt) : Prop :=
  attempt.outcome = .wrong ∧ ∃ earlier segment opens,
    before = earlier ++ segment ∧
    Unbroken segment ∧ attempt.endedAt ≤ opens + policy.failureWindow ∧
    policy.maxFailures ≤
      wrongIn opens (opens + policy.failureWindow) (segment ++ [attempt])

/-- Between two successes no window has more wrong passwords than are
allowed. -/
def Limited (attempts : List Attempt) : Prop :=
  ∀ before segment after, attempts = before ++ segment ++ after →
    Unbroken segment →
    ∀ opens, wrongIn opens (opens + policy.failureWindow) segment ≤
      policy.maxFailures

/-- Once the limit is reached, every attempt that starts during the lockout is
refused, with the answer that the wrong password got. -/
def RefusedWhenLocked (attempts : List Attempt) : Prop :=
  ∀ before attempt after, attempts = before ++ attempt :: after →
    LimitReached policy before attempt →
      ∀ later ∈ after, later.startedAt < attempt.endedAt + policy.lockout →
        later.outcome = .refused ∧ later.outcome.answer = attempt.outcome.answer

/-- A failure now would start a count: there is none, its window is over, or a
lockout has reset it. -/
def StartsCount (now : Time) (record : Option FailureRecord) : Prop :=
  ∀ old ∈ record, policy.failureWindow < now - old.firstAt ∨ old.count = 0

instance (now : Time) (record : Option FailureRecord) :
    Decidable (StartsCount policy now record) :=
  inferInstanceAs (Decidable (∀ old ∈ record, _))

variable {policy}

/-- A list with one more entry is split within the list, or at its end. -/
theorem concat_split {Entry : Type} {entries before segment after : List Entry}
    {last : Entry} (split : entries ++ [last] = before ++ segment ++ after) :
    (∃ after', after = after' ++ [last] ∧
      entries = before ++ segment ++ after') ∨
    (after = [] ∧ ∃ segment', segment = segment' ++ [last] ∧
      entries = before ++ segment') ∨ (after = [] ∧ segment = []) := by
  rcases List.eq_nil_or_concat after with rfl | ⟨after', final, rfl⟩
  · right
    rw [List.append_nil] at split
    rcases List.eq_nil_or_concat segment with rfl | ⟨segment', final, rfl⟩
    · exact .inr ⟨rfl, rfl⟩
    · rw [List.concat_eq_append, ← List.append_assoc] at split
      obtain ⟨same, its⟩ := List.append_inj' split rfl
      cases its
      exact .inl ⟨rfl, segment', List.concat_eq_append, same⟩
  · left
    rw [List.concat_eq_append, ← List.append_assoc] at split
    obtain ⟨same, its⟩ := List.append_inj' split rfl
    cases its
    exact ⟨after', List.concat_eq_append, same⟩

/-- One more attempt, which does not fill a window of those since the last
success. -/
theorem Limited.concat {attempts : List Attempt}
    (limited : Limited policy attempts) {attempt : Attempt}
    (room : attempt.outcome = .wrong → ∀ opens,
      attempt.endedAt ≤ opens + policy.failureWindow →
        wrongIn opens (opens + policy.failureWindow) (sinceSuccess attempts) +
          1 ≤ policy.maxFailures) : Limited policy (attempts ++ [attempt]) := by
  intro before segment after split unbroken opens
  rcases concat_split split with ⟨after', _, same⟩ | ⟨_, segment', rfl,
    same⟩ | ⟨_, rfl⟩
  · exact limited before segment after' same unbroken opens
  · have rest : Unbroken segment' := by
      intro other member
      exact unbroken other (List.mem_append_left _ member)
    rw [wrongIn_append]
    by_cases counts : attempt.outcome = .wrong ∧ opens ≤ attempt.endedAt ∧
        attempt.endedAt ≤ opens + policy.failureWindow
    · have one : wrongIn opens (opens + policy.failureWindow) [attempt] =
        1 := by
        simp [wrongIn, counts]
      have suffix := wrongIn_suffix opens (opens + policy.failureWindow)
        (suffix_sinceSuccess before rest)
      have bound := room counts.1 opens counts.2.2
      rw [same] at bound
      omega
    · have none : wrongIn opens (opens + policy.failureWindow) [attempt] =
        0 := by
        simp only [wrongIn, List.countP_singleton, counts, decide_false,
          Bool.false_eq_true, if_false]
      rw [none, add_zero]
      exact limited before segment' []
        (by rw [same, List.append_nil]) rest opens
  · exact Nat.zero_le _

/-- The record counts the wrong passwords since it started, and those before are
more than a window older than its start. -/
def Counted (policy : Policy) (record : Option FailureRecord)
    (attempts : List Attempt) (clock : Time) : Prop :=
  match record with
  | none => wrongs (sinceSuccess attempts) = 0
  | some record => record.count < policy.maxFailures ∧
      ∃ old current, sinceSuccess attempts = old ++ current ∧
        wrongs current ≤ record.count ∧
        (0 < record.count → ∃ since ≤ clock, ∀ attempt ∈ old,
          attempt.outcome = .wrong →
          attempt.endedAt + policy.failureWindow < since)

section Register

variable {record : Option FailureRecord} {attempts : List Attempt}
  {clock now : Time}

/-- A failure is counted, after at most one less than are allowed, or locks. -/
theorem Counted.register (counted : Counted policy record attempts clock)
    (several : 2 ≤ policy.maxFailures) (later : clock ≤ now)
    (quiet : StartsCount policy now record → ∀ attempt ∈ sinceSuccess attempts,
      attempt.outcome = .wrong → attempt.endedAt + policy.failureWindow < now) :
    ∃ old current since, sinceSuccess attempts = old ++ current ∧ since ≤ now ∧
      (∀ attempt ∈ old, attempt.outcome = .wrong →
        attempt.endedAt + policy.failureWindow < since) ∧
      wrongs current + 1 ≤ policy.maxFailures ∧
      (((registerFailure policy now record).count = 0 ∧
        (registerFailure policy now record).lockedUntil =
          some (now + policy.lockout)) ∨
      (wrongs current + 1 ≤ (registerFailure policy now record).count ∧
        (registerFailure policy now record).count < policy.maxFailures)) := by
  by_cases starts : StartsCount policy now record
  · have fresh : (registerFailure policy now record).count = 1 := by
      cases record with
      | none => rfl
      | some old =>
          simp only [registerFailure]
          rcases starts old rfl with expired | reset
          · rw [if_pos expired]
          · split
            · rfl
            · rw [if_neg (by omega), reset]
    refine ⟨sinceSuccess attempts, [], now, (List.append_nil _).symm,
      le_rfl, quiet starts, by simp [wrongs]; omega, .inr ?_⟩
    rw [fresh]
    exact ⟨le_rfl, several⟩
  · cases record with
    | none => exact absurd (fun _ member => by cases member) starts
    | some counting =>
        obtain ⟨below, old, current, split, covers, separated⟩ := counted
        have goes : ¬ policy.failureWindow < now - counting.firstAt ∧
          counting.count ≠ 0 := by
          rw [← not_or]
          intro either
          apply starts
          intro other same
          cases same
          exact either
        obtain ⟨since, started, apart⟩ := separated (Nat.pos_of_ne_zero goes.2)
        refine ⟨old, current, since, split, started.trans later,
          apart, by omega, ?_⟩
        simp only [registerFailure, if_neg goes.1]
        split
        · exact .inl ⟨rfl, rfl⟩
        · rename_i more
          exact .inr ⟨Nat.succ_le_succ covers, Nat.lt_of_not_le more⟩

theorem wrongs_concat (attempts : List Attempt) (attempt : Attempt) :
    wrongs (attempts ++ [attempt]) ≤ wrongs attempts + 1 := by
  unfold wrongs
  rw [List.countP_append, List.countP_singleton]
  split <;> omega

/-- The count after a failure stands for the attempts with it. -/
theorem Counted.failed (counted : Counted policy record attempts clock)
    (several : 2 ≤ policy.maxFailures) (later : clock ≤ now)
    (quiet : StartsCount policy now record → ∀ attempt ∈ sinceSuccess attempts,
      attempt.outcome = .wrong → attempt.endedAt + policy.failureWindow < now)
    {attempt : Attempt} (failure : attempt.outcome ≠ .success) :
    Counted policy (some (registerFailure policy now record))
      (attempts ++ [attempt]) now := by
  obtain ⟨old, current, since, split, started, apart, room, locks | counts⟩ :=
    counted.register several later quiet
  · refine ⟨by omega, sinceSuccess (attempts ++ [attempt]), [],
      (List.append_nil _).symm, Nat.zero_le _, ?_⟩
    intro positive
    omega
  · refine ⟨counts.2, old, current ++ [attempt], ?_, ?_, ?_⟩
    · rw [sinceSuccess_concat failure, split, List.append_assoc]
    · exact (wrongs_concat current attempt).trans counts.1
    · exact fun _ => ⟨since, started, apart⟩

/-- There is room for a wrong password in every window that ends now or
later. -/
theorem Counted.room (counted : Counted policy record attempts clock)
    (several : 2 ≤ policy.maxFailures) (later : clock ≤ now)
    (quiet : StartsCount policy now record → ∀ attempt ∈ sinceSuccess attempts,
      attempt.outcome = .wrong → attempt.endedAt + policy.failureWindow < now)
    {opens : Time} (covers : now ≤ opens + policy.failureWindow) :
    wrongIn opens (opens + policy.failureWindow) (sinceSuccess attempts) + 1 ≤
        policy.maxFailures ∧
      (policy.maxFailures ≤
          wrongIn opens (opens + policy.failureWindow) (sinceSuccess attempts) +
            1 →
        (registerFailure policy now record).lockedUntil =
          some (now + policy.lockout)) := by
  obtain ⟨old, current, since, split, started, apart, room, ends⟩ :=
    counted.register several later quiet
  have outside : wrongIn opens (opens + policy.failureWindow) old = 0 := by
    apply wrongIn_eq_zero
    intro attempt member wrong
    have early := (apart attempt member wrong).trans_le (started.trans covers)
    exact Nat.lt_of_add_lt_add_right early
  have inside : wrongIn opens (opens + policy.failureWindow) current + 1 ≤
      wrongs current + 1 := Nat.succ_le_succ (wrongIn_le_wrongs _ _ current)
  rw [split, wrongIn_append, outside, zero_add]
  constructor
  · exact inside.trans room
  · intro full
    rcases ends with locks | counts
    · exact locks.2
    · have reached := full.trans (inside.trans counts.1)
      exact absurd counts.2 (Nat.not_lt.mpr reached)

end Register

/-! ## The attempts on one email -/

/-- What holds of the attempts on an email, of the record the lockout has of it
and of the times at which the waiting attempts have started. -/
structure Guarded (policy : Policy) (record : Option FailureRecord)
    (started : Set Time) (attempts : List Attempt) (clock : Time) : Prop where
  limited : Limited policy attempts
  refused : RefusedWhenLocked policy attempts
  locked : ∀ before attempt after, attempts = before ++ attempt :: after →
    LimitReached policy before attempt →
      (∀ time ∈ started, attempt.endedAt + policy.lockout ≤ time) ∧
      (attempt.endedAt + policy.lockout ≤ clock ∨
        ∃ lockedUntil ∈ record.bind FailureRecord.lockedUntil,
          attempt.endedAt + policy.lockout ≤ lockedUntil)
  counted : Counted policy record attempts clock
  begun : ∀ time ∈ started, time ≤ clock

section Guarded

variable {record : Option FailureRecord} {started : Set Time}
  {attempts : List Attempt} {clock now : Time}

/-- Time passes. -/
theorem Guarded.wait (guarded : Guarded policy record started attempts clock)
    (later : clock ≤ now) : Guarded policy record started attempts now := by
  constructor
  · exact guarded.limited
  · exact guarded.refused
  · intro before attempt after split reached
    obtain ⟨waiting, locked⟩ :=
      guarded.locked before attempt after split reached
    exact ⟨waiting, locked.imp_left fun past => past.trans later⟩
  · have counted := guarded.counted
    cases record with
    | none => exact counted
    | some old =>
        obtain ⟨below, old, current, split, covers, separated⟩ := counted
        refine ⟨below, old, current, split, covers, fun positive => ?_⟩
        obtain ⟨since, started, apart⟩ := separated positive
        exact ⟨since, started.trans later, apart⟩
  · exact fun time member => (guarded.begun time member).trans later

/-- An attempt passes the lock: the lockouts are over. -/
theorem Guarded.admission
    (guarded : Guarded policy record started attempts clock)
    (later : clock ≤ now) (open_ : ¬ isLocked now record = true) :
    Guarded policy record {now} attempts now := by
  have waited := guarded.wait later
  constructor
  · exact waited.limited
  · exact waited.refused
  · intro before attempt after split reached
    have past : attempt.endedAt + policy.lockout ≤ now := by
      rcases (waited.locked before attempt after split reached).2 with
        past | locks
      · exact past
      · obtain ⟨lockedUntil, its, lasts⟩ := locks
        apply lasts.trans
        apply Nat.le_of_not_lt
        intro still
        apply open_
        rw [isLocked, its]
        exact decide_eq_true still
    refine ⟨?_, .inl past⟩
    intro time same
    rw [Set.mem_singleton_iff.mp same]
    exact past
  · exact waited.counted
  · intro time same
    exact (Set.mem_singleton_iff.mp same).le

/-- The reached limits are those of before, and maybe the one of the last
attempt. -/
theorem reached_concat {attempt last : Attempt} {before after : List Attempt}
    (split : attempts ++ [last] = before ++ attempt :: after) :
    (∃ after', after = after' ++ [last] ∧
      attempts = before ++ attempt :: after') ∨
    (after = [] ∧ attempt = last ∧ attempts = before) := by
  rcases List.eq_nil_or_concat after with rfl | ⟨after', final, rfl⟩
  · right
    obtain ⟨same, its⟩ := List.append_inj' split rfl
    cases its
    exact ⟨rfl, rfl, same⟩
  · left
    rw [List.concat_eq_append, ← List.cons_append, ← List.append_assoc] at split
    obtain ⟨same, its⟩ := List.append_inj' split rfl
    cases its
    exact ⟨after', List.concat_eq_append, same⟩

/-- An attempt that is refused counts for nothing. -/
theorem Guarded.refuse (guarded : Guarded policy record started attempts clock)
    {attempt : Attempt} (refused : attempt.outcome = .refused) :
    Guarded policy record started (attempts ++ [attempt]) clock := by
  have right : attempt.outcome ≠ .wrong := by
    rw [refused]
    decide
  have unsuccessful : attempt.outcome ≠ .success := by
    rw [refused]
    decide
  constructor
  · exact guarded.limited.concat fun wrong => absurd wrong right
  · intro before other after split reached later member starts
    rcases reached_concat split with ⟨after', rfl, same⟩ | ⟨rfl, _⟩
    · rcases List.mem_append.mp member with old | new
      · exact guarded.refused before other after' same reached later old starts
      · rw [List.mem_singleton.mp new, refused, reached.1]
        exact ⟨rfl, rfl⟩
    · cases member
  · intro before other after split reached
    rcases reached_concat split with ⟨after', rfl, same⟩ | ⟨_, rfl, _⟩
    · exact guarded.locked before other after' same reached
    · exact absurd reached.1 right
  · have counted := guarded.counted
    have none : wrongs [attempt] = 0 := by
      simp [wrongs, right]
    cases record with
    | none =>
        change wrongs _ = 0
        rw [sinceSuccess_concat unsuccessful, wrongs, List.countP_append]
        exact Nat.add_eq_zero_iff.mpr ⟨counted, none⟩
    | some old =>
        obtain ⟨below, old, current, split, covers, separated⟩ := counted
        refine ⟨below, old, current ++ [attempt], ?_, ?_, separated⟩
        · rw [sinceSuccess_concat unsuccessful, split, List.append_assoc]
        · rw [wrongs, List.countP_append]
          exact (Nat.add_le_add covers none.le).trans (Nat.add_zero _).le
  · exact guarded.begun

/-- Fewer attempts wait. -/
theorem Guarded.fewer (guarded : Guarded policy record started attempts clock)
    {rest : Set Time} (subset : rest ⊆ started) :
    Guarded policy record rest attempts clock := by
  constructor
  · exact guarded.limited
  · exact guarded.refused
  · intro before attempt after split reached
    obtain ⟨waiting, locked⟩ :=
      guarded.locked before attempt after split reached
    exact ⟨fun time member => waiting time (subset member), locked⟩
  · exact guarded.counted
  · exact fun time member => guarded.begun time (subset member)

/-- The attempt that reaches the limit locks the email. -/
theorem Guarded.locks (guarded : Guarded policy record started attempts clock)
    (several : 2 ≤ policy.maxFailures) (later : clock ≤ now)
    (quiet : StartsCount policy now record → ∀ attempt ∈ sinceSuccess attempts,
      attempt.outcome = .wrong → attempt.endedAt + policy.failureWindow < now)
    {attempt : Attempt} (ends : attempt.endedAt = now)
    (reached : LimitReached policy attempts attempt) :
    (registerFailure policy now record).lockedUntil =
      some (now + policy.lockout) := by
  obtain ⟨_, earlier, segment, opens, split, unbroken, covers, full⟩ := reached
  rw [ends] at covers
  apply (guarded.counted.room several later quiet covers).2
  apply full.trans
  rw [wrongIn_append]
  apply Nat.add_le_add
  · rw [split]
    exact wrongIn_suffix _ _ (suffix_sinceSuccess earlier unbroken)
  · exact List.countP_le_length

/-- The only attempt that waits gets its verdict. -/
theorem Guarded.conclude
    (guarded : Guarded policy record started attempts clock)
    (several : 2 ≤ policy.maxFailures) (later : clock ≤ now) (attempt : Attempt)
    (waited : attempt.startedAt ∈ started) (ends : attempt.endedAt = now)
    (admitted : attempt.outcome ≠ .refused)
    (quiet : attempt.outcome ≠ .success → StartsCount policy now record →
      ∀ earlier ∈ sinceSuccess attempts, earlier.outcome = .wrong →
        earlier.endedAt + policy.failureWindow < now) :
    Guarded policy (recordAfter policy now attempt.outcome record) ∅
      (attempts ++ [attempt]) now := by
  have fails (wrong : attempt.outcome = .wrong) :
    attempt.outcome ≠ .success := by
    rw [wrong]
    decide
  constructor
  · apply guarded.limited.concat
    intro wrong opens covers
    rw [ends] at covers
    exact (guarded.counted.room several later (quiet (fails wrong)) covers).1
  · intro before other after split reached last member starts
    rcases reached_concat split with ⟨after', rfl, same⟩ | ⟨rfl, _⟩
    · rcases List.mem_append.mp member with old | new
      · exact guarded.refused before other after' same reached last old starts
      · rw [List.mem_singleton.mp new] at starts
        have past :=
          (guarded.locked before other after' same reached).1 _ waited
        exact absurd starts (Nat.not_lt.mpr past)
    · cases member
  · intro before other after split reached
    refine ⟨fun time member => member.elim, ?_⟩
    rcases reached_concat split with ⟨after', _, same⟩ | ⟨_, rfl, rfl⟩
    · left
      have past := (guarded.locked before other after' same reached).1 _ waited
      exact past.trans ((guarded.begun _ waited).trans later)
    · right
      have locks :=
        guarded.locks several later (quiet (fails reached.1)) ends reached
      rw [reached.1, ends]
      exact ⟨now + policy.lockout, locks, le_rfl⟩
  · cases outcome : attempt.outcome with
    | success =>
        change wrongs _ = 0
        rw [sinceSuccess_success outcome]
        rfl
    | refused => exact absurd outcome admitted
    | noUser =>
        have failure : attempt.outcome ≠ .success := by
          rw [outcome]
          decide
        exact guarded.counted.failed several later (quiet failure) failure
    | wrong =>
        exact guarded.counted.failed several later (quiet (fails outcome))
          (fails outcome)
  · exact fun _ member => member.elim

end Guarded

/-! ## All attempts -/

variable {Id : Type}

/-- The finished attempts on an email. -/
def attemptsOn (email : String) (log : List Attempt) : List Attempt :=
  log.filter fun attempt => attempt.email = email

/-- When the waiting attempts on an email have started. -/
def startedOn (email : String) (state : AuthState Id) : Set Time :=
  { time | ∃ id pending, state.pending id = some pending ∧
    pending.email = email ∧ pending.startedAt = time }

/-- No attempt on the email waits. -/
def NoneWaiting (email : String) (state : AuthState Id) : Prop :=
  ∀ id, ∀ pending ∈ state.pending id, pending.email ≠ email

instance [Fintype Id] (email : String) (state : AuthState Id) :
    Decidable (NoneWaiting email state) :=
  inferInstanceAs (Decidable (∀ id, ∀ pending ∈ state.pending id, _))

/-- The steps on an email after which its record stands for the sliding window:
an attempt is let in when no other one waits, and a failure starts a count more
than a window after the wrong passwords since the last success. -/
def Meets (policy : Policy) (compare : String → String → Bool) (email : String)
    (state : AuthState Id) : LoginEvent Id → Prop
  | .arrives now _ dto => emailOf dto = email →
      ¬ isLocked now (state.failures email) = true → NoneWaiting email state
  | .concludes now id user => ∀ pending ∈ state.pending id,
      pending.email = email → verdict compare user pending.password ≠ .success →
      StartsCount policy now (state.failures email) →
      ∀ attempt ∈ sinceSuccess (attemptsOn email state.log),
        attempt.outcome = .wrong → attempt.endedAt + policy.failureWindow < now

instance [Fintype Id] (policy : Policy) (compare : String → String → Bool)
    (email : String) (state : AuthState Id) :
    (event : LoginEvent Id) → Decidable (Meets policy compare email state event)
  | .arrives .. => inferInstanceAs (Decidable (_ → _ → NoneWaiting email state))
  | .concludes _ id _ =>
      inferInstanceAs (Decidable (∀ pending ∈ state.pending id, _))

/-- The attempts on an email are guarded, and at most one waits. -/
structure Watched (policy : Policy) (email : String) (state : AuthState Id)
    (clock : Time) :
    Prop where
  guarded : Guarded policy (state.failures email) (startedOn email state)
    (attemptsOn email state.log) clock
  single : ∀ id other first second, state.pending id = some first →
    state.pending other = some second → first.email = email →
      second.email = email →
    id = other

theorem attemptsOn_concat (email : String) (log : List Attempt)
    (attempt : Attempt) :
    attemptsOn email (log ++ [attempt]) =
      if attempt.email = email then attemptsOn email log ++ [attempt]
      else attemptsOn email log := by
  unfold attemptsOn
  rw [List.filter_append]
  split
  · rename_i same
    simp [same]
  · rename_i other
    simp [other]

theorem verdict_ne_refused (compare : String → String → Bool)
    (user : Option StaffUser) (password : String) :
    verdict compare user password ≠ .refused := by
  unfold verdict
  cases user with
  | none => simp
  | some user =>
      dsimp only
      split
      · decide
      · split <;> decide

section Step

variable [DecidableEq Id] {email : String} {state : AuthState Id}
  {clock now : Time} {id : Id}

omit [DecidableEq Id] in
/-- Pending attempts on other emails make no difference. -/
theorem Watched.beside (watched : Watched policy email state clock)
    {after : AuthState Id}
    (record : after.failures email = state.failures email)
    (log : attemptsOn email after.log = attemptsOn email state.log)
    (pending : ∀ id pending, after.pending id = some pending →
      pending.email = email →
      state.pending id = some pending) : Watched policy email after clock := by
  constructor
  · rw [record, log]
    apply watched.guarded.fewer
    intro time waits
    obtain ⟨id, waiting, its, same, starts⟩ := waits
    exact ⟨id, waiting, pending id waiting its same, same, starts⟩
  · intro id other first second its theirs mine same
    exact watched.single id other first second (pending id first its mine)
      (pending other second theirs same) mine same

omit [DecidableEq Id] in
theorem Watched.wait (watched : Watched policy email state clock)
    (later : clock ≤ now) : Watched policy email state now :=
  ⟨watched.guarded.wait later, watched.single⟩

/-- An attempt arrives. -/
theorem Watched.arrived (watched : Watched policy email state clock)
    (later : clock ≤ now) {dto : LoginDto} (free : state.pending id = none)
    (alone : emailOf dto = email →
      ¬ isLocked now (state.failures email) = true →
      NoneWaiting email state) :
    Watched policy email (arrive now id dto state) now := by
  have waited := watched.wait later
  unfold arrive
  dsimp only
  by_cases mine : emailOf dto = email
  · rw [mine]
    split
    · rename_i locked
      constructor
      · rw [attemptsOn_concat, if_pos rfl]
        exact waited.guarded.refuse rfl
      · exact waited.single
    · rename_i unlocked
      have nobody := alone mine unlocked
      constructor
      · apply (watched.guarded.admission later unlocked).fewer
        intro time waits
        obtain ⟨other, pending, its, same, starts⟩ := waits
        by_cases isIt : other = id
        · subst isIt
          simp only [update_self, Option.some.injEq] at its
          rw [← starts, ← its]
          exact Set.mem_singleton _
        · simp only [update_of_ne isIt] at its
          exact absurd same (nobody other pending its)
      · intro first second one two its theirs same also
        have only {other : Id} {pending : Pending}
            (its : update state.pending id (some ⟨email, dto.password, now⟩)
              other =
              some pending) (same : pending.email = email) : other = id := by
          by_contra differs
          rw [update_of_ne differs] at its
          exact nobody other pending its same
        exact (only its same).trans (only theirs also).symm
  · split
    · apply waited.beside
      · rfl
      · rw [attemptsOn_concat, if_neg mine]
      · exact fun _ _ its _ => its
    · apply waited.beside
      · rfl
      · rfl
      · intro other pending its same
        by_cases isIt : other = id
        · subst isIt
          simp only [update_self, Option.some.injEq] at its
          rw [← its] at same
          exact absurd same mine
        · simpa only [update_of_ne isIt] using its

/-- An attempt gets its verdict. -/
theorem Watched.concluded (watched : Watched policy email state clock)
    (several : 2 ≤ policy.maxFailures) (later : clock ≤ now) {pending : Pending}
    (its : state.pending id = some pending) {outcome : Outcome}
    (admitted : outcome ≠ .refused)
    (quiet : pending.email = email → outcome ≠ .success →
      StartsCount policy now (state.failures email) →
      ∀ attempt ∈ sinceSuccess (attemptsOn email state.log),
        attempt.outcome = .wrong → attempt.endedAt + policy.failureWindow <
          now) :
    Watched policy email (conclude policy now id pending outcome state)
      now := by
  have remaining (other : Id) (waiting : Pending)
      (still : (conclude policy now id pending outcome state).pending other =
        some waiting) : other ≠ id ∧ state.pending other = some waiting := by
    by_cases isIt : other = id
    · subst isIt
      simp [conclude] at still
    · simp only [conclude, update_of_ne isIt] at still
      exact ⟨isIt, still⟩
  by_cases mine : pending.email = email
  · have nobody (other : Id) (waiting : Pending)
        (still : (conclude policy now id pending outcome state).pending other =
          some waiting)
        (same : waiting.email = email) : False := by
      obtain ⟨differs, was⟩ := remaining other waiting still
      exact differs (watched.single other id waiting pending was its same mine)
    constructor
    · have concluded := watched.guarded.conclude several later
        ⟨pending.email, pending.startedAt, now, outcome⟩
        ⟨id, pending, its, mine, rfl⟩ rfl admitted (quiet mine)
      have record : (conclude policy now id pending outcome state).failures
        email =
          recordAfter policy now outcome (state.failures email) := by
        simp [conclude, mine]
      have log :
        attemptsOn email (conclude policy now id pending outcome state).log =
          attemptsOn email state.log ++
            [⟨pending.email, pending.startedAt, now, outcome⟩] := by
        simp only [conclude]
        rw [attemptsOn_concat, if_pos mine]
      rw [record, log]
      apply concluded.fewer
      intro time waits
      obtain ⟨other, waiting, still, same, _⟩ := waits
      exact (nobody other waiting still same).elim
    · intro first second one two still _ same _
      exact (nobody first one still same).elim
  · apply (watched.wait later).beside
    · exact update_of_ne (Ne.symm mine) _ _
    · simp only [conclude]
      rw [attemptsOn_concat, if_neg mine]
    · exact fun other waiting still _ => (remaining other waiting still).2

/-- A step that meets the condition keeps the email watched. -/
theorem Watched.stepped (watched : Watched policy email state clock)
    (several : 2 ≤ policy.maxFailures) (compare : String → String → Bool)
    {event : LoginEvent Id} (later : clock ≤ event.time)
    (meets : Meets policy compare email state event) :
    Watched policy email (step policy compare event state) event.time := by
  cases event with
  | arrives now id dto =>
      simp only [step]
      cases free : state.pending id with
      | none => exact watched.arrived later free meets
      | some _ => exact watched.wait later
  | concludes now id user =>
      simp only [step]
      cases its : state.pending id with
      | none => exact watched.wait later
      | some pending =>
          apply watched.concluded several later its (verdict_ne_refused _ _ _)
          exact meets pending its

theorem Watched.ran (watched : Watched policy email state clock)
    (several : 2 ≤ policy.maxFailures) (compare : String → String → Bool)
    (events : List (LoginEvent Id))
    (inOrder : events.Pairwise fun event later => event.time ≤ later.time)
    (started : ∀ event ∈ events, clock ≤ event.time)
    (meets : ∀ done event rest, events = done ++ event :: rest →
      Meets policy compare email (run policy compare done state) event) :
    ∃ clock, Watched policy email (run policy compare events state) clock := by
  induction events generalizing state clock with
  | nil => exact ⟨clock, watched⟩
  | cons first rest ih =>
      rw [List.pairwise_cons] at inOrder
      have stepped :=
        watched.stepped several compare (started first List.mem_cons_self)
        (meets [] first rest rfl)
      apply ih stepped inOrder.2
      · exact inOrder.1
      · intro done event later split
        exact meets (first :: done) event later (split ▸ rfl)

end Step

def staff : StaffUser where
  email := "ops@example.com"
  passwordHash := "right password"
  isActive := true

def withPassword (password : String) : LoginDto where
  email := "ops@example.com"
  password

/-- Three attempts arrive before the first one is concluded. -/
def overlapping : List (LoginEvent ℕ) :=
  [.arrives 1 0 (withPassword "wrong password"),
    .arrives 1 1 (withPassword "wrong password"),
    .arrives 1 2 (withPassword "wrong password"), .concludes 2 0 (some staff),
    .concludes 2 1 (some staff), .concludes 2 2 (some staff)]

end CloudStudio.Auth
