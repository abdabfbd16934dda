import CloudStudio.Data.Machines
import CloudStudio.Payments.Checksum
import CloudStudio.Payments.Provider
import Mathlib.Logic.Function.Basic

/-!
# The ClickPesa client

`ClickPesaClient.request` for any number of calls at a time.  The calls share
one cached token; a call that meets a 401 drops it, whoever put it there, and
asks once more under a token that it has generated itself.  A step goes from one
`await` to the next, so an answer is dealt with before anything else happens.
-/

namespace CloudStudio.Payments.Client

open CloudStudio.Data CloudStudio.Data.Machines CloudStudio.Platform

/-- What comes back of an HTTP exchange: a response of any status, or what axios
throws. -/
inductive Answer where
  | response (status : ℕ) (body : Json)
  | failure (message : Option String)

def slicedChars : ℕ → List Char → List Char
  | _, [] => []
  | units, char :: rest =>
      if (if char.toNat < 0x10000 then 1 else 2) ≤ units then
        char :: slicedChars (units - if char.toNat < 0x10000 then 1 else 2) rest
      else []

/-- `text.slice(0, units)`; a character that the cut goes through is left
out. -/
def sliced (units : ℕ) (text : String) : String :=
  String.ofList (slicedChars units text.toList)

/-- The detail that `providerError` finds in a body. -/
def errorDetail (body : Json) : String :=
  match body with
  | .str text => sliced 200 (Text.trim text)
  | .arr _ | .obj _ =>
      match body.present? "message" with
      | some message => message.toText
      | none =>
          match body.present? "error" with
          | some error => error.toText
          | none => sliced 200 (stringify body)
  | _ => ""

/-- How `request` takes the answer of the resource. -/
def exchangeOf : Answer → Exchange Json
  | .response status body => .answered status (some body) (errorDetail body)
  | .failure message => .lost message

def Answer.isUnauthorised : Answer → Bool
  | .response 401 _ => true
  | _ => false

/-- How `authorize` takes the answer of `generate-token`: a token, or what it
throws. -/
def grantOf : Answer → Except (Option String) Json
  | .failure message => .error message
  | .response status body =>
      match body.get? "token" with
      | some token =>
          if status = 200 ∧
            token.truthy then .ok token else .error (refusal status body)
      | none => .error (refusal status body)
where
  refusal (status : ℕ) (body : Json) : Option String :=
    some ("ClickPesa token generation failed (" ++ toString status ++ "): " ++
      sliced 300 (stringify body))

/-- 55 minutes, in milliseconds. -/
def TOKEN_TTL_MS : ℕ := 55 * 60 * 1000

structure CachedToken where
  value : Json
  expiresAt : Time

/-- Where a call of `request` stands, with `retried` and the token it goes on
with. -/
inductive Phase where
  | waiting
  | generating (retried : Bool)
  | authorised (retried : Bool) (token : Json)
  | sent (retried : Bool) (token : Json)
  | returned (result : ProviderResult Json)

def notConfigured : ProviderResult Json :=
  { ok := false, error := "ClickPesa credentials not configured" }

/-- `authorize`, up to its first `await`.  `request` has seen to the
credentials. -/
def authorize (token : Option CachedToken) (retried : Bool) (now : Time) :
    Phase :=
  match token with
  | some cached =>
      if now < cached.expiresAt then .authorised retried
        cached.value else .generating retried
  | none => .generating retried

/-- The rest of `authorize`, when `generate-token` has answered. -/
def generated (token : Option CachedToken) (retried : Bool) (now : Time)
    (answer : Answer) : Option CachedToken × Phase :=
  match grantOf answer with
  | .ok value =>
      (some { value, expiresAt := now + TOKEN_TTL_MS },
      .authorised retried value)
  | .error message => (token, .returned (Exchange.lost message).result)

/-- The rest of `request`, when the resource has answered.  The second call of
`request` runs as far as the `await` of its `authorize`. -/
def answered (token : Option CachedToken) (retried : Bool) (now : Time)
    (answer : Answer) : Option CachedToken × Phase :=
  if answer.isUnauthorised ∧ ¬ retried then (none, authorize none true now)
  else (token, .returned (exchangeOf answer).result)

/-- What happens to a call. -/
inductive Happening where
  | request (now : Time)
  | generated (now : Time) (answer : Answer)
  | send (token : Json)
  | answered (now : Time) (answer : Answer)

/-- One step of a call, with the cached token before and after it;
`credentialsReady` is read from the configuration. -/
inductive CallStep (credentialsReady : Bool) (token : Option CachedToken) :
    Phase → Happening → Option CachedToken × Phase → Prop where
  | request (now : Time) :
      CallStep credentialsReady token .waiting (.request now)
        (token, if credentialsReady then authorize token false
          now else .returned notConfigured)
  | generated (retried : Bool) (now : Time) (answer : Answer) :
      CallStep credentialsReady token (.generating retried)
        (.generated now answer) (Client.generated token retried now answer)
  | send (retried : Bool) (value : Json) :
      CallStep credentialsReady token (.authorised retried value) (.send value)
        (token, .sent retried value)
  | answered (retried : Bool) (value : Json) (now : Time) (answer : Answer) :
      CallStep credentialsReady token (.sent retried value)
        (.answered now answer) (Client.answered token retried now answer)

structure ClientState (Call : Type) where
  token : Option CachedToken := none
  calls : Call → Phase := fun _ => .waiting

section

variable {Call : Type} [DecidableEq Call]

def ClientState.enter (state : ClientState Call) (call : Call)
    (next : Option CachedToken × Phase) : ClientState Call :=
  { token := next.1, calls := Function.update state.calls call next.2 }

/-- One step of the client is one step of one of its calls. -/
def ClientStep (credentialsReady : Bool) :
    Step (ClientState Call) (Call × Happening) :=
  fun state event following =>
    ∃ next, CallStep credentialsReady state.token (state.calls event.1) event.2
      next ∧ following = state.enter event.1 next

def idleClient : ClientState Call := {}

end

/-- A step of one call, whatever the others have made of the token. -/
def AloneStep (credentialsReady : Bool) : Step Phase Happening :=
  fun phase happening following =>
    ∃ token next, CallStep credentialsReady token phase happening next ∧
      following = next.2

/-- How a call comes by its first token: from the cache, or by generating it. -/
inductive Opening : List Happening → Json → Prop where
  | cached (now : Time) (value : Json) : Opening [.request now] value
  | generated (now later : Time) (answer : Answer) (value : Json) :
      grantOf answer = .ok value →
        Opening [.request now, .generated later answer] value

/-- The first token was turned down. -/
def Rejected (happenings : List Happening) : Prop :=
  ∃ opening value now body, Opening opening value ∧
    happenings = opening ++ [.send value, .answered now (.response 401 body)]

/-- A call that was turned down has a token again, its own. -/
def Renewed (happenings : List Happening) (value : Json) : Prop :=
  ∃ rejected now answer, Rejected rejected ∧ grantOf answer = .ok value ∧
    happenings = rejected ++ [.generated now answer]

/-- What a call that has returned went through. -/
inductive Ended (credentialsReady : Bool) :
    List Happening → ProviderResult Json → Prop where
  | unready (now : Time) :
      credentialsReady = false →
        Ended credentialsReady [.request now] notConfigured
  | refused (now later : Time) (answer : Answer) (message : Option String) :
      credentialsReady = true → grantOf answer = .error message →
      Ended credentialsReady [.request now, .generated later answer]
        (Exchange.lost message).result
  | answered (opening : List Happening) (value : Json) (now : Time)
      (answer : Answer) :
      credentialsReady = true → Opening opening value →
        answer.isUnauthorised = false →
      Ended credentialsReady (opening ++ [.send value, .answered now answer])
        (exchangeOf answer).result
  | refusedAgain (rejected : List Happening) (now : Time) (answer : Answer)
      (message : Option String) :
      credentialsReady = true → Rejected rejected →
        grantOf answer = .error message →
      Ended credentialsReady (rejected ++ [.generated now answer])
        (Exchange.lost message).result
  | answeredAgain (renewed : List Happening) (value : Json) (now : Time)
      (answer : Answer) : credentialsReady = true → Renewed renewed value →
      Ended credentialsReady (renewed ++ [.send value, .answered now answer])
        (exchangeOf answer).result

/-- What a call has been through, by where it stands. -/
def Course (credentialsReady : Bool) (happenings : List Happening) :
    Phase → Prop
  | .waiting => happenings = []
  | .generating false => credentialsReady = true ∧ ∃ now,
      happenings = [.request now]
  | .authorised false value => credentialsReady = true ∧ Opening happenings value
  | .sent false value => credentialsReady = true ∧
      ∃ opening, Opening opening value ∧ happenings = opening ++ [.send value]
  | .generating true => credentialsReady = true ∧ Rejected happenings
  | .authorised true value => credentialsReady = true ∧ Renewed happenings value
  | .sent true value => credentialsReady = true ∧
      ∃ renewed, Renewed renewed value ∧ happenings = renewed ++ [.send value]
  | .returned result => Ended credentialsReady happenings result

section

variable {credentialsReady : Bool}

theorem Course.next {happenings : List Happening} {phase following : Phase}
    {happening : Happening} (course : Course credentialsReady happenings phase)
    (taken : AloneStep credentialsReady phase happening following) :
    Course credentialsReady (happenings ++ [happening]) following := by
  obtain ⟨token, _, taken, rfl⟩ := taken
  cases taken with
  | request now =>
      obtain rfl : happenings = [] := course
      cases credentialsReady with
      | false => exact .unready now rfl
      | true =>
          simp only [if_true, authorize]
          split
          · split
            · exact ⟨rfl, .cached now _⟩
            · exact ⟨rfl, now, rfl⟩
          · exact ⟨rfl, now, rfl⟩
  | generated retried now answer =>
      simp only [generated]
      cases granted : grantOf answer with
      | ok value =>
          cases retried with
          | false =>
              obtain ⟨ready, asked, rfl⟩ := course
              exact ⟨ready, .generated asked now answer value granted⟩
          | true =>
              exact ⟨course.1, happenings, now, answer, course.2, granted, rfl⟩
      | error message =>
          cases retried with
          | false =>
              obtain ⟨ready, asked, rfl⟩ := course
              exact .refused asked now answer message ready granted
          | true => exact .refusedAgain happenings now answer message course.1 course.2 granted
  | send retried value =>
      cases retried with
      | false => exact ⟨course.1, happenings, course.2, rfl⟩
      | true => exact ⟨course.1, happenings, course.2, rfl⟩
  | answered retried value now answer =>
      cases retried with
      | false =>
          obtain ⟨ready, opening, opened, rfl⟩ := course
          simp only [List.append_assoc, List.cons_append, List.nil_append]
          cases unauthorised : answer.isUnauthorised with
          | true =>
              obtain ⟨body, rfl⟩ : ∃ body, answer = .response 401 body := by
                unfold Answer.isUnauthorised at unauthorised
                split at unauthorised
                · exact ⟨_, rfl⟩
                · cases unauthorised
              exact ⟨ready, opening, value, now, body, opened, rfl⟩
          | false =>
              rw [answered, if_neg (by simp [unauthorised])]
              exact Ended.answered opening value now answer ready
                opened unauthorised
      | true =>
          obtain ⟨ready, renewed, renewal, rfl⟩ := course
          rw [answered, if_neg (by simp), List.append_assoc]
          exact Ended.answeredAgain renewed value now answer ready renewal

theorem Course.run {happenings : List Happening} {phase : Phase}
    (run : Run (AloneStep credentialsReady) .waiting happenings phase) :
    Course credentialsReady happenings phase :=
  run.invariant (show Course credentialsReady [] .waiting from rfl)
    fun _ _ _ _ course taken => course.next taken

/-- The tokens under which the resource was asked. -/
def sendsOf (happenings : List Happening) : List Json :=
  happenings.filterMap fun
    | .send token => some token
    | _ => none

/-- How often `generate-token` has answered. -/
def generationsOf (happenings : List Happening) : ℕ :=
  happenings.countP fun
    | .generated _ _ => true
    | _ => false

/-- The exchanges that decide: the answers of the resource, and failed
authorisations. -/
def exchangesOf (happenings : List Happening) : List (Exchange Json) :=
  happenings.filterMap fun
    | .answered _ answer => some (exchangeOf answer)
    | .generated _ answer =>
        match grantOf answer with
        | .ok _ => none
        | .error message => some (.lost message)
    | _ => none

def isUnauthorised : Exchange Json → Bool
  | .answered 401 _ _ => true
  | _ => false

@[simp] theorem isUnauthorised_exchangeOf (answer : Answer) :
    isUnauthorised (exchangeOf answer) = answer.isUnauthorised := by
  cases answer with
  | failure message => rfl
  | response status body =>
      by_cases unauthorised : status = 401
      · subst unauthorised
        rfl
      · simp [exchangeOf, isUnauthorised, Answer.isUnauthorised, unauthorised]

theorem request_eq (first retried : Exchange Json) :
    request true first retried =
      if isUnauthorised first then retried.result else first.result := by
  cases first with
  | lost message => rfl
  | answered status data detail =>
      by_cases unauthorised : status = 401
      · subst unauthorised
        rfl
      · simp [request, isUnauthorised, unauthorised]

theorem sendsOf_append (happenings more : List Happening) :
    sendsOf (happenings ++ more) = sendsOf happenings ++ sendsOf more :=
  List.filterMap_append

theorem exchangesOf_append (happenings more : List Happening) :
    exchangesOf (happenings ++ more) = exchangesOf happenings ++
      exchangesOf more :=
  List.filterMap_append

theorem generationsOf_append (happenings more : List Happening) :
    generationsOf (happenings ++ more) = generationsOf happenings +
      generationsOf more :=
  List.countP_append

/-- What has been asked and has come back so far. -/
structure Tally (happenings : List Happening) (sends generations : ℕ)
    (exchanges : List (Exchange Json)) : Prop where
  sends : (sendsOf happenings).length = sends
  generations : generationsOf happenings ≤ generations
  exchanges : exchangesOf happenings = exchanges

theorem Tally.append {happenings more : List Happening}
    {sends generations sends' generations' : ℕ}
    {exchanges exchanges' : List (Exchange Json)}
    (tally : Tally happenings sends generations exchanges)
    (tally' : Tally more sends' generations' exchanges') :
    Tally (happenings ++ more) (sends + sends') (generations + generations')
      (exchanges ++ exchanges') where
  sends := by rw [sendsOf_append, List.length_append, tally.sends, tally'.sends]
  generations := by
    rw [generationsOf_append]
    exact Nat.add_le_add tally.generations tally'.generations
  exchanges := by rw [exchangesOf_append, tally.exchanges, tally'.exchanges]

theorem tally_send (value : Json) : Tally [.send value] 1 0 [] :=
  ⟨rfl, Nat.le_refl _, rfl⟩

theorem tally_answered (now : Time) (answer : Answer) :
    Tally [.answered now answer] 0 0 [exchangeOf answer] :=
      ⟨rfl, Nat.le_refl _, rfl⟩

theorem tally_request (now : Time) : Tally [.request now] 0 0 [] :=
  ⟨rfl, Nat.le_refl _, rfl⟩

theorem tally_granted {answer : Answer} {value : Json} (now : Time)
    (granted : grantOf answer = .ok value) :
    Tally [.generated now answer] 0 1 [] where
  sends := rfl
  generations := Nat.le_refl _
  exchanges := by simp [exchangesOf, granted]

theorem tally_refused {answer : Answer} {message : Option String} (now : Time)
    (refused : grantOf answer = .error message) :
    Tally [.generated now answer] 0 1 [.lost message] where
  sends := rfl
  generations := Nat.le_refl _
  exchanges := by simp [exchangesOf, refused]

theorem Opening.tally {happenings : List Happening} {value : Json}
    (opening : Opening happenings value) : Tally happenings 0 1 [] := by
  cases opening with
  | cached now => exact ⟨rfl, Nat.zero_le _, rfl⟩
  | generated now later answer _ granted =>
      exact (tally_request now).append (tally_granted later granted)

theorem Rejected.tally {happenings : List Happening}
    (rejected : Rejected happenings) :
    ∃ exchange, isUnauthorised exchange = true ∧
      Tally happenings 1 1 [exchange] := by
  obtain ⟨opening, value, now, body, opened, rfl⟩ := rejected
  refine ⟨exchangeOf (.response 401 body), rfl, ?_⟩
  exact opened.tally.append ((tally_send value).append (tally_answered now _))

theorem Renewed.tally {happenings : List Happening} {value : Json}
    (renewed : Renewed happenings value) :
    ∃ exchange, isUnauthorised exchange = true ∧
      Tally happenings 1 2 [exchange] := by
  obtain ⟨rejected, now, answer, rejection, granted, rfl⟩ := renewed
  obtain ⟨exchange, unauthorised, tally⟩ := rejection.tally
  exact ⟨exchange, unauthorised, tally.append (tally_granted now granted)⟩

/-- The result of a call is that of one exchange, or of a second one after a
401. -/
theorem Ended.result_eq {happenings : List Happening}
    {result : ProviderResult Json}
    (ended : Ended credentialsReady happenings result) :
    ∃ first retried, result = request credentialsReady first retried ∧
      (credentialsReady = true →
        exchangesOf happenings =
          if isUnauthorised first then [first, retried] else [first]) := by
  cases ended with
  | unready now notReady =>
      subst notReady
      exact ⟨.lost none, .lost none, rfl, nofun⟩
  | refused now later answer message ready refused =>
      subst ready
      refine ⟨.lost message, .lost none, rfl, fun _ => ?_⟩
      exact ((tally_request now).append (tally_refused later refused)).exchanges
  | answered opening value now answer ready opened settled =>
      subst ready
      refine ⟨exchangeOf answer, .lost none, ?_, fun _ => ?_⟩
      · rw [request_eq, isUnauthorised_exchangeOf, settled]
        rfl
      · rw [isUnauthorised_exchangeOf, settled]
        exact (opened.tally.append
          ((tally_send value).append (tally_answered now answer))).exchanges
  | refusedAgain rejected now answer message ready rejection refused =>
      subst ready
      obtain ⟨first, unauthorised, tally⟩ := rejection.tally
      refine ⟨first, .lost message, ?_, fun _ => ?_⟩
      · rw [request_eq, if_pos unauthorised]
      · rw [if_pos unauthorised]
        exact (tally.append (tally_refused now refused)).exchanges
  | answeredAgain renewed value now answer ready renewal =>
      subst ready
      obtain ⟨first, unauthorised, tally⟩ := renewal.tally
      refine ⟨first, exchangeOf answer, ?_, fun _ => ?_⟩
      · rw [request_eq, if_pos unauthorised]
      · rw [if_pos unauthorised]
        exact (tally.append
          ((tally_send value).append (tally_answered now answer))).exchanges

/-- How far a call has gone: it asks again only with a token it has renewed. -/
structure Asked (happenings : List Happening) : Prop where
  sends : (sendsOf happenings).length ≤ 2
  generations : generationsOf happenings ≤ 2
  again : (sendsOf happenings).length = 2 →
    ∃ renewed second closing, Renewed renewed second ∧
      happenings = renewed ++ .send second :: closing

theorem Tally.asked {happenings : List Happening} {sends generations : ℕ}
    {exchanges : List (Exchange Json)}
    (tally : Tally happenings sends generations exchanges) (once : sends ≤ 1)
    (few : generations ≤ 2) : Asked happenings where
  sends := by rw [tally.sends]; omega
  generations := tally.generations.trans few
  again := fun twice => by rw [tally.sends] at twice; omega

theorem Renewed.asked {happenings closing : List Happening} {value : Json}
    {exchanges : List (Exchange Json)} (renewed : Renewed happenings value)
    (tally : Tally closing 0 0 exchanges) :
    Asked (happenings ++ .send value :: closing) := by
  obtain ⟨_, _, before⟩ := renewed.tally
  have all := before.append ((tally_send value).append tally)
  exact ⟨all.sends.le, all.generations, fun _ => ⟨happenings, value, closing, renewed, rfl⟩⟩

theorem Ended.asked {happenings : List Happening} {result : ProviderResult Json}
    (ended : Ended credentialsReady happenings result) : Asked happenings := by
  cases ended with
  | unready now => exact (tally_request now).asked (Nat.zero_le _) (Nat.zero_le _)
  | refused now later answer message _ refused =>
      exact ((tally_request now).append (tally_refused later refused)).asked
        (Nat.zero_le _) (Nat.le_succ 1)
  | answered opening value now answer _ opened =>
      exact (opened.tally.append
        ((tally_send value).append (tally_answered now answer))).asked
        (Nat.le_refl _) (Nat.le_succ 1)
  | refusedAgain rejected now answer message _ rejection refused =>
      obtain ⟨_, _, tally⟩ := rejection.tally
      exact (tally.append (tally_refused now refused)).asked (Nat.le_refl _)
        (Nat.le_refl _)
  | answeredAgain renewed value now answer _ renewal =>
      exact renewal.asked (tally_answered now answer)

theorem Course.unready {happenings : List Happening} {phase : Phase}
    (course : Course false happenings phase) :
    sendsOf happenings = [] ∧ generationsOf happenings = 0 := by
  cases phase with
  | waiting =>
      obtain rfl : happenings = [] := course
      exact ⟨rfl, rfl⟩
  | generating retried => cases retried <;> cases course.1
  | authorised retried value => cases retried <;> cases course.1
  | sent retried value => cases retried <;> cases course.1
  | returned result =>
      cases (show Ended false happenings result from course) with
      | unready now => exact ⟨rfl, rfl⟩
      | refused _ _ _ _ ready => cases ready
      | answered _ _ _ _ ready => cases ready
      | refusedAgain _ _ _ _ ready => cases ready
      | answeredAgain _ _ _ _ ready => cases ready

theorem Course.asked {happenings : List Happening} {phase : Phase}
    (course : Course credentialsReady happenings phase) : Asked happenings := by
  cases phase with
  | waiting =>
      obtain rfl : happenings = [] := course
      exact ⟨Nat.zero_le _, Nat.zero_le _, nofun⟩
  | generating retried =>
      cases retried with
      | false =>
          obtain ⟨_, now, rfl⟩ := course
          exact (tally_request now).asked (Nat.zero_le _) (Nat.zero_le _)
      | true =>
          obtain ⟨_, _, tally⟩ := course.2.tally
          exact tally.asked (Nat.le_refl _) (Nat.le_succ 1)
  | authorised retried value =>
      cases retried with
      | false => exact course.2.tally.asked (Nat.zero_le _) (Nat.le_succ 1)
      | true =>
          obtain ⟨_, _, tally⟩ := course.2.tally
          exact tally.asked (Nat.le_refl _) (Nat.le_refl _)
  | sent retried value =>
      cases retried with
      | false =>
          obtain ⟨_, opening, opened, rfl⟩ := course
          exact (opened.tally.append (tally_send value)).asked (Nat.le_refl _)
            (Nat.le_succ 1)
      | true =>
          obtain ⟨_, renewed, renewal, rfl⟩ := course
          exact renewal.asked ⟨rfl, Nat.le_refl _, rfl⟩
  | returned result => exact Ended.asked course

end

section

variable {Call : Type} [DecidableEq Call] {credentialsReady : Bool}

/-- A token that a call may use: it was given by `generate-token`, to this call
or so that it had not expired when this call came. -/
def Fresh (events : List (Call × Happening)) (call : Call) (token : Json) :
    Prop :=
  ∃ other since answer, (other, .generated since answer) ∈ events ∧
    grantOf answer = .ok token ∧
    (other = call ∨ ∃ now, (call, .request now) ∈ events ∧
      now < since + TOKEN_TTL_MS)

omit [DecidableEq Call] in
theorem Fresh.append {events : List (Call × Happening)} {call : Call}
    {token : Json} (fresh : Fresh events call token)
    (more : List (Call × Happening)) : Fresh (events ++ more) call token := by
  obtain ⟨other, since, answer, listed, granted, usable⟩ := fresh
  refine ⟨other, since, answer, List.mem_append_left _ listed, granted,
    usable.imp_right ?_⟩
  rintro ⟨now, asked, young⟩
  exact ⟨now, List.mem_append_left _ asked, young⟩

/-- The token that a call goes on with. -/
def Phase.token? : Phase → Option Json
  | .authorised _ token | .sent _ token => some token
  | .waiting | .generating _ | .returned _ => none

/-- Every token in use is one that was given, and not long ago. -/
structure Provenance (events : List (Call × Happening))
    (state : ClientState Call) : Prop where
  cached : ∀ cached, state.token = some cached →
    ∃ other since answer, (other, .generated since answer) ∈ events ∧
      grantOf answer = .ok cached.value ∧ cached.expiresAt =
        since + TOKEN_TTL_MS
  held : ∀ call token, (state.calls call).token? = some token →
    Fresh events call token
  sent : ∀ call token, (call, .send token) ∈ events → Fresh events call token

/-- What one step does to the tokens. -/
structure Handed (token : Option CachedToken) (phase : Phase)
    (happening : Happening) (next : Option CachedToken × Phase) : Prop where
  cached : ∀ cached, next.1 = some cached → token = some cached ∨
    ∃ now answer, happening = .generated now answer ∧
      grantOf answer = .ok cached.value ∧ cached.expiresAt = now + TOKEN_TTL_MS
  held : ∀ value, next.2.token? = some value → phase.token? = some value ∨
    (∃ now answer, happening = .generated now answer ∧
      grantOf answer = .ok value) ∨
    ∃ now cached, happening = .request now ∧ token = some cached ∧
      cached.value = value ∧ now < cached.expiresAt
  sent : ∀ value, happening = .send value → phase.token? = some value

theorem CallStep.handed {token : Option CachedToken} {phase : Phase}
    {happening : Happening} {next : Option CachedToken × Phase}
    (taken : CallStep credentialsReady token phase happening next) :
    Handed token phase happening next := by
  cases taken with
  | request now =>
      refine ⟨fun cached same => .inl same, fun value held => ?_, nofun⟩
      cases credentialsReady with
      | false => cases held
      | true =>
          simp only [if_true, authorize] at held
          split at held
          · split at held
            · rename_i young
              exact .inr (.inr ⟨now, _, rfl, rfl, Option.some.inj held, young⟩)
            · cases held
          · cases held
  | generated retried now answer =>
      unfold Client.generated
      cases granted : grantOf answer with
      | ok value =>
          refine ⟨fun cached given => .inr ⟨now, answer, rfl, ?_⟩,
            fun other held => .inr (.inl ⟨now, answer, rfl, ?_⟩), nofun⟩
          · cases given
            exact ⟨granted, rfl⟩
          · cases held
            exact granted
      | error message => exact ⟨fun cached same => .inl same, nofun, nofun⟩
  | send retried value =>
      refine ⟨fun cached same => .inl same, fun other held => .inl held,
        fun other same => ?_⟩
      cases same
      rfl
  | answered retried value now answer =>
      unfold Client.answered
      split
      · exact ⟨nofun, nofun, nofun⟩
      · exact ⟨fun cached same => .inl same, nofun, nofun⟩

theorem Provenance.next {events : List (Call × Happening)}
    {state following : ClientState Call} {event : Call × Happening}
    (provenance : Provenance events state)
    (taken : ClientStep credentialsReady state event following) :
    Provenance (events ++ [event]) following := by
  obtain ⟨actor, happening⟩ := event
  obtain ⟨next, taken, rfl⟩ := taken
  have handed := taken.handed
  have newest : (actor, happening) ∈ events ++ [(actor, happening)] := by simp
  constructor
  · intro cached present
    rcases handed.cached cached present with before | ⟨now, answer, rfl,
      granted, expires⟩
    · obtain ⟨other, since, answer, listed, given⟩ :=
        provenance.cached cached before
      exact ⟨other, since, answer, List.mem_append_left _ listed, given⟩
    · exact ⟨actor, now, answer, newest, granted, expires⟩
  · intro call token held
    by_cases mine : call = actor
    · subst mine
      simp only [ClientState.enter, Function.update_self] at held
      rcases handed.held token held with
        before | ⟨now, answer, rfl, granted⟩ | ⟨now, cached, rfl,
          before, rfl, young⟩
      · exact (provenance.held call token before).append _
      · exact ⟨call, now, answer, newest, granted, .inl rfl⟩
      · obtain ⟨other, since, answer, listed, granted, expires⟩ :=
          provenance.cached cached before
        exact ⟨other, since, answer, List.mem_append_left _ listed, granted,
          .inr ⟨now, newest, expires ▸ young⟩⟩
    · simp only [ClientState.enter, Function.update_of_ne mine] at held
      exact (provenance.held call token held).append _
  · intro call token listed
    rcases List.mem_append.mp listed with before | now
    · exact (provenance.sent call token before).append _
    · obtain ⟨rfl, rfl⟩ := Prod.mk.inj (List.mem_singleton.mp now)
      exact (provenance.held call token (handed.sent token rfl)).append _

theorem Provenance.run {events : List (Call × Happening)}
    {state : ClientState Call}
    (run : Run (ClientStep credentialsReady) idleClient events state) :
    Provenance events state :=
  run.invariant 
    { cached := fun _ present => by cases present
      held := fun _ _ held => by cases held
      sent := fun _ _ listed => by cases listed }
    fun _ _ _ _ provenance taken => provenance.next taken

/-! ## The calls of a run -/

/-- What holds of a call, whatever the other calls do with the token. -/
structure RequestSafe (credentialsReady : Bool)
    (events : List (Call × Happening)) (state : ClientState Call)
    (call : Call) : Prop where
  /-- The resource is asked twice at most, and so is `generate-token`. -/
  asked : Asked (labelsOf call events)
  /-- A returned result is that of the first exchange, or of the second after a
  401. -/
  result : ∀ result, state.calls call = .returned result →
    ∃ first retried, result = request credentialsReady first retried ∧
      (credentialsReady = true →
        exchangesOf (labelsOf call events) =
          if isUnauthorised first then [first, retried] else [first])
  /-- Nothing is sent under a token that nobody was given, or that had
  expired. -/
  fresh : ∀ token, .send token ∈ labelsOf call events → Fresh events call token
  /-- Without credentials nothing is sent at all. -/
  unready : credentialsReady = false →
    sendsOf (labelsOf call events) = [] ∧ generationsOf (labelsOf call events) =
      0

/-- Each call runs as it would alone. -/
theorem alone {events : List (Call × Happening)} {state : ClientState Call}
    (run : Run (ClientStep credentialsReady) idleClient events state)
    (call : Call) :
    Run (AloneStep credentialsReady) .waiting (labelsOf call events)
      (state.calls call) := by
  refine run.project ClientState.calls ?_ ?_ call
  · rintro state actor happening _ ⟨next, taken, rfl⟩
    exact ⟨state.token, next, taken, by simp [ClientState.enter]⟩
  · rintro state actor happening _ other ⟨next, taken, rfl⟩ apart
    simp [ClientState.enter, apart]

/-- Any number of calls at a time, in any order of their steps: each asks twice
at most, the second time under a token of its own, and returns what its last
exchange gives. -/
theorem request_safe {events : List (Call × Happening)}
    {state : ClientState Call}
    (run : Run (ClientStep credentialsReady) idleClient events state)
    (call : Call) : RequestSafe credentialsReady events state call := by
  have course := Course.run (alone run call)
  refine ⟨course.asked, fun result returned => ?_, fun token listed => ?_,
    fun unready => ?_⟩
  · rw [returned] at course
    exact Ended.result_eq course
  · exact (Provenance.run run).sent call token (mem_labelsOf.mp listed)
  · subst unready
    exact course.unready

theorem turn {events : List (Call × Happening)} {state : ClientState Call}
    {happening : Happening} {next : Option CachedToken × Phase}
    (run : Run (ClientStep credentialsReady) idleClient events state)
    (call : Call)
    (taken : CallStep credentialsReady state.token (state.calls call)
      happening next) :
    Run (ClientStep credentialsReady) idleClient (events ++ [(call, happening)])
      (state.enter call next) :=
  run.next ⟨next, taken, rfl⟩

/-- Two calls on one token.  The token is turned down for the second of them. -/
theorem request_safe_renewed :
    let granted (text : String) :=
      Answer.response 200 (.obj [("token", .str text)])
    let done := Answer.response 200 (.obj [])
    ∃ state, RequestSafe true
      [(true, .request 0), (true, .generated 1 (granted "t")),
        (false, .request 2),
        (true, .send (.str "t")), (false, .send (.str "t")),
        (false, .answered 3 (.response 401 (.str "Unauthorized"))),
          (true, .answered 3 done),
        (false, .generated 4 (granted "u")), (false, .send (.str "u")),
        (false, .answered 5 done)] state false := by
  intro granted done
  have run :=
    turn (.start : Run (ClientStep true) (idleClient : ClientState Bool) [] _)
    true (.request 0)
  have run := turn run true (.generated false 1 (granted "t"))
  have run := turn run false (.request 2)
  have run := turn run true (.send false (.str "t"))
  have run := turn run false (.send false (.str "t"))
  have run :=
    turn run false
    (.answered false (.str "t") 3 (.response 401 (.str "Unauthorized")))
  have run := turn run true (.answered false (.str "t") 3 done)
  have run := turn run false (.generated true 4 (granted "u"))
  have run := turn run false (.send true (.str "u"))
  have run := turn run false (.answered true (.str "u") 5 done)
  exact ⟨_, request_safe run false⟩

end

end CloudStudio.Payments.Client
