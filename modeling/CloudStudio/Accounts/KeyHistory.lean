import CloudStudio.Accounts.ApiKeys
import CloudStudio.Transactions.Completion

/-!
# What a key has been through

Whether a key opens a route is decided by its history: it was issued, it has not
been revoked, and the account it was issued to is active now.  The rows of
`ApiKey` record exactly that history.
-/

namespace CloudStudio.Accounts

open CloudStudio.Data CloudStudio.Transactions CloudStudio.Platform
open CloudStudio.Payments

/-- What a call answered with success has done to a key. -/
inductive KeyEvent where
  | issued (apiKey id : String) (owner : AccountId)
  | revoked (id : String)
  deriving DecidableEq

inductive KeyCall where
  | issue (now : Time) (draw : KeyDraw) (accountId name : String)
  | revoke (now : Time) (accountId keyId : String)
  | suspend (accountId : String)
  | activate (accountId : String)
  | request (isPublic : Bool) (now : Time) (headers : Headers)

/-- The events of an answer, and the state the call leaves. -/
def recorded {Answer : Type} (ran : Except AppError Answer × World)
    (events : Answer → List KeyEvent) : List KeyEvent × World :=
  (ran.1.toOption.toList.flatMap events, ran.2)

/-- A key belongs to the account that the call names. -/
def KeyCall.run (sha256 : Sha256) (apiKeyPrefix : String) :
    KeyCall → World → List KeyEvent × World
  | .issue now draw accountId name, world =>
      recorded
        ((issueApiKey sha256 apiKeyPrefix now draw accountId name).run world)
        fun issued => (world.resolve accountId).toList.map fun owner =>
          .issued issued.apiKey issued.id owner
  | .revoke now accountId keyId, world =>
      recorded ((revokeApiKey now accountId keyId).run world) fun revoked =>
        [.revoked revoked.id]
  | .suspend accountId, world =>
      recorded ((Platform.suspend accountId).run world) fun _ => []
  | .activate accountId, world =>
      recorded ((Platform.activate accountId).run world) fun _ => []
  | .request isPublic now headers, world =>
      recorded ((canActivate sha256 isPublic now headers).run world) fun _ => []

def KeyCall.runAll (sha256 : Sha256) (apiKeyPrefix : String) :
    List KeyCall → World → List KeyEvent × World
  | [], world => ([], world)
  | call :: rest, world =>
      let first := call.run sha256 apiKeyPrefix world
      let later := KeyCall.runAll sha256 apiKeyPrefix rest first.2
      (first.1 ++ later.1, later.2)

/-- The columns of a key that only issue and revocation write. -/
@[ext] structure KeyRecord where
  id : String
  owner : AccountId
  keyHash : String
  revokedAt : Option Time

def recordOf (key : ApiKey) : KeyRecord where
  id := key.id
  owner := key.accountId
  keyHash := key.keyHash
  revokedAt := key.revokedAt

def records (world : World) : List KeyRecord := world.apiKeys.rows.map recordOf

/-- Every step of a call on the keys and the existence of accounts. -/
inductive KeyStep (sha256 : Sha256) (world : World) :
    List KeyEvent → World → Prop where
  | quiet {after : World}
      (keys : records after = records world)
      (accounts : ∀ id, (world.accounts.find? id).isSome →
        (after.accounts.find? id).isSome) :
      KeyStep sha256 world [] after
  | issued (key : ApiKey) {apiKey : String}
      (owner : (world.accounts.find? key.accountId).isSome)
      (free : ∀ row ∈ world.apiKeys.rows, row.id ≠ key.id ∧
        row.keyHash ≠ key.keyHash)
      (hashed : key.keyHash = sha256 apiKey)
        (shaped : isValidApiKeyShape apiKey)
      (isOpen : key.revokedAt = none) :
      KeyStep sha256 world [.issued apiKey key.id key.accountId]
        { world with apiKeys := world.apiKeys.insert key }
  | revoked (now : Time) {key : ApiKey}
      (stored : world.apiKeys.find? key.id = some key) :
      KeyStep sha256 world [.revoked key.id]
        { world with
          apiKeys := world.apiKeys.modify key.id
            (fun row => { row with revokedAt := some now }) fun _ => rfl }
  | again {key : ApiKey} (stored : world.apiKeys.find? key.id = some key)
      (closed : key.revokedAt.isSome) :
      KeyStep sha256 world [.revoked key.id] world

theorem KeyStep.rfl {sha256 : Sha256} {world : World} :
    KeyStep sha256 world [] world :=
  .quiet (Eq.refl _) fun _ known => known

theorem recorded_nil {Answer : Type} (ran : Except AppError Answer × World) :
    recorded ran (fun _ => []) = ([], ran.2) := by
  simp [recorded]

theorem generateApiKey_shaped (sha256 : Sha256) (keyPrefix : String)
    (random : Digest) :
    isValidApiKeyShape (generateApiKey sha256 keyPrefix random).full := by
  have long (text : String) : text.toList.length ≤ (utf16 text).length := by
    unfold utf16
    induction text.toList with
    | nil => simp
    | cons char rest ih =>
        rw [List.flatMap_cons, List.length_append, List.length_cons]
        split <;> simp_all <;> omega
  refine le_trans ?_ (long _)
  simp [generateApiKey, keyBody, inHex, apiKeyMinLength, random.property]

theorem run_createApiKey (site : Site) (key : ApiKey) (world : World) :
    (Program.perform (createApiKey site key)).run world =
      if world.apiKeys.rows.any fun row => row.id = key.id ∨
        row.keyHash = key.keyHash then
        (.error .uniqueViolation, world)
      else (.ok key, { world with apiKeys := world.apiKeys.insert key }) := by
  by_cases taken : world.apiKeys.rows.any fun row => row.id = key.id ∨
    row.keyHash = key.keyHash
  · simp only [Program.run_perform, createApiKey, if_pos taken]
  · simp only [Program.run_perform, createApiKey, if_neg taken]
    rfl

theorem issueApiKey_step (sha256 : Sha256) (apiKeyPrefix : String) (now : Time)
    (draw : KeyDraw) (accountId name : String) (world : World) :
    KeyStep sha256 world
      ((KeyCall.issue now draw accountId name).run sha256 apiKeyPrefix world).1
      ((KeyCall.issue now draw accountId name).run sha256
        apiKeyPrefix world).2 := by
  simp only [KeyCall.run, issueApiKey, Program.run_bind, run_resolveAccountId]
  cases resolved : world.resolve accountId with
  | none => exact .rfl
  | some owner =>
      obtain ⟨account, found⟩ := World.find?_of_resolve resolved
      obtain ⟨generated, isGenerated⟩ : ∃ generated, generateApiKey sha256
          (if apiKeyPrefix = "" then "zs" else apiKeyPrefix) draw.random =
            generated := ⟨_, rfl⟩
      obtain ⟨key, isKey⟩ : ∃ key, newApiKey now draw.id owner name generated =
        key := ⟨_, rfl⟩
      simp only [Program.run_bind, isGenerated, isKey, run_createApiKey]
      by_cases taken : world.apiKeys.rows.any fun row =>
          row.id = key.id ∨ row.keyHash = key.keyHash
      · rw [if_pos taken]
        exact .rfl
      · rw [if_neg taken]
        simp only [List.any_eq_true, decide_eq_true_eq, not_exists, not_and,
          not_or] at taken
        subst isKey isGenerated
        exact .issued _ (Option.isSome_of_eq_some found) taken rfl
          (generateApiKey_shaped sha256 _ draw.random) rfl

theorem revokeApiKey_step (sha256 : Sha256) (apiKeyPrefix : String) (now : Time)
    (accountId keyId : String) (world : World) :
    KeyStep sha256 world
      ((KeyCall.revoke now accountId keyId).run sha256 apiKeyPrefix world).1
      ((KeyCall.revoke now accountId keyId).run sha256
        apiKeyPrefix world).2 := by
  simp only [KeyCall.run, revokeApiKey, Program.run_bind, run_resolveAccountId]
  cases resolved : world.resolve accountId with
  | none => exact .rfl
  | some owner =>
      simp only [Program.run_bind, Program.run_perform, select]
      cases found : world.apiKeys.rows.find? fun key =>
          key.id = keyId ∧ key.accountId = owner with
      | none => exact .rfl
      | some key =>
          have stored : world.apiKeys.find? key.id = some key :=
            Table.find?_of_mem (List.mem_of_find?_eq_some found)
          by_cases closed : key.revokedAt.isSome
          · simp only [if_pos closed]
            exact .again stored closed
          · simp only [if_neg closed, Program.run_bind, Program.run_perform,
              Relation.update, apiKeys, stored]
            exact .revoked now stored

/-- Accounts come and go by neither suspension nor activation. -/
theorem setStatus_step (sha256 : Sha256) (accountId : String)
    (status : AccountStatus) (world : World) :
    KeyStep sha256 world [] ((setStatus accountId status).run world).2 := by
  simp only [setStatus, getEntity, Program.run_bind, run_resolveAccountId]
  cases resolved : world.resolve accountId with
  | none => exact .rfl
  | some owner =>
      obtain ⟨account, found⟩ := World.find?_of_resolve resolved
      have stored : world.accounts.find? account.id = some account := by
        rw [Table.key_of_find? found]
        exact found
      simp only [Program.run_bind, Program.run_perform, Relation.findUnique,
        select, accounts, found, Program.pure_eq, Program.run_returned]
      by_cases same : account.status = status
      · rw [if_pos same]
        exact .rfl
      · simp only [if_neg same, Program.run_perform, Relation.update, stored]
        refine .quiet rfl fun id known => ?_
        simp only [Table.find?_modify]
        split <;> simpa using known

theorem canActivate_step (sha256 : Sha256) (isPublic : Bool) (now : Time)
    (headers : Headers) (world : World) :
    KeyStep sha256 world []
      ((canActivate sha256 isPublic now headers).run world).2 := by
  unfold canActivate
  split
  · exact .rfl
  split
  · exact .rfl
  simp only [Program.run_bind, Program.run_perform, select]
  cases found : keyOwner? world (sha256 headers.key) with
  | none => exact .rfl
  | some opened =>
      obtain ⟨key, request⟩ := opened
      simp only
      split
      · exact .rfl
      split
      · exact .rfl
      have stamped : (world.apiKeys.modify key.id
          (fun row => { row with lastUsedAt := some now }) fun _ =>
            rfl).rows.map recordOf = world.apiKeys.rows.map recordOf := by
        simp only [Table.modify, List.map_map]
        refine List.map_congr_left fun row _ => ?_
        simp only [Function.comp_apply]
        split <;> rfl
      simp only [Program.run_bind, Program.run_catching, Program.run_discard,
        Program.run_perform, Relation.update, apiKeys]
      cases world.apiKeys.find? key.id with
      | none => exact .rfl
      | some row => exact .quiet stamped fun _ known => known

theorem KeyCall.run_step (sha256 : Sha256) (apiKeyPrefix : String)
    (call : KeyCall) (world : World) :
    KeyStep sha256 world (call.run sha256 apiKeyPrefix world).1
      (call.run sha256 apiKeyPrefix world).2 := by
  cases call with
  | issue now draw accountId name =>
      exact issueApiKey_step sha256 apiKeyPrefix now draw accountId name world
  | revoke now accountId keyId =>
      exact revokeApiKey_step sha256 apiKeyPrefix now accountId keyId world
  | suspend accountId =>
      simp only [KeyCall.run, recorded_nil]
      exact setStatus_step sha256 accountId .suspended world
  | activate accountId =>
      simp only [KeyCall.run, recorded_nil]
      exact setStatus_step sha256 accountId .active world
  | request isPublic now headers =>
      simp only [KeyCall.run, recorded_nil]
      exact canActivate_step sha256 isPublic now headers world

/-! ## The rows record the history -/

structure KeysMatch (sha256 : Sha256) (history : List KeyEvent)
    (world : World) : Prop where
  recorded {apiKey id : String} {owner : AccountId} :
    .issued apiKey id owner ∈ history →
      ∃ revokedAt, ⟨id, owner, sha256 apiKey, revokedAt⟩ ∈ records world
  issued {key : KeyRecord} : key ∈ records world →
    ∃ apiKey, isValidApiKeyShape apiKey ∧ key.keyHash = sha256 apiKey ∧
      .issued apiKey key.id key.owner ∈ history
  closed {key : KeyRecord} : key ∈ records world →
    (key.revokedAt.isSome ↔ .revoked key.id ∈ history)
  known {id : String} : .revoked id ∈ history →
    id ∈ (records world).map KeyRecord.id
  hashes : ((records world).map KeyRecord.keyHash).Nodup
  owners {key : KeyRecord} : key ∈ records world →
    (world.accounts.find? key.owner).isSome

theorem records_ids (world : World) :
    (records world).map KeyRecord.id = world.apiKeys.rows.map ApiKey.id := by
  simp [records, Function.comp_def, recordOf]

theorem KeysMatch.start {sha256 : Sha256} {world : World}
    (fresh : world.apiKeys.rows = []) : KeysMatch sha256 [] world := by
  have none : records world = [] := by simp [records, fresh]
  constructor <;> simp [none]

variable {sha256 : Sha256} {history events : List KeyEvent}
  {world after : World}

theorem KeysMatch.quiet (keeps : KeysMatch sha256 history world)
    (keys : records after = records world)
    (accounts : ∀ id, (world.accounts.find? id).isSome →
      (after.accounts.find? id).isSome) : KeysMatch sha256 history after := by
  constructor <;> rw [keys]
  · exact keeps.recorded
  · exact keeps.issued
  · exact keeps.closed
  · exact keeps.known
  · exact keeps.hashes
  · exact fun row => accounts _ (keeps.owners row)

theorem KeysMatch.insert (keeps : KeysMatch sha256 history world) {key : ApiKey}
    {apiKey : String} (owner : (world.accounts.find? key.accountId).isSome)
    (free : ∀ row ∈ world.apiKeys.rows, row.id ≠ key.id ∧
      row.keyHash ≠ key.keyHash) (hashed : key.keyHash = sha256 apiKey)
    (shaped : isValidApiKeyShape apiKey) (isOpen : key.revokedAt = none) :
    KeysMatch sha256 (history ++ [.issued apiKey key.id key.accountId])
      { world with apiKeys := world.apiKeys.insert key } := by
  have absent : world.apiKeys.find? key.id = none := by
    rw [Table.find?_eq_none_iff, List.mem_map]
    exact fun ⟨row, member, same⟩ => (free row member).1 same
  have added : records { world with apiKeys := world.apiKeys.insert key } =
      records world ++ [recordOf key] := by
    simp only [records, Table.rows_insert absent, List.map_append,
      List.map_singleton]
  have unrevoked : .revoked key.id ∉ history := by
    intro revoked
    have taken := keeps.known revoked
    rw [records_ids] at taken
    exact Table.find?_eq_none_iff.mp absent taken
  constructor
  · intro other id accountId member
    rw [added]
    simp only [List.mem_append, List.mem_singleton] at member ⊢
    rcases member with before | same
    · obtain ⟨revokedAt, row⟩ := keeps.recorded before
      exact ⟨revokedAt, .inl row⟩
    · cases same
      exact ⟨none, .inr (by rw [recordOf, hashed, isOpen])⟩
  · intro record row
    rw [added, List.mem_append, List.mem_singleton] at row
    rcases row with before | rfl
    · obtain ⟨other, valid, hash, event⟩ := keeps.issued before
      exact ⟨other, valid, hash, List.mem_append_left _ event⟩
    · exact ⟨apiKey, shaped, hashed, List.mem_append_right _ List.mem_cons_self⟩
  · intro record row
    rw [added, List.mem_append, List.mem_singleton] at row
    simp only [List.mem_append, List.mem_singleton, reduceCtorEq, or_false]
    rcases row with before | rfl
    · exact keeps.closed before
    · simp only [recordOf, isOpen, Option.isSome_none, Bool.false_eq_true,
        unrevoked]
  · intro id member
    rw [added, List.map_append]
    simp only [List.mem_append, List.mem_singleton, reduceCtorEq,
      or_false] at member
    exact List.mem_append_left _ (keeps.known member)
  · rw [added, List.map_append, List.map_singleton]
    refine keeps.hashes.append (List.nodup_singleton _) ?_
    rw [List.disjoint_singleton]
    simp only [records, List.map_map, List.mem_map, not_exists, not_and]
    exact fun row member => (free row member).2
  · intro record row
    rw [added, List.mem_append, List.mem_singleton] at row
    rcases row with before | rfl
    · exact keeps.owners before
    · exact owner

/-- A record with its revocation date set. -/
def KeyRecord.revoke (id : String) (now : Time) (key : KeyRecord) : KeyRecord :=
  if key.id = id then { key with revokedAt := some now } else key

theorem records_revoke (now : Time) (id : String) :
    records { world with
      apiKeys :=
        world.apiKeys.modify id (fun row => { row with revokedAt := some now })
        fun _ => rfl } = (records world).map (KeyRecord.revoke id now) := by
  simp only [records, Table.modify, List.map_map]
  refine List.map_congr_left fun row _ => ?_
  simp only [Function.comp_apply, KeyRecord.revoke]
  by_cases same : row.id = id
  · simp [recordOf, same]
  · simp [recordOf, same]

theorem KeyRecord.revoke_columns (id : String) (now : Time) (key : KeyRecord) :
    (key.revoke id now).id = key.id ∧ (key.revoke id now).owner = key.owner ∧
      (key.revoke id now).keyHash = key.keyHash := by
  unfold KeyRecord.revoke
  split <;> simp

theorem KeysMatch.revoke (keeps : KeysMatch sha256 history world) (now : Time)
    {key : ApiKey} (stored : world.apiKeys.find? key.id = some key) :
    KeysMatch sha256 (history ++ [.revoked key.id])
      { world with
        apiKeys := world.apiKeys.modify key.id
          (fun row => { row with revokedAt := some now }) fun _ => rfl } := by
  have columns := KeyRecord.revoke_columns key.id now
  constructor
  · intro apiKey id owner member
    rw [records_revoke]
    simp only [List.mem_append, List.mem_singleton, reduceCtorEq,
      or_false] at member
    obtain ⟨revokedAt, row⟩ := keeps.recorded member
    obtain ⟨sameId, sameOwner, sameHash⟩ :=
      columns ⟨id, owner, sha256 apiKey, revokedAt⟩
    refine ⟨(KeyRecord.revoke key.id now ⟨id, owner, sha256 apiKey,
      revokedAt⟩).revokedAt, ?_⟩
    refine List.mem_map.mpr ⟨_, row, ?_⟩
    exact KeyRecord.ext sameId sameOwner sameHash rfl
  · intro record row
    rw [records_revoke] at row
    obtain ⟨before, member, rfl⟩ := List.mem_map.mp row
    obtain ⟨sameId, sameOwner, sameHash⟩ := columns before
    obtain ⟨apiKey, valid, hash, event⟩ := keeps.issued member
    rw [sameId, sameOwner, sameHash]
    exact ⟨apiKey, valid, hash, List.mem_append_left _ event⟩
  · intro record row
    rw [records_revoke] at row
    obtain ⟨before, member, rfl⟩ := List.mem_map.mp row
    rw [(columns before).1]
    simp only [List.mem_append, List.mem_singleton, KeyEvent.revoked.injEq,
      ← keeps.closed member, KeyRecord.revoke]
    by_cases same : before.id = key.id
    · simp [same]
    · simp [same]
  · intro id member
    rw [records_ids]
    simp only [List.mem_append, List.mem_singleton,
      KeyEvent.revoked.injEq] at member
    have ids :
      (world.apiKeys.modify key.id
      (fun row => { row with revokedAt := some now })
        fun _ => rfl).rows.map ApiKey.id =
          world.apiKeys.rows.map ApiKey.id := by
      have same :=
        congrArg (List.map KeyRecord.id) (@records_revoke world now key.id)
      rw [records_ids, List.map_map] at same
      rw [same, ← records_ids]
      exact List.map_congr_left fun record _ => (columns record).1
    rw [ids, ← records_ids]
    rcases member with before | rfl
    · exact keeps.known before
    · rw [records_ids]
      exact List.mem_map_of_mem (Table.mem_of_find? stored)
  · rw [records_revoke, List.map_map]
    have same : KeyRecord.keyHash ∘ KeyRecord.revoke key.id now =
      KeyRecord.keyHash :=
      funext fun record => (columns record).2.2
    rw [same]
    exact keeps.hashes
  · intro record row
    rw [records_revoke] at row
    obtain ⟨before, member, rfl⟩ := List.mem_map.mp row
    rw [(columns before).2.1]
    exact keeps.owners member

theorem KeysMatch.again (keeps : KeysMatch sha256 history world) {key : ApiKey}
    (stored : world.apiKeys.find? key.id = some key)
    (closed : key.revokedAt.isSome) :
    KeysMatch sha256 (history ++ [.revoked key.id]) world := by
  have row : recordOf key ∈ records world :=
    List.mem_map_of_mem (Table.mem_of_find? stored)
  have before : .revoked key.id ∈ history := (keeps.closed row).mp closed
  have revoked (id : String) :
      .revoked id ∈ history ++ [.revoked key.id] ↔ .revoked id ∈ history := by
    simp only [List.mem_append, List.mem_singleton, KeyEvent.revoked.injEq]
    constructor
    · rintro (member | rfl)
      · exact member
      · exact before
    · exact .inl
  constructor
  · intro apiKey id owner member
    simp only [List.mem_append, List.mem_singleton, reduceCtorEq,
      or_false] at member
    exact keeps.recorded member
  · intro record member
    obtain ⟨apiKey, valid, hash, event⟩ := keeps.issued member
    exact ⟨apiKey, valid, hash, List.mem_append_left _ event⟩
  · intro record member
    rw [revoked]
    exact keeps.closed member
  · exact fun member => keeps.known ((revoked _).mp member)
  · exact keeps.hashes
  · exact keeps.owners

/-- One call. -/
theorem KeysMatch.step (keeps : KeysMatch sha256 history world)
    (step : KeyStep sha256 world events after) :
    KeysMatch sha256 (history ++ events) after := by
  cases step with
  | quiet keys accounts =>
      rw [List.append_nil]
      exact keeps.quiet keys accounts
  | issued key owner free hashed shaped isOpen =>
      exact keeps.insert owner free hashed shaped isOpen
  | revoked now stored => exact keeps.revoke now stored
  | again stored closed => exact keeps.again stored closed

/-- Any number of calls. -/
theorem KeysMatch.run (apiKeyPrefix : String)
    (keeps : KeysMatch sha256 history world) (calls : List KeyCall) :
    KeysMatch sha256
      (history ++ (KeyCall.runAll sha256 apiKeyPrefix calls world).1)
      (KeyCall.runAll sha256 apiKeyPrefix calls world).2 := by
  induction calls generalizing history world with
  | nil =>
      rw [KeyCall.runAll, List.append_nil]
      exact keeps
  | cons call rest ih =>
      rw [KeyCall.runAll, ← List.append_assoc]
      exact ih (keeps.step (call.run_step sha256 apiKeyPrefix world))

/-- The account found by a hash is the one of the row that has it. -/
theorem keyOwner?_eq_some_iff {keyHash : String} {key : ApiKey}
    {request : RequestAccount} :
    keyOwner? world keyHash = some (key, request) ↔
      (world.apiKeys.rows.find? fun key => key.keyHash = keyHash) = some key ∧
        ∃ account, world.accounts.find? key.accountId = some account ∧
          request =
            { account
              permissions :=
                world.permissions.rows.filter fun permission =>
            permission.key.accountId = key.accountId } := by
  unfold keyOwner?
  simp only [Option.bind_eq_bind, Option.bind_eq_some_iff, Option.pure_def,
    Option.some.injEq, Prod.mk.injEq]
  constructor
  · rintro ⟨row, stored, account, owner, rfl, rfl⟩
    exact ⟨stored, account, owner, rfl⟩
  · rintro ⟨stored, account, owner, rfl⟩
    exact ⟨key, stored, account, owner, rfl, rfl⟩

/-- The row with a hash, when no two rows share one. -/
theorem find?_keyHash_iff
    (distinct : (world.apiKeys.rows.map ApiKey.keyHash).Nodup)
    {keyHash : String} {key : ApiKey} :
    (world.apiKeys.rows.find? fun key => key.keyHash = keyHash) = some key ↔
      key ∈ world.apiKeys.rows ∧ key.keyHash = keyHash := by
  constructor
  · intro found
    exact ⟨List.mem_of_find?_eq_some
      found, by simpa using List.find?_some found⟩
  · rintro ⟨member, rfl⟩
    let byHash : Table ApiKey.keyHash := ⟨world.apiKeys.rows, distinct⟩
    exact byHash.find?_of_mem member

theorem canActivate_ok_iff {now : Time} {headers : Headers}
    {answer : Option AuthenticatedAccount} :
    (∃ after, (canActivate sha256 false now headers).run world =
      (.ok answer, after)) ↔ isValidApiKeyShape headers.key ∧ ∃ key request,
        keyOwner? world (sha256 headers.key) = some (key, request) ∧
          key.revokedAt = none ∧ request.account.status = .active ∧
          answer =
            some { toRequestAccount := request, apiKeyId := key.id } := by
  have notEmpty : isValidApiKeyShape headers.key → headers.key ≠ "" := by
    intro shaped empty
    rw [empty] at shaped
    exact absurd shaped (by decide)
  simp only [canActivate, Bool.false_eq_true, if_false]
  by_cases shaped : isValidApiKeyShape headers.key
  · rw [if_neg (by simp [shaped, notEmpty shaped])]
    simp only [Program.run_bind, Program.run_perform, select, shaped, true_and]
    cases found : keyOwner? world (sha256 headers.key) with
    | none => simp
    | some opened =>
        obtain ⟨key, request⟩ := opened
        have only (claim : ApiKey → RequestAccount → Prop) :
            (∃ other opened, some (key, request) = some (other, opened) ∧
              claim other opened) ↔ claim key request := by
          constructor
          · rintro ⟨_, _, same, holds⟩
            cases same
            exact holds
          · exact fun holds => ⟨key, request, rfl, holds⟩
        rw [only]
        cases closed : key.revokedAt with
        | some date => simp [closed]
        | none =>
            simp only [closed, Option.isSome_none, Bool.false_eq_true,
              if_false, true_and]
            cases status : request.account.status with
            | suspended => simp
            | active =>
                simp only [reduceCtorEq, if_false, true_and, Program.run_bind,
                  Program.run_catching, Program.run_discard,
                    Program.run_perform]
                cases (apiKeys.update "apiKey.lastUsedAt" key.id
                    (fun key => { key with lastUsedAt := some now })
                      fun _ => rfl).answer
                    world <;>
                  simp [eq_comm]
  · rw [if_pos (.inr shaped)]
    simp [shaped]

/-- The guard of a route that is not public lets a request in just when the key
it presents was issued and not revoked since, and the account it was issued to
is active; it attaches that account. -/
theorem canActivate_accepts_iff (sha256 : Sha256)
    (injective : Function.Injective sha256) (apiKeyPrefix : String)
    (start : World) (fresh : start.apiKeys.rows = []) (calls : List KeyCall)
    (now : Time) (headers : Headers) (answer : Option AuthenticatedAccount) :
    (∃ after, (canActivate sha256 false now headers).run
        (KeyCall.runAll sha256 apiKeyPrefix calls start).2 =
          (.ok answer, after)) ↔
      ∃ id owner account,
        .issued headers.key id owner ∈
          (KeyCall.runAll sha256 apiKeyPrefix calls start).1 ∧
        .revoked id ∉ (KeyCall.runAll sha256 apiKeyPrefix calls start).1 ∧
        (KeyCall.runAll sha256 apiKeyPrefix calls start).2.accounts.find?
          owner = some account ∧
        account.status = .active ∧
        answer = some
          { account
            permissions :=
              (KeyCall.runAll sha256 apiKeyPrefix calls
              start).2.permissions.rows.filter
              fun permission => permission.key.accountId = owner
            apiKeyId := id } := by
  have opened : KeysMatch sha256 [] start := .start fresh
  have keeps := opened.run apiKeyPrefix calls
  rw [List.nil_append] at keeps
  generalize KeyCall.runAll sha256 apiKeyPrefix calls start = past at keeps ⊢
  obtain ⟨history, world⟩ := past
  simp only at keeps ⊢
  have distinct : (world.apiKeys.rows.map ApiKey.keyHash).Nodup := by
    have hashes := keeps.hashes
    rwa [records, List.map_map] at hashes
  rw [canActivate_ok_iff]
  simp only [keyOwner?_eq_some_iff, find?_keyHash_iff distinct]
  constructor
  · rintro ⟨_, key, _, ⟨⟨row, hash⟩, account, owner, rfl⟩, unrevoked, active,
      rfl⟩
    have record : recordOf key ∈ records world := List.mem_map_of_mem row
    obtain ⟨apiKey, _, hashed, event⟩ := keeps.issued record
    have same : apiKey = headers.key := injective (hashed.symm.trans hash)
    subst same
    refine ⟨key.id, key.accountId, account, event, ?_, owner, active, rfl⟩
    intro revoked
    have dated := (keeps.closed record).mpr revoked
    simp [recordOf, unrevoked] at dated
  · rintro ⟨id, owner, account, event, unrevoked, found, active, rfl⟩
    obtain ⟨revokedAt, record⟩ := keeps.recorded event
    obtain ⟨key, row, same⟩ := List.mem_map.mp record
    obtain ⟨rfl, rfl, hash, rfl⟩ := KeyRecord.mk.inj same
    obtain ⟨apiKey, shaped, hashed, _⟩ := keeps.issued record
    have presented : apiKey = headers.key := injective hashed.symm
    subst presented
    refine ⟨shaped, key, _, ⟨⟨row, hash⟩, account, found, rfl⟩, ?_, active, rfl⟩
    have undated := (keeps.closed record).not.mpr unrevoked
    simpa using undated

/-- A key just issued opens the account it was issued to. -/
theorem canActivate_accepts_issued :
    let start : World :=
      { accounts := Table.empty.insert
          { id := "a", accountId := "ACC-1", sourceCode := "AAAAA" } }
    let draw : KeyDraw := ⟨"k", ⟨List.replicate 32 0, by decide⟩⟩
    let past := KeyCall.runAll id "zs" [.issue 0 draw "ACC-1" "backup"] start
    let headers : Headers :=
      { xApiKey := some (generateApiKey id "zs" draw.random).full }
    ∃ account after,
      (canActivate id false 0 headers).run past.2 =
      (.ok (some account), after) ∧
      account.apiKeyId = "k" ∧ account.account.accountId = "ACC-1" := by
  intro start draw past headers
  obtain ⟨after, accepted⟩ :=
    (canActivate_accepts_iff id Function.injective_id "zs" start rfl
    [.issue 0 draw "ACC-1" "backup"] 0 headers _).mpr
      ⟨"k", "a", _, by decide, by decide, rfl, rfl, rfl⟩
  exact ⟨_, after, accepted, rfl, rfl⟩

end CloudStudio.Accounts
