import Mathlib.Data.List.DropRight
import CloudStudio.Payments.Checksum
import CloudStudio.Platform.Guards
import CloudStudio.Wallets.Runs

/-!
# API keys

`common/utils/api-key.util.ts`, `issueApiKey` and `revokeApiKey` of the accounts
service, and `ApiKeyGuard` from the headers of a request to the account it
attaches.  The hash is an arbitrary function of texts; what is drawn at random
is an argument.
-/

namespace CloudStudio.Accounts

open CloudStudio.Data CloudStudio.Transactions CloudStudio.Platform
open CloudStudio.Payments

def apiKeyMinLength : ℕ := 32

def apiKeyDisplayPrefixLength : ℕ := 12

/-- SHA-256 in hex. -/
abbrev Sha256 := String → String

structure GeneratedKey where
  full : String
  displayPrefix : String
  hash : String

/-- `randomBytes(32).toString('hex')`. -/
def keyBody (random : Digest) : String := inHex (fun _ _ => random) "" ""

/-- `generateApiKey`: "<prefix>_live_<64 hex chars>". -/
def generateApiKey (sha256 : Sha256) (keyPrefix : String) (random : Digest) :
    GeneratedKey :=
  let full := keyPrefix ++ "_live_" ++ keyBody random
  { full
    displayPrefix := String.ofList (full.toList.take apiKeyDisplayPrefixLength)
    hash := sha256 full }

def isValidApiKeyShape (rawKey : String) : Prop :=
  apiKeyMinLength ≤ (utf16 rawKey).length

instance (rawKey : String) : Decidable (isValidApiKeyShape rawKey) :=
  inferInstanceAs (Decidable (_ ≤ _))

/-- `apiKey.create`: the id and the hash are unique. -/
def createApiKey (site : Site) (key : ApiKey) : Statement ApiKey :=
  { apiKeys.create site key with
    answer := fun world =>
      if world.apiKeys.rows.any fun row => row.id = key.id ∨
        row.keyHash = key.keyHash then
        .error .uniqueViolation
      else .ok key }

/-- The row of a new key. -/
def newApiKey (now : Time) (id : String) (accountId : AccountId) (name : String)
    (generated : GeneratedKey) : ApiKey where
  id := id
  accountId := accountId
  name := if name = "" then "default" else name
  displayPrefix := generated.displayPrefix
  keyHash := generated.hash
  createdAt := now

/-- What `issueApiKey` answers; the plaintext is returned exactly once. -/
structure IssuedKey where
  id : String
  name : String
  displayPrefix : String
  createdAt : Time
  apiKey : String

/-- What is drawn for a new key. -/
structure KeyDraw where
  id : String
  random : Digest

/-- `issueApiKey`, under `apiKeyPrefix` of the configuration. -/
def issueApiKey (sha256 : Sha256) (apiKeyPrefix : String) (now : Time)
    (draw : KeyDraw) (accountId name : String) : Db IssuedKey := do
  let resolved ← resolveAccountId accountId
  match resolved with
  | none => .threw (.missing .notFound "Account not found")
  | some resolved => do
      let generated := generateApiKey sha256
        (if apiKeyPrefix = "" then "zs" else apiKeyPrefix) draw.random
      let row ← Program.perform (createApiKey "apiKey.create"
        (newApiKey now draw.id resolved name generated))
      pure
        { id := row.id, name := row.name, displayPrefix := row.displayPrefix
          createdAt := row.createdAt, apiKey := generated.full }

structure RevokedKey where
  id : String
  revokedAt : Option Time

def revokeApiKey (now : Time) (accountId keyId : String) : Db RevokedKey := do
  let resolved ← resolveAccountId accountId
  match resolved with
  | none => .threw (.missing .notFound "Account not found")
  | some resolved => do
      let key ← Program.perform (select "apiKey.findFirst" fun world =>
        world.apiKeys.rows.find? fun key => key.id = keyId ∧
          key.accountId = resolved)
      match key with
      | none => .threw (.missing .notFound "API key not found for this account")
      | some key =>
          if key.revokedAt.isSome then pure { id := key.id
                                              revokedAt := key.revokedAt }
          else do
            let updated ← Program.perform (apiKeys.update "apiKey.revoke" key.id
              (fun key => { key with revokedAt := some now }) fun _ => rfl)
            pure { id := updated.id, revokedAt := updated.revokedAt }

/-- The headers that can carry a key. -/
structure Headers where
  xApiKey : Option String := none
  authorization : Option String := none

/-- `text.replace(/^ApiKey\s+/i, '')`. -/
def stripScheme (text : String) : String :=
  let scheme := text.toList.take 6
  let rest := text.toList.drop 6
  if scheme.map Char.toLower = "apikey".toList ∧
    rest.head?.any Text.isTrimmed then
    String.ofList (rest.dropWhile Text.isTrimmed)
  else text

/-- The key a request presents: `x-api-key`, else what `Authorization` holds,
trimmed. -/
def Headers.key (headers : Headers) : String :=
  Text.trim (((nonEmpty headers.xApiKey).or
    (headers.authorization.map stripScheme)).getD "")

theorem stripScheme_of_scheme {scheme blank : List Char} (text : String)
    (spelled : scheme.map Char.toLower = "apikey".toList)
    (nonempty : blank ≠ []) (blanks : ∀ char ∈ blank, Text.isTrimmed char) :
    stripScheme (String.ofList (scheme ++ blank ++ text.toList)) =
      String.ofList (text.toList.dropWhile Text.isTrimmed) := by
  have length : scheme.length = 6 := by
    rw [← List.length_map Char.toLower, spelled]
    rfl
  have first : (blank ++ text.toList).head?.any Text.isTrimmed := by
    cases blank with
    | nil => exact absurd rfl nonempty
    | cons char rest => simpa using blanks char List.mem_cons_self
  have head : (scheme ++ blank ++ text.toList).take 6 = scheme := by
    rw [List.append_assoc, ← length, List.take_left]
  have rest : (scheme ++ blank ++ text.toList).drop 6 =
    blank ++ text.toList := by
    rw [List.append_assoc, ← length, List.drop_left]
  simp only [stripScheme, String.toList_ofList, head, rest]
  rw [if_pos ⟨spelled, first⟩, List.dropWhile_append_of_pos blanks]

/-- A key presents itself alike in either header. -/
theorem key_authorization {scheme blank : List Char} (text : String)
    (spelled : scheme.map Char.toLower = "apikey".toList)
    (nonempty : blank ≠ []) (blanks : ∀ char ∈ blank, Text.isTrimmed char) :
    Headers.key
        { authorization :=
          some (String.ofList (scheme ++ blank ++ text.toList)) } =
      Headers.key { xApiKey := some text } := by
  have raw : ((nonEmpty (some text)).or (Option.map stripScheme none)).getD "" =
    text := by
    by_cases empty : text = ""
    · simp [nonEmpty, Option.filter, empty]
    · simp [nonEmpty, Option.filter, empty]
  have stripped : ((nonEmpty none).or (Option.map stripScheme
      (some (String.ofList (scheme ++ blank ++ text.toList))))).getD "" =
        String.ofList (text.toList.dropWhile Text.isTrimmed) := by
    simp only [nonEmpty, Option.filter_none, Option.none_or, Option.map_some,
      Option.getD_some, stripScheme_of_scheme text spelled nonempty blanks]
  simp only [Headers.key, raw, stripped, Text.trim, String.toList_ofList,
    List.dropWhile_idempotent]

/-- What the guard attaches to a request. -/
structure AuthenticatedAccount extends RequestAccount where
  apiKeyId : String

/-- A key with the account it belongs to and the account's permissions. -/
def keyOwner? (world : World) (keyHash : String) :
    Option (ApiKey × RequestAccount) :=
  do
  let key ← world.apiKeys.rows.find? fun key => key.keyHash = keyHash
  let account ← world.accounts.find? key.accountId
  return (key,
    { account, permissions := world.permissions.rows.filter fun permission =>
    permission.key.accountId = key.accountId })

/-- `canActivate`; a public route attaches nothing.  The usage stamp is
best-effort and never blocks the request. -/
def canActivate (sha256 : Sha256) (isPublic : Bool) (now : Time)
    (headers : Headers) :
    Db (Option AuthenticatedAccount) := do
  if isPublic then pure none
  else if headers.key = "" ∨ ¬ isValidApiKeyShape headers.key then
    .threw (.http .unauthorized .unauthorized
      s!"Provide a valid API key (min {apiKeyMinLength} characters) in the x-api-key header")
  else do
    let found ← Program.perform (select "apiKey.findUnique" fun world =>
      keyOwner? world (sha256 headers.key))
    match found with
    | none =>
        .threw (.http .unauthorized .apiKeyRevoked
          "API key is invalid or has been revoked")
    | some (apiKey, request) =>
        if apiKey.revokedAt.isSome then
          .threw (.http .unauthorized .apiKeyRevoked
            "API key is invalid or has been revoked")
        else if request.account.status = .suspended then
          .threw (.http .unauthorized .accountSuspended
            s!"Account \"{request.account.accountName}\" is suspended. Contact the platform admin.")
        else do
          ((Program.perform (apiKeys.update "apiKey.lastUsedAt" apiKey.id
            (fun key => { key with lastUsedAt := some now }) fun _ =>
              rfl)).discard).catching fun _ => pure ()
          pure (some { toRequestAccount := request, apiKeyId := apiKey.id })

/-- A key that is not revoked stands for its account before the guard of
accounts. -/
theorem canActivate_eq_apiKeyGuard (sha256 : Sha256) {now : Time}
    {headers : Headers} {world : World} {key : ApiKey}
    {request : RequestAccount} (shaped : isValidApiKeyShape headers.key)
    (found : keyOwner? world (sha256 headers.key) = some (key, request))
    (isOpen : key.revokedAt = none) :
    ((canActivate sha256 false now headers).run world).1 =
      ((apiKeyGuard request.account.id).run world).1.map fun request =>
        some { toRequestAccount := request, apiKeyId := key.id } := by
  obtain ⟨account, owner, attached⟩ : ∃ account,
      world.accounts.find? key.accountId = some account ∧
        request =
          { account
            permissions :=
              world.permissions.rows.filter fun permission =>
          permission.key.accountId = key.accountId } := by
    simp only [keyOwner?, Option.bind_eq_bind, Option.bind_eq_some_iff,
      Option.pure_def, Option.some.injEq, Prod.mk.injEq] at found
    obtain ⟨row, _, account, owner, rfl, rfl⟩ := found
    exact ⟨account, owner, rfl⟩
  have ownId : account.id = key.accountId := Table.key_of_find? owner
  have notEmpty : headers.key ≠ "" := by
    intro empty
    rw [empty] at shaped
    exact absurd shaped (by decide)
  subst attached
  have refused : ¬ (headers.key = "" ∨ ¬ isValidApiKeyShape headers.key) := by
    simp [shaped, notEmpty]
  simp only [canActivate, apiKeyGuard, Bool.false_eq_true, if_false,
    if_neg refused,
    Program.run_bind, Program.run_perform, select, found, ownId, owner,
      Option.map_some, isOpen,
    Option.isSome_none]
  by_cases suspended : account.status = .suspended
  · simp only [if_pos suspended]
    rfl
  · simp only [if_neg suspended, Program.run_bind, Program.run_catching,
      Program.run_discard, Program.run_perform]
    cases (apiKeys.update "apiKey.lastUsedAt" key.id
      (fun key => { key with lastUsedAt := some now }) fun _ => rfl).answer
        world <;> rfl

end CloudStudio.Accounts
