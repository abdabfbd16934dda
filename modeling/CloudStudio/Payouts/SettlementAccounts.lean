import Mathlib.Data.List.ReduceOption
import CloudStudio.Payouts.Settlements
import CloudStudio.Wallets.Runs

/-!
# Settlement accounts

`SettlementsService`: `upsertSettlementAccount` and `updateSettlementAccount`.
The first clears and sets the default in one transaction.  The second clears it
in a statement of its own, before the new fields are validated.
-/

namespace CloudStudio.Payouts

open CloudStudio.Data CloudStudio.Transactions CloudStudio.Platform
open CloudStudio.Wallets

/-- The fields of a settlement account, as a request gives them; null counts as
missing. -/
structure SettlementFields where
  method : Option MobileMethod := none
  phoneNumber : Option String := none
  bankName : Option String := none
  bankInitials : Option String := none
  accountNumber : Option String := none
  accountName : Option String := none

structure SettlementInput extends SettlementFields where
  type : SettlementType

/-- A field of a patch.  `@IsOptional` lets null pass as it does a field that is
left out. -/
inductive PatchField (Value : Type) where
  | missing | null
  | value (given : Value)
  deriving DecidableEq

/-- What the column holds after the patch. -/
def PatchField.getD {Value : Type} (field : PatchField Value) (stored : Value) :
    Value :=
  match field with
  | .value given => given
  | .missing | .null => stored

structure SettlementPatch extends SettlementFields where
  type : Option SettlementType := none
  isActive : PatchField Bool := .missing
  isDefault : PatchField Bool := .missing

/-- The columns a validated input assigns. -/
inductive SettlementData where
  | mobile (method : MobileMethod) (phoneNumber : String)
  | bank (bankName : String) (bankInitials : Option String)
      (accountNumber : String) (accountName : Option String)
  deriving DecidableEq

def SettlementData.assign (data : SettlementData) (row : SettlementAccount) :
    SettlementAccount :=
  match data with
  | .mobile method phoneNumber =>
      { row with
        type := .mobile, method := some method, phoneNumber := some phoneNumber }
  | .bank bankName bankInitials accountNumber accountName =>
      { row with
        type := .bank
        bankName := some bankName
        bankInitials
        accountNumber := some accountNumber
        accountName }

/-- PostgreSQL stores no text with a NUL in it; a normalised phone number has
none. -/
def SettlementData.Storable : SettlementData → Prop
  | .mobile .. => True
  | .bank bankName bankInitials accountNumber accountName =>
      ∀ text ∈ [some bankName, bankInitials, some accountNumber,
          accountName].reduceOption,
        '\u0000' ∉ text.toList

instance : (data : SettlementData) → Decidable data.Storable
  | .mobile .. => inferInstanceAs (Decidable True)
  | .bank .. => inferInstanceAs (Decidable (∀ text ∈ _, _ ∉ String.toList text))

/-- Validates channel-specific fields and normalises the phone number. -/
def validateSettlementInput (type : SettlementType) (input : SettlementFields) :
    Except AppError SettlementData :=
  match type with
  | .mobile =>
      match input.method with
      | none => .error (.badRequest .validationFailed
          "Mobile settlement requires a method (AIRTEL, TIGO, VODACOM or HALOPESA)")
      | some method =>
          match normalizePhoneNumber (input.phoneNumber.getD "") with
          | none => .error (.badRequest .validationFailed
              "Mobile settlement requires a valid Tanzanian phoneNumber")
          | some phone => .ok (.mobile method phone)
  | .bank =>
      match nonEmpty input.accountNumber, nonEmpty input.bankName with
      | some accountNumber, some bankName =>
          .ok (.bank (Text.trim bankName)
            (input.bankInitials.map fun initials =>
              Text.toUpperCase (Text.trim initials))
            (Text.trim accountNumber) (input.accountName.map Text.trim))
      | _, _ => .error (.badRequest .validationFailed
          "Bank settlement requires accountNumber and bankName")

/-- A row after the defaults of an account are cleared; the update touches every
row of the account. -/
def cleared (now : Time) (accountId : AccountId) (row : SettlementAccount) :
    SettlementAccount :=
  if row.accountId = accountId then
    { row with isDefault := false, updatedAt := now }
  else row

theorem cleared_id (now : Time) (accountId : AccountId)
    (row : SettlementAccount) : (cleared now accountId row).id = row.id := by
  unfold cleared
  split <;> rfl

theorem cleared_accountId (now : Time) (accountId : AccountId)
    (row : SettlementAccount) :
    (cleared now accountId row).accountId = row.accountId := by
  unfold cleared
  split <;> rfl

/-- `updateMany({ where: { accountId }, data: { isDefault: false } })`. -/
def clearDefaults (site : Site) (now : Time) (accountId : AccountId) :
    Statement Unit where
  label := site
  answer := fun _ => .ok ()
  effect := fun _ world =>
    { world with
      settlementAccounts :=
        world.settlementAccounts.modifyAll (cleared now accountId)
        (cleared_id now accountId) }
  locks := fun world =>
    (world.settlementAccounts.rows.filter fun row =>
      row.accountId = accountId).map fun row => .settlementAccount row.id

/-- The row of a new settlement account. -/
def newSettlement (now : Time) (id : String) (accountId : AccountId)
    (data : SettlementData) (isDefault : Bool) : SettlementAccount :=
  data.assign
    { id, accountId, type := .mobile, isDefault, createdAt := now, updatedAt := now }

theorem newSettlement_id (now : Time) (id : String) (accountId : AccountId)
    (data : SettlementData) (isDefault : Bool) :
    (newSettlement now id accountId data isDefault).id = id := by
  cases data <;> rfl

theorem newSettlement_accountId (now : Time) (id : String)
    (accountId : AccountId) (data : SettlementData) (isDefault : Bool) :
    (newSettlement now id accountId data isDefault).accountId = accountId := by
  cases data <;> rfl

theorem newSettlement_isDefault (now : Time) (id : String)
    (accountId : AccountId) (data : SettlementData) (isDefault : Bool) :
    (newSettlement now id accountId data isDefault).isDefault = isDefault := by
  cases data <;> rfl

/-- `tx.settlementAccount.create`. -/
def createSettlementRow (now : Time) (id : String) (accountId : AccountId)
    (data : SettlementData) (isDefault : Bool) : Tx SettlementAccount :=
  if data.Storable then
    Body.perform (settlementAccounts.create "settlement.create"
      (newSettlement now id accountId data isDefault))
  else .threw .invalidValue

/-- The default of the account is cleared and the new one created together. -/
def upsertTransaction (now : Time) (id : String) (accountId : AccountId)
    (data : SettlementData) (isDefault : Bool) : Tx SettlementAccount :=
  if isDefault then do
    Body.perform (clearDefaults "settlement.clear" now accountId)
    createSettlementRow now id accountId data isDefault
  else createSettlementRow now id accountId data isDefault

/-- Creates a settlement account for an account (default: becomes the
default). -/
def upsertSettlementAccount (now : Time) (id : String) (accountId : String)
    (input : SettlementInput) (isDefault : Option Bool) :
    Db SettlementAccount :=
  do
  let resolved ← resolveAccountId accountId
  match resolved with
  | none => .threw (.missing .notFound "Account not found")
  | some resolved =>
      match validateSettlementInput input.type input.toSettlementFields with
      | .error error => .threw error
      | .ok data =>
          Program.atomically "settlement.commit"
            (upsertTransaction now id resolved data (isDefault ≠ some false))

/--
`if (patch.type) Object.assign(data, this.validateSettlementInput(patch))`. -/
def patchData (patch : SettlementPatch) :
    Except AppError (Option SettlementData) :=
  match patch.type with
  | none => .ok none
  | some type => (validateSettlementInput type patch.toSettlementFields).map
      some

/-- The row `settlementAccount.update` writes over `row`. -/
def patched (now : Time) (data : Option SettlementData)
    (patch : SettlementPatch) (row : SettlementAccount) : SettlementAccount :=
  let assigned := (data.map fun data => data.assign row).getD row
  { assigned with
    isActive := patch.isActive.getD assigned.isActive
    isDefault := patch.isDefault.getD assigned.isDefault
    updatedAt := now }

/-- Prisma takes no null for a required column, and the database no NUL in a
text. -/
def Refused (data : Option SettlementData) (patch : SettlementPatch) : Prop :=
  patch.isActive = .null ∨ patch.isDefault = .null ∨
    ∃ assigned ∈ data, ¬ assigned.Storable

instance (data : Option SettlementData) (patch : SettlementPatch) :
    Decidable (Refused data patch) :=
  inferInstanceAs (Decidable (_ ∨ _ ∨ _))

theorem assign_id (data : SettlementData) (row : SettlementAccount) :
    (data.assign row).id = row.id := by
  cases data <;> rfl

theorem patched_id (now : Time) (data : Option SettlementData)
    (patch : SettlementPatch) (row : SettlementAccount) :
    (patched now data patch row).id = row.id := by
  cases data with
  | none => rfl
  | some data => exact assign_id data row

theorem patched_accountId (now : Time) (data : Option SettlementData)
    (patch : SettlementPatch) (row : SettlementAccount) :
    (patched now data patch row).accountId = row.accountId := by
  cases data with
  | none => rfl
  | some data => cases data <;> rfl

theorem patched_isDefault (now : Time) (data : Option SettlementData)
    (patch : SettlementPatch) (row : SettlementAccount) :
    (patched now data patch row).isDefault =
      patch.isDefault.getD row.isDefault := by
  cases data with
  | none => rfl
  | some data => cases data <;> rfl

/-- The fields are validated after the default is cleared. -/
def writePatch (now : Time) (id : String) (patch : SettlementPatch) :
    Db SettlementAccount :=
  match patchData patch with
  | .error error => .threw error
  | .ok data =>
      if Refused data patch then .threw .invalidValue
      else
        Program.perform (settlementAccounts.update "settlement.update" id
          (patched now data patch) (patched_id now data patch))

def updateSettlementAccount (now : Time) (accountId settlementId : String)
    (patch : SettlementPatch) : Db SettlementAccount := do
  let resolved ← resolveAccountId accountId
  match resolved with
  | none => .threw (.missing .notFound "Account not found")
  | some resolved => do
      let row ← Program.perform (select "settlement.findFirst" fun world =>
        world.settlementAccounts.rows.find? fun row =>
          row.id = settlementId ∧ row.accountId = resolved)
      match row with
      | none => .threw (.missing .notFound "Settlement account not found")
      | some row =>
          if patch.isDefault = .value true then do
            Program.perform (clearDefaults "settlement.clear" now resolved)
            writePatch now row.id patch
          else writePatch now row.id patch

abbrev SettlementTable := Table SettlementAccount.id

/-- No settlement account of the account is the default. -/
def NoDefault (table : SettlementTable) (owner : AccountId) : Prop :=
  ∀ row ∈ table.rows, row.accountId = owner → row.isDefault = false

/-- At most one settlement account of the account is the default. -/
def OneDefault (table : SettlementTable) (owner : AccountId) : Prop :=
  ∀ first ∈ table.rows, ∀ second ∈ table.rows, first.accountId = owner →
    second.accountId = owner → first.isDefault = true →
      second.isDefault = true → first = second

section

variable {table : SettlementTable} {owner : AccountId}

theorem noDefault_cleared (now : Time) (table : SettlementTable)
    (owner : AccountId) :
    NoDefault (table.modifyAll (cleared now owner) (cleared_id now owner))
      owner := by
  intro row member own
  obtain ⟨before, _, rfl⟩ := List.mem_map.mp member
  rw [cleared_accountId] at own
  rw [cleared, if_pos own]

theorem oneDefault_of_noDefault (none_ : NoDefault table owner) :
    OneDefault table owner := by
  intro first member _ _ own _ default _
  rw [none_ first member own] at default
  cases default

theorem oneDefault_cleared (now : Time) (one : OneDefault table owner)
    (accountId : AccountId) :
    OneDefault
      (table.modifyAll (cleared now accountId) (cleared_id now accountId))
      owner := by
  by_cases same : accountId = owner
  · subst same
    exact oneDefault_of_noDefault (noDefault_cleared now table accountId)
  · intro first firstMember second secondMember firstOwn secondOwn
      firstDefault secondDefault
    obtain ⟨row, member, rfl⟩ := List.mem_map.mp firstMember
    obtain ⟨other, otherMember, rfl⟩ := List.mem_map.mp secondMember
    have untouched : ∀ row : SettlementAccount,
      (cleared now accountId row).accountId = owner →
        cleared now accountId row = row := by
      intro row own
      rw [cleared_accountId] at own
      rw [cleared, if_neg]
      exact fun equal => same (equal.symm.trans own)
    have same := untouched row firstOwn
    have otherSame := untouched other secondOwn
    rw [same] at firstOwn firstDefault ⊢
    rw [otherSame] at secondOwn secondDefault ⊢
    exact one row member other otherMember firstOwn secondOwn
      firstDefault secondDefault

/-- A new row is the default only of an account without one. -/
theorem oneDefault_insert {row : SettlementAccount}
    (one : OneDefault table owner)
    (free : row.isDefault = true → NoDefault table row.accountId)
    (fresh : table.find? row.id = none) :
    OneDefault (table.insert row) owner := by
  intro first firstMember second secondMember firstOwn secondOwn
    firstDefault secondDefault
  rw [Table.rows_insert fresh, List.mem_append,
    List.mem_singleton] at firstMember secondMember
  rcases firstMember with firstMember | rfl
  · rcases secondMember with secondMember | rfl
    · exact one first firstMember second secondMember firstOwn
        secondOwn firstDefault secondDefault
    · have absent :=
        free secondDefault first firstMember (firstOwn.trans secondOwn.symm)
      rw [absent] at firstDefault
      cases firstDefault
  · rcases secondMember with secondMember | rfl
    · have absent :=
        free firstDefault second secondMember (secondOwn.trans firstOwn.symm)
      rw [absent] at secondDefault
      cases secondDefault
    · rfl

/-- A row becomes the default only when its account has no other. -/
theorem oneDefault_modify {id : String}
    {change : SettlementAccount → SettlementAccount}
    (keeps : ∀ row, (change row).id = row.id) (one : OneDefault table owner)
    (account : ∀ row, (change row).accountId = row.accountId)
    (becomes : ∀ row, table.find? id = some row →
      (change row).isDefault = true →
      row.isDefault = true ∨ NoDefault table row.accountId) :
    OneDefault (table.modify id change keeps) owner := by
  have meets : ∀ changed ∈ table.rows, changed.id = id → ∀ other ∈ table.rows,
      other.id ≠ id → changed.accountId = owner → other.accountId = owner →
      (change changed).isDefault = true → other.isDefault = true → False := by
    intro changed member hit other otherMember apart own otherOwn
      default otherDefault
    have found : table.find? id = some changed := by
      rw [← hit]
      exact Table.find?_of_mem member
    rcases becomes changed found default with already | absent
    · have same :=
        one changed member other otherMember own otherOwn already otherDefault
      exact apart (same ▸ hit)
    · rw [absent other otherMember (otherOwn.trans own.symm)] at otherDefault
      cases otherDefault
  intro first firstMember second secondMember firstOwn secondOwn
    firstDefault secondDefault
  obtain ⟨row, member, rfl⟩ := List.mem_map.mp firstMember
  obtain ⟨other, otherMember, rfl⟩ := List.mem_map.mp secondMember
  by_cases hit : row.id = id
  · rw [if_pos hit] at firstOwn firstDefault ⊢
    rw [account] at firstOwn
    by_cases otherHit : other.id = id
    · have found := Table.find?_of_mem member
      rw [hit, ← otherHit, Table.find?_of_mem otherMember] at found
      rw [if_pos otherHit, Option.some.inj found]
    · rw [if_neg otherHit] at secondOwn secondDefault
      exact (meets row member hit other otherMember otherHit firstOwn
        secondOwn firstDefault secondDefault).elim
  · rw [if_neg hit] at firstOwn firstDefault ⊢
    by_cases otherHit : other.id = id
    · rw [if_pos otherHit] at secondOwn secondDefault
      rw [account] at secondOwn
      exact (meets other otherMember otherHit row member hit secondOwn
        firstOwn secondDefault firstDefault).elim
    · rw [if_neg otherHit] at secondOwn secondDefault ⊢
      exact one row member other otherMember firstOwn secondOwn
        firstDefault secondDefault

end

/-! ## Runs of calls -/

inductive SettlementCall where
  | upsert (now : Time) (id accountId : String) (input : SettlementInput)
      (isDefault : Option Bool)
  | update (now : Time) (accountId settlementId : String)
      (patch : SettlementPatch)

def SettlementCall.program : SettlementCall → Db SettlementAccount
  | .upsert now id accountId input isDefault =>
      upsertSettlementAccount now id accountId input isDefault
  | .update now accountId settlementId patch =>
      updateSettlementAccount now accountId settlementId patch

/-- The state after a call. -/
def afterCall (world : World) (call : SettlementCall) : World :=
  (call.program.run world).2

/-- The state after calls run one after another. -/
def afterCalls (calls : List SettlementCall) (world : World) : World :=
  calls.foldl afterCall world

/-- If the call is rejected, no settlement row changes. -/
def KeepsWhenRejected (world : World) (call : SettlementCall) : Prop :=
  (∃ error, (call.program.run world).1 = .error error) →
    (afterCall world call).settlementAccounts = world.settlementAccounts

/-- A condition on every call of a run, in the state it meets. -/
def Along (condition : World → SettlementCall → Prop) :
    List SettlementCall → World → Prop
  | [], _ => True
  | call :: rest, world =>
      condition world call ∧ Along condition rest (afterCall world call)

/-- The fields lack what the type requires. -/
def InvalidFields (type : SettlementType) (input : SettlementFields) : Prop :=
  match type with
  | .mobile => input.method = none ∨
      normalizePhoneNumber (input.phoneNumber.getD "") = none
  | .bank => nonEmpty input.accountNumber = none ∨
      nonEmpty input.bankName = none

/-- A text of the bank details has a NUL in it. -/
def HoldsNul (input : SettlementFields) : Prop :=
  ∃ text ∈ [input.bankName, input.bankInitials, input.accountNumber,
    input.accountName].reduceOption, '\u0000' ∈ text.toList

/-- A patch that makes its row the default and cannot be written: its type lacks
fields, a bank's details cannot be stored, or `isActive` is null. -/
def SettlementPatch.Unwritable (patch : SettlementPatch) : Prop :=
  patch.isDefault = .value true ∧
    ((∃ type, patch.type = some type ∧
      InvalidFields type patch.toSettlementFields) ∨
      patch.type = some .bank ∧ HoldsNul patch.toSettlementFields ∨
        patch.isActive = .null)

/-- An update of an existing row by such a patch, unless clearing the default is
no change: no row of the account is the default and all were written in this
very millisecond. -/
def ClearsAndFails (world : World) : SettlementCall → Prop
  | .upsert .. => False
  | .update now accountId settlementId patch =>
      patch.Unwritable ∧ ∃ owner, world.resolve accountId = some owner ∧
        (∃ row ∈ world.settlementAccounts.rows,
          row.id = settlementId ∧ row.accountId = owner) ∧
        ∃ row ∈ world.settlementAccounts.rows, row.accountId = owner ∧
          (row.isDefault = true ∨ row.updatedAt ≠ now)

theorem validateSettlementInput_error_iff (type : SettlementType)
    (input : SettlementFields) :
    (∃ error, validateSettlementInput type input = .error error) ↔
      InvalidFields type input := by
  cases type with
  | mobile =>
      simp only [validateSettlementInput, InvalidFields]
      cases input.method with
      | none => simp
      | some method =>
          cases normalizePhoneNumber (input.phoneNumber.getD "") with
          | none => simp
          | some phone => simp
  | bank =>
      simp only [validateSettlementInput, InvalidFields]
      cases nonEmpty input.accountNumber with
      | none => simp
      | some number =>
          cases nonEmpty input.bankName with
          | none => simp
          | some name => simp

theorem patchData_error_iff (patch : SettlementPatch) :
    (∃ error, patchData patch = .error error) ↔
      ∃ type, patch.type = some type ∧
        InvalidFields type patch.toSettlementFields := by
  unfold patchData
  cases patch.type with
  | none => simp
  | some type =>
      simp only [Option.some.injEq, exists_eq_left']
      rw [← validateSettlementInput_error_iff]
      cases validateSettlementInput type patch.toSettlementFields
        <;> simp [Except.map]

theorem eq_of_nonEmpty {text : Option String} {given : String}
    (found : nonEmpty text = some given) : text = some given := by
  unfold nonEmpty at found
  exact Option.eq_some_of_filter_eq_some found

/-- Valid fields give columns that cannot be stored just when a text has a NUL
in it. -/
theorem not_storable_iff {type : SettlementType} {input : SettlementFields}
    {data : SettlementData}
    (valid : validateSettlementInput type input = .ok data) :
    ¬ data.Storable ↔ type = .bank ∧ HoldsNul input := by
  cases type with
  | mobile =>
      simp only [validateSettlementInput] at valid
      split at valid
      · cases valid
      · split at valid
        · cases valid
        · cases valid
          simp [SettlementData.Storable]
  | bank =>
      simp only [validateSettlementInput] at valid
      split at valid
      · rename_i accountNumber bankName number name
        cases valid
        have kept : Text.isTrimmed '\u0000' = false := by decide
        simp only [SettlementData.Storable, HoldsNul, eq_of_nonEmpty number,
          eq_of_nonEmpty name, true_and, not_forall, not_not, exists_prop]
        cases input.bankInitials <;> cases input.accountName <;>
          simp [Text.mem_trim kept, Text.nul_mem_toUpperCase]
      · cases valid

/-- The state after the defaults of an account are cleared. -/
def withoutDefaults (now : Time) (world : World) (owner : AccountId) : World :=
  { world with
    settlementAccounts := world.settlementAccounts.modifyAll (cleared now owner)
      (cleared_id now owner) }

/-- Clearing changes the table unless the account has no default and its rows
are as new. -/
theorem withoutDefaults_eq_iff (now : Time) (world : World)
    (owner : AccountId) :
    (withoutDefaults now world owner).settlementAccounts =
      world.settlementAccounts ↔
      ¬ ∃ row ∈ world.settlementAccounts.rows, row.accountId = owner ∧
        (row.isDefault = true ∨ row.updatedAt ≠ now) := by
  have touched (row : SettlementAccount) (own : row.accountId = owner) :
      cleared now owner row = row ↔
        ¬ (row.isDefault = true ∨ row.updatedAt ≠ now) := by
    rw [cleared, if_pos own]
    cases row
    simp [eq_comm]
  constructor
  · rintro same ⟨row, member, own, stale⟩
    have found :=
      Table.find?_modifyAll world.settlementAccounts (cleared now owner)
      (cleared_id now owner) row.id
    rw [show world.settlementAccounts.modifyAll (cleared now owner)
      (cleared_id now owner) =
      world.settlementAccounts from same, Table.find?_of_mem member,
        Option.map_some] at found
    exact (touched row own).mp (Option.some.inj found).symm stale
  · intro absent
    apply Table.ext
    have each : ∀ row ∈ world.settlementAccounts.rows,
      cleared now owner row = row := by
      intro row member
      by_cases own : row.accountId = owner
      · exact (touched row own).mpr fun stale =>
          absent ⟨row, member, own, stale⟩
      · rw [cleared, if_neg own]
    exact (List.map_congr_left each).trans (List.map_id _)

/-- The row an update names. -/
def namedRow (world : World) (owner : AccountId) (settlementId : String) :
    Option SettlementAccount :=
  world.settlementAccounts.rows.find? fun row =>
    row.id = settlementId ∧ row.accountId = owner

/-- The row cannot be written: its fields are invalid, or the client or the
database refuses them. -/
def SettlementPatch.Fails (patch : SettlementPatch) : Prop :=
  ∀ data, patchData patch = .ok data → Refused data patch

theorem writable_of_not_fails {patch : SettlementPatch}
    (writes : ¬ patch.Fails) :
    ∃ data, patchData patch = .ok data ∧ ¬ Refused data patch := by
  unfold SettlementPatch.Fails at writes
  push Not at writes
  exact writes

theorem run_writePatch_fails (now : Time) (id : String)
    {patch : SettlementPatch} (fails : patch.Fails) (world : World) :
    ∃ error, (writePatch now id patch).run world = (.error error, world) := by
  unfold writePatch
  cases valid : patchData patch with
  | error error => exact ⟨error, rfl⟩
  | ok data =>
      simp only [if_pos (fails data valid)]
      exact ⟨_, rfl⟩

theorem run_writePatch (now : Time) (id : String) {patch : SettlementPatch}
    {data : Option SettlementData} (valid : patchData patch = .ok data)
    (accepted : ¬ Refused data patch) {world : World} {row : SettlementAccount}
    (found : world.settlementAccounts.find? id = some row) :
    (writePatch now id patch).run world =
      (.ok (patched now data patch row),
        { world with
          settlementAccounts :=
            world.settlementAccounts.modify id (patched now data patch)
            (patched_id now data patch) }) := by
  unfold writePatch
  simp only [valid, if_neg accepted, Program.run_perform, Relation.update,
    settlementAccounts, found]

/-- A patch that makes its row the default fails just when it is unwritable. -/
theorem unwritable_iff {patch : SettlementPatch} :
    patch.Unwritable ↔ patch.isDefault = .value true ∧ patch.Fails := by
  apply and_congr_right
  intro default
  rw [← patchData_error_iff]
  unfold SettlementPatch.Fails
  cases valid : patchData patch with
  | error error => simp
  | ok data =>
      have stored : (∃ assigned ∈ data, ¬ assigned.Storable) ↔
          patch.type = some .bank ∧ HoldsNul patch.toSettlementFields := by
        unfold patchData at valid
        cases type : patch.type with
        | none =>
            rw [type] at valid
            cases valid
            simp
        | some type' =>
            simp only [type] at valid
            cases checked :
              validateSettlementInput type' patch.toSettlementFields with
            | error error =>
                rw [checked] at valid
                cases valid
            | ok assigned =>
                rw [checked] at valid
                cases valid
                simpa using not_storable_iff checked
      have given : patch.isDefault ≠ .null := by
        rw [default]
        exact fun null => by cases null
      simp only [Refused, stored, given, false_or, Except.ok.injEq,
        forall_eq', reduceCtorEq, exists_false]
      tauto

theorem namedRow_some {world : World} {owner : AccountId}
    {settlementId : String} {row : SettlementAccount}
    (named : namedRow world owner settlementId = some row) :
    row ∈ world.settlementAccounts.rows ∧ row.id = settlementId ∧
      row.accountId = owner := by
  constructor
  · exact List.mem_of_find?_eq_some named
  · simpa using List.find?_some named

/-- An update of a known account clears and fails when it names one of its
rows. -/
theorem clearsAndFails_iff (now : Time) {world : World} {accountId : String}
    {owner : AccountId} (resolves : world.resolve accountId = some owner)
    (settlementId : String) (patch : SettlementPatch) :
    ClearsAndFails world (.update now accountId settlementId patch) ↔
      (patch.isDefault = .value true ∧ patch.Fails) ∧
        (namedRow world owner settlementId).isSome ∧
        (withoutDefaults now world owner).settlementAccounts ≠
          world.settlementAccounts := by
  have known : (namedRow world owner settlementId).isSome ↔
      ∃ row ∈ world.settlementAccounts.rows, row.id = settlementId ∧
        row.accountId = owner := by
    simp [namedRow, List.find?_isSome]
  rw [← unwritable_iff, known, ne_eq, withoutDefaults_eq_iff, not_not]
  simp only [ClearsAndFails, resolves, Option.some.injEq, exists_eq_left']

/-- The account is not there. -/
theorem run_update_unknown (now : Time) {world : World} {accountId : String}
    (resolves : world.resolve accountId = none) (settlementId : String)
    (patch : SettlementPatch) :
    (updateSettlementAccount now accountId settlementId patch).run world =
      (.error (.missing .notFound "Account not found"), world) := by
  simp only [updateSettlementAccount, Program.run_bind, run_resolveAccountId]
  rw [resolves]
  rfl

/-- The account has no settlement account of that id. -/
theorem run_update_unnamed (now : Time) {world : World} {accountId : String}
    {owner : AccountId} (resolves : world.resolve accountId = some owner)
    {settlementId : String} (named : namedRow world owner settlementId = none)
    (patch : SettlementPatch) :
    (updateSettlementAccount now accountId settlementId patch).run world =
      (.error (.missing .notFound "Settlement account not found"), world) := by
  unfold namedRow at named
  simp only [updateSettlementAccount, Program.run_bind, run_resolveAccountId]
  rw [resolves]
  simp only [Program.bind_perform, Program.run_query, select]
  simp only [named]
  rfl

/-- The row is there: the defaults are cleared when the patch makes it the
default, and then it is written. -/
theorem run_update_named (now : Time) {world : World} {accountId : String}
    {owner : AccountId} (resolves : world.resolve accountId = some owner)
    {settlementId : String} {row : SettlementAccount}
    (named : namedRow world owner settlementId = some row)
    (patch : SettlementPatch) :
    (updateSettlementAccount now accountId settlementId patch).run world =
      (writePatch now row.id patch).run
        (if patch.isDefault = .value true then withoutDefaults now world
          owner else world) := by
  unfold namedRow at named
  simp only [updateSettlementAccount, Program.run_bind, run_resolveAccountId]
  rw [resolves]
  simp only [Program.bind_perform, Program.run_query, select]
  simp only [named]
  by_cases default : patch.isDefault = .value true
  · rw [if_pos default, if_pos default]
    rfl
  · rw [if_neg default, if_neg default]

/-- What an update does: it is rejected before it writes, or it writes the row
after it has perhaps cleared the defaults, or it is rejected after that. -/
theorem run_update (now : Time) (accountId settlementId : String)
    (patch : SettlementPatch) (world : World) :
    ((∃ error, (updateSettlementAccount now accountId settlementId patch).run
      world = (.error error, world)) ∧
      ¬ ClearsAndFails world (.update now accountId settlementId patch)) ∨
    (∃ owner row start data answer, row ∈ world.settlementAccounts.rows ∧
      row.accountId = owner ∧
      (start = withoutDefaults now world owner ∨
        start = world ∧ patch.isDefault ≠ .value true) ∧
      ¬ ClearsAndFails world (.update now accountId settlementId patch) ∧
      (updateSettlementAccount now accountId settlementId patch).run world =
        (.ok answer,
          { start with
            settlementAccounts := start.settlementAccounts.modify row.id
              (patched now data patch) (patched_id now data patch) })) ∨
    (∃ owner error,
      (updateSettlementAccount now accountId settlementId patch).run world =
      (.error error, withoutDefaults now world owner) ∧
      (ClearsAndFails world (.update now accountId settlementId patch) ↔
        (withoutDefaults now world owner).settlementAccounts ≠
          world.settlementAccounts)) := by
  cases resolves : world.resolve accountId with
  | none =>
      left
      refine ⟨⟨_, run_update_unknown now resolves settlementId patch⟩, ?_⟩
      rintro ⟨_, owner, resolved, _⟩
      rw [resolves] at resolved
      cases resolved
  | some owner =>
      rw [clearsAndFails_iff now resolves]
      cases named : namedRow world owner settlementId with
      | none =>
          left
          exact ⟨⟨_, run_update_unnamed now resolves named patch⟩, by simp⟩
      | some row =>
          rw [run_update_named now resolves named]
          obtain ⟨member, _, own⟩ := namedRow_some named
          have found := Table.find?_of_mem member
          by_cases default : patch.isDefault = .value true
          · rw [if_pos default]
            right
            by_cases fails : patch.Fails
            · right
              obtain ⟨error, ran⟩ :=
                run_writePatch_fails now row.id fails
                  (withoutDefaults now world owner)
              exact ⟨owner, error, ran, by simp [default, fails]⟩
            · left
              have foundLater :
                (withoutDefaults now world owner).settlementAccounts.find?
                  row.id = some (cleared now owner row) := by
                rw [withoutDefaults, Table.find?_modifyAll, found,
                  Option.map_some]
              obtain ⟨data, valid, accepted⟩ := writable_of_not_fails fails
              exact ⟨owner, row, _, data, _, member, own,
                .inl rfl, by simp [fails],
                run_writePatch now row.id valid accepted foundLater⟩
          · rw [if_neg default]
            by_cases fails : patch.Fails
            · left
              exact ⟨run_writePatch_fails now row.id fails world,
                fun clears => default clears.1.1⟩
            · right
              left
              obtain ⟨data, valid, accepted⟩ := writable_of_not_fails fails
              exact ⟨owner, row, world, data, _, member, own,
                .inr ⟨rfl, default⟩,
                by simp [fails], run_writePatch now row.id valid accepted found⟩

theorem run_createSettlementRow (now : Time) (id : String) (owner : AccountId)
    (data : SettlementData) (isDefault : Bool) (world : World) :
    (∃ error, (createSettlementRow now id owner data isDefault).run world =
      (.error error, world)) ∨
    world.settlementAccounts.find? id = none ∧ ∃ answer,
      (createSettlementRow now id owner data isDefault).run world =
        (.ok answer,
          { world with
            settlementAccounts := world.settlementAccounts.insert
              (newSettlement now id owner data isDefault) }) := by
  unfold createSettlementRow
  split
  · simp only [Body.run_perform, Relation.create, settlementAccounts,
      newSettlement_id]
    cases fresh : world.settlementAccounts.find? id with
    | some row => exact .inl ⟨_, rfl⟩
    | none => exact .inr ⟨rfl, _, rfl⟩
  · exact .inl ⟨_, rfl⟩

/-- A creation is rejected and changes nothing, or adds a row, with the defaults
of its account cleared when the row is the default. -/
theorem run_upsert (now : Time) (id accountId : String)
    (input : SettlementInput) (isDefault : Option Bool) (world : World) :
    (∃ error, (upsertSettlementAccount now id accountId input isDefault).run
      world = (.error error, world)) ∨
    ∃ owner data start answer,
      (start = withoutDefaults now world owner ∨ start = world ∧
        isDefault = some false) ∧ start.settlementAccounts.find? id = none ∧
      (upsertSettlementAccount now id accountId input isDefault).run world =
        (.ok answer,
          { start with
            settlementAccounts := start.settlementAccounts.insert
              (newSettlement now id owner data (isDefault ≠ some false))
                }) := by
  simp only [upsertSettlementAccount, Program.run_bind, run_resolveAccountId]
  cases world.resolve accountId with
  | none => exact .inl ⟨_, rfl⟩
  | some owner =>
      cases validateSettlementInput input.type input.toSettlementFields with
      | error error => exact .inl ⟨_, rfl⟩
      | ok data =>
          simp only [Program.atomically, Program.run_transaction]
          by_cases default : isDefault = some false
          · simp only [upsertTransaction, default, ne_eq, not_true_eq_false,
              decide_false, Bool.false_eq_true, if_false]
            rcases run_createSettlementRow now id owner data false world with
              ⟨error, ran⟩ | ⟨fresh, answer, ran⟩
            · rw [ran]
              exact .inl ⟨_, rfl⟩
            · rw [ran]
              exact .inr ⟨owner, data, world, _, .inr ⟨rfl, trivial⟩, fresh,
                rfl⟩
          · simp only [upsertTransaction, default, ne_eq, not_false_eq_true,
              decide_true,
              if_true, Body.bind_perform, Body.run_query, clearDefaults]
            rcases run_createSettlementRow now id owner data true
              (withoutDefaults now world owner) with
                ⟨error, ran⟩ | ⟨fresh, answer, ran⟩
            · unfold withoutDefaults at ran
              rw [ran]
              exact .inl ⟨_, rfl⟩
            · right
              refine ⟨owner, data, withoutDefaults now world owner, answer,
                .inl rfl, fresh, ?_⟩
              unfold withoutDefaults at ran ⊢
              rw [ran]
              rfl

/-! ## The laws -/

theorem oneDefault_afterCall {world : World} {owner : AccountId}
    (one : OneDefault world.settlementAccounts owner) (call : SettlementCall) :
    OneDefault (afterCall world call).settlementAccounts owner := by
  unfold afterCall
  cases call with
  | upsert now id accountId input isDefault =>
      simp only [SettlementCall.program]
      rcases run_upsert now id accountId input isDefault
        world with ⟨error, ran⟩ |
        ⟨account, data, start, answer, from_, fresh, ran⟩
      · rw [ran]
        exact one
      · rw [ran]
        rcases from_ with rfl | ⟨rfl, notDefault⟩
        · apply oneDefault_insert (oneDefault_cleared now one account)
          · intro _
            rw [newSettlement_accountId]
            exact noDefault_cleared now world.settlementAccounts account
          · rw [newSettlement_id]
            exact fresh
        · apply oneDefault_insert one
          · intro default
            subst notDefault
            rw [newSettlement_isDefault] at default
            cases default
          · rw [newSettlement_id]
            exact fresh
  | update now accountId settlementId patch =>
      simp only [SettlementCall.program]
      rcases run_update now accountId settlementId patch world with
        ⟨⟨error, ran⟩, _⟩ |
        ⟨account, row, start, data, answer, member, own, from_, _, ran⟩ |
        ⟨account, error, ran, _⟩
      · rw [ran]
        exact one
      · rw [ran]
        rcases from_ with rfl | ⟨rfl, notDefault⟩
        · apply oneDefault_modify (patched_id now data patch)
            (oneDefault_cleared now one account)
            (patched_accountId now data patch)
          intro found at_row _
          right
          have found_eq :=
            Table.find?_modifyAll world.settlementAccounts (cleared now account)
            (cleared_id now account) row.id
          rw [Table.find?_of_mem member, Option.map_some] at found_eq
          change (world.settlementAccounts.modifyAll (cleared now account)
            (cleared_id now account)).find? row.id = some found at at_row
          rw [found_eq] at at_row
          cases at_row
          rw [cleared_accountId, own]
          exact noDefault_cleared now world.settlementAccounts account
        · apply oneDefault_modify (patched_id now data patch) one
            (patched_accountId now data patch)
          intro found _ default
          left
          rw [patched_isDefault] at default
          cases set : patch.isDefault with
          | missing | null =>
              rw [set] at default
              exact default
          | value given =>
              rw [set] at default notDefault
              exact (notDefault (congrArg PatchField.value default)).elim
      · rw [ran]
        exact oneDefault_cleared now one account

/-- A call keeps the rows when it is rejected, unless it clears the defaults
first. -/
theorem keepsWhenRejected_iff (world : World) (call : SettlementCall) :
    KeepsWhenRejected world call ↔ ¬ ClearsAndFails world call := by
  unfold KeepsWhenRejected afterCall
  cases call with
  | upsert now id accountId input isDefault =>
      simp only [SettlementCall.program, ClearsAndFails, not_false_eq_true,
        iff_true]
      rcases run_upsert now id accountId input isDefault
        world with ⟨error, ran⟩ |
        ⟨account, data, start, answer, from_, fresh, ran⟩
      · rw [ran]
        exact fun _ => rfl
      · rw [ran]
        rintro ⟨error, rejected⟩
        cases rejected
  | update now accountId settlementId patch =>
      simp only [SettlementCall.program]
      rcases run_update now accountId settlementId patch world with
        ⟨⟨error, ran⟩, keeps⟩ | ⟨_, _, _, _, answer, _, _, _, accepted, ran⟩ |
        ⟨account, error, ran, clears⟩
      · rw [ran]
        exact iff_of_true (fun _ => rfl) keeps
      · rw [ran]
        apply iff_of_true _ accepted
        rintro ⟨error, rejected⟩
        cases rejected
      · rw [ran, clears, not_not]
        constructor
        · exact fun kept => kept ⟨error, rfl⟩
        · exact fun kept _ => kept

theorem oneDefault_afterCalls {world : World} {owner : AccountId}
    (one : OneDefault world.settlementAccounts owner)
    (calls : List SettlementCall) :
    OneDefault (afterCalls calls world).settlementAccounts owner := by
  induction calls generalizing world with
  | nil => exact one
  | cons call rest ih => exact ih (oneDefault_afterCall one call)

theorem along_congr {first second : World → SettlementCall → Prop}
    (same : ∀ world call, first world call ↔ second world call)
    (calls : List SettlementCall) (world : World) :
    Along first calls world ↔ Along second calls world := by
  induction calls generalizing world with
  | nil => exact Iff.rfl
  | cons call rest ih =>
      exact and_congr (same world call) (ih (afterCall world call))

/-- In every run of calls no account has two defaults, and the rejected calls
change no row just when no call clears the defaults before it fails. -/
theorem settlement_defaults_kept (calls : List SettlementCall) (world : World)
    (one : ∀ owner, OneDefault world.settlementAccounts owner) :
    (∀ owner, ∀ ran ∈ calls.inits,
      OneDefault (afterCalls ran world).settlementAccounts owner) ∧
    (Along KeepsWhenRejected calls world ↔
      Along (fun world call => ¬ ClearsAndFails world call) calls world) := by
  constructor
  · intro owner ran _
    exact oneDefault_afterCalls (one owner) ran
  · exact along_congr keepsWhenRejected_iff calls world

/-- An account with a default bank account and another one. -/
def twoSettlements : World where
  accounts :=
    Table.empty.insert { id := "a", accountId := "ACC-1"
                         sourceCode := "AAAAA" }
  settlementAccounts :=
    (Table.empty.insert
      { id := "s1", accountId := "a", type := .bank, bankName := some "CRDB"
        accountNumber := some "0150", createdAt := 1, updatedAt := 1 }).insert
      { id := "s2", accountId := "a", type := .mobile, method := some .airtel
        phoneNumber := some "255682345678", isDefault := false, createdAt := 2
        updatedAt := 2 }

/-- A request to make the second account the default, of type bank but without a
bank. -/
def bankless : SettlementCall :=
  .update 3 "a" "s2" { type := some .bank, isDefault := .value true }

theorem oneDefault_twoSettlements (owner : AccountId) :
    OneDefault twoSettlements.settlementAccounts owner := by
  have only : ∀ row ∈ twoSettlements.settlementAccounts.rows,
    row.isDefault = true →
      row.id = "s1" := by decide
  intro first firstMember second secondMember _ _ firstDefault secondDefault
  have same : first.id = second.id :=
    (only first firstMember firstDefault).trans
      (only second secondMember secondDefault).symm
  have found := Table.find?_of_mem firstMember
  rw [same, Table.find?_of_mem secondMember] at found
  exact (Option.some.inj found).symm

theorem settlement_defaults_kept_two :
    (∀ owner, ∀ ran ∈ [bankless].inits,
      OneDefault (afterCalls ran twoSettlements).settlementAccounts owner) ∧
    (Along KeepsWhenRejected [bankless] twoSettlements ↔
      Along (fun world call => ¬ ClearsAndFails world call) [bankless]
        twoSettlements) :=
  settlement_defaults_kept [bankless] twoSettlements oneDefault_twoSettlements

/-- The rejected request leaves the account without a default. -/
theorem default_lost : ¬ Along KeepsWhenRejected [bankless] twoSettlements := by
  rintro ⟨kept, _⟩
  have rejected : ∃ error, (bankless.program.run twoSettlements).1 =
    .error error := ⟨_, rfl⟩
  have default : defaultSettlement (afterCall twoSettlements bankless) "a" =
      defaultSettlement twoSettlements "a" := by
    unfold defaultSettlement
    rw [kept rejected]
  have lost : defaultSettlement (afterCall twoSettlements bankless) "a" =
    none := by
    decide +kernel
  have had : (defaultSettlement twoSettlements "a").isSome = true := by
    decide +kernel
  rw [← default, lost] at had
  cases had

end CloudStudio.Payouts
