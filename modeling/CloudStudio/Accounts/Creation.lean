import CloudStudio.Payouts.SettlementAccounts

/-!
# Opening an account

`AccountsService.create` and `FeesService.updateConfig`: the two writers of a
fee schedule.  A rate that is no whole number between 0 and 10000 is left out by
the first and rejected by the second.  The columns of contact and billing and
the API key issued afterwards are not part of the model.
-/

namespace CloudStudio.Accounts

open CloudStudio.Data CloudStudio.Transactions CloudStudio.Platform
open CloudStudio.Payouts

/-- A rate as a request gives it: a number, or something that is not a finite
one. -/
inductive BpsInput where
  | number (value : ℚ)
  | other
  deriving DecidableEq

/-- The bounds of a rate. -/
def Rate (value : ℚ) : Prop :=
  value.den = 1 ∧ 0 ≤ value.num ∧ value.num ≤ 10000

instance (value : ℚ) : Decidable (Rate value) :=
  inferInstanceAs (Decidable (_ ∧ _))

theorem Rate.toNat_le {value : ℚ} (rate : Rate value) :
    value.num.toNat ≤ 10000 := by
  have high := rate.2.2
  omega

/-- `Number.isInteger(n) && n >= 0 && n <= 10000`. -/
def BpsInput.accepted? : BpsInput → Option Bps
  | .number value =>
      if rate : Rate value then some ⟨value.num.toNat, rate.toNat_le⟩ else none
  | .other => none

/-- Fee overrides of a request.  In a creation an empty threshold counts as
absent. -/
structure FeePatch where
  collectionBelowBps : Option BpsInput := none
  collectionThreshold : Option NumberInput := none
  collectionAboveBps : Option BpsInput := none
  disbursementBelowBps : Option BpsInput := none
  disbursementThreshold : Option NumberInput := none
  disbursementAboveBps : Option BpsInput := none
  transferBps : Option BpsInput := none

/-- The columns to be written. -/
structure FeeChange where
  collectionBelowBps : Option Bps
  collectionThreshold : Option Money
  collectionAboveBps : Option Bps
  disbursementBelowBps : Option Bps
  disbursementThreshold : Option Money
  disbursementAboveBps : Option Bps
  transferBps : Option Bps

def FeeChange.apply (change : FeeChange) (row : FeeConfig) : FeeConfig :=
  { row with
    collectionBelowBps := change.collectionBelowBps.getD row.collectionBelowBps
    collectionThreshold :=
      change.collectionThreshold.getD row.collectionThreshold
    collectionAboveBps := change.collectionAboveBps.getD row.collectionAboveBps
    disbursementBelowBps :=
      change.disbursementBelowBps.getD row.disbursementBelowBps
    disbursementThreshold :=
      change.disbursementThreshold.getD row.disbursementThreshold
    disbursementAboveBps :=
      change.disbursementAboveBps.getD row.disbursementAboveBps
    transferBps := change.transferBps.getD row.transferBps }

theorem FeeChange.apply_accountId (change : FeeChange) (row : FeeConfig) :
    (change.apply row).accountId = row.accountId := rfl

/-- `new Prisma.Decimal(threshold)` and its assignment to the column. -/
def threshold : Option NumberInput → Except AppError (Option Money)
  | none => .ok none
  | some (.value value) => .ok (some (Money.round value))
  | some .nonFinite | some .malformed => .error .invalidValue

/-- One entry of `bounds`. -/
def checkBps (key : String) : Option BpsInput → Except AppError (Option Bps)
  | none => .ok none
  | some input =>
      match input.accepted? with
      | some bps => .ok (some bps)
      | none => .error (.missing .validationFailed
          s!"{key} must be an integer between 0 and 10000 bps")

/-- The rates are checked before the thresholds are read. -/
def checkPatch (patch : FeePatch) : Except AppError FeeChange := do
  let collectionBelowBps ← checkBps "collectionBelowBps"
    patch.collectionBelowBps
  let collectionAboveBps ← checkBps "collectionAboveBps"
    patch.collectionAboveBps
  let disbursementBelowBps ← checkBps "disbursementBelowBps"
    patch.disbursementBelowBps
  let disbursementAboveBps ← checkBps "disbursementAboveBps"
    patch.disbursementAboveBps
  let transferBps ← checkBps "transferBps" patch.transferBps
  let collectionThreshold ← threshold patch.collectionThreshold
  let disbursementThreshold ← threshold patch.disbursementThreshold
  return {
    collectionBelowBps, collectionThreshold, collectionAboveBps,
      disbursementBelowBps
    disbursementThreshold, disbursementAboveBps, transferBps }

def updateConfig (accountId : AccountId) (patch : FeePatch) : Db FeeConfig := do
  let _ ← getConfig accountId
  match checkPatch patch with
  | .error error => .threw error
  | .ok change =>
      Program.perform
        (feeConfigs.update "feeConfig.update" accountId change.apply
        change.apply_accountId)

/-- `clamp`: a rate that is not accepted is left out. -/
def clamp (input : Option BpsInput) : Option Bps :=
  input.bind BpsInput.accepted?

/-- The fee overrides of a creation; only a threshold can be rejected. -/
def clampPatch (fees : FeePatch) : Except AppError FeeChange := do
  let collectionThreshold ← threshold fees.collectionThreshold
  let disbursementThreshold ← threshold fees.disbursementThreshold
  return {
    collectionBelowBps := clamp fees.collectionBelowBps
    collectionThreshold
    collectionAboveBps := clamp fees.collectionAboveBps
    disbursementBelowBps := clamp fees.disbursementBelowBps
    disbursementThreshold
    disbursementAboveBps := clamp fees.disbursementAboveBps
    transferBps := clamp fees.transferBps }

structure CreateAccountDto where
  accountName : String
  autoSweep : Option Bool := none
  settlement : Option SettlementInput := none
  fees : Option FeePatch := none

/-- What is generated for a new account: its ids and the source codes drawn. -/
structure Generated where
  id : AccountId
  accountId : String
  settlementId : String
  sourceCode : ℕ → String

/-- `account.create`: the id, the public id and the source code are unique. -/
def createAccount (site : Site) (account : Account) : Statement Account :=
  { accounts.create site account with
    answer := fun world =>
      if world.accounts.rows.any fun row =>
          row.id = account.id ∨ row.accountId = account.accountId ∨
            row.sourceCode = account.sourceCode
      then .error .uniqueViolation
      else .ok account }

/-- The first of the codes that no account has. -/
def firstFree : List String → Db String
  | [] => .threw (.badRequest .validationFailed
      "Unable to allocate a unique source code, retry")
  | code :: rest => do
      let clash ← Program.perform
        (select "account.findUnique(sourceCode)" fun world =>
        world.accounts.rows.find? fun account => account.sourceCode = code)
      match clash with
      | none => pure code
      | some _ => firstFree rest

def uniqueSourceCode (generated : ℕ → String) : Db String :=
  firstFree ((List.range 25).map generated)

/-- The settlement payload of a creation. -/
def createSettlement (input : SettlementInput) :
    Except AppError SettlementData :=
  match input.type with
  | .mobile =>
      match input.method, nonEmpty input.phoneNumber with
      | some method, some phoneNumber =>
          match normalizePhoneNumber phoneNumber with
          | none => .error (.badRequest .validationFailed
              "Settlement phoneNumber is not a valid Tanzanian mobile number")
          | some phone => .ok (.mobile method phone)
      | _, _ => .error (.badRequest .validationFailed
          "Mobile settlement requires method (AIRTEL/TIGO/VODACOM/HALOPESA) and phoneNumber")
  | .bank => validateSettlementInput .bank input.toSettlementFields

def createSettlement? :
    Option SettlementInput → Except AppError (Option SettlementData)
  | none => .ok none
  | some input => (createSettlement input).map some

/-- `feeConfig.create` with the overrides. -/
def createFees (accountId : AccountId) : Option FeePatch → Tx Unit
  | none => pure ()
  | some fees =>
      match clampPatch fees with
      | .error error => .threw error
      | .ok change => do
          let _ ← Body.perform
            (feeConfigs.create "account.fees" (change.apply { accountId }))
          pure ()

def createDefaultSettlement (now : Time) (id : String) (accountId : AccountId) :
    Option SettlementData → Tx Unit
  | none => pure ()
  | some data => do
      let _ ← Body.perform (settlementAccounts.create "account.settlement"
        (newSettlement now id accountId data true))
      pure ()

/-- The account, both wallets, a denied permission for every service, the
settlement account and the fee schedule, all in one transaction. -/
def createTransaction (now : Time) (generated : Generated) (sourceCode : String)
    (settlement : Option SettlementData) (dto : CreateAccountDto) :
    Tx Account :=
  do
  let created ← Body.perform (createAccount "account.create"
    { id := generated.id, accountId := generated.accountId
      accountName := Text.trim dto.accountName, sourceCode
      autoSweep := dto.autoSweep.getD true })
  Body.perform (wallets.createMany "account.wallets"
    [{ key := ⟨created.id, .collection⟩ },
      { key := ⟨created.id, .disbursement⟩ }])
  Body.perform (permissions.createMany "account.permissions"
    ([ServiceKey.collection, .disbursement, .sms].map fun service =>
      { key := ⟨created.id, service⟩ }))
  createDefaultSettlement now generated.settlementId created.id settlement
  createFees created.id dto.fees
  let account ← Body.perform (accounts.findUnique "account.reread" created.id)
  match account with
  | some account => pure account
  | none => .threw .recordNotFound

/-- Admin opens the account on behalf of the account owner. -/
def create (now : Time) (generated : Generated) (dto : CreateAccountDto) :
    Db Account :=
  do
  let sourceCode ← uniqueSourceCode generated.sourceCode
  match createSettlement? dto.settlement with
  | .error error => .threw error
  | .ok settlement =>
      Program.atomically "account.commit"
        (createTransaction now generated sourceCode settlement dto)

end CloudStudio.Accounts
