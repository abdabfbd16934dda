import CloudStudio.Payments.Services
import CloudStudio.Platform.Webhooks

/-!
# Creating payouts

`DisbursementsService`: single payouts, batches and payout links.  The wallet is
debited first, in a transaction of its own; the payout row and its job follow.
Random characters, tokens and the clock are arguments.
-/

namespace CloudStudio.Payouts

open CloudStudio.Data CloudStudio.Transactions CloudStudio.Platform
open CloudStudio.Payments
open CloudStudio.Wallets

/-- `^255[67]\d{8}$` -/
def isMobileNumber : List Char → Bool
  | '2' :: '5' :: '5' :: network :: rest =>
      (network = '6' ∨ network = '7') ∧ rest.length = 8 ∧ rest.all Char.isDigit
  | _ => false

/-- Tanzanian mobile numbers in the canonical form 255712345678. -/
def normalizePhoneNumber (raw : String) : Option String :=
  let digits := raw.toList.filter Char.isDigit
  let international :=
    if ['2', '5', '5'].isPrefixOf digits then digits
    else
      match digits with
      | '0' :: rest => '2' :: '5' :: '5' :: rest
      | _ => if digits.length = 9 then '2' :: '5' :: '5' :: digits else digits
  if isMobileNumber
    international then some (String.ofList international) else none

/-- `normalizePhoneNumber(phoneNumber ?? '') ?? phoneNumber`. -/
def payoutPhone (phoneNumber : Option String) : Option String :=
  (normalizePhoneNumber (phoneNumber.getD "")).or phoneNumber

/-- `^[A-Za-z]{6}[A-Za-z0-9]{2}([A-Za-z0-9]{3})?$` -/
def isBic (code : List Char) : Bool :=
  (code.length = 8 ∨ code.length = 11) ∧ (code.take 6).all Char.isAlpha ∧
    (code.drop 6).all Char.isAlphanum

/-- What is debited for a payout, and the row to be created for it. -/
structure Hold where
  debit : MoveInput
  payout : Payout

/-- The debit, then the row, then the job: three commits. -/
def holdAndQueue (now : Time) (hold : Hold) : Db Payout := do
  let _ ← move now hold.debit
  let payout ← Program.perform (payouts.create "payout.create" hold.payout)
  let _ ← enqueue "payout.enqueue" now (.payoutProcess payout.reference)
  pure payout

/-- The body of a payout request. -/
structure PayoutDto where
  amount : Amount
  reference : Option String := none
  phoneNumber : Option String := none
  accountNumber : Option String := none
  accountName : Option String := none
  bic : Option String := none
  transferType : Option String := none

/-- `amount + fee` on the DISBURSEMENT wallet. -/
def payoutDebit (accountId : AccountId) (dto : PayoutDto)
    (reference : Reference) (fee : ComputedFee) : MoveInput where
  accountId
  type := .disbursement
  txType := .payoutDebit
  amount := .value (Decimal.toFixed 2 (dto.amount.val + fee.feeAmount))
  description :=
    s!"Payout held ({reference}, fee {fee.feeAmount.text} TZS @ {fee.feeBps} bps)"
  reference := some reference
  actorId := some accountId

/-- A column that only one channel has. -/
def onChannel {Value : Type} (wanted channel : PayoutChannel)
    (value : Option Value) : Option Value :=
  if channel = wanted then value else none

def newPayout (now : Time) (accountId : AccountId) (channel : PayoutChannel)
    (dto : PayoutDto) (reference : Reference) (fee : ComputedFee) : Payout where
  accountId
  channel
  reference
  clientReference := upperReference dto.reference
  sourceWallet := .disbursement
  payoutKind := .customer
  amount := dto.amount.val
  feeAmount := some fee.feeAmount
  feeBps := some fee.feeBps
  phoneNumber := onChannel .mobileMoney channel (payoutPhone dto.phoneNumber)
  accountNumber := onChannel .bank channel dto.accountNumber
  accountName := onChannel .bank channel dto.accountName
  bic := onChannel .bank channel dto.bic
  transferType := onChannel .bank channel dto.transferType
  walletDebitedAt := some now
  createdAt := now
  updatedAt := now

/-- The checks of a single payout, and its fee. -/
def preparePayout (now : Time) (random : List Char) (accountId : AccountId)
    (channel : PayoutChannel) (dto : PayoutDto) : Db Hold := do
  let account ← findAccount accountId
  match buildReference random account.sourceCode dto.reference with
  | .error _ => .threw (.badRequest .invalidReference
      "Client reference must be 1-15 alphanumeric characters")
  | .ok reference => do
      rejectRepeated "payout.findFirst" (fun wanted world =>
          world.payouts.rows.any fun row =>
            row.accountId = accountId ∧ row.clientReference = some wanted)
        "A payout with this client reference already exists" dto.reference
      let fee ← computeFee .disbursement accountId (.value dto.amount.val)
      pure
        { debit := payoutDebit accountId dto reference fee
          payout := newPayout now accountId channel dto reference fee }

def createPayout (now : Time) (random : List Char) (accountId : AccountId)
    (channel : PayoutChannel) (dto : PayoutDto) : Db Payout := do
  let hold ← preparePayout now random accountId channel dto
  holdAndQueue now hold

/-! ## Batches -/

structure BatchItem where
  channel : PayoutChannel
  amount : Amount
  reference : Option String := none
  phoneNumber : Option String := none
  accountNumber : Option String := none
  accountName : Option String := none
  bic : Option String := none
  transferType : Option String := none

structure CreateBatchDto where
  name : String
  items : List BatchItem

/-- What an item lacks for its channel. -/
def BatchItem.problem? (index : ℕ) (item : BatchItem) : Option AppError :=
  match item.channel with
  | .mobileMoney =>
      if nonEmpty item.phoneNumber = none then
        some (.badRequest .validationFailed
          s!"items[{index}]: phoneNumber is required for MOBILE_MONEY")
      else none
  | .bank =>
      if nonEmpty item.accountNumber = none ∨ nonEmpty item.accountName = none ∨
          nonEmpty item.bic = none then
        some (.badRequest .validationFailed
          s!"items[{index}]: accountNumber, accountName and bic are required for BANK")
      else none

/-- Validate items per channel; the first problem ends the request. -/
def validateItems (items : List BatchItem) : Except AppError Unit :=
  match (items.zipIdx.filterMap fun item => item.1.problem? item.2).head? with
  | some problem => .error problem
  | none => .ok ()

def batchTotal (items : List BatchItem) : Decimal :=
  (items.map fun item => (item.amount.val : Decimal)).sum

/-- The whole batch amount on the DISBURSEMENT wallet. -/
def batchHold (accountId : AccountId) (dto : CreateBatchDto)
    (reference : Reference) :
    MoveInput where
  accountId
  type := .disbursement
  txType := .batchHold
  amount := .value (Decimal.toFixed 2 (batchTotal dto.items))
  description := s!"Batch hold ({dto.name})"
  reference := some reference
  actorId := some accountId

def newBatch (now : Time) (accountId : AccountId) (dto : CreateBatchDto)
    (reference : Reference) : DisbursementBatch where
  accountId
  name := Text.trim dto.name
  reference
  status := .processing
  totalCount := dto.items.length
  totalAmount := Money.round (batchTotal dto.items)
  createdAt := now
  updatedAt := now

/-- The row of a batch item, which has no fee and the default source wallet. -/
def itemPayout (now : Time) (accountId : AccountId) (batchId : Reference)
    (item : BatchItem) (reference : Reference) : Payout where
  accountId
  batchId := some batchId
  channel := item.channel
  reference
  clientReference := upperReference item.reference
  amount := item.amount.val
  phoneNumber :=
    onChannel .mobileMoney item.channel (payoutPhone item.phoneNumber)
  accountNumber := onChannel .bank item.channel item.accountNumber
  accountName := onChannel .bank item.channel item.accountName
  bic := onChannel .bank item.channel item.bic
  transferType := onChannel .bank item.channel item.transferType
  walletDebitedAt := some now
  createdAt := now
  updatedAt := now

/-- The rows of the items, each with a reference of its own. -/
def itemRows (now : Time) (randoms : ℕ → List Char) (accountId : AccountId)
    (sourceCode : String) (batchId : Reference) (items : List BatchItem) :
    Except AppError (List Payout) :=
  items.zipIdx.mapM fun item => do
    let reference ← buildReference (randoms item.2) sourceCode item.1.reference
    pure (itemPayout now accountId batchId item.1 reference)

/-- The batch and its items, in one transaction. -/
def createBatchRows (now : Time) (randoms : ℕ → List Char)
    (accountId : AccountId) (sourceCode : String) (dto : CreateBatchDto)
    (reference : Reference) :
    Tx DisbursementBatch := do
  let created ← Body.perform
    (batches.create "batch.create" (newBatch now accountId dto reference))
  match itemRows now randoms accountId sourceCode created.reference
    dto.items with
  | .error error => .threw error
  | .ok rows => do
      Body.perform (payouts.createMany "payout.createMany" rows)
      pure created

/-- The items of a batch, oldest first. -/
def batchItemIds (world : World) (batchId : Reference) : List Reference :=
  ((world.payouts.rows.filter fun payout => payout.batchId =
    some batchId).mergeSort
    fun first second => first.createdAt ≤ second.createdAt).map Payout.reference

/-- The hold, then the rows, then the job. -/
def holdBatch (now : Time) (randoms : ℕ → List Char) (accountId : AccountId)
    (sourceCode : String) (dto : CreateBatchDto) (reference : Reference) :
    Db DisbursementBatch := do
  let _ ← move now (batchHold accountId dto reference)
  let batch ← Program.atomically "batch.commit"
    (createBatchRows now randoms accountId sourceCode dto reference)
  let items ← Program.perform (select "batch.findItems" fun world =>
    batchItemIds world batch.reference)
  let _ ← enqueue "batch.enqueue" now (.batchProcess batch.reference items)
  pure batch

/-- `random` is for the reference of the batch, `randoms` for those of its
items. -/
def createBatch (now : Time) (random : List Char) (randoms : ℕ → List Char)
    (accountId : AccountId) (dto : CreateBatchDto) : Db DisbursementBatch := do
  let account ← findAccount accountId
  match validateItems dto.items with
  | .error problem => .threw problem
  | .ok () =>
      match buildReference random account.sourceCode none with
      | .error error => .threw error
      | .ok reference => holdBatch now randoms accountId account.sourceCode dto reference

structure CreatePayoutLinkDto where
  amount : Amount
  expiresInMinutes : Option ℕ := none

/-- Only the hash of the token is stored. -/
def createPayoutLink (now : Time) (tokenHash : String) (accountId : AccountId)
    (dto : CreatePayoutLinkDto) : Db PayoutLink := do
  let _ ← findAccount accountId
  if (dto.amount.val : Decimal) ≤ 0 then
    .threw (.badRequest .validationFailed "Amount must be greater than zero")
  else
    Program.perform (payoutLinks.create "payoutLink.create"
      { accountId, tokenHash, amount := dto.amount
        expiresAt := now + dto.expiresInMinutes.getD 15 * 60000
        createdAt := now, updatedAt := now })

/-- `!link.redeemedAt` and `link.expiresAt > now`. -/
def LinkActive (now : Time) (link : PayoutLink) : Prop :=
  link.redeemedAt = none ∧ now < link.expiresAt

instance (now : Time) (link : PayoutLink) : Decidable (LinkActive now link) :=
  inferInstanceAs (Decidable (_ ∧ _))

abbrev linkUnavailable : AppError :=
  .missing .notFound "This payout link is invalid, expired, or already used"

def findActivePayoutLink (now : Time) (tokenHash : String) : Db PayoutLink := do
  let link ← Program.perform
    (payoutLinks.findUnique "payoutLink.find" tokenHash)
  match link with
  | none => .threw linkUnavailable
  | some link => if LinkActive now link then pure link else .threw linkUnavailable

structure PayoutLinkDetails where
  phoneNumber : String
  payoutMethod : String

structure ResolvedRecipient where
  phoneNumber : String
  payoutMethod : String
  beneficiaryName : Option String

/-- `beneficiaryName` is the name the provider's preview has for the
recipient. -/
def resolvePayoutLinkRecipient (now : Time) (tokenHash : String)
    (dto : PayoutLinkDetails) (beneficiaryName : Option String) :
    Db ResolvedRecipient :=
  do
  let _ ← findActivePayoutLink now tokenHash
  match normalizePhoneNumber dto.phoneNumber with
  | none => .threw (.badRequest .validationFailed
      "A valid Tanzanian phone number is required")
  | some phoneNumber =>
      pure { phoneNumber, payoutMethod := Text.trim dto.payoutMethod, beneficiaryName }

/-- `SELECT ... FOR UPDATE` on the link. -/
def lockLink (tokenHash : String) : Statement (Option PayoutLink) where
  label := "payoutLink.lock"
  answer := fun world => .ok (world.payoutLinks.find? tokenHash)
  locks := fun world =>
    match world.payoutLinks.find? tokenHash with
    | some _ => [.payoutLink tokenHash]
    | none => []

def redeemed (now : Time) (resolved : ResolvedRecipient) (link : PayoutLink) :
    PayoutLink :=
  { link with
    redeemedAt := some now
    recipientPhone := some resolved.phoneNumber
    payoutMethod := some resolved.payoutMethod
    beneficiaryName := resolved.beneficiaryName
    updatedAt := now }

theorem redeemed_tokenHash (now : Time) (resolved : ResolvedRecipient)
    (link : PayoutLink) :
    (redeemed now resolved link).tokenHash = link.tokenHash := rfl

/-- Lock and consume before creating the payout. -/
def redeemLink (now : Time) (tokenHash : String)
    (resolved : ResolvedRecipient) :
    Tx PayoutLink := do
  let row ← Body.perform (lockLink tokenHash)
  match row with
  | none =>
      .threw (.conflict .conflict "This payout link has already been used")
  | some row =>
      if row.redeemedAt.isSome then
        .threw (.conflict .conflict "This payout link has already been used")
      else if row.expiresAt ≤ now then
        .threw (.missing .notFound "This payout link has expired")
      else
        Body.perform (payoutLinks.update "payoutLink.redeem" tokenHash
          (redeemed now resolved) (redeemed_tokenHash now resolved))

def paidLink (now : Time) (payoutId : Reference) (link : PayoutLink) :
    PayoutLink :=
  { link with payoutId := some payoutId, updatedAt := now }

theorem paidLink_tokenHash (now : Time) (payoutId : Reference)
    (link : PayoutLink) :
    (paidLink now payoutId link).tokenHash = link.tokenHash := rfl

/-- The link's update after its payout has been created. -/
def markPaid (now : Time) (tokenHash : String) (payoutId : Reference) :
    Statement PayoutLink :=
  payoutLinks.update "payoutLink.paid" tokenHash (paidLink now payoutId)
    (paidLink_tokenHash now payoutId)

/-- The clock readings of a confirmation: at the first check of the link, once
its row is locked, and when the payout is created. -/
structure ConfirmTimes where
  checked : Time
  locked : Time
  created : Time

/-- What the recipient's payout asks for. -/
def linkPayout (link : PayoutLink) (resolved : ResolvedRecipient) :
    PayoutDto where
  amount := link.amount
  phoneNumber := some resolved.phoneNumber

/-- Public: the token is the credential.  A failed payout leaves the link
consumed. -/
def confirmPayoutLink (times : ConfirmTimes) (random : List Char)
    (tokenHash : String) (dto : PayoutLinkDetails)
    (beneficiaryName : Option String) : Db Payout := do
  let resolved ← resolvePayoutLinkRecipient times.checked tokenHash dto
    beneficiaryName
  let link ← Program.atomically "payoutLink.commit"
    (redeemLink times.locked tokenHash resolved)
  let payout ← createPayout times.created random link.accountId .mobileMoney
    (linkPayout link resolved)
  let _ ← Program.perform (markPaid times.created tokenHash payout.reference)
  pure payout

end CloudStudio.Payouts
