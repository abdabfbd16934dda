import CloudStudio.Payments.Initiation
import CloudStudio.Payouts.Debits
import CloudStudio.Payouts.Holds
import CloudStudio.Tenancy.Holdings
import CloudStudio.Tenancy.Requests

/-!
# Requests keep to their account

Whatever its arguments and whatever fails, a request changes nothing that
belongs to another account.  Rows are looked up under the account of the caller
before they are written by their key alone.
-/

namespace CloudStudio.Tenancy

open CloudStudio.Data CloudStudio.Transactions CloudStudio.Platform
open CloudStudio.Payments
open CloudStudio.Payouts CloudStudio.Wallets

variable {own : AccountId} {known : World → Prop}

/-- The account exists. -/
def Registered (own : AccountId) (world : World) : Prop :=
  ∃ account, world.accounts.find? own = some account

theorem registered_stable : Stable own (Registered own) := by
  intro before after isolated registered
  obtain ⟨account, found⟩ := registered
  exact ⟨account, by rw [isolated.accounts]; exact found⟩

section

variable (stable : Stable own known)
  (registered : ∀ world, known world → Registered own world)

include stable in
theorem getConfig_confined (accountId : AccountId) :
    Confined own known (getConfig accountId) Whatever := by
  apply Confined.reads.bind stable
  intro existing _
  cases existing with
  | some config => exact .returned trivial
  | none =>
      apply Confined.catching stable
      · apply Confined.perform
        apply Confines.aside
        · exact fun _ => ⟨rfl, fun _ _ => rfl⟩
        · exact fun _ _ _ _ => trivial
      · intro _
        apply Confined.reads.bind stable
        intro row _
        cases row with
        | some config => exact .returned trivial
        | none => exact .threw _

include stable in
theorem computeFee_confined (kind : FeeKind) (accountId : AccountId)
    (amount : NumberInput) :
    Confined own known (computeFee kind accountId amount) Whatever := by
  apply (getConfig_confined stable accountId).bind stable
  intro config _
  cases amount with
  | value amount => exact .returned trivial
  | nonFinite => exact .threw _
  | malformed => exact .threw _

include stable in
theorem computeTransferFee_confined (accountId : AccountId) (amount : Decimal) :
    Confined own known (computeTransferFee accountId amount) Whatever :=
  (getConfig_confined stable accountId).bind stable fun _ _ => .returned trivial

include stable in
theorem findAccount_confined :
    Confined own known (findAccount own) (fun account => account.id = own) := by
  have lookup :
    Confined own known
    (Program.perform (select "account.findUnique" fun world =>
      world.accounts.find? own)) (fun answer => ∀ account ∈ answer,
        account.id = own) := by
    apply Confined.perform
    apply Confines.selected
    exact fun world _ account found => Table.key_of_find? found
  apply lookup.bind stable
  intro answer mine
  cases answer with
  | some account => exact .returned (mine account rfl)
  | none => exact .threw _

include stable registered

/-- An account that exists is found by its own id, not by the public id of
another. -/
theorem resolveAccountId_confined :
    Confined own known (resolveAccountId own)
      (fun answer => answer.getD own = own) := by
  unfold resolveAccountId
  split
  · exact .returned rfl
  · have lookup :
      Confined own known (Program.perform (select "account.findUnique(id)"
        fun world => world.accounts.find? own))
        (fun answer => ∃ account, answer = some account ∧
          account.id = own) := by
      apply Confined.perform
      apply Confines.selected
      intro world met
      obtain ⟨account, found⟩ := registered world met
      exact ⟨account, found, Table.key_of_find? found⟩
    apply lookup.bind stable
    intro byId found
    obtain ⟨account, rfl, mine⟩ := found
    exact .returned mine

theorem getWallet_confined (type : WalletType) :
    Confined own known (getWallet own type)
      (fun wallet => wallet.key.accountId = own) := by
  apply (resolveAccountId_confined stable registered).bind stable
  intro resolved same
  have lookup : Confined own known (Program.perform
      (wallets.findUnique "wallet.find" ⟨resolved.getD own, type⟩))
      (fun answer => ∀ wallet ∈ answer, wallet.key.accountId = own) := by
    apply Confined.perform
    apply Confines.selected
    intro world _ wallet found
    rw [Table.key_of_find? found]
    exact same
  apply lookup.bind stable
  intro answer mine
  cases answer with
  | some wallet => exact .returned (mine wallet rfl)
  | none => exact .threw _

/-! ## Wallets -/

omit stable registered in
/-- Every update of a wallet of the account stays within it. -/
theorem walletUpdate_mine {wallet : WalletKey} (mine : wallet.accountId = own)
    (world : World) :
    ∀ row, world.wallets.find? wallet = some row → row.key.accountId = own := by
  intro row found
  rw [Table.key_of_find? found]
  exact mine

omit stable registered in
theorem decrement_confines {site : Site} {wallet : WalletKey} {delta : Decimal}
    {read : Wallet} {ignoreFrozen : Bool} (mine : wallet.accountId = own) :
    Confines own known
      (restingOn read ignoreFrozen (decrementBalance site wallet delta))
      Whatever := by
  intro world answer _ _
  refine ⟨?_, trivial⟩
  simp only [restingOn, decrementBalance]
  split
  · split
    · exact wallets_held.modified (fun _ => rfl) (walletUpdate_mine mine world)
    · exact .refl own world
  · exact .refl own world

omit registered in
theorem moveTransaction_confined (now : Time) (input : MoveInput)
    (wallet : Wallet) (amount : Decimal) (mine : wallet.key.accountId = own) :
    BodyConfined own known (moveTransaction now input wallet amount)
      Whatever := by
  simp only [moveTransaction, Body.bind_perform]
  apply BodyConfined.query stable Confines.reads
  · intro current _
    cases current with
    | none => exact .threw _
    | some current =>
        dsimp only
        split
        · exact .threw _
        split
        · exact .threw _
        split
        · apply BodyConfined.query stable (decrement_confines mine)
          · intro count _
            split
            · exact .threw _
            · exact .perform (ledgerRow_confines mine)
          · exact .threw
        · have credited :
            Confines own known (restingOn current input.ignoreFrozen
              (incrementBalance "move.increment" wallet.key |amount|))
                Whatever :=
            fun world _ _ _ => ⟨wallets_held.modified (fun _ => rfl)
              (walletUpdate_mine mine world), trivial⟩
          apply BodyConfined.query stable credited
          · intro updated _
            exact .perform (ledgerRow_confines mine)
          · exact .threw
  · exact .threw

theorem move_confined (now : Time) (input : MoveInput)
    (mine : input.accountId = own) :
    Confined own known (move now input) Whatever := by
  unfold move
  split
  · exact .threw _
  · exact .threw _
  split
  · exact .threw _
  rw [mine]
  apply (getWallet_confined stable registered input.type).bind stable
  intro wallet owned
  split
  · exact .threw _
  · exact .atomically (moveTransaction_confined stable now input wallet _ owned)

omit registered in
theorem transferCredit_confined (now : Time) (plan : TransferPlan)
    (target : plan.target.key.accountId = own) (mine : plan.accountId = own) :
    BodyConfined own known (transferCredit now plan) Whatever := by
  simp only [transferCredit, Body.bind_perform]
  apply BodyConfined.query stable Confines.reads
  · intro dst _
    cases dst with
    | none => exact .threw _
    | some dst =>
        dsimp only
        split
        · exact .threw _
        have credited :
          Confines own known (restingOn dst false (overwriteBalance
            "transfer.credit" plan.target.key dst.balance plan.amount))
              Whatever :=
          fun world _ _ _ => ⟨wallets_held.modified (fun _ => rfl)
            (walletUpdate_mine target world), trivial⟩
        apply BodyConfined.query stable credited
        · intro _ _
          apply BodyConfined.query stable (ledgerRow_confines target)
          · intro _ _
            apply BodyConfined.perform
            intro world answer met answered
            exact ⟨(transfers_held.create mine world answer met answered).1,
              trivial⟩
          · exact .threw
        · exact .threw
  · exact .threw

omit registered in
theorem transferTransaction_confined (now : Time) (plan : TransferPlan)
    (source : plan.source.key.accountId = own)
    (target : plan.target.key.accountId = own) (mine : plan.accountId = own) :
    BodyConfined own known (transferTransaction now plan) Whatever := by
  simp only [transferTransaction, Body.bind_perform]
  apply BodyConfined.query stable Confines.reads
  · intro src _
    cases src with
    | none => exact .threw _
    | some src =>
        dsimp only
        split
        · exact .threw _
        split
        · exact .threw _
        apply BodyConfined.query stable (decrement_confines source)
        · intro count _
          split
          · exact .threw _
          · apply BodyConfined.query stable (ledgerRow_confines source)
            · intro _ _
              exact transferCredit_confined stable now plan target mine
            · exact .threw
        · exact .threw
  · exact .threw

omit registered in
theorem transferAmount_confined (now : Time) (reference : Reference)
    (source target : Wallet) (dto : TransferInput) (actorId : Option String)
    (from_ : source.key.accountId = own) (into : target.key.accountId = own) :
    Confined own known
      (transferAmount now reference own source target dto actorId)
      Whatever := by
  unfold transferAmount
  split
  · exact .threw _
  · exact .threw _
  split
  · exact .threw _
  apply (computeTransferFee_confined stable own _).bind stable
  intro fee _
  exact .atomically (transferTransaction_confined stable now _ from_ into rfl)

theorem transfer_confined (now : Time) (reference : Reference)
    (dto : TransferInput) (actorId : Option String) :
    Confined own known
      (transferCollectionToDisbursement now reference own dto actorId)
      Whatever := by
  apply (resolveAccountId_confined stable registered).bind stable
  intro resolved same
  cases resolved with
  | none => exact .threw _
  | some resolved =>
      change resolved = own at same
      subst same
      apply (getWallet_confined stable registered .collection).bind stable
      intro source from_
      apply (getWallet_confined stable registered .disbursement).bind stable
      intro target into
      split
      · exact .threw _
      split
      · exact .threw _
      split
      · exact transferAmount_confined stable now reference source target dto
          actorId from_ into
      · apply Confined.reads.bind stable
        intro dupe _
        cases dupe with
        | some transfer => exact .threw _
        | none =>
            exact transferAmount_confined stable now reference source target
              dto actorId from_ into

theorem walletAction_confined (now : Time) (txType : WalletTxType)
    (title apiKeyId : String) (caller : RequestAccount) (type : WalletType)
    (dto : WalletAmount) (mine : caller.account.id = own) :
    Confined own known (walletAction now txType title apiKeyId caller type dto)
      Whatever := by
  unfold walletAction
  split
  · exact .threw _
  · exact move_confined stable registered now _ mine

theorem holdAndQueue_confined (now : Time) (hold : Hold)
    (debit : hold.debit.accountId = own) (mine : hold.payout.accountId = own) :
    Confined own known (holdAndQueue now hold) Whatever := by
  apply (move_confined stable registered now hold.debit debit).bind stable
  intro _ _
  apply (Confined.perform (payouts_held.create mine)).bind stable
  intro payout _
  apply (enqueue_confined _ now _).bind stable
  exact fun _ _ => .returned trivial

theorem createPayout_confined (now : Time) (random : List Char)
    (channel : PayoutChannel) (dto : PayoutDto) :
    Confined own known (createPayout now random own channel dto) Whatever := by
  have prepared : Confined own known (preparePayout now random own channel dto)
      (fun hold => hold.debit.accountId = own ∧
        hold.payout.accountId = own) := by
    apply (findAccount_confined stable).bind stable
    intro account _
    split
    · exact .threw _
    · apply (Confined.readOnly (rejectRepeated_readOnly _ _ _ _)).bind stable
      intro _ _
      apply (computeFee_confined stable _ _ _).bind stable
      exact fun _ _ => .returned ⟨rfl, rfl⟩
  apply prepared.bind stable
  intro hold mine
  exact holdAndQueue_confined stable registered now hold mine.1 mine.2

omit registered in
theorem createBatchRows_confined (now : Time) (randoms : ℕ → List Char)
    (sourceCode : String) (dto : CreateBatchDto) (reference : Reference) :
    BodyConfined own known
      (createBatchRows now randoms own sourceCode dto reference) Whatever := by
  simp only [createBatchRows, Body.bind_perform]
  apply BodyConfined.query stable (batches_held.create rfl)
  · intro created _
    split
    · exact .threw _
    · rename_i rows built
      have mine : ∀ payout ∈ rows, payout.accountId = own := by
        intro payout member
        obtain ⟨item, _, reference, rfl⟩ := (itemRows_ok built).1 payout member
        rfl
      apply BodyConfined.query stable (payouts_held.createMany mine)
      · exact fun _ _ => .returned trivial
      · exact .threw
  · exact .threw

theorem createBatch_confined (now : Time) (random : List Char)
    (randoms : ℕ → List Char) (dto : CreateBatchDto) :
    Confined own known (createBatch now random randoms own dto) Whatever := by
  apply (findAccount_confined stable).bind stable
  intro account _
  split
  · exact .threw _
  split
  · exact .threw _
  apply (move_confined stable registered now (batchHold own dto _) rfl).bind
    stable
  intro _ _
  apply (Confined.atomically
    (createBatchRows_confined stable now randoms account.sourceCode dto _)).bind
      stable
  intro batch _
  apply Confined.reads.bind stable
  intro items _
  apply (enqueue_confined _ now _).bind stable
  exact fun _ _ => .returned trivial

omit registered in
theorem createPayoutLink_confined (now : Time) (tokenHash : String)
    (dto : CreatePayoutLinkDto) :
    Confined own known (createPayoutLink now tokenHash own dto) Whatever := by
  apply (findAccount_confined stable).bind stable
  intro account _
  split
  · exact .threw _
  · exact (Confined.perform (payoutLinks_held.create rfl)).weaken
      fun _ _ => trivial

/-- A settlement account is one of the caller's, and only decides where the
money goes. -/
theorem createWithdrawal_confined (now : Time) (random : List Char)
    (minPayout : MinPayout) (dto : WithdrawalDto) (actorId : Option String) :
    Confined own known (createWithdrawal now random minPayout own dto actorId)
      Whatever := by
  have prepared :
    Confined own known (prepareWithdrawal now random minPayout own dto actorId)
      (fun hold => hold.debit.accountId = own ∧
        hold.payout.accountId = own) := by
    apply (findAccount_confined stable).bind stable
    intro account mine
    apply (Confined.readOnly
      (findSettlement_readOnly own dto.settlementAccountId)).bind stable
    intro settlement _
    cases settlement with
    | none => exact .threw _
    | some settlement =>
        dsimp only
        split
        · exact .threw _
        apply (computeFee_confined stable _ _ _).bind stable
        intro fee _
        split
        · exact .threw _
        split
        · exact .threw _
        · exact .returned ⟨mine, mine⟩
  apply prepared.bind stable
  intro hold mine
  exact holdAndQueue_confined stable registered now hold mine.1 mine.2

omit registered in
theorem sendSms_confined (now : Time) (random : List Char)
    (config : Sms.SmsConfig) (dto : Sms.SendSms) :
    Confined own known (Sms.send now random config own dto) Whatever := by
  apply (findAccount_confined stable).bind stable
  intro account _
  dsimp only
  split
  · exact .threw _
  have resolved :
    Confined own known (Sms.resolveSender config own dto.senderName)
      Whatever := by
    unfold Sms.resolveSender
    split
    · apply Confined.reads.bind stable
      intro dedicated _
      cases dedicated with
      | some _ => exact .returned trivial
      | none =>
          apply Confined.reads.bind stable
          intro shared _
          cases shared with
          | some _ => exact .returned trivial
          | none => exact .threw _
    · apply Confined.reads.bind stable
      exact fun _ _ => .returned trivial
  apply resolved.bind stable
  intro senderName _
  split
  · exact .threw _
  rename_i reference _
  apply (Confined.perform (smsMessages_held.create rfl)).bind stable
  intro sms _
  have billed (recipients : ℕ) : Confined own known
      (Sms.maybeIssuePaygBill now config own recipients reference)
        Whatever := by
    apply Confined.reads.bind stable
    intro permission _
    cases permission with
    | none => exact .returned trivial
    | some permission =>
        dsimp only
        split
        · split
          · exact (Confined.perform (bill_confines rfl)).discard stable
          · exact .threw _
          · exact .threw _
        · exact .returned trivial
  apply (billed _).bind stable
  intro _ _
  apply (enqueue_confined _ now _).bind stable
  exact fun _ _ => .returned trivial

omit registered in
theorem createEndpoint_confined (id : String)
    (dto : Webhooks.CreateEndpointDto) :
    Confined own known (Webhooks.create id own dto) Whatever := by
  apply Confined.reads.bind stable
  intro existing _
  split
  · exact .threw _
  · exact (Confined.perform (endpoints_held.create rfl)).weaken
      fun _ _ => trivial

end

/-- The row with a key, if there is one, belongs to the account. -/
def Belongs {Row Key : Type} [DecidableEq Key] {key : Row → Key}
    (relation : Relation key) (accountOf : Row → AccountId) (own : AccountId)
    (wanted : Key) (world : World) : Prop :=
  ∀ row, (relation.table world).find? wanted = some row → accountOf row = own

section

variable {Row Key : Type} [DecidableEq Key] {key : Row → Key}
  {relation : Relation key}
variable {accountOf : Row → AccountId}

theorem Belongs.stable (held : Held relation accountOf) (wanted : Key) :
    Stable own (Belongs relation accountOf own wanted) :=
  fun _ _ isolated belongs => held.belongs isolated belongs

theorem Stable.and {first second : World → Prop} (left : Stable own first)
    (right : Stable own second) :
    Stable own fun world => first world ∧ second world :=
  fun before after isolated met =>
    ⟨left before after isolated met.1, right before after isolated met.2⟩

/-- A row found by its key belongs to the account, when the key does. -/
theorem findUnique_confined {site : Site} {wanted : Key}
    (mine : ∀ world, known world →
      Belongs relation accountOf own wanted world) :
    Confined own known (Program.perform (relation.findUnique site wanted))
      (fun answer => ∀ row ∈ answer, accountOf row = own ∧
        key row = wanted) := by
  apply Confined.perform
  apply Confines.selected
  intro world met row found
  exact ⟨mine world met row found, Table.key_of_find? found⟩

/-- A row found under the account is the only one with its key. -/
theorem belongs_of_find {world : World} {wanted : Key} {row : Row}
    (found : ((relation.table world).rows.find? fun row =>
      key row = wanted ∧ accountOf row = own) = some row) :
    Belongs relation accountOf own wanted world := by
  have member := List.mem_of_find?_eq_some found
  have hit := List.find?_some found
  simp only [decide_eq_true_eq] at hit
  have at_key := Table.find?_of_mem member
  rw [hit.1] at at_key
  intro other same
  rw [at_key] at same
  cases same
  exact hit.2

end

theorem findEndpoint_learns (endpointId : String) (world : World)
    (_ : known world) :
    (Program.perform (Webhooks.findEndpoint own endpointId)).Holds (· = world)
      (fun answer after => after = world ∧ ∀ endpoint ∈ answer,
        Belongs endpoints WebhookEndpoint.accountId own endpointId world)
          (· = world) := by
  apply Program.Holds.read (fun _ => rfl)
  · intro state answer same answered
    subst same
    cases answered
    exact ⟨rfl, fun endpoint found => belongs_of_find found⟩
  · exact fun _ same => same

theorem updateEndpoint_confined (endpointId : String)
    (dto : Webhooks.UpdateEndpointDto) :
    Confined own known (Webhooks.update own endpointId dto) Whatever := by
  apply Confined.afterLearning (findEndpoint_learns endpointId)
  intro endpoint
  cases endpoint with
  | none => exact .threw _
  | some endpoint =>
      apply Confined.perform
      apply endpoints_held.update
      · exact fun _ => rfl
      · exact fun world row met found => met.2 endpoint rfl row found

theorem removeEndpoint_confined (endpointId : String) :
    Confined own known (Webhooks.remove own endpointId) Whatever := by
  apply Confined.afterLearning (findEndpoint_learns endpointId)
  intro endpoint
  cases endpoint with
  | none => exact .threw _
  | some endpoint =>
      apply Confined.perform
      apply endpoints_held.delete
      exact fun world row met found => met.2 endpoint rfl row found

section

variable {Row : Type} {reference : Row → Reference}
  {relation : Relation reference}
variable {accountOf : Row → AccountId}

theorem Held.pushed (held : Held relation accountOf) {row : Row}
    {fail : Row → Row} {keeps : ∀ row, reference (fail row) = reference row}
    {world after : World} (mine : accountOf row = own)
    (keepsOwner : ∀ row, accountOf (fail row) = accountOf row)
    (pushed : Pushed relation row fail keeps world after) :
    Isolated own world after := by
  cases pushed with
  | nothing => exact .refl own world
  | created fresh => exact held.inserted fresh mine
  | refused created fresh same =>
      have inserted : Isolated own world created :=
        same ▸ held.inserted fresh mine
      apply inserted.trans
      apply held.modified keepsOwner
      apply held.belongs inserted
      intro other found
      rw [fresh] at found
      cases found

theorem Held.initiates (held : Held relation accountOf) {row : Reference → Row}
    {fail : Row → Row} {keeps : ∀ row, reference (fail row) = reference row}
    {built : Option Reference} {world after : World}
    (mine : ∀ orderRef, accountOf (row orderRef) = own)
    (keepsOwner : ∀ row, accountOf (fail row) = accountOf row)
    (initiates : Initiates relation row fail keeps built world after) :
    Isolated own world after := by
  rcases initiates with same | ⟨orderRef, _, pushed⟩
  · rw [same]
    exact .refl own world
  · exact held.pushed (mine orderRef) keepsOwner pushed

theorem Held.initiatesOk (held : Held relation accountOf)
    {row : Reference → Row} {built : Option Reference} {world after : World}
    (mine : ∀ orderRef, accountOf (row orderRef) = own)
    (initiates : InitiatesOk relation row built world after) :
    Isolated own world after := by
  obtain ⟨orderRef, _, fresh, same⟩ := initiates
  rw [same]
  exact held.inserted fresh (mine orderRef)

end

theorem initiateCollection_confined (now : Time) (random again : List Char)
    (dto : UssdPushInitiate) (result : ProviderResult ProviderRecord) :
    Confined own known (initiateCollection now random again own dto fun _ =>
      result) Whatever := by
  intro world _
  apply (initiateCollection_holds now random again own dto result).mono
    fun _ same => same
  · intro row after initiates
    exact ⟨collections_held.initiatesOk (fun _ => rfl) initiates, trivial⟩
  · intro after initiates
    apply collections_held.initiates ?_ ?_ initiates
    · exact fun _ => rfl
    · exact fun _ => rfl

theorem initiateDeposit_confined (now : Time) (random : List Char)
    (dto : UssdPushInitiate) (result : ProviderResult ProviderRecord) :
    Confined own known (initiateDeposit now random own dto fun _ => result)
      Whatever := by
  intro world _
  apply (initiateDeposit_holds now random own dto result).mono
    fun _ same => same
  · intro row after stated
    obtain ⟨wallet, initiates⟩ := stated
    exact ⟨deposits_held.initiatesOk (fun _ => rfl) initiates, trivial⟩
  · intro after stated
    rcases stated with same | ⟨wallet, initiates⟩
    · rw [same]
      exact .refl own world
    · apply deposits_held.initiates ?_ ?_ initiates
      · exact fun _ => rfl
      · exact fun _ => rfl

/-! ## Refreshes -/

section

variable (stable : Stable own known)
  (registered : ∀ world, known world → Registered own world)
include stable registered

omit registered in
/-- The event of a row that was not final. -/
theorem whenDispatch_confined (condition : Prop) [Decidable condition]
    (now : Time) (notice : Dispatched) :
    Confined own known
      (Program.when condition (Program.discard (dispatch now notice)))
        Whatever :=
  .when ((dispatch_confined stable now notice).discard stable)

/-- The status engine is keyed by the reference alone: it stays within the
account when the reference is the account's. -/
theorem applyCollectionUpdate_confined (now : Time) (wanted : Reference)
    (record : ProviderRecord)
    (mine : ∀ world, known world →
      Belongs collections Collection.accountId own wanted world) :
    Confined own known (applyCollectionUpdate now wanted record) Whatever := by
  have finished (collection : Collection) (nextStatus : TxStatus)
    (fee : Option ComputedFee)
      (owned : collection.accountId = own ∧ collection.reference = wanted) :
      Confined own known (finishCollection now record nextStatus fee collection)
        Whatever := by
    unfold finishCollection
    split
    · exact .threw _
    have written :
      Confines own known (updateCollection now record nextStatus fee collection)
        Whatever := by
      intro world _ met _
      refine ⟨collections_held.modified (fun _ => rfl) ?_, trivial⟩
      rw [owned.2]
      exact mine world met
    apply (Confined.perform written).bind stable
    intro updated _
    have credited :
      Confined own known (creditCollection now collection updated fee)
        Whatever := by
      cases fee with
      | none => exact .returned trivial
      | some fee =>
          exact (move_confined stable registered now _ owned.1).discard stable
    apply credited.bind stable
    intro _ _
    apply (whenDispatch_confined stable _ now _).bind stable
    exact fun _ _ => .returned trivial
  apply (findUnique_confined mine).bind stable
  intro answer owned
  cases answer with
  | none => exact .returned trivial
  | some collection =>
      dsimp only
      split
      · exact .threw _
      split
      · exact .returned trivial
      split
      · apply (computeFee_confined stable _ _ _).bind stable
        exact fun fee _ =>
          finished collection _ (some fee) (owned collection rfl)
      · exact finished collection _ none (owned collection rfl)

theorem applyDepositUpdate_confined (now : Time) (wanted : Reference)
    (record : ProviderRecord)
    (mine : ∀ world, known world →
      Belongs deposits Deposit.accountId own wanted world) :
    Confined own known (applyDepositUpdate now wanted record) Whatever := by
  have finished (deposit : Deposit) (nextStatus : TxStatus)
    (shouldCredit : Bool)
      (owned : deposit.accountId = own ∧ deposit.reference = wanted) :
      Confined own known
        (finishDeposit now record nextStatus shouldCredit deposit)
        Whatever := by
    unfold finishDeposit
    split
    · exact .threw _
    have written : Confines own known
        (updateDeposit now record nextStatus shouldCredit deposit)
          Whatever := by
      intro world _ met _
      refine ⟨deposits_held.modified (fun _ => rfl) ?_, trivial⟩
      rw [owned.2]
      exact mine world met
    apply (Confined.perform written).bind stable
    intro updated _
    have credited : Confined own known
        (Program.discard (move now (depositCredit deposit updated))) Whatever :=
      (move_confined stable registered now _ owned.1).discard stable
    apply credited.when.bind stable
    intro _ _
    apply (whenDispatch_confined stable _ now _).bind stable
    exact fun _ _ => .returned trivial
  apply (findUnique_confined mine).bind stable
  intro answer owned
  cases answer with
  | none => exact .returned trivial
  | some deposit =>
      dsimp only
      split
      · exact .threw _
      split
      · exact .returned trivial
      · exact finished deposit _ _ (owned deposit rfl)

omit registered in
/-- Both services look the row up under the account first. -/
theorem refreshStatus_confined {Row : Type} {reference : Row → Reference}
    (service : PaymentService reference)
    (held : Held service.relation service.accountId) (now : Time)
    (wanted : Reference)
    (queryPayment : Reference → ProviderResult (List ProviderRecord))
    (applies : ∀ row record,
      Confined own (fun world => known world ∧
        Belongs service.relation service.accountId own (reference row) world)
        (service.applyUpdate now (reference row) record) Whatever) :
    Confined own known (service.refreshStatus now own wanted queryPayment)
      Whatever := by
  have learns : ∀ world, known world →
    (service.get own wanted).Holds (· = world)
      (fun row after => after = world ∧
        Belongs service.relation service.accountId own (reference row) world)
      (· = world) := by
    intro world _
    have lookup : (Program.perform (select (service.name ++ ".get") fun world =>
        (service.relation.table world).rows.find? fun row =>
          reference row = wanted ∧ service.accountId row = own)).Holds
            (· = world)
        (fun answer after => after = world ∧ ∀ row ∈ answer,
          Belongs service.relation service.accountId own (reference row) world)
        (· = world) := by
      apply Program.Holds.read (fun _ => rfl)
      · intro state answer same answered
        subst same
        cases answered
        refine ⟨rfl, fun row found => ?_⟩
        have hit := List.find?_some found
        simp only [decide_eq_true_eq] at hit
        rw [hit.1]
        exact belongs_of_find found
      · exact fun _ same => same
    apply lookup.bind
    intro answer
    cases answer with
    | none => exact .threw fun _ ended => ended.1
    | some row => exact .returned fun _ ended => ⟨ended.1, ended.2 row rfl⟩
  have readOnly : (service.get own wanted).ReadOnly := by
    apply (Program.ReadOnly.read fun _ => rfl).bind
    intro answer
    cases answer with
    | none => exact .threw _
    | some row => exact .returned row
  apply Confined.afterLearning learns
  intro row
  split
  · exact .returned trivial
  split
  · have both := stable.and (Belongs.stable held (reference row))
    apply ((applies row _).discard both).bind both
    exact fun _ _ => .readOnly readOnly
  · exact .returned trivial

theorem handler_confined (request : Request) (now : Time) (apiKeyId : String)
    (caller : RequestAccount) (mine : caller.account.id = own) :
    Confined own known (request.handler now apiKeyId caller) Whatever := by
  subst mine
  cases request with
  | collect random again dto result =>
      exact (initiateCollection_confined now random again dto result).discard
        stable
  | refreshCollection reference queryPayment =>
      apply Confined.discard stable
      apply refreshStatus_confined stable collectionsService collections_held
      intro row record
      have both := stable.and (Belongs.stable collections_held row.reference)
      apply applyCollectionUpdate_confined both
      · exact fun world met => registered world met.1
      · exact fun world met => met.2
  | fund random dto result =>
      exact (initiateDeposit_confined now random dto result).discard stable
  | refreshDeposit reference queryPayment =>
      apply Confined.discard stable
      apply refreshStatus_confined stable depositsService deposits_held
      intro row record
      have both := stable.and (Belongs.stable deposits_held row.reference)
      apply applyDepositUpdate_confined both
      · exact fun world met => registered world met.1
      · exact fun world met => met.2
  | payout random channel dto =>
      exact (createPayout_confined stable registered now random channel
        dto).discard stable
  | batch random randoms dto =>
      exact (createBatch_confined stable registered now random randoms
        dto).discard stable
  | payoutLink tokenHash dto =>
      exact (createPayoutLink_confined stable now tokenHash dto).discard stable
  | transfer reference dto =>
      exact (transfer_confined stable registered now reference dto _).discard
        stable
  | deposit type dto =>
      exact (walletAction_confined stable registered now _ _ _ caller type
        dto rfl).discard stable
  | withdraw type dto =>
      exact (walletAction_confined stable registered now _ _ _ caller type
        dto rfl).discard stable
  | settle random minPayout dto =>
      exact (createWithdrawal_confined stable registered now random
        minPayout dto _).discard stable
  | sendSms random config dto =>
      exact (sendSms_confined stable now random config dto).discard stable
  | createEndpoint id dto =>
      exact (createEndpoint_confined stable id dto).discard stable
  | updateEndpoint endpointId dto =>
      exact (updateEndpoint_confined endpointId dto).discard stable
  | removeEndpoint endpointId => exact removeEndpoint_confined endpointId

theorem gated_confined (request : Request) (now : Time) (apiKeyId : String)
    (caller : RequestAccount) (mine : caller.account.id = own) :
    Confined own known (request.gated now apiKeyId caller) Whatever := by
  unfold Request.gated
  split
  · exact .threw _
  · exact handler_confined stable registered request now apiKeyId caller mine

end

/-- The guard lets only an existing account through, under its own id. -/
theorem apiKeyGuard_learns (world : World) (_ : known world) :
    (apiKeyGuard own).Holds (· = world)
      (fun caller after => after = world ∧ caller.account.id = own ∧
        Registered own world) (· = world) := by
  have lookup : (Program.perform (select "apiKey.findUnique" fun world =>
      (world.accounts.find? own).map fun account =>
        ({ account
           permissions :=
             world.permissions.rows.filter fun permission =>
            permission.key.accountId = own } : RequestAccount))).Holds
              (· = world)
      (fun answer after => after = world ∧ ∀ caller ∈ answer,
        caller.account.id = own ∧ Registered own world) (· = world) := by
    apply Program.Holds.read (fun _ => rfl)
    · intro state answer same answered
      subst same
      cases answered
      refine ⟨rfl, fun caller found => ?_⟩
      obtain ⟨account, at_id, rfl⟩ := Option.map_eq_some_iff.mp found
      exact ⟨Table.key_of_find? at_id, account, at_id⟩
    · exact fun _ same => same
  apply lookup.bind
  intro answer
  cases answer with
  | none => exact .threw fun _ ended => ended.1
  | some caller =>
      dsimp only
      split
      · exact .threw fun _ ended => ended.1
      · exact .returned fun _ ended => ⟨ended.1, ended.2 caller rfl⟩

theorem program_confined (request : Request) (now : Time) (apiKeyId : String) :
    Confined own (fun _ => True) (request.program now apiKeyId own)
      Whatever := by
  apply Confined.afterLearning apiKeyGuard_learns
  intro caller world met
  have stable : Stable own fun world =>
      True ∧ caller.account.id = own ∧ Registered own world :=
    fun before after isolated met =>
      ⟨trivial, met.2.1, registered_stable before after isolated met.2.2⟩
  apply gated_confined stable _ request now apiKeyId caller met.2.1 world met
  exact fun _ met => met.2.2

/-- A request, whatever its arguments and whatever fails, changes nothing that
another account holds. -/
theorem request_isolated (request : Request) (now : Time) (apiKeyId : String)
    (accountId : AccountId) (faults : Site → Option (Fault AppError))
    (world : World) (other : AccountId) (differ : other ≠ accountId) :
    holdings ((request.program now apiKeyId accountId).exec faults world).2
      other = holdings world other := by
  have isolated : Isolated accountId world
      ((request.program now apiKeyId accountId).exec faults world).2 := by
    apply Program.Holds.final
    apply (program_confined request now apiKeyId world trivial).mono
      (fun _ same => same)
    · exact fun _ _ ended => ended.1
    · exact fun _ ended => ended
  exact isolated.holdings other differ

/-- Two accounts; the pending collection is the first one's, and the second may
collect. -/
def twoTenants : World :=
  { pendingWorld with
    accounts := pendingWorld.accounts.insert
      { id := "b", accountId := "ACC-2", sourceCode := "BBBBB" }
    permissions :=
      Table.empty.insert { key := ⟨"b", .collection⟩, granted := true } }

/-- The second refreshes the first one's collection, which the provider calls
paid. -/
theorem request_isolated_foreign :
    "a" ≠ "b" ∧ holdings
      ((Request.refreshCollection "AAAAA000000000000001" fun _ =>
        { ok := true, data := some [{ status := .given "SUCCESS" }] }).program 2
          "key" "b"
          |>.exec (fun _ => none) twoTenants).2 "a" = holdings twoTenants "a" :=
  ⟨by decide, request_isolated _ 2 "key" "b" (fun _ => none) twoTenants
    "a" (by decide)⟩

end CloudStudio.Tenancy
