import CloudStudio.Payouts.Debits
import CloudStudio.Payouts.Settlements
import CloudStudio.Transactions.Commitments
import CloudStudio.Wallets.Runs

/-!
# Is a client reference used once?

Collections, deposits, transfers and single payouts look for a row with the
client's reference before they move money or create their row; withdrawals and
batches do not look. No index backs the check.  So what happens to a reference
depends on what becomes of it before the last step at stake of a request: the
commit of its debit, of its transfer or of its batch, or the statement that
creates its row.
-/

namespace CloudStudio.Payouts

open CloudStudio.Data CloudStudio.Transactions CloudStudio.Platform
open CloudStudio.Payments
open CloudStudio.Wallets

/-- The kinds of rows that carry a client reference. -/
inductive ReferenceKind where
  | collection | deposit | transfer | payout
  deriving DecidableEq

/-- The reference of a row, if the row is the account's and its client gave
one. -/
def referenceFor (account owner : AccountId) (clientReference : Option String) :
    Option String :=
  if owner = account then nonEmpty clientReference else none

/-- A payout that a client asked for. -/
def requestedReference (payout : Payout) : Option String :=
  if payout.payoutKind = .autoSweep then none else payout.clientReference

/-- The client references of an account's rows of a kind, auto-sweeps aside. -/
def clientReferences (world : World) (account : AccountId) :
    ReferenceKind → List String
  | .collection => world.collections.rows.filterMap fun row =>
      referenceFor account row.accountId row.clientReference
  | .deposit => world.deposits.rows.filterMap fun row =>
      referenceFor account row.accountId row.clientReference
  | .transfer => world.transfers.rows.filterMap fun row =>
      referenceFor account row.accountId row.clientReference
  | .payout => world.payouts.rows.filterMap fun row =>
      referenceFor account row.accountId (requestedReference row)

/-- At most one row of a kind exists for each client reference of an account. -/
def UniqueReferences (world : World) : Prop :=
  ∀ account kind, (clientReferences world account kind).Nodup

/-- A request that may carry client references. -/
inductive ReferencedRequest where
  | collection (now : Time) (random again : List Char) (accountId : AccountId)
      (dto : UssdPushInitiate) (result : ProviderResult ProviderRecord)
  | deposit (now : Time) (random : List Char) (accountId : AccountId)
      (dto : UssdPushInitiate) (result : ProviderResult ProviderRecord)
  | transfer (now : Time) (reference : Reference) (accountId : String)
      (dto : TransferInput) (actorId : Option String)
  | payout (now : Time) (random : List Char) (accountId : AccountId)
      (channel : PayoutChannel) (dto : PayoutDto)
  | withdrawal (now : Time) (random : List Char) (minPayout : MinPayout)
      (accountId : AccountId) (dto : WithdrawalDto) (actorId : Option String)
  | batch (now : Time) (random : List Char) (randoms : ℕ → List Char)
      (accountId : AccountId) (dto : CreateBatchDto)

namespace ReferencedRequest

def program : ReferencedRequest → Db Unit
  | .collection now random again accountId dto result =>
      Program.discard
        (initiateCollection now random again accountId dto fun _ => result)
  | .deposit now random accountId dto result =>
      Program.discard (initiateDeposit now random accountId dto fun _ => result)
  | .transfer now reference accountId dto actorId =>
      Program.discard
        (transferCollectionToDisbursement now reference accountId dto actorId)
  | .payout now random accountId channel dto =>
      Program.discard (createPayout now random accountId channel dto)
  | .withdrawal now random minPayout accountId dto actorId =>
      Program.discard
        (createWithdrawal now random minPayout accountId dto actorId)
  | .batch now random randoms accountId dto =>
      Program.discard (createBatch now random randoms accountId dto)

def kind : ReferencedRequest → ReferenceKind
  | .collection .. => .collection
  | .deposit .. => .deposit
  | .transfer .. => .transfer
  | .payout .. | .withdrawal .. | .batch .. => .payout

/-- The account whose request it is; a transfer may name it by its public
identifier. -/
def owner (world : World) : ReferencedRequest → Option AccountId
  | .transfer _ _ accountId _ _ => world.resolve accountId
  | .collection _ _ _ accountId _ _ | .deposit _ _ accountId _ _
  | .payout _ _ accountId _ _ | .withdrawal _ _ _ accountId _ _
  | .batch _ _ _ accountId _ => some accountId

/-- The client references of the request, as its rows store them. -/
def references : ReferencedRequest → List String
  | .collection _ _ _ _ dto _ | .deposit _ _ _ dto _ =>
      (nonEmpty (upperReference dto.reference)).toList
  | .transfer _ _ _ dto _ => (nonEmpty (upperReference dto.reference)).toList
  | .payout _ _ _ _ dto => (nonEmpty (upperReference dto.reference)).toList
  | .withdrawal _ _ _ _ dto _ =>
      (nonEmpty (upperReference dto.reference)).toList
  | .batch _ _ _ _ dto => dto.items.filterMap fun item =>
      nonEmpty (upperReference item.reference)

/-- The request looks for a row with its reference first. -/
def checksReference : ReferencedRequest → Bool
  | .collection .. | .deposit .. | .transfer .. | .payout .. => true
  | .withdrawal .. | .batch .. => false

/-- One of the request's references is in use. -/
def Reuses (world : World) (request : ReferencedRequest) : Prop :=
  ∃ account ∈ request.owner world, ∃ reference ∈ request.references,
    reference ∈ clientReferences world account request.kind

/-- The request's references differ, and none is in use. -/
def Fresh (world : World) (request : ReferencedRequest) : Prop :=
  request.references.Nodup ∧ ¬ request.Reuses world

instance (world : World) (request : ReferencedRequest) :
    Decidable (request.Reuses world) :=
  match owned : request.owner world with
  | none => isFalse fun ⟨account, member, _⟩ => by
      rw [owned] at member; cases member
  | some account =>
      decidable_of_iff (∃ reference ∈ request.references,
          reference ∈ clientReferences world account request.kind)
        ⟨fun reused => ⟨account, owned, reused⟩,
          fun ⟨other, member, reused⟩ => by
          rw [owned] at member
          cases member
          exact reused⟩

instance (world : World) (request : ReferencedRequest) :
    Decidable (request.Fresh world) :=
  inferInstanceAs (Decidable (_ ∧ _))

end ReferencedRequest

/-- The sites that create the row of a request outside a transaction. -/
def createsRow (site : Site) : Bool :=
  site ∈ ["collection.create", "deposit.create", "payout.create"]

/-- Accounts, wallets and client references are as they were. -/
structure KeepsReferences (before after : World) : Prop where
  accounts : after.accounts = before.accounts
  wallets : after.wallets = before.wallets
  references : ∀ account kind,
    clientReferences after account kind = clientReferences before account kind

/-- Rows are added, at most one for each of the references. -/
structure AddsReferences (wanted : ReferenceKind) (owner : Option AccountId)
    (references : List String) (before after : World) : Prop where
  accounts : after.accounts = before.accounts
  added : ∃ added, added.Sublist references ∧ ∀ account kind,
    clientReferences after account kind =
      clientReferences before account kind ++
      if kind = wanted ∧ owner = some account then added else []

variable {Id : Type}

theorem KeepsReferences.refl (world : World) : KeepsReferences world world :=
  ⟨rfl, rfl, fun _ _ => rfl⟩

/-- A change of other tables adds nothing. -/
theorem adds_nothing {wanted : ReferenceKind} {owner : Option AccountId}
    {references : List String} {before after : World}
    (accounts : after.accounts = before.accounts) (same : ∀ account kind,
      clientReferences after account kind =
        clientReferences before account kind) :
    AddsReferences wanted owner references before after := by
  refine ⟨accounts, [], List.nil_sublist _, fun account kind => ?_⟩
  rw [same, ite_self, List.append_nil]

/-- A change of the table of one kind. -/
theorem adds_of_table {wanted : ReferenceKind} {owner : AccountId}
    {references : List String} {before after : World}
    (accounts : after.accounts = before.accounts)
    (added : ∃ added, added.Sublist references ∧ ∀ account,
      clientReferences after account wanted =
        clientReferences before account wanted ++
        if owner = account then added else [])
    (others : ∀ account kind, kind ≠ wanted →
        clientReferences after account kind =
          clientReferences before account kind := by
      intro account kind differ
      cases kind <;> first | rfl | exact absurd rfl differ) :
    AddsReferences wanted (some owner) references before after := by
  obtain ⟨added, sublist, rows⟩ := added
  refine ⟨accounts, added, sublist, fun account kind => ?_⟩
  by_cases same : kind = wanted
  · subst same
    simp [rows]
  · rw [others account kind same, if_neg fun both => same both.1,
      List.append_nil]

/-- The references that rows of one account add to a table. -/
theorem filterMap_insertAll {Row Key : Type} {key : Row → Key} [DecidableEq Key]
    (table : Table key) (rows : List Row) {owner : Row → AccountId}
    (client : Row → Option String) {account : AccountId}
    (mine : ∀ row ∈ rows, owner row = account) :
    ∃ added, added.Sublist (rows.filterMap fun row => nonEmpty (client row)) ∧
      ∀ other, (table.insertAll rows).rows.filterMap
          (fun row => referenceFor other (owner row) (client row)) =
        table.rows.filterMap
          (fun row => referenceFor other (owner row) (client row)) ++
          if account = other then added else [] := by
  obtain ⟨added, sublist, same⟩ := table.rows_insertAll rows
  refine ⟨added.filterMap fun row => nonEmpty (client row), sublist.filterMap _,
    ?_⟩
  intro other
  rw [same, List.filterMap_append]
  congr 1
  split
  next isOther =>
    apply List.filterMap_congr
    intro row member
    rw [referenceFor, if_pos ((mine row (sublist.subset member)).trans isOther)]
  next isOther =>
    apply List.filterMap_eq_nil_iff.mpr
    intro row member
    rw [referenceFor, if_neg]
    exact fun same =>
      isOther ((mine row (sublist.subset member)).symm.trans same)

/-- Rules under which the accounts stay, fee configurations and jobs may change,
and only the creation of a request's row is marked. -/
structure Ordinary (start : World) (rules : Stakes Id World Site) : Prop where
  marked : rules.marked = createsRow
  accounts : ∀ world, rules.valid world → world.accounts = start.accounts
  quiet : ∀ world feeConfigs jobs,
    rules.quiet world { world with feeConfigs, jobs }

section

variable {start : World} {rules : Stakes Id World Site}
  (ordinary : Ordinary start rules)
variable {id : Id}
include ordinary

/-- A statement that changes nothing. -/
theorem reading_obeys {Answer : Type} {statement : Statement Answer}
    (answers : Answer → Prop) (unmarked : createsRow statement.label = false)
    (idle : ∀ world, statement.effect world world = world)
    (holds : ∀ world, rules.valid world → world.accounts = start.accounts →
      ∀ answer,
      statement.answer world = .ok answer → answers answer) :
    (Program.perform statement).Obeys rules id (fun _ => False) answers := by
  apply Program.Obeys.perform
  · rw [ordinary.marked]
    exact unmarked
  · intro world valid answer answered
    rw [idle]
    exact ⟨ordinary.quiet world world.feeConfigs world.jobs,
      holds world valid (ordinary.accounts world valid) answer answered⟩

theorem findAccount_obeys (accountId : AccountId) :
    (findAccount accountId).Obeys rules id (fun _ => False)
      fun account => account.id = accountId := by
  apply (reading_obeys ordinary (fun account => ∀ row ∈ account,
    row.id = accountId)
    rfl (fun _ => rfl) ?_).andThen
  · intro account found
    cases account with
    | none => exact trivial
    | some account => exact found account rfl
  · intro world _ _ account answered row member
    cases answered
    exact Table.key_of_find? member

theorem getConfig_obeys (accountId : AccountId) :
    (getConfig accountId).Obeys rules id (fun _ => False) fun _ => True := by
  have reading (site : Site) (unmarked : createsRow site = false) :
      (Program.perform (feeConfigs.findUnique site accountId)).Obeys rules id
        (fun _ => False) fun _ => True :=
    reading_obeys ordinary _ unmarked (fun _ => rfl) fun _ _ _ _ _ => trivial
  apply (reading "feeConfig.find" (by decide)).andThen
  intro existing _
  cases existing with
  | some config => exact trivial
  | none =>
      constructor
      · intro world _ answer _
        rw [ordinary.marked]
        exact ⟨ordinary.quiet world _ world.jobs, trivial⟩
      · intro _
        apply (reading "feeConfig.reread" (by decide)).andThen
        intro row _
        cases row <;> exact trivial

theorem computeFee_obeys (kind : FeeKind) (accountId : AccountId)
    (amount : NumberInput) :
    (computeFee kind accountId amount).Obeys rules id (fun _ => False)
      fun _ => True := by
  apply (getConfig_obeys ordinary accountId).andThen
  intro config _
  cases amount <;> exact trivial

theorem computeTransferFee_obeys (accountId : AccountId) (amount : Decimal) :
    (computeTransferFee accountId amount).Obeys rules id (fun _ => False)
      fun _ => True :=
  (getConfig_obeys ordinary accountId).andThen fun _ _ => trivial

theorem resolveAccountId_obeys (idOrPublicId : String) :
    (resolveAccountId idOrPublicId).Obeys rules id (fun _ => False)
      fun resolved => resolved = start.resolve idOrPublicId := by
  unfold resolveAccountId World.resolve
  split
  · exact rfl
  apply (reading_obeys ordinary
    (fun byId => byId = start.accounts.find? idOrPublicId)
    rfl (fun _ => rfl) ?_).andThen
  · rintro byId rfl
    cases start.accounts.find? idOrPublicId with
    | some account => exact rfl
    | none =>
        apply (reading_obeys ordinary (fun byPublic => byPublic =
          start.accounts.rows.find? fun account =>
            account.accountId == idOrPublicId)
          rfl (fun _ => rfl) ?_).andThen
        · rintro byPublic rfl
          exact rfl
        · intro world _ same byPublic answered
          rw [← Except.ok.inj answered, ← same]
  · intro world _ same byId answered
    rw [← Except.ok.inj answered, ← same]

theorem getWallet_obeys (accountId : String) (type : WalletType) :
    (getWallet accountId type).Obeys rules id (fun _ => False)
      fun _ => True := by
  apply (resolveAccountId_obeys ordinary accountId).andThen
  intro resolved _
  apply (reading_obeys ordinary (fun _ => True) rfl (fun _ => rfl)
    fun _ _ _ _ _ => trivial).andThen
  intro wallet _
  cases wallet <;> exact trivial

theorem findSettlement_obeys (accountId : AccountId)
    (settlementAccountId : Option String) :
    (findSettlement accountId settlementAccountId).Obeys rules id
      (fun _ => False)
      fun _ => True := by
  unfold findSettlement
  split
  · exact reading_obeys ordinary _ rfl (fun _ => rfl) fun _ _ _ _ _ => trivial
  · apply (reading_obeys ordinary (fun _ => True) rfl (fun _ => rfl)
      fun _ _ _ _ _ => trivial).andThen
    intro account _
    cases account with
    | none => exact trivial
    | some account =>
        exact reading_obeys ordinary _ rfl (fun _ => rfl)
          fun _ _ _ _ _ => trivial

theorem enqueue_obeys {clean : ℕ → Prop} (site : Site)
    (unmarked : createsRow site = false) (now : Time) (payload : JobPayload)
    (holds : ∀ position, clean position) :
    (enqueue site now payload).Obeys rules id clean clean := by
  apply Program.Obeys.perform
  · rw [ordinary.marked]
    exact unmarked
  · intro world _ position _
    exact ⟨ordinary.quiet world world.feeConfigs _, holds position⟩

/-- The check of a reference answers what holds of it. -/
theorem rejectRepeated_obeys {site : Site} (unmarked : createsRow site = false)
    (repeated : String → World → Bool) (message : String)
    (clientReference : Option String) {unused : Prop}
    (holds : ∀ reference, nonEmpty clientReference = some reference → ∀ world,
      rules.valid world → repeated (Text.toUpperCase reference) world = false →
        unused) (unchecked : nonEmpty clientReference = none → unused) :
    (rejectRepeated site repeated message clientReference).Obeys rules id
      (fun _ => False)
      fun _ => unused := by
  unfold rejectRepeated
  split
  next absent => exact unchecked absent
  next reference given =>
    apply (reading_obeys ordinary (fun dupe => dupe = false → unused) unmarked
      (fun _ => rfl) ?_).andThen
    · intro dupe answered
      cases dupe with
      | true => exact trivial
      | false => exact answered rfl
    · intro world valid _ dupe answered found
      cases answered
      exact holds reference given world valid found

end

theorem decrementBalance_effect (site : Site) (wallet : WalletKey)
    (delta : Decimal) (met later : World) :
    ∃ wallets, (decrementBalance site wallet delta).effect met later =
      { later with wallets } := by
  simp only [decrementBalance]
  split
  · split
    · exact ⟨_, rfl⟩
    · exact ⟨later.wallets, rfl⟩
  · exact ⟨later.wallets, rfl⟩

section

variable {start : World} {rules : Stakes Id World Site}
  (ordinary : Ordinary start rules)
variable {id : Id}

/-- A movement writes wallets and ledger, when it commits. -/
theorem moveTransaction_commits
    (spends : ∀ world wallets ledger,
      rules.stake id world { world with wallets, ledger }) (now : Time)
    (input : MoveInput) (wallet : Wallet) (amount : Decimal) :
    (moveTransaction now input wallet amount).Commits rules id (fun _ => True)
      fun state => state := by
  simp only [moveTransaction, Body.bind_perform]
  refine ⟨fun world _ current _ => ?_, fun _ => trivial⟩
  cases current with
  | none => exact trivial
  | some current =>
      dsimp only
      split
      · exact trivial
      split
      · exact trivial
      split
      · refine ⟨fun met _ count _ => ?_, fun _ => trivial⟩
        dsimp only
        split
        · exact trivial
        · refine ⟨fun _ _ row _ => ⟨fun later _ => ?_, trivial⟩,
            fun _ => trivial⟩
          obtain ⟨wallets, same⟩ :=
            decrementBalance_effect "move.decrement" wallet.key |amount|
            met later
          simp only [restingOn, createLedgerRow, select, Relation.findUnique,
            same]
          exact spends later wallets _
      · refine ⟨fun met _ updated _ => ?_, fun _ => trivial⟩
        exact ⟨fun _ _ row _ => ⟨fun later _ => spends later _ _, trivial⟩,
          fun _ => trivial⟩

/-- A program whose value nobody needs. -/
theorem discard_obeys {Answer : Type} {program : Db Answer} {clean : Prop}
    (obeys : program.Obeys rules id (fun _ => True) fun _ => clean) :
    program.discard.Obeys rules id (fun _ => True) fun _ => clean :=
  Program.Obeys.bind obeys

include ordinary

/-- A movement that returns has committed. -/
theorem move_obeys
    (spends : ∀ world wallets ledger,
      rules.stake id world { world with wallets, ledger }) (now : Time)
    (input : MoveInput) :
    (move now input).Obeys rules id (fun _ => True) fun _ => False := by
  unfold move
  split
  · exact trivial
  · exact trivial
  split
  · exact trivial
  apply (getWallet_obeys ordinary _ _).andThen
  intro wallet _
  split
  · exact trivial
  · exact ⟨moveTransaction_commits spends now input wallet _, fun _ => trivial⟩

/-- The debit, the row and the job of a payout. -/
theorem holdAndQueue_obeys
    (spends : ∀ world wallets ledger,
      rules.stake id world { world with wallets, ledger }) (now : Time)
    {hold : Hold} (creates : ∀ world, rules.stake id world
      { world with payouts := world.payouts.insert hold.payout }) :
    (holdAndQueue now hold).Obeys rules id (fun _ => True) fun _ => False := by
  have queued (payout : Payout) : (enqueue "payout.enqueue" now
      (.payoutProcess payout.reference) >>= fun _ => pure payout :
        Db Payout).Obeys rules id (fun _ => True) fun _ => True :=
    Program.Obeys.bind
      ((enqueue_obeys ordinary _ rfl now _ fun _ => trivial).mono
      (fun _ _ => trivial) fun _ _ => trivial)
  have recorded :
    (Program.perform (payouts.create "payout.create" hold.payout)).Obeys rules
    id
      (fun _ => True) fun _ => True :=
    Program.Obeys.staked (by rw [ordinary.marked]; rfl) fun world _ _ _ =>
      ⟨creates world, trivial⟩
  unfold holdAndQueue
  apply Program.Obeys.bind
  apply (move_obeys ordinary spends now hold.debit).mono
  · intro _ _
    apply Program.Obeys.bind
    exact recorded.mono (fun payout _ => queued payout)
      fun payout _ => queued payout
  · exact fun _ impossible => impossible.elim

/-- The row of an initiation, which a refused push then marks as failed. -/
theorem createRow_obeys {Row : Type} {reference : Row → Reference}
    {relation : Relation reference} {row : Row} {fail : Row → Row}
    (keeps : ∀ row, reference (fail row) = reference row) {create mark : Site}
    (marked : createsRow create = true) (unmarked : createsRow mark = false)
    (accepted : Bool) (error : AppError)
    (creates : ∀ world, rules.stake id world
      (relation.put ((relation.table world).insert row) world))
    (fails : ∀ world wanted, rules.quiet world
      (relation.put ((relation.table world).modify wanted fail keeps) world)) :
    (Program.perform (relation.create create row) >>= fun created =>
      if accepted = true then pure created
      else Program.perform
        (relation.update mark (reference created) fail keeps) >>= fun _ =>
        .threw error).Obeys rules id (fun _ => True) fun _ => False := by
  have ending (created : Row) : (if accepted = true then pure created
      else Program.perform
        (relation.update mark (reference created) fail keeps) >>= fun _ =>
        .threw error : Db Row).Obeys rules id (fun _ => True)
          fun _ => True := by
    split
    · exact trivial
    · apply Program.Obeys.bind
      apply Program.Obeys.perform
      · rw [ordinary.marked]
        exact unmarked
      · exact fun world _ _ _ => ⟨fails world _, trivial⟩
  apply Program.Obeys.bind
  have recorded : (Program.perform (relation.create create row)).Obeys rules id
      (fun created => (if accepted = true then pure created
        else Program.perform
          (relation.update mark (reference created) fail keeps) >>= fun _ =>
          .threw error : Db Row).Obeys rules id (fun _ => True) fun _ => True)
            fun _ => False :=
    Program.Obeys.staked
      (by rw [ordinary.marked]; exact marked) fun world _ created _ =>
      ⟨creates world, ending created⟩
  exact recorded.mono (fun _ holds => holds) fun _ impossible => impossible.elim

end

/-! ## The services -/

theorem requestedReference_itemRows {now : Time} {randoms : ℕ → List Char}
    {accountId : AccountId} {sourceCode : String} {batchId : Reference}
    {items : List BatchItem} {rows : List Payout}
    (built : itemRows now randoms accountId sourceCode batchId items =
      .ok rows) :
    rows.map requestedReference = items.map fun item =>
      upperReference item.reference := by
  have rowByRow := itemRows_built built
  clear built
  induction rowByRow with
  | nil => rfl
  | cons first _ ih =>
      obtain ⟨_, rfl⟩ := first
      rw [List.map_cons, List.map_cons, ih]
      rfl

section

variable {start : World} {rules : Stakes Id World Site}
  (ordinary : Ordinary start rules)
variable {id : Id} (unused : Prop)
include ordinary

/-- The checks of a payout come to a row of the account with the client's
reference. -/
theorem preparePayout_obeys (now : Time) (random : List Char)
    (accountId : AccountId) (channel : PayoutChannel) (dto : PayoutDto)
    (checked : ∀ reference, nonEmpty dto.reference = some reference → ∀ world,
      rules.valid world →
        (world.payouts.rows.any fun row => row.accountId = accountId ∧
        row.clientReference = some (Text.toUpperCase reference)) = false →
          unused) (unchecked : nonEmpty dto.reference = none → unused) :
    (preparePayout now random accountId channel dto).Obeys rules id
      (fun _ => False)
      fun hold => unused ∧ hold.payout.accountId = accountId ∧
        requestedReference hold.payout = upperReference dto.reference := by
  apply (findAccount_obeys ordinary accountId).andThen
  intro account _
  split
  · exact trivial
  apply (rejectRepeated_obeys ordinary rfl _ _ _ checked unchecked).andThen
  intro _ isUnused
  apply (computeFee_obeys ordinary _ _ _).andThen
  exact fun _ _ => ⟨isUnused, rfl, rfl⟩

theorem prepareWithdrawal_obeys (now : Time) (random : List Char)
    (minPayout : MinPayout) (accountId : AccountId) (dto : WithdrawalDto)
    (actorId : Option String) :
    (prepareWithdrawal now random minPayout accountId dto actorId).Obeys rules
      id (fun _ => False) fun hold => hold.payout.accountId = accountId ∧
        requestedReference hold.payout = upperReference dto.reference := by
  apply (findAccount_obeys ordinary accountId).andThen
  intro account found
  apply (findSettlement_obeys ordinary _ _).andThen
  intro settlement _
  cases settlement with
  | none => exact trivial
  | some settlement =>
      dsimp only
      split
      · exact trivial
      apply (computeFee_obeys ordinary _ _ _).andThen
      intro fee _
      split
      · exact trivial
      split
      · exact trivial
      · exact ⟨found, rfl⟩

omit ordinary in
/-- The rows of a batch, when they commit. -/
theorem createBatchRows_commits {accountId : AccountId} {dto : CreateBatchDto}
    (adds : ∀ world batches rows, (∀ row ∈ rows, row.accountId = accountId) →
      rows.map requestedReference = dto.items.map (fun item => upperReference item.reference) →
      rules.stake id world { world with batches, payouts := world.payouts.insertAll rows })
    (now : Time) (randoms : ℕ → List Char) (sourceCode : String) (reference : Reference) :
    (createBatchRows now randoms accountId sourceCode dto reference).Commits rules id
      (fun _ => True) fun state => state := by
  simp only [createBatchRows, Body.bind_perform]
  refine ⟨fun met _ created _ => ?_, fun _ => trivial⟩
  dsimp only
  split
  · exact trivial
  rename_i rows built
  refine ⟨fun _ _ _ _ => ⟨fun later _ => ?_, trivial⟩, fun _ => trivial⟩
  apply adds later _ rows _ (requestedReference_itemRows built)
  intro row member
  obtain ⟨item, _, _, rfl⟩ := (itemRows_ok built).1 row member
  rfl

theorem createBatch_obeys {accountId : AccountId} {dto : CreateBatchDto}
    (spends : ∀ world wallets ledger, rules.stake id world { world with wallets, ledger })
    (adds : ∀ world batches rows, (∀ row ∈ rows, row.accountId = accountId) →
      rows.map requestedReference = dto.items.map (fun item => upperReference item.reference) →
      rules.stake id world { world with batches, payouts := world.payouts.insertAll rows })
    (now : Time) (random : List Char) (randoms : ℕ → List Char) :
    (createBatch now random randoms accountId dto).Obeys rules id (fun _ => True)
      fun _ => False := by
  apply (findAccount_obeys ordinary accountId).andThen
  intro account _
  split
  · exact trivial
  split
  · exact trivial
  rename_i reference _
  apply Program.Obeys.bind
  apply (move_obeys ordinary spends now _).mono
  · intro _ _
    refine ⟨(createBatchRows_commits adds now randoms _ _).mono fun batch _ =>
      ?_, fun _ => trivial⟩
    apply (reading_obeys ordinary (fun _ => True) rfl (fun _ => rfl)
      fun _ _ _ _ _ => trivial).andThen
    intro items _
    apply Program.Obeys.bind
    exact (enqueue_obeys ordinary _ rfl now _ fun _ => trivial).mono
      (fun _ _ => trivial) fun _ _ => trivial
  · exact fun _ impossible => impossible.elim

theorem initiateCollection_obeys {now : Time} {accountId : AccountId} {dto : UssdPushInitiate}
    {result : ProviderResult ProviderRecord}
    (creates : unused → ∀ world row, row.accountId = accountId →
      row.clientReference = upperReference dto.reference →
      rules.stake id world { world with collections := world.collections.insert row })
    (fails : ∀ world wanted, rules.quiet world
      { world with
        collections := world.collections.modify wanted (failedCollection now result.error)
          (failedCollection_reference now result.error) })
    (checked : ∀ reference, nonEmpty dto.reference = some reference → ∀ world,
      rules.valid world → (world.collections.rows.any fun row => row.accountId = accountId ∧
        row.clientReference = some (Text.toUpperCase reference)) = false → unused)
    (unchecked : nonEmpty dto.reference = none → unused) (random again : List Char) :
    (initiateCollection now random again accountId dto fun _ => result).Obeys rules id
      (fun _ => True) fun _ => False := by
  apply (findAccount_obeys ordinary accountId).andThen
  intro account _
  split
  · exact trivial
  apply (rejectRepeated_obeys ordinary rfl _ _ _ checked unchecked).andThen
  intro _ isUnused
  split
  · exact trivial
  dsimp only
  unfold createCollection
  split
  · exact trivial
  · exact createRow_obeys ordinary (failedCollection_reference now result.error)
      rfl rfl _ _ (fun world => creates isUnused world _ rfl rfl) fails

theorem initiateDeposit_obeys {now : Time} {accountId : AccountId}
    {dto : UssdPushInitiate} {result : ProviderResult ProviderRecord}
    (creates : unused → ∀ world row, row.accountId = accountId →
      row.clientReference = upperReference dto.reference →
      rules.stake id world { world with deposits := world.deposits.insert row })
    (fails : ∀ world wanted, rules.quiet world
      { world with
        deposits :=
          world.deposits.modify wanted (failedDeposit now result.error)
          (failedDeposit_reference now result.error) })
    (checked : ∀ reference, nonEmpty dto.reference = some reference → ∀ world,
      rules.valid world →
        (world.deposits.rows.any fun row => row.accountId = accountId ∧
        row.clientReference = some (Text.toUpperCase reference)) = false →
          unused) (unchecked : nonEmpty dto.reference = none → unused)
    (random : List Char) :
    (initiateDeposit now random accountId dto fun _ => result).Obeys rules id
      (fun _ => True) fun _ => False := by
  apply (findAccount_obeys ordinary accountId).andThen
  intro account _
  apply (reading_obeys ordinary (fun _ => True) rfl (fun _ => rfl)
    fun _ _ _ _ _ => trivial).andThen
  intro wallet _
  cases wallet with
  | none => exact trivial
  | some wallet =>
      dsimp only
      split
      · exact trivial
      apply (rejectRepeated_obeys ordinary rfl _ _ _ checked unchecked).andThen
      intro _ isUnused
      unfold createDeposit
      split
      · exact trivial
      · exact createRow_obeys ordinary
          (failedDeposit_reference now result.error) rfl rfl _ _
          (fun world => creates isUnused world _ rfl rfl) fails

omit ordinary in
/-- A transfer writes wallets and ledger and creates its row, when it
commits. -/
theorem transferTransaction_commits {plan : TransferPlan}
    (adds : ∀ world wallets ledger, rules.stake id world
      { world with
        wallets, ledger
        transfers := world.transfers.insert plan.transfer }) (now : Time) :
    (transferTransaction now plan).Commits rules id (fun _ => True)
      fun state => state := by
  simp only [transferTransaction, Body.bind_perform]
  refine ⟨fun _ _ src _ => ?_, fun _ => trivial⟩
  cases src with
  | none => exact trivial
  | some src =>
      dsimp only
      split
      · exact trivial
      split
      · exact trivial
      refine ⟨fun met _ count _ => ?_, fun _ => trivial⟩
      dsimp only
      split
      · exact trivial
      refine ⟨fun _ _ _ _ => ?_, fun _ => trivial⟩
      simp only [transferCredit, Body.bind_perform]
      refine ⟨fun _ _ dst _ => ?_, fun _ => trivial⟩
      cases dst with
      | none => exact trivial
      | some dst =>
          dsimp only
          split
          · exact trivial
          refine ⟨fun _ _ _ _ =>
            ⟨fun _ _ _ _ => ⟨fun _ _ _ _ => ⟨fun later _ => ?_, trivial⟩,
            fun _ => trivial⟩, fun _ => trivial⟩, fun _ => trivial⟩
          obtain ⟨wallets, same⟩ :=
            decrementBalance_effect "transfer.debit" plan.source.key
            plan.totalDebit met later
          simp only [restingOn, createLedgerRow, select, Relation.findUnique,
            same]
          exact adds later _ _

theorem transfer_obeys {now : Time} {reference : Reference} {accountId : String}
    {dto : TransferInput} {actorId : Option String}
    (adds : unused → ∀ world wallets ledger row, start.resolve accountId = some row.accountId →
      row.clientReference = upperReference dto.reference →
      rules.stake id world { world with wallets, ledger, transfers := world.transfers.insert row })
    (checked : ∀ owner, start.resolve accountId = some owner → ∀ reference,
      nonEmpty dto.reference = some reference → ∀ world, rules.valid world →
      (world.transfers.rows.find? fun transfer => transfer.accountId = owner ∧
        transfer.clientReference = some (Text.toUpperCase reference)) = none → unused)
    (unchecked : nonEmpty dto.reference = none → unused) :
    (transferCollectionToDisbursement now reference accountId dto actorId).Obeys rules id
      (fun _ => True) fun _ => False := by
  have transferring (owner : AccountId) (source target : Wallet)
      (resolved : start.resolve accountId = some owner) (isUnused : unused) :
      (transferAmount now reference owner source target dto actorId).Obeys rules
        id (fun _ => True) fun _ => False := by
    unfold transferAmount
    split
    · exact trivial
    · exact trivial
    split
    · exact trivial
    apply (computeTransferFee_obeys ordinary _ _).andThen
    intro fee _
    refine ⟨transferTransaction_commits (fun world wallets ledger => ?_) now, fun _ => trivial⟩
    exact adds isUnused world wallets ledger _ resolved rfl
  apply (resolveAccountId_obeys ordinary accountId).andThen
  intro resolved same
  cases resolved with
  | none => exact trivial
  | some owner =>
      dsimp only
      apply (getWallet_obeys ordinary _ _).andThen
      intro source _
      apply (getWallet_obeys ordinary _ _).andThen
      intro target _
      split
      · exact trivial
      split
      · exact trivial
      split
      next absent => exact transferring owner source target same.symm (unchecked absent)
      next clientReference given =>
        apply (reading_obeys ordinary (fun dupe => dupe = none → unused)
          rfl (fun _ => rfl)
          ?_).andThen
        · intro dupe isUnused
          cases dupe with
          | some row => exact trivial
          | none =>
              exact transferring owner source target same.symm (isUnused rfl)
        · intro world valid _ dupe answered absent
          cases answered
          exact checked owner same.symm clientReference given world valid absent

end

end CloudStudio.Payouts
