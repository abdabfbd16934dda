import CloudStudio.Payments.NetEffect

/-!
# The history of a stored status

Provider records are applied one after another to one collection, deposit or
payout. Every record that can be written stores the status it maps to, whatever
was stored before; a notice goes out just when the status before was not final.
So the history of the stored status is the list of the statuses read, and both
results below are about that list: when a finished transaction is never opened
again, and when the notices are the changes.
-/

namespace CloudStudio.Payments

open CloudStudio.Data CloudStudio.Transactions CloudStudio.Platform
open CloudStudio.Wallets

/-- The three engines. -/
inductive Engine where
  | collection
  | deposit
  | payout
  deriving DecidableEq

def applyUpdate : Engine → Time → Reference → ProviderRecord → Db Applied
  | .collection => applyCollectionUpdate
  | .deposit => applyDepositUpdate
  | .payout => applyPayoutUpdate

/-- The columns of an engine's row take what the record has for them. -/
def FitsColumns : Engine → ProviderRecord → Prop
  | .collection | .deposit => ProviderRecord.FitsPayment
  | .payout => ProviderRecord.FitsPayout

instance (engine : Engine) (record : ProviderRecord) :
    Decidable (FitsColumns engine record) :=
  match engine with
  | .collection | .deposit => inferInstanceAs (Decidable record.FitsPayment)
  | .payout => inferInstanceAs (Decidable record.FitsPayout)

/-- The event an update is dispatched as, outside a batch. -/
def statusEvent : Engine → WebhookEvent
  | .collection => .collectionStatus
  | .deposit => .depositStatus
  | .payout => .disbursementStatus

/-- What both results read of a row. -/
structure Entry where
  accountId : AccountId
  status : TxStatus
  batchId : Option Reference
  deriving DecidableEq

def collectionEntry (row : Collection) : Entry :=
  ⟨row.accountId, row.status, none⟩

def depositEntry (row : Deposit) : Entry := ⟨row.accountId, row.status, none⟩

def payoutEntry (row : Payout) : Entry :=
  ⟨row.accountId, row.status, row.batchId⟩

def entryOf (engine : Engine) (reference : Reference) (world : World) :
    Option Entry :=
  match engine with
  | .collection => (world.collections.find? reference).map collectionEntry
  | .deposit => (world.deposits.find? reference).map depositEntry
  | .payout => (world.payouts.find? reference).map payoutEntry

/-- The status an update stores for the record; it stores none for a record it
cannot write. -/
def readStatus (engine : Engine) (report : Report) : Option TxStatus :=
  if FitsColumns engine report.record then report.record.nextStatus? else none

instance (nextStatus : TxStatus) (walletCreditedAt : Option Time) :
    Decidable (CreditDue nextStatus walletCreditedAt) :=
  inferInstanceAs (Decidable (_ ∧ _))

instance (nextStatus : TxStatus) (payout : Payout) :
    Decidable (RefundDue nextStatus payout) :=
  inferInstanceAs (Decidable (_ ∧ _))

/-- The wallet movement that is due with this record. -/
def dueMovement (engine : Engine) (reference : Reference) (world : World)
    (report : Report) : Option MoveInput :=
  match engine with
  | .collection => do
      let row ← world.collections.find? reference
      let nextStatus ← report.record.nextStatus?
      match feeBasis report.record row with
      | .value basis =>
          let fee := (world.configOf row.accountId).fee .collection basis
          if CreditDue nextStatus row.walletCreditedAt then
            some (creditOf report.now report.record nextStatus fee row)
          else none
      | .nonFinite | .malformed => none
  | .deposit => do
      let row ← world.deposits.find? reference
      let nextStatus ← report.record.nextStatus?
      if CreditDue nextStatus row.walletCreditedAt then
        some (depositCreditOf report.now report.record nextStatus row)
      else none
  | .payout => do
      let row ← world.payouts.find? reference
      let nextStatus ← report.record.nextStatus?
      if RefundDue nextStatus row then some (payoutRefund row) else none

/-- A movement is due and the wallet refuses it. -/
def MovementRefused (engine : Engine) (reference : Reference) (world : World)
    (report : Report) : Prop :=
  ∃ input, dueMovement engine reference world report = some input ∧
    ∀ wallet amount, ¬ MoveAllowed input world wallet amount

/-- The state an update leaves; one that throws leaves what it has written. -/
def afterUpdate (engine : Engine) (reference : Reference) (world : World)
    (report : Report) : World :=
  ((applyUpdate engine report.now reference report.record).run world).2

/-- The notice of an update of this row. -/
def statusNotice (engine : Engine) (reference : Reference) (entry : Entry)
    (nextStatus : TxStatus) : Dispatched :=
  ⟨statusEvent engine, entry.accountId, reference, .transaction nextStatus⟩

/-- What a record does to a row: it is left as it is, written and announced as
its old status says, or written with its movement refused before anything is
announced. -/
inductive Stepped (engine : Engine) (reference : Reference) (world : World)
    (report : Report) (entry : Entry) (after : World) : Prop where
  | kept :
      (∀ nextStatus, readStatus engine report = some nextStatus →
        entry.status ∈ FINAL_STATUSES ∧ entry.status = nextStatus) →
      entryOf engine reference after = some entry →
      after.dispatched = world.dispatched →
      Stepped engine reference world report entry after
  | announced (nextStatus : TxStatus) :
      readStatus engine report = some nextStatus →
      ¬ (entry.status ∈ FINAL_STATUSES ∧ entry.status = nextStatus) →
      ¬ MovementRefused engine reference world report →
      entryOf engine reference after = some { entry with status :=
        nextStatus } →
      (entry.batchId = none → after.dispatched = world.dispatched ++
        noticesOf entry.status
          (statusNotice engine reference entry nextStatus)) →
      Stepped engine reference world report entry after
  | silent (nextStatus : TxStatus) :
      readStatus engine report = some nextStatus →
      ¬ (entry.status ∈ FINAL_STATUSES ∧ entry.status = nextStatus) →
      MovementRefused engine reference world report →
      entryOf engine reference after = some { entry with status :=
        nextStatus } →
      after.dispatched = world.dispatched →
      Stepped engine reference world report entry after

theorem readStatus_of_fits (engine : Engine) (report : Report)
    (fits : FitsColumns engine report.record) :
    readStatus engine report = report.record.nextStatus? := if_pos fits

theorem readStatus_of_unfit (engine : Engine) (report : Report)
    (unfit : ¬ FitsColumns engine report.record) :
    readStatus engine report = none :=
  if_neg unfit

theorem readStatus_eq_some {engine : Engine} {report : Report}
    {nextStatus : TxStatus}
    (read : readStatus engine report = some nextStatus) :
    report.record.nextStatus? = some nextStatus := by
  unfold readStatus at read
  split at read
  · exact read
  · cases read

theorem entryOf_noticed {notices : List Dispatched} {before after : World}
    (noticed : Noticed notices before after) (engine : Engine)
    (reference : Reference) :
    entryOf engine reference after = entryOf engine reference before := by
  obtain ⟨deliveries, jobs, rfl⟩ := noticed
  cases engine <;> rfl

theorem dispatched_noticed {notices : List Dispatched} {before after : World}
    (noticed : Noticed notices before after) :
    after.dispatched = before.dispatched ++ notices := by
  obtain ⟨deliveries, jobs, rfl⟩ := noticed
  rfl

theorem dispatched_withConfig (world : World) (accountId : AccountId) :
    (world.withConfig accountId).dispatched = world.dispatched := by
  unfold World.withConfig
  split <;> rfl

/-- A row whose status is kept. -/
theorem Stepped.unread {engine : Engine} {reference : Reference}
    {world after : World} {report : Report} {entry : Entry}
    (unread : readStatus engine report = none)
    (found : entryOf engine reference after = some entry)
    (quiet : after.dispatched = world.dispatched) :
    Stepped engine reference world report entry after := by
  apply Stepped.kept
  · intro nextStatus read
    rw [unread] at read
    cases read
  · exact found
  · exact quiet

/-- A record that tells a finished row the status it has. -/
theorem Stepped.unchanged {engine : Engine} {reference : Reference}
    {world : World} {report : Report} {entry : Entry} {nextStatus : TxStatus}
    (mapped : report.record.nextStatus? = some nextStatus)
    (final : entry.status ∈ FINAL_STATUSES) (same : entry.status = nextStatus)
    (found : entryOf engine reference world = some entry) :
    Stepped engine reference world report entry world := by
  apply Stepped.kept
  · intro status read
    rw [readStatus_eq_some read] at mapped
    cases mapped
    exact ⟨final, same⟩
  · exact found
  · rfl

/-- No movement is due, so none is refused. -/
theorem not_refused_of_none {engine : Engine} {reference : Reference}
    {world : World} {report : Report}
    (none_due : dueMovement engine reference world report = none) :
    ¬ MovementRefused engine reference world report := by
  rintro ⟨input, due, -⟩
  rw [none_due] at due
  cases due

/-- The movement that is due is allowed. -/
theorem not_refused_of_allowed {engine : Engine} {reference : Reference}
    {world : World} {report : Report} {input : MoveInput} {wallet : Wallet}
    {amount : Decimal}
    (due : dueMovement engine reference world report = some input)
    (allowed : MoveAllowed input world wallet amount) :
    ¬ MovementRefused engine reference world report := by
  rintro ⟨other, due', refused⟩
  rw [due] at due'
  cases due'
  exact refused wallet amount allowed

theorem dueMovement_collection {reference : Reference} {world : World}
    {report : Report} {row : Collection} {nextStatus : TxStatus}
    {basis : Decimal} (found : world.collections.find? reference = some row)
    (mapped : report.record.nextStatus? = some nextStatus)
    (basis_eq : feeBasis report.record row = .value basis) :
    dueMovement .collection reference world report =
      if CreditDue nextStatus row.walletCreditedAt then
        some (creditOf report.now report.record nextStatus
          ((world.configOf row.accountId).fee .collection basis) row)
      else none := by
  simp only [dueMovement, found, mapped, basis_eq, Option.bind_eq_bind,
    Option.bind_some]

theorem entryOf_withCollection (now : Time) (record : ProviderRecord)
    (nextStatus : TxStatus) (fee : Option ComputedFee) {row : Collection}
    {world : World} (found : world.collections.find? row.reference = some row) :
    entryOf .collection row.reference
      (withCollection now record nextStatus fee row world) =
      some { collectionEntry row with status := nextStatus } := by
  simp only [entryOf, withCollection, Table.find?_modify_self, found]
  rfl

/-- The fee configuration of the account may be created first. -/
theorem entryOf_withCollection_configured (now : Time) (record : ProviderRecord)
    (nextStatus : TxStatus) (fee : Option ComputedFee) {row : Collection}
    {world : World} (found : world.collections.find? row.reference = some row) :
    entryOf .collection row.reference
        (withCollection now record nextStatus fee row
          (world.withConfig row.accountId)) =
      some { collectionEntry row with status := nextStatus } := by
  apply entryOf_withCollection
  rw [(withConfig_rest world row.accountId).2.2]
  exact found

theorem collection_stepped {reference : Reference} {world : World}
    {row : Collection} (found : world.collections.find? reference = some row)
    (report : Report) :
    Stepped .collection reference world report (collectionEntry row)
      (afterUpdate .collection reference world report) := by
  have key : row.reference = reference := Table.key_of_find? found
  have entry : entryOf .collection reference world =
    some (collectionEntry row) :=
    congrArg (Option.map collectionEntry) found
  obtain ⟨result, runs⟩ : ∃ result,
    CollectionRun report.now reference report.record world
      result (afterUpdate .collection reference world report) :=
    ⟨_, run_applyCollectionUpdate report.now reference report.record world⟩
  generalize afterUpdate .collection reference world report = after at runs
  cases runs with
  | unknown missing =>
      rw [found] at missing
      cases missing
  | unreadable row' found' unreadable =>
      exact .unread (by simp [readStatus, unreadable]) entry rfl
  | unchanged row' nextStatus found' mapped final same =>
      rw [found] at found'
      cases found'
      exact .unchanged mapped final same entry
  | refused row' nextStatus left found' mapped changes unfit left_eq =>
      apply Stepped.unread (readStatus_of_unfit .collection report unfit)
      · rcases left_eq with rfl | rfl
        · exact entry
        · rw [← entry]
          exact congrArg
            (fun table => (table.find? reference).map collectionEntry)
            (withConfig_rest world row'.accountId).2.2
      · rcases left_eq with rfl | rfl
        · rfl
        · exact dispatched_withConfig world row'.accountId
  | written row' nextStatus after found' mapped changes fits undue noticed =>
      rw [found] at found'
      cases found'
      obtain ⟨basis, basis_eq⟩ := feeBasis_of_fits fits row
      have read := (readStatus_of_fits .collection report fits).trans mapped
      apply Stepped.announced nextStatus read changes
      · apply not_refused_of_none
        rw [dueMovement_collection found mapped basis_eq, if_neg undue]
      · rw [entryOf_noticed noticed, ← key]
        exact entryOf_withCollection report.now report.record nextStatus
          none (key ▸ found)
      · intro _
        rw [dispatched_noticed noticed, ← key]
        rfl
  | credited row' nextStatus basis fee wallet amount after found' mapped
      changes fits due basis_eq fee_eq allowed noticed =>
      rw [found] at found'
      cases found'
      have read := (readStatus_of_fits .collection report fits).trans mapped
      apply Stepped.announced nextStatus read changes
      · refine not_refused_of_allowed ?_ allowed
        rw [dueMovement_collection found mapped basis_eq, if_pos due, ← fee_eq]
      · rw [entryOf_noticed noticed, ← key]
        exact entryOf_withCollection_configured report.now report.record
          nextStatus (some fee) (key ▸ found)
      · intro _
        rw [dispatched_noticed noticed, ← key, ← dispatched_withConfig
          world row.accountId]
        rfl
  | uncredited row' nextStatus basis fee error found' mapped changes fits due
      basis_eq fee_eq refused =>
      rw [found] at found'
      cases found'
      have read := (readStatus_of_fits .collection report fits).trans mapped
      apply Stepped.silent nextStatus read changes
      · refine ⟨_, ?_, refused⟩
        rw [dueMovement_collection found mapped basis_eq, if_pos due, ← fee_eq]
      · rw [← key]
        exact entryOf_withCollection_configured report.now report.record
          nextStatus (some fee) (key ▸ found)
      · exact dispatched_withConfig world row.accountId

theorem dueMovement_deposit {reference : Reference} {world : World}
    {report : Report} {row : Deposit} {nextStatus : TxStatus}
    (found : world.deposits.find? reference = some row)
    (mapped : report.record.nextStatus? = some nextStatus) :
    dueMovement .deposit reference world report =
      if CreditDue nextStatus row.walletCreditedAt then
        some (depositCreditOf report.now report.record nextStatus row)
      else none := by
  simp only [dueMovement, found, mapped, Option.bind_eq_bind, Option.bind_some]

theorem entryOf_withDeposit (now : Time) (record : ProviderRecord)
    (nextStatus : TxStatus) (shouldCredit : Bool) {row : Deposit}
    {world : World} (found : world.deposits.find? row.reference = some row) :
    entryOf .deposit row.reference
        (withDeposit now record nextStatus shouldCredit row world) =
      some { depositEntry row with status := nextStatus } := by
  simp only [entryOf, withDeposit, Table.find?_modify_self, found]
  rfl

theorem deposit_stepped {reference : Reference} {world : World} {row : Deposit}
    (found : world.deposits.find? reference = some row) (report : Report) :
    Stepped .deposit reference world report (depositEntry row)
      (afterUpdate .deposit reference world report) := by
  have key : row.reference = reference := Table.key_of_find? found
  have entry : entryOf .deposit reference world = some (depositEntry row) :=
    congrArg (Option.map depositEntry) found
  obtain ⟨result, runs⟩ : ∃ result,
    DepositRun report.now reference report.record world
      result (afterUpdate .deposit reference world report) :=
    ⟨_, run_applyDepositUpdate report.now reference report.record world⟩
  generalize afterUpdate .deposit reference world report = after at runs
  cases runs with
  | unknown missing =>
      rw [found] at missing
      cases missing
  | unreadable row' found' unreadable =>
      exact .unread (by simp [readStatus, unreadable]) entry rfl
  | unchanged row' nextStatus found' mapped final same =>
      rw [found] at found'
      cases found'
      exact .unchanged mapped final same entry
  | refused row' nextStatus found' mapped changes unfit =>
      exact .unread (readStatus_of_unfit .deposit report unfit) entry rfl
  | written row' nextStatus after found' mapped changes fits undue noticed =>
      rw [found] at found'
      cases found'
      have read := (readStatus_of_fits .deposit report fits).trans mapped
      apply Stepped.announced nextStatus read changes
      · apply not_refused_of_none
        rw [dueMovement_deposit found mapped, if_neg undue]
      · rw [entryOf_noticed noticed, ← key]
        exact entryOf_withDeposit report.now report.record nextStatus
          false (key ▸ found)
      · intro _
        rw [dispatched_noticed noticed, ← key]
        rfl
  | credited row' nextStatus wallet amount after found' mapped changes
      fits due allowed noticed =>
      rw [found] at found'
      cases found'
      have read := (readStatus_of_fits .deposit report fits).trans mapped
      apply Stepped.announced nextStatus read changes
      · refine not_refused_of_allowed ?_ allowed
        rw [dueMovement_deposit found mapped, if_pos due]
      · rw [entryOf_noticed noticed, ← key]
        exact entryOf_withDeposit report.now report.record nextStatus
          true (key ▸ found)
      · intro _
        rw [dispatched_noticed noticed, ← key]
        rfl
  | uncredited row' nextStatus error found' mapped changes fits due refused =>
      rw [found] at found'
      cases found'
      have read := (readStatus_of_fits .deposit report fits).trans mapped
      apply Stepped.silent nextStatus read changes
      · refine ⟨_, ?_, refused⟩
        rw [dueMovement_deposit found mapped, if_pos due]
      · rw [← key]
        exact entryOf_withDeposit report.now report.record nextStatus
          true (key ▸ found)
      · rfl

theorem dueMovement_payout {reference : Reference} {world : World}
    {report : Report} {row : Payout} {nextStatus : TxStatus}
    (found : world.payouts.find? reference = some row)
    (mapped : report.record.nextStatus? = some nextStatus) :
    dueMovement .payout reference world report =
      if RefundDue nextStatus row then some (payoutRefund row) else none := by
  simp only [dueMovement, found, mapped, Option.bind_eq_bind, Option.bind_some]

theorem entryOf_withPayout (now : Time) (record : ProviderRecord)
    (nextStatus : TxStatus) (shouldRefund : Bool) {row : Payout} {world : World}
    (found : world.payouts.find? row.reference = some row) :
    entryOf .payout row.reference
        (withPayout now record nextStatus shouldRefund row world) =
      some { payoutEntry row with status := nextStatus } := by
  simp only [entryOf, withPayout, Table.find?_modify_self, found]
  rfl

/-- What the write and the refund leave of the row and of the notices. -/
theorem Settled.entry {now : Time} {record : ProviderRecord}
    {nextStatus : TxStatus} {row : Payout} {world settled : World}
    (found : world.payouts.find? row.reference = some row)
    (settles : Settled now record nextStatus row world settled) :
    entryOf .payout row.reference settled =
        some { payoutEntry row with status := nextStatus } ∧
      settled.dispatched = world.dispatched := by
  cases settles with
  | kept => exact ⟨entryOf_withPayout now record nextStatus false found, rfl⟩
  | refunded => exact ⟨entryOf_withPayout now record nextStatus true found, rfl⟩

theorem entryOf_withRecount (now : Time) (batchId : Option Reference)
    (engine : Engine) (reference : Reference) (world : World) :
    entryOf engine reference (withRecount now batchId world) =
      entryOf engine reference world := by
  unfold withRecount
  split <;> cases engine <;> rfl

/-- A movement that is due has been made. -/
theorem Settled.paid {reference : Reference} {report : Report}
    {nextStatus : TxStatus} {row : Payout} {world settled : World}
    (found : world.payouts.find? reference = some row)
    (mapped : report.record.nextStatus? = some nextStatus)
    (settles : Settled report.now report.record nextStatus row world settled) :
    ¬ MovementRefused .payout reference world report := by
  cases settles with
  | kept undue =>
      apply not_refused_of_none
      rw [dueMovement_payout found mapped, if_neg undue]
  | refunded wallet amount due allowed =>
      refine not_refused_of_allowed ?_ allowed
      rw [dueMovement_payout found mapped, if_pos due]

theorem payout_stepped {reference : Reference} {world : World} {row : Payout}
    (found : world.payouts.find? reference = some row) (report : Report) :
    Stepped .payout reference world report (payoutEntry row)
      (afterUpdate .payout reference world report) := by
  have key : row.reference = reference := Table.key_of_find? found
  have entry : entryOf .payout reference world = some (payoutEntry row) :=
    congrArg (Option.map payoutEntry) found
  obtain ⟨result, runs⟩ : ∃ result,
    PayoutRun report.now reference report.record world
      result (afterUpdate .payout reference world report) :=
    ⟨_, run_applyPayoutUpdate report.now reference report.record world⟩
  generalize afterUpdate .payout reference world report = after at runs
  cases runs with
  | unknown missing =>
      rw [found] at missing
      cases missing
  | unreadable row' found' unreadable =>
      exact .unread (by simp [readStatus, unreadable]) entry rfl
  | unchanged row' nextStatus found' mapped final same =>
      rw [found] at found'
      cases found'
      exact .unchanged mapped final same entry
  | refused row' nextStatus found' mapped changes unfit =>
      exact .unread (readStatus_of_unfit .payout report unfit) entry rfl
  | unrefunded row' nextStatus error found' mapped changes fits due refused =>
      rw [found] at found'
      cases found'
      have read := (readStatus_of_fits .payout report fits).trans mapped
      apply Stepped.silent nextStatus read changes
      · refine ⟨_, ?_, refused⟩
        rw [dueMovement_payout found mapped, if_pos due]
      · rw [← key]
        exact entryOf_withPayout report.now report.record nextStatus
          true (key ▸ found)
      · rfl
  | uncounted row' nextStatus settled after batchId found' mapped changes
      fits settles batch missing noticed =>
      rw [found] at found'
      cases found'
      have left := Settled.entry (key ▸ found) settles
      have read := (readStatus_of_fits .payout report fits).trans mapped
      apply Stepped.announced nextStatus read changes
      · exact Settled.paid found mapped settles
      · rw [entryOf_noticed noticed, ← key]
        exact left.1
      · intro single
        rw [show row.batchId = none from single] at batch
        cases batch
  | finished row' nextStatus settled after recounts found' mapped changes
      fits settles single noticed =>
      rw [found] at found'
      cases found'
      have left := Settled.entry (key ▸ found) settles
      have read := (readStatus_of_fits .payout report fits).trans mapped
      apply Stepped.announced nextStatus read changes
      · exact Settled.paid found mapped settles
      · rw [entryOf_noticed noticed, entryOf_withRecount, ← key]
        exact left.1
      · intro batchless
        have none_ : row.batchId = none := batchless
        rw [dispatched_noticed noticed, single none_, List.append_nil,
          none_, ← left.2, ← key]
        simp only [payoutNotice, none_]
        rfl

/-- Every record of every engine takes one of the three steps. -/
theorem stepped {engine : Engine} {reference : Reference} {world : World}
    {entry : Entry} (found : entryOf engine reference world = some entry)
    (report : Report) :
    Stepped engine reference world report entry
      (afterUpdate engine reference world report) := by
  cases engine with
  | collection =>
      obtain ⟨row, at_row, rfl⟩ := Option.map_eq_some_iff.mp found
      exact collection_stepped at_row report
  | deposit =>
      obtain ⟨row, at_row, rfl⟩ := Option.map_eq_some_iff.mp found
      exact deposit_stepped at_row report
  | payout =>
      obtain ⟨row, at_row, rfl⟩ := Option.map_eq_some_iff.mp found
      exact payout_stepped at_row report

/-- The row after a record: the status read, if one is read. -/
theorem Stepped.entry {engine : Engine} {reference : Reference}
    {world after : World} {report : Report} {entry : Entry}
    (stepped : Stepped engine reference world report entry after) :
    entryOf engine reference after =
      some { entry with status :=
        (readStatus engine report).getD entry.status } := by
  cases stepped with
  | kept same found quiet =>
      rw [found]
      cases read : readStatus engine report with
      | none => rfl
      | some nextStatus =>
          obtain ⟨_, rfl⟩ := same nextStatus read
          rfl
  | announced nextStatus read changes paid found notices =>
      rw [found, read]; rfl
  | silent nextStatus read changes refused found quiet => rw [found, read]; rfl

/-! ## Never opened again -/

def afterUpdates (engine : Engine) (reference : Reference)
    (reports : List Report) (world : World) : World :=
  reports.foldl (afterUpdate engine reference) world

def storedStatus (engine : Engine) (reference : Reference) (world : World) :
    Option TxStatus :=
  (entryOf engine reference world).map Entry.status

/-- The statuses a finished transaction should not have. -/
def UNFINISHED_STATUSES : List TxStatus := [.pending, .processing, .expired]

/-- Once a record has left a final status, no later one leaves an unfinished
one. -/
def NeverReopened (engine : Engine) (reference : Reference)
    (reports : List Report) (world : World) : Prop :=
  ∀ earlier later, earlier ++ later <+: reports →
    ∀ settled,
      storedStatus engine reference
        (afterUpdates engine reference earlier world) = some settled →
      settled ∈ FINAL_STATUSES →
      ∀ status,
        storedStatus engine reference
            (afterUpdates engine reference (earlier ++ later) world) =
              some status →
          status ∉ UNFINISHED_STATUSES

/-- A status may be followed by another, without being opened again. -/
def StaysFinished (earlier later : TxStatus) : Prop :=
  earlier ∈ FINAL_STATUSES → later ∉ UNFINISHED_STATUSES

instance (earlier later : TxStatus) : Decidable (StaysFinished earlier later) :=
  inferInstanceAs (Decidable (_ → _))

section

variable {engine : Engine} {reference : Reference}

/-- The row after a sequence of records has the status read last. -/
theorem entryOf_afterUpdates {world : World} {entry : Entry}
    (found : entryOf engine reference world = some entry)
    (reports : List Report) :
    entryOf engine reference (afterUpdates engine reference reports world) =
      some { entry with
        status :=
          (reports.filterMap (readStatus engine)).getLastD entry.status } := by
  induction reports generalizing world entry with
  | nil => exact found
  | cons report rest ih =>
      have next := ih (stepped found report).entry
      change entryOf engine reference
        (afterUpdates engine reference rest
          (afterUpdate engine reference world report)) = _
      rw [next]
      cases read : readStatus engine report with
      | none => rw [List.filterMap_cons_none read, Option.getD_none]
      | some nextStatus =>
          rw [List.filterMap_cons_some read, Option.getD_some,
            List.getLastD_cons]

theorem storedStatus_afterUpdates {world : World} {entry : Entry}
    (found : entryOf engine reference world = some entry)
    (reports : List Report) :
    storedStatus engine reference
      (afterUpdates engine reference reports world) =
      some ((reports.filterMap (readStatus engine)).getLastD entry.status) := by
  rw [storedStatus, entryOf_afterUpdates found]
  rfl

/-- A status may be followed by itself. -/
theorem staysFinished_self (status : TxStatus) :
    StaysFinished status status := by
  cases status <;> decide

/-- From one status on: every later record leaves a status that may follow
it. -/
theorem staysFinished_iff {world : World} {entry : Entry}
    (found : entryOf engine reference world = some entry)
    (reports : List Report) :
    (∀ later, later <+: reports → ∀ status,
        storedStatus engine reference
          (afterUpdates engine reference later world) =
          some status → StaysFinished entry.status status) ↔
      ∀ status ∈ reports.filterMap (readStatus engine),
        StaysFinished entry.status status := by
  constructor
  · intro stays status member
    obtain ⟨report, at_report, read⟩ := List.mem_filterMap.mp member
    obtain ⟨earlier, later, rfl⟩ := List.append_of_mem at_report
    apply stays (earlier ++ [report]) ⟨later, by simp⟩
    rw [storedStatus_afterUpdates found]
    simp [read]
  · intro stays later prior status stored
    rw [storedStatus_afterUpdates found, Option.some_inj] at stored
    cases read :
      later.filterMap (readStatus engine) using List.reverseRecOn with
    | nil =>
        rw [read] at stored
        rw [← stored]
        exact staysFinished_self entry.status
    | append_singleton before last =>
        rw [read] at stored
        have same : last = status := by simpa using stored
        apply stays
        apply (prior.filterMap (readStatus engine)).subset
        rw [read, same]
        exact List.mem_append_right before (List.mem_singleton_self status)

/-- The first record apart: what it may be followed by, and the rest after
it. -/
theorem neverReopened_cons {world : World} {entry : Entry}
    (found : entryOf engine reference world = some entry) (report : Report)
    (rest : List Report) :
    NeverReopened engine reference (report :: rest) world ↔
      (∀ status ∈ (report :: rest).filterMap (readStatus engine),
        StaysFinished entry.status status) ∧
      NeverReopened engine reference rest
        (afterUpdate engine reference world report) := by
  have now : storedStatus engine reference world = some entry.status :=
    congrArg (Option.map Entry.status) found
  rw [← staysFinished_iff found]
  constructor
  · intro never
    constructor
    · intro later prior status stored final
      exact never [] later prior entry.status now final status stored
    · intro earlier later prior
      exact never (report :: earlier) later
        (List.cons_prefix_cons.mpr ⟨rfl, prior⟩)
  · intro both earlier later prior
    cases earlier with
    | nil =>
        intro settled stored final status after
        rw [show storedStatus engine reference
          (afterUpdates engine reference [] world) =
          some entry.status from now, Option.some_inj] at stored
        rw [← stored] at final
        exact both.1 later prior status after final
    | cons first earlier =>
        obtain ⟨rfl, within⟩ := List.cons_prefix_cons.mp prior
        exact both.2 earlier later within

end

/-- A finished transaction is never opened again exactly when no record that
reads `PENDING`, `PROCESSING` or `EXPIRED` comes after a final status, stored or
read. -/
theorem never_reopened_iff (engine : Engine) (reference : Reference)
    (world : World) (entry : Entry)
    (found : entryOf engine reference world = some entry)
    (reports : List Report) :
    NeverReopened engine reference reports world ↔
      (entry.status :: reports.filterMap (readStatus engine)).Pairwise
        StaysFinished := by
  induction reports generalizing world entry with
  | nil =>
      constructor
      · intro _
        exact List.pairwise_singleton StaysFinished entry.status
      · intro _ earlier later prior settled stored final status after
        obtain ⟨rfl, rfl⟩ :=
          List.append_eq_nil_iff.mp (List.prefix_nil.mp prior)
        rw [show [] ++ [] = ([] : List Report) from rfl, stored,
          Option.some_inj] at after
        rw [← after]
        exact staysFinished_self settled final
  | cons report rest ih =>
      rw [neverReopened_cons found, ih _ _ (stepped found report).entry]
      cases read : readStatus engine report with
      | none =>
          rw [List.filterMap_cons_none read, Option.getD_none,
            List.pairwise_cons]
          exact and_self_left
      | some nextStatus =>
          rw [List.filterMap_cons_some read, Option.getD_some]
          exact List.pairwise_cons.symm

theorem never_reopened_iff_failed :
    NeverReopened .collection "AAAAA000000000000001" [reading "FAILED",
      reading "SUCCESS"]
        pendingWorld ↔
      (TxStatus.pending :: [reading "FAILED", reading "SUCCESS"].filterMap
        (readStatus .collection)).Pairwise StaysFinished :=
  never_reopened_iff .collection "AAAAA000000000000001" pendingWorld
    ⟨"a", .pending, none⟩ (by decide +kernel) _

/-- A failed collection is polled again after a late record. -/
theorem reopened_collection :
    ¬ NeverReopened .collection "AAAAA000000000000001"
      [reading "FAILED", reading "PROCESSING"] pendingWorld := by
  intro never
  apply never [reading "FAILED"] [reading "PROCESSING"] (List.prefix_refl _)
    .failed (by decide +kernel) (by decide) .processing (by decide +kernel)
  decide

/-! ## Notices and changes -/

/-- The status events of one row dispatched to its account so far. -/
def statusEvents (engine : Engine) (reference : Reference)
    (accountId : AccountId) (world : World) : ℕ :=
  world.dispatched.countP fun notice =>
    notice.event = statusEvent engine ∧ notice.accountId = accountId ∧
      notice.reference = reference

/-- How often a sequence of records changes the stored status. -/
def statusChanges (engine : Engine) (reference : Reference) :
    List Report → World → ℕ
  | [], _ => 0
  | report :: rest, world =>
      let after := afterUpdate engine reference world report
      let changed : ℕ :=
        if storedStatus engine reference after =
          storedStatus engine reference world then 0
        else 1
      changed + statusChanges engine reference rest after

/-- A record that changes the stored status dispatches one event, any other
none. -/
def AnnouncesChange (engine : Engine) (reference : Reference)
    (accountId : AccountId) (world : World) (report : Report) : Prop :=
  let after := afterUpdate engine reference world report
  statusEvents engine reference accountId after =
    statusEvents engine reference accountId world +
      if storedStatus engine reference after =
        storedStatus engine reference world then 0
      else 1

/-- Along a sequence of records, the events are the changes. -/
structure EventsAreChanges (engine : Engine) (reference : Reference)
    (accountId : AccountId) (reports : List Report) (world : World) : Prop where
  counted : ∀ applied, applied <+: reports →
    statusEvents engine reference accountId
      (afterUpdates engine reference applied world) =
      statusEvents engine reference accountId world +
        statusChanges engine reference applied world
  each : ∀ earlier report, earlier ++ [report] <+: reports →
    AnnouncesChange engine reference accountId
      (afterUpdates engine reference earlier world) report

/-- The record is written only over a status that is not final and differs from
the one read, and its movement is made. -/
def ChangesCleanly (engine : Engine) (reference : Reference) (world : World)
    (report : Report) : Prop :=
  ∀ entry nextStatus, entryOf engine reference world = some entry →
    readStatus engine report = some nextStatus →
    (nextStatus = entry.status ↔ entry.status ∈ FINAL_STATUSES) ∧
      (nextStatus ≠ entry.status →
        ¬ MovementRefused engine reference world report)

section

variable {engine : Engine} {reference : Reference}

/-- The events a notice list adds for a row that had this status. -/
theorem statusEvents_noticesOf {world after : World} {entry : Entry}
    {nextStatus : TxStatus}
    (notices : after.dispatched = world.dispatched ++
      noticesOf entry.status (statusNotice engine reference entry nextStatus)) :
    statusEvents engine reference entry.accountId after =
      statusEvents engine reference entry.accountId world +
        if entry.status ∈ FINAL_STATUSES then 0 else 1 := by
  unfold statusEvents
  rw [notices, List.countP_append]
  by_cases final : entry.status ∈ FINAL_STATUSES
  · simp [noticesOf, final]
  · simp [noticesOf, final, statusNotice]

theorem statusEvents_quiet {world after : World} (accountId : AccountId)
    (quiet : after.dispatched = world.dispatched) :
    statusEvents engine reference accountId after =
      statusEvents engine reference accountId world := by
  rw [statusEvents, quiet]
  rfl

/-- A movement is due only with a final status. -/
theorem final_of_due {world : World} {report : Report} {input : MoveInput}
    {nextStatus : TxStatus}
    (due : dueMovement engine reference world report = some input)
    (mapped : report.record.nextStatus? = some nextStatus) :
    nextStatus ∈ FINAL_STATUSES := by
  cases engine with
  | collection =>
      obtain ⟨row, found, due⟩ := Option.bind_eq_some_iff.mp due
      rw [mapped, Option.bind_eq_bind, Option.bind_some] at due
      split at due
      · obtain ⟨isDue, _⟩ := Option.ite_none_right_eq_some.mp due
        rw [isDue.1]
        decide
      · cases due
      · cases due
  | deposit =>
      obtain ⟨row, found, due⟩ := Option.bind_eq_some_iff.mp due
      rw [mapped, Option.bind_eq_bind, Option.bind_some] at due
      obtain ⟨isDue, _⟩ := Option.ite_none_right_eq_some.mp due
      rw [isDue.1]
      decide
  | payout =>
      obtain ⟨row, found, due⟩ := Option.bind_eq_some_iff.mp due
      rw [mapped, Option.bind_eq_bind, Option.bind_some] at due
      obtain ⟨isDue, _⟩ := Option.ite_none_right_eq_some.mp due
      exact List.mem_cons_of_mem _ isDue.1

/-- One record dispatches what it changes exactly when it changes cleanly. -/
theorem announcesChange_iff {world : World} {entry : Entry}
    (found : entryOf engine reference world = some entry)
    (single : entry.batchId = none) (report : Report) :
    AnnouncesChange engine reference entry.accountId world report ↔
      ChangesCleanly engine reference world report := by
  have step := stepped found report
  have before : storedStatus engine reference world = some entry.status :=
    congrArg (Option.map Entry.status) found
  have after :
    storedStatus engine reference (afterUpdate engine reference world report) =
      some ((readStatus engine report).getD entry.status) :=
    congrArg (Option.map Entry.status) step.entry
  unfold AnnouncesChange ChangesCleanly
  simp only [before, after, found, Option.some.injEq]
  cases step with
  | kept same found' quiet =>
      rw [statusEvents_quiet entry.accountId quiet]
      cases read : readStatus engine report with
      | none => simp
      | some nextStatus =>
          obtain ⟨final, rfl⟩ := same nextStatus read
          simp [final]
  | announced nextStatus read changes paid found' notices =>
      rw [statusEvents_noticesOf (notices single), read]
      by_cases final : entry.status ∈ FINAL_STATUSES
      · have differs : ¬ nextStatus = entry.status :=
          fun same => changes ⟨final, same.symm⟩
        simp [final, differs]
      · by_cases same : nextStatus = entry.status
        · simp [final, same]
        · simp [final, same, paid]
  | silent nextStatus read changes refused found' quiet =>
      rw [statusEvents_quiet entry.accountId quiet, read]
      by_cases same : nextStatus = entry.status
      · have unfinal : entry.status ∉ FINAL_STATUSES := fun final =>
          changes ⟨final, same.symm⟩
        obtain ⟨input, due, _⟩ := refused
        rw [same] at read
        exact absurd (final_of_due due (readStatus_eq_some read)) unfinal
      · simp [same, refused]

/-- Events that are the change of every record are the changes of all of
them. -/
theorem statusEvents_afterUpdates {accountId : AccountId} {world : World}
    {reports : List Report}
    (each : ∀ earlier report, earlier ++ [report] <+: reports →
      AnnouncesChange engine reference accountId
        (afterUpdates engine reference earlier world) report) :
    statusEvents engine reference accountId
      (afterUpdates engine reference reports world) =
      statusEvents engine reference accountId world +
        statusChanges engine reference reports world := by
  induction reports generalizing world with
  | nil => rfl
  | cons report rest ih =>
      have first : AnnouncesChange engine reference accountId world report :=
        each [] report ⟨rest, rfl⟩
      have later : statusEvents engine reference accountId
        (afterUpdates engine reference
            rest (afterUpdate engine reference world report)) =
          statusEvents engine reference accountId
            (afterUpdate engine reference world report) +
            statusChanges engine reference rest
              (afterUpdate engine reference world report) :=
        ih fun earlier next prior =>
          each (report :: earlier) next (List.cons_prefix_cons.mpr ⟨rfl, prior⟩)
      change statusEvents engine reference accountId
        (afterUpdates engine reference rest
          (afterUpdate engine reference world report)) = _
      rw [later, first, statusChanges, Nat.add_assoc]

end

/-- The events are the changes exactly when every record changes the row
cleanly: it is stored over an unfinished status other than the one it reads, and
a movement due with it is made. -/
theorem events_are_changes_iff (engine : Engine) (reference : Reference)
    (world : World) (entry : Entry)
    (found : entryOf engine reference world = some entry)
    (single : entry.batchId = none) (reports : List Report) :
    EventsAreChanges engine reference entry.accountId reports world ↔
      ∀ earlier report, earlier ++ [report] <+: reports →
        ChangesCleanly engine reference
          (afterUpdates engine reference earlier world) report := by
  have step (earlier : List Report) (report : Report) :
      AnnouncesChange engine reference entry.accountId
          (afterUpdates engine reference earlier world) report ↔
        ChangesCleanly engine reference
          (afterUpdates engine reference earlier world) report :=
    announcesChange_iff (entryOf_afterUpdates found earlier) single report
  constructor
  · intro events earlier report prior
    exact (step earlier report).mp (events.each earlier report prior)
  · intro clean
    have each (earlier : List Report) (report : Report)
        (prior : earlier ++ [report] <+: reports) :
        AnnouncesChange engine reference entry.accountId
          (afterUpdates engine reference earlier world) report :=
      (step earlier report).mpr (clean earlier report prior)
    constructor
    · intro applied within
      apply statusEvents_afterUpdates
      intro earlier report prior
      exact each earlier report (prior.trans within)
    · exact each

theorem events_are_changes_iff_processing :
    EventsAreChanges .collection "AAAAA000000000000001" "a"
      [reading "PROCESSING"]
        pendingWorld ↔
      ∀ earlier report, earlier ++ [report] <+: [reading "PROCESSING"] →
        ChangesCleanly .collection "AAAAA000000000000001"
          (afterUpdates .collection "AAAAA000000000000001" earlier pendingWorld)
            report :=
  events_are_changes_iff .collection "AAAAA000000000000001" pendingWorld
    ⟨"a", .pending, none⟩ (by decide +kernel) rfl [reading "PROCESSING"]

/-- The poll reads the same status twice and dispatches it twice. -/
theorem repeated_event :
    ¬ EventsAreChanges .collection "AAAAA000000000000001" "a"
      [reading "PROCESSING", reading "PROCESSING"] pendingWorld := by
  intro events
  have repeated := events.each [reading "PROCESSING"] (reading "PROCESSING")
    (List.prefix_refl _)
  unfold AnnouncesChange at repeated
  revert repeated
  decide +kernel

end CloudStudio.Payments
