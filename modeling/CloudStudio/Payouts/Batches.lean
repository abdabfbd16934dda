import CloudStudio.Payouts.Debits

/-!
# Is creating a batch all or nothing?

The hold, the rows and the job of a batch are three commits, and the references
of the items are only built and inserted after the first.  A request is all or
nothing exactly when its hold does not commit, or nothing goes wrong after it.
-/

namespace CloudStudio.Payouts

open CloudStudio.Data CloudStudio.Transactions CloudStudio.Platform
open CloudStudio.Payments
open CloudStudio.Wallets

/-- The payout rows of a batch. -/
def batchRows (world : World) (reference : Reference) : List Payout :=
  world.payouts.rows.filter fun payout => payout.batchId = some reference

/-- One hold of the items' amounts, a batch that counts and totals its rows,
which are the items', and one job that lists each row once. -/
structure BatchCreated (before after : World) (accountId : AccountId)
    (items : List BatchItem) (batch : DisbursementBatch) : Prop where
  hold : ∃ row, addedRows before after = [row] ∧ row.type = .batchHold ∧
    row.walletId = ⟨accountId, .disbursement⟩ ∧
      row.reference = some batch.reference ∧
    (row.amount : Decimal) = -batchTotal items
  balance : after.balance ⟨accountId, .disbursement⟩ =
    before.balance ⟨accountId, .disbursement⟩ - batchTotal items
  stored : before.batches.find? batch.reference = none ∧
    after.batches.find? batch.reference = some batch
  amounts : (batchRows after batch.reference).map
    (fun payout => (payout.amount : Decimal)) =
    items.map fun item => (item.amount.val : Decimal)
  count : batch.totalCount = (batchRows after batch.reference).length
  total : (batch.totalAmount : Decimal) =
    ((batchRows after batch.reference).map fun payout =>
      (payout.amount : Decimal)).sum
  distinct : ((batchRows after batch.reference).map Payout.reference).Nodup
  job : ∃ job ids, after.jobs = before.jobs ++ [job] ∧
    job.payload = .batchProcess batch.reference ids ∧
    ids.Perm ((batchRows after batch.reference).map Payout.reference)

/-- Wallets, ledger, batches and payouts are as they were. -/
structure NoBatchLeft (before after : World) : Prop where
  wallets : after.wallets = before.wallets
  ledger : after.ledger = before.ledger
  batches : after.batches = before.batches
  payouts : after.payouts = before.payouts

/-- The call has created its batch, or it has left nothing. -/
def BatchAllOrNothing (before : World) (accountId : AccountId)
    (items : List BatchItem) :
    Outcome AppError DisbursementBatch × World → Prop
  | (.returned batch, after) => BatchCreated before after accountId items batch
  | (_, after) => NoBatchLeft before after

/-- The checks pass and the hold commits. -/
structure BatchDebits (faults : Site → Option (Fault AppError)) (world : World)
    (random : List Char) (accountId : AccountId) (dto : CreateBatchDto)
    (account : Account) (reference : Reference) : Prop where
  reads : faults "account.findUnique" = none
  found : world.accounts.find? accountId = some account
  valid : validateItems dto.items = .ok ()
  completed : buildReference random account.sourceCode none = .ok reference
  goes : MoveGoes faults (batchHold accountId dto reference) world

/-- The items' references can be built, differ, and are free. -/
def RowsInsert (now : Time) (randoms : ℕ → List Char) (world : World)
    (accountId : AccountId) (dto : CreateBatchDto) (account : Account)
    (reference : Reference) (rows : List Payout) : Prop :=
  itemRows now randoms accountId account.sourceCode reference dto.items =
    .ok rows ∧ (rows.map Payout.reference).Nodup ∧
    ∀ row ∈ rows, world.payouts.find? row.reference = none

/-- Nothing goes wrong after the hold: the batch's reference is new, the rows
insert, and no statement fails. -/
structure BatchQueues (now : Time) (randoms : ℕ → List Char)
    (faults : Site → Option (Fault AppError)) (world : World)
    (accountId : AccountId) (dto : CreateBatchDto) (account : Account)
    (reference : Reference) : Prop where
  fresh : world.batches.find? reference = none
  unnamed : batchRows world reference = []
  insert : ∃ rows, RowsInsert now randoms world accountId dto account reference
    rows
  clear : Clear faults
    ["batch.create", "payout.createMany", "batch.commit", "batch.findItems",
      "batch.enqueue"]

/-! ## After the hold -/

section

variable {now : Time} {randoms : ℕ → List Char} {accountId : AccountId}
  {dto : CreateBatchDto}
variable {account : Account} {reference : Reference} {world : World}
variable {faults : Site → Option (Fault AppError)}

/-- The state with the rows of a batch. -/
def withBatch (batch : DisbursementBatch) (rows : List Payout) (world : World) :
    World :=
  { world with
    batches := world.batches.insert batch
    payouts := world.payouts.insertAll rows }

/-- The transaction writes the batch and its rows, or it does not return. -/
theorem exec_createBatchRows (now : Time) (randoms : ℕ → List Char)
    (accountId : AccountId) (dto : CreateBatchDto) (account : Account)
    (reference : Reference) (faults : Site → Option (Fault AppError))
    (world : World) :
    (∃ rows, (world.batches.find? reference = none ∧
        RowsInsert now randoms world accountId dto account reference rows ∧
        faults "batch.create" = none ∧ faults "payout.createMany" = none) ∧
      (createBatchRows now randoms accountId account.sourceCode dto
        reference).exec faults
          world =
        (.returned (newBatch now accountId dto reference),
          withBatch (newBatch now accountId dto reference) rows world)) ∨
    (¬ (∃ rows, world.batches.find? reference = none ∧
        RowsInsert now randoms world accountId dto account reference rows ∧
        faults "batch.create" = none ∧ faults "payout.createMany" = none) ∧
      ∀ batch after,
        (createBatchRows now randoms accountId account.sourceCode dto
          reference).exec faults world ≠ (.returned batch, after)) := by
  unfold createBatchRows
  rw [Body.exec_perform_bind]
  have creates :
    (batches.create "batch.create"
    (newBatch now accountId dto reference)).label =
      "batch.create" := rfl
  rw [creates]
  rcases created : faults "batch.create" with _ | fault
  swap
  · refine .inr ⟨by simp, fun batch after same => ?_⟩
    cases fault <;> cases same
  by_cases fresh : world.batches.find? reference = none
  swap
  · refine .inr ⟨fun ⟨_, met, _⟩ => fresh met, fun batch after same => ?_⟩
    have taken : (world.batches.find? reference).isSome :=
      Option.isSome_iff_ne_none.mpr fresh
    have answers :
      (batches.create "batch.create"
      (newBatch now accountId dto reference)).answer
        world = .error .uniqueViolation := if_pos taken
    simp only [answers] at same
    cases same
  have answers :
    (batches.create "batch.create"
    (newBatch now accountId dto reference)).answer
      world = .ok (newBatch now accountId dto reference) := by
    have free : (batches.table world).find?
      (newBatch now accountId dto reference).reference = none := fresh
    simp [Relation.create, free]
  simp only [answers]
  cases built : itemRows now randoms accountId account.sourceCode
      (newBatch now accountId dto reference).reference dto.items with
  | error error =>
      refine .inr ⟨?_, fun batch after same => ?_⟩
      · rintro ⟨rows, _, ⟨was, _⟩, _⟩
        have was' : itemRows now randoms accountId account.sourceCode
          (newBatch now accountId dto reference).reference dto.items =
            .ok rows := was
        rw [built] at was'
        cases was'
      · cases same
  | ok rows =>
      dsimp only
      rw [Body.exec_perform_bind]
      have inserts : (payouts.createMany "payout.createMany" rows).label =
          "payout.createMany" := rfl
      rw [inserts]
      rcases inserted : faults "payout.createMany" with _ | fault
      swap
      · refine .inr ⟨by simp, fun batch after same => ?_⟩
        cases fault <;> cases same
      cases table : world.payouts.insertAll? rows with
      | some table =>
          have met :=
            Table.insertAll?_isSome_iff.mp (Option.isSome_of_eq_some table)
          refine .inl ⟨rows, ⟨fresh, ⟨built, met⟩, trivial, rfl⟩, ?_⟩
          have free : ((payouts.table ((batches.create "batch.create"
              (newBatch now accountId dto reference)).effect world
                world)).insertAll?
                rows).isSome := Option.isSome_of_eq_some table
          rw [Relation.createMany_answer, if_pos free]
          rfl
      | none =>
          refine .inr ⟨?_, fun batch after same => ?_⟩
          · rintro ⟨others, _, ⟨was, met⟩, _⟩
            have same : rows = others := Except.ok.inj (built.symm.trans was)
            subst same
            have some := Table.insertAll?_isSome_iff.mpr met
            rw [table] at some
            cases some
          · have taken : ¬ ((payouts.table ((batches.create "batch.create"
                (newBatch now accountId dto reference)).effect world
                  world)).insertAll? rows).isSome := by
              change ¬ (world.payouts.insertAll? rows).isSome
              simp [table]
            rw [Relation.createMany_answer, if_neg taken] at same
            cases same

/-- A batch has the rows that named it before and its own. -/
theorem batchRows_withBatch (batch : DisbursementBatch) {rows : List Payout}
    (inserts : RowsInsert now randoms world accountId dto account
      reference rows) :
    batchRows (withBatch batch rows world) reference =
      batchRows world reference ++ rows := by
  obtain ⟨built, insertable⟩ := inserts
  obtain ⟨table, inserted⟩ := Option.isSome_iff_exists.mp
    (Table.insertAll?_isSome_iff.mpr insertable)
  obtain ⟨same, added⟩ := Table.insertAll_of_insertAll? inserted
  obtain ⟨each, _⟩ := itemRows_ok built
  have named : rows.filter (fun payout => payout.batchId = some reference) =
    rows := by
    apply List.filter_eq_self.mpr
    intro payout member
    obtain ⟨item, _, completed, rfl⟩ := each payout member
    simp [itemPayout]
  change (world.payouts.insertAll rows).rows.filter _ = _
  rw [same, added, List.filter_append, named]
  rfl

/-- What the hold has left, and what the transaction and the job then leave, is
what a batch is. -/
theorem batchCreated {row : WalletTransaction} {wallet : Wallet}
    {amount : Decimal} {rows : List Payout} {job : Job}
    (found : world.accounts.find? accountId = some account)
    (allowed : MoveAllowed (batchHold accountId dto reference)
      world wallet amount)
    (made : row = moveRow now (batchHold accountId dto reference) wallet amount
      wallet.balance) (fresh : world.batches.find? reference = none)
    (unnamed : batchRows world reference = [])
    (inserts : RowsInsert now randoms world accountId dto account
      reference rows) (queued : job.payload = .batchProcess reference
      (batchItemIds
        (withBatch (newBatch now accountId dto reference) rows
        (world.record row)) reference)) :
    BatchCreated world
      { withBatch (newBatch now accountId dto reference) rows
        (world.record row) with
        jobs := world.jobs ++ [job] }
      accountId dto.items (newBatch now accountId dto reference) := by
  have held := holdsBatch_of_allowed now found allowed
  obtain ⟨each, amounts⟩ := itemRows_ok inserts.1
  have own : batchRows (withBatch (newBatch now accountId dto reference) rows
      (world.record row)) reference = rows := by
    have there : RowsInsert now randoms (world.record row) accountId dto
      account reference rows := inserts
    rw [batchRows_withBatch (newBatch now accountId dto reference) there]
    exact congrArg (· ++ rows) unnamed
  have total : (rows.map fun payout => (payout.amount : Decimal)).sum =
    batchTotal dto.items :=
    congrArg List.sum amounts
  constructor
  · refine ⟨row, (Adds.record world row).addedRows_eq, ?_, ?_, ?_, ?_⟩
    · rw [made]
      rfl
    · rw [made]
      exact held.wallet
    · rw [made]
      exact held.reference
    · rw [made]
      exact held.amount
  · have at_row : world.wallets.find? row.walletId = some wallet := by
      rw [made]
      exact allowed.found_key
    have here : (⟨accountId, .disbursement⟩ : WalletKey) = row.walletId := by
      rw [made]
      exact held.wallet.symm
    have moved := balance_record at_row ⟨accountId, .disbursement⟩
    rw [if_pos here] at moved
    refine moved.trans ?_
    rw [made]
    exact held.after
  · refine ⟨fresh, ?_⟩
    change (world.batches.insert (newBatch now accountId dto reference)).find?
      reference = _
    rw [Table.find?_insert, fresh, Option.none_or]
    exact if_pos rfl
  · change (batchRows (withBatch (newBatch now accountId dto reference) rows
      (world.record row)) reference).map _ = _
    rw [own]
    exact amounts
  · change dto.items.length =
      (batchRows (withBatch (newBatch now accountId dto reference) rows
      (world.record row)) reference).length
    rw [own]
    simpa using (congrArg List.length amounts).symm
  · change ((Money.round (batchTotal dto.items) : Money) : Decimal) =
      ((batchRows
      (withBatch (newBatch now accountId dto reference) rows (world.record row))
        reference).map _).sum
    rw [own, total]
    exact Money.coe_round_of_hasPlaces (batchTotal_hasPlaces dto.items)
  · change ((batchRows (withBatch (newBatch now accountId dto reference) rows
      (world.record row)) reference).map _).Nodup
    rw [own]
    exact inserts.2.1
  · refine ⟨job, _, rfl, queued, ?_⟩
    exact (List.mergeSort_perm _ _).map _

/-- What follows the hold of a batch. -/
def queueBatch (now : Time) (randoms : ℕ → List Char) (accountId : AccountId)
    (sourceCode : String) (dto : CreateBatchDto) (reference : Reference) :
    Db DisbursementBatch := do
  let batch ← Program.atomically "batch.commit"
    (createBatchRows now randoms accountId sourceCode dto reference)
  let items ← Program.perform (select "batch.findItems" fun world =>
    batchItemIds world batch.reference)
  let _ ← enqueue "batch.enqueue" now (.batchProcess batch.reference items)
  pure batch

/-- The job of a batch. -/
def batchJob (now : Time) (reference : Reference) (items : List Reference) :
    Job where
  payload := .batchProcess reference items
  maxAttempts := (JobPayload.batchProcess reference items).maxAttempts
  runAt := now

/-- The rows and the job of a batch: the call returns exactly when the rows
insert and no statement fails. -/
theorem exec_queueBatch (now : Time) (randoms : ℕ → List Char)
    (accountId : AccountId) (dto : CreateBatchDto) (account : Account)
    (reference : Reference) (faults : Site → Option (Fault AppError))
    (world : World) :
    (∃ rows, (world.batches.find? reference = none ∧
        RowsInsert now randoms world accountId dto account reference rows ∧
        Clear faults ["batch.create", "payout.createMany", "batch.commit",
          "batch.findItems", "batch.enqueue"]) ∧
      (queueBatch now randoms accountId account.sourceCode dto reference).exec
        faults world = (.returned (newBatch now accountId dto reference),
          { withBatch (newBatch now accountId dto reference) rows world with
            jobs := world.jobs ++ [batchJob now reference (batchItemIds
              (withBatch (newBatch now accountId dto reference) rows world)
                reference)] })) ∨
    (¬ (∃ rows, world.batches.find? reference = none ∧
        RowsInsert now randoms world accountId dto account reference rows ∧
        Clear faults ["batch.create", "payout.createMany", "batch.commit",
          "batch.findItems", "batch.enqueue"]) ∧
      ∀ batch after,
        (queueBatch now randoms accountId account.sourceCode dto reference).exec
          faults world ≠ (.returned batch, after)) := by
  have committing :
    (queueBatch now randoms accountId account.sourceCode dto reference).exec
      faults world = _ := Program.exec_bind faults _ _ world
  rw [committing]
  simp only [Program.atomically, Program.exec, clear_cons]
  rcases exec_createBatchRows now randoms accountId dto account reference
    faults world with
    ⟨rows, ⟨fresh, inserts, created, inserted⟩, ran⟩ | ⟨unmet, ran⟩
  swap
  · refine .inr ⟨?_, fun batch after same => ?_⟩
    · rintro ⟨rows, fresh, inserts, created, inserted, _⟩
      exact unmet ⟨rows, fresh, inserts, created, inserted⟩
    generalize (createBatchRows now randoms accountId account.sourceCode dto
      reference).exec faults world = ended at ran same
    rcases ended with ⟨result | error | _, written⟩
    · exact ran result written rfl
    · cases same
    · cases same
  rw [ran]
  dsimp only
  rcases committed : faults "batch.commit" with _ | fault
  swap
  · refine .inr ⟨by simp, fun batch after same => ?_⟩
    cases fault <;> cases same
  dsimp only
  rw [Program.exec_perform_bind]
  rcases found : faults "batch.findItems" with _ | fault
  swap
  · have label : (select "batch.findItems" fun world => batchItemIds world
        (newBatch now accountId dto reference).reference).label =
          "batch.findItems" := rfl
    refine .inr ⟨by simp, fun batch after same => ?_⟩
    rw [label, found] at same
    cases fault <;> cases same
  have label : (select "batch.findItems" fun world => batchItemIds world
      (newBatch now accountId dto reference).reference).label =
        "batch.findItems" := rfl
  rw [label, found]
  simp only [select, enqueue, Program.exec_perform_bind, createJob]
  rcases queued : faults "batch.enqueue" with _ | fault
  swap
  · refine .inr ⟨by simp, fun batch after same => ?_⟩
    cases fault <;> cases same
  exact .inl
    ⟨rows, ⟨fresh, inserts, created, inserted, trivial, trivial,
    rfl, clear_nil⟩,
    rfl⟩

theorem queueBatch_keepsLedger (now : Time) (randoms : ℕ → List Char)
    (accountId : AccountId) (sourceCode : String) (dto : CreateBatchDto)
    (reference : Reference) (world : World) :
    (queueBatch now randoms accountId sourceCode dto reference).Holds
      (· = world)
      (fun _ after => after.ledger = world.ledger)
        (fun after => after.ledger = world.ledger) := by
  have rows :
    (createBatchRows now randoms accountId sourceCode dto reference).Holds
    (· = world)
      (fun _ after => after.ledger = world.ledger) := by
    simp only [createBatchRows, Body.bind_perform]
    apply Body.Holds.query
    · intro batch
      split
      · exact .threw _
      apply Body.Holds.query
      · intro answer
        apply Body.Holds.returned
        rintro _ ⟨_, ⟨_, rfl, _, rfl⟩, _, rfl⟩
        rfl
      · exact fun _ => .threw _
    · exact fun _ => .threw _
  apply Program.Holds.bind
  · apply Program.Holds.atomically rows
    rintro _ rfl
    rfl
  intro batch
  have listed : (Program.perform (select "batch.findItems" fun world =>
      batchItemIds world batch.reference)).Holds
        (fun after => after.ledger = world.ledger)
      (fun _ after => after.ledger = world.ledger)
        (fun after => after.ledger = world.ledger) :=
    .read (fun _ => rfl) (fun _ _ same _ => same) fun _ same => same
  apply listed.bind
  intro items
  apply (enqueue_holds _ now _ fun _ _ same => same).bind
  exact fun _ => Program.Holds.returned fun _ same => same

/-- A batch whose checks have passed is all or nothing when its hold does not
commit, or nothing goes wrong after it. -/
theorem holdBatch_allOrNothing_iff
    (found : world.accounts.find? accountId = some account) :
    BatchAllOrNothing world accountId dto.items
        ((holdBatch now randoms accountId account.sourceCode dto reference).exec
          faults world) ↔
      (MoveGoes faults (batchHold accountId dto reference) world →
        BatchQueues now randoms faults world accountId dto account
          reference) := by
  have split : holdBatch now randoms accountId account.sourceCode
    dto reference =
      move now (batchHold accountId dto reference) >>= fun _ =>
        queueBatch now randoms accountId account.sourceCode dto reference := rfl
  rw [split, Program.exec_bind]
  rcases exec_move now (batchHold accountId dto reference) faults world with
    ⟨wallet, amount, allowed, clear, ran⟩ | ⟨stuck, outcome, ran, fails⟩
  swap
  · rw [ran]
    apply iff_of_true ?_ fun goes => (stuck goes).elim
    cases outcome with
    | returned row => exact (fails row rfl).elim
    | threw error => exact ⟨rfl, rfl, rfl, rfl⟩
    | stopped => exact ⟨rfl, rfl, rfl, rfl⟩
  have goes : MoveGoes faults (batchHold accountId dto reference) world :=
    ⟨wallet, amount, allowed, clear⟩
  rw [ran]
  dsimp only
  generalize made : moveRow now (batchHold accountId dto reference) wallet
    amount wallet.balance = row
  have ledger :=
    queueBatch_keepsLedger now randoms accountId account.sourceCode dto
    reference (world.record row) faults _ rfl
  rcases exec_queueBatch now randoms accountId dto account reference faults
      (world.record row) with
    ⟨rows, ⟨fresh, inserts, clear⟩, queues⟩ | ⟨unmet, unreturned⟩
  · rw [queues]
    constructor
    · intro created _
      refine ⟨fresh, ?_, ⟨rows, inserts⟩, clear⟩
      have own :=
        batchRows_withBatch (newBatch now accountId dto reference) inserts
      have lengths := congrArg List.length created.amounts
      have same := congrArg List.length (itemRows_ok inserts.1).2
      change ((batchRows (withBatch (newBatch now accountId dto reference) rows
        (world.record row)) reference).map _).length = _ at lengths
      rw [own] at lengths
      simp only [List.length_map, List.length_append] at lengths same
      have none_named : (batchRows (world.record row) reference).length =
        0 := by omega
      exact List.length_eq_zero_iff.mp none_named
    · intro met
      exact batchCreated found allowed made.symm fresh (met goes).unnamed
        inserts rfl
  · have unqueued : ¬ BatchQueues now randoms faults world accountId dto account
      reference := by
      rintro ⟨fresh, _, ⟨rows, inserts⟩, clear⟩
      exact unmet ⟨rows, fresh, inserts, clear⟩
    apply iff_of_false ?_ fun met => unqueued (met goes)
    generalize
      (queueBatch now randoms accountId account.sourceCode dto reference).exec
      faults (world.record row) = ended at ledger unreturned ⊢
    have longer (after : World)
      (same : after.ledger = (world.record row).ledger) :
        ¬ NoBatchLeft world after := by
      intro nothing
      have lengths := congrArg List.length (same.symm.trans nothing.ledger)
      simp [World.record] at lengths
    rcases ended with ⟨batch | error | _, after⟩
    · exact (unreturned batch after rfl).elim
    · exact longer after ledger
    · exact longer after ledger

theorem exec_findAccount (accountId : AccountId)
    (faults : Site → Option (Fault AppError)) (world : World) :
    (∃ account, (faults "account.findUnique" = none ∧
        world.accounts.find? accountId = some account) ∧
      (findAccount accountId).exec faults world = (.returned account, world)) ∨
    ((∀ account, ¬ (faults "account.findUnique" = none ∧
        world.accounts.find? accountId = some account)) ∧
      ∃ outcome, (findAccount accountId).exec faults world = (outcome, world) ∧
        ∀ account, outcome ≠ .returned account) := by
  unfold findAccount
  rw [Program.exec_perform_bind]
  have label :
    (select "account.findUnique" fun world =>
    world.accounts.find? accountId).label =
      "account.findUnique" := rfl
  rw [label]
  rcases read : faults "account.findUnique" with _ | fault
  swap
  · refine .inr ⟨by simp, ?_⟩
    cases fault with
    | throws error => exact ⟨.threw error, rfl, fun _ same => by cases same⟩
    | stops => exact ⟨.stopped, rfl, fun _ same => by cases same⟩
  simp only [select]
  cases found : world.accounts.find? accountId with
  | some account => exact .inl ⟨account, ⟨trivial, rfl⟩, rfl⟩
  | none => exact .inr ⟨by simp, _, rfl, fun _ same => by cases same⟩

/-- Whether a batch request is all or nothing. -/
theorem batchAllOrNothing_iff (now : Time) (random : List Char)
    (randoms : ℕ → List Char) (accountId : AccountId) (dto : CreateBatchDto)
    (faults : Site → Option (Fault AppError)) (world : World) :
    BatchAllOrNothing world accountId dto.items
        ((createBatch now random randoms accountId dto).exec faults world) ↔
      ∀ account reference,
        BatchDebits faults world random accountId dto account reference →
          BatchQueues now randoms faults world accountId dto account
            reference := by
  have nothing : NoBatchLeft world world := ⟨rfl, rfl, rfl, rfl⟩
  have fails (ended : Outcome AppError DisbursementBatch × World)
      (unreturned : ∀ batch after, ended ≠ (.returned batch, after))
        (same : ended.2 = world) :
      BatchAllOrNothing world accountId dto.items ended := by
    rcases ended with ⟨batch | error | _, after⟩
    · exact (unreturned batch after rfl).elim
    · exact same ▸ nothing
    · exact same ▸ nothing
  unfold createBatch
  rw [Program.exec_bind]
  rcases exec_findAccount accountId faults world with
    ⟨account, ⟨reads, found⟩, ran⟩ | ⟨missing, outcome, ran, unreturned⟩
  swap
  · rw [ran]
    apply iff_of_true
    · cases outcome with
      | returned account => exact (unreturned account rfl).elim
      | threw error => exact nothing
      | stopped => exact nothing
    · exact fun account reference debits =>
        (missing account ⟨debits.reads, debits.found⟩).elim
  rw [ran]
  dsimp only
  have only (other : Account)
    (also : world.accounts.find? accountId = some other) :
      other = account := Option.some.inj (also.symm.trans found)
  cases valid : validateItems dto.items with
  | error problem =>
      apply iff_of_true
      · exact fails _ (fun batch after same => by cases same) rfl
      · intro other reference debits
        rw [debits.valid] at valid
        cases valid
  | ok _ =>
      cases completed : buildReference random account.sourceCode none with
      | error error =>
          apply iff_of_true
          · exact fails _ (fun batch after same => by cases same) rfl
          · intro other reference debits
            have same := debits.completed
            rw [only other debits.found, completed] at same
            cases same
      | ok reference =>
          refine (holdBatch_allOrNothing_iff found).trans ?_
          constructor
          · intro met other own debits
            cases only other debits.found
            have same := debits.completed
            rw [completed] at same
            cases same
            exact met debits.goes
          · exact fun met goes =>
              met account reference ⟨reads, found, valid, completed, goes⟩

end

/-- The batch row that a creation has added, for items that come to
something. -/
structure StoresBatch (now : Time) (accountId : AccountId)
    (dto : CreateBatchDto) (reference : Reference) (batch : DisbursementBatch)
    (before after : World) : Prop where
  row : batch = newBatch now accountId dto reference
  fresh : before.batches.find? reference = none
  stored : after.batches = before.batches.insert batch
  items : dto.items ≠ []

/-- A movement of nothing is refused, so a batch that is held has items. -/
theorem items_of_allowed {accountId : AccountId} {dto : CreateBatchDto}
    {reference : Reference} {world : World} {wallet : Wallet} {amount : Decimal}
    (allowed : MoveAllowed (batchHold accountId dto reference)
      world wallet amount) : dto.items ≠ [] := by
  intro empty
  have value := allowed.value
  simp only [batchHold, NumberInput.value.injEq,
    Decimal.toFixed_of_hasPlaces (batchTotal_hasPlaces dto.items)] at value
  apply allowed.nonzero
  rw [← value, empty]
  rfl

/-- What a batch that is created has added: its hold, its rows and the batch. -/
theorem createBatch_added {now : Time} {accountId : AccountId}
    {world after : World} {random : List Char} {randoms : ℕ → List Char}
    {dto : CreateBatchDto} {faults : Site → Option (Fault AppError)}
    {batch : DisbursementBatch}
    (returned : (createBatch now random randoms accountId dto).exec faults
      world =
      (.returned batch, after)) :
    ∃ (account : Account) (reference : Reference) (row : WalletTransaction)
        (rows : List Payout),
      HoldsBatch world accountId reference (batchTotal dto.items) row ∧
      itemRows now randoms accountId account.sourceCode reference dto.items =
        .ok rows ∧ Adds world [row] rows after ∧
      StoresBatch now accountId dto reference batch world after := by
  unfold createBatch at returned
  rw [Program.exec_bind] at returned
  rcases exec_findAccount accountId faults world with
    ⟨account, ⟨_, found⟩, ran⟩ | ⟨_, outcome, ran, unreturned⟩
  swap
  · rw [ran] at returned
    cases outcome with
    | returned account => exact (unreturned account rfl).elim
    | threw error => cases returned
    | stopped => cases returned
  rw [ran] at returned
  dsimp only at returned
  cases valid : validateItems dto.items with
  | error problem =>
      rw [valid] at returned
      cases returned
  | ok _ =>
      rw [valid] at returned
      cases completed : buildReference random account.sourceCode none with
      | error error =>
          rw [completed] at returned
          cases returned
      | ok reference =>
          rw [completed] at returned
          have split :
            (move now (batchHold accountId dto reference) >>= fun _ =>
              queueBatch now randoms accountId account.sourceCode dto
                reference).exec faults
                world = (.returned batch, after) := returned
          rw [Program.exec_bind] at split
          rcases exec_move now (batchHold accountId dto reference)
            faults world with
            ⟨wallet, amount, allowed, _, moved⟩ | ⟨_, outcome, moved, fails⟩
          swap
          · rw [moved] at split
            cases outcome with
            | returned row => exact (fails row rfl).elim
            | threw error => cases split
            | stopped => cases split
          rw [moved] at split
          dsimp only at split
          rcases exec_queueBatch now randoms accountId dto account
            reference faults
              (world.record
                (moveRow now (batchHold accountId dto reference) wallet amount
                wallet.balance)) with
            ⟨rows, ⟨fresh, inserts, _⟩, queues⟩ | ⟨_, unreturned⟩
          swap
          · exact (unreturned batch after split).elim
          rw [queues] at split
          cases split
          obtain ⟨table, inserted⟩ := Option.isSome_iff_exists.mp
            (Table.insertAll?_isSome_iff.mpr inserts.2)
          obtain ⟨same, added⟩ := Table.insertAll_of_insertAll? inserted
          refine ⟨account, reference, _, rows,
            holdsBatch_of_allowed now found allowed,
            inserts.1, ?_, rfl, fresh, rfl, items_of_allowed allowed⟩
          have recorded :=
            Adds.record world (moveRow now (batchHold accountId dto reference)
            wallet amount wallet.balance)
          refine ⟨rfl, ?_, rfl, recorded.wallets⟩
          exact (congrArg Table.rows same).trans added

/-- An account with 100000 to pay out. -/
def batchWorld : World where
  accounts :=
    Table.empty.insert { id := "a", accountId := "ACC-1"
                         sourceCode := "AAAAA" }
  wallets := Table.empty.insert { key := ⟨"a", .disbursement⟩, balance := Money.round 100000 }

/-- An item of 1000 with a client reference of 15 characters. -/
def namedItem : BatchItem where
  channel := .mobileMoney
  amount := Amount.shillings 1000
  reference := some "000000000000001"
  phoneNumber := some "255712345678"

/-- A batch in which two items have the same client reference. -/
def repeatedBatch (faults : Site → Option (Fault AppError)) :
    Outcome AppError DisbursementBatch × World :=
  (createBatch 2 "00000000000000A".toList (fun _ => []) "a"
    { name := "pay", items := [namedItem, namedItem] }).exec faults batchWorld

/-- The rows are refused after the hold: the money is gone, and no batch says so. -/
theorem held_without_batch :
    ¬ BatchAllOrNothing batchWorld "a" [namedItem, namedItem]
        (repeatedBatch fun _ => none) ∧
      (repeatedBatch fun _ => none).1 = .threw .uniqueViolation ∧
      ((repeatedBatch fun _ => none).2.ledger.map fun row => row.amount) =
        [Money.round (-2000)] := by
  have threw : (repeatedBatch fun _ => none).1 = .threw .uniqueViolation := by
    decide +kernel
  have ledger : ((repeatedBatch fun _ => none).2.ledger.map fun row => row.amount) =
      [Money.round (-2000)] := by
    decide +kernel
  refine ⟨fun allOrNothing => ?_, threw, ledger⟩
  generalize repeatedBatch (fun _ => none) = ended at allOrNothing threw ledger
  obtain ⟨outcome, after⟩ := ended
  cases threw
  have same : after.ledger = batchWorld.ledger := allOrNothing.ledger
  rw [same] at ledger
  revert ledger
  decide +kernel

end CloudStudio.Payouts
