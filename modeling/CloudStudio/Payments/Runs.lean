import CloudStudio.Payments.TxnStatus
import CloudStudio.Wallets.Runs

/-!
# Status updates run alone

What each update does when no other call runs at the same time: one case for
each way it can end, with the tables it leaves.  The cases are all the later
results on sequences of records use of the engine.
-/

namespace CloudStudio.Payments

open CloudStudio.Data CloudStudio.Transactions CloudStudio.Platform
open CloudStudio.Wallets

/-- Only these notices, with their deliveries and jobs, have been added. -/
def Noticed (notices : List Dispatched) (before after : World) : Prop :=
  ∃ deliveries jobs, after =
    { before with
      deliveries := before.deliveries ++ deliveries
      jobs := before.jobs ++ jobs
      dispatched := before.dispatched ++ notices }

theorem Noticed.refl (world : World) : Noticed [] world world :=
  ⟨[], [], by simp⟩

theorem Noticed.trans {notices more : List Dispatched}
    {first second third : World} (left : Noticed notices first second)
    (right : Noticed more second third) :
    Noticed (notices ++ more) first third := by
  obtain ⟨deliveries, jobs, rfl⟩ := left
  obtain ⟨deliveries', jobs', rfl⟩ := right
  exact ⟨deliveries ++ deliveries', jobs ++ jobs', by simp⟩

theorem run_forEach_noticed {Item : Type} {step : Item → Db Unit}
    (runs : ∀ item world, ∃ after, (step item).run world = (.ok (), after) ∧
      Noticed [] world after) (items : List Item) (world : World) :
    ∃ after, (Program.forEach items step).run world = (.ok (), after) ∧
      Noticed [] world after := by
  induction items generalizing world with
  | nil => exact ⟨world, rfl, .refl world⟩
  | cons item rest ih =>
      obtain ⟨middle, ran, noticed⟩ := runs item world
      obtain ⟨after, ranRest, noticedRest⟩ := ih middle
      refine ⟨after, ?_, noticed.trans noticedRest⟩
      change (step item >>= fun _ => Program.forEach rest step).run world = _
      rw [Program.run_bind, ran]
      exact ranRest

theorem run_deliverTo (now : Time) (notice : Dispatched)
    (endpoint : WebhookEndpoint) (world : World) :
    ∃ after, (deliverTo now notice endpoint).run world = (.ok (), after) ∧
      Noticed [] world after := by
  simp only [deliverTo, Program.bind_perform, Program.run_query, createDelivery,
    Program.run_discard, enqueue, Program.run_perform, createJob]
  exact ⟨_, rfl, [_], [_], by rw [List.append_nil]⟩

/-- A dispatch adds its notice and succeeds. -/
theorem run_dispatch (now : Time) (notice : Dispatched) (world : World) :
    ∃ count after, (dispatch now notice).run world = (.ok count, after) ∧
      Noticed [notice] world after := by
  simp only [dispatch, Program.bind_perform, Program.run_query, findSubscribers,
    Program.run_bind]
  obtain ⟨after, ran, more⟩ := run_forEach_noticed (run_deliverTo now notice)
    (world.subscribers notice.event notice.accountId)
    { world with dispatched := world.dispatched ++ [notice] }
  have noticed : Noticed [notice] world
      { world with dispatched := world.dispatched ++ [notice] } :=
        ⟨[], [], by simp⟩
  exact ⟨_, after, by rw [ran]; rfl, noticed.trans more⟩

/-- The notices of a dispatch that depends on a condition. -/
theorem run_whenDispatch (condition : Prop) [Decidable condition] (now : Time)
    (notice : Dispatched) (world : World) :
    ∃ after,
      (Program.when condition (Program.discard (dispatch now notice))).run
      world =
        (.ok (), after) ∧
      Noticed (if condition then [notice] else []) world after := by
  unfold Program.when
  split
  · obtain ⟨count, after, ran, noticed⟩ := run_dispatch now notice world
    exact ⟨after, by rw [Program.run_discard, ran], noticed⟩
  · exact ⟨world, rfl, .refl world⟩

/-- The state after the counters of a payout's batch have been recomputed. -/
def withRecount (now : Time) (batchId : Option Reference) (world : World) :
    World :=
  match batchId with
  | none => world
  | some batchId =>
      { world with
        batches :=
          world.batches.modify batchId
          (recounted now (itemStatuses world batchId))
          (recounted_reference now (itemStatuses world batchId)) }

/-- The recount fails when the batch is missing, else it succeeds. -/
theorem run_recountBatch (now : Time) (batchId : Option Reference)
    (world : World) :
    ((recountBatch now batchId).run world = (.error .recordNotFound, world) ∧
        ∃ missing, batchId = some missing ∧
          world.batches.find? missing = none) ∨
      ∃ notices after, (recountBatch now batchId).run world = (.ok (), after) ∧
        (batchId = none → notices = []) ∧
        Noticed notices (withRecount now batchId world) after := by
  cases batchId with
  | none => exact .inr ⟨[], world, rfl, fun _ => rfl, .refl world⟩
  | some batchId =>
      simp only [recountBatch, updateBatchCounters, Program.bind_perform,
        Program.run_query,
        select, updateBatch, Relation.update, Platform.batches]
      cases found : world.batches.find? batchId with
      | none => exact .inl ⟨rfl, batchId, rfl, found⟩
      | some batch =>
          obtain ⟨after, ran, noticed⟩ := run_whenDispatch
            ((recounted now (itemStatuses world batchId) batch).status ≠
              .processing) now _
            (withRecount now (some batchId) world)
          exact .inr ⟨_, after, ran, fun absent =>
            absurd absent (Option.some_ne_none _), noticed⟩

/-! ## Collections -/

/-- The state with a collection's row written. -/
def withCollection (now : Time) (record : ProviderRecord)
    (nextStatus : TxStatus) (fee : Option ComputedFee) (collection : Collection)
    (world : World) : World :=
  { world with
    collections := world.collections.modify collection.reference
      (collectionUpdate now record nextStatus fee collection)
      (collectionUpdate_reference now record nextStatus fee collection) }

/-- The notices of an update of a row that had this status. -/
def noticesOf (before : TxStatus) (notice : Dispatched) : List Dispatched :=
  if before ∉ FINAL_STATUSES then [notice] else []

def collectionNotice (collection : Collection) (nextStatus : TxStatus) :
    Dispatched :=
  ⟨.collectionStatus, collection.accountId, collection.reference,
    .transaction nextStatus⟩

/-- The update is a success of a collection that has not been credited. -/
def CreditDue (nextStatus : TxStatus) (walletCreditedAt : Option Time) : Prop :=
  nextStatus = .success ∧ walletCreditedAt = none

/-- The movement that credits a collection. -/
def creditOf (now : Time) (record : ProviderRecord) (nextStatus : TxStatus)
    (fee : ComputedFee) (collection : Collection) : MoveInput :=
  collectionCredit collection
    (collectionUpdate now record nextStatus (some fee) collection collection)
      fee

/-- How `applyCollectionUpdate` ends, and the state it leaves. -/
inductive CollectionRun (now : Time) (reference : Reference)
    (record : ProviderRecord) (world : World) :
    Except AppError Applied → World → Prop where
  | unknown : world.collections.find? reference = none →
      CollectionRun now reference record world (.ok { handled := false }) world
  | unreadable (collection : Collection) :
      world.collections.find? reference = some collection →
      record.nextStatus? = none →
      CollectionRun now reference record world (.error .invalidValue) world
  | unchanged (collection : Collection) (nextStatus : TxStatus) :
      world.collections.find? reference = some collection →
      record.nextStatus? = some nextStatus →
      collection.status ∈ FINAL_STATUSES → collection.status = nextStatus →
      CollectionRun now reference record world
        (.ok { handled := true, status := some nextStatus }) world
  | refused (collection : Collection) (nextStatus : TxStatus) (left : World) :
      world.collections.find? reference = some collection →
      record.nextStatus? = some nextStatus →
      ¬ (collection.status ∈ FINAL_STATUSES ∧ collection.status = nextStatus) →
      ¬ record.FitsPayment →
      left = world ∨ left = world.withConfig collection.accountId →
      CollectionRun now reference record world (.error .invalidValue) left
  | written (collection : Collection) (nextStatus : TxStatus) (after : World) :
      world.collections.find? reference = some collection →
      record.nextStatus? = some nextStatus →
      ¬ (collection.status ∈ FINAL_STATUSES ∧ collection.status = nextStatus) →
      record.FitsPayment → ¬ CreditDue nextStatus collection.walletCreditedAt →
      Noticed (noticesOf collection.status
        (collectionNotice collection nextStatus))
        (withCollection now record nextStatus none collection world) after →
      CollectionRun now reference record world
        (.ok { handled := true, status := some nextStatus }) after
  | credited (collection : Collection) (nextStatus : TxStatus) (basis : Decimal)
      (fee : ComputedFee) (wallet : Wallet) (amount : Decimal) (after : World) :
      world.collections.find? reference = some collection →
      record.nextStatus? = some nextStatus →
      ¬ (collection.status ∈ FINAL_STATUSES ∧ collection.status = nextStatus) →
      record.FitsPayment → CreditDue nextStatus collection.walletCreditedAt →
      feeBasis record collection = .value basis →
      fee = (world.configOf collection.accountId).fee .collection basis →
      MoveAllowed (creditOf now record nextStatus fee collection) world
        wallet amount →
      Noticed (noticesOf collection.status
        (collectionNotice collection nextStatus))
        ((withCollection now record nextStatus (some fee) collection
          (world.withConfig collection.accountId)).record
          (moveRow now (creditOf now record nextStatus fee collection) wallet
            amount wallet.balance)) after →
      CollectionRun now reference record world
        (.ok { handled := true, status := some nextStatus }) after
  | uncredited (collection : Collection) (nextStatus : TxStatus)
      (basis : Decimal) (fee : ComputedFee) (error : AppError) :
      world.collections.find? reference = some collection →
      record.nextStatus? = some nextStatus →
      ¬ (collection.status ∈ FINAL_STATUSES ∧ collection.status = nextStatus) →
      record.FitsPayment → CreditDue nextStatus collection.walletCreditedAt →
      feeBasis record collection = .value basis →
      fee = (world.configOf collection.accountId).fee .collection basis →
      (∀ wallet amount,
        ¬ MoveAllowed (creditOf now record nextStatus fee collection)
        world wallet amount) →
      CollectionRun now reference record world (.error error)
        (withCollection now record nextStatus (some fee) collection
          (world.withConfig collection.accountId))

theorem withConfig_rest (world : World) (accountId : AccountId) :
    (world.withConfig accountId).accounts = world.accounts ∧
      (world.withConfig accountId).wallets = world.wallets ∧
      (world.withConfig accountId).collections = world.collections := by
  unfold World.withConfig
  split <;> exact ⟨rfl, rfl, rfl⟩

theorem feeBasis_of_fits {record : ProviderRecord} (fits : record.FitsPayment)
    (collection : Collection) :
    ∃ basis, feeBasis record collection = .value basis := by
  have typed := fits.2.2.1
  unfold feeBasis
  cases amount : record.collectedAmount with
  | given value => exact ⟨_, rfl⟩
  | missing => exact ⟨_, rfl⟩
  | null => exact ⟨_, rfl⟩
  | illTyped => exact absurd amount typed

section

variable (now : Time) {record : ProviderRecord} (nextStatus : TxStatus)
variable {collection : Collection} {world : World}

/-- The write of a row that is there. -/
theorem run_updateCollection (fee : Option ComputedFee)
    (found : world.collections.find? collection.reference = some collection)
    {Result : Type} (next : Collection → Db Result) :
    (Program.perform (updateCollection now record nextStatus fee collection) >>=
      next).run
        world =
      (next (collectionUpdate now record nextStatus fee collection
        collection)).run
        (withCollection now record nextStatus fee collection world) := by
  simp only [Program.bind_perform, Program.run_query, updateCollection,
    Relation.update, Platform.collections, found]
  rfl

/-- Without a credit due the update writes its row and dispatches. -/
theorem run_finishCollection_none
    (found : world.collections.find? collection.reference = some collection)
    (fits : record.FitsPayment) :
    ∃ after, (finishCollection now record nextStatus none collection).run
      world =
        (.ok { handled := true, status := some nextStatus }, after) ∧
      Noticed (noticesOf collection.status
        (collectionNotice collection nextStatus))
        (withCollection now record nextStatus none collection world) after := by
  obtain ⟨after, ran, noticed⟩ :=
    run_whenDispatch (collection.status ∉ FINAL_STATUSES) now
    (collectionNotice collection nextStatus)
    (withCollection now record nextStatus none collection world)
  refine ⟨after, ?_, noticed⟩
  simp only [finishCollection, fits, not_true_eq_false, if_false,
    run_updateCollection now nextStatus none found, creditCollection,
      Program.run_bind]
  simp only [collectionNotice] at ran
  simp only [Program.pure_eq, Program.run_returned, ran]

/-- With a credit due the movement is allowed and recorded, or it is refused. -/
theorem run_finishCollection_some (fee : ComputedFee)
    (found : world.collections.find? collection.reference = some collection)
    (fits : record.FitsPayment) :
    (∃ wallet amount after,
      MoveAllowed (creditOf now record nextStatus fee collection) world
        wallet amount ∧
      (finishCollection now record nextStatus (some fee) collection).run world =
        (.ok { handled := true, status := some nextStatus }, after) ∧
      Noticed (noticesOf collection.status
        (collectionNotice collection nextStatus))
        ((withCollection now record nextStatus (some fee)
          collection world).record
          (moveRow now (creditOf now record nextStatus fee collection) wallet
            amount wallet.balance)) after) ∨
    ((∀ wallet amount,
      ¬ MoveAllowed (creditOf now record nextStatus fee collection) world
        wallet amount) ∧
      ∃ error,
        (finishCollection now record nextStatus (some fee) collection).run
        world =
        (.error error, withCollection now record nextStatus (some fee)
          collection world)) := by
  have unpaid (wallet : Wallet) (amount : Decimal) :
      MoveAllowed (creditOf now record nextStatus fee collection)
        (withCollection now record nextStatus (some fee) collection world)
          wallet amount ↔
      MoveAllowed (creditOf now record nextStatus fee collection) world
        wallet amount :=
    moveAllowed_congr rfl rfl
  simp only [finishCollection, fits, not_true_eq_false, if_false,
    run_updateCollection now nextStatus (some fee) found, creditCollection,
    Program.run_bind, Program.run_discard]
  rcases run_move_cases now (creditOf now record nextStatus fee collection)
      (withCollection now record nextStatus (some fee) collection world) with
    ⟨wallet, amount, allowed, moved⟩ | ⟨refused, error, moved⟩
  · obtain ⟨after, ran, noticed⟩ :=
      run_whenDispatch (collection.status ∉ FINAL_STATUSES)
      now (collectionNotice collection nextStatus)
      ((withCollection now record nextStatus (some fee) collection world).record
        (moveRow now (creditOf now record nextStatus fee collection) wallet
          amount wallet.balance))
    refine .inl ⟨wallet, amount, after, (unpaid wallet amount).mp allowed, ?_,
      noticed⟩
    simp only [creditOf] at moved ran
    simp only [collectionNotice] at ran
    simp only [moved, ran, Program.pure_eq, Program.run_returned]
  · refine .inr ⟨fun wallet amount was => refused wallet amount
      ((unpaid wallet amount).mpr was), error, ?_⟩
    simp only [creditOf] at moved
    simp only [moved]

end

/-- Every run of `applyCollectionUpdate` is one of the cases. -/
theorem run_applyCollectionUpdate (now : Time) (reference : Reference)
    (record : ProviderRecord) (world : World) :
    CollectionRun now reference record world
      ((applyCollectionUpdate now reference record).run world).1
      ((applyCollectionUpdate now reference record).run world).2 := by
  simp only [applyCollectionUpdate, Program.bind_perform, Program.run_query,
    Relation.findUnique, select, Platform.collections]
  cases found : world.collections.find? reference with
  | none => exact .unknown found
  | some collection =>
      dsimp only
      split
      · rename_i unreadable
        exact .unreadable collection found unreadable
      rename_i nextStatus mapped
      split
      · rename_i same
        exact .unchanged collection nextStatus found mapped same.1 same.2
      rename_i changes
      have key : collection.reference = reference := Table.key_of_find? found
      have at_key := found
      rw [← key] at at_key
      split
      · rename_i due
        obtain ⟨accounts, wallets, collections⟩ :=
          withConfig_rest world collection.accountId
        have configured := at_key
        rw [← collections] at configured
        by_cases fits : record.FitsPayment
        · obtain ⟨basis, basis_eq⟩ := feeBasis_of_fits fits collection
          simp only [basis_eq, Program.run_bind, run_computeFee]
          rcases run_finishCollection_some now nextStatus
              ((world.configOf collection.accountId).fee .collection basis)
                configured fits with
            ⟨wallet, amount, after, allowed, ran, noticed⟩ | ⟨refused, error,
              ran⟩
          · rw [ran]
            exact .credited collection nextStatus basis _ wallet amount
              after found mapped changes fits due basis_eq rfl
              ((moveAllowed_congr accounts wallets).mp allowed) noticed
          · rw [ran]
            exact .uncredited collection nextStatus basis _ error found
              mapped changes fits due basis_eq rfl fun wallet amount was =>
                refused wallet amount
                  ((moveAllowed_congr accounts wallets).mpr was)
        · have config := run_getConfig collection.accountId world
          simp only [computeFee, Program.run_bind, config]
          cases feeBasis record collection with
          | value basis =>
              simp only [finishCollection, fits, not_false_eq_true, if_true]
              exact .refused collection nextStatus _ found mapped changes
                fits (.inr rfl)
          | nonFinite =>
              exact .refused collection nextStatus _ found mapped changes
                fits (.inr rfl)
          | malformed =>
              exact .refused collection nextStatus _ found mapped changes
                fits (.inr rfl)
      · rename_i undue
        by_cases fits : record.FitsPayment
        · obtain ⟨after, ran, noticed⟩ :=
            run_finishCollection_none now nextStatus at_key fits
          rw [ran]
          exact .written collection nextStatus after found mapped changes
            fits undue noticed
        · simp only [finishCollection, fits, not_false_eq_true, if_true]
          exact .refused collection nextStatus _ found mapped changes
            fits (.inl rfl)

/-- The state with a deposit's row written. -/
def withDeposit (now : Time) (record : ProviderRecord) (nextStatus : TxStatus)
    (shouldCredit : Bool) (deposit : Deposit) (world : World) : World :=
  { world with
    deposits := world.deposits.modify deposit.reference
      (depositUpdate now record nextStatus shouldCredit deposit)
      (depositUpdate_reference now record nextStatus shouldCredit deposit) }

def depositNotice (deposit : Deposit) (nextStatus : TxStatus) : Dispatched :=
  ⟨.depositStatus, deposit.accountId, deposit.reference,
    .transaction nextStatus⟩

/-- The movement that credits a deposit. -/
def depositCreditOf (now : Time) (record : ProviderRecord)
    (nextStatus : TxStatus) (deposit : Deposit) : MoveInput :=
  depositCredit deposit
    (depositUpdate now record nextStatus true deposit deposit)

/-- How `applyDepositUpdate` ends, and the state it leaves. -/
inductive DepositRun (now : Time) (reference : Reference)
    (record : ProviderRecord) (world : World) :
    Except AppError Applied → World → Prop where
  | unknown : world.deposits.find? reference = none →
      DepositRun now reference record world (.ok { handled := false }) world
  | unreadable (deposit : Deposit) :
      world.deposits.find? reference = some deposit →
        record.nextStatus? = none →
      DepositRun now reference record world (.error .invalidValue) world
  | unchanged (deposit : Deposit) (nextStatus : TxStatus) :
      world.deposits.find? reference = some deposit →
      record.nextStatus? = some nextStatus →
      deposit.status ∈ FINAL_STATUSES → deposit.status = nextStatus →
      DepositRun now reference record world
        (.ok { handled := true, status := some nextStatus }) world
  | refused (deposit : Deposit) (nextStatus : TxStatus) :
      world.deposits.find? reference = some deposit →
      record.nextStatus? = some nextStatus →
      ¬ (deposit.status ∈ FINAL_STATUSES ∧ deposit.status = nextStatus) →
      ¬ record.FitsPayment →
      DepositRun now reference record world (.error .invalidValue) world
  | written (deposit : Deposit) (nextStatus : TxStatus) (after : World) :
      world.deposits.find? reference = some deposit →
      record.nextStatus? = some nextStatus →
      ¬ (deposit.status ∈ FINAL_STATUSES ∧ deposit.status = nextStatus) →
      record.FitsPayment → ¬ CreditDue nextStatus deposit.walletCreditedAt →
      Noticed (noticesOf deposit.status (depositNotice deposit nextStatus))
        (withDeposit now record nextStatus false deposit world) after →
      DepositRun now reference record world
        (.ok { handled := true, status := some nextStatus }) after
  | credited (deposit : Deposit) (nextStatus : TxStatus) (wallet : Wallet)
      (amount : Decimal) (after : World) :
      world.deposits.find? reference = some deposit →
      record.nextStatus? = some nextStatus →
      ¬ (deposit.status ∈ FINAL_STATUSES ∧ deposit.status = nextStatus) →
      record.FitsPayment → CreditDue nextStatus deposit.walletCreditedAt →
      MoveAllowed (depositCreditOf now record nextStatus deposit) world
        wallet amount →
      Noticed (noticesOf deposit.status (depositNotice deposit nextStatus))
        ((withDeposit now record nextStatus true deposit world).record
          (moveRow now (depositCreditOf now record nextStatus deposit) wallet
            amount wallet.balance)) after →
      DepositRun now reference record world
        (.ok { handled := true, status := some nextStatus }) after
  | uncredited (deposit : Deposit) (nextStatus : TxStatus) (error : AppError) :
      world.deposits.find? reference = some deposit →
      record.nextStatus? = some nextStatus →
      ¬ (deposit.status ∈ FINAL_STATUSES ∧ deposit.status = nextStatus) →
      record.FitsPayment → CreditDue nextStatus deposit.walletCreditedAt →
      (∀ wallet amount,
        ¬ MoveAllowed (depositCreditOf now record nextStatus deposit) world
          wallet amount) →
      DepositRun now reference record world (.error error)
        (withDeposit now record nextStatus true deposit world)

theorem run_updateDeposit (now : Time) (record : ProviderRecord)
    (nextStatus : TxStatus) (shouldCredit : Bool) {deposit : Deposit}
    {world : World}
    (found : world.deposits.find? deposit.reference = some deposit)
    {Result : Type} (next : Deposit → Db Result) :
    (Program.perform
      (updateDeposit now record nextStatus shouldCredit deposit) >>= next).run
        world =
      (next (depositUpdate now record nextStatus shouldCredit
        deposit deposit)).run
        (withDeposit now record nextStatus shouldCredit deposit world) := by
  simp only [Program.bind_perform, Program.run_query, updateDeposit,
    Relation.update, Platform.deposits, found]
  rfl

section

variable (now : Time) {record : ProviderRecord} (nextStatus : TxStatus)
variable {deposit : Deposit} {world : World}

theorem run_finishDeposit_false
    (found : world.deposits.find? deposit.reference = some deposit)
    (fits : record.FitsPayment) :
    ∃ after, (finishDeposit now record nextStatus false deposit).run world =
        (.ok { handled := true, status := some nextStatus }, after) ∧
      Noticed (noticesOf deposit.status (depositNotice deposit nextStatus))
        (withDeposit now record nextStatus false deposit world) after := by
  obtain ⟨after, ran, noticed⟩ :=
    run_whenDispatch (deposit.status ∉ FINAL_STATUSES) now
    (depositNotice deposit nextStatus)
      (withDeposit now record nextStatus false deposit world)
  refine ⟨after, ?_, noticed⟩
  simp only [depositNotice] at ran
  simp only [finishDeposit, fits, not_true_eq_false, if_false,
    Bool.false_eq_true,
    run_updateDeposit now record nextStatus false found, Program.run_bind,
    Program.when_false, Program.run_returned, ran, Program.pure_eq]

theorem run_finishDeposit_true
    (found : world.deposits.find? deposit.reference = some deposit)
    (fits : record.FitsPayment) :
    (∃ wallet amount after,
      MoveAllowed (depositCreditOf now record nextStatus deposit) world
        wallet amount ∧
      (finishDeposit now record nextStatus true deposit).run world =
        (.ok { handled := true, status := some nextStatus }, after) ∧
      Noticed (noticesOf deposit.status (depositNotice deposit nextStatus))
        ((withDeposit now record nextStatus true deposit world).record
          (moveRow now (depositCreditOf now record nextStatus deposit) wallet
            amount wallet.balance)) after) ∨
    ((∀ wallet amount,
      ¬ MoveAllowed (depositCreditOf now record nextStatus deposit) world
        wallet amount) ∧
      ∃ error, (finishDeposit now record nextStatus true deposit).run world =
        (.error error,
          withDeposit now record nextStatus true deposit world)) := by
  have unpaid (wallet : Wallet) (amount : Decimal) :
      MoveAllowed (depositCreditOf now record nextStatus deposit)
        (withDeposit now record nextStatus true deposit world) wallet amount ↔
      MoveAllowed (depositCreditOf now record nextStatus deposit) world
        wallet amount :=
    moveAllowed_congr rfl rfl
  simp only [finishDeposit, fits, not_true_eq_false, if_false,
    run_updateDeposit now record nextStatus true found, Program.run_bind,
    Program.when_true, Program.run_discard]
  rcases run_move_cases now (depositCreditOf now record nextStatus deposit)
      (withDeposit now record nextStatus true deposit world) with
    ⟨wallet, amount, allowed, moved⟩ | ⟨refused, error, moved⟩
  · obtain ⟨after, ran, noticed⟩ :=
      run_whenDispatch (deposit.status ∉ FINAL_STATUSES)
      now (depositNotice deposit nextStatus)
      ((withDeposit now record nextStatus true deposit world).record
        (moveRow now (depositCreditOf now record nextStatus deposit) wallet
          amount wallet.balance))
    refine .inl ⟨wallet, amount, after, (unpaid wallet amount).mp allowed, ?_,
      noticed⟩
    simp only [depositCreditOf] at moved ran
    simp only [depositNotice] at ran
    simp only [moved, ran, Program.pure_eq, Program.run_returned]
  · refine .inr ⟨fun wallet amount was => refused wallet amount
      ((unpaid wallet amount).mpr was), error, ?_⟩
    simp only [depositCreditOf] at moved
    simp only [moved]

end

/-- Every run of `applyDepositUpdate` is one of the cases. -/
theorem run_applyDepositUpdate (now : Time) (reference : Reference)
    (record : ProviderRecord) (world : World) :
    DepositRun now reference record world
      ((applyDepositUpdate now reference record).run world).1
      ((applyDepositUpdate now reference record).run world).2 := by
  simp only [applyDepositUpdate, Program.bind_perform, Program.run_query,
    Relation.findUnique, select, Platform.deposits]
  cases found : world.deposits.find? reference with
  | none => exact .unknown found
  | some deposit =>
      dsimp only
      split
      · rename_i unreadable
        exact .unreadable deposit found unreadable
      rename_i nextStatus mapped
      split
      · rename_i same
        exact .unchanged deposit nextStatus found mapped same.1 same.2
      rename_i changes
      have at_key := found
      rw [← show deposit.reference = reference from
        Table.key_of_find? found] at at_key
      by_cases fits : record.FitsPayment
      · by_cases due : CreditDue nextStatus deposit.walletCreditedAt
        · rw [show decide (nextStatus = .success ∧
            deposit.walletCreditedAt = none) = true from decide_eq_true due]
          rcases run_finishDeposit_true now nextStatus at_key fits with
            ⟨wallet, amount, after, allowed, ran, noticed⟩ | ⟨refused, error,
              ran⟩
          · rw [ran]
            exact .credited deposit nextStatus wallet amount after found
              mapped changes fits due allowed noticed
          · rw [ran]
            exact .uncredited deposit nextStatus error found mapped changes
              fits due refused
        · rw [show decide (nextStatus = .success ∧
            deposit.walletCreditedAt = none) = false from decide_eq_false due]
          obtain ⟨after, ran, noticed⟩ :=
            run_finishDeposit_false now nextStatus at_key fits
          rw [ran]
          exact .written deposit nextStatus after found mapped changes
            fits due noticed
      · simp only [finishDeposit, fits, not_false_eq_true, if_true]
        exact .refused deposit nextStatus found mapped changes fits

/-- The state with a payout's row written. -/
def withPayout (now : Time) (record : ProviderRecord) (nextStatus : TxStatus)
    (shouldRefund : Bool) (payout : Payout) (world : World) : World :=
  { world with
    payouts := world.payouts.modify payout.reference
      (payoutUpdate now record nextStatus shouldRefund payout)
      (payoutUpdate_reference now record nextStatus shouldRefund payout) }

/-- The update fails a payout whose debit has not been refunded. -/
def RefundDue (nextStatus : TxStatus) (payout : Payout) : Prop :=
  nextStatus ∈ TERMINAL_FAIL ∧ payout.walletDebitedAt.isSome ∧
    payout.refundedAt = none

/-- The row write of a payout update and, if one is due, its refund. -/
inductive Settled (now : Time) (record : ProviderRecord) (nextStatus : TxStatus)
    (payout : Payout) (world : World) : World → Prop where
  | kept : ¬ RefundDue nextStatus payout →
      Settled now record nextStatus payout world
        (withPayout now record nextStatus false payout world)
  | refunded (wallet : Wallet) (amount : Decimal) :
      RefundDue nextStatus payout →
      MoveAllowed (payoutRefund payout) world wallet amount →
      Settled now record nextStatus payout world
        ((withPayout now record nextStatus true payout world).record
          (moveRow now (payoutRefund payout) wallet amount wallet.balance))

/-- How `applyPayoutUpdate` ends, and the state it leaves. -/
inductive PayoutRun (now : Time) (reference : Reference)
    (record : ProviderRecord) (world : World) :
    Except AppError Applied → World → Prop where
  | unknown : world.payouts.find? reference = none →
      PayoutRun now reference record world (.ok { handled := false }) world
  | unreadable (payout : Payout) :
      world.payouts.find? reference = some payout → record.nextStatus? = none →
      PayoutRun now reference record world (.error .invalidValue) world
  | unchanged (payout : Payout) (nextStatus : TxStatus) :
      world.payouts.find? reference = some payout →
      record.nextStatus? = some nextStatus →
      payout.status ∈ FINAL_STATUSES → payout.status = nextStatus →
      PayoutRun now reference record world
        (.ok { handled := true, status := some nextStatus }) world
  | refused (payout : Payout) (nextStatus : TxStatus) :
      world.payouts.find? reference = some payout →
      record.nextStatus? = some nextStatus →
      ¬ (payout.status ∈ FINAL_STATUSES ∧ payout.status = nextStatus) →
      ¬ record.FitsPayout →
      PayoutRun now reference record world (.error .invalidValue) world
  | unrefunded (payout : Payout) (nextStatus : TxStatus) (error : AppError) :
      world.payouts.find? reference = some payout →
      record.nextStatus? = some nextStatus →
      ¬ (payout.status ∈ FINAL_STATUSES ∧ payout.status = nextStatus) →
      record.FitsPayout → RefundDue nextStatus payout →
      (∀ wallet amount,
        ¬ MoveAllowed (payoutRefund payout) world wallet amount) →
      PayoutRun now reference record world (.error error)
        (withPayout now record nextStatus true payout world)
  | uncounted (payout : Payout) (nextStatus : TxStatus) (settled after : World)
      (batchId : Reference) :
      world.payouts.find? reference = some payout →
      record.nextStatus? = some nextStatus →
      ¬ (payout.status ∈ FINAL_STATUSES ∧ payout.status = nextStatus) →
      record.FitsPayout → Settled now record nextStatus payout world settled →
      payout.batchId = some batchId → world.batches.find? batchId = none →
      Noticed (noticesOf payout.status (payoutNotice payout nextStatus))
        settled after →
      PayoutRun now reference record world (.error .recordNotFound) after
  | finished (payout : Payout) (nextStatus : TxStatus) (settled after : World)
      (recounts : List Dispatched) :
      world.payouts.find? reference = some payout →
      record.nextStatus? = some nextStatus →
      ¬ (payout.status ∈ FINAL_STATUSES ∧ payout.status = nextStatus) →
      record.FitsPayout → Settled now record nextStatus payout world settled →
      (payout.batchId = none → recounts = []) →
      Noticed (noticesOf payout.status (payoutNotice payout nextStatus) ++
        recounts) (withRecount now payout.batchId settled) after →
      PayoutRun now reference record world
        (.ok { handled := true, status := some nextStatus }) after

theorem run_updatePayout (now : Time) (record : ProviderRecord)
    (nextStatus : TxStatus) (shouldRefund : Bool) {payout : Payout}
    {world : World} (found : world.payouts.find? payout.reference = some payout)
    {Result : Type} (next : Payout → Db Result) :
    (Program.perform
      (updatePayout now record nextStatus shouldRefund payout) >>= next).run
        world =
      (next (payoutUpdate now record nextStatus shouldRefund payout payout)).run
        (withPayout now record nextStatus shouldRefund payout world) := by
  simp only [Program.bind_perform, Program.run_query, updatePayout,
    Relation.update, Platform.payouts, found]
  rfl

/-- Announcing a payout adds its notice. -/
theorem run_announcePayout (now : Time) (payout : Payout)
    (nextStatus : TxStatus) (world : World) :
    ∃ after, (Program.when (payout.status ∉ FINAL_STATUSES)
        (announcePayout now payout nextStatus)).run world = (.ok (), after) ∧
      Noticed (noticesOf payout.status (payoutNotice payout nextStatus))
        world after := by
  obtain ⟨after, ran, noticed⟩ :=
    run_whenDispatch (payout.status ∉ FINAL_STATUSES) now
    (payoutNotice payout nextStatus) world
  refine ⟨after, ?_, noticed⟩
  rw [← ran]
  unfold Program.when announcePayout
  split
  · cases payout.batchId with
    | none => rfl
    | some batchId => rfl
  · rfl

/-- The write and the refund of a payout update. -/
theorem run_settle (now : Time) (record : ProviderRecord)
    (nextStatus : TxStatus) (payout : Payout) (world : World)
    (shouldRefund : Bool)
    (decides : shouldRefund = true ↔ RefundDue nextStatus payout) :
    (∃ settled, Settled now record nextStatus payout world settled ∧
      (Program.when shouldRefund
        (Program.discard (move now (payoutRefund payout)))).run
          (withPayout now record nextStatus shouldRefund payout world) =
            (.ok (), settled)) ∨
    (RefundDue nextStatus payout ∧
      (∀ wallet amount,
        ¬ MoveAllowed (payoutRefund payout) world wallet amount) ∧ ∃ error,
        (Program.when shouldRefund
          (Program.discard (move now (payoutRefund payout)))).run
          (withPayout now record nextStatus shouldRefund payout world) =
        (.error error,
          withPayout now record nextStatus true payout world)) := by
  cases shouldRefund with
  | false =>
      have undue : ¬ RefundDue nextStatus payout := fun due => by
        simpa using decides.mpr due
      exact .inl ⟨_, .kept undue, rfl⟩
  | true =>
      have due := decides.mp rfl
      have unpaid (wallet : Wallet) (amount : Decimal) :
          MoveAllowed (payoutRefund payout)
            (withPayout now record nextStatus true payout world) wallet amount ↔
          MoveAllowed (payoutRefund payout) world wallet amount :=
        moveAllowed_congr rfl rfl
      simp only [Program.when_true, Program.run_discard]
      rcases run_move_cases now (payoutRefund payout)
          (withPayout now record nextStatus true payout world) with
        ⟨wallet, amount, allowed, moved⟩ | ⟨refused, error, moved⟩
      · rw [moved]
        exact .inl
          ⟨_, .refunded wallet amount due ((unpaid wallet amount).mp allowed),
          rfl⟩
      · rw [moved]
        exact .inr ⟨due, fun wallet amount was => refused wallet amount
          ((unpaid wallet amount).mpr was), error, rfl⟩

/-- Neither the write nor the refund touches a batch. -/
theorem Settled.batches {now : Time} {record : ProviderRecord}
    {nextStatus : TxStatus} {payout : Payout} {world settled : World}
    (settles : Settled now record nextStatus payout world settled) :
    settled.batches = world.batches := by
  cases settles with
  | kept => rfl
  | refunded => rfl

/-- A recount does not look at notices. -/
theorem noticed_withRecount {notices : List Dispatched} {before after : World}
    (now : Time) (batchId : Option Reference)
    (noticed : Noticed notices before after) :
    Noticed notices (withRecount now batchId before)
      (withRecount now batchId after) := by
  obtain ⟨deliveries, jobs, rfl⟩ := noticed
  cases batchId with
  | none => exact ⟨deliveries, jobs, rfl⟩
  | some batchId => exact ⟨deliveries, jobs, rfl⟩

/-- Every run of `applyPayoutUpdate` is one of the cases. -/
theorem run_applyPayoutUpdate (now : Time) (reference : Reference)
    (record : ProviderRecord) (world : World) :
    PayoutRun now reference record world
      ((applyPayoutUpdate now reference record).run world).1
      ((applyPayoutUpdate now reference record).run world).2 := by
  simp only [applyPayoutUpdate, Program.bind_perform, Program.run_query,
    Relation.findUnique, select, Platform.payouts]
  cases found : world.payouts.find? reference with
  | none => exact .unknown found
  | some payout =>
      dsimp only
      split
      · rename_i unreadable
        exact .unreadable payout found unreadable
      rename_i nextStatus mapped
      split
      · rename_i same
        exact .unchanged payout nextStatus found mapped same.1 same.2
      rename_i changes
      have at_key := found
      rw [← show payout.reference = reference from
        Table.key_of_find? found] at at_key
      by_cases fits : record.FitsPayout
      · simp only [finishPayout, fits, not_true_eq_false, if_false]
        generalize decision : decide (nextStatus ∈ TERMINAL_FAIL ∧
          payout.walletDebitedAt.isSome = true ∧ payout.refundedAt = none) =
            shouldRefund
        have decides : shouldRefund = true ↔ RefundDue nextStatus payout := by
          rw [← decision]
          exact decide_eq_true_iff
        simp only [run_updatePayout now record nextStatus shouldRefund at_key,
          Program.run_bind]
        rcases run_settle now record nextStatus payout world
          shouldRefund decides with
          ⟨settled, settles, ran⟩ | ⟨due, refused, error, ran⟩
        · obtain ⟨announced, ranAnnounce, noticed⟩ :=
            run_announcePayout now payout nextStatus settled
          simp only [ran, ranAnnounce]
          rcases run_recountBatch now payout.batchId announced with
            ⟨ranRecount, missing, batch, absent⟩ | ⟨recounts, after,
              ranRecount, single, more⟩
          · have batches : announced.batches = world.batches := by
              obtain ⟨deliveries, jobs, rfl⟩ := noticed
              exact settles.batches
            rw [ranRecount]
            rw [batches] at absent
            exact .uncounted payout nextStatus settled announced
              missing found mapped changes fits settles batch absent noticed
          · rw [ranRecount]
            exact .finished payout nextStatus settled after recounts
              found mapped changes
              fits settles single
                ((noticed_withRecount now _ noticed).trans more)
        · simp only [ran]
          exact .unrefunded payout nextStatus error found mapped changes
            fits due refused
      · simp only [finishPayout, fits, not_false_eq_true, if_true]
        exact .refused payout nextStatus found mapped changes fits

end CloudStudio.Payments
