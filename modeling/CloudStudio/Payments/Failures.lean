import CloudStudio.Payments.Runs
import CloudStudio.Wallets.Failures

/-!
# Updates that fail before their movement commits

Each engine marks its row as final and credited or refunded in one write, and
starts the movement after it.  A failure between the two leaves the mark without
the movement; every other failure before the movement leaves the rows, the
wallets and the ledger as they were.
-/

namespace CloudStudio.Payments

open CloudStudio.Data CloudStudio.Transactions CloudStudio.Platform
open CloudStudio.Wallets

/-- The rows of the engines, the wallets and the ledger are as they were. -/
structure Untouched (before after : World) : Prop where
  collections : after.collections = before.collections
  deposits : after.deposits = before.deposits
  payouts : after.payouts = before.payouts
  wallets : after.wallets = before.wallets
  ledger : after.ledger = before.ledger

theorem Untouched.refl (world : World) : Untouched world world :=
  ⟨rfl, rfl, rfl, rfl, rfl⟩

theorem untouched_withConfig (world : World) (accountId : AccountId) :
    Untouched world (world.withConfig accountId) := by
  unfold World.withConfig
  split <;> exact ⟨rfl, rfl, rfl, rfl, rfl⟩

/-- A call that fails before a movement is committed has left everything as it
was. -/
def FailsSafely (before : World) (ended : Outcome AppError Applied × World) :
    Prop :=
  (∀ applied, ended.1 ≠ .returned applied) → ended.2.ledger = before.ledger →
    Untouched before ended.2

/-- Without a result the state is as it was. -/
theorem failsSafely_of_untouched {before : World}
    {ended : Outcome AppError Applied × World}
    (untouched : Untouched before ended.2) : FailsSafely before ended :=
  fun _ _ => untouched

/-- The program leaves the ledger alone, whatever fails. -/
def KeepsLedger {Result : Type} (program : Db Result) : Prop :=
  ∀ ledger,
    program.Holds (·.ledger = ledger) (fun _ after => after.ledger = ledger)
    (·.ledger = ledger)

section

variable {Answer Result : Type}

theorem KeepsLedger.returned (result : Result) :
    KeepsLedger (Program.returned result : Db Result) :=
  fun _ => .returned fun _ same => same

theorem KeepsLedger.bind {program : Db Answer} {rest : Answer → Db Result}
    (first : KeepsLedger program) (next : ∀ answer, KeepsLedger (rest answer)) :
    KeepsLedger (program >>= rest) :=
  fun ledger => (first ledger).bind fun answer => next answer ledger

theorem KeepsLedger.perform {statement : Statement Result}
    (same : ∀ world, (statement.effect world world).ledger = world.ledger) :
    KeepsLedger (Program.perform statement) := by
  intro ledger
  apply Program.Holds.perform ?_ fun _ kept => kept
  rintro answer after ⟨before, kept, _, rfl⟩
  exact (same before).trans kept

theorem KeepsLedger.when {condition : Prop} [Decidable condition]
    {program : Db Unit} (keeps : KeepsLedger program) :
    KeepsLedger (Program.when condition program) := by
  unfold Program.when
  split
  · exact keeps
  · exact .returned ()

theorem KeepsLedger.forEach {Item : Type} {step : Item → Db Unit}
    (keeps : ∀ item, KeepsLedger (step item)) (items : List Item) :
    KeepsLedger (Program.forEach items step) :=
  fun ledger => .forEach fun item _ => keeps item ledger

end

theorem dispatch_keepsLedger (now : Time) (notice : Dispatched) :
    KeepsLedger (dispatch now notice) := by
  apply (KeepsLedger.perform fun _ => rfl).bind
  intro endpoints
  have delivers :
    KeepsLedger (Program.forEach endpoints (deliverTo now notice)) := by
    apply KeepsLedger.forEach
    intro endpoint
    apply (KeepsLedger.perform fun _ => rfl).bind
    intro delivery
    apply (KeepsLedger.perform fun _ => rfl).bind
    exact fun _ => .returned _
  exact delivers.bind fun _ => .returned _

theorem whenDispatch_keepsLedger (condition : Prop) [Decidable condition]
    (now : Time) (notice : Dispatched) :
    KeepsLedger
      (Program.when condition (Program.discard (dispatch now notice))) :=
  .when ((dispatch_keepsLedger now notice).bind fun _ => .returned _)

theorem announcePayout_keepsLedger (now : Time) (payout : Payout)
    (nextStatus : TxStatus) :
    KeepsLedger (announcePayout now payout nextStatus) := by
  have dispatches : KeepsLedger
      (Program.discard (dispatch now (payoutNotice payout nextStatus))) :=
    (dispatch_keepsLedger now _).bind fun _ => .returned _
  unfold announcePayout
  split
  · exact (KeepsLedger.perform fun _ => rfl).bind fun _ => dispatches
  · exact dispatches

theorem recountBatch_keepsLedger (now : Time) (batchId : Option Reference) :
    KeepsLedger (recountBatch now batchId) := by
  cases batchId with
  | none => exact .returned ()
  | some batchId =>
      apply (KeepsLedger.perform fun _ => rfl).bind
      intro statuses
      apply (KeepsLedger.perform fun _ => rfl).bind
      exact fun batch => whenDispatch_keepsLedger _ now _

/-- Once the row is marked, a failure is safe only if the movement goes. -/
theorem failsSafely_marked_iff {now : Time} {input : MoveInput}
    {tail : Db Applied} {faults : Site → Option (Fault AppError)}
    {before marked : World} (keeps : KeepsLedger tail)
    (accounts : marked.accounts = before.accounts)
    (wallets : marked.wallets = before.wallets)
    (ledger : marked.ledger = before.ledger)
    (changed : ¬ Untouched before marked) :
    FailsSafely before
        ((Program.discard (move now input) >>= fun _ => tail).exec
          faults marked) ↔
      MoveGoes faults input before := by
  rw [← moveGoes_congr accounts wallets]
  have discards : (Program.discard (move now input)).exec faults marked =
      match (move now input).exec faults marked with
      | (.returned _, written) => (.returned (), written)
      | (.threw error, written) => (.threw error, written)
      | (.stopped, written) => (.stopped, written) := by
    change (move now input >>= fun _ => Program.returned ()).exec
      faults marked = _
    rw [Program.exec_bind]
    rcases (move now input).exec faults marked with ⟨_ | _ | _, written⟩ <;> rfl
  rcases exec_move now input faults marked with
    ⟨wallet, amount, allowed, clear, ran⟩ | ⟨stuck, outcome, ran, fails⟩
  · refine iff_of_true ?_ ⟨wallet, amount, allowed, clear⟩
    intro _ same
    have ends := keeps _ faults
      (marked.record (moveRow now input wallet amount wallet.balance)) rfl
    rw [Program.exec_bind, discards, ran] at same ⊢
    simp only at same ⊢
    exfalso
    have moved : (tail.exec faults
        (marked.record
          (moveRow now input wallet amount wallet.balance))).2.ledger =
        marked.ledger ++ [moveRow now input wallet amount wallet.balance] := by
      revert ends
      rcases tail.exec faults _ with ⟨_ | _ | _, after⟩
        <;> exact fun same => same
    rw [moved, ledger] at same
    simp at same
  · refine iff_of_false ?_ stuck
    intro safe
    rw [Program.exec_bind, discards, ran] at safe
    cases outcome with
    | returned row => exact fails row rfl
    | threw error => exact changed (safe nofun ledger)
    | stopped => exact changed (safe nofun ledger)

/-- A statement that fails ends the call where it is. -/
theorem untouched_of_failing {Answer : Type} {statement : Statement Answer}
    {rest : Answer → Db Applied} {faults : Site → Option (Fault AppError)}
    {before here : World} (untouched : Untouched before here)
    (fails : faults statement.label ≠ none) :
    Untouched before
      ((Program.perform statement >>= rest).exec faults here).2 := by
  rw [Program.exec_perform_bind]
  rcases fault : faults statement.label with _ | _ | _
  · exact (fails fault).elim
  · exact untouched
  · exact untouched

/-! ## Collections -/

/-- The statements that read the fee configuration of an account. -/
def feeSites (world : World) (accountId : AccountId) : List Site :=
  match world.feeConfigs.find? accountId with
  | some _ => ["feeConfig.find"]
  | none => ["feeConfig.find", "feeConfig.create"]

/-- The fee configuration is read, created where there is none, or the call
fails and leaves the state alone. -/
theorem exec_getConfig (accountId : AccountId)
    (faults : Site → Option (Fault AppError)) (world : World) :
    (Clear faults (feeSites world accountId) ∧
      (getConfig accountId).exec faults world =
        (.returned (world.configOf accountId), world.withConfig accountId)) ∨
    (¬ Clear faults (feeSites world accountId) ∧ ∃ outcome,
      (getConfig accountId).exec faults world = (outcome, world) ∧
        ∀ config, outcome ≠ .returned config) := by
  unfold feeSites getConfig
  rw [Program.exec_perform_bind]
  rcases find : faults "feeConfig.find" with _ | _ | _
  · simp only [Relation.findUnique, select, Platform.feeConfigs, find,
      World.configOf, World.withConfig]
    cases found : world.feeConfigs.find? accountId with
    | some config => exact .inl ⟨by simp [Clear, find], rfl⟩
    | none =>
        simp only [Program.exec_catching, Program.perform, Program.exec,
          Relation.create, found]
        rcases create : faults "feeConfig.create" with _ | _ | _
        · exact .inl ⟨by simp [Clear, find, create], rfl⟩
        · refine .inr ⟨by simp [Clear, create], ?_⟩
          -- alone, the reread finds what the first read found: nothing
          rcases reread : faults "feeConfig.reread" with _ | error | _
          · refine ⟨.threw (.missing .notFound "Fee config not found"), ?_, ?_⟩
            · simp only [Program.exec_bind, Program.exec, reread, found]
            · exact fun _ same => by cases same
          · refine ⟨.threw error, ?_, fun _ same => by cases same⟩
            simp only [Program.exec_bind, Program.exec, reread]
          · refine ⟨.stopped, ?_, fun _ same => by cases same⟩
            simp only [Program.exec_bind, Program.exec, reread]
        · exact .inr
            ⟨by simp [Clear, create], _, rfl, fun _ same => by cases same⟩
  · refine .inr ⟨?_, ?_⟩
    · cases world.feeConfigs.find? accountId <;> simp [Clear, find]
    · simp only [Relation.findUnique, select, find]
      exact ⟨_, rfl, fun _ same => by cases same⟩
  · refine .inr ⟨?_, ?_⟩
    · cases world.feeConfigs.find? accountId <;> simp [Clear, find]
    · simp only [Relation.findUnique, select, find]
      exact ⟨_, rfl, fun _ same => by cases same⟩

/-- The record makes the named collection a success that is to be credited
now. -/
structure CollectionDue (reference : Reference) (record : ProviderRecord)
    (world : World) (collection : Collection) : Prop where
  found : world.collections.find? reference = some collection
  success : record.nextStatus? = some .success
  unsettled : collection.status ≠ .success
  uncredited : collection.walletCreditedAt = none

/-- What the fee is computed on, when the record fits the columns. -/
def grossAmount (record : ProviderRecord) (collection : Collection) : Decimal :=
  record.collectedAmount.value?.getD collection.amount

/-- The movement an update makes when it credits the collection. -/
def dueCredit (now : Time) (record : ProviderRecord) (world : World)
    (collection : Collection) : MoveInput :=
  creditOf now record .success
    ((world.configOf collection.accountId).fee .collection
      (grossAmount record collection))
    collection

/-- The update gets as far as its row write. -/
def CollectionWrites (faults : Site → Option (Fault AppError))
    (record : ProviderRecord) (world : World) (collection : Collection) :
    Prop :=
  record.FitsPayment ∧
    Clear faults ("collection.find" :: feeSites world collection.accountId ++
      ["collection.update"])

theorem feeBasis_eq_gross {record : ProviderRecord} (fits : record.FitsPayment)
    (collection : Collection) :
    feeBasis record collection = .value (grossAmount record collection) := by
  have typed := fits.2.2.1
  unfold feeBasis grossAmount
  cases amount : record.collectedAmount with
  | given value => rfl
  | missing => rfl
  | null => rfl
  | illTyped => exact absurd amount typed

section

variable {now : Time} {reference : Reference} {record : ProviderRecord}
  {world : World}
variable {faults : Site → Option (Fault AppError)}

/-- An update that is due, from its fee on. -/
theorem exec_collectionDue {collection : Collection}
    (due : CollectionDue reference record world collection)
    (finds : faults "collection.find" = none) :
    (applyCollectionUpdate now reference record).exec faults world =
      (computeFee .collection collection.accountId
        (feeBasis record collection) >>= fun fee =>
        finishCollection now record .success (some fee) collection).exec
          faults world := by
  have unsettled :
    ¬ (collection.status ∈ FINAL_STATUSES ∧ collection.status = .success) :=
    fun settled => due.unsettled settled.2
  have finds' :
    faults (collections.findUnique "collection.find" reference).label = none :=
    finds
  unfold applyCollectionUpdate
  rw [Program.exec_perform_bind, finds']
  simp only [Relation.findUnique, select, Platform.collections,
    due.found, due.success, if_neg unsettled, due.uncredited, and_self, if_true]

/-- Up to the row write an update changes at most the fee configurations. -/
theorem computeFee_untouched (kind : FeeKind) (accountId : AccountId)
    (amount : NumberInput) :
    (computeFee kind accountId amount).Holds (· = world)
      (fun _ after => Untouched world after) (Untouched world) := by
  have config : (getConfig accountId).Holds (· = world)
    (fun _ after => Untouched world after)
      (Untouched world) := by
    intro faults state same
    subst same
    rcases exec_getConfig accountId faults state with
      ⟨_, ran⟩ | ⟨_, outcome, ran, _⟩
    · rw [ran]
      exact untouched_withConfig state accountId
    · rw [ran]
      cases outcome <;> exact .refl state
  apply config.bind
  intro found
  cases amount with
  | value value => exact .returned fun _ untouched => untouched
  | nonFinite => exact .threw fun _ untouched => untouched
  | malformed => exact .threw fun _ untouched => untouched

theorem exec_computeFee (kind : FeeKind) (accountId : AccountId)
    (value : Decimal) (faults : Site → Option (Fault AppError))
    (world : World) :
    (Clear faults (feeSites world accountId) ∧
      (computeFee kind accountId (.value value)).exec faults world =
        (.returned ((world.configOf accountId).fee kind value),
          world.withConfig accountId)) ∨
    (¬ Clear faults (feeSites world accountId) ∧ ∃ outcome,
      (computeFee kind accountId (.value value)).exec faults world =
        (outcome, world) ∧ ∀ fee, outcome ≠ .returned fee) := by
  unfold computeFee
  rw [Program.exec_bind]
  rcases exec_getConfig accountId faults world with ⟨clear, ran⟩ | ⟨stuck,
    outcome, ran, fails⟩
  · rw [ran]
    exact .inl ⟨clear, rfl⟩
  · rw [ran]
    refine .inr ⟨stuck, ?_⟩
    cases outcome with
    | returned config => exact (fails config rfl).elim
    | threw error => exact ⟨.threw error, rfl, fun _ same => by cases same⟩
    | stopped => exact ⟨.stopped, rfl, fun _ same => by cases same⟩

/-- The row is marked as credited, so it is not as it was. -/
theorem withCollection_changes {now : Time} {fee : ComputedFee}
    {collection : Collection}
    (found : world.collections.find? collection.reference = some collection)
    (uncredited : collection.walletCreditedAt = none) (here : World)
    (same : here.collections = world.collections) :
    ¬ Untouched world
      (withCollection now record .success (some fee) collection here) := by
  intro untouched
  have kept := untouched.collections
  simp only [withCollection, same, Table.modify_eq_self_iff found] at kept
  have credited := congrArg Collection.walletCreditedAt kept
  rw [uncredited] at credited
  cases credited

theorem collection_failsSafely_iff {collection : Collection}
    (due : CollectionDue reference record world collection) :
    FailsSafely world ((applyCollectionUpdate now reference record).exec
      faults world) ↔ (CollectionWrites faults record world collection →
        MoveGoes faults (dueCredit now record world collection) world) := by
  have key : collection.reference = reference := Table.key_of_find? due.found
  by_cases finds : faults "collection.find" = none
  swap
  · refine iff_of_true (failsSafely_of_untouched
      (untouched_of_failing (.refl world) finds)) ?_
    exact fun writes => absurd (writes.2 _ List.mem_cons_self) finds
  rw [exec_collectionDue due finds, Program.exec_bind]
  by_cases fits : record.FitsPayment
  swap
  -- a record that does not fit ends the call before the write
  · refine iff_of_true (failsSafely_of_untouched ?_) fun writes =>
      absurd writes.1 fits
    have ends := computeFee_untouched .collection collection.accountId
      (feeBasis record collection) faults world rfl
    generalize (computeFee _ _ _).exec faults world = ended at ends ⊢
    rcases ended with ⟨fee | error | _, after⟩
    · simp only [finishCollection, fits, not_false_eq_true, if_true]
      exact ends
    · exact ends
    · exact ends
  rw [feeBasis_eq_gross fits]
  rcases exec_computeFee .collection collection.accountId
    (grossAmount record collection) faults world with ⟨clear, ran⟩ | ⟨stuck,
      outcome, ran, fails⟩
  swap
  · rw [ran]
    refine iff_of_true (failsSafely_of_untouched ?_) ?_
    · cases outcome with
      | returned fee => exact (fails fee rfl).elim
      | threw error => exact .refl world
      | stopped => exact .refl world
    · intro writes
      exact absurd (fun site member => writes.2 site
        (List.mem_cons_of_mem _ (List.mem_append_left _ member))) stuck
  rw [ran]
  obtain ⟨accounts, wallets, collections⟩ :=
    withConfig_rest world collection.accountId
  have at_key : (world.withConfig collection.accountId).collections.find?
      collection.reference = some collection := by
    rw [collections, key]
    exact due.found
  simp only [finishCollection, fits, not_true_eq_false, if_false]
  by_cases update : faults "collection.update" = none
  swap
  · refine iff_of_true (failsSafely_of_untouched
      (untouched_of_failing (untouched_withConfig world _) update)) ?_
    exact fun writes => absurd (writes.2 "collection.update" (by simp)) update
  rw [Program.exec_perform_bind]
  have update' : faults (updateCollection now record .success
      (some ((world.configOf collection.accountId).fee .collection
        (grossAmount record collection))) collection).label = none := update
  rw [update']
  simp only [updateCollection, Relation.update, Platform.collections, at_key]
  have writes : CollectionWrites faults record world collection := by
    refine ⟨fits, ?_⟩
    simp only [List.cons_append, clear_cons, clear_append]
    exact ⟨finds, clear, update, clear_nil⟩
  rw [forall_prop_of_true writes]
  apply failsSafely_marked_iff
  · exact (whenDispatch_keepsLedger _ now _).bind fun _ => .returned _
  · exact accounts
  · exact wallets
  · exact (untouched_withConfig world collection.accountId).ledger
  · exact withCollection_changes
      (by rw [key]; exact due.found) due.uncredited _ collections

/-- The record makes the named deposit a success that is to be credited now. -/
structure DepositDue (reference : Reference) (record : ProviderRecord)
    (world : World) (deposit : Deposit) : Prop where
  found : world.deposits.find? reference = some deposit
  success : record.nextStatus? = some .success
  unsettled : deposit.status ≠ .success
  uncredited : deposit.walletCreditedAt = none

def DepositWrites (faults : Site → Option (Fault AppError))
    (record : ProviderRecord) : Prop :=
  record.FitsPayment ∧ Clear faults ["deposit.find", "deposit.update"]

theorem deposit_failsSafely_iff {deposit : Deposit}
    (due : DepositDue reference record world deposit) :
    FailsSafely world ((applyDepositUpdate now reference record).exec
      faults world) ↔ (DepositWrites faults record →
        MoveGoes faults (depositCreditOf now record .success deposit)
          world) := by
  have key : deposit.reference = reference := Table.key_of_find? due.found
  have at_key : world.deposits.find? deposit.reference = some deposit := by
    rw [key]
    exact due.found
  by_cases finds : faults "deposit.find" = none
  swap
  · refine iff_of_true (failsSafely_of_untouched
      (untouched_of_failing (.refl world) finds)) ?_
    exact fun writes => absurd (writes.2 _ List.mem_cons_self) finds
  have unsettled :
    ¬ (deposit.status ∈ FINAL_STATUSES ∧ deposit.status = .success) :=
    fun settled => due.unsettled settled.2
  have shouldCredit : decide (True ∧ deposit.walletCreditedAt = none) =
    true := by
    simp [due.uncredited]
  have finds' : faults (deposits.findUnique "deposit.find" reference).label =
    none := finds
  unfold applyDepositUpdate
  rw [Program.exec_perform_bind, finds']
  simp only [Relation.findUnique, select, Platform.deposits,
    due.found, due.success, if_neg unsettled, shouldCredit, finishDeposit]
  by_cases fits : record.FitsPayment
  swap
  · refine iff_of_true (failsSafely_of_untouched ?_) fun writes =>
      absurd writes.1 fits
    simp only [fits, not_false_eq_true, if_true]
    exact .refl world
  simp only [fits, not_true_eq_false, if_false, Program.when, if_true]
  by_cases update : faults "deposit.update" = none
  swap
  · refine iff_of_true (failsSafely_of_untouched
      (untouched_of_failing (.refl world) update)) ?_
    exact fun writes => absurd (writes.2 "deposit.update" (by simp)) update
  have update' : faults (updateDeposit now record .success true deposit).label =
    none :=
    update
  rw [Program.exec_perform_bind, update']
  simp only [updateDeposit, Relation.update, Platform.deposits, at_key]
  have writes : DepositWrites faults record :=
    ⟨fits, by simp [Clear, finds, update]⟩
  rw [forall_prop_of_true writes]
  apply failsSafely_marked_iff
  · exact (whenDispatch_keepsLedger _ now _).bind fun _ => .returned _
  · rfl
  · rfl
  · rfl
  · intro untouched
    have kept := untouched.deposits
    simp only [Table.modify_eq_self_iff at_key] at kept
    have credited := congrArg Deposit.walletCreditedAt kept
    rw [due.uncredited] at credited
    cases credited

/-- The record fails the named payout, which is to be refunded now. -/
structure PayoutDue (reference : Reference) (record : ProviderRecord)
    (world : World) (payout : Payout) (nextStatus : TxStatus) : Prop where
  found : world.payouts.find? reference = some payout
  mapped : record.nextStatus? = some nextStatus
  changes : payout.status ≠ nextStatus
  refund : RefundDue nextStatus payout

def PayoutWrites (faults : Site → Option (Fault AppError))
    (record : ProviderRecord) : Prop :=
  record.FitsPayout ∧ Clear faults ["payout.find", "payout.update"]

theorem payout_failsSafely_iff {payout : Payout} {nextStatus : TxStatus}
    (due : PayoutDue reference record world payout nextStatus) :
    FailsSafely world ((applyPayoutUpdate now reference record).exec
      faults world) ↔
      (PayoutWrites faults record →
        MoveGoes faults (payoutRefund payout) world) := by
  have key : payout.reference = reference := Table.key_of_find? due.found
  have at_key : world.payouts.find? payout.reference = some payout := by
    rw [key]
    exact due.found
  by_cases finds : faults "payout.find" = none
  swap
  · refine iff_of_true (failsSafely_of_untouched
      (untouched_of_failing (.refl world) finds)) ?_
    exact fun writes => absurd (writes.2 _ List.mem_cons_self) finds
  have changes :
    ¬ (payout.status ∈ FINAL_STATUSES ∧ payout.status = nextStatus) :=
    fun same => due.changes same.2
  have shouldRefund :
    decide (nextStatus ∈ TERMINAL_FAIL ∧ payout.walletDebitedAt.isSome ∧
      payout.refundedAt = none) = true := decide_eq_true due.refund
  have finds' : faults (payouts.findUnique "payout.find" reference).label =
    none := finds
  unfold applyPayoutUpdate
  rw [Program.exec_perform_bind, finds']
  simp only [Relation.findUnique, select, Platform.payouts,
    due.found, due.mapped, if_neg changes, shouldRefund, finishPayout]
  by_cases fits : record.FitsPayout
  swap
  · refine iff_of_true (failsSafely_of_untouched ?_) fun writes =>
      absurd writes.1 fits
    simp only [fits, not_false_eq_true, if_true]
    exact .refl world
  simp only [fits, not_true_eq_false, if_false, Program.when, if_true]
  by_cases update : faults "payout.update" = none
  swap
  · refine iff_of_true (failsSafely_of_untouched
      (untouched_of_failing (.refl world) update)) ?_
    exact fun writes => absurd (writes.2 "payout.update" (by simp)) update
  have update' : faults (updatePayout now record nextStatus true payout).label =
    none :=
    update
  rw [Program.exec_perform_bind, update']
  simp only [updatePayout, Relation.update, Platform.payouts, at_key]
  have writes : PayoutWrites faults record :=
    ⟨fits, by simp [Clear, finds, update]⟩
  rw [forall_prop_of_true writes]
  apply failsSafely_marked_iff
  · apply KeepsLedger.bind
    · exact .when (announcePayout_keepsLedger now payout nextStatus)
    intro _
    exact (recountBatch_keepsLedger now payout.batchId).bind
      fun _ => .returned _
  · rfl
  · rfl
  · rfl
  · intro untouched
    have kept := untouched.payouts
    simp only [Table.modify_eq_self_iff at_key] at kept
    have refunded := congrArg Payout.refundedAt kept
    rw [due.refund.2.2] at refunded
    cases refunded

/-- For every state, record and choice of failing statements: an update with a
movement due that fails before the movement commits leaves rows, wallets and
ledger as they were exactly when it does not get as far as its row write, or
else the movement goes. -/
theorem failsSafely_iff (now : Time) (reference : Reference)
    (record : ProviderRecord) (faults : Site → Option (Fault AppError))
    (world : World) :
    ((∀ collection, CollectionDue reference record world collection →
        FailsSafely world
          ((applyCollectionUpdate now reference record).exec faults world)) ↔
      ∀ collection, CollectionDue reference record world collection →
        CollectionWrites faults record world collection →
        MoveGoes faults (dueCredit now record world collection) world) ∧
    ((∀ deposit, DepositDue reference record world deposit →
        FailsSafely world
          ((applyDepositUpdate now reference record).exec faults world)) ↔
      ∀ deposit, DepositDue reference record world deposit →
        DepositWrites faults record →
        MoveGoes faults (depositCreditOf now record .success deposit) world) ∧
    ((∀ payout nextStatus, PayoutDue reference record world payout nextStatus →
        FailsSafely world
          ((applyPayoutUpdate now reference record).exec faults world)) ↔
      ∀ payout nextStatus, PayoutDue reference record world payout nextStatus →
        PayoutWrites faults record →
          MoveGoes faults (payoutRefund payout) world) := by
  refine ⟨?_, ?_, ?_⟩
  · exact forall_congr' fun collection => forall_congr' fun due =>
      collection_failsSafely_iff due
  · exact forall_congr' fun deposit => forall_congr' fun due =>
      deposit_failsSafely_iff due
  · exact forall_congr' fun payout => forall_congr' fun nextStatus =>
      forall_congr' fun due => payout_failsSafely_iff due

end

/-- The process stops when the movement of a collection is about to commit. -/
def stopsAtCommit (site : Site) : Option (Fault AppError) :=
  if site = "move.commit" then some .stops else none

/-- The collection is marked as a success and credited, and nothing was
credited. -/
theorem marked_without_credit :
    ¬ FailsSafely pendingWorld ((applyCollectionUpdate 2 "AAAAA000000000000001"
        { status := .given "SUCCESS" }).exec stopsAtCommit pendingWorld) ∧
    (((applyCollectionUpdate 2 "AAAAA000000000000001"
        { status := .given "SUCCESS" }).exec stopsAtCommit
          pendingWorld).2.collections.rows.map
      fun row => (row.status, row.walletCreditedAt)) = [(.success, some 2)] ∧
    ((applyCollectionUpdate 2 "AAAAA000000000000001"
        { status := .given "SUCCESS" }).exec stopsAtCommit
          pendingWorld).2.ledger = [] := by
  have ledger : ((applyCollectionUpdate 2 "AAAAA000000000000001"
      { status := .given "SUCCESS" }).exec stopsAtCommit
        pendingWorld).2.ledger = [] := by
    decide +kernel
  have rows : (((applyCollectionUpdate 2 "AAAAA000000000000001"
      { status := .given "SUCCESS" }).exec stopsAtCommit
        pendingWorld).2.collections.rows.map
      fun row => (row.status, row.walletCreditedAt)) =
        [(.success, some 2)] := by
    decide +kernel
  have stopped : ((applyCollectionUpdate 2 "AAAAA000000000000001"
      { status := .given "SUCCESS" }).exec stopsAtCommit pendingWorld).1 =
        .stopped := by
    decide +kernel
  refine ⟨fun safe => ?_, rows, ledger⟩
  have untouched :=
    safe (fun applied returned => by rw [stopped] at returned; cases returned)
    ledger
  rw [untouched.collections] at rows
  revert rows
  decide +kernel

end CloudStudio.Payments
