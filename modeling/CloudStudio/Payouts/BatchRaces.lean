import CloudStudio.Payments.Threads
import CloudStudio.Payouts.BatchCounts

/-!
# Item updates of one batch at once

An update writes its item, reads the statuses of all items and writes the
counts, in three statements.  Another update may come between any two of them,
so a count can be old when it is written, and nothing corrects it afterwards.
The completion is never lost: whoever counts after the last item has been
written sees that all are final.
-/

namespace CloudStudio.Payouts

open Function
open CloudStudio.Data CloudStudio.Transactions CloudStudio.Platform
open CloudStudio.Payments
open CloudStudio.Wallets

/-- A fresh recount would leave the batch as it is. -/
def UpToDate (batchId : Reference) (world : World) : Prop :=
  ∃ batch, world.batches.find? batchId = some batch ∧
    recounted batch.updatedAt (itemStatuses world batchId) batch = batch

instance (batchId : Reference) (world : World) :
    Decidable (UpToDate batchId world) :=
  decidable_of_iff ((world.batches.find? batchId).any fun batch =>
    decide (recounted batch.updatedAt (itemStatuses world batchId) batch =
      batch)) <| by
      simp [UpToDate, Option.any_eq_true]

/-- All items of the batch are final. -/
def AllFinal (batchId : Reference) (world : World) : Prop :=
  ∀ status ∈ itemStatuses world batchId, status ∈ FINAL_STATUSES

instance (batchId : Reference) (world : World) :
    Decidable (AllFinal batchId world) :=
  inferInstanceAs (Decidable (∀ status ∈ itemStatuses world batchId, _))

/-- The event says that the batch is over. -/
def Completes (batchId : Reference) (notice : Dispatched) : Prop :=
  notice.event = .batchStatus ∧ notice.reference = batchId ∧
    ∃ status, notice.notice = .batch status ∧ status ≠ .processing

/-- A completion event of the batch has been dispatched. -/
def Completed (batchId : Reference) (world : World) : Prop :=
  ∃ notice ∈ world.dispatched, Completes batchId notice

/-- No update of the batch is underway. -/
structure InStep (batchId : Reference) (world : World) : Prop where
  upToDate : UpToDate batchId world
  completed : AllFinal batchId world → Completed batchId world

/-- A count of final items only says that the batch is over. -/
theorem batchStatusOf_final {statuses : List TxStatus}
    (final : ∀ status ∈ statuses, status ∈ FINAL_STATUSES) :
    batchStatusOf (statuses.countP fun status => status = .success)
      (statuses.countP fun status => status ∈ TERMINAL_FAIL) statuses.length ≠
        .processing := by
  have sum := length_eq_countP statuses
  have no_expired : statuses.countP (fun status => status = .expired) = 0 := by
    apply List.countP_eq_zero.mpr
    intro status member is
    have isFinal := final status member
    rw [of_decide_eq_true is] at isFinal
    exact absurd isFinal (by decide)
  have none_underway : statuses.countP (fun status => Underway status) = 0 := by
    apply List.countP_eq_zero.mpr
    intro status member is
    have isFinal := final status member
    rcases of_decide_eq_true is with rfl | rfl
    · exact absurd isFinal (by decide)
    · exact absurd isFinal (by decide)
  unfold batchStatusOf
  rw [if_pos (by omega)]
  split
  · exact nofun
  · split
    · exact nofun
    · exact nofun

/-- Right counters are up to date as long as the items are countable. -/
theorem CountersRight.upToDate {batchId : Reference} {world : World}
    (right : CountersRight batchId world)
    (countable : Countable (itemStatuses world batchId)) :
    UpToDate batchId world := by
  obtain ⟨batch, found, success, failed, status⟩ := right
  refine ⟨batch, found, ?_⟩
  simp only [recounted]
  rw [batchStatusOf_eq countable, ← success, ← failed, ← status]

/-- What an update still owes the batch: to count its items, to write what it
has counted, or to send the event. -/
inductive Owed where
  | nothing
  | count
  | write (statuses : List TxStatus)
  | event

/-- The update will write counts. -/
def Owed.Writes : Owed → Prop
  | .count | .write _ => True
  | .nothing | .event => False

/-- The update will send a completion event if all items stay final. -/
def Owed.Announces : Owed → Prop
  | .count | .event => True
  | .write statuses => ∀ status ∈ statuses, status ∈ FINAL_STATUSES
  | .nothing => False

variable {Id : Type}

/-- Where the batch is not in step, some update still owes it what is missing.
The counts are accounted for only where every count is current when it is
written. -/
structure Outstanding (assumed : List Expectation) (batchId : Reference)
    (start world : World) (held : Id → Owed) : Prop where
  items : ∀ reference, (world.payouts.find? reference).map Payout.batchId =
    (start.payouts.find? reference).map Payout.batchId
  completed : AllFinal batchId world →
    Completed batchId world ∨ ∃ id, (held id).Announces
  counted : .currentCount ∈ assumed →
    UpToDate batchId world ∨ ∃ id, (held id).Writes

variable [DecidableEq Id]

/-- An update that throws owes what it owed. -/
def accounting (assumed : List Expectation) (batchId : Reference)
    (start : World) :
    Protocol Id World RowKey Expectation Owed where
  assumed := assumed
  invariant := fun world _ held => Outstanding assumed batchId start world held
  guarantee := fun _ _ _ => True
  abandon := fun owed => owed
  guarantee_refl := fun _ _ => trivial
  invariant_abandon := by
    intro world owner held id kept
    rwa [update_eq_self]

section

variable {assumed : List Expectation} {batchId : Reference}
  {start world after : World}
variable {held : Id → Owed} {id : Id}

namespace Outstanding

omit [DecidableEq Id] in
/-- The rows of the items and of the batch are as they were, and events only
come in. -/
theorem beside (kept : Outstanding assumed batchId start world held)
    (payouts : after.payouts = world.payouts)
    (batch : after.batches.find? batchId = world.batches.find? batchId)
    (dispatched : world.dispatched ⊆ after.dispatched) :
    Outstanding assumed batchId start after held := by
  have statuses : itemStatuses after batchId = itemStatuses world batchId := by
    simp only [itemStatuses, payouts]
  constructor
  · rw [payouts]
    exact kept.items
  · intro final
    have was : AllFinal batchId world := by
      unfold AllFinal at final ⊢
      rwa [statuses] at final
    rcases kept.completed was with ⟨notice, member, completes⟩ | announced
    · exact .inl ⟨notice, dispatched member, completes⟩
    · exact .inr announced
  · intro strict
    rcases kept.counted strict with ⟨row, found, fresh⟩ | written
    · exact .inl ⟨row, batch.trans found, by rwa [statuses]⟩
    · exact .inr written

/-- An update changes what it owes, and pays for the difference. -/
theorem owe (kept : Outstanding assumed batchId start world held) {owed : Owed}
    (announces : AllFinal batchId world → (held id).Announces →
      Completed batchId world ∨ owed.Announces)
    (writes : .currentCount ∈ assumed → (held id).Writes →
      UpToDate batchId world ∨ owed.Writes) :
    Outstanding assumed batchId start world (update held id owed) := by
  have passes {property : Owed → Prop} {goal : Prop}
    (some_ : ∃ id, property (held id))
      (pays : property (held id) → goal ∨ property owed) :
      goal ∨ ∃ other, property (update held id owed other) := by
    obtain ⟨other, has⟩ := some_
    by_cases same : other = id
    · subst same
      rcases pays has with paid | still
      · exact .inl paid
      · exact .inr ⟨other, by rwa [update_self]⟩
    · exact .inr ⟨other, by rwa [update_of_ne same]⟩
  constructor
  · exact kept.items
  · intro final
    rcases kept.completed final with done | announced
    · exact .inl done
    · exact passes announced (announces final)
  · intro strict
    rcases kept.counted strict with fresh | written
    · exact .inl fresh
    · exact passes written (writes strict)

/-- An item of the batch has been written, and its update owes a recount. -/
theorem itemWritten (kept : Outstanding assumed batchId start world held)
    (now : Time) (record : ProviderRecord) (nextStatus : TxStatus)
    (shouldRefund : Bool) (payout : Payout) :
    Outstanding assumed batchId start
      (withPayout now record nextStatus shouldRefund payout world)
      (update held id .count) := by
  constructor
  · intro reference
    rw [← kept.items reference]
    simp only [withPayout, Table.find?_modify]
    split
    · rw [Option.map_map]
      rfl
    · rfl
  · exact fun _ => .inr ⟨id, by rw [update_self]; trivial⟩
  · exact fun _ => .inr ⟨id, by rw [update_self]; trivial⟩

omit [DecidableEq Id] in
/-- A row outside the batch has been written. -/
theorem otherWritten (kept : Outstanding assumed batchId start world held)
    (now : Time) (record : ProviderRecord) (nextStatus : TxStatus)
    (shouldRefund : Bool) {payout row : Payout}
    (found : world.payouts.find? payout.reference = some row)
    (other : row.batchId ≠ some batchId) :
    Outstanding assumed batchId start
      (withPayout now record nextStatus shouldRefund payout world) held := by
  have key : row.reference = payout.reference := Table.key_of_find? found
  have statuses :
    itemStatuses (withPayout now record nextStatus shouldRefund payout world)
      batchId = itemStatuses world batchId := by
    rw [itemStatuses_withPayout, ← key]
    exact statusesWith_other (key ▸ found) other nextStatus
  constructor
  · intro reference
    rw [← kept.items reference]
    simp only [withPayout, Table.find?_modify]
    split
    · rw [Option.map_map]
      rfl
    · rfl
  · intro final
    unfold AllFinal at final
    rw [statuses] at final
    exact kept.completed final
  · intro strict
    rcases kept.counted strict with ⟨batch, at_batch, fresh⟩ | written
    · exact .inl ⟨batch, at_batch, by rwa [statuses]⟩
    · exact .inr written

/-- The counts of the batch have been written. -/
theorem batchWritten (kept : Outstanding assumed batchId start world held)
    (now : Time) {statuses : List TxStatus} (own : held id = .write statuses)
    {batch : DisbursementBatch}
    (found : world.batches.find? batchId = some batch)
    (current : .currentCount ∈ assumed →
      recounted now statuses batch = recounted now (itemStatuses world batchId)
        batch) {owed : Owed}
    (announces : (recounted now statuses batch).status ≠ .processing →
      owed = .event) :
    Outstanding assumed batchId start
      ((updateBatch now batchId statuses).effect world world)
        (update held id owed) := by
  have stored :
    ((updateBatch now batchId statuses).effect world world).batches.find?
      batchId = some (recounted now statuses batch) := by
    simp only [updateBatch, Relation.update, Platform.batches,
      Table.find?_modify_self, found, Option.map_some]
  constructor
  · exact kept.items
  · intro final
    rcases kept.completed final with ⟨notice, member, completes⟩ | ⟨other,
      announced⟩
    · exact .inl ⟨notice, member, completes⟩
    · by_cases same : other = id
      · subst same
        rw [own] at announced
        refine .inr ⟨other, ?_⟩
        rw [update_self, announces (batchStatusOf_final announced)]
        trivial
      · exact .inr ⟨other, by rwa [update_of_ne same]⟩
  · intro strict
    refine .inl ⟨_, stored, ?_⟩
    rw [current strict]
    rfl

/-- The completion event has been dispatched. -/
theorem announced (kept : Outstanding assumed batchId start world held)
    (own : held id = .event) {notice : Dispatched}
    (completes : Completes batchId notice) :
    Outstanding assumed batchId start
      { world with dispatched := world.dispatched ++ [notice] }
      (update held id .nothing) := by
  have sent : Outstanding assumed batchId start
      { world with dispatched := world.dispatched ++ [notice] } held :=
    kept.beside rfl rfl (List.subset_append_left _ _)
  apply sent.owe
  · intro _ _
    exact .inl ⟨notice, by simp, completes⟩
  · intro _ writes
    rw [own] at writes
    exact writes.elim

end Outstanding

/-! ## The parts of an update -/

/-- Where an update may throw: anywhere. -/
abbrev Throws (_ : AppError) (_ : Owed) : Prop := True

/-- Deliveries, jobs, wallets and the ledger are nothing to the batch. -/
theorem ignores_beside {change : World → World}
    (payouts : ∀ world, (change world).payouts = world.payouts)
    (batches : ∀ world, (change world).batches = world.batches)
    (dispatched : ∀ world : World, world.dispatched ⊆
      (change world).dispatched) :
    Ignores (accounting assumed batchId start :
      Protocol Id World RowKey Expectation Owed) change := by
  intro world owner held kept
  refine ⟨?_, fun _ => trivial⟩
  have same : (change world).batches.find? batchId =
    world.batches.find? batchId := by
    rw [batches]
  exact Outstanding.beside kept (payouts world) same (dispatched world)

/-- The deliveries of an event keep what the update owes. -/
theorem deliver_accounted (now : Time) (notice : Dispatched)
    (endpoints : List WebhookEndpoint) (owed : Owed) :
    (Program.forEach endpoints (deliverTo now notice)).Safe
      (accounting assumed batchId start) id (fun _ left => left = owed)
        Throws owed := by
  apply deliveries_ignored
  · exact fun _ => ignores_beside (fun _ => rfl) (fun _ => rfl) fun _ =>
      List.Subset.refl _
  · exact fun _ _ => ignores_beside (fun _ => rfl) (fun _ => rfl) fun _ =>
      List.Subset.refl _
  · exact fun _ => trivial

/-- A dispatch owes nothing new. -/
theorem dispatch_accounted (now : Time) (notice : Dispatched) (owed : Owed) :
    (dispatch now notice).Safe (accounting assumed batchId start) id
      (fun _ left => left = owed) Throws owed := by
  apply dispatch_ignored
  · exact ignores_beside (fun _ => rfl) (fun _ => rfl) fun _ =>
      List.subset_append_left _ _
  · exact fun _ => ignores_beside (fun _ => rfl) (fun _ => rfl) fun _ =>
      List.Subset.refl _
  · exact fun _ _ => ignores_beside (fun _ => rfl) (fun _ => rfl) fun _ =>
      List.Subset.refl _
  · exact fun _ => trivial

/-- The completion event is no longer owed once its subscribers have been looked
up. -/
theorem dispatch_completion (now : Time) {notice : Dispatched}
    (completes : Completes batchId notice) :
    (dispatch now notice).Safe (accounting assumed batchId start) id
      (fun _ left => left = .nothing) Throws .event := by
  simp only [dispatch, Program.bind_perform]
  refine ⟨?_, fun _ => trivial⟩
  intro world owner held kept own _ _ endpoints _
  refine ⟨.nothing, Outstanding.announced kept own completes, trivial, ?_⟩
  exact Program.Safe.andThen (deliver_accounted now notice endpoints .nothing)
    fun _ _ same => same

theorem announcePayout_accounted (now : Time) (payout : Payout)
    (nextStatus : TxStatus) (owed : Owed) :
    (announcePayout now payout nextStatus).Safe
      (accounting assumed batchId start) id
      (fun _ left => left = owed) Throws owed := by
  have dispatched :
    (Program.discard (dispatch now (payoutNotice payout nextStatus))).Safe
      (accounting assumed batchId start) id (fun _ left => left = owed) Throws
        owed :=
    discard_safe (dispatch_accounted now (payoutNotice payout nextStatus) owed)
  unfold announcePayout
  split
  · refine Program.Safe.read (fun _ _ => rfl) ?_ fun _ => trivial
    exact fun _ _ _ _ _ _ _ => dispatched
  · exact dispatched

theorem move_accounted (now : Time) (input : MoveInput) (owed : Owed) :
    (move now input).Safe (accounting assumed batchId start) id
      (fun _ left => left = owed) Throws owed := by
  apply posting_safe
  · intro world owner held keys _ kept
    exact kept
  · exact fun _ => trivial
  · rfl
  · intro before after owner held kept own posted
    obtain ⟨wallets, row, rfl, _⟩ := posted
    refine ⟨owed, ?_, trivial, trivial, rfl⟩
    rw [← own, update_eq_self]
    exact Outstanding.beside kept rfl rfl (List.Subset.refl _)

/-- The refund, where one is due. -/
theorem whenMoved_accounted (condition : Prop) [Decidable condition]
    (now : Time) (input : MoveInput) (owed : Owed) :
    (Program.when condition (Program.discard (move now input))).Safe
      (accounting assumed batchId start) id (fun _ left => left = owed) Throws
        owed :=
  when_safe (fun _ => discard_safe (move_accounted now input owed)) fun _ => rfl

/-- The item's own event, where its row was not final. -/
theorem whenAnnounced_accounted (condition : Prop) [Decidable condition]
    (now : Time) (payout : Payout) (nextStatus : TxStatus) (owed : Owed) :
    (Program.when condition (announcePayout now payout nextStatus)).Safe
      (accounting assumed batchId start) id (fun _ left => left = owed) Throws
        owed :=
  when_safe (fun _ => announcePayout_accounted now payout nextStatus owed)
    fun _ => rfl

/-- An update of another batch owes this one nothing. -/
theorem otherBatch_accounted (now : Time) {other : Reference}
    (differs : other ≠ batchId) :
    (updateBatchCounters now other).Safe (accounting assumed batchId start) id
      (fun _ left => left = .nothing) Throws .nothing := by
  simp only [updateBatchCounters, Program.bind_perform]
  refine Program.Safe.read (fun _ _ => rfl) ?_ fun _ => trivial
  intro _ _ _ _ _ statuses _
  refine ⟨?_, fun _ => trivial⟩
  intro world owner held kept own _ _ batch _
  refine ⟨.nothing, ?_, trivial, ?_⟩
  · rw [← own, update_eq_self]
    refine Outstanding.beside kept rfl ?_ (List.Subset.refl _)
    exact Table.find?_modify_ne differs.symm _
      (recounted_reference now statuses)
  · apply when_safe
    · exact fun _ => discard_safe (dispatch_accounted now _ .nothing)
    · exact fun _ => rfl

/-- Counts that have been read are written, and their event is sent. -/
theorem writeCounts_accounted (now : Time) (statuses : List TxStatus) :
    (Program.perform (updateBatch now batchId statuses) >>= fun batch =>
      Program.when (batch.status ≠ .processing) (Program.discard (dispatch now
        ⟨.batchStatus, batch.accountId, batch.reference,
          .batch batch.status⟩))).Safe
      (accounting assumed batchId start) id (fun _ left => left = .nothing)
        Throws (.write statuses) := by
  refine ⟨?_, fun _ => trivial⟩
  intro world owner held kept own _ expected written answered
  simp only [updateBatch, Relation.update, Platform.batches] at answered
  cases found : world.batches.find? batchId with
  | none =>
      rw [found] at answered
      cases answered
  | some batch =>
      rw [found] at answered
      have is_written := Except.ok.inj answered
      have current (strict : .currentCount ∈ assumed) :
        recounted now statuses batch =
          recounted now (itemStatuses world batchId) batch := by
        have claimed := expected .currentCount strict
        simp only [updateBatch, found] at claimed
        exact of_decide_eq_true claimed
      have named : written.reference = batchId := by
        rw [← is_written, recounted_reference]
        exact Table.key_of_find? found
      by_cases isOver : written.status = .processing
      · refine ⟨.nothing, ?_, trivial, ?_⟩
        · apply Outstanding.batchWritten kept now own found current
          rw [is_written]
          exact fun ends => absurd isOver ends
        · apply when_safe
          · exact fun ends => absurd isOver ends
          · exact fun _ => rfl
      · refine ⟨.event, ?_, trivial, ?_⟩
        · apply Outstanding.batchWritten kept now own found current
          exact fun _ => rfl
        · apply when_safe
          · intro _
            apply discard_safe
            exact dispatch_completion now ⟨rfl, named, written.status, rfl,
              isOver⟩
          · exact fun ends => absurd isOver ends

/-- The recount of the batch pays what its update owes. -/
theorem updateBatchCounters_accounted (now : Time) :
    (updateBatchCounters now batchId).Safe (accounting assumed batchId start) id
      (fun _ left => left = .nothing) Throws .count := by
  refine ⟨?_, fun _ => trivial⟩
  intro world owner held kept own _ _ statuses answered
  have read : itemStatuses world batchId = statuses := Except.ok.inj answered
  refine ⟨.write statuses, ?_, trivial, writeCounts_accounted now statuses⟩
  apply Outstanding.owe kept
  · intro final _
    unfold AllFinal at final
    rw [read] at final
    exact .inr final
  · exact fun _ _ => .inr trivial

/-- What an update owes the batch once it has written its row. -/
def owedFor (batchId : Reference) (its : Option Reference) : Owed :=
  if its = some batchId then .count else .nothing

theorem recountBatch_accounted (now : Time) (its : Option Reference) :
    (recountBatch now its).Safe (accounting assumed batchId start) id
      (fun _ left => left = .nothing) Throws (owedFor batchId its) := by
  unfold recountBatch owedFor
  split
  · rename_i other
    by_cases same : other = batchId
    · subst same
      rw [if_pos rfl]
      exact updateBatchCounters_accounted now
    · rw [if_neg (fun named => same (Option.some.inj named))]
      exact otherBatch_accounted now same
  · rw [if_neg fun impossible => by cases impossible]
    exact rfl

/-- The write of a row, and all that follows it; the row is in the batch it was
in at the start. -/
theorem finishPayout_accounted (now : Time) (record : ProviderRecord)
    (nextStatus : TxStatus) (shouldRefund : Bool) {payout : Payout}
    (its : (start.payouts.find? payout.reference).map Payout.batchId =
      some payout.batchId) :
    (finishPayout now record nextStatus shouldRefund payout).Safe
      (accounting assumed batchId start) id (fun _ left => left = .nothing)
        Throws .nothing := by
  unfold finishPayout
  split
  · exact trivial
  rw [Program.bind_perform]
  refine ⟨?_, fun _ => trivial⟩
  intro world owner held kept own _ _ updated answered
  refine ⟨owedFor batchId payout.batchId, ?_, trivial, ?_⟩
  · unfold owedFor
    split
    · exact Outstanding.itemWritten kept now record nextStatus
        shouldRefund payout
    · rename_i other
      rw [← own, update_eq_self]
      cases found : world.payouts.find? payout.reference with
      | none =>
          simp only [updatePayout, Relation.update, Platform.payouts,
            found] at answered
          cases answered
      | some row =>
          apply Outstanding.otherWritten kept now record nextStatus
            shouldRefund found
          have same := kept.items payout.reference
          rw [its, found] at same
          rwa [Option.some.inj same]
  · refine Program.Safe.andThen (whenMoved_accounted _ now _ _) ?_
    intro _ left same
    subst same
    refine Program.Safe.andThen
      (whenAnnounced_accounted _ now payout nextStatus _) ?_
    intro _ left same
    subst same
    exact Program.Safe.andThen (recountBatch_accounted now payout.batchId)
      fun _ _ same => same

/-- An update that returns owes nothing. -/
theorem applyPayoutUpdate_accounted (now : Time) (orderReference : Reference)
    (record : ProviderRecord) :
    (applyPayoutUpdate now orderReference record).Safe
      (accounting assumed batchId start) id
      (fun _ left => left = .nothing) Throws .nothing := by
  rw [applyPayoutUpdate, Program.bind_perform]
  refine Program.Safe.read (fun _ _ => rfl) ?_ fun _ => trivial
  intro world owner held kept _ found answered
  cases found with
  | none => exact rfl
  | some payout =>
      have at_payout : world.payouts.find? orderReference = some payout :=
        Except.ok.inj answered
      have key : payout.reference = orderReference :=
        Table.key_of_find? at_payout
      dsimp only
      split
      · exact trivial
      split
      · exact rfl
      apply finishPayout_accounted
      rw [← kept.items, key, at_payout]
      rfl

end

/-- The updates, each of which has yet to run its first statement. -/
def applying (world : World) (calls : Id → Reference × Report) :
    Config Id World RowKey Expectation Site AppError Applied :=
  Config.start world fun id =>
    applyPayoutUpdate (calls id).2.now (calls id).1 (calls id).2.record

/-- Once updates that started on a batch in step have all returned, the batch
owes nothing. -/
theorem settled_run (assumed : List Expectation) {batchId : Reference}
    {world : World} (inStep : InStep batchId world)
    (calls : Id → Reference × Report) (schedule : List (Event Id AppError))
    (returned : ∀ id, ∃ applied,
      (((applying world calls).run schedule).thread id).outcome? =
        some (.returned applied))
    (expected : (applying world calls).AsExpected assumed schedule) :
    (AllFinal batchId ((applying world calls).run schedule).state →
      Completed batchId ((applying world calls).run schedule).state) ∧
    (.currentCount ∈ assumed →
      UpToDate batchId ((applying world calls).run schedule).state) := by
  have sound : Config.Sound (accounting assumed batchId world)
      (fun _ _ left => left = .nothing) (fun _ => Throws)
        (applying world calls) := by
    refine ⟨fun _ => .nothing, ?_, ?_⟩
    · constructor
      · exact fun _ => rfl
      · exact fun final => .inl (inStep.completed final)
      · exact fun _ => .inl inStep.upToDate
    · exact fun id => applyPayoutUpdate_accounted _ _ _
  obtain ⟨held, kept, ended⟩ := (sound.run schedule expected).ended
  have nothing (id : Id) : held id = .nothing := by
    obtain ⟨applied, outcome⟩ := returned id
    exact (ended id).1 applied outcome
  constructor
  · intro final
    rcases Outstanding.completed kept final with completed | ⟨id, announces⟩
    · exact completed
    · rw [nothing id] at announces
      exact announces.elim
  · intro strict
    rcases Outstanding.counted kept strict with upToDate | ⟨id, writes⟩
    · exact upToDate
    · rw [nothing id] at writes
      exact writes.elim

/-- However updates interleave, once all have returned the completion of a batch
whose items are all final has been dispatched; and as long as every recount
writes what a fresh one would, the counters and the status of the batch are what
a fresh recount gives. -/
theorem recounts_agree (batchId : Reference) (world : World)
    (inStep : InStep batchId world) (calls : Id → Reference × Report)
    (schedule : List (Event Id AppError)) (returned : ∀ id, ∃ applied,
      (((applying world calls).run schedule).thread id).outcome? =
        some (.returned applied)) :
    (AllFinal batchId ((applying world calls).run schedule).state →
      Completed batchId ((applying world calls).run schedule).state) ∧
    ((applying world calls).AsExpected [.currentCount] schedule →
      UpToDate batchId ((applying world calls).run schedule).state) := by
  constructor
  · exact (settled_run [] inStep calls schedule returned
      (Config.asExpected_nil _ _)).1
  · intro expected
    exact (settled_run [.currentCount] inStep calls schedule
      returned expected).2 List.mem_cons_self

/-- A batch of two items of 1000, as it is created. -/
def racedWorld : World where
  accounts :=
    Table.empty.insert { id := "a", accountId := "ACC-1"
                         sourceCode := "AAAAA" }
  wallets := Table.empty.insert { key := ⟨"a", .disbursement⟩ }
  batches := Table.empty.insert
    { accountId := "a", name := "pay", reference := "B", status := .processing
      totalCount := 2, totalAmount := Money.round 2000, createdAt :=
        1, updatedAt := 1 }
  payouts := (Table.empty.insert
    { accountId := "a", batchId := some "B", channel := .mobileMoney
      reference := "AAAAA000000000000001", amount := Money.round 1000
      phoneNumber := some "255712345678", walletDebitedAt :=
        some 1, createdAt := 1
      updatedAt := 1 }).insert
    { accountId := "a", batchId := some "B", channel := .mobileMoney
      reference := "AAAAA000000000000002", amount := Money.round 1000
      phoneNumber := some "255712345679", walletDebitedAt :=
        some 1, createdAt := 1
      updatedAt := 1 }

theorem inStep_racedWorld : InStep "B" racedWorld := by
  constructor
  · exact ⟨_, rfl, by decide +kernel⟩
  · intro final
    exact absurd final (by decide +kernel)

/-- Both items succeed. -/
def bothSucceed : Bool → Reference × Report
  | true => ("AAAAA000000000000001", ⟨3, { status := .given "SUCCESS" }⟩)
  | false => ("AAAAA000000000000002", ⟨3, { status := .given "SUCCESS" }⟩)

/-- Both updates have returned. -/
theorem bothReturned {schedule : List (Event Bool AppError)}
    (outcomes : ∀ id,
      (((applying racedWorld bothSucceed).run schedule).thread id).outcome? =
      some (.returned { handled := true, status := some .success }))
    (id : Bool) :
    ∃ applied,
      (((applying racedWorld bothSucceed).run schedule).thread id).outcome? =
      some (.returned applied) :=
  ⟨_, outcomes id⟩

/-- One update after the other. -/
def inTurn : List (Event Bool AppError) :=
  List.replicate 10 (.run true) ++ List.replicate 10 (.run false)

theorem recounts_agree_inTurn :
    Completed "B" ((applying racedWorld bothSucceed).run inTurn).state ∧
      UpToDate "B" ((applying racedWorld bothSucceed).run inTurn).state := by
  have agree :=
    recounts_agree "B" racedWorld inStep_racedWorld bothSucceed inTurn
    (bothReturned (by decide +kernel))
  exact ⟨agree.1 (by decide +kernel), agree.2 (by decide +kernel)⟩

/-- The second update runs as a whole between the read and the write of the
first one. -/
def overtaken : List (Event Bool AppError) :=
  List.replicate 5 (.run true) ++ List.replicate 10 (.run false) ++
    List.replicate 10 (.run true)

/-- The old count is written last: both items have succeeded, both updates have
returned, and the batch stays at one success and processing. -/
theorem overtaken_count :
    (∀ id, ∃ applied,
      (((applying racedWorld bothSucceed).run overtaken).thread id).outcome? =
      some (.returned applied)) ∧
    AllFinal "B" ((applying racedWorld bothSucceed).run overtaken).state ∧
    ¬ UpToDate "B" ((applying racedWorld bothSucceed).run overtaken).state :=
  ⟨bothReturned (by decide +kernel), by decide +kernel, by decide +kernel⟩

end CloudStudio.Payouts
