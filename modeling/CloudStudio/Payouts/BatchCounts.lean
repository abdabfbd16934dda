import CloudStudio.Payments.StatusHistory
import CloudStudio.Payouts.Batches
import CloudStudio.Payouts.Jobs

/-!
# What a batch says about its items

Every item update that gets to its end recomputes the counters of its batch from
the rows. So the counters are right after any sequence of updates and job runs,
unless an update writes its row and then throws, or an item expires: an expired
item is neither a success nor a failure to the recount, and the batch is never
done.
-/

namespace CloudStudio.Payouts

open CloudStudio.Data CloudStudio.Transactions CloudStudio.Platform
open CloudStudio.Payments
open CloudStudio.Wallets

/-- An item that is not over yet. -/
def Underway (status : TxStatus) : Prop :=
  status = .pending ∨ status = .processing

instance (status : TxStatus) : Decidable (Underway status) :=
  inferInstanceAs (Decidable (_ ∨ _))

/-- The status of a batch with these items: over when none is underway. -/
def statusOfItems (statuses : List TxStatus) : BatchStatus :=
  if ∃ status ∈ statuses, Underway status then .processing
  else if ∀ status ∈ statuses, status = .success then .completed
  else if ∀ status ∈ statuses, status ≠ .success then .failed
  else .partiallyFailed

/-- The counters and the status of a batch are those of its rows. -/
def CountersRight (reference : Reference) (world : World) : Prop :=
  ∃ batch, world.batches.find? reference = some batch ∧
    batch.successCount =
      (itemStatuses world reference).countP (fun status => status = .success) ∧
    batch.failedCount =
      (itemStatuses world reference).countP (fun status =>
        status ∈ TERMINAL_FAIL) ∧
    batch.status = statusOfItems (itemStatuses world reference)

/-- No item has expired, unless another is still underway. -/
def Countable (statuses : List TxStatus) : Prop :=
  .expired ∈ statuses → ∃ status ∈ statuses, Underway status

instance (statuses : List TxStatus) : Decidable (Countable statuses) :=
  inferInstanceAs (Decidable (_ → _))

/-- Successes, failures, expired items and items underway are all there are. -/
theorem length_eq_countP (statuses : List TxStatus) :
    statuses.length =
      statuses.countP (fun status => status = .success) +
        statuses.countP (fun status => status ∈ TERMINAL_FAIL) +
        (statuses.countP (fun status => status = .expired) +
          statuses.countP (fun status => Underway status)) := by
  induction statuses with
  | nil => rfl
  | cons status rest ih =>
      rw [List.length_cons, ih]
      cases status <;> simp [TERMINAL_FAIL, Underway] <;> omega

/-- The recount's status is the right one when the items are countable. -/
theorem batchStatusOf_eq {statuses : List TxStatus}
    (countable : Countable statuses) :
    batchStatusOf (statuses.countP fun status => status = .success)
        (statuses.countP fun status => status ∈ TERMINAL_FAIL) statuses.length =
      statusOfItems statuses := by
  have sum := length_eq_countP statuses
  unfold batchStatusOf statusOfItems
  by_cases underway : ∃ status ∈ statuses, Underway status
  · have some_ : 0 < statuses.countP (fun status => Underway status) := by
      obtain ⟨status, member, is⟩ := underway
      exact List.countP_pos_iff.mpr ⟨status, member, decide_eq_true is⟩
    rw [if_pos underway, if_neg]
    omega
  · have unexpired : TxStatus.expired ∉ statuses := fun expired =>
      underway (countable expired)
    have no_expired : statuses.countP (fun status => status = .expired) =
      0 := by
      apply List.countP_eq_zero.mpr
      intro status member is
      rw [of_decide_eq_true is] at member
      exact unexpired member
    have none_ : statuses.countP (fun status => Underway status) = 0 := by
      apply List.countP_eq_zero.mpr
      intro status member is
      exact underway ⟨status, member, of_decide_eq_true is⟩
    have all_iff : statuses.countP (fun status => status = .success) =
      statuses.length ↔
        ∀ status ∈ statuses, status = .success := by
      rw [List.countP_eq_length]
      simp only [decide_eq_true_eq]
    have none_iff : statuses.countP (fun status => status = .success) = 0 ↔
        ∀ status ∈ statuses, status ≠ .success := by
      rw [List.countP_eq_zero]
      simp only [decide_eq_true_eq, ne_eq]
    rw [if_neg underway, if_pos (by omega)]
    simp only [all_iff, none_iff]

/-- The statuses of a batch's items, with one item given another status. -/
def statusesWith (world : World) (batchId item : Reference)
    (status : TxStatus) : List TxStatus :=
  (world.payouts.rows.filter fun payout => payout.batchId = some batchId).map
    fun payout => if payout.reference = item then status else payout.status

section

variable {batchId : Reference} {world settled : World} {payout : Payout}

/-- A write to a row gives the item its status. -/
theorem itemStatuses_withPayout (now : Time) (record : ProviderRecord)
    (nextStatus : TxStatus) (shouldRefund : Bool) (batchId : Reference)
    (payout : Payout) (world : World) :
    itemStatuses (withPayout now record nextStatus shouldRefund payout world)
      batchId = statusesWith world batchId payout.reference nextStatus := by
  have rows :
    (withPayout now record nextStatus shouldRefund payout world).payouts.rows =
      world.payouts.rows.map fun row => if row.reference = payout.reference then
        payoutUpdate now record nextStatus shouldRefund payout row else row :=
          rfl
  unfold itemStatuses statusesWith
  rw [rows, List.filter_map, List.map_map]
  have kept :
    ((fun row : Payout => decide (row.batchId = some batchId)) ∘ fun row =>
      if row.reference = payout.reference then
        payoutUpdate now record nextStatus shouldRefund payout row else row) =
      fun row => decide (row.batchId = some batchId) := by
    funext row
    simp only [Function.comp_apply]
    split <;> rfl
  rw [kept]
  apply List.map_congr_left
  intro row _
  simp only [Function.comp_apply]
  split <;> rfl

/-- The refund touches no row. -/
theorem itemStatuses_settled {now : Time} {record : ProviderRecord} {nextStatus : TxStatus}
    (settles : Payments.Settled now record nextStatus payout world settled)
    (batchId : Reference) :
    itemStatuses settled batchId = statusesWith world batchId payout.reference nextStatus := by
  cases settles with
  | kept => exact itemStatuses_withPayout now record nextStatus false batchId payout world
  | refunded => exact itemStatuses_withPayout now record nextStatus true batchId payout world

/-- A row outside the batch is no item of it. -/
theorem statusesWith_other
    (found : world.payouts.find? payout.reference = some payout)
    (other : payout.batchId ≠ some batchId) (status : TxStatus) :
    statusesWith world batchId payout.reference status =
      itemStatuses world batchId := by
  apply List.map_congr_left
  intro row member
  obtain ⟨at_row, named⟩ := List.mem_filter.mp member
  apply if_neg
  intro same
  have row_found := Table.find?_of_mem at_row
  rw [same, found] at row_found
  cases row_found
  exact other (of_decide_eq_true named)

/-- The counters read the batch row and the item rows only. -/
theorem CountersRight.congr {before after : World}
    (right : CountersRight batchId before)
    (batches : after.batches.find? batchId = before.batches.find? batchId)
    (items : itemStatuses after batchId = itemStatuses before batchId) :
    CountersRight batchId after := by
  obtain ⟨batch, found, counts⟩ := right
  refine ⟨batch, batches.trans found, ?_⟩
  rw [items]
  exact counts

theorem CountersRight.noticed {notices : List Dispatched} {after : World}
    (right : CountersRight batchId settled)
    (noticed : Noticed notices settled after) :
    CountersRight batchId after := by
  obtain ⟨deliveries, jobs, rfl⟩ := noticed
  exact right

/-- A recount makes the counters right. -/
theorem countersRight_withRecount (now : Time)
    (found : (settled.batches.find? batchId).isSome)
    (countable : Countable (itemStatuses settled batchId)) :
    CountersRight batchId (withRecount now (some batchId) settled) := by
  obtain ⟨batch, at_batch⟩ := Option.isSome_iff_exists.mp found
  refine ⟨recounted now (itemStatuses settled batchId) batch, ?_, rfl, rfl, ?_⟩
  · simp only [withRecount, Table.find?_modify_self, at_batch]
    rfl
  · exact batchStatusOf_eq countable

end

/-- An update of an item keeps its batch countable, and makes the refund that is
due. -/
def UpdateCounts (batchId item : Reference) (report : Report) (world : World) :
    Prop :=
  ∀ payout status, world.payouts.find? item = some payout →
    payout.batchId = some batchId → readStatus .payout report = some status →
    ¬ (payout.status ∈ FINAL_STATUSES ∧ payout.status = status) →
    ¬ MovementRefused .payout item world report ∧
      Countable (statusesWith world batchId item status)

/-- An update that counts leaves the counters of every batch right that were. -/
theorem update_countersRight {batchId item : Reference} {report : Report}
    {world : World} (right : CountersRight batchId world)
    (counts : UpdateCounts batchId item report world) :
    CountersRight batchId (afterUpdate .payout item world report) := by
  obtain ⟨result, runs⟩ : ∃ result,
    PayoutRun report.now item report.record world result
      (afterUpdate .payout item world report) :=
    ⟨_, run_applyPayoutUpdate report.now item report.record world⟩
  generalize afterUpdate .payout item world report = after at runs
  cases runs with
  | unknown => exact right
  | unreadable => exact right
  | unchanged => exact right
  | refused => exact right
  | unrefunded payout nextStatus error found mapped changes fits due refused =>
      have key : payout.reference = item := Table.key_of_find? found
      by_cases its : payout.batchId = some batchId
      · have read := (readStatus_of_fits .payout report fits).trans mapped
        have made := (counts payout nextStatus found its read changes).1
        refine absurd ⟨payoutRefund payout, ?_, refused⟩ made
        rw [dueMovement_payout found mapped, if_pos due]
      · refine right.congr ?_ ?_
        · rfl
        · rw [itemStatuses_withPayout, statusesWith_other (key ▸ found) its]
  | uncounted payout nextStatus settled after missing found mapped changes
      fits settles batch absent noticed =>
      have key : payout.reference = item := Table.key_of_find? found
      refine CountersRight.noticed ?_ noticed
      have differs : payout.batchId ≠ some batchId := by
        intro its
        rw [its] at batch
        cases batch
        obtain ⟨row, at_row, _⟩ := right
        rw [at_row] at absent
        cases absent
      apply right.congr (by rw [settles.batches])
      rw [itemStatuses_settled settles,
        statusesWith_other (key ▸ found) differs]
  | finished payout nextStatus settled after recounts found mapped changes
      fits settles single noticed =>
      have key : payout.reference = item := Table.key_of_find? found
      refine CountersRight.noticed ?_ noticed
      by_cases its : payout.batchId = some batchId
      · have read := (readStatus_of_fits .payout report fits).trans mapped
        rw [its]
        apply countersRight_withRecount
        · obtain ⟨row, at_row, _⟩ := right
          rw [settles.batches, at_row]
          rfl
        · rw [itemStatuses_settled settles, key]
          exact (counts payout nextStatus found its read changes).2
      · have settledRight : CountersRight batchId settled := by
          apply right.congr (by rw [settles.batches])
          rw [itemStatuses_settled settles,
            statusesWith_other (key ▸ found) its]
        unfold withRecount
        cases own : payout.batchId with
        | none => exact settledRight
        | some other =>
            have differs : batchId ≠ other :=
              fun same => its (own.trans (by rw [same]))
            refine settledRight.congr ?_ ?_
            · exact Table.find?_modify_ne differs _ (recounted_reference _ _)
            · rfl

/-! ## Job runs -/

/-- The record the status engine gets for an item of a batch job. -/
def itemRecord (credentialsReady : Bool) (behaviour : Behaviour) :
    ProviderRecord :=
  match acceptedRecord (behaviour.result credentialsReady) with
  | some record => record
  | none => rejection (behaviour.result credentialsReady).error

/-- One turn of a batch job. -/
def processItem (now : Time) (credentialsReady : Bool)
    (provider : ℕ → PayoutRequest → Behaviour) (turn : Reference × ℕ) :
    Db Unit :=
  processPayout now credentialsReady (provider turn.2) batchItemRequest id
    turn.1

/-- A turn updates its item if that is pending. -/
def TurnCounts (batchId : Reference) (now : Time) (credentialsReady : Bool)
    (provider : ℕ → PayoutRequest → Behaviour) (turn : Reference × ℕ)
    (world : World) : Prop :=
  ∀ payout, world.payouts.find? turn.1 = some payout →
    payout.status = .pending → UpdateCounts batchId payout.reference
      ⟨now, itemRecord credentialsReady
        (provider turn.2 (batchItemRequest payout))⟩ world

/-- Every turn of a job run counts, in the state it finds. -/
def TurnsCount (batchId : Reference) (now : Time) (credentialsReady : Bool)
    (provider : ℕ → PayoutRequest → Behaviour) :
    List (Reference × ℕ) → World → Prop
  | [], _ => True
  | turn :: rest, world =>
      TurnCounts batchId now credentialsReady provider turn world ∧
        TurnsCount batchId now credentialsReady provider rest
          ((processItem now credentialsReady provider turn).run world).2

section

variable {batchId : Reference} {now : Time} {credentialsReady : Bool}
variable {provider : ℕ → PayoutRequest → Behaviour}

/-- What the counters and the condition read is not on the rail. -/
theorem updateCounts_rail {item : Reference} {report : Report} {world : World}
    (rail : List RailEvent) (counts : UpdateCounts batchId item report world) :
    UpdateCounts batchId item report { world with rail } := by
  intro payout status found its read changes
  obtain ⟨made, countable⟩ := counts payout status found its read changes
  refine ⟨?_, countable⟩
  rintro ⟨input, due, refused⟩
  refine made ⟨input, due, fun wallet amount allowed =>
    refused wallet amount ?_⟩
  have same : MoveAllowed input { world with rail } wallet amount ↔
      MoveAllowed input world wallet amount := moveAllowed_congr rfl rfl
  exact same.mpr allowed

/-- A turn that counts keeps the counters right. -/
theorem processItem_countersRight {turn : Reference × ℕ} {world : World}
    (right : CountersRight batchId world)
    (counts : TurnCounts batchId now credentialsReady provider turn world) :
    CountersRight batchId
      ((processItem now credentialsReady provider turn).run world).2 := by
  simp only [processItem, processPayout, Program.bind_perform,
    Program.run_query, Relation.findUnique, select, Platform.payouts]
  cases found : world.payouts.find? turn.1 with
  | none => exact right
  | some payout =>
      dsimp only
      split
      · exact right
      rename_i pending
      have updates := counts payout found (not_not.mp pending)
      simp only [Program.run_query, createOnRail]
      generalize provider turn.2 (batchItemRequest payout) =
        behaviour at updates ⊢
      have created :=
        updateCounts_rail (world.rail ++ railEvents payout.reference
        (credentialsReady && behaviour.executed)
        (acceptedRecord (behaviour.result credentialsReady))) updates
      generalize world.rail ++ railEvents payout.reference
        (credentialsReady && behaviour.executed)
        (acceptedRecord (behaviour.result credentialsReady)) = rail at created ⊢
      have railed : CountersRight batchId { world with rail } := right
      have after := update_countersRight railed created
      unfold itemRecord at after
      cases accepted : acceptedRecord (behaviour.result credentialsReady) with
      | none =>
          rw [accepted] at after
          rw [Program.snd_run_discard]
          exact after
      | some record =>
          rw [accepted] at after
          rw [Program.snd_run_discard]
          exact after

/-- A job run whose turns count keeps the counters right, also when it
throws. -/
theorem turns_countersRight (turns : List (Reference × ℕ)) {world : World}
    (right : CountersRight batchId world)
    (counts : TurnsCount batchId now credentialsReady provider turns world) :
    CountersRight batchId
      ((Program.forEach turns (processItem now credentialsReady provider)).run
        world).2 := by
  induction turns generalizing world with
  | nil => exact right
  | cons turn rest ih =>
      obtain ⟨first, others⟩ := counts
      have after := processItem_countersRight right first
      change CountersRight batchId
        ((processItem now credentialsReady provider turn >>=
        fun _ =>
          Program.forEach rest (processItem now credentialsReady provider)).run
          world).2
      rw [Program.run_bind]
      generalize (processItem now credentialsReady provider turn).run world =
        ran at after others
      obtain ⟨result, left⟩ := ran
      cases result with
      | error error => exact after
      | ok _ => exact ih after others

end

/-- A provider record for an item, from a webhook or a poll, or a run of a batch
job. -/
inductive BatchStep where
  | update (item : Reference) (report : Report)
  | job (now : Time) (credentialsReady : Bool) (provider : ℕ → PayoutRequest →
      Behaviour) (payoutIds : List Reference)

/-- The state a step leaves; one that throws leaves what it has written. -/
def afterStep (world : World) : BatchStep → World
  | .update item report => afterUpdate .payout item world report
  | .job now credentialsReady provider payoutIds =>
      ((processBatchJob now credentialsReady provider payoutIds).run world).2

def afterSteps (steps : List BatchStep) (world : World) : World :=
  steps.foldl afterStep world

def StepCounts (batchId : Reference) (world : World) : BatchStep → Prop
  | .update item report => UpdateCounts batchId item report world
  | .job now credentialsReady provider payoutIds =>
      TurnsCount batchId now credentialsReady provider payoutIds.zipIdx world

/-- Every step of a sequence counts, in the state it finds. -/
def StepsCount (batchId : Reference) : List BatchStep → World → Prop
  | [], _ => True
  | step :: rest, world =>
      StepCounts batchId world step ∧
        StepsCount batchId rest (afterStep world step)

theorem step_countersRight {batchId : Reference} {world : World}
    {step : BatchStep} (right : CountersRight batchId world)
    (counts : StepCounts batchId world step) :
    CountersRight batchId (afterStep world step) := by
  cases step with
  | update item report => exact update_countersRight right counts
  | job now credentialsReady provider payoutIds =>
      exact turns_countersRight _ right counts

theorem steps_countersRight {batchId : Reference} (steps : List BatchStep)
    {world : World} (right : CountersRight batchId world)
    (counts : StepsCount batchId steps world) :
    CountersRight batchId (afterSteps steps world) := by
  induction steps generalizing world with
  | nil => exact right
  | cons step rest ih => exact ih (step_countersRight right counts.1) counts.2

/-- Every payout that names a batch names one that is there. -/
def BatchesThere (world : World) : Prop :=
  ∀ payout ∈ world.payouts.rows, ∀ batchId ∈ payout.batchId,
    (world.batches.find? batchId).isSome

/-- The counters of a new batch are right: all its items are pending. -/
theorem countersRight_created {now : Time} {random : List Char}
    {randoms : ℕ → List Char} {accountId : AccountId} {dto : CreateBatchDto}
    {faults : Site → Option (Fault AppError)} {world after : World}
    {batch : DisbursementBatch} (there : BatchesThere world)
    (returned : (createBatch now random randoms accountId dto).exec faults
      world =
      (.returned batch, after)) : CountersRight batch.reference after := by
  obtain ⟨account, reference, row, rows, held, built, adds, stores⟩ :=
    createBatch_added returned
  obtain ⟨each, amounts⟩ := itemRows_ok built
  obtain ⟨rfl, fresh, stored, items⟩ := stores
  change CountersRight reference after
  have unnamed :
    world.payouts.rows.filter (fun payout => payout.batchId = some reference) =
      [] := by
    apply List.filter_eq_nil_iff.mpr
    intro payout member named
    have batch := there payout member reference (of_decide_eq_true named)
    rw [fresh] at batch
    cases batch
  have own : rows.filter (fun payout => payout.batchId = some reference) =
    rows := by
    apply List.filter_eq_self.mpr
    intro payout member
    obtain ⟨item, _, completed, rfl⟩ := each payout member
    simp [itemPayout]
  have statuses : itemStatuses after reference = rows.map Payout.status := by
    unfold itemStatuses
    rw [adds.payouts, List.filter_append, unnamed, own, List.nil_append]
  have pending : ∀ status ∈ rows.map Payout.status, status = .pending := by
    intro status member
    obtain ⟨payout, at_payout, rfl⟩ := List.mem_map.mp member
    obtain ⟨item, _, completed, rfl⟩ := each payout at_payout
    rfl
  have some_ : rows ≠ [] := by
    intro empty
    rw [empty] at amounts
    exact items (List.map_eq_nil_iff.mp amounts.symm)
  refine ⟨newBatch now accountId dto reference, ?_, ?_, ?_, ?_⟩
  · rw [stored, Table.find?_insert, fresh, Option.none_or]
    exact if_pos rfl
  · rw [statuses]
    symm
    apply List.countP_eq_zero.mpr
    intro status member
    rw [pending status member]
    decide
  · rw [statuses]
    symm
    apply List.countP_eq_zero.mpr
    intro status member
    rw [pending status member]
    decide
  · rw [statuses, statusOfItems, if_pos]
    · rfl
    · obtain ⟨payout, at_payout⟩ := List.exists_mem_of_ne_nil rows some_
      have member : payout.status ∈ rows.map Payout.status :=
        List.mem_map_of_mem at_payout
      exact ⟨payout.status, member, .inl (pending _ member)⟩

/-- After any sequence of item updates and job runs that all count, the counters
and the status of a batch are those of its items. -/
theorem batch_counters_right (now : Time) (random : List Char)
    (randoms : ℕ → List Char) (accountId : AccountId) (dto : CreateBatchDto)
    (faults : Site → Option (Fault AppError)) (world after : World)
    (batch : DisbursementBatch) (there : BatchesThere world)
    (returned : (createBatch now random randoms accountId dto).exec faults
      world =
      (.returned batch, after)) (steps : List BatchStep)
    (counts : StepsCount batch.reference steps after) :
    CountersRight batch.reference (afterSteps steps after) :=
  steps_countersRight steps (countersRight_created there returned) counts

/-- A batch of one item of 1000. -/
def singleBatch : Outcome AppError DisbursementBatch × World :=
  (createBatch 2 "00000000000000A".toList (fun _ => []) "a"
    { name := "pay", items := [namedItem] }).exec (fun _ => none) batchWorld

theorem singleBatch_returned :
    singleBatch =
      (.returned (newBatch 2 "a" { name := "pay", items := [namedItem] }
      "AAAAA00000000000000A"), singleBatch.2) :=
  Prod.ext (by decide +kernel) rfl

theorem batchesThere_batchWorld : BatchesThere batchWorld := by
  intro payout member
  cases member

/-- What a report does to the only item. -/
def itemReading (status : String) : BatchStep :=
  .update "AAAAA000000000000001" ⟨3, { status := .given status }⟩

theorem stepsCount_succeeded :
    StepsCount "AAAAA00000000000000A" [itemReading "SUCCESS"]
      singleBatch.2 := by
  refine ⟨fun payout status found its read changes => ⟨?_, ?_⟩, trivial⟩
  · rintro ⟨input, due, _⟩
    have nothing : (dueMovement .payout "AAAAA000000000000001" singleBatch.2
        ⟨3, { status := .given "SUCCESS" }⟩).isNone = true := by
      decide +kernel
    rw [due] at nothing
    cases nothing
  · have succeeds : readStatus .payout ⟨3, { status := .given "SUCCESS" }⟩ =
        some .success := by
      decide +kernel
    rw [succeeds] at read
    cases read
    decide +kernel

theorem batch_counters_right_single :
    CountersRight "AAAAA00000000000000A"
      (afterSteps [itemReading "SUCCESS"] singleBatch.2) :=
  batch_counters_right 2 "00000000000000A".toList (fun _ => []) "a"
    { name := "pay", items := [namedItem] } (fun _ => none)
      batchWorld singleBatch.2
    (newBatch 2 "a" { name := "pay", items := [namedItem] }
      "AAAAA00000000000000A")
    batchesThere_batchWorld singleBatch_returned _ stepsCount_succeeded

/-- The only item expires, and the batch is processing for ever. -/
theorem expired_unfinished :
    ¬ CountersRight "AAAAA00000000000000A"
      (afterSteps [itemReading "EXPIRED"] singleBatch.2) := by
  rintro ⟨batch, found, _, _, status⟩
  have stored :
    ((afterSteps [itemReading "EXPIRED"] singleBatch.2).batches.find?
      "AAAAA00000000000000A").map DisbursementBatch.status =
        some .processing := by
    decide +kernel
  have items :
    statusOfItems
    (itemStatuses (afterSteps [itemReading "EXPIRED"] singleBatch.2)
      "AAAAA00000000000000A") = .failed := by
    decide +kernel
  rw [found] at stored
  rw [items] at status
  cases status.symm.trans (Option.some.inj stored)

end CloudStudio.Payouts
