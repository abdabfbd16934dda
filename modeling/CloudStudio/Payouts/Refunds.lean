import CloudStudio.Payments.ExactlyOnce
import CloudStudio.Payouts.Jobs

/-!
# No refund of an executed payout

Any number of jobs and provider records run at once.  A job takes an answer it
cannot use for a rejection, and the engine refunds a rejected payout; the refund
is justified as long as such answers are only about payouts that the provider
does not execute.
-/

namespace CloudStudio.Payouts

open Function
open CloudStudio.Data CloudStudio.Transactions CloudStudio.Platform
open CloudStudio.Wallets
open CloudStudio.Payments

/-- One call about payouts. -/
inductive PayoutTask where
  | job (now : Time) (credentialsReady : Bool) (provider : PayoutRequest →
      Behaviour) (payoutId : Reference)
  | batch (now : Time) (credentialsReady : Bool) (provider : ℕ → PayoutRequest →
      Behaviour) (payoutIds : List Reference)
  | receive (now : Time) (reference : Reference) (record : ProviderRecord)

def PayoutTask.program : PayoutTask → Db Unit
  | .job now credentialsReady provider payoutId =>
      processPayoutJob now credentialsReady provider payoutId
  | .batch now credentialsReady provider payoutIds =>
      processBatchJob now credentialsReady provider payoutIds
  | .receive now reference record => receiveRecord now reference record

/-- The provider executed the payout. -/
def Executed (world : World) (reference : Reference) : Prop :=
  ∃ accepted, RailEvent.submission reference true accepted ∈ world.rail

/-- The platform took an answer about the payout for a rejection. -/
def Rejected (world : World) (reference : Reference) : Prop :=
  ∃ executed, RailEvent.submission reference executed false ∈ world.rail

/-- The provider itself failed, reversed or refunded the payout. -/
def FailedAtProvider (world : World) (reference : Reference) : Prop :=
  RailEvent.failure reference ∈ world.rail

/-- No refund row of an executed payout that the provider has not failed. -/
def NoWrongRefund (world : World) : Prop :=
  ∀ reference, Executed world reference → ¬ FailedAtProvider world reference →
    movements world ⟨.refund, reference⟩ = []

/-- What allows a refund. -/
def Evidence (world : World) (reference : Reference) : Prop :=
  FailedAtProvider world reference ∨ Rejected world reference

/-- No rejected payout has been executed, and every refund has its evidence. -/
structure Justified (world : World) : Prop where
  truthful : ∀ reference, Rejected world reference → ¬ Executed world reference
  refunds : ∀ row ∈ world.ledger, row.type = .refund → ∀ reference,
    row.reference = some reference → Evidence world reference

theorem noWrongRefund_of_justified {world : World}
    (justified : Justified world) : NoWrongRefund world := by
  intro reference executed standing
  refine List.filter_eq_nil_iff.mpr fun row member => ?_
  intro hit
  obtain ⟨type, same⟩ := of_decide_eq_true hit
  rcases justified.refunds row member type reference same with failed | rejected
  · exact standing failed
  · exact justified.truthful reference rejected executed

variable {Id : Type} [DecidableEq Id]

/-- A call holds the references for which it has seen evidence. -/
def evidenced : Protocol Id World RowKey Expectation (List Reference) where
  assumed := [.truthfulAnswer]
  invariant := fun world _ held =>
    Justified world ∧ ∀ id, ∀ reference ∈ held id, Evidence world reference
  guarantee := fun _ _ _ => True
  abandon := fun seen => seen
  guarantee_refl := fun _ _ => trivial
  invariant_abandon := by
    intro world owner held id kept
    rwa [update_eq_self]

variable {world after : World} {owner : RowKey → Option Id}
  {held : Id → List Reference}
variable {id : Id} {seen : List Reference}

/-- The rules look at the ledger and the rail only. -/
theorem evidenced_congr {owner' : RowKey → Option Id}
    (kept : evidenced.invariant world owner held)
    (ledger : after.ledger = world.ledger) (rail : after.rail = world.rail) :
    evidenced.invariant after owner' held := by
  obtain ⟨justified, evidence⟩ := kept
  refine ⟨⟨?_, ?_⟩, ?_⟩
  · simp only [Rejected, Executed, rail]
    exact justified.truthful
  · simp only [ledger, Evidence, FailedAtProvider, Rejected, rail]
    exact justified.refunds
  · simp only [Evidence, FailedAtProvider, Rejected, rail]
    exact evidence

theorem evidenced_indifferent :
    Indifferent
      (evidenced : Protocol Id World RowKey Expectation (List Reference)) :=
  fun kept same =>
    ⟨evidenced_congr kept same.ledger same.rail, fun _ => trivial⟩

omit [DecidableEq Id] in
/-- The rail keeps its history, so evidence stays. -/
theorem Evidence.later {more : List RailEvent} {reference : Reference}
    (rail : after.rail = world.rail ++ more)
    (evidence : Evidence world reference) : Evidence after reference := by
  simp only [Evidence, FailedAtProvider, Rejected, rail,
    List.mem_append] at evidence ⊢
  rcases evidence with failed | ⟨executed, rejected⟩
  · exact .inl (.inl failed)
  · exact .inr ⟨executed, .inl rejected⟩

/-- The rail's history grows by something that stays truthful, of which the call
may have seen evidence. -/
theorem evidenced_grows {more : List RailEvent} {now_seen : List Reference}
    (kept : evidenced.invariant world owner held) (own : held id = seen)
    (ledger : after.ledger = world.ledger)
    (rail : after.rail = world.rail ++ more)
    (truthful : ∀ reference, Rejected after reference →
      ¬ Executed after reference)
    (fresh : ∀ reference ∈ now_seen, reference ∈ seen ∨
      Evidence after reference) :
    evidenced.invariant after owner (update held id now_seen) := by
  obtain ⟨justified, evidence⟩ := kept
  refine ⟨⟨truthful, ?_⟩, ?_⟩
  · rw [ledger]
    intro row member type reference same
    exact (justified.refunds row member type reference same).later rail
  · intro other reference member
    by_cases same : other = id
    · subst same
      rw [update_self] at member
      rcases fresh reference member with old | new
      · exact (evidence other reference (own ▸ old)).later rail
      · exact new
    · rw [update_of_ne same] at member
      exact (evidence other reference member).later rail

/-- A refund for which the call has seen evidence. -/
theorem refund_safe (now : Time) {input : MoveInput} {reference : Reference}
    (same : input.reference = some reference) (member : reference ∈ seen)
    {thrown : AppError → List Reference → Prop}
    (safeThrown : ∀ error, thrown error seen) :
    (move now input).Safe evidenced id (fun _ left => left = seen)
      thrown seen := by
  refine movement_safe evidenced_indifferent safeThrown rfl now input ?_
  intro before after owner held kept own moved
  refine ⟨seen, ?_, trivial, trivial, rfl⟩
  rw [← own, update_eq_self]
  obtain ⟨justified, evidence⟩ := kept
  obtain ⟨row, ledger, _, rowReference⟩ := moved.ledger
  have unchanged (wanted : Reference) : Evidence after wanted ↔
    Evidence before wanted := by
    simp only [Evidence, FailedAtProvider, Rejected, moved.rail]
  refine ⟨⟨?_, ?_⟩, fun id wanted holds =>
    (unchanged wanted).mpr (evidence id wanted holds)⟩
  · simp only [Rejected, Executed, moved.rail]
    exact justified.truthful
  · intro other member' type wanted wanted_eq
    rw [unchanged]
    rw [ledger, List.mem_append, List.mem_singleton] at member'
    rcases member' with old | rfl
    · exact justified.refunds other old type wanted wanted_eq
    · rw [rowReference, same] at wanted_eq
      cases wanted_eq
      exact evidence id reference (own ▸ member)

/-- Where a call may end: the rules say nothing about what it has seen. -/
abbrev Seen {Answer : Type} (_ : Answer) (_ : List Reference) : Prop := True

/-- The engine refunds only on a failing record; that is the evidence it
needs. -/
theorem applyPayoutUpdate_evidenced (now : Time) (orderReference : Reference)
    {record : ProviderRecord}
    (evidence : failing record = true → orderReference ∈ seen) :
    (applyPayoutUpdate now orderReference record).Safe evidenced id Seen
      Seen seen := by
  simp only [applyPayoutUpdate, Program.bind_perform]
  refine Program.Safe.read (fun _ _ => rfl) ?_ fun _ => trivial
  intro world owner held kept own found answered
  cases found with
  | none => trivial
  | some payout =>
      have key : payout.reference = orderReference :=
        Table.key_of_find? (Except.ok.inj answered)
      dsimp only
      split
      · trivial
      rename_i nextStatus mapped
      split
      · trivial
      unfold finishPayout
      split
      · trivial
      simp only [Program.bind_perform]
      have ignored : Ignores (evidenced : Protocol Id _ _ _ _) fun world =>
          (updatePayout now record nextStatus (nextStatus ∈ TERMINAL_FAIL ∧
            payout.walletDebitedAt.isSome ∧ payout.refundedAt = none)
              payout).effect world world :=
        fun _ _ _ kept => ⟨evidenced_congr kept rfl rfl, fun _ => trivial⟩
      refine ignored_safe ignored (fun _ updated _ => ?_) fun _ => trivial
      have refunded : (Program.when (decide (nextStatus ∈ TERMINAL_FAIL ∧
          payout.walletDebitedAt.isSome = true ∧ payout.refundedAt = none) =
            true)
          (Program.discard (move now (payoutRefund payout)))).Safe evidenced id
          (fun _ left => left = seen) Seen seen := by
        refine when_safe (fun due => discard_safe ?_) fun _ => rfl
        have failed : failing record = true := by
          simp only [failing, mapped]
          exact decide_eq_true (of_decide_eq_true due).1
        exact refund_safe now rfl (key ▸ evidence failed) fun _ => trivial
      refine Program.Safe.andThen refunded ?_
      rintro _ left rfl
      have announced : (Program.when (payout.status ∉ FINAL_STATUSES)
          (announcePayout now payout nextStatus)).Safe evidenced id
          (fun _ after => after = left) Seen left :=
        when_safe (fun _ => announcePayout_safe evidenced_indifferent.overlooks
          (fun _ => trivial) now payout nextStatus) fun _ => rfl
      refine Program.Safe.andThen announced ?_
      rintro _ left rfl
      exact Program.Safe.andThen
        (recountBatch_safe evidenced_indifferent.overlooks (fun _ => trivial)
          now _)
        fun _ _ _ => trivial

theorem submission_mem_railEvents {reference other : Reference}
    {executed was answered : Bool} {accepted : Option ProviderRecord} :
    RailEvent.submission other was answered ∈ railEvents reference
      executed accepted ↔
      other = reference ∧ was = executed ∧ answered = accepted.isSome := by
  unfold railEvents
  split <;> simp

theorem failure_mem_railEvents {reference other : Reference} {executed : Bool}
    {accepted : Option ProviderRecord} :
    RailEvent.failure other ∈ railEvents reference executed accepted ↔
      other = reference ∧ accepted.any failing = true := by
  unfold railEvents
  split
  · rename_i failed
    simp [failed]
  · rename_i standing
    simp [standing]

/-- A truthful answer keeps rejected and executed payouts apart. -/
theorem truthful_railEvents {reference : Reference} {executed : Bool}
    {accepted : Option ProviderRecord}
    (apart : ∀ wanted, Rejected world wanted → ¬ Executed world wanted)
    (truthful : Truthful world.rail reference executed accepted.isSome)
    (rail : after.rail = world.rail ++ railEvents reference executed accepted)
    (wanted : Reference) : Rejected after wanted → ¬ Executed after wanted := by
  rintro ⟨was, rejected⟩ ⟨answered, submitted⟩
  rw [rail, List.mem_append, submission_mem_railEvents] at rejected submitted
  rcases rejected with rejectedBefore | ⟨rfl, _, unusable⟩
  · rcases submitted with executedBefore | ⟨rfl, executes, _⟩
    · exact apart wanted ⟨was, rejectedBefore⟩ ⟨answered, executedBefore⟩
    · exact truthful.2 executes.symm was rejectedBefore
  · obtain ⟨unexecuted, never⟩ := truthful.1 unusable.symm
    rcases submitted with executedBefore | ⟨_, executes, _⟩
    · exact never answered executedBefore
    · rw [unexecuted] at executes
      cases executes

/-- After a create call the job has seen evidence if the answer is not usable,
or is a failure. -/
theorem createOnRail_safe {Result : Type} {credentialsReady : Bool}
    {behaviour : Behaviour} {reference : Reference}
    {post : Result → List Reference → Prop}
    {thrown : AppError → List Reference → Prop}
    {next : ProviderResult ProviderRecord → Db Result}
    {failed : AppError → Db Result} (safeNext : ∀ now_seen,
      ((acceptedRecord (behaviour.result credentialsReady)).all failing = true →
        reference ∈ now_seen) →
      (next (behaviour.result credentialsReady)).Safe evidenced id post
        thrown now_seen)
    (safeFailed : ∀ error, (failed error).Safe evidenced id post thrown seen) :
    (Program.query (createOnRail credentialsReady behaviour reference)
      next failed).Safe evidenced id post thrown seen := by
  refine ⟨?_, safeFailed⟩
  intro world owner held kept own _ expected result answered
  cases answered
  have truthful :=
    of_decide_eq_true (expected .truthfulAnswer List.mem_cons_self)
  have fresh (wanted : Reference)
      (member :
        wanted ∈ if (acceptedRecord (behaviour.result credentialsReady)).all
        failing
        then reference :: seen else seen) :
      wanted ∈ seen ∨
        Evidence ((createOnRail credentialsReady behaviour reference).effect
        world world) wanted := by
    split at member
    · rename_i unusable
      refine (List.mem_cons.mp member).symm.imp_right ?_
      rintro rfl
      cases accepted : acceptedRecord (behaviour.result credentialsReady) with
      | none =>
          refine .inr ⟨credentialsReady && behaviour.executed,
            List.mem_append_right _ ?_⟩
          simp [submission_mem_railEvents, accepted]
      | some record =>
          rw [accepted] at unusable
          refine .inl (List.mem_append_right _ ?_)
          simpa [failure_mem_railEvents, accepted] using unusable
    · exact .inl member
  refine ⟨_, evidenced_grows kept own rfl rfl
    (truthful_railEvents kept.1.truthful truthful rfl) fresh,
      trivial, safeNext _ ?_⟩
  intro unusable
  rw [if_pos unusable]
  exact List.mem_cons_self

theorem processPayout_safe (now : Time) (credentialsReady : Bool)
    (provider : PayoutRequest → Behaviour) (requestOf : Payout → PayoutRequest)
    {complete : ProviderRecord → ProviderRecord}
    (completes : ∀ record, (complete record).nextStatus? = record.nextStatus?)
    (payoutId : Reference) :
    (processPayout now credentialsReady provider requestOf complete
      payoutId).Safe evidenced id Seen Seen seen := by
  simp only [processPayout, Program.bind_perform]
  refine Program.Safe.read (fun _ _ => rfl) ?_ fun _ => trivial
  intro world owner held kept own payout answered
  cases payout with
  | none => trivial
  | some payout =>
      dsimp only
      split
      · trivial
      refine createOnRail_safe (fun now_seen evidence => ?_) fun _ => trivial
      split
      · rename_i record accepted
        rw [accepted, Option.all_some] at evidence
        have same : failing (complete record) = failing record := by
          simp only [failing, completes]
        rw [← same] at evidence
        exact discard_safe
          (applyPayoutUpdate_evidenced now payout.reference evidence)
      · rename_i unusable
        rw [unusable] at evidence
        exact discard_safe
          (applyPayoutUpdate_evidenced now payout.reference
            fun _ => evidence rfl)

theorem processBatchJob_safe (now : Time) (credentialsReady : Bool)
    (provider : ℕ → PayoutRequest → Behaviour) (payoutIds : List Reference) :
    (processBatchJob now credentialsReady provider payoutIds).Safe
      evidenced id Seen Seen seen :=
  forEach_safe
    (fun item _ _ => processPayout_safe now credentialsReady (provider item.2)
    batchItemRequest (fun _ => rfl) item.1) trivial

/-- A failing record that comes in is itself the evidence. -/
theorem receiveRecord_safe (now : Time) (reference : Reference)
    (record : ProviderRecord) :
    (receiveRecord now reference record).Safe evidenced id Seen Seen seen := by
  simp only [receiveRecord, Program.bind_perform]
  refine ⟨?_, fun _ => trivial⟩
  intro world owner held kept own _ _ answer answered
  have apart (wanted : Reference) :
      Rejected ((noteRecord reference record).effect world world) wanted →
        ¬ Executed ((noteRecord reference record).effect world world)
          wanted := by
    have submissions (event : RailEvent) (was answered : Bool)
        (same : event = .submission wanted was answered) :
        event ∈ ((noteRecord reference record).effect world world).rail ↔
          event ∈ world.rail := by
      subst same
      simp only [noteRecord, List.mem_append]
      split <;> simp
    simp only [Rejected, Executed, submissions _ _ _ rfl]
    exact kept.1.truthful wanted
  refine ⟨if failing record then reference :: seen else seen,
    evidenced_grows kept own rfl rfl apart fun wanted member => ?_, trivial, ?_⟩
  · split at member
    · rename_i failed
      refine (List.mem_cons.mp member).symm.imp_right ?_
      rintro rfl
      refine .inl (List.mem_append_right _ ?_)
      rw [if_pos failed]
      exact List.mem_cons_self
    · exact .inl member
  · refine discard_safe (applyPayoutUpdate_evidenced now reference
      fun failed => ?_)
    rw [if_pos failed]
    exact List.mem_cons_self

theorem payoutTask_safe (task : PayoutTask) :
    task.program.Safe evidenced id Seen Seen [] := by
  cases task with
  | job now credentialsReady provider payoutId =>
      exact processPayout_safe now credentialsReady provider payoutRequest
        nextStatus?_orPending payoutId
  | batch now credentialsReady provider payoutIds =>
      exact processBatchJob_safe now credentialsReady provider payoutIds
  | receive now reference record =>
      exact receiveRecord_safe now reference record

/-! ## Every run -/

/-- The tasks, none of which has run a statement yet. -/
def handling (world : World) (tasks : Id → PayoutTask) :
    Config Id World RowKey Expectation Site AppError Unit :=
  Config.start world fun id => (tasks id).program

/-- If every create call is answered truthfully, no payout that the provider
executed and has not failed is refunded. -/
theorem no_wrong_refund (world : World) (justified : Justified world)
    (tasks : Id → PayoutTask) (schedule : List (Event Id AppError))
    (expected : (handling world tasks).AsExpected [.truthfulAnswer] schedule) :
    NoWrongRefund ((handling world tasks).run schedule).state := by
  have sound : Config.Sound evidenced (fun _ => Seen) (fun _ => Seen)
      (handling world tasks) :=
    ⟨fun _ => [], ⟨justified, fun _ _ member => absurd member List.not_mem_nil⟩,
      fun id => payoutTask_safe (tasks id)⟩
  obtain ⟨held, kept, _⟩ := sound.run schedule expected
  exact noWrongRefund_of_justified kept.1

/-- A payout of 1000, held with its fee of 50. -/
def heldWorld : World where
  accounts :=
    Table.empty.insert { id := "a", accountId := "ACC-1"
                         sourceCode := "AAAAA" }
  wallets := (Table.empty.insert { key := ⟨"a", .collection⟩ }).insert
    { key := ⟨"a", .disbursement⟩ }
  payouts := Table.empty.insert
    { accountId := "a", channel := .mobileMoney
      reference := "AAAAA000000000000001"
      amount := Money.round 1000, feeAmount := some (Money.round 50)
      phoneNumber := some "255712345678", walletDebitedAt := some 1
      createdAt := 1, updatedAt := 1 }

theorem justified_heldWorld : Justified heldWorld :=
  ⟨fun _ ⟨_, rejected⟩ => absurd rejected List.not_mem_nil,
    fun _ member => absurd member List.not_mem_nil⟩

/-- The job of that payout, which the provider executes or not and answers. -/
def processed (executed : Bool) (answer : Exchange ProviderRecord) (_ : Unit) :
    PayoutTask :=
  .job 2 true (fun _ => ⟨executed, answer, answer⟩) "AAAAA000000000000001"

def alone : List (Event Unit AppError) := List.replicate 16 (.run ())

theorem no_wrong_refund_rejected :
    NoWrongRefund
      ((handling heldWorld
      (processed false (.answered 400 none "bad phone"))).run alone).state :=
  no_wrong_refund heldWorld justified_heldWorld
    (processed false (.answered 400 none "bad phone")) alone (by decide +kernel)

/-- The provider executes the payout, but the answer is lost: the hold is
refunded. -/
theorem refunded_after_lost_answer :
    ¬ NoWrongRefund ((handling heldWorld
      (processed true (.lost (some "timeout of 30000ms exceeded")))).run
        alone).state := by
  intro kept
  have rail : ((handling heldWorld
      (processed true (.lost (some "timeout of 30000ms exceeded")))).run
        alone).state.rail =
        [.submission "AAAAA000000000000001" true false] := by decide +kernel
  have refunded : (movements ((handling heldWorld
      (processed true (.lost (some "timeout of 30000ms exceeded")))).run
        alone).state
        ⟨.refund, "AAAAA000000000000001"⟩).map
          (fun row => (row.amount : Decimal)) =
        [1050] := by decide +kernel
  rw [kept "AAAAA000000000000001"
    ⟨false, by rw [rail]; exact List.mem_cons_self⟩
    (by simp [FailedAtProvider, rail])] at refunded
  cases refunded

end CloudStudio.Payouts
