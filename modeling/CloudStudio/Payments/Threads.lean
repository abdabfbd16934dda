import CloudStudio.Payments.TxnStatus
import CloudStudio.Wallets.Reads

/-!
# The parts of an update that most protocols do not see

A protocol over the transaction rows, the ledger and the payment rail does not
see wallets, fee configurations, batch counters or notices.  Under such a
protocol the lookups, the webhook fan-out and the batch recount keep the ghost,
and a wallet movement changes the ledger once, at its commit.
-/

namespace CloudStudio.Payments

open Function
open CloudStudio.Data CloudStudio.Transactions CloudStudio.Platform
open CloudStudio.Wallets

/-- The transaction rows, the ledger and the rail are as they were. -/
structure SameRecords (before after : World) : Prop where
  collections : after.collections = before.collections
  deposits : after.deposits = before.deposits
  payouts : after.payouts = before.payouts
  ledger : after.ledger = before.ledger
  rail : after.rail = before.rail

theorem SameRecords.refl (world : World) : SameRecords world world :=
  ⟨rfl, rfl, rfl, rfl, rfl⟩

theorem SameRecords.trans {first second third : World}
    (left : SameRecords first second) (right : SameRecords second third) :
    SameRecords first third :=
  ⟨right.collections.trans left.collections, right.deposits.trans left.deposits,
    right.payouts.trans left.payouts, right.ledger.trans left.ledger,
    right.rail.trans left.rail⟩

/-- Besides, at most jobs of other queues have been added. -/
structure Background (before after : World) :
    Prop extends SameRecords before after where
  jobs : ∃ more, after.jobs = before.jobs ++ more ∧ ∀ job ∈ more,
    job.payload.payouts = []

/-- No job has been added. -/
theorem SameRecords.background {before after : World}
    (same : SameRecords before after) (jobs : after.jobs = before.jobs) :
    Background before after :=
  { same with jobs := ⟨[], by simp [jobs], fun _ member => by cases member⟩ }

/-- A wallet movement has committed its one ledger row. -/
structure Moved (input : MoveInput) (before after : World) : Prop where
  collections : after.collections = before.collections
  deposits : after.deposits = before.deposits
  payouts : after.payouts = before.payouts
  rail : after.rail = before.rail
  ledger : ∃ row : WalletTransaction, after.ledger = before.ledger ++ [row] ∧
    row.type = input.txType ∧ row.reference = input.reference

variable {Id Ghost : Type} [DecidableEq Id]

/-- The protocol sees only the records, and no row lock. -/
def Indifferent (protocol : Protocol Id World RowKey Expectation Ghost) :
    Prop :=
  ∀ {before after owner owner' held}, protocol.invariant before owner held →
    SameRecords before after →
    protocol.invariant after owner' held ∧ ∀ id,
      protocol.guarantee id before after

/-- The protocol does not see what goes on beside the records. -/
def Overlooks (protocol : Protocol Id World RowKey Expectation Ghost) : Prop :=
  ∀ {before after owner owner' held}, protocol.invariant before owner held →
    Background before after →
    protocol.invariant after owner' held ∧ ∀ id,
      protocol.guarantee id before after

variable {protocol : Protocol Id World RowKey Expectation Ghost} {id : Id}
variable {thrown : AppError → Ghost → Prop} {ghost : Ghost}

theorem Indifferent.overlooks (indifferent : Indifferent protocol) :
    Overlooks protocol :=
  fun kept background => indifferent kept background.toSameRecords

theorem Indifferent.ignores (indifferent : Indifferent protocol)
    {change : World → World}
    (same : ∀ world, SameRecords world (change world)) :
    Ignores protocol change :=
  fun _ _ _ kept => indifferent kept (same _)

/-- A statement outside transactions that leaves the records alone. -/
theorem unrecorded_safe (overlooks : Overlooks protocol) {Answer Result : Type}
    {post : Result → Ghost → Prop} {statement : Statement Answer}
    {next : Answer → Db Result} {failed : AppError → Db Result}
    (beside : ∀ world, Background world (statement.effect world world))
    (safeNext : ∀ answer, (next answer).Safe protocol id post thrown ghost)
    (safeFailed : ∀ error, (failed error).Safe protocol id post thrown ghost) :
    (Program.query statement next failed).Safe protocol id post thrown ghost :=
  ignored_safe (fun _ _ _ kept => overlooks kept (beside _))
    (fun _ answer _ => safeNext answer) safeFailed

theorem discard_safe {Answer : Type} {program : Db Answer} {post : Ghost → Prop}
    (safe : program.Safe protocol id (fun _ left => post left) thrown ghost) :
    (Program.discard program).Safe protocol id (fun _ left => post left)
      thrown ghost :=
  Program.Safe.andThen safe fun _ _ kept => kept

theorem when_safe {condition : Prop} [Decidable condition] {program : Db Unit}
    {post : Ghost → Prop}
    (safe : condition →
      program.Safe protocol id (fun _ left => post left) thrown ghost)
    (skipped : ¬ condition → post ghost) :
    (Program.when condition program).Safe protocol id (fun _ left => post left)
      thrown ghost := by
  unfold Program.when
  split
  · rename_i taken
    exact safe taken
  · rename_i untaken
    exact skipped untaken

theorem forEach_safe {Item : Type} {items : List Item} {step : Item → Db Unit}
    {post : Ghost → Prop} (safe : ∀ item ghost, post ghost →
      (step item).Safe protocol id (fun _ left => post left) thrown ghost)
    (holds : post ghost) :
    (Program.forEach items step).Safe protocol id (fun _ left => post left)
      thrown ghost := by
  induction items generalizing ghost with
  | nil => exact holds
  | cons item rest ih =>
      exact Program.Safe.andThen (safe item ghost holds) fun _ _ => ih

/-- The deliveries of an event under a protocol that does not see them and their
jobs. -/
theorem deliveries_ignored {now : Time} {notice : Dispatched}
    (endpoints : List WebhookEndpoint)
    (deliveries : ∀ delivery, Ignores protocol fun world =>
      { world with deliveries := world.deliveries ++ [delivery] })
    (jobs : ∀ job : Job,
      (∃ deliveryId, job.payload = .webhookDeliver deliveryId) →
      Ignores protocol fun world => { world with jobs := world.jobs ++ [job] })
    (safeThrown : ∀ error, thrown error ghost) :
    (Program.forEach endpoints (deliverTo now notice)).Safe protocol id
      (fun _ left => left = ghost) thrown ghost := by
  apply forEach_safe
  · intro endpoint left same
    subst same
    apply ignored_safe (deliveries _)
    · intro _ delivery _
      apply ignored_safe (jobs _ ⟨delivery, rfl⟩)
      · exact fun _ _ _ => rfl
      · exact safeThrown
    · exact safeThrown
  · rfl

/-- A dispatch under a protocol that does not see its event either. -/
theorem dispatch_ignored {now : Time} {notice : Dispatched}
    (notices : Ignores protocol fun world =>
      { world with dispatched := world.dispatched ++ [notice] })
    (deliveries : ∀ delivery, Ignores protocol fun world =>
      { world with deliveries := world.deliveries ++ [delivery] })
    (jobs : ∀ job : Job,
      (∃ deliveryId, job.payload = .webhookDeliver deliveryId) →
      Ignores protocol fun world => { world with jobs := world.jobs ++ [job] })
    (safeThrown : ∀ error, thrown error ghost) :
    (dispatch now notice).Safe protocol id (fun _ left => left = ghost)
      thrown ghost := by
  simp only [dispatch, Program.bind_perform]
  apply ignored_safe notices
  · intro _ endpoints _
    apply Program.Safe.andThen
      (deliveries_ignored endpoints deliveries jobs safeThrown)
    exact fun _ _ same => same
  · exact safeThrown

section

variable (overlooks : Overlooks protocol)
  (safeThrown : ∀ error, thrown error ghost)
include overlooks safeThrown

theorem dispatch_safe (now : Time) (notice : Dispatched) :
    (dispatch now notice).Safe protocol id (fun _ left => left = ghost)
      thrown ghost := by
  apply dispatch_ignored
  · intro world owner held kept
    exact overlooks kept (SameRecords.background ⟨rfl, rfl, rfl, rfl, rfl⟩ rfl)
  · intro delivery world owner held kept
    exact overlooks kept (SameRecords.background ⟨rfl, rfl, rfl, rfl, rfl⟩ rfl)
  · intro job delivers world owner held kept
    refine overlooks kept ⟨⟨rfl, rfl, rfl, rfl, rfl⟩, _, rfl, ?_⟩
    intro added member
    obtain ⟨deliveryId, payload⟩ := delivers
    rw [List.mem_singleton.mp member, payload]
    rfl
  · exact safeThrown

/-- A dispatch after a status change, skipped for rows that were final. -/
theorem whenDispatch_safe (condition : Prop) [Decidable condition] (now : Time)
    (notice : Dispatched) :
    (Program.when condition (Program.discard (dispatch now notice))).Safe
      protocol id (fun _ left => left = ghost) thrown ghost :=
  when_safe
    (fun _ => discard_safe (dispatch_safe overlooks safeThrown now notice))
    fun _ => rfl

theorem recountBatch_safe (now : Time) (batchId : Option Reference) :
    (recountBatch now batchId).Safe protocol id (fun _ left => left = ghost)
      thrown ghost := by
  cases batchId with
  | none => exact rfl
  | some batchId =>
      refine Program.Safe.read (fun _ _ => rfl) ?_ safeThrown
      intro world owner held kept own statuses answered
      refine unrecorded_safe overlooks
        (fun _ => SameRecords.background ⟨rfl, rfl, rfl, rfl, rfl⟩ rfl) ?_
          safeThrown
      exact fun batch => whenDispatch_safe overlooks safeThrown _ now _

theorem announcePayout_safe (now : Time) (payout : Payout)
    (nextStatus : TxStatus) :
    (announcePayout now payout nextStatus).Safe protocol id
      (fun _ left => left = ghost) thrown ghost := by
  have dispatched :
    (Program.discard (dispatch now (payoutNotice payout nextStatus))).Safe
      protocol id (fun _ left => left = ghost) thrown ghost :=
    discard_safe
      (dispatch_safe overlooks safeThrown now (payoutNotice payout nextStatus))
  unfold announcePayout
  split
  · refine Program.Safe.read (fun _ _ => rfl) ?_ safeThrown
    exact fun _ _ _ _ _ _ _ => dispatched
  · exact dispatched

end

/-- Only wallets have been written so far. -/
private def WalletsOnly (written : World → World) : Prop :=
  ∀ world, ∃ wallets, written world = { world with wallets }

/-- Nothing but the wallets and one ledger row of the movement has changed. -/
def Posted (input : MoveInput) (before after : World) : Prop :=
  ∃ wallets, ∃ row : WalletTransaction,
    after = { before with wallets, ledger := before.ledger ++ [row] } ∧
      row.type = input.txType ∧ row.reference = input.reference

theorem Posted.moved {input : MoveInput} {before after : World}
    (posted : Posted input before after) : Moved input before after := by
  obtain ⟨wallets, row, rfl, type, reference⟩ := posted
  exact ⟨rfl, rfl, rfl, rfl, row, rfl, type, reference⟩

/-- The protocol sees no lock that the thread takes on a wallet. -/
def WalletBlind (protocol : Protocol Id World RowKey Expectation Ghost)
    (id : Id) : Prop :=
  ∀ world owner held (keys : List RowKey),
    (∀ key ∈ keys, ∃ wallet, key = .wallet wallet) →
    protocol.invariant world owner held →
      protocol.invariant world (acquire owner id keys) held

/-- A wallet movement keeps the ghost until it commits. -/
theorem posting_safe (blind : WalletBlind protocol id)
    (safeThrown : ∀ error, thrown error ghost)
    (abandoned : protocol.abandon ghost = ghost) (now : Time)
    (input : MoveInput) {post : Ghost → Prop}
    (commits : ∀ before after owner held, protocol.invariant before owner held →
      held id = ghost → Posted input before after →
      ∃ ghost', protocol.invariant after owner (update held id ghost') ∧
        protocol.guarantee id before after ∧ protocol.committed ghost' ∧
          post ghost') :
    (move now input).Safe protocol id (fun _ left => post left)
      thrown ghost := by
  unfold move
  split
  · exact safeThrown _
  · exact safeThrown _
  rename_i amount value
  split
  · exact safeThrown _
  refine Program.Safe.andThen
    (getWallet_safe input.accountId input.type safeThrown) ?_
  rintro wallet left ⟨_, rfl⟩
  split
  · exact safeThrown _
  -- inside the transaction the tables are as they were, and no lock matters
  have unseen (world : World) owner (held : Id → Ghost) (keys : List RowKey)
      (onWallets : ∀ key ∈ keys, ∃ wallet, key = .wallet wallet)
      (kept : protocol.invariant world owner held) (own : held id = left) :
      protocol.invariant world (acquire owner id keys)
        (update held id left) := by
    subst own
    rw [update_eq_self]
    exact blind world owner held keys onWallets kept
  have failing : ∀ error : AppError, thrown error (protocol.abandon left) := by
    rw [abandoned]
    exact safeThrown
  have ledger (written : World → World) (walletsOnly : WalletsOnly written)
    (site : Site)
      (before : Money) :
      (Body.perform
        (createLedgerRow site (moveRow now input wallet amount before))).Safe
        protocol id (CommitSafe protocol id (fun _ left => post left) thrown)
        (fun error ghost => thrown error (protocol.abandon ghost))
          written left := by
    refine ⟨?_, failing⟩
    intro world owner held kept own _ _ row answered
    refine ⟨left,
      unseen world owner held _
      (by simp [createLedgerRow]) kept own, ?_, failing⟩
    intro world owner held kept own
    obtain ⟨wallets, written_eq⟩ := walletsOnly world
    have posted : Posted input world
        ((createLedgerRow site (moveRow now input wallet amount before)).effect
          world (written world)) := by
      rw [written_eq]
      exact ⟨wallets, _, rfl, rfl, rfl⟩
    have released : protocol.invariant world (release owner id) held := by
      have undone := protocol.invariant_abandon id kept
      rw [own, abandoned, ← own, update_eq_self] at undone
      exact undone
    exact commits world _ _ held released own posted
  refine ⟨?_, safeThrown⟩
  simp only [moveTransaction, Body.bind_perform]
  refine Body.Safe.read (fun _ _ => rfl) (fun _ => rfl) ?_ failing
  intro world owner held kept own current answered
  cases current with
  | none => exact failing _
  | some current =>
      simp only
      split
      · exact failing _
      split
      · exact failing _
      split
      · refine ⟨?_, failing⟩
        intro world owner held kept own _ _ count answered
        refine ⟨left, unseen world owner held _ ?_ kept own, ?_⟩
        · intro key member
          simp only [restingOn, decrementBalance] at member
          split at member
          · split at member
            · exact ⟨_, List.mem_singleton.mp member⟩
            · cases member
          · cases member
        dsimp only
        split
        · exact failing _
        · refine ledger _ (fun later => ?_) _ _
          simp only [restingOn, decrementBalance]
          split
          · split
            · exact ⟨_, rfl⟩
            · exact ⟨_, rfl⟩
          · exact ⟨_, rfl⟩
      · refine ⟨?_, failing⟩
        intro world owner held kept own _ _ updated answered
        refine ⟨left, unseen world owner held _ ?_ kept own,
          ledger _ (fun later => ⟨_, rfl⟩) _ _⟩
        exact fun key member => ⟨_, List.mem_singleton.mp member⟩

/-- The same under a protocol that sees only the records and no lock. -/
theorem movement_safe (indifferent : Indifferent protocol)
    (safeThrown : ∀ error, thrown error ghost)
    (abandoned : protocol.abandon ghost = ghost) (now : Time)
    (input : MoveInput) {post : Ghost → Prop}
    (commits : ∀ before after owner held, protocol.invariant before owner held →
      held id = ghost → Moved input before after →
      ∃ ghost', protocol.invariant after owner (update held id ghost') ∧
        protocol.guarantee id before after ∧ protocol.committed ghost' ∧
          post ghost') :
    (move now input).Safe protocol id (fun _ left => post left)
      thrown ghost := by
  have blind : WalletBlind protocol id := fun world _ _ _ _ kept =>
    (indifferent kept (SameRecords.refl world)).1
  apply posting_safe blind safeThrown abandoned
  intro before after owner held kept own posted
  exact commits before after owner held kept own posted.moved

end CloudStudio.Payments
