import CloudStudio.Payments.Threads

/-!
# At most one wallet movement per transaction

Any number of status updates run at once.  An update that sets a guard column
(`walletCreditedAt`, `refundedAt`) on a row where it is unset takes a ticket for
the one ledger row of that transaction, and spends it when its movement commits.
A ticket is unique as long as every update finds the guard column as it was
read.
-/

namespace CloudStudio.Payments

open Function
open CloudStudio.Data CloudStudio.Transactions CloudStudio.Platform
open CloudStudio.Wallets

/-- One call of the status engine. -/
inductive StatusCall where
  | collection (now : Time) (reference : Reference) (record : ProviderRecord)
  | deposit (now : Time) (reference : Reference) (record : ProviderRecord)
  | payout (now : Time) (reference : Reference) (record : ProviderRecord)

def StatusCall.program : StatusCall → Db Applied
  | .collection now reference record =>
      applyCollectionUpdate now reference record
  | .deposit now reference record => applyDepositUpdate now reference record
  | .payout now reference record => applyPayoutUpdate now reference record

/-- The right to write one ledger row: its type and its reference. -/
structure Ticket where
  type : WalletTxType
  reference : Reference
  deriving DecidableEq

/-- The ledger rows written on a ticket. -/
def movements (world : World) (ticket : Ticket) : List WalletTransaction :=
  world.ledger.filter fun row =>
    row.type = ticket.type ∧ row.reference = some ticket.reference

/-- Whether the guard column behind a ticket is set, if there is such a row. -/
def guardOf (world : World) (ticket : Ticket) : Option Bool :=
  match ticket.type with
  | .collectionCredit =>
      (world.collections.find? ticket.reference).map fun row =>
        row.walletCreditedAt.isSome
  | .deposit =>
      (world.deposits.find? ticket.reference).map fun row =>
        row.walletCreditedAt.isSome
  | .refund =>
      (world.payouts.find? ticket.reference).map fun row =>
        row.refundedAt.isSome
  | _ => none

/-- At most one row has been written on a ticket, and none while its guard is
unset. -/
def Guarded (world : World) : Prop :=
  ∀ ticket set, guardOf world ticket = some set →
    (movements world ticket).length ≤ 1 ∧
      (set = false → movements world ticket = [])

variable {Id : Type} [DecidableEq Id]

/-- How a ticket stands: which call holds it, and what has been written on
it. -/
structure Issued (world : World) (held : Id → Option Ticket) (ticket : Ticket)
    (set : Bool) : Prop where
  once : (movements world ticket).length ≤ 1
  unset : set = false → movements world ticket = [] ∧ ∀ id,
    held id ≠ some ticket
  unspent : ∀ id, held id = some ticket → movements world ticket = []
  unique : ∀ first second, held first = some ticket →
    held second = some ticket → first = second

/-- The rules of the pool. -/
def exactlyOnce : Protocol Id World RowKey Expectation (Option Ticket) where
  assumed := [.currentGuard]
  invariant := fun world _ held =>
    ∀ ticket set, guardOf world ticket = some set → Issued world held ticket set
  guarantee := fun _ _ _ => True
  abandon := fun ticket => ticket
  guarantee_refl := fun _ _ => trivial
  invariant_abandon := by
    intro world owner held id kept
    rwa [update_eq_self]

variable {world after : World} {owner : RowKey → Option Id}
  {held : Id → Option Ticket}
variable {id : Id}

omit [DecidableEq Id] in
theorem guardOf_congr {before after : World} (ticket : Ticket)
    (same : SameRecords before after) :
    guardOf after ticket = guardOf before ticket := by
  simp only [guardOf, same.collections, same.deposits, same.payouts]

omit [DecidableEq Id] in
theorem movements_congr {before after : World} (ticket : Ticket)
    (same : after.ledger = before.ledger) :
    movements after ticket = movements before ticket := by
  simp only [movements, same]

omit [DecidableEq Id] in
theorem movements_append {before after : World} {row : WalletTransaction}
    (ledger : after.ledger = before.ledger ++ [row]) (ticket : Ticket) :
    movements after ticket = movements before ticket ++
      if row.type = ticket.type ∧
        row.reference = some ticket.reference then [row]
      else [] := by
  simp only [movements, ledger, List.filter_append, List.filter_singleton,
    Bool.cond_decide]

theorem exactlyOnce_indifferent :
    Indifferent
      (exactlyOnce : Protocol Id World RowKey Expectation (Option Ticket)) := by
  intro before after owner owner' held kept same
  refine ⟨fun ticket set found => ?_, fun _ => trivial⟩
  rw [guardOf_congr ticket same] at found
  have issued := kept ticket set found
  have rows := movements_congr ticket same.ledger
  exact ⟨rows ▸ issued.once, fun unset => rows ▸ issued.unset unset,
    fun id holds => rows ▸ issued.unspent id holds, issued.unique⟩

/-- What the write of a transaction row does to the guards: it may set the one
it found unset, and touches no other. -/
structure GuardWrite (ticket : Ticket) (raises : Bool) (before after : World) :
    Prop where
  ledger : after.ledger = before.ledger
  others : ∀ other, other ≠ ticket → guardOf after other = guardOf before other
  raised : raises = true →
    guardOf before ticket = some false ∧ guardOf after ticket = some true
  kept : raises = false → guardOf after ticket = guardOf before ticket

/-- Setting a guard takes its ticket. -/
theorem take_ticket {ticket : Ticket} {raises : Bool}
    (kept : exactlyOnce.invariant world owner held) (none_yet : held id = none)
    (write : GuardWrite ticket raises world after) :
    exactlyOnce.invariant after owner
      (update held id (if raises then some ticket else none)) := by
  intro other set found
  have rows := movements_congr other write.ledger
  cases raises with
  | false =>
      have same : guardOf after other = guardOf world other := by
        by_cases own : other = ticket
        · rw [own]
          exact write.kept rfl
        · exact write.others other own
      have unchanged : update held id none = held := by
        rw [← none_yet, update_eq_self]
      rw [same] at found
      have issued := kept other set found
      simp only [Bool.false_eq_true, if_false, unchanged]
      exact ⟨rows ▸ issued.once, fun unset => rows ▸ issued.unset unset,
        fun id holds => rows ▸ issued.unspent id holds, issued.unique⟩
  | true =>
      simp only [if_true]
      by_cases own : other = ticket
      · subst own
        obtain ⟨was, now_set⟩ := write.raised rfl
        obtain ⟨unwritten, unheld⟩ := (kept other false was).unset rfl
        rw [now_set] at found
        cases found
        refine ⟨by simp [rows, unwritten], nofun, fun _ _ =>
          rows.trans unwritten, ?_⟩
        have holder (holding : Id)
          (holds : update held id (some other) holding = some other) :
            holding = id := by
          by_contra differ
          rw [update_of_ne differ] at holds
          exact unheld holding holds
        exact fun first second holdsFirst holdsSecond =>
          (holder first holdsFirst).trans (holder second holdsSecond).symm
      · rw [write.others other own] at found
        have issued := kept other set found
        have older (holding : Id)
            (holds : update held id (some ticket) holding = some other) :
            held holding = some other := by
          by_cases same : holding = id
          · subst same
            rw [update_self] at holds
            exact absurd (Option.some.inj holds).symm own
          · rwa [update_of_ne same] at holds
        refine ⟨rows ▸ issued.once, fun unset =>
          ⟨rows ▸ (issued.unset unset).1, ?_⟩, ?_, ?_⟩
        · exact fun holding holds =>
            (issued.unset unset).2 holding (older holding holds)
        · exact fun holding holds =>
            rows ▸ issued.unspent holding (older holding holds)
        · exact fun first second holdsFirst holdsSecond =>
            issued.unique first second (older first holdsFirst)
              (older second holdsSecond)

/-- A movement on a ticket spends it. -/
theorem spend_ticket {ticket : Ticket} {input : MoveInput}
    (kept : exactlyOnce.invariant world owner held)
    (holds : held id = some ticket) (type : input.txType = ticket.type)
    (reference : input.reference = some ticket.reference)
    (moved : Moved input world after) :
    exactlyOnce.invariant after owner (update held id none) := by
  intro other set found
  obtain ⟨row, ledger, rowType, rowReference⟩ := moved.ledger
  have same : guardOf after other = guardOf world other := by
    simp only [guardOf, moved.collections, moved.deposits, moved.payouts]
  rw [same] at found
  have issued := kept other set found
  have older (holding : Id) (holds : update held id none holding = some other) :
      holding ≠ id ∧ held holding = some other := by
    by_cases same : holding = id
    · subst same
      rw [update_self] at holds
      cases holds
    · rw [update_of_ne same] at holds
      exact ⟨same, holds⟩
  by_cases own : other = ticket
  · subst own
    have unwritten := issued.unspent id holds
    have written : movements after other = [row] := by
      have hit : row.type = other.type ∧ row.reference = some other.reference :=
        ⟨rowType.trans type, rowReference.trans reference⟩
      rw [movements_append ledger, unwritten, if_pos hit, List.nil_append]
    refine ⟨by simp [written], fun unset => ?_, ?_, ?_⟩
    · exact absurd holds ((issued.unset unset).2 id)
    · intro holding stillHolds
      obtain ⟨differ, held_before⟩ := older holding stillHolds
      exact absurd (issued.unique holding id held_before holds) differ
    · intro first second holdsFirst _
      obtain ⟨differ, held_before⟩ := older first holdsFirst
      exact absurd (issued.unique first id held_before holds) differ
  · have miss :
      ¬ (row.type = other.type ∧ row.reference = some other.reference) := by
      rintro ⟨sameType, sameReference⟩
      apply own
      rw [rowType, type] at sameType
      rw [rowReference, reference] at sameReference
      obtain ⟨otherType, otherReference⟩ := other
      obtain ⟨ticketType, ticketReference⟩ := ticket
      cases sameType
      cases sameReference
      rfl
    have rows : movements after other = movements world other := by
      rw [movements_append ledger, if_neg miss, List.append_nil]
    refine ⟨rows ▸ issued.once, fun unset =>
      ⟨rows ▸ (issued.unset unset).1, ?_⟩, ?_, ?_⟩
    · exact fun holding holds =>
        (issued.unset unset).2 holding (older holding holds).2
    · exact fun holding holds =>
        rows ▸ issued.unspent holding (older holding holds).2
    · exact fun first second holdsFirst holdsSecond =>
        issued.unique first second (older first holdsFirst).2
          (older second holdsSecond).2

/-- Where a call may end: the rules say nothing about its own ticket. -/
abbrev Anywhere {Answer : Type} (_ : Answer) (_ : Option Ticket) : Prop := True

/-- The write of a transaction row takes the ticket it raises. -/
theorem write_safe {Answer Result : Type} {statement : Statement Answer}
    {next : Answer → Db Result} {failed : AppError → Db Result}
    {ticket : Ticket} {raises : Bool}
    (writes : ∀ world answer, statement.answer world = .ok answer →
      statement.expects .currentGuard world = true →
      GuardWrite ticket raises world (statement.effect world world))
    (safeNext : ∀ answer, (next answer).Safe exactlyOnce id Anywhere Anywhere
      (if raises then some ticket else none))
    (safeFailed : ∀ error,
      (failed error).Safe exactlyOnce id Anywhere Anywhere none) :
    (Program.query statement next failed).Safe exactlyOnce id Anywhere
      Anywhere none := by
  refine ⟨?_, safeFailed⟩
  intro world owner held kept own _ expected answer answered
  have write := writes world answer answered (expected _ List.mem_cons_self)
  exact ⟨_, take_ticket kept own write, trivial, safeNext answer⟩

/-- A movement on the ticket the call holds. -/
theorem credit_safe (now : Time) {ticket : Ticket} {input : MoveInput}
    (type : input.txType = ticket.type)
    (reference : input.reference = some ticket.reference) :
    (move now input).Safe exactlyOnce id (fun _ left => left = none) Anywhere
      (some ticket) := by
  refine movement_safe exactlyOnce_indifferent (fun _ => trivial)
    rfl now input ?_
  intro before after owner held kept own moved
  exact ⟨none, spend_ticket kept own type reference moved, trivial, trivial,
    rfl⟩

/-- A movement that is made just when its ticket has been taken. -/
theorem movement_of_ticket (now : Time) {ticket : Ticket} {input : MoveInput}
    {due : Bool} (type : input.txType = ticket.type)
    (reference : input.reference = some ticket.reference) :
    (Program.when (due = true) (Program.discard (move now input))).Safe
      exactlyOnce id
      (fun _ left => left = none) Anywhere
        (if due then some ticket else none) := by
  refine when_safe (fun taken => discard_safe ?_) fun skipped => if_neg skipped
  rw [if_pos taken]
  exact credit_safe now type reference

theorem updateCollection_writes (now : Time) (record : ProviderRecord)
    (nextStatus : TxStatus) {fee : Option ComputedFee} {collection : Collection}
    (uncredited : fee.isSome → collection.walletCreditedAt = none)
    (world : World) (answer : Collection)
    (answered : (updateCollection now record nextStatus fee collection).answer
      world =
      .ok answer)
    (current : (updateCollection now record nextStatus fee collection).expects
      .currentGuard world = true) :
    GuardWrite ⟨.collectionCredit, collection.reference⟩ fee.isSome world
      ((updateCollection now record nextStatus fee collection).effect
        world world) := by
  simp only [updateCollection, Relation.update,
    Platform.collections] at answered current ⊢
  cases found : world.collections.find? collection.reference with
  | none => simp [found] at answered
  | some row =>
      simp only [found, decide_eq_true_eq] at current
      refine ⟨rfl, ?_, ?_, ?_⟩
      · rintro ⟨type, reference⟩ differ
        cases type <;> try rfl
        have other : reference ≠ collection.reference := by simpa using differ
        simp only [guardOf, Table.find?_modify_ne other]
      · intro raises
        simp only [guardOf, Table.find?_modify_self, found, Option.map_some,
          current,
          uncredited raises, collectionUpdate, raises, if_true,
            Option.isSome_none,
          Option.isSome_some, and_self]
      · intro keeps
        simp only [guardOf, Table.find?_modify_self, found, Option.map_some,
          current, collectionUpdate, keeps, Bool.false_eq_true, if_false]

theorem finishCollection_safe (now : Time) (record : ProviderRecord)
    (nextStatus : TxStatus) {fee : Option ComputedFee} {collection : Collection}
    (uncredited : fee.isSome → collection.walletCreditedAt = none) :
    (finishCollection now record nextStatus fee collection).Safe exactlyOnce id
      Anywhere Anywhere none := by
  unfold finishCollection
  split
  · trivial
  simp only [Program.bind_perform]
  refine write_safe (updateCollection_writes now record nextStatus uncredited)
    ?_ fun _ => trivial
  intro updated
  have credited : (creditCollection now collection updated fee).Safe exactlyOnce
    id
      (fun _ left => left = none) Anywhere
      (if fee.isSome then some ⟨.collectionCredit,
        collection.reference⟩ else none) := by
    cases fee with
    | none => exact rfl
    | some fee => exact discard_safe (credit_safe now rfl rfl)
  refine Program.Safe.andThen credited ?_
  rintro _ left rfl
  exact Program.Safe.andThen
    (whenDispatch_safe exactlyOnce_indifferent.overlooks (fun _ => trivial) _
      now _)
    fun _ _ _ => trivial

theorem applyCollectionUpdate_safe (now : Time) (orderReference : Reference)
    (record : ProviderRecord) :
    (applyCollectionUpdate now orderReference record).Safe exactlyOnce id
      Anywhere Anywhere none := by
  simp only [applyCollectionUpdate, Program.bind_perform]
  refine Program.Safe.read (fun _ _ => rfl) ?_ fun _ => trivial
  intro world owner held kept own collection answered
  cases collection with
  | none => trivial
  | some collection =>
      dsimp only
      split
      · trivial
      rename_i nextStatus mapped
      split
      · trivial
      split
      · rename_i due
        have ignored (config : FeeConfig) :
          Ignores (exactlyOnce : Protocol Id _ _ _ _)
            fun world =>
              { world with feeConfigs := world.feeConfigs.insert config } :=
          exactlyOnce_indifferent.ignores fun _ => ⟨rfl, rfl, rfl, rfl, rfl⟩
        refine Program.Safe.andThen
          (computeFee_safe _ _ _ ignored fun _ => trivial) ?_
        rintro fee left rfl
        exact finishCollection_safe now record nextStatus fun _ => due.2
      · exact finishCollection_safe now record nextStatus (by simp)

theorem updateDeposit_writes (now : Time) (record : ProviderRecord)
    (nextStatus : TxStatus) {shouldCredit : Bool} {deposit : Deposit}
    (uncredited : shouldCredit → deposit.walletCreditedAt = none) (world : World)
    (answer : Deposit)
    (answered : (updateDeposit now record nextStatus shouldCredit deposit).answer world =
      .ok answer)
    (current : (updateDeposit now record nextStatus shouldCredit deposit).expects
      .currentGuard world = true) :
    GuardWrite ⟨.deposit, deposit.reference⟩ shouldCredit world
      ((updateDeposit now record nextStatus shouldCredit deposit).effect world world) := by
  simp only [updateDeposit, Relation.update, Platform.deposits] at answered current ⊢
  cases found : world.deposits.find? deposit.reference with
  | none => simp [found] at answered
  | some row =>
      simp only [found, decide_eq_true_eq] at current
      refine ⟨rfl, ?_, ?_, ?_⟩
      · rintro ⟨type, reference⟩ differ
        cases type <;> try rfl
        have other : reference ≠ deposit.reference := by simpa using differ
        simp only [guardOf, Table.find?_modify_ne other]
      · intro raises
        simp only [guardOf, Table.find?_modify_self, found, Option.map_some,
          current,
          uncredited raises, depositUpdate, raises, if_true, Option.isSome_none,
          Option.isSome_some, and_self]
      · intro keeps
        simp only [guardOf, Table.find?_modify_self, found, Option.map_some,
          current, depositUpdate, keeps, Bool.false_eq_true, if_false]

theorem applyDepositUpdate_safe (now : Time) (orderReference : Reference)
    (record : ProviderRecord) :
    (applyDepositUpdate now orderReference record).Safe exactlyOnce id Anywhere
      Anywhere none := by
  simp only [applyDepositUpdate, Program.bind_perform]
  refine Program.Safe.read (fun _ _ => rfl) ?_ fun _ => trivial
  intro world owner held kept own deposit answered
  cases deposit with
  | none => trivial
  | some deposit =>
      dsimp only
      split
      · trivial
      rename_i nextStatus mapped
      split
      · trivial
      unfold finishDeposit
      split
      · trivial
      simp only [Program.bind_perform]
      refine write_safe (updateDeposit_writes now record nextStatus ?_) ?_
        fun _ => trivial
      · intro due
        exact (of_decide_eq_true due).2
      intro updated
      refine Program.Safe.andThen (movement_of_ticket now rfl rfl) ?_
      rintro _ left rfl
      exact Program.Safe.andThen
        (whenDispatch_safe exactlyOnce_indifferent.overlooks (fun _ => trivial)
          _ now _)
        fun _ _ _ => trivial

theorem updatePayout_writes (now : Time) (record : ProviderRecord)
    (nextStatus : TxStatus) {shouldRefund : Bool} {payout : Payout}
    (unrefunded : shouldRefund → payout.refundedAt = none) (world : World)
    (answer : Payout)
    (answered : (updatePayout now record nextStatus shouldRefund payout).answer world =
      .ok answer)
    (current : (updatePayout now record nextStatus shouldRefund payout).expects
      .currentGuard world = true) :
    GuardWrite ⟨.refund, payout.reference⟩ shouldRefund world
      ((updatePayout now record nextStatus shouldRefund payout).effect world world) := by
  simp only [updatePayout, Relation.update, Platform.payouts] at answered current ⊢
  cases found : world.payouts.find? payout.reference with
  | none => simp [found] at answered
  | some row =>
      simp only [found, decide_eq_true_eq] at current
      refine ⟨rfl, ?_, ?_, ?_⟩
      · rintro ⟨type, reference⟩ differ
        cases type <;> try rfl
        have other : reference ≠ payout.reference := by simpa using differ
        simp only [guardOf, Table.find?_modify_ne other]
      · intro raises
        simp only [guardOf, Table.find?_modify_self, found, Option.map_some,
          current,
          unrefunded raises, payoutUpdate, raises, if_true, Option.isSome_none,
          Option.isSome_some, and_self]
      · intro keeps
        simp only [guardOf, Table.find?_modify_self, found, Option.map_some,
          current, payoutUpdate, keeps, Bool.false_eq_true, if_false]

theorem applyPayoutUpdate_safe (now : Time) (orderReference : Reference)
    (record : ProviderRecord) :
    (applyPayoutUpdate now orderReference record).Safe exactlyOnce id Anywhere
      Anywhere none := by
  simp only [applyPayoutUpdate, Program.bind_perform]
  refine Program.Safe.read (fun _ _ => rfl) ?_ fun _ => trivial
  intro world owner held kept own payout answered
  cases payout with
  | none => trivial
  | some payout =>
      dsimp only
      split
      · trivial
      rename_i nextStatus mapped
      split
      · trivial
      unfold finishPayout
      split
      · trivial
      simp only [Program.bind_perform]
      refine write_safe (updatePayout_writes now record nextStatus ?_) ?_
        fun _ => trivial
      · intro due
        exact (of_decide_eq_true due).2.2
      intro updated
      refine Program.Safe.andThen (movement_of_ticket now rfl rfl) ?_
      rintro _ left rfl
      have announced : (Program.when (payout.status ∉ FINAL_STATUSES)
          (announcePayout now payout nextStatus)).Safe exactlyOnce id
          (fun _ left => left = none) Anywhere none :=
        when_safe
          (fun _ => announcePayout_safe exactlyOnce_indifferent.overlooks
          (fun _ => trivial) now payout nextStatus) fun _ => rfl
      refine Program.Safe.andThen announced ?_
      rintro _ left rfl
      exact Program.Safe.andThen
        (recountBatch_safe exactlyOnce_indifferent.overlooks (fun _ => trivial)
          now _)
        fun _ _ _ => trivial

theorem statusCall_safe (call : StatusCall) :
    call.program.Safe exactlyOnce id Anywhere Anywhere none := by
  cases call with
  | collection now reference record =>
      exact applyCollectionUpdate_safe now reference record
  | deposit now reference record =>
      exact applyDepositUpdate_safe now reference record
  | payout now reference record =>
      exact applyPayoutUpdate_safe now reference record

/-! ## Every run -/

/-- The calls, none of which has run a statement yet. -/
def updating (world : World) (calls : Id → StatusCall) :
    Config Id World RowKey Expectation Site AppError Applied :=
  Config.start world fun id => (calls id).program

theorem updating_run (world : World) (guarded : Guarded world)
    (calls : Id → StatusCall) (schedule : List (Event Id AppError))
    (expected : (updating world calls).AsExpected [.currentGuard] schedule) :
    Config.Sound exactlyOnce (fun _ => Anywhere) (fun _ => Anywhere)
      ((updating world calls).run schedule) := by
  have sound : Config.Sound exactlyOnce (fun _ => Anywhere) (fun _ => Anywhere)
      (updating world calls) := by
    refine ⟨fun _ => none, ?_, fun id => statusCall_safe (calls id)⟩
    intro ticket set found
    obtain ⟨once, unset⟩ := guarded ticket set found
    exact ⟨once, fun isUnset => ⟨unset isUnset, nofun⟩, nofun, nofun⟩
  exact sound.run schedule expected

/-- If every update finds its guard column as it was read, each collection has
at most one credit row, each deposit one deposit row and each payout one refund
row. -/
theorem at_most_one_movement (world : World) (guarded : Guarded world)
    (calls : Id → StatusCall) (schedule : List (Event Id AppError))
    (expected : (updating world calls).AsExpected [.currentGuard] schedule) :
    let reached := ((updating world calls).run schedule).state
    (∀ row ∈ reached.collections.rows,
        (movements reached ⟨.collectionCredit, row.reference⟩).length ≤ 1) ∧
      (∀ row ∈ reached.deposits.rows,
        (movements reached ⟨.deposit, row.reference⟩).length ≤ 1) ∧
      ∀ row ∈ reached.payouts.rows,
        (movements reached ⟨.refund, row.reference⟩).length ≤ 1 := by
  obtain ⟨held, kept, _⟩ := updating_run world guarded calls schedule expected
  intro reached
  have once (ticket : Ticket) (exists_ : (guardOf reached ticket).isSome) :
      (movements reached ticket).length ≤ 1 := by
    obtain ⟨set, found⟩ := Option.isSome_iff_exists.mp exists_
    exact (kept ticket set found).once
  refine ⟨fun row member => once _ ?_, fun row member => once _ ?_,
    fun row member => once _ ?_⟩
  all_goals simp only [guardOf, Table.find?_of_mem member, Option.map_some,
    Option.isSome_some]

/-- Two reports of the success of one collection. -/
def reports (_ : Bool) : StatusCall :=
  .collection 2 "AAAAA000000000000001" { status := .given "SUCCESS" }

theorem guarded_pendingWorld : Guarded pendingWorld := by
  intro ticket set found
  have empty : movements pendingWorld ticket = [] := rfl
  exact ⟨by simp [empty], fun _ => empty⟩

/-- The second report is read after the first has been applied. -/
def inTurn : List (Event Bool AppError) :=
  List.replicate 13 (.run false) ++ List.replicate 13 (.run true)

/-- Both reports are read before either is applied. -/
def together : List (Event Bool AppError) :=
  [.run false, .run true] ++ List.replicate 12 (.run false) ++
    List.replicate 12 (.run true)

theorem at_most_one_movement_inTurn :
    let reached := ((updating pendingWorld reports).run inTurn).state
    (∀ row ∈ reached.collections.rows,
        (movements reached ⟨.collectionCredit, row.reference⟩).length ≤ 1) ∧
      (∀ row ∈ reached.deposits.rows,
        (movements reached ⟨.deposit, row.reference⟩).length ≤ 1) ∧
      ∀ row ∈ reached.payouts.rows,
        (movements reached ⟨.refund, row.reference⟩).length ≤ 1 :=
  at_most_one_movement pendingWorld guarded_pendingWorld reports inTurn
    (by decide +kernel)

/-- The collection is credited twice: the guard was read before it was set. -/
theorem credited_twice :
    (∀ id, (((updating pendingWorld reports).run together).thread id).outcome? =
      some (.returned { handled := true, status := some .success })) ∧
    ∃ row ∈ ((updating pendingWorld reports).run together).state.collections.rows,
      ¬ (movements ((updating pendingWorld reports).run together).state
        ⟨.collectionCredit, row.reference⟩).length ≤ 1 := by
  decide +kernel

end CloudStudio.Payments
