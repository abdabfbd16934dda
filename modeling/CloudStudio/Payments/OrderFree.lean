import CloudStudio.Data.Independence
import CloudStudio.Payments.NetCredit
import CloudStudio.Payments.StatusHistory
import Mathlib.Algebra.BigOperators.Pi
import Mathlib.Algebra.Order.Pi

/-!
# Records for different transactions

Provider records come in for many collections, deposits and payouts.  What the
three engines read and write, with the running balances of the ledger left out,
is the abstract state; on it a record acts on its own transaction alone, by what
this transaction, the fee configuration and the wallets' standing say.  So the
order of records for different transactions is immaterial, and what one
transaction does to the books does not depend on the others.
-/

namespace CloudStudio.Payments

open CloudStudio.Data CloudStudio.Data.Independence
open CloudStudio.Transactions CloudStudio.Platform CloudStudio.Wallets

/-- One transaction, by the engine that updates it. -/
abbrev Transaction := Engine × Reference

/-- The rows of an engine. -/
abbrev Row : Engine → Type
  | .collection => Collection
  | .deposit => Deposit
  | .payout => Payout

/-- A ledger row without its running balances. -/
def unbalanced (row : WalletTransaction) : WalletTransaction :=
  { row with balanceBefore := 0, balanceAfter := 0 }

/-- What the engines read and write: the rows, how wallets are found and stand,
the fees, the balances, and how many ledger rows there are of each kind. -/
structure Records where
  stored : (transaction : Transaction) → Option (Row transaction.1)
  keyOf : String → WalletType → WalletKey
  config : AccountId → FeeConfig
  standing : WalletKey → Option Wallet
  balance : WalletKey → Decimal
  rows : WalletTransaction → ℤ

def storedIn (world : World) :
    (transaction : Transaction) → Option (Row transaction.1)
  | (.collection, reference) => world.collections.find? reference
  | (.deposit, reference) => world.deposits.find? reference
  | (.payout, reference) => world.payouts.find? reference

def recordsOf (world : World) : Records where
  stored := storedIn world
  keyOf := world.walletKeyOf
  config := world.configOf
  standing key := (world.wallets.find? key).map fun wallet =>
    { wallet with balance := 0 }
  balance := world.balance
  rows row := (world.ledger.map unbalanced).count row

/-- The ledger row of a credit, which is made whenever the wallet is there and
open to it. -/
def creditRow (now : Time) (input : MoveInput)
    (keyOf : String → WalletType → WalletKey)
    (standing : WalletKey → Option Wallet) : Option WalletTransaction :=
  match input.amount, standing (keyOf input.accountId input.type) with
  | .value amount, some wallet =>
      if amount ≠ 0 ∧ ¬ (wallet.status = .frozen ∧ ¬ input.ignoreFrozen) then
        some (unbalanced (moveRow now input wallet amount 0))
      else none
  | _, _ => none

/-- What a ledger row adds to the books. -/
def bookingOf :
    Option WalletTransaction → (WalletKey → Decimal) × (WalletTransaction → ℤ)
  | some row => (Pi.single row.walletId (row.amount : Decimal), Pi.single row 1)
  | none => 0

def Records.pay (now : Time) (input : MoveInput) (records : Records) :
    Records :=
  let booking := bookingOf (creditRow now input records.keyOf records.standing)
  { records with
    balance := records.balance + booking.1
    rows := records.rows + booking.2 }

/-- The row that a record writes, with the movement that is due; none if it
writes nothing. -/
def written (config : AccountId → FeeConfig) (report : Report) :
    (engine : Engine) → Row engine → Option (Row engine × Option MoveInput)
  | .collection, row => do
      let nextStatus ← report.record.nextStatus?
      if (row.status ∈ FINAL_STATUSES ∧ row.status = nextStatus) ∨
          ¬ report.record.FitsPayment then none
      else if CreditDue nextStatus row.walletCreditedAt then
        let fee :=
          (config row.accountId).fee .collection (basisOf report.record row)
        some (collectionUpdate report.now report.record nextStatus
          (some fee) row row,
          some (creditOf report.now report.record nextStatus fee row))
      else some (collectionUpdate report.now report.record nextStatus
        none row row, none)
  | .deposit, row => do
      let nextStatus ← report.record.nextStatus?
      if (row.status ∈ FINAL_STATUSES ∧ row.status = nextStatus) ∨
          ¬ report.record.FitsPayment then none
      else if CreditDue nextStatus row.walletCreditedAt then
        some (depositUpdate report.now report.record nextStatus true row row,
          some (depositCreditOf report.now report.record nextStatus row))
      else some (depositUpdate report.now report.record nextStatus
        false row row, none)
  | .payout, row => do
      let nextStatus ← report.record.nextStatus?
      if (row.status ∈ FINAL_STATUSES ∧ row.status = nextStatus) ∨
          ¬ report.record.FitsPayout then none
      else if RefundDue nextStatus row then
        some (payoutUpdate report.now report.record nextStatus true row row,
          some (payoutRefund row))
      else some (payoutUpdate report.now report.record nextStatus false row row,
        none)

def Records.store (transaction : Transaction) (row : Row transaction.1)
    (records : Records) : Records :=
  { records with stored :=
    Function.update records.stored transaction (some row) }

/-- One record, read for one transaction. -/
def Records.apply (event : Transaction × Report) (records : Records) :
    Records :=
  match (records.stored event.1).bind
    (written records.config event.2 event.1.1) with
  | none => records
  | some (row, none) => records.store event.1 row
  | some (row, some input) => (records.store event.1 row).pay event.2.now input

/-- What a transaction sees. -/
structure Seen where
  row : (engine : Engine) × Option (Row engine)
  keyOf : String → WalletType → WalletKey
  config : AccountId → FeeConfig
  standing : WalletKey → Option Wallet

def seenBy (transaction : Transaction) (records : Records) : Seen :=
  ⟨⟨transaction.1, records.stored transaction⟩, records.keyOf, records.config,
    records.standing⟩

def booked (records : Records) :
    (WalletKey → Decimal) × (WalletTransaction → ℤ) :=
  (records.balance, records.rows)

theorem seenBy_eq {transaction : Transaction} {first second : Records} :
    seenBy transaction first = seenBy transaction second ↔
      first.stored transaction = second.stored transaction ∧
        first.keyOf = second.keyOf ∧
        first.config = second.config ∧ first.standing = second.standing := by
  simp [seenBy]

/-- What a record does, by what its transaction sees. -/
def outcome (transaction : Transaction) (report : Report) (records : Records) :
    Option (Row transaction.1 × Option MoveInput) :=
  (records.stored transaction).bind
    (written records.config report transaction.1)

def bookingFor (report : Report) (records : Records) :
    Option MoveInput → (WalletKey → Decimal) × (WalletTransaction → ℤ)
  | some input =>
      bookingOf (creditRow report.now input records.keyOf records.standing)
  | none => 0

/-- A record leaves everything but its own row, and moves the books by the
credit due. -/
theorem apply_eq (event : Transaction × Report) (records : Records) :
    records.apply event =
      match outcome event.1 event.2 records with
      | none => records
      | some (row, movement) =>
          { records with
            stored := Function.update records.stored event.1 (some row)
            balance := records.balance + (bookingFor event.2 records movement).1
            rows := records.rows + (bookingFor event.2 records movement).2
              } := by
  unfold Records.apply outcome
  cases (records.stored event.1).bind
    (written records.config event.2 event.1.1) with
  | none => rfl
  | some result =>
      obtain ⟨row, movement⟩ := result
      cases movement with
      | some input => rfl
      | none => simp [Records.store, bookingFor]

theorem seenBy_apply_ne {event : Transaction × Report} {records : Records}
    {other : Transaction} (apart : other ≠ event.1) :
    seenBy other (records.apply event) = seenBy other records := by
  rw [apply_eq, seenBy_eq]
  cases outcome event.1 event.2 records with
  | none => exact ⟨rfl, rfl, rfl, rfl⟩
  | some result => exact ⟨Function.update_of_ne apart _ _, rfl, rfl, rfl⟩

theorem apply_of_seen {event : Transaction × Report} {first second : Records}
    (same : seenBy event.1 first = seenBy event.1 second) :
    seenBy event.1 (first.apply event) = seenBy event.1 (second.apply event) ∧
      booked (first.apply event) - booked first =
        booked (second.apply event) - booked second := by
  obtain ⟨row, keyOf, config, standing⟩ := seenBy_eq.mp same
  have sameOutcome : outcome event.1 event.2 first =
    outcome event.1 event.2 second := by
    rw [outcome, outcome, row, config]
  have samePaid (movement : Option MoveInput) :
      bookingFor event.2 first movement =
        bookingFor event.2 second movement := by
    cases movement with
    | none => rfl
    | some input => simp only [bookingFor, keyOf, standing]
  rw [apply_eq, apply_eq, sameOutcome, seenBy_eq]
  cases outcome event.1 event.2 second with
  | none => exact ⟨⟨row, keyOf, config, standing⟩, by rw [sub_self, sub_self]⟩
  | some result =>
      obtain ⟨written, movement⟩ := result
      refine ⟨⟨?_, keyOf, config, standing⟩, ?_⟩
      · dsimp only
        rw [Function.update_self, Function.update_self]
      · simp only [booked, samePaid, Prod.mk_sub_mk, add_sub_cancel_left]

/-- A record acts on its own transaction alone. -/
theorem records_independent :
    Independent (fun _ => True) Records.apply seenBy
      booked where
  good := fun _ _ _ => trivial
  frame := fun _ _ _ _ apart => seenBy_apply_ne apart
  own := fun _ _ _ _ _ same => apply_of_seen same

theorem recordsOf_noticed {notices : List Dispatched} {before after : World}
    (noticed : Noticed notices before after) :
    recordsOf after = recordsOf before := by
  obtain ⟨deliveries, jobs, rfl⟩ := noticed
  rfl

theorem recordsOf_withRecount (now : Time) (batchId : Option Reference)
    (world : World) :
    recordsOf (withRecount now batchId world) = recordsOf world := by
  cases batchId with
  | none => rfl
  | some batchId => rfl

theorem recordsOf_withConfig (world : World) (accountId : AccountId) :
    recordsOf (world.withConfig accountId) = recordsOf world := by
  unfold World.withConfig
  split
  · rfl
  · rename_i absent
    have config : ∀ id, World.configOf
        { world with feeConfigs := world.feeConfigs.insert { accountId } } id =
          world.configOf id := by
      intro id
      simp only [World.configOf, Table.find?_insert]
      split
      · rename_i same
        rw [← same, absent]
        rfl
      · simp
    simp only [recordsOf, Records.mk.injEq, true_and, and_true]
    refine ⟨rfl, rfl, ?_, rfl⟩
    funext id
    exact config id

/-- The row of one transaction is written. -/
theorem recordsOf_store {world after : World} {transaction : Transaction}
    {row : Row transaction.1} (here : storedIn after transaction = some row)
    (elsewhere : ∀ other, other ≠ transaction → storedIn after other =
      storedIn world other) (accounts : after.accounts = world.accounts)
    (feeConfigs : after.feeConfigs = world.feeConfigs)
    (wallets : after.wallets = world.wallets)
    (ledger : after.ledger = world.ledger) :
    recordsOf after = (recordsOf world).store transaction row := by
  have stored : storedIn after = Function.update (storedIn world) transaction
    (some row) := by
    funext other
    by_cases same : other = transaction
    · subst same
      rw [here, Function.update_self]
    · rw [elsewhere other same, Function.update_of_ne same]
  have keyOf : after.walletKeyOf = world.walletKeyOf := by
    funext accountId type
    simp only [World.walletKeyOf, World.resolve, accounts]
  have config : after.configOf = world.configOf := by
    funext accountId
    simp only [World.configOf, feeConfigs]
  have balance : after.balance = world.balance := by
    funext key
    simp only [World.balance, wallets]
  simp only [recordsOf, Records.store, stored, keyOf, config, balance,
    wallets, ledger]

theorem recordsOf_withCollection (now : Time) (record : ProviderRecord)
    (nextStatus : TxStatus) (fee : Option ComputedFee) {reference : Reference}
    {collection : Collection} {world : World}
    (found : world.collections.find? reference = some collection) :
    recordsOf (withCollection now record nextStatus fee collection world) =
      (recordsOf world).store (.collection, reference)
        (collectionUpdate now record nextStatus fee collection collection) := by
  obtain rfl := Table.key_of_find? found
  refine recordsOf_store ?_ ?_ rfl rfl rfl rfl
  · simp only [storedIn, withCollection, Table.find?_modify_self, found,
      Option.map_some]
  · rintro ⟨engine, other⟩ apart
    cases engine with
    | collection =>
        have differs : other ≠ collection.reference :=
          fun same => apart (congrArg (Prod.mk _) same)
        simp only [storedIn, withCollection, Table.find?_modify_ne differs]
    | deposit => rfl
    | payout => rfl

theorem recordsOf_withDeposit (now : Time) (record : ProviderRecord)
    (nextStatus : TxStatus) (shouldCredit : Bool) {reference : Reference}
    {deposit : Deposit} {world : World}
    (found : world.deposits.find? reference = some deposit) :
    recordsOf (withDeposit now record nextStatus shouldCredit deposit world) =
      (recordsOf world).store (.deposit, reference)
        (depositUpdate now record nextStatus shouldCredit deposit deposit) := by
  obtain rfl := Table.key_of_find? found
  refine recordsOf_store ?_ ?_ rfl rfl rfl rfl
  · simp only [storedIn, withDeposit, Table.find?_modify_self, found,
      Option.map_some]
  · rintro ⟨engine, other⟩ apart
    cases engine with
    | collection => rfl
    | deposit =>
        have differs : other ≠ deposit.reference :=
          fun same => apart (congrArg (Prod.mk _) same)
        simp only [storedIn, withDeposit, Table.find?_modify_ne differs]
    | payout => rfl

theorem recordsOf_withPayout (now : Time) (record : ProviderRecord)
    (nextStatus : TxStatus) (shouldRefund : Bool) {reference : Reference}
    {payout : Payout} {world : World}
    (found : world.payouts.find? reference = some payout) :
    recordsOf (withPayout now record nextStatus shouldRefund payout world) =
      (recordsOf world).store (.payout, reference)
        (payoutUpdate now record nextStatus shouldRefund payout payout) := by
  obtain rfl := Table.key_of_find? found
  refine recordsOf_store ?_ ?_ rfl rfl rfl rfl
  · simp only [storedIn, withPayout, Table.find?_modify_self, found,
      Option.map_some]
  · rintro ⟨engine, other⟩ apart
    cases engine with
    | collection => rfl
    | deposit => rfl
    | payout =>
        have differs : other ≠ payout.reference :=
          fun same => apart (congrArg (Prod.mk _) same)
        simp only [storedIn, withPayout, Table.find?_modify_ne differs]

/-! ## Credits -/

/-- The movement is none that debits. -/
def OnlyCredits (input : MoveInput) : Prop :=
  ∀ amount, isDebit input.txType amount = false

/-- No wallet is overdrawn. -/
def Floored (world : World) : Prop := ∀ key, 0 ≤ world.balance key

/-- Rounding a sum is adding to whole cents what the other part is rounded
to. -/
theorem round_credit {balance : Money} {amount : Decimal}
    (floor : 0 ≤ (balance : Decimal)) (nonneg : 0 ≤ amount) :
    (Money.round (balance + amount) : Decimal) =
      balance + Money.round amount := by
  obtain ⟨units, same⟩ := balance.property
  have scaled : ((balance : Decimal) + amount) * 10 ^ 2 =
    units + amount * 10 ^ 2 := by
    rw [add_mul, same, div_mul_cancel₀ _ (Decimal.scale_ne_zero 2)]
  have positive : 0 ≤ amount * 10 ^ 2 :=
    mul_nonneg nonneg (Decimal.scale_pos 2).le
  have total : 0 ≤ ((balance : Decimal) + amount) * 10 ^ 2 :=
    mul_nonneg (add_nonneg floor nonneg) (Decimal.scale_pos 2).le
  have units_add :
    Decimal.roundHalfUp (((balance : Decimal) + amount) * 10 ^ 2) =
      units + Decimal.roundHalfUp (amount * 10 ^ 2) := by
    rw [Decimal.roundHalfUp, Decimal.roundHalfUp, if_pos total, if_pos positive,
      scaled, add_assoc, Int.floor_intCast_add]
  rw [Money.coe_round, Money.coe_round, Decimal.toFixed, Decimal.toFixed,
    units_add, same, Int.cast_add, add_div]

section

variable {input : MoveInput} {world : World}

theorem creditRow_eq (now : Time) {wallet : Wallet} {amount : Decimal}
    (allowed : MoveAllowed input world wallet amount) :
    creditRow now input (recordsOf world).keyOf (recordsOf world).standing =
      some (unbalanced (moveRow now input wallet amount wallet.balance)) := by
  have standing :
    (recordsOf world).standing (world.walletKeyOf input.accountId input.type) =
      some { wallet with balance := 0 } := by
    simp only [recordsOf, allowed.found, Option.map_some]
  simp only [creditRow, allowed.value]
  rw [show (recordsOf world).keyOf = world.walletKeyOf from rfl, standing]
  exact if_pos ⟨allowed.nonzero, allowed.active⟩

/-- What an allowed credit records. -/
theorem recordsOf_record (now : Time) {wallet : Wallet} {amount : Decimal}
    (credits : OnlyCredits input) (floored : Floored world)
    (allowed : MoveAllowed input world wallet amount) :
    recordsOf (world.record (moveRow now input wallet amount wallet.balance)) =
      (recordsOf world).pay now input := by
  let row := moveRow now input wallet amount wallet.balance
  have standing : ∀ key, ((world.record row).wallets.find? key).map
      (fun wallet => { wallet with balance := 0 }) =
        (world.wallets.find? key).map fun wallet =>
          { wallet with balance := 0 } := by
    intro key
    simp only [World.record, Table.find?_modify]
    split
    · rw [Option.map_map]
      rfl
    · rfl
  have balance : (world.record row).balance =
      world.balance + Pi.single wallet.key (row.amount : Decimal) := by
    have floor : 0 ≤ (wallet.balance : Decimal) := by
      rw [← balance_eq allowed.found_key]
      exact floored wallet.key
    have added : (row.balanceAfter : Decimal) =
      wallet.balance + row.amount := by
      simp only [row, moveRow, credits amount, Bool.false_eq_true, if_false]
      exact round_credit floor (abs_nonneg amount)
    funext key
    rw [balance_record allowed.found_key, Pi.add_apply]
    by_cases same : key = wallet.key
    · subst same
      rw [if_pos (show wallet.key = row.walletId from rfl), Pi.single_eq_same,
        balance_eq allowed.found_key, added]
    · rw [if_neg (show ¬ key = row.walletId from same), Pi.single_eq_of_ne same,
        add_zero]
  have rows :
    (fun shape => (((world.ledger ++ [row]).map unbalanced).count shape : ℤ)) =
      (fun shape => ((world.ledger.map unbalanced).count shape : ℤ)) +
        Pi.single (unbalanced row) 1 := by
    funext shape
    rw [List.map_append, List.count_append, Pi.add_apply, Nat.cast_add]
    by_cases same : shape = unbalanced row
    · subst same
      simp
    · rw [Pi.single_eq_of_ne same]
      simp [Ne.symm same]
  have ledger : (world.record row).ledger = world.ledger ++ [row] := rfl
  unfold Records.pay
  rw [creditRow_eq now allowed]
  change recordsOf (world.record row) = _
  unfold recordsOf
  rw [balance, funext standing, ledger, rows]
  rfl

/-- A credit that is refused is none in the abstract state either. -/
theorem pay_refused (now : Time) (credits : OnlyCredits input)
    (refused : ∀ wallet amount, ¬ MoveAllowed input world wallet amount) :
    (recordsOf world).pay now input = recordsOf world := by
  have none_ : creditRow now input (recordsOf world).keyOf
    (recordsOf world).standing = none := by
    unfold creditRow
    split
    · rename_i amount standing value found
      obtain ⟨wallet, at_key, rfl⟩ := Option.map_eq_some_iff.mp found
      rw [if_neg]
      rintro ⟨nonzero, active⟩
      refine refused wallet amount ⟨value, nonzero, at_key, active,
        fun debit => ?_⟩
      rw [credits amount] at debit
      cases debit
    · rfl
  unfold Records.pay
  rw [none_]
  simp [bookingOf]

/-- A credit is recorded after a write that leaves accounts and wallets as they
were. -/
theorem credit_recorded (now : Time) (between : World) {wallet : Wallet}
    {amount : Decimal} (credits : OnlyCredits input) (floored : Floored world)
    (accounts : between.accounts = world.accounts)
    (wallets : between.wallets = world.wallets)
    (allowed : MoveAllowed input world wallet amount) :
    recordsOf
      (between.record (moveRow now input wallet amount wallet.balance)) =
      (recordsOf between).pay now input := by
  refine recordsOf_record now credits ?_
    ((moveAllowed_congr accounts wallets).mpr allowed)
  intro key
  rw [World.balance, wallets]
  exact floored key

theorem credit_refused (now : Time) (between : World)
    (credits : OnlyCredits input) (accounts : between.accounts = world.accounts)
    (wallets : between.wallets = world.wallets)
    (refused : ∀ wallet amount, ¬ MoveAllowed input world wallet amount) :
    (recordsOf between).pay now input = recordsOf between :=
  pay_refused now credits fun wallet amount allowed =>
    refused wallet amount ((moveAllowed_congr accounts wallets).mp allowed)

end

/-! ## Each engine does what its records say -/

section

variable {world : World} (report : Report) (transaction : Transaction)
  (row : Row transaction.1)

theorem apply_absent (absent : storedIn world transaction = none) :
    (recordsOf world).apply (transaction, report) = recordsOf world := by
  have stored : (recordsOf world).stored transaction = none := absent
  simp only [Records.apply, stored, Option.bind_none]

theorem apply_unwritten (found : storedIn world transaction = some row)
    (nothing : written world.configOf report transaction.1 row = none) :
    (recordsOf world).apply (transaction, report) = recordsOf world := by
  have stored : (recordsOf world).stored transaction = some row := found
  have unwritten : written (recordsOf world).config report transaction.1 row =
    none := nothing
  simp only [Records.apply, stored, Option.bind_some, unwritten]

theorem apply_written {next : Row transaction.1}
    (found : storedIn world transaction = some row)
    (writes : written world.configOf report transaction.1 row =
      some (next, none)) :
    (recordsOf world).apply (transaction, report) =
      (recordsOf world).store transaction next := by
  have stored : (recordsOf world).stored transaction = some row := found
  have wrote : written (recordsOf world).config report transaction.1 row =
    some (next, none) :=
    writes
  simp only [Records.apply, stored, Option.bind_some, wrote]

theorem apply_paid {next : Row transaction.1} {input : MoveInput}
    (found : storedIn world transaction = some row)
    (writes : written world.configOf report transaction.1 row =
      some (next, some input)) :
    (recordsOf world).apply (transaction, report) =
      ((recordsOf world).store transaction next).pay report.now input := by
  have stored : (recordsOf world).stored transaction = some row := found
  have wrote : written (recordsOf world).config report transaction.1 row =
      some (next, some input) := writes
  simp only [Records.apply, stored, Option.bind_some, wrote]

end

/-- A row that changes, with a record that fits it, is written. -/
theorem not_left {status nextStatus : TxStatus} {Fits : Prop}
    (changes : ¬ (status ∈ FINAL_STATUSES ∧ status = nextStatus))
    (fits : Fits) :
    ¬ ((status ∈ FINAL_STATUSES ∧ status = nextStatus) ∨ ¬ Fits) := by
  rw [not_or, not_not]
  exact ⟨changes, fits⟩

section

variable {reference : Reference} {world : World} {report : Report}

theorem collection_unwritten {row : Collection}
    (found : world.collections.find? reference = some row)
    (nothing : written world.configOf report .collection row = none) :
    recordsOf world =
      (recordsOf world).apply ((.collection, reference), report) :=
  (apply_unwritten report (.collection, reference) row found nothing).symm

theorem collection_records (floored : Floored world) :
    recordsOf (afterUpdate .collection reference world report) =
      (recordsOf world).apply ((.collection, reference), report) := by
  have runs :=
    run_applyCollectionUpdate report.now reference report.record world
  have credits {nextStatus : TxStatus} {fee : ComputedFee} {row : Collection} :
      OnlyCredits (creditOf report.now report.record nextStatus fee row) := by
    intro amount
    simp [creditOf, collectionCredit, isDebit]
  unfold afterUpdate applyUpdate
  generalize ((applyCollectionUpdate report.now reference report.record).run
    world).1 = result at runs
  generalize ((applyCollectionUpdate report.now reference report.record).run
    world).2 = after at runs ⊢
  cases runs with
  | unknown absent =>
      exact (apply_absent report (.collection, reference) absent).symm
  | unreadable row found unread =>
      exact collection_unwritten found (by simp [written, unread])
  | unchanged row nextStatus found mapped final same =>
      exact collection_unwritten found
        (by simp [written, mapped, ← same, final])
  | refused row nextStatus _ found mapped changes unfit kept =>
      rw [← collection_unwritten found (by simp [written, mapped, unfit])]
      rcases kept with rfl | rfl
      · rfl
      · exact recordsOf_withConfig world row.accountId
  | written row nextStatus _ found mapped changes fits undue noticed =>
      rw [recordsOf_noticed noticed, recordsOf_withCollection _ _ _ _ found]
      refine (apply_written report (.collection, reference) row found ?_).symm
      simp only [written, mapped, Option.bind_eq_bind, Option.bind_some,
        if_neg (not_left changes fits), if_neg undue]
  | credited row nextStatus basis fee wallet amount _ found mapped changes
      fits due basis_eq fee_eq allowed noticed =>
      obtain ⟨accounts, wallets, collections⟩ :=
        withConfig_rest world row.accountId
      rw [recordsOf_noticed noticed,
        credit_recorded _ (withCollection _ _ _ _ _ _) credits floored accounts
          wallets allowed,
        recordsOf_withCollection _ _ _ _ (collections ▸ found),
          recordsOf_withConfig]
      refine (apply_paid report (.collection, reference) row found ?_).symm
      simp only [written, mapped, Option.bind_eq_bind, Option.bind_some,
        if_neg (not_left changes fits), if_pos due, fee_eq, basisOf_eq basis_eq]
  | uncredited row nextStatus basis fee error found mapped changes fits due
      basis_eq fee_eq refused =>
      obtain ⟨accounts, wallets, collections⟩ :=
        withConfig_rest world row.accountId
      have writes : written world.configOf report .collection row =
          some (collectionUpdate report.now report.record nextStatus
            (some fee) row row,
            some (creditOf report.now report.record nextStatus fee row)) := by
        simp only [written, mapped, Option.bind_eq_bind, Option.bind_some,
          if_neg (not_left changes fits), if_pos due, fee_eq,
            basisOf_eq basis_eq]
      rw [apply_paid report (.collection, reference) row found writes,
        ← recordsOf_withConfig world row.accountId,
        ← recordsOf_withCollection _ _ _ _ (collections ▸ found)]
      exact (credit_refused _ (withCollection _ _ _ _ _ _) credits accounts
        wallets refused).symm

theorem deposit_records (floored : Floored world) :
    recordsOf (afterUpdate .deposit reference world report) =
      (recordsOf world).apply ((.deposit, reference), report) := by
  have runs := run_applyDepositUpdate report.now reference report.record world
  have credits {nextStatus : TxStatus} {row : Deposit} :
      OnlyCredits
        (depositCreditOf report.now report.record nextStatus row) := by
    intro amount
    simp [depositCreditOf, depositCredit, isDebit]
  have unwritten {row : Deposit}
    (found : world.deposits.find? reference = some row)
      (nothing : written world.configOf report .deposit row = none) :=
    (apply_unwritten report (.deposit, reference) row found nothing).symm
  unfold afterUpdate applyUpdate
  generalize ((applyDepositUpdate report.now reference report.record).run
    world).1 = result at runs
  generalize ((applyDepositUpdate report.now reference report.record).run
    world).2 = after at runs ⊢
  cases runs with
  | unknown absent =>
      exact (apply_absent report (.deposit, reference) absent).symm
  | unreadable row found unread =>
      exact unwritten found (by simp [written, unread])
  | unchanged row nextStatus found mapped final same =>
      exact unwritten found (by simp [written, mapped, ← same, final])
  | refused row nextStatus found mapped changes unfit =>
      exact unwritten found (by simp [written, mapped, unfit])
  | written row nextStatus _ found mapped changes fits undue noticed =>
      rw [recordsOf_noticed noticed, recordsOf_withDeposit _ _ _ _ found]
      refine (apply_written report (.deposit, reference) row found ?_).symm
      simp only [written, mapped, Option.bind_eq_bind, Option.bind_some,
        if_neg (not_left changes fits), if_neg undue]
  | credited row nextStatus wallet amount _ found mapped changes fits due
      allowed noticed =>
      rw [recordsOf_noticed noticed,
        credit_recorded _ (withDeposit _ _ _ _ _ _) credits floored
          rfl rfl allowed,
        recordsOf_withDeposit _ _ _ _ found]
      refine (apply_paid report (.deposit, reference) row found ?_).symm
      simp only [written, mapped, Option.bind_eq_bind, Option.bind_some,
        if_neg (not_left changes fits), if_pos due]
  | uncredited row nextStatus error found mapped changes fits due refused =>
      have writes : written world.configOf report .deposit row =
          some (depositUpdate report.now report.record nextStatus true row row,
            some (depositCreditOf report.now report.record
              nextStatus row)) := by
        simp only [written, mapped, Option.bind_eq_bind, Option.bind_some,
          if_neg (not_left changes fits), if_pos due]
      rw [apply_paid report (.deposit, reference) row found writes,
        ← recordsOf_withDeposit _ _ _ _ found]
      exact (credit_refused _ (withDeposit _ _ _ _ _ _) credits
        (rfl : _ = world.accounts) rfl refused).symm

theorem payout_records (floored : Floored world) :
    recordsOf (afterUpdate .payout reference world report) =
      (recordsOf world).apply ((.payout, reference), report) := by
  have runs := run_applyPayoutUpdate report.now reference report.record world
  have credits {row : Payout} : OnlyCredits (payoutRefund row) := by
    intro amount
    simp [payoutRefund, isDebit]
  have unwritten {row : Payout}
    (found : world.payouts.find? reference = some row)
      (nothing : written world.configOf report .payout row = none) :=
    (apply_unwritten report (.payout, reference) row found nothing).symm
  have settles {row : Payout} {nextStatus : TxStatus} {settled : World}
      (found : world.payouts.find? reference = some row)
      (mapped : report.record.nextStatus? = some nextStatus)
      (changes : ¬ (row.status ∈ FINAL_STATUSES ∧ row.status = nextStatus))
      (fits : report.record.FitsPayout)
      (settled_ : Settled report.now report.record nextStatus row
        world settled) :
      recordsOf settled =
        (recordsOf world).apply ((.payout, reference), report) := by
    cases settled_ with
    | kept undue =>
        rw [recordsOf_withPayout _ _ _ _ found]
        refine (apply_written report (.payout, reference) row found ?_).symm
        simp only [written, mapped, Option.bind_eq_bind, Option.bind_some,
          if_neg (not_left changes fits), if_neg undue]
    | refunded wallet amount due allowed =>
        rw [credit_recorded _ (withPayout _ _ _ _ _ _) credits floored
          rfl rfl allowed, recordsOf_withPayout _ _ _ _ found]
        refine (apply_paid report (.payout, reference) row found ?_).symm
        simp only [written, mapped, Option.bind_eq_bind, Option.bind_some,
          if_neg (not_left changes fits), if_pos due]
  unfold afterUpdate applyUpdate
  generalize
    ((applyPayoutUpdate report.now reference report.record).run world).1 =
    result at runs
  generalize
    ((applyPayoutUpdate report.now reference report.record).run world).2 = after
    at runs ⊢
  cases runs with
  | unknown absent =>
      exact (apply_absent report (.payout, reference) absent).symm
  | unreadable row found unread =>
      exact unwritten found (by simp [written, unread])
  | unchanged row nextStatus found mapped final same =>
      exact unwritten found (by simp [written, mapped, ← same, final])
  | refused row nextStatus found mapped changes unfit =>
      exact unwritten found (by simp [written, mapped, unfit])
  | unrefunded row nextStatus error found mapped changes fits due refused =>
      have writes : written world.configOf report .payout row =
          some (payoutUpdate report.now report.record nextStatus true row row,
            some (payoutRefund row)) := by
        simp only [written, mapped, Option.bind_eq_bind, Option.bind_some,
          if_neg (not_left changes fits), if_pos due]
      rw [apply_paid report (.payout, reference) row found writes,
        ← recordsOf_withPayout _ _ _ _ found]
      exact (credit_refused _ (withPayout _ _ _ _ _ _) credits
        (rfl : _ = world.accounts) rfl refused).symm
  | uncounted row nextStatus settled _ batchId found mapped changes fits
      settled_ batch absent noticed =>
      rw [recordsOf_noticed noticed]
      exact settles found mapped changes fits settled_
  | finished row nextStatus settled _ recounts found mapped changes fits
      settled_ single noticed =>
      rw [recordsOf_noticed noticed, recordsOf_withRecount]
      exact settles found mapped changes fits settled_

end

/-- The state a record for a transaction leaves. -/
def afterRecord (event : Transaction × Report) (world : World) : World :=
  afterUpdate event.1.1 event.1.2 world event.2

/-- Each engine does what its record says in the abstract state. -/
theorem afterRecord_records {world : World} (floored : Floored world)
    (event : Transaction × Report) :
    recordsOf (afterRecord event world) = (recordsOf world).apply event := by
  obtain ⟨⟨engine, reference⟩, report⟩ := event
  cases engine with
  | collection => exact collection_records floored
  | deposit => exact deposit_records floored
  | payout => exact payout_records floored

theorem bookingOf_nonneg (now : Time) (input : MoveInput)
    (credits : OnlyCredits input) (keyOf : String → WalletType → WalletKey)
    (standing : WalletKey → Option Wallet) :
    0 ≤ (bookingOf (creditRow now input keyOf standing)).1 := by
  unfold creditRow
  split
  · rename_i amount wallet value found
    split
    · have positive :
        0 ≤ ((moveRow now input wallet amount 0).amount : Decimal) := by
        simp only [moveRow, credits amount, Bool.false_eq_true, if_false,
          Money.coe_round]
        exact Decimal.toFixed_nonneg (abs_nonneg amount)
      exact Pi.single_nonneg.mpr positive
    · exact le_rfl
  · exact le_rfl

theorem written_credits {config : AccountId → FeeConfig} {report : Report}
    {engine : Engine} {row next : Row engine} {input : MoveInput}
    (writes : written config report engine row = some (next, some input)) :
    OnlyCredits input := by
  intro amount
  cases engine with
  | collection =>
      simp only [written, Option.bind_eq_bind,
        Option.bind_eq_some_iff] at writes
      obtain ⟨nextStatus, -, writes⟩ := writes
      split at writes
      · cases writes
      · split at writes
        · cases writes
          simp [creditOf, collectionCredit, isDebit]
        · cases writes
  | deposit =>
      simp only [written, Option.bind_eq_bind,
        Option.bind_eq_some_iff] at writes
      obtain ⟨nextStatus, -, writes⟩ := writes
      split at writes
      · cases writes
      · split at writes
        · cases writes
          simp [depositCreditOf, depositCredit, isDebit]
        · cases writes
  | payout =>
      simp only [written, Option.bind_eq_bind,
        Option.bind_eq_some_iff] at writes
      obtain ⟨nextStatus, -, writes⟩ := writes
      split at writes
      · cases writes
      · split at writes
        · cases writes
          simp [payoutRefund, isDebit]
        · cases writes

theorem Floored.next {world : World} (floored : Floored world)
    (event : Transaction × Report) : Floored (afterRecord event world) := by
  have balance : (afterRecord event world).balance =
    ((recordsOf world).apply event).balance :=
    congrArg Records.balance (afterRecord_records floored event)
  intro key
  rw [balance, apply_eq]
  cases does : outcome event.1 event.2 (recordsOf world) with
  | none => exact floored key
  | some result =>
      obtain ⟨row, movement⟩ := result
      have added : 0 ≤ (bookingFor event.2 (recordsOf world) movement).1 := by
        cases movement with
        | none => exact le_rfl
        | some input =>
            obtain ⟨stored, -, writes⟩ := Option.bind_eq_some_iff.mp does
            exact bookingOf_nonneg _ _ (written_credits writes) _ _
      exact add_nonneg (floored key) (added key)

/-- The state after records for any number of transactions, one after
another. -/
def afterRecords (events : List (Transaction × Report)) (world : World) :
    World :=
  events.foldl (fun world event => afterRecord event world) world

theorem afterRecords_records {world : World} (floored : Floored world)
    (events : List (Transaction × Report)) :
    recordsOf (afterRecords events world) =
      after Records.apply events (recordsOf world) := by
  induction events generalizing world with
  | nil => rfl
  | cons event rest ih =>
      have step := afterRecord_records floored event
      refine (ih (floored.next event)).trans ?_
      rw [step]
      rfl

/-- The records of a transaction among those of all. -/
abbrev recordsFor (transaction : Transaction)
    (events : List (Transaction × Report)) : List (Transaction × Report) :=
  eventsOf transaction events

/-- Records for any number of transactions, in any order: a row ends as its own
records alone would have left it, a wallet takes the sum of what each
transaction alone brings it, and two orders that agree on every single
transaction leave the same rows and balances, and the same ledger up to the
order of its rows and their running balances. -/
theorem records_order_free (world : World) (floored : Floored world)
    (events : List (Transaction × Report)) :
    (∀ transaction, storedIn (afterRecords events world) transaction =
      storedIn (afterRecords (recordsFor transaction events) world)
        transaction) ∧
    (∀ key, (afterRecords events world).balance key - world.balance key =
      ∑ transaction ∈ (events.map Prod.fst).toFinset,
        ((afterRecords (recordsFor transaction events) world).balance key -
          world.balance key)) ∧
    ∀ others,
      (∀ transaction, recordsFor transaction events =
      recordsFor transaction others) →
      storedIn (afterRecords events world) =
        storedIn (afterRecords others world) ∧
      (afterRecords events world).balance =
        (afterRecords others world).balance ∧
      ((afterRecords events world).ledger.map unbalanced).Perm
        ((afterRecords others world).ledger.map unbalanced) := by
  have simulated (events : List (Transaction × Report)) :
      recordsOf (afterRecords events world) = after Records.apply events
        (recordsOf world) :=
    afterRecords_records floored events
  have row (events : List (Transaction × Report)) (transaction : Transaction) :
      storedIn (afterRecords events world) transaction =
        (after Records.apply events (recordsOf world)).stored transaction :=
    congrFun (congrArg Records.stored (simulated events)) transaction
  have books (events : List (Transaction × Report)) :
      booked (recordsOf (afterRecords events world)) =
        booked (after Records.apply events (recordsOf world)) :=
          congrArg booked (simulated events)
  refine ⟨fun transaction => ?_, fun key => ?_, fun others own => ?_⟩
  · rw [row, row]
    exact (seenBy_eq.mp
      (records_independent.view_after _ trivial transaction events)).1
  · have moved := records_independent.meter_after (recordsOf world) trivial
      (events.map Prod.fst).toFinset
      fun event member => List.mem_toFinset.mpr (List.mem_map_of_mem member)
    simp only [← books] at moved
    have balances := congrFun (congrArg Prod.fst moved) key
    simp only [Prod.fst_sub, Prod.fst_sum, Pi.sub_apply,
      Finset.sum_apply] at balances
    exact balances
  · obtain ⟨seen, moved⟩ :=
      records_independent.order_free (recordsOf world) trivial own
    rw [← books, ← books] at moved
    refine ⟨?_, congrArg Prod.fst moved, ?_⟩
    · funext transaction
      rw [row, row]
      exact (seenBy_eq.mp (seen transaction)).1
    · rw [List.perm_iff_count]
      intro shape
      exact Int.ofNat.inj (congrFun (congrArg Prod.snd moved) shape)

/-- The pending collection and another one of the account. -/
def twoPendingWorld : World :=
  { pendingWorld with
    collections := pendingWorld.collections.insert
      { accountId := "a", reference := "AAAAA000000000000002"
        amount := Money.round 4000
        phoneNumber := "255712345678", createdAt := 1, updatedAt := 1 } }

/-- Both are paid into one wallet, in either order. -/
theorem records_order_free_pending :
    let first : Transaction × Report :=
      ((.collection, "AAAAA000000000000001"),
        ⟨2, { status := .given "SUCCESS" }⟩)
    let second : Transaction × Report :=
      ((.collection, "AAAAA000000000000002"),
        ⟨3, { status := .given "SUCCESS" }⟩)
    (afterRecords [first, second] twoPendingWorld).ledger.length = 2 ∧
    (afterRecords [first, second] twoPendingWorld).balance =
      (afterRecords [second, first] twoPendingWorld).balance := by
  intro first second
  have floored : Floored twoPendingWorld := by
    intro key
    unfold World.balance
    cases found : twoPendingWorld.wallets.find? key with
    | none => exact le_rfl
    | some wallet =>
        have zero : ∀ row ∈ twoPendingWorld.wallets.rows, row.balance = 0 := by
          decide
        simp [zero wallet (Table.mem_of_find? found)]
  have own : ∀ transaction, recordsFor transaction [first, second] =
      recordsFor transaction [second, first] := by
    intro transaction
    by_cases same : first.1 = transaction
    · have other : ¬ second.1 = transaction := same ▸ by decide
      simp [eventsOf, same, other]
    · simp [eventsOf, List.filter_cons, same]
  refine ⟨by decide +kernel, ?_⟩
  exact ((records_order_free twoPendingWorld floored [first, second]).2.2 _
    own).2.1

end CloudStudio.Payments
