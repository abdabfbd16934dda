import CloudStudio.Data.Chain
import CloudStudio.Wallets.Runs

/-!
# Wallet calls one after another

Three records of the same money agree after every sequence of calls: the
balance, the running before and after pair of each ledger row, and the signed
amounts.
-/

namespace CloudStudio.Wallets

open CloudStudio.Data CloudStudio.Transactions CloudStudio.Platform

/-- A call of the wallet service, run when no other call runs. -/
inductive SequentialCall where
  | move (now : Time) (input : MoveInput)
  | transfer (now : Time) (reference : Reference) (accountId : String)
      (dto : TransferInput) (actorId : Option String)
  | setFrozen (accountId : String) (type : WalletType) (frozen : Bool)

namespace SequentialCall

def program : SequentialCall → Db Unit
  | .move now input => do
      let _ ← Wallets.move now input
      pure ()
  | .transfer now reference accountId dto actorId => do
      let _ ← transferCollectionToDisbursement now reference
        accountId dto actorId
      pure ()
  | .setFrozen accountId type frozen => do
      let _ ← Wallets.setFrozen accountId type frozen
      pure ()

/-- The amount handed to the call, if it is a number. -/
def amount? : SequentialCall → Option Decimal
  | .move _ input => input.amount.value?
  | .transfer _ _ _ dto _ => dto.amount.value?
  | .setFrozen .. => none

end SequentialCall

/-- The state after a list of calls. -/
def runAll (calls : List SequentialCall) (world : World) : World :=
  calls.foldl (fun world call => (call.program.run world).2) world

/-- How a ledger row is read as an entry of a running total. -/
def ledgerEntries : Running WalletTransaction Decimal where
  before := fun row => row.balanceBefore
  after := fun row => row.balanceAfter
  amount := fun row => row.amount

/-- The rows of the wallet lead from nothing to its balance, which is not
negative. -/
def Balanced (world : World) (wallet : WalletKey) : Prop :=
  ledgerEntries.Chains 0 (world.rowsOf wallet) (world.balance wallet) ∧
    0 ≤ world.balance wallet

/-- What an audit of a wallet finds. -/
structure Audited (world : World) (wallet : WalletKey) : Prop where
  each : ∀ row ∈ world.rowsOf wallet,
    (row.balanceAfter : Decimal) = row.balanceBefore + row.amount
  linked : (world.rowsOf wallet).IsChain fun row next =>
    (next.balanceBefore : Decimal) = row.balanceAfter
  last : ∀ row, (world.rowsOf wallet).getLast? = some row →
    world.balance wallet = row.balanceAfter
  sum : world.balance wallet = world.ledgerSum wallet
  floor : 0 ≤ world.balance wallet

theorem Balanced.audited {world : World} {wallet : WalletKey}
    (balanced : Balanced world wallet) : Audited world wallet where
  each := balanced.1.each
  linked := balanced.1.linked
  last := fun _ last => balanced.1.last last
  sum := by
    have total := balanced.1.sum
    rwa [zero_add] at total
  floor := balanced.2

section Record

variable {world : World} {row : WalletTransaction} {wallet : Wallet}

/-- A row that starts at the balance it finds and does not end below zero keeps
every wallet balanced. -/
theorem Balanced.record {key : WalletKey} (balanced : Balanced world key)
    (found : world.wallets.find? row.walletId = some wallet)
    (starts : row.balanceBefore = wallet.balance)
    (adds : (row.balanceAfter : Decimal) = row.balanceBefore + row.amount)
    (floor : 0 ≤ world.balance row.walletId →
      0 ≤ (row.balanceAfter : Decimal)) : Balanced (world.record row) key := by
  unfold Balanced
  rw [balance_record found, rowsOf_record]
  by_cases same : key = row.walletId
  · subst same
    have balance : world.balance row.walletId = wallet.balance := by
      rw [World.balance, found]
      rfl
    rw [if_pos rfl, if_pos rfl]
    refine ⟨balanced.1.append ?_ adds, floor balanced.2⟩
    rw [balance, ← starts]
    rfl
  · rw [if_neg same, if_neg (Ne.symm same), List.append_nil]
    exact balanced

end Record

theorem Balanced.of_eq {before after : World} {key : WalletKey}
    (balanced : Balanced before key) (wallets : after.wallets = before.wallets)
    (ledger : after.ledger = before.ledger) : Balanced after key := by
  unfold Balanced World.rowsOf World.balance at balanced ⊢
  rwa [wallets, ledger]

/-- Adding cents to a balance and rounding it is adding the rounded cents. -/
theorem round_add {amount : Decimal} (balance : Money)
    (cents : Decimal.HasPlaces 2 amount) :
    (Money.round (balance + amount) : Decimal) =
      balance + Money.round amount := by
  rw [Money.coe_round_of_hasPlaces cents,
    Money.coe_round_of_hasPlaces (balance.property.add cents)]

/-- The ledger row of an allowed movement of whole cents. -/
theorem Balanced.move {world : World} {key : WalletKey}
    (balanced : Balanced world key) (now : Time) {input : MoveInput}
    {wallet : Wallet} {amount : Decimal}
    (allowed : MoveAllowed input world wallet amount)
    (cents : Decimal.HasPlaces 2 amount) :
    Balanced (world.record (moveRow now input wallet amount wallet.balance))
      key := by
  let signed := if isDebit input.txType amount then -|amount| else |amount|
  have places : Decimal.HasPlaces 2 signed := by
    unfold signed
    split
    · exact cents.abs.neg
    · exact cents.abs
  refine balanced.record allowed.found_key rfl (round_add wallet.balance places)
    ?_
  intro floor
  change 0 ≤ world.balance wallet.key at floor
  rw [balance_eq allowed.found_key] at floor
  have enough : 0 ≤ (wallet.balance : Decimal) + signed := by
    unfold signed
    split
    · rename_i debit
      linarith [allowed.covered debit]
    · exact add_nonneg floor (abs_nonneg amount)
  exact Decimal.toFixed_nonneg enough

theorem hasPlaces_totalDebit {plan : TransferPlan}
    (cents : Decimal.HasPlaces 2 plan.amount) :
    Decimal.HasPlaces 2 plan.totalDebit :=
  cents.add plan.fee.feeAmount.property

/-- After leg 1 the target is found as it was. -/
theorem find?_target {plan : TransferPlan} {world : World}
    (fits : plan.Fits world) (now : Time) :
    (world.record (plan.outRow now plan.source.balance)).wallets.find?
      plan.target.key = some plan.target := by
  obtain ⟨sourceKey, targetKey⟩ := fits.keys
  have apart : plan.target.key ≠ plan.source.key := by
    rw [sourceKey, targetKey]
    simp
  have target := fits.target
  rw [← targetKey] at target
  simp only [World.record, TransferPlan.outRow, Table.find?_modify_ne apart,
    target]

theorem Balanced.transfer {world : World} {key : WalletKey}
    (balanced : Balanced world key) (now : Time) {plan : TransferPlan}
    (fits : plan.Fits world) (covered : plan.totalDebit ≤ plan.source.balance)
    (cents : Decimal.HasPlaces 2 plan.amount) :
    Balanced (transferred now plan world) key := by
  obtain ⟨sourceKey, targetKey⟩ := fits.keys
  have source := fits.source
  rw [← sourceKey] at source
  have out : Balanced (world.record (plan.outRow now plan.source.balance))
    key := by
    refine balanced.record source rfl ?_ fun _ =>
      Decimal.toFixed_nonneg (by linarith)
    have added := round_add plan.source.balance (hasPlaces_totalDebit cents).neg
    rwa [← sub_eq_add_neg] at added
  have target :
    (world.record (plan.outRow now plan.source.balance)).wallets.find?
      (plan.inRow now plan.target.balance).walletId = some plan.target :=
    find?_target fits now
  have both := out.record target rfl (round_add plan.target.balance cents)
    fun floor => by
    rw [balance_eq target] at floor
    exact Decimal.toFixed_nonneg (add_nonneg floor fits.positive.le)
  exact both.of_eq rfl rfl

theorem run_setFrozen (accountId : String) (type : WalletType) (frozen : Bool)
    (world : World) :
    (∃ error, (setFrozen accountId type frozen).run world =
      (.error error, world)) ∨
    ∃ wallet status, world.wallets.find? wallet.key = some wallet ∧
      (setFrozen accountId type frozen).run world =
        (.ok { wallet with status },
          { world with
            wallets := world.wallets.modify wallet.key
              (fun row => { row with status }) fun _ => rfl }) := by
  simp only [setFrozen, Program.run_bind, run_getWallet]
  cases found : world.wallets.find? (world.walletKeyOf accountId type) with
  | none => exact .inl ⟨_, rfl⟩
  | some wallet =>
      have found_key : world.wallets.find? wallet.key = some wallet := by
        rw [Table.key_of_find? found]
        exact found
      refine .inr ⟨wallet, if frozen then .frozen else .active, found_key, ?_⟩
      simp only [Program.run_perform, Relation.update, Platform.wallets,
        found_key]

/-- Freezing moves no money. -/
theorem Balanced.freeze {world : World} {key : WalletKey}
    (balanced : Balanced world key) (wallet : WalletKey)
    (status : WalletStatus) :
    Balanced { world with
      wallets := world.wallets.modify wallet (fun row => { row with status })
        fun _ => rfl } key := by
  have balance : World.balance { world with
      wallets := world.wallets.modify wallet (fun row => { row with status })
        fun _ => rfl } key = world.balance key := by
    simp only [World.balance, Table.find?_modify]
    split
    · cases world.wallets.find? key <;> rfl
    · rfl
  unfold Balanced
  rw [balance]
  exact balanced

/-- Every call keeps a balanced wallet balanced. -/
theorem Balanced.call {world : World} {key : WalletKey}
    (balanced : Balanced world key) (call : SequentialCall)
    (cents : ∀ amount ∈ call.amount?, Decimal.HasPlaces 2 amount) :
    Balanced (call.program.run world).2 key := by
  cases call with
  | move now input =>
      simp only [SequentialCall.program, Program.run_bind]
      by_cases allowed : ∃ wallet amount, MoveAllowed input world wallet amount
      · obtain ⟨wallet, amount, allowed⟩ := allowed
        rw [run_move now allowed]
        refine balanced.move now allowed (cents amount ?_)
        simp [SequentialCall.amount?, allowed.value, NumberInput.value?]
      · push Not at allowed
        obtain ⟨error, refused⟩ := run_move_refused now allowed
        rw [refused]
        exact balanced
  | transfer now reference accountId dto actorId =>
      simp only [SequentialCall.program, Program.run_bind]
      rcases run_transfer now reference accountId dto actorId world with
        ⟨error, left, same, refused⟩ | ⟨plan, left, same, fits, value, covered,
          done⟩
      · rw [refused]
        exact balanced.of_eq same.wallets same.ledger
      · rw [done]
        refine (balanced.of_eq same.wallets same.ledger).transfer
          now fits covered (cents plan.amount ?_)
        simp [SequentialCall.amount?, value, NumberInput.value?]
  | setFrozen accountId type frozen =>
      simp only [SequentialCall.program, Program.run_bind]
      rcases run_setFrozen accountId type frozen world with
        ⟨error, refused⟩ | ⟨wallet, status, _, done⟩
      · rw [refused]
        exact balanced
      · rw [done]
        exact balanced.freeze wallet.key status

theorem Balanced.runAll {world : World} {key : WalletKey}
    (balanced : Balanced world key) (calls : List SequentialCall)
    (cents : ∀ call ∈ calls, ∀ amount ∈ call.amount?,
      Decimal.HasPlaces 2 amount) : Balanced (runAll calls world) key := by
  induction calls generalizing world with
  | nil => exact balanced
  | cons call rest ih =>
      refine ih (balanced.call call (cents call List.mem_cons_self)) ?_
      exact fun other member => cents other (List.mem_cons_of_mem _ member)

/-! ## What a call that is rejected or succeeds does -/

/-- A rejected call changes no wallet, ledger or transfer row. -/
theorem sameBooks_of_error {call : SequentialCall} {world : World}
    {error : AppError} (rejected : (call.program.run world).1 = .error error) :
    SameBooks world (call.program.run world).2 := by
  cases call with
  | move now input =>
      simp only [SequentialCall.program, Program.run_bind] at rejected ⊢
      by_cases allowed : ∃ wallet amount, MoveAllowed input world wallet amount
      · obtain ⟨wallet, amount, allowed⟩ := allowed
        rw [run_move now allowed] at rejected
        cases rejected
      · push Not at allowed
        obtain ⟨error, refused⟩ := run_move_refused now allowed
        rw [refused]
        exact ⟨rfl, rfl, rfl⟩
  | transfer now reference accountId dto actorId =>
      simp only [SequentialCall.program, Program.run_bind] at rejected ⊢
      rcases run_transfer now reference accountId dto actorId world with
        ⟨error, left, same, refused⟩ | ⟨plan, left, _, _, _, _, done⟩
      · rw [refused]
        exact same
      · rw [done] at rejected
        cases rejected
  | setFrozen accountId type frozen =>
      simp only [SequentialCall.program, Program.run_bind] at rejected ⊢
      rcases run_setFrozen accountId type frozen world with
        ⟨error, refused⟩ | ⟨wallet, status, _, done⟩
      · rw [refused]
        exact ⟨rfl, rfl, rfl⟩
      · rw [done] at rejected
        cases rejected

/-- A successful transfer of whole cents takes the amount and the fee from
COLLECTION and adds the amount to DISBURSEMENT. -/
theorem transfer_moves {now : Time} {reference : Reference} {accountId : String}
    {dto : TransferInput} {actorId : Option String} {world final : World}
    {transfer : WalletTransfer}
    (cents : ∀ amount, dto.amount = .value amount → Decimal.HasPlaces 2 amount)
    (done : (transferCollectionToDisbursement now reference accountId
      dto actorId).run
      world = (.ok transfer, final)) :
    dto.amount = .value transfer.amount ∧
      final.balance ⟨transfer.accountId, .collection⟩ =
        world.balance ⟨transfer.accountId, .collection⟩ -
          (transfer.amount + transfer.feeAmount) ∧
      final.balance ⟨transfer.accountId, .disbursement⟩ =
        world.balance ⟨transfer.accountId, .disbursement⟩ +
          transfer.amount := by
  rcases run_transfer now reference accountId dto actorId world with
    ⟨error, left, same, refused⟩ | ⟨plan, left, same, fits, value,
      covered, returned⟩
  · rw [refused] at done
    cases done
  rw [returned] at done
  cases done
  have places := cents plan.amount value
  have amount : (plan.transfer.amount : Decimal) = plan.amount :=
    Money.coe_round_of_hasPlaces places
  obtain ⟨sourceKey, targetKey⟩ := fits.keys
  have source := fits.source
  rw [← sourceKey] at source
  have target :
    (left.record (plan.outRow now plan.source.balance)).wallets.find?
      (plan.inRow now plan.target.balance).walletId = some plan.target :=
    find?_target fits now
  have before (key : WalletKey) : world.balance key = left.balance key := by
    rw [World.balance, World.balance, same.wallets]
  have after (key : WalletKey) : (transferred now plan left).balance key =
      if key = plan.target.key then
        (Money.round (plan.target.balance + plan.amount) : Decimal)
      else if key = plan.source.key then
        (Money.round (plan.source.balance - plan.totalDebit) : Decimal)
      else left.balance key := by
    refine (balance_record target key).trans ?_
    rw [balance_record source]
    rfl
  have owner : plan.transfer.accountId = plan.accountId := rfl
  rw [owner]
  refine ⟨by rw [amount]; exact value, ?_, ?_⟩
  · rw [before, after, if_neg (by rw [targetKey]; simp), if_pos sourceKey.symm,
      balance_eq fits.source, amount, Money.coe_round_of_hasPlaces
        (plan.source.balance.property.sub (hasPlaces_totalDebit places))]
    rfl
  · rw [before, after, if_pos targetKey.symm, balance_eq fits.target, amount,
      Money.coe_round_of_hasPlaces (plan.target.balance.property.add places)]

/-- The reconciliation helper reports an audited wallet as consistent. -/
theorem Audited.consistent {world left : World} {accountId : String}
    {type : WalletType} {report : IntegrityReport}
    (audited : Audited world (world.walletKeyOf accountId type))
    (reported : (ledgerIntegrity accountId type).run world =
      (.ok report, left)) : report.consistent = true := by
  simp only [ledgerIntegrity, Program.run_bind, run_getWallet] at reported
  cases found : world.wallets.find? (world.walletKeyOf accountId type) with
  | none =>
      rw [found] at reported
      cases reported
  | some wallet =>
      rw [found] at reported
      cases reported
      have sum := audited.sum
      rw [balance_eq found] at sum
      rw [Table.key_of_find? found]
      exact beq_iff_eq.mpr sum

/-- Every sequence of calls of whole cents, from wallets with nothing in them
and no ledger row: the account's wallets pass the audit and reconcile, a
rejected call changes no wallet, ledger or transfer row, and a transfer moves
exactly its amounts. -/
theorem sequence_audited (world : World) (accountId : AccountId)
    (fresh : ∀ type, world.balance ⟨accountId, type⟩ = 0 ∧
      world.rowsOf ⟨accountId, type⟩ = []) (calls : List SequentialCall)
    (cents : ∀ call ∈ calls, ∀ amount ∈ call.amount?,
      Decimal.HasPlaces 2 amount) :
    (∀ type, Audited (runAll calls world) ⟨accountId, type⟩ ∧
      ∀ identifier report left,
        (runAll calls world).walletKeyOf identifier type = ⟨accountId, type⟩ →
        (ledgerIntegrity identifier type).run (runAll calls world) =
          (.ok report, left) → report.consistent = true) ∧
    (∀ done call rest, calls = done ++ call :: rest → ∀ error,
      (call.program.run (runAll done world)).1 = .error error →
      SameBooks (runAll done world) (call.program.run (runAll done world)).2) ∧
    ∀ done now reference owner dto actorId rest,
      calls = done ++ .transfer now reference owner dto actorId :: rest →
      ∀ transfer final,
        (transferCollectionToDisbursement now reference owner dto actorId).run
          (runAll done world) = (.ok transfer, final) →
        dto.amount = .value transfer.amount ∧
          final.balance ⟨transfer.accountId, .collection⟩ =
            (runAll done world).balance ⟨transfer.accountId, .collection⟩ -
              (transfer.amount + transfer.feeAmount) ∧
          final.balance ⟨transfer.accountId, .disbursement⟩ =
            (runAll done world).balance ⟨transfer.accountId, .disbursement⟩ +
              transfer.amount := by
  have audited (type : WalletType) :
      Audited (runAll calls world) ⟨accountId, type⟩ := by
    have balanced : Balanced world ⟨accountId, type⟩ := by
      obtain ⟨empty, unused⟩ := fresh type
      exact ⟨by rw [unused, empty]; rfl, empty.ge⟩
    exact (balanced.runAll calls cents).audited
  refine ⟨fun type => ⟨audited type, ?_⟩, ?_, ?_⟩
  · intro identifier report left key reported
    exact Audited.consistent (key ▸ audited type) reported
  · intro done call rest _ error rejected
    exact sameBooks_of_error rejected
  · intro done now reference owner dto actorId rest split transfer final
      returned
    refine transfer_moves (fun amount value => ?_) returned
    refine cents (.transfer now reference owner dto actorId)
      (by simp [split]) amount ?_
    simp [SequentialCall.amount?, value, NumberInput.value?]

/-- One account whose two wallets hold nothing. -/
def emptyWorld : World where
  accounts :=
    Table.empty.insert { id := "a", accountId := "ACC-1"
                         sourceCode := "AAAAA" }
  wallets := (Table.empty.insert { key := ⟨"a", .collection⟩ }).insert
    { key := ⟨"a", .disbursement⟩ }

/-- A credit, a transfer, a freeze and a movement the freeze rejects. -/
def someCalls : List SequentialCall :=
  [.move 1 { accountId := "ACC-1", type := .collection
             txType := .collectionCredit
             amount := .value 100, description := "credit" },
    .transfer 2 "WT1" "a" { amount := .value (25 / 2), reference := some "t1" }
      none,
    .setFrozen "a" .collection true,
    .move 3 { accountId := "a", type := .collection, txType := .withdrawal
              amount := .value 1, description := "withdrawal" }]

theorem sequence_audited_someCalls :
    Audited (runAll someCalls emptyWorld) ⟨"a", .collection⟩ ∧
      Audited (runAll someCalls emptyWorld) ⟨"a", .disbursement⟩ := by
  have fresh : ∀ type, emptyWorld.balance ⟨"a", type⟩ = 0 ∧
      emptyWorld.rowsOf ⟨"a", type⟩ = [] := by
    intro type
    cases type <;> decide +kernel
  have cents : ∀ call ∈ someCalls, ∀ amount ∈ call.amount?,
      Decimal.HasPlaces 2 amount := by decide +kernel
  have audited := (sequence_audited emptyWorld "a" fresh someCalls cents).1
  exact ⟨(audited .collection).1, (audited .disbursement).1⟩

end CloudStudio.Wallets
