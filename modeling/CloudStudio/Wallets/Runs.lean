import CloudStudio.Wallets.Model

/-!
# Wallet calls run alone

What each call of the wallet service does when no other call runs at the same
time: the lookups leave the state alone, and `move` either changes nothing or
records one ledger row.
-/

namespace CloudStudio.Platform

open CloudStudio.Data CloudStudio.Transactions

namespace World

/-- The account an identifier resolves to. -/
def resolve (world : World) (idOrPublicId : String) : Option AccountId :=
  if idOrPublicId = "" then none
  else
    match world.accounts.find? idOrPublicId with
    | some account => some account.id
    | none => (world.accounts.rows.find? fun account =>
        account.accountId == idOrPublicId).map Account.id

/-- The wallet `getWallet` looks up. -/
def walletKeyOf (world : World) (accountId : String) (type : WalletType) :
    WalletKey :=
  ⟨(world.resolve accountId).getD accountId, type⟩

/-- The state after `getConfig`. -/
def withConfig (world : World) (accountId : AccountId) : World :=
  match world.feeConfigs.find? accountId with
  | some _ => world
  | none => { world with feeConfigs := world.feeConfigs.insert { accountId } }

/-- A ledger row and the balance it leaves, as `move` writes them. -/
def record (world : World) (row : WalletTransaction) : World :=
  { world with
    wallets := world.wallets.modify row.walletId
      (fun wallet => { wallet with balance := row.balanceAfter }) fun _ => rfl
    ledger := world.ledger ++ [row] }

/-- An account that exists is found by its own id. -/
theorem resolve_of_find? {world : World} {id : AccountId} {account : Account}
    (found : world.accounts.find? id = some account) :
    (world.resolve id).getD id = id := by
  unfold resolve
  split
  · rfl
  · rw [found]
    have key := Table.key_of_find? found
    exact key

/-- What an identifier resolves to is an account's own id. -/
theorem find?_of_resolve {world : World} {idOrPublicId : String}
    {id : AccountId} (resolved : world.resolve idOrPublicId = some id) :
    ∃ account, world.accounts.find? id = some account := by
  unfold resolve at resolved
  split at resolved
  · cases resolved
  · split at resolved
    · rename_i account found
      cases resolved
      refine ⟨account, ?_⟩
      rw [Table.key_of_find? found]
      exact found
    · obtain ⟨account, found, rfl⟩ := Option.map_eq_some_iff.mp resolved
      exact ⟨account, Table.find?_of_mem (List.mem_of_find?_eq_some found)⟩

end World

theorem run_resolveAccountId (idOrPublicId : String) (world : World) :
    (resolveAccountId idOrPublicId).run world =
      (.ok (world.resolve idOrPublicId), world) := by
  unfold resolveAccountId World.resolve
  split
  · rfl
  · simp only [Program.bind_perform, Program.run_query, select]
    cases world.accounts.find? idOrPublicId with
    | some account => rfl
    | none => rfl

theorem run_getConfig (accountId : AccountId) (world : World) :
    (getConfig accountId).run world =
      (.ok (world.configOf accountId), world.withConfig accountId) := by
  simp only [getConfig, Program.bind_perform, Program.run_query,
    Relation.findUnique, select, feeConfigs, World.configOf, World.withConfig]
  cases absent : world.feeConfigs.find? accountId with
  | some config => rfl
  | none =>
      simp only [Program.perform, Program.run_catching, Program.run_query,
        Relation.create, absent]
      rfl

theorem run_computeFee (kind : FeeKind) (accountId : AccountId)
    (value : Decimal) (world : World) :
    (computeFee kind accountId (.value value)).run world =
      (.ok ((world.configOf accountId).fee kind value),
        world.withConfig accountId) := by
  simp only [computeFee, Program.run_bind, run_getConfig]
  rfl

end CloudStudio.Platform

namespace CloudStudio.Wallets

open CloudStudio.Data CloudStudio.Transactions CloudStudio.Platform

theorem run_getWallet (accountId : String) (type : WalletType) (world : World) :
    (getWallet accountId type).run world =
      match world.wallets.find? (world.walletKeyOf accountId type) with
      | some wallet => (.ok wallet, world)
      | none =>
          (.error (walletNotFound (walletName type ++ " wallet not found")),
          world) := by
  simp only [getWallet, Program.run_bind, run_resolveAccountId,
    Program.run_perform,
    Relation.findUnique, select, Platform.wallets, World.walletKeyOf]
  cases world.wallets.find? ⟨(world.resolve accountId).getD accountId,
    type⟩ with
  | some wallet => rfl
  | none => rfl

theorem balance_eq {world : World} {wallet : Wallet} {key : WalletKey}
    (found : world.wallets.find? key = some wallet) :
    world.balance key = wallet.balance := by
  rw [World.balance, found]
  rfl

theorem balance_record {world : World} {row : WalletTransaction}
    {wallet : Wallet} (found : world.wallets.find? row.walletId = some wallet)
    (key : WalletKey) :
    (world.record row).balance key =
      if key = row.walletId then (row.balanceAfter : Decimal) else world.balance
        key := by
  simp only [World.balance, World.record, Table.find?_modify]
  split
  · rename_i same
    rw [same, found]
    rfl
  · rfl

theorem rowsOf_record (world : World) (row : WalletTransaction)
    (key : WalletKey) :
    (world.record row).rowsOf key =
      world.rowsOf key ++ if row.walletId = key then [row] else [] := by
  simp only [World.rowsOf, World.record, List.filter_append]
  by_cases same : row.walletId = key <;> simp [same]

/-- The transaction of `move` refuses to overdraw the wallet it finds. -/
theorem run_moveTransaction_refused (now : Time) (input : MoveInput)
    {wallet : Wallet} {amount : Decimal} {world : World}
    (found : world.wallets.find? wallet.key = some wallet)
    (active : ¬ (wallet.status = .frozen ∧ ¬ input.ignoreFrozen))
    (debit : isDebit input.txType amount)
    (short : (wallet.balance : Decimal) < |amount|) :
    ∃ message, (moveTransaction now input wallet amount).run world =
      (.error (insufficientFunds message), world) := by
  have overdraws : (wallet.balance : Decimal) - |amount| < 0 := by linarith
  simp only [moveTransaction, Body.bind_perform, Body.run_query,
    Relation.findUnique,
    select, Platform.wallets, found, if_neg active, debit, overdraws,
      true_and, if_true]
  exact ⟨_, rfl⟩

/-- Otherwise it records its row. -/
theorem run_moveTransaction (now : Time) (input : MoveInput) {wallet : Wallet}
    {amount : Decimal} {world : World}
    (found : world.wallets.find? wallet.key = some wallet)
    (active : ¬ (wallet.status = .frozen ∧ ¬ input.ignoreFrozen))
    (covered : isDebit input.txType amount → |amount| ≤ wallet.balance) :
    (moveTransaction now input wallet amount).run world =
      (.ok (moveRow now input wallet amount wallet.balance),
        world.record (moveRow now input wallet amount wallet.balance)) := by
  simp only [moveTransaction, Body.bind_perform, Body.run_query,
    Relation.findUnique, select, Platform.wallets, found, if_neg active]
  by_cases debit : isDebit input.txType amount
  · have enough := covered debit
    have floor : ¬ ((wallet.balance : Decimal) - |amount| < 0) := by linarith
    simp only [debit, floor, and_false, if_false, if_true, restingOn,
      decrementBalance,
      Body.run_query, found, if_pos enough, one_ne_zero, Body.run_perform,
        createLedgerRow]
    simp only [World.record, moveRow, debit, if_true, Prod.mk.injEq, true_and,
      World.mk.injEq, and_true]
    refine Table.modify_congr found ?_ _ _
    simp only [sub_eq_add_neg]
  · simp only [debit, false_and, if_false, Bool.false_eq_true, Body.run_query,
      restingOn, incrementBalance, Relation.update, Platform.wallets, found,
        Body.run_perform,
      createLedgerRow]
    simp only [World.record, moveRow, debit, if_false, Bool.false_eq_true,
      Prod.mk.injEq, true_and, World.mk.injEq, and_true]
    refine Table.modify_congr found ?_ _ _
    rfl

/-- What `move` checks: a non-zero finite amount, a wallet that exists and is
not frozen, and on a debit a balance that covers the amount. -/
structure MoveAllowed (input : MoveInput) (world : World) (wallet : Wallet)
    (amount : Decimal) : Prop where
  value : input.amount = .value amount
  nonzero : amount ≠ 0
  found : world.wallets.find? (world.walletKeyOf input.accountId input.type) =
    some wallet
  active : ¬ (wallet.status = .frozen ∧ ¬ input.ignoreFrozen)
  covered : isDebit input.txType amount → |amount| ≤ wallet.balance

/-- The wallet of an allowed movement, found by its own key. -/
theorem MoveAllowed.found_key {input : MoveInput} {world : World}
    {wallet : Wallet} {amount : Decimal}
    (allowed : MoveAllowed input world wallet amount) :
    world.wallets.find? wallet.key = some wallet := by
  rw [Table.key_of_find? allowed.found]
  exact allowed.found

/-- An account that exists moves the wallet of its own id. -/
theorem MoveAllowed.wallet_key {input : MoveInput} {world : World}
    {wallet : Wallet} {amount : Decimal} {account : Account}
    (allowed : MoveAllowed input world wallet amount)
    (found : world.accounts.find? input.accountId = some account) :
    wallet.key = ⟨input.accountId, input.type⟩ := by
  rw [Table.key_of_find? allowed.found, World.walletKeyOf,
    World.resolve_of_find? found]

theorem run_move (now : Time) {input : MoveInput} {world : World}
    {wallet : Wallet} {amount : Decimal}
    (allowed : MoveAllowed input world wallet amount) :
    (move now input).run world =
      (.ok (moveRow now input wallet amount wallet.balance),
        world.record (moveRow now input wallet amount wallet.balance)) := by
  simp only [move, allowed.value, if_neg allowed.nonzero, Program.run_bind,
    run_getWallet, allowed.found, if_neg allowed.active, Program.atomically,
    Program.run_transaction,
    run_moveTransaction now input allowed.found_key allowed.active
      allowed.covered]
  rfl

/-- A refused movement changes nothing. -/
theorem run_move_refused (now : Time) {input : MoveInput} {world : World}
    (refused : ∀ wallet amount, ¬ MoveAllowed input world wallet amount) :
    ∃ error, (move now input).run world = (.error error, world) := by
  unfold move
  split
  · exact ⟨_, rfl⟩
  · exact ⟨_, rfl⟩
  rename_i amount value
  split
  · exact ⟨_, rfl⟩
  rename_i nonzero
  simp only [Program.run_bind, run_getWallet]
  cases found :
    world.wallets.find? (world.walletKeyOf input.accountId input.type) with
  | none => exact ⟨_, rfl⟩
  | some wallet =>
      simp only
      split
      · exact ⟨_, rfl⟩
      rename_i active
      have found_key : world.wallets.find? wallet.key = some wallet := by
        rw [Table.key_of_find? found]
        exact found
      have short : isDebit input.txType amount ∧
        (wallet.balance : Decimal) < |amount| := by
        by_contra covered
        simp only [not_and, not_lt] at covered
        exact refused wallet amount ⟨value, nonzero, found, active, covered⟩
      obtain ⟨message, rejected⟩ :=
        run_moveTransaction_refused now input found_key active short.1 short.2
      simp only [Program.atomically, Program.run_transaction, rejected]
      exact ⟨_, rfl⟩

/-- A movement is allowed and records its row, or it is refused. -/
theorem run_move_cases (now : Time) (input : MoveInput) (world : World) :
    (∃ wallet amount, MoveAllowed input world wallet amount ∧
      (move now input).run world =
        (.ok (moveRow now input wallet amount wallet.balance),
          world.record (moveRow now input wallet amount wallet.balance))) ∨
    ((∀ wallet amount, ¬ MoveAllowed input world wallet amount) ∧
      ∃ error, (move now input).run world = (.error error, world)) := by
  by_cases allowed : ∃ wallet amount, MoveAllowed input world wallet amount
  · obtain ⟨wallet, amount, allowed⟩ := allowed
    exact .inl ⟨wallet, amount, allowed, run_move now allowed⟩
  · have refused := not_exists.mp allowed
    simp only [not_exists] at refused
    exact .inr ⟨refused, run_move_refused now refused⟩

/-- What allows a movement is its input, the accounts and the wallets. -/
theorem moveAllowed_congr {input : MoveInput} {world other : World}
    {wallet : Wallet} {amount : Decimal}
    (accounts : other.accounts = world.accounts)
    (wallets : other.wallets = world.wallets) :
    MoveAllowed input other wallet amount ↔
      MoveAllowed input world wallet amount := by
  have found :
    other.wallets.find? (other.walletKeyOf input.accountId input.type) =
      world.wallets.find? (world.walletKeyOf input.accountId input.type) := by
    simp only [World.walletKeyOf, World.resolve, accounts, wallets]
  constructor
  · exact fun allowed => ⟨allowed.value, allowed.nonzero, found ▸ allowed.found,
      allowed.active, allowed.covered⟩
  · exact fun allowed => ⟨allowed.value, allowed.nonzero, found ▸ allowed.found,
      allowed.active, allowed.covered⟩

/-! ## `transferCollectionToDisbursement` -/

/-- The tables a call of the wallet service can change, as they were. -/
structure SameBooks (before after : World) : Prop where
  wallets : after.wallets = before.wallets
  ledger : after.ledger = before.ledger
  transfers : after.transfers = before.transfers

/-- The state a transfer leaves: both ledger rows and the transfer. -/
def transferred (now : Time) (plan : TransferPlan) (world : World) : World :=
  { (world.record (plan.outRow now plan.source.balance)).record
      (plan.inRow now plan.target.balance) with
    transfers := world.transfers.insert plan.transfer }

/-- A plan whose wallets are the account's two wallets as they are. -/
structure TransferPlan.Fits (plan : TransferPlan) (world : World) : Prop where
  source : world.wallets.find? ⟨plan.accountId, .collection⟩ = some plan.source
  target : world.wallets.find? ⟨plan.accountId, .disbursement⟩ =
    some plan.target
  positive : 0 < plan.amount
  fee : ∃ config : FeeConfig, plan.fee = config.transferFee plan.amount

theorem TransferPlan.Fits.keys {plan : TransferPlan} {world : World}
    (fits : plan.Fits world) : plan.source.key = ⟨plan.accountId, .collection⟩ ∧
      plan.target.key = ⟨plan.accountId, .disbursement⟩ :=
  ⟨Table.key_of_find? fits.source, Table.key_of_find? fits.target⟩

/-- The transaction of a transfer is refused, or covered and fully written. -/
theorem run_transferTransaction (now : Time) {plan : TransferPlan}
    {world : World} (fits : plan.Fits world) :
    (∃ error written, (transferTransaction now plan).run world =
      (.error error, written)) ∨ plan.totalDebit ≤ plan.source.balance ∧
      (transferTransaction now plan).run world =
        (.ok plan.transfer, transferred now plan world) := by
  obtain ⟨sourceKey, targetKey⟩ := fits.keys
  have source := fits.source
  have target := fits.target
  have apart : plan.target.key ≠ plan.source.key := by
    rw [sourceKey, targetKey]
    simp
  rw [← sourceKey] at source
  rw [← targetKey] at target
  simp only [transferTransaction, Body.bind_perform, Body.run_query,
    Relation.findUnique, select, Platform.wallets, source]
  split
  · exact .inl ⟨_, _, rfl⟩
  split
  · exact .inl ⟨_, _, rfl⟩
  rename_i enough
  have covered : plan.totalDebit ≤ plan.source.balance := by linarith
  simp only [Body.run_query, restingOn, decrementBalance, source,
    if_pos covered,
    one_ne_zero, if_false, createLedgerRow, transferCredit, Body.bind_perform,
      Relation.findUnique,
    select, Platform.wallets, Table.find?_modify_ne apart, target]
  split
  · exact .inl ⟨_, _, rfl⟩
  simp only [Body.run_query, overwriteBalance, Relation.update,
    Platform.wallets,
    Table.find?_modify_ne apart, target, Body.run_perform, Relation.create,
      transfers]
  by_cases taken : (world.transfers.find? plan.transfer.reference).isSome
  · simp only [taken]
    exact .inl ⟨_, _, rfl⟩
  · simp only [taken]
    refine .inr ⟨covered, ?_⟩
    have debit : world.wallets.modify plan.source.key
        (fun row =>
          { row with balance := Money.round (row.balance - plan.totalDebit) })
        (fun _ => rfl) =
          (world.record (plan.outRow now plan.source.balance)).wallets := by
      simp only [World.record]
      refine Table.modify_congr source ?_ _ _
      rfl
    simp only [debit, Bool.false_eq_true, if_false]
    rfl

theorem run_computeTransferFee (accountId : AccountId) (amount : Decimal)
    (world : World) :
    (computeTransferFee accountId amount).run world =
      (.ok ((world.configOf accountId).transferFee amount),
        world.withConfig accountId) := by
  simp only [computeTransferFee, Program.run_bind, run_getConfig]
  rfl

theorem sameBooks_withConfig (world : World) (accountId : AccountId) :
    SameBooks world (world.withConfig accountId) := by
  unfold World.withConfig
  split <;> exact ⟨rfl, rfl, rfl⟩

/-- `transferAmount` on the account's two wallets. -/
theorem run_transferAmount (now : Time) (reference : Reference)
    {accountId : AccountId} {source target : Wallet} (dto : TransferInput)
    (actorId : Option String) {world : World}
    (foundSource : world.wallets.find? ⟨accountId, .collection⟩ = some source)
    (foundTarget : world.wallets.find? ⟨accountId, .disbursement⟩ =
      some target) :
    (∃ error left, SameBooks world left ∧
      (transferAmount now reference accountId source target dto actorId).run
        world = (.error error, left)) ∨
    ∃ plan left, SameBooks world left ∧ plan.Fits left ∧
      dto.amount = .value plan.amount ∧ plan.totalDebit ≤ plan.source.balance ∧
      (transferAmount now reference accountId source target dto actorId).run
        world = (.ok plan.transfer, transferred now plan left) := by
  have same : SameBooks world world := ⟨rfl, rfl, rfl⟩
  unfold transferAmount
  split
  · exact .inl ⟨_, _, same, rfl⟩
  · exact .inl ⟨_, _, same, rfl⟩
  rename_i amount value
  split
  · exact .inl ⟨_, _, same, rfl⟩
  rename_i positive
  have configured := sameBooks_withConfig world accountId
  let plan : TransferPlan :=
    { accountId, source, target, amount, reference, actorId
      fee := (world.configOf accountId).transferFee amount
      clientReference := upperReference dto.reference }
  have fits : plan.Fits (world.withConfig accountId) := by
    refine ⟨?_, ?_, ?_, ⟨_, rfl⟩⟩
    · rw [configured.wallets]
      exact foundSource
    · rw [configured.wallets]
      exact foundTarget
    · rw [not_or, not_lt] at positive
      exact lt_of_le_of_ne positive.2 (Ne.symm positive.1)
  simp only [Program.run_bind, run_computeTransferFee, Program.atomically,
    Program.run_transaction]
  rcases run_transferTransaction now fits with ⟨error, written,
    refused⟩ | ⟨covered, done⟩
  · refine .inl ⟨error, _, configured, ?_⟩
    rw [refused]
    rfl
  · refine .inr ⟨plan, _, configured, fits, value, covered, ?_⟩
    rw [done]
    rfl

/-- A transfer is refused and changes none of the tables, or moves the two
balances as its plan says. -/
theorem run_transfer (now : Time) (reference : Reference) (accountId : String)
    (dto : TransferInput) (actorId : Option String) (world : World) :
    (∃ error left, SameBooks world left ∧
      (transferCollectionToDisbursement now reference accountId dto actorId).run
        world = (.error error, left)) ∨
    ∃ plan left, SameBooks world left ∧ plan.Fits left ∧
      dto.amount = .value plan.amount ∧ plan.totalDebit ≤ plan.source.balance ∧
      (transferCollectionToDisbursement now reference accountId dto actorId).run
        world = (.ok plan.transfer, transferred now plan left) := by
  have same : SameBooks world world := ⟨rfl, rfl, rfl⟩
  simp only [transferCollectionToDisbursement, Program.run_bind,
    run_resolveAccountId]
  cases resolves : world.resolve accountId with
  | none => exact .inl ⟨_, _, same, rfl⟩
  | some resolved =>
      simp only [Program.run_bind, run_getWallet]
      have key (type : WalletType) : world.walletKeyOf resolved type =
        ⟨resolved, type⟩ := by
        obtain ⟨account, found⟩ := World.find?_of_resolve resolves
        rw [World.walletKeyOf, World.resolve_of_find? found]
      simp only [key]
      cases foundSource : world.wallets.find? ⟨resolved, .collection⟩ with
      | none => exact .inl ⟨_, _, same, rfl⟩
      | some source =>
          simp only [key]
          cases foundTarget : world.wallets.find? ⟨resolved, .disbursement⟩ with
          | none => exact .inl ⟨_, _, same, rfl⟩
          | some target =>
              simp only
              split
              · exact .inl ⟨_, _, same, rfl⟩
              split
              · exact .inl ⟨_, _, same, rfl⟩
              split
              · exact run_transferAmount now reference dto actorId
                  foundSource foundTarget
              · simp only [Program.bind_perform, Program.run_query,
                  findDuplicateTransfer, select]
                split
                · exact .inl ⟨_, _, same, rfl⟩
                · exact run_transferAmount now reference dto actorId
                    foundSource foundTarget

end CloudStudio.Wallets
