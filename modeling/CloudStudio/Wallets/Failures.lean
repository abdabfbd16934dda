import CloudStudio.Transactions.Failure
import CloudStudio.Wallets.Runs

/-!
# A movement under failures

`move` is all or nothing: whatever fails, a call that returns has recorded its
row, and one that does not has left the state alone.  It returns exactly when it
is allowed and none of its statements fails.
-/

namespace CloudStudio.Wallets

open CloudStudio.Data CloudStudio.Transactions CloudStudio.Platform

theorem resolveAccountId_straight (idOrPublicId : String) :
    (resolveAccountId idOrPublicId).Straight := by
  unfold resolveAccountId
  split
  · trivial
  · apply (Program.straight_perform _).bind
    intro byId
    cases byId with
    | some account => trivial
    | none => exact (Program.straight_perform _).bind fun _ => trivial

theorem getWallet_straight (accountId : String) (type : WalletType) :
    (getWallet accountId type).Straight := by
  apply (resolveAccountId_straight accountId).bind
  intro resolved
  apply (Program.straight_perform _).bind
  intro wallet
  cases wallet <;> trivial

theorem moveTransaction_straight (now : Time) (input : MoveInput)
    (wallet : Wallet) (amount : Decimal) :
    (moveTransaction now input wallet amount).Straight := by
  simp only [moveTransaction, Body.bind_perform]
  refine ⟨fun current => ?_, fun error => ⟨error, rfl⟩⟩
  cases current with
  | none => trivial
  | some current =>
      dsimp only
      split
      · trivial
      split
      · trivial
      split
      · refine ⟨fun count => ?_, fun error => ⟨error, rfl⟩⟩
        dsimp only
        split
        · trivial
        · exact ⟨fun _ => trivial, fun error => ⟨error, rfl⟩⟩
      · refine ⟨fun _ => ?_, fun error => ⟨error, rfl⟩⟩
        exact ⟨fun _ => trivial, fun error => ⟨error, rfl⟩⟩

theorem move_straight (now : Time) (input : MoveInput) :
    (move now input).Straight := by
  unfold move
  split
  · trivial
  · trivial
  split
  · trivial
  apply (getWallet_straight _ _).bind
  intro wallet
  split
  · trivial
  · exact ⟨moveTransaction_straight now input wallet _, fun _ => trivial,
      fun error => ⟨error, rfl⟩⟩

/-- The statements that resolve an account. -/
def resolveSites (world : World) (idOrPublicId : String) : List Site :=
  if idOrPublicId = "" then []
  else
    match world.accounts.find? idOrPublicId with
    | some _ => ["account.findUnique(id)"]
    | none => ["account.findUnique(id)", "account.findUnique(accountId)"]

/-- The statements and the commit of a movement that is allowed. -/
def moveSites (world : World) (input : MoveInput) (amount : Decimal) :
    List Site :=
  resolveSites world input.accountId ++
    ["wallet.find", "move.read",
      if isDebit input.txType
        amount then "move.decrement" else "move.increment",
      "move.ledger", "move.commit"]

theorem visited_resolveAccountId (idOrPublicId : String) (world : World) :
    (resolveAccountId idOrPublicId).visited world =
      resolveSites world idOrPublicId := by
  unfold resolveAccountId resolveSites
  split
  · rfl
  · simp only [Program.bind_perform, Program.visited, select]
    cases world.accounts.find? idOrPublicId <;> rfl

theorem visited_moveTransaction (now : Time) (input : MoveInput)
    {wallet : Wallet} {amount : Decimal} {world : World}
    (found : world.wallets.find? wallet.key = some wallet)
    (active : ¬ (wallet.status = .frozen ∧ ¬ input.ignoreFrozen))
    (covered : isDebit input.txType amount → |amount| ≤ wallet.balance) :
    (moveTransaction now input wallet amount).visited world =
      ["move.read",
        if isDebit input.txType
          amount then "move.decrement" else "move.increment",
        "move.ledger"] := by
  simp only [moveTransaction, Body.bind_perform, Body.visited,
    Relation.findUnique, select, Platform.wallets, found, if_neg active]
  by_cases debit : isDebit input.txType amount
  · have enough := covered debit
    have floor : ¬ ((wallet.balance : Decimal) - |amount| < 0) := by linarith
    simp only [debit, floor, and_false, if_false, if_true, restingOn,
      decrementBalance,
      Body.visited, found, if_pos enough, one_ne_zero, Body.perform,
        createLedgerRow]
  · simp only [debit, false_and, if_false, Bool.false_eq_true, restingOn,
      incrementBalance, Relation.update, Platform.wallets, found, Body.visited,
      Body.perform, createLedgerRow]

theorem visited_move (now : Time) {input : MoveInput} {world : World}
    {wallet : Wallet} {amount : Decimal}
    (allowed : MoveAllowed input world wallet amount) :
    (move now input).visited world = moveSites world input amount := by
  have transaction :=
    visited_moveTransaction now input allowed.found_key allowed.active
    allowed.covered
  have ran := run_moveTransaction now input allowed.found_key allowed.active
    allowed.covered
  have lookup : (getWallet input.accountId input.type).visited world =
      resolveSites world input.accountId ++ ["wallet.find"] := by
    simp only [getWallet, Program.visited_bind, visited_resolveAccountId,
      run_resolveAccountId, Program.perform, Program.visited]
    have found := allowed.found
    simp only [World.walletKeyOf] at found
    simp only [Program.run_query, Relation.findUnique, select, Platform.wallets,
      found]
    rfl
  simp only [move, allowed.value, if_neg allowed.nonzero, Program.visited_bind,
    lookup,
    run_getWallet, allowed.found, if_neg allowed.active, Program.atomically,
      Program.visited,
    transaction, ran, moveSites]
  simp

/-- The movement is allowed and none of its statements fails. -/
def MoveGoes (faults : Site → Option (Fault AppError)) (input : MoveInput)
    (world : World) : Prop :=
  ∃ wallet amount, MoveAllowed input world wallet amount ∧
    Clear faults (moveSites world input amount)

/-- What lets a movement go is its input, the failures, the accounts and the
wallets. -/
theorem moveGoes_congr {faults : Site → Option (Fault AppError)}
    {input : MoveInput} {world other : World}
    (accounts : other.accounts = world.accounts)
    (wallets : other.wallets = world.wallets) :
    MoveGoes faults input other ↔ MoveGoes faults input world := by
  have sites (amount : Decimal) :
      moveSites other input amount = moveSites world input amount := by
    simp only [moveSites, resolveSites, accounts]
  simp only [MoveGoes, moveAllowed_congr accounts wallets, sites]

theorem resolveAccountId_readOnly (idOrPublicId : String) :
    (resolveAccountId idOrPublicId).ReadOnly := by
  unfold resolveAccountId
  split
  · exact .returned _
  · apply (Program.ReadOnly.read fun _ => rfl).bind
    intro byId
    cases byId with
    | some account => exact .returned _
    | none => exact (Program.ReadOnly.read fun _ => rfl).bind fun _ =>
        .returned _

theorem getWallet_readOnly (accountId : String) (type : WalletType) :
    (getWallet accountId type).ReadOnly := by
  apply (resolveAccountId_readOnly accountId).bind
  intro resolved
  apply (Program.ReadOnly.read fun _ => rfl).bind
  intro wallet
  cases wallet with
  | some wallet => exact .returned _
  | none => exact .threw _

theorem move_allOrNothing (now : Time) (input : MoveInput) :
    (move now input).AllOrNothing := by
  unfold move
  split
  · exact (Program.ReadOnly.threw _).allOrNothing
  · exact (Program.ReadOnly.threw _).allOrNothing
  split
  · exact (Program.ReadOnly.threw _).allOrNothing
  apply Program.AllOrNothing.after (getWallet_readOnly _ _)
  intro wallet
  split
  · exact (Program.ReadOnly.threw _).allOrNothing
  · exact .atomically _ _

/-- A movement under failures records its row, when it goes, or leaves no
trace. -/
theorem exec_move (now : Time) (input : MoveInput)
    (faults : Site → Option (Fault AppError)) (world : World) :
    (∃ wallet amount, MoveAllowed input world wallet amount ∧
      Clear faults (moveSites world input amount) ∧
      (move now input).exec faults world =
        (.returned (moveRow now input wallet amount wallet.balance),
          world.record (moveRow now input wallet amount wallet.balance))) ∨
    (¬ MoveGoes faults input world ∧ ∃ outcome,
      (move now input).exec faults world = (outcome, world) ∧
        ∀ row, outcome ≠ .returned row) := by
  by_cases goes : MoveGoes faults input world
  · obtain ⟨wallet, amount, allowed, clear⟩ := goes
    refine .inl ⟨wallet, amount, allowed, clear, ?_⟩
    rw [Program.exec_of_clear (by rwa [visited_move now allowed]),
      run_move now allowed]
    rfl
  · have ends := move_allOrNothing now input world faults world rfl
    refine .inr ⟨goes, ?_⟩
    generalize ran : (move now input).exec faults world = ended at ends ⊢
    rcases ended with ⟨row | error | _, after⟩
    · have clear := (move_straight now input).returned_clear ran
      rw [Program.exec_of_clear clear] at ran
      rcases run_move_cases now input world with ⟨wallet, amount, allowed,
        _⟩ | ⟨_, error, threw⟩
      · rw [visited_move now allowed] at clear
        exact (goes ⟨wallet, amount, allowed, clear⟩).elim
      · rw [threw] at ran
        cases ran
    · cases ends
      refine ⟨.threw error, rfl, fun row same => ?_⟩
      cases same
    · cases ends
      refine ⟨.stopped, rfl, fun row same => ?_⟩
      cases same

/-- A movement that returns has recorded its row, and any other leaves the state
alone. -/
theorem move_holds (now : Time) (input : MoveInput) (world : World) :
    (move now input).Holds (· = world)
      (fun row after => ∃ wallet amount, MoveAllowed input world wallet amount ∧
        row = moveRow now input wallet amount wallet.balance ∧
          after = world.record row)
      (· = world) := by
  intro faults state same
  subst same
  rcases exec_move now input faults state with
    ⟨wallet, amount, allowed, _, ran⟩ | ⟨_, outcome, ran, fails⟩
  · rw [ran]
    exact ⟨wallet, amount, allowed, rfl, rfl⟩
  · rw [ran]
    cases outcome with
    | returned row => exact (fails row rfl).elim
    | threw error => rfl
    | stopped => rfl

end CloudStudio.Wallets
