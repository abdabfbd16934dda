import CloudStudio.Wallets.Concurrency

/-!
# Freezing a wallet while movements run

`setFrozen` commits at once; a movement checks the status with reads and updates
the balance with a statement that does not mention it.  The row lock keeps a
freeze out from that update to the commit, so a frozen wallet can move only
through a freeze that commits between the check and the update.
-/

namespace CloudStudio.Wallets

open CloudStudio.Data CloudStudio.Transactions CloudStudio.Platform

/-- A call that moves money or sets the status of a wallet. -/
inductive WalletCall where
  | movement (call : Call)
  | setFrozen (accountId : String) (type : WalletType) (frozen : Bool)

namespace WalletCall

def program : WalletCall → Db Unit
  | .movement call => call.program
  | .setFrozen accountId type frozen =>
      Program.discard (Wallets.setFrozen accountId type frozen)

/-- The call may move a frozen wallet. -/
def IgnoresFrozen : WalletCall → Prop
  | .movement call => call.IgnoresFrozen
  | .setFrozen .. => False

def Wrote : WalletCall → List WalletTransaction → Prop
  | .movement call => call.Wrote
  | .setFrozen .. => fun _ => False

end WalletCall

variable {Id : Type} [DecidableEq Id]

/-- The calls, none of which has run a statement yet. -/
def startingCalls (world : World) (calls : Id → WalletCall) :
    Config Id World RowKey Expectation Site AppError Unit :=
  Config.start world fun id => (calls id).program

/-- Nothing is asked of the book. -/
def unconstrained : BookInvariant where
  assumed := [.currentStatus]
  seen := fun _ => True
  holds := fun _ => True
  seen_of_holds := fun _ _ => trivial
  holds_post := fun _ _ _ => trivial

/-- Every wallet that was frozen keeps its balance, unless freezes may be
ignored. -/
def RespectsFreeze (ignores : Prop) (before after : World) : Prop :=
  ¬ ignores → ∀ wallet row, before.wallets.find? wallet = some row →
    row.status = .frozen → after.balance wallet = before.balance wallet

theorem respectsFreeze_refl (ignores : Prop) (world : World) :
    RespectsFreeze ignores world world :=
  fun _ _ _ _ _ => rfl

/-- A commit of postings whose wallets were not frozen. -/
theorem Commits.respectsFreeze {assumed : List Expectation}
    {seen : Money → Prop} {ignores : Prop} {before after : World}
    (assumes : .currentStatus ∈ assumed)
    (commits : Commits assumed seen ignores (book before) (book after)) :
    RespectsFreeze ignores before after := by
  intro respects wallet row found frozen
  obtain ⟨postings, valid, finds, committed⟩ := commits
  have apart : ∀ posting ∈ postings, wallet ≠ posting.found.key := by
    intro posting member same
    have found' := finds.2 posting member
    rw [← same] at found'
    have row_eq : posting.found = row :=
      Option.some.inj (found'.symm.trans found)
    rcases (valid posting member).active assumes with ignoring | active
    · exact respects ignoring
    · exact active (row_eq ▸ frozen)
  have balances : (book after).balance wallet =
    (book before).balance wallet := by
    rw [committed, Book.balance, Book.find?_commit_ne apart, ← Book.balance]
  exact balances

def freezeDuties (calls : Id → WalletCall) : Duties Id where
  wrote := fun id => (calls id).Wrote
  ignores := fun id => (calls id).IgnoresFrozen

/-- The rules of the pool, for calls that also freeze: no frozen wallet
moves. -/
def freezePool (calls : Id → WalletCall) (start : List WalletTransaction) :
    Protocol Id World RowKey Expectation Holding :=
  (pool unconstrained (freezeDuties calls) start).guaranteeing
    (fun id before after =>
      RespectsFreeze (calls id).IgnoresFrozen before after)
    fun _ world => respectsFreeze_refl _ world

variable {calls : Id → WalletCall} {start : List WalletTransaction}

/-- A change of a status keeps every balance. -/
theorem balance_setStatus (world : World) (key wallet : WalletKey)
    (status : WalletStatus) :
    ({ world with
      wallets :=
        world.wallets.modify key (fun row => { row with status := status })
        fun _ => rfl } : World).balance wallet = world.balance wallet := by
  simp only [World.balance, Table.find?_modify]
  split
  · rename_i same
    subst same
    cases world.wallets.find? wallet <;> rfl
  · rfl

/-- `setFrozen` waits for the lock of the wallet row, so no movement that has
updated its balance loses the row it found. -/
theorem setFrozen_safe (id : Id) (accountId : String) (type : WalletType)
    (frozen : Bool) :
    (Wallets.setFrozen accountId type frozen).Safe (freezePool calls start) id
      (fun _ _ => True) (fun _ _ => True) {} := by
  apply Program.Safe.andThen (getWallet_safe accountId type fun _ => trivial)
  rintro wallet left ⟨_, rfl⟩
  refine ⟨?_, fun _ => trivial⟩
  intro world owner held kept own free _ answer answered
  obtain ⟨_, ledgered, pinned⟩ := kept
  refine ⟨{}, ⟨trivial, ?_, ?_⟩, ?_, trivial⟩
  · rw [← own, Function.update_eq_self]
    exact ledgered
  · rw [← own, Function.update_eq_self]
    intro other row member
    obtain ⟨owned, found⟩ := pinned other row member
    refine ⟨owned, ?_⟩
    have apart : row.key ≠ wallet.key := by
      intro same
      rcases free (.wallet wallet.key) List.mem_cons_self with unowned | ours
      · rw [← same, owned] at unowned
        cases unowned
      · rw [← same, owned] at ours
        cases Option.some.inj ours
        rw [own] at member
        cases member
    simp only [Relation.update, Platform.wallets]
    rw [Table.find?_modify_ne apart]
    exact found
  · intro _ key row _ _
    exact balance_setStatus world wallet.key key _

theorem walletCall_safe (id : Id) :
    (calls id).program.Safe (freezePool calls start) id (fun _ _ => True)
      (fun _ _ => True) {} := by
  cases called : calls id with
  | movement call =>
      have permits : (freezeDuties calls).Permits id call := by
        constructor
        · intro rows wrote
          simp only [freezeDuties, called]
          exact wrote
        · intro ignoring
          simp only [freezeDuties, called]
          exact ignoring
      have safe :
        call.program.Safe (pool unconstrained (freezeDuties calls) start) id
          Settled Rejected {} := permits.safe
      apply (Program.Safe.guaranteeing safe ?_).mono (fun _ _ _ => trivial)
        (fun _ _ _ => trivial)
      exact fun before after commits =>
        commits.respectsFreeze (by simp [unconstrained])
  | setFrozen accountId type frozen =>
      exact (setFrozen_safe id accountId type frozen).andThen
        fun _ _ _ => trivial

/-- In every run in which each balance update of a movement that does not ignore
freezes finds the status its transaction read, a step changes the balance of a
wallet that is frozen only if its call ignores freezes. -/
theorem frozen_wallet_unmoved (world : World) (calls : Id → WalletCall)
    (schedule : List (Event Id AppError)) (event : Event Id AppError)
    (expected : (startingCalls world calls).AsExpected [.currentStatus]
      (schedule ++ [event])) :
    RespectsFreeze (calls event.id).IgnoresFrozen
      ((startingCalls world calls).run schedule).state
      ((startingCalls world calls).run (schedule ++ [event])).state := by
  have sound : Config.Sound (freezePool calls world.ledger) (fun _ _ _ => True)
      (fun _ _ _ => True) (startingCalls world calls) :=
    ⟨fun _ => {}, ⟨trivial, ⟨contributes_start world.ledger, by simp⟩, by simp⟩,
      walletCall_safe⟩
  obtain ⟨before, meets, _⟩ := (Config.asExpected_append _ _ _ _).mp expected
  rw [Config.run_append]
  exact ((sound.run schedule before).step event meets).2

/-- A withdrawal of 10 from a wallet with 100, and a freeze of that wallet. -/
def freezeWorld : World where
  accounts :=
    Table.empty.insert { id := "a", accountId := "ACC-1"
                         sourceCode := "AAAAA" }
  wallets := Table.empty.insert
    { key := ⟨"a", .disbursement⟩, balance := Money.round 100 }

def freezeCalls : Bool → WalletCall
  | false => .movement (.move 1
      { accountId := "a", type := .disbursement, txType := .withdrawal
        amount := .value 10, description := "withdrawal" })
  | true => .setFrozen "a" .disbursement true

/-- The freeze commits, then the withdrawal looks for the wallet. -/
def frozenFirst : List (Event Bool AppError) :=
  List.replicate 3 (.run true) ++ [.run false]

/-- The freeze commits after the withdrawal has read the status; the withdrawal
is about to commit. -/
def frozenBetween : List (Event Bool AppError) :=
  List.replicate 4 (.run false) ++ List.replicate 3 (.run true) ++
    List.replicate 2 (.run false)

theorem frozen_wallet_unmoved_frozenFirst :
    RespectsFreeze (freezeCalls false).IgnoresFrozen
      ((startingCalls freezeWorld freezeCalls).run frozenFirst).state
      ((startingCalls freezeWorld freezeCalls).run
        (frozenFirst ++ [.run false])).state :=
  frozen_wallet_unmoved freezeWorld freezeCalls frozenFirst (.run false)
    (by decide +kernel)

/-- The wallet is frozen, with 100 in it, and the commit takes 10 out of it. -/
theorem debit_of_frozen_wallet :
    ((((startingCalls freezeWorld freezeCalls).run
      frozenBetween).state.wallets.find?
        ⟨"a", .disbursement⟩).map fun row =>
          (row.status, (row.balance : Decimal))) =
      some (.frozen, 100) ∧
    ¬ RespectsFreeze (freezeCalls false).IgnoresFrozen
      ((startingCalls freezeWorld freezeCalls).run frozenBetween).state
      ((startingCalls freezeWorld freezeCalls).run
        (frozenBetween ++ [.run false])).state := by
  have frozen : ((((startingCalls freezeWorld freezeCalls).run
      frozenBetween).state.wallets.find? ⟨"a", .disbursement⟩).map
      fun row => (row.status, (row.balance : Decimal))) =
        some (.frozen, 100) := by
    decide +kernel
  refine ⟨frozen, fun respects => ?_⟩
  obtain ⟨row, found, status⟩ := Option.map_eq_some_iff.mp frozen
  have kept :=
    respects
    (by simp [freezeCalls, WalletCall.IgnoresFrozen, Call.IgnoresFrozen])
    ⟨"a", .disbursement⟩ row found (congrArg Prod.fst status)
  revert kept
  decide +kernel

end CloudStudio.Wallets
