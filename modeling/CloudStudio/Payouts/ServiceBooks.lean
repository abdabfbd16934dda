import CloudStudio.Payouts.ServiceCalls

/-!
# The books of the whole service

The floor under every balance holds in every run.  Where the updates of a
balance find what their transactions read, the ledger accounts for every
balance, its rows lead from one balance to the next, and frozen wallets stay as
they are, whatever else the service does.
-/

namespace CloudStudio.Payouts

open CloudStudio.Data CloudStudio.Transactions CloudStudio.Platform
open CloudStudio.Payments
open CloudStudio.Wallets

variable {Id : Type} [DecidableEq Id]

/-- Whatever calls run at once, and wherever they fail or stop: no balance is
negative, no step takes back a row of the ledger, and a row that takes money is
added only on a balance that covers it. -/
theorem no_wallet_overdrawn (world : World)
    (nonneg : ∀ row ∈ world.wallets.rows, 0 ≤ (row.balance : Decimal))
    (calls : Id → ServiceCall) (schedule : List (Event Id AppError)) :
    (∀ row ∈ ((inService world calls).run schedule).state.wallets.rows,
        0 ≤ (row.balance : Decimal)) ∧
      ∀ event, ∃ rows,
        (((inService world calls).run schedule).step event).state.ledger =
          ((inService world calls).run schedule).state.ledger ++ rows ∧
        ∀ row ∈ rows, (row.amount : Decimal) < 0 →
          0 ≤ ((inService world calls).run schedule).state.balance
            row.walletId + row.amount := by
  have expected : (inService world calls).AsExpected floor.assumed schedule :=
    Config.asExpected_nil _ schedule
  have sound := service_run floor_open world nonneg calls schedule expected
  refine ⟨?_, fun event => ?_⟩
  · obtain ⟨held, ⟨holds, _⟩, _⟩ := sound
    exact holds
  · obtain ⟨_, ⟨postings, valid, finds, ledger⟩, _⟩ :=
      sound.step event (Config.meets_nil _ event)
    refine ⟨_, ledger, fun row member debit => ?_⟩
    obtain ⟨posting, ofPosting, rfl⟩ := List.mem_map.mp member
    have covered := (valid posting ofPosting).covered _ _ _ debit
    have found := finds.2 posting ofPosting
    simp only [book] at found
    rw [World.balance, (valid posting ofPosting).wallet, found]
    exact covered

/-- An account with 2000 in its DISBURSEMENT wallet. -/
def rivalWorld : World where
  accounts :=
    Table.empty.insert { id := "a", accountId := "ACC-1"
                         sourceCode := "AAAAA" }
  wallets := Table.empty.insert
    { key := ⟨"a", .disbursement⟩, balance := Money.round 2000 }

/-- A payout of 1500, and a withdrawal of 1500 by an administrator. -/
def rivals : Bool → ServiceCall
  | false =>
      .endpoint (.createPayout 5 "00000000000000A".toList "a" .mobileMoney
      { amount := Amount.shillings 1500
        phoneNumber := some "255682345678" })
  | true => .wallet (.movement (.move 6
      { accountId := "a", type := .disbursement, txType := .withdrawal
        amount := .value 1500, description := "withdrawal" }))

def byTurns : List (Event Bool AppError) :=
  (List.replicate 16 [.run false, .run true]).flatten

theorem no_wallet_overdrawn_rivals :
    (∀ row ∈ ((inService rivalWorld rivals).run byTurns).state.wallets.rows,
        0 ≤ (row.balance : Decimal)) ∧
      ∀ event, ∃ rows,
        (((inService rivalWorld rivals).run byTurns).step event).state.ledger =
          ((inService rivalWorld rivals).run byTurns).state.ledger ++ rows ∧
        ∀ row ∈ rows, (row.amount : Decimal) < 0 →
          0 ≤ ((inService rivalWorld rivals).run byTurns).state.balance
            row.walletId + row.amount :=
  no_wallet_overdrawn rivalWorld (by decide +kernel) rivals byTurns

/-- When every overwritten balance is as it was read and every balance rounds
like its ledger amount, each balance is its start plus the ledger rows committed
since: the ledger accounts for all that the service did to it. -/
theorem service_books_balance (world : World) (calls : Id → ServiceCall)
    (schedule : List (Event Id AppError))
    (expected : (inService world calls).AsExpected
      [.overwrittenBalance, .exactColumn]
      schedule) :
    ∃ committed,
      ((inService world calls).run schedule).state.ledger =
        world.ledger ++ committed ∧
        ∀ wallet, ((inService world calls).run schedule).state.balance wallet =
          world.balance wallet + amountsOn committed wallet := by
  have start : (conservation (book world)).holds (book world) := fun _ => rfl
  have sound := service_run (conservation_open (book world)) world start calls
    schedule expected
  obtain ⟨committed, ledger⟩ :=
    ledger_kept (conservation_open (book world)) world start calls
    schedule expected
  obtain ⟨held, ⟨holds, _⟩, _⟩ := sound
  refine ⟨committed, ledger.symm, fun wallet => ?_⟩
  have conserved := holds wallet
  simp only [Book.ledgerSum, book, ← ledger, amountsOn_append] at conserved
  change World.balance _ wallet - _ = world.balance wallet - _ at conserved
  linarith

/-- The payout is created, and then the administrator takes 400. -/
def oneByOneCalls : Bool → ServiceCall
  | false => rivals false
  | true => .wallet (.movement (.move 6
      { accountId := "a", type := .disbursement, txType := .withdrawal
        amount := .value 400, description := "withdrawal" }))

def payoutFirst : List (Event Bool AppError) :=
  List.replicate 20 (.run false) ++ List.replicate 10 (.run true)

theorem service_books_balance_payoutFirst :
    ∃ committed,
      ((inService rivalWorld oneByOneCalls).run payoutFirst).state.ledger =
        rivalWorld.ledger ++ committed ∧
        ∀ wallet,
          ((inService rivalWorld oneByOneCalls).run payoutFirst).state.balance
          wallet = rivalWorld.balance wallet + amountsOn committed wallet :=
  service_books_balance rivalWorld oneByOneCalls payoutFirst (by decide +kernel)

/-- When every balance update finds the balance its transaction read, the ledger
is an audit trail of the service: the rows of each wallet lead from its starting
balance to its balance, each on the balance that the one before it left. -/
theorem service_ledger_chains (world : World) (calls : Id → ServiceCall)
    (schedule : List (Event Id AppError))
    (expected : (inService world calls).AsExpected [.currentBalance] schedule) :
    Traced world ((inService world calls).run schedule).state := by
  have start : (audited (book world)).holds (book world) :=
    ⟨[], by simp, fun wallet => rfl⟩
  obtain ⟨held, ⟨holds, _⟩, _⟩ :=
    service_run (audited_open (book world)) world start calls schedule expected
  exact holds

theorem service_ledger_chains_payoutFirst :
    Traced rivalWorld
      ((inService rivalWorld oneByOneCalls).run payoutFirst).state :=
  service_ledger_chains rivalWorld oneByOneCalls payoutFirst (by decide +kernel)

/-- When each balance update finds the status its transaction read, no step
changes the balance of a wallet that is frozen, unless it credits or refunds
what the provider reported, or the call is a movement that was told to ignore
freezes. -/
theorem service_respects_freezes (world : World) (calls : Id → ServiceCall)
    (schedule : List (Event Id AppError)) (event : Event Id AppError)
    (expected : (inService world calls).AsExpected [.currentStatus]
      (schedule ++ [event])) :
    RespectsFreeze (calls event.id).IgnoresFrozen
      ((inService world calls).run schedule).state
      ((inService world calls).run (schedule ++ [event])).state := by
  obtain ⟨before, meets, _⟩ := (Config.asExpected_append _ _ _ _).mp expected
  have sound :=
    service_run unconstrained_open world trivial calls schedule before
  rw [Config.run_append]
  exact (sound.step event meets).2.respects (by simp [unconstrained])

/-- The wallet is frozen before the payout looks for it. -/
def freezing : Bool → ServiceCall
  | false => rivals false
  | true => .wallet (.setFrozen "a" .disbursement true)

def freezeFirst : List (Event Bool AppError) :=
  List.replicate 3 (.run true) ++ List.replicate 5 (.run false)

theorem service_respects_freezes_freezeFirst :
    RespectsFreeze (freezing false).IgnoresFrozen
      ((inService rivalWorld freezing).run freezeFirst).state
      ((inService rivalWorld freezing).run
        (freezeFirst ++ [.run false])).state :=
  service_respects_freezes rivalWorld freezing freezeFirst (.run false)
    (by decide +kernel)

end CloudStudio.Payouts
