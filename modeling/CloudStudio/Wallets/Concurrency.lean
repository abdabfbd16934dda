import CloudStudio.Wallets.Pool

/-!
# Concurrent movements: conservation and the floor

What holds of the wallets and the ledger in every state of every interleaving of
`move` and `transferCollectionToDisbursement` calls.  The floor at zero holds
with no assumption: the conditional update alone protects it.  Conservation
needs the second leg of a transfer, which writes a balance computed from an
earlier read, to find the balance it read.
-/

namespace CloudStudio.Wallets

open CloudStudio.Data CloudStudio.Transactions CloudStudio.Platform

variable {Id : Type} [DecidableEq Id]

/-- The calls, none of which has run a statement yet. -/
def starting (world : World) (calls : Id → Call) :
    Config Id World RowKey Expectation Site AppError Unit :=
  Config.start world fun id => (calls id).program

/-- Every run of the pool keeps its rules. -/
theorem pool_run (kept : BookInvariant) (world : World) (calls : Id → Call)
    (holds : kept.holds (book world)) (schedule : List (Event Id AppError))
    (expected : (starting world calls).AsExpected kept.assumed schedule) :
    Config.Sound (pool kept (dutiesOf calls) world.ledger)
      (fun _ => Settled) (fun _ => Rejected)
        ((starting world calls).run schedule) := by
  have sound : Config.Sound (pool kept (dutiesOf calls) world.ledger)
      (fun _ => Settled) (fun _ => Rejected) (starting world calls) :=
    ⟨fun _ => {}, ⟨holds, ⟨contributes_start world.ledger, by simp⟩, by simp⟩,
      fun id => (dutiesOf_permits calls id).safe⟩
  exact sound.run schedule expected

/-- When every overwritten balance is as it was read and every balance rounds
like its ledger amount, each balance is its start plus the ledger rows committed
since. -/
theorem balance_eq_start_add_committed (world : World) (calls : Id → Call)
    (schedule : List (Event Id AppError))
    (expected : (starting world calls).AsExpected
      [.overwrittenBalance, .exactColumn]
      schedule) :
    ∃ committed,
      ((starting world calls).run schedule).state.ledger =
        world.ledger ++ committed ∧
        ∀ wallet, ((starting world calls).run schedule).state.balance wallet =
          world.balance wallet + amountsOn committed wallet := by
  obtain ⟨held, ⟨holds, ⟨⟨order, _, _, ledger⟩, _⟩, _⟩, _⟩ :=
    pool_run (conservation (book world)) world calls (fun _ => rfl)
      schedule expected
  refine ⟨_, ledger, fun wallet => ?_⟩
  have conserved := holds wallet
  simp only [Book.ledgerSum, book, ledger, amountsOn_append] at conserved
  change World.balance _ wallet - _ = world.balance wallet - _ at conserved
  linarith

/-- One account with 100 in COLLECTION; a transfer of 10 and a deposit of 5. -/
def racingWorld : World where
  accounts :=
    Table.empty.insert { id := "a", accountId := "ACC-1"
                         sourceCode := "AAAAA" }
  wallets := (Table.empty.insert
    { key := ⟨"a", .collection⟩, balance := Money.round 100 }).insert
    { key := ⟨"a", .disbursement⟩ }

def racingCalls : Bool → Call
  | false => .transfer 1 "WT1" "a" { amount := .value 10 } none
  | true => .move 1
      { accountId := "a", type := .disbursement, txType := .deposit
        amount := .value 5, description := "deposit" }

/-- One call after the other. -/
def oneByOne : List (Event Bool AppError) :=
  List.replicate 7 (.run true) ++ List.replicate 16 (.run false)

/-- The deposit commits after the transfer has read the target's balance. -/
def interleaved : List (Event Bool AppError) :=
  List.replicate 12 (.run false) ++ List.replicate 7 (.run true) ++
    List.replicate 4 (.run false)

theorem balance_eq_start_add_committed_oneByOne :
    ∃ committed,
      ((starting racingWorld racingCalls).run oneByOne).state.ledger =
        racingWorld.ledger ++ committed ∧
      ∀ wallet, ((starting racingWorld racingCalls).run oneByOne).state.balance
        wallet = racingWorld.balance wallet + amountsOn committed wallet :=
  balance_eq_start_add_committed racingWorld racingCalls oneByOne
    (by decide +kernel)

/-- The transfer's second leg writes over the deposit: both calls return, and
the wallet holds 10 while its ledger rows sum to 15. -/
theorem deposit_lost_under_transfer :
    (∀ id, (((starting racingWorld racingCalls).run interleaved).thread
      id).outcome? = some (.returned ())) ∧
    ((starting racingWorld racingCalls).run interleaved).state.balance
        ⟨"a", .disbursement⟩ ≠
      racingWorld.balance ⟨"a", .disbursement⟩ +
        (((starting racingWorld racingCalls).run interleaved).state.ledgerSum
          ⟨"a", .disbursement⟩ - racingWorld.ledgerSum
            ⟨"a", .disbursement⟩) := by
  decide +kernel

/-- In every run from balances of zero or more, whatever the amounts and ledger
types: no balance is negative, a row that takes money commits only on a balance
that covers it, a call that returns has posted its rows, and one that ends in an
error has posted none.  So a debit the balance does not cover can only end in an
error. -/
theorem no_overdraft (world : World)
    (nonneg : ∀ row ∈ world.wallets.rows, 0 ≤ (row.balance : Decimal))
    (calls : Id → Call) (schedule : List (Event Id AppError)) :
    (∀ row ∈ ((starting world calls).run schedule).state.wallets.rows,
        0 ≤ (row.balance : Decimal)) ∧
      (∃ posted : Id → List WalletTransaction,
        Ledgered calls world.ledger
          ((starting world calls).run schedule).state.ledger posted ∧
        (∀ id, (((starting world calls).run schedule).thread id).outcome? =
          some (.returned ()) → posted id ≠ []) ∧
        ∀ id error, (((starting world calls).run schedule).thread id).outcome? =
          some (.threw error) → posted id = []) ∧
      ∀ event, ∃ rows,
        (((starting world calls).run schedule).step event).state.ledger =
          ((starting world calls).run schedule).state.ledger ++ rows ∧
        ∀ row ∈ rows, (row.amount : Decimal) < 0 →
          0 ≤ ((starting world calls).run schedule).state.balance row.walletId +
            row.amount := by
  have expected : (starting world calls).AsExpected floor.assumed schedule :=
    Config.asExpected_nil _ schedule
  have sound := pool_run floor world calls nonneg schedule expected
  refine ⟨?_, ?_, fun event => ?_⟩
  · obtain ⟨held, ⟨holds, _, _⟩, _⟩ := sound
    exact holds
  · obtain ⟨held, ⟨_, contributes, _⟩, ended⟩ := sound.ended
    exact ⟨fun id => (held id).posted, contributes,
      fun id returned => (ended id).1 () returned,
      fun id error threw => (ended id).2 error threw⟩
  · obtain ⟨_, postings, valid, finds, committed⟩ :=
      sound.step event (Config.meets_nil _ event)
    have ledger := congrArg Book.ledger committed
    rw [Book.ledger_commit] at ledger
    refine ⟨_, ledger, fun row member debit => ?_⟩
    obtain ⟨posting, ofPosting, rfl⟩ := List.mem_map.mp member
    have covered := (valid posting ofPosting).covered _ _ _ debit
    have found := finds.2 posting ofPosting
    simp only [book] at found
    rw [World.balance, (valid posting ofPosting).wallet, found]
    exact covered

theorem no_overdraft_racing :
    (∀ row ∈ ((starting racingWorld racingCalls).run interleaved).state.wallets.rows,
        0 ≤ (row.balance : Decimal)) ∧
      (∃ posted : Bool → List WalletTransaction,
        Ledgered racingCalls racingWorld.ledger
          ((starting racingWorld racingCalls).run interleaved).state.ledger
            posted ∧
        (∀ id, (((starting racingWorld racingCalls).run interleaved).thread
          id).outcome? = some (.returned ()) → posted id ≠ []) ∧
        ∀ id error, (((starting racingWorld racingCalls).run interleaved).thread
          id).outcome? = some (.threw error) → posted id = []) ∧
      ∀ event, ∃ rows,
        (((starting racingWorld racingCalls).run interleaved).step
          event).state.ledger =
          ((starting racingWorld racingCalls).run interleaved).state.ledger ++
            rows ∧
        ∀ row ∈ rows, (row.amount : Decimal) < 0 →
          0 ≤ ((starting racingWorld racingCalls).run interleaved).state.balance
            row.walletId + row.amount :=
  no_overdraft racingWorld (by decide +kernel) racingCalls interleaved

end CloudStudio.Wallets
