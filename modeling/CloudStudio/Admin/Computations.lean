import CloudStudio.Data.Periods
import CloudStudio.Wallets.Sequential

/-!
# The computational review

The wallets of `AdminService.computations`: for each wallet of an account, what
the ledger rows of a range say of its balance.
-/

namespace CloudStudio.Admin

open CloudStudio.Data CloudStudio.Transactions CloudStudio.Platform
open CloudStudio.Wallets

structure DateRange where
  fromDate : Time
  toDate : Time
  deriving DecidableEq

/-- An entry of `wallets` in the response, each amount through `toFixed(2)`. -/
structure WalletReview where
  walletType : WalletType
  currency : String
  status : WalletStatus
  openingBalance : Money
  totalCredited : Money
  totalDebited : Money
  closingBalance : Money
  liveBalance : Money
  ledgerConsistent : Bool
  discrepancy : Money
  movements : ℕ
  deriving DecidableEq

/-- The ledger rows of a wallet in the range, oldest first. -/
def ledgerOf (wallet : WalletKey) (range : DateRange) (world : World) :
    List WalletTransaction :=
  ((world.rowsOf wallet).filter fun tx =>
    range.fromDate ≤ tx.createdAt ∧ tx.createdAt ≤ range.toDate).mergeSort
      fun first second => first.createdAt ≤ second.createdAt

/-- What is reported of a wallet for its rows of the range. -/
def reviewWallet (wallet : Wallet) (txs : List WalletTransaction) :
    WalletReview :=
  let credits := ((txs.filter fun tx => 0 < (tx.amount : Decimal)).map
    fun tx => (tx.amount : Decimal)).sum
  let debits := ((txs.filter fun tx => (tx.amount : Decimal) < 0).map
    fun tx => (tx.amount : Decimal)).sum
  let opening :=
    (txs.head?.map WalletTransaction.balanceBefore).getD wallet.balance
  let closing := (txs.getLast?.map WalletTransaction.balanceAfter).getD opening
  let expected := opening + credits + debits -- debits are negative
  let consistent := decide (expected = (closing : Decimal))
  { walletType := wallet.key.type
    currency := wallet.currency
    status := wallet.status
    openingBalance := opening
    totalCredited := Money.round credits
    totalDebited := Money.round |debits|
    closingBalance := closing
    liveBalance := wallet.balance
    ledgerConsistent := consistent && closing == wallet.balance
    discrepancy := Money.round (wallet.balance - closing)
    movements := txs.length }

/-- The loop over the wallets, each with a read of its ledger. -/
def reviewWallets (range : DateRange) : List Wallet → Db (List WalletReview)
  | [] => pure []
  | wallet :: rest => do
      let txs ← Program.perform
        (select "review.ledger" (ledgerOf wallet.key range))
      let reviews ← reviewWallets range rest
      pure (reviewWallet wallet txs :: reviews)

/-- The wallets of an account, as its row includes them. -/
def walletsOf (world : World) (account : AccountId) : List Wallet :=
  world.wallets.rows.filter fun wallet => wallet.key.accountId = account

/-- Accepts the public accountId or the internal row id. -/
def computations (accountId : String) (range : DateRange) :
    Db (Option (List WalletReview)) := do
  let resolved ← resolveAccountId accountId
  match resolved with
  | none => pure none
  | some resolved =>
      let account ← Program.perform (select "review.account" fun world =>
        (world.accounts.find? resolved).map fun account =>
          walletsOf world account.id)
      match account with
      | none => pure none
      | some wallets => do
          let reviews ← reviewWallets range wallets
          pure (some reviews)

theorem run_reviewWallets (range : DateRange) (wallets : List Wallet)
    (world : World) :
    (reviewWallets range wallets).run world =
      (.ok (wallets.map fun wallet =>
        reviewWallet wallet (ledgerOf wallet.key range world)), world) := by
  induction wallets with
  | nil => rfl
  | cons wallet rest ih =>
      simp only [reviewWallets, Program.bind_perform, Program.run_query, select,
        Program.run_bind, ih]
      rfl

theorem run_computations {accountId : String} {account : AccountId}
    {world : World} (resolved : world.resolve accountId = some account)
    (range : DateRange) :
    (computations accountId range).run world =
      (.ok (some ((walletsOf world account).map fun wallet =>
        reviewWallet wallet (ledgerOf wallet.key range world))), world) := by
  obtain ⟨row, found⟩ := World.find?_of_resolve resolved
  have own : row.id = account := Table.key_of_find? found
  simp only [computations, Program.run_bind, run_resolveAccountId, resolved,
    Program.bind_perform, Program.run_query, select, found, Option.map_some,
    run_reviewWallets, own]
  rfl

end CloudStudio.Admin
