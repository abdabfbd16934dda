import CloudStudio.Data.Chain
import CloudStudio.Wallets.Concurrency

/-!
# The ledger as an audit trail of concurrent movements

Each ledger row carries the balance before and after its movement, both computed
from the read at the start of the transaction.  At READ COMMITTED another
movement can commit between that read and the balance update; where none does,
the rows of a wallet lead from its starting balance to its balance without a
gap.
-/

namespace CloudStudio.Wallets

open CloudStudio.Data CloudStudio.Transactions CloudStudio.Platform

/-- A ledger row as a step of the balance: what it says it found and what it
left. -/
def auditEntries : Running WalletTransaction Decimal where
  before := fun row => row.balanceBefore
  after := fun row => row.balanceAfter
  amount := fun row => row.balanceAfter - row.balanceBefore

/-- The rows of a list that are about a wallet. -/
def rowsAbout (wallet : WalletKey) (rows : List WalletTransaction) :
    List WalletTransaction :=
  rows.filter fun row => row.walletId = wallet

/-- A movement that found the balance it read says in its row what it did. -/
theorem Posting.Valid.row_after {assumed : List Expectation}
    {seen : Money → Prop} {ignores : Prop} {posting : Posting}
    (valid : posting.Valid assumed seen ignores)
    (assumes : .currentBalance ∈ assumed) :
    posting.row.balanceAfter =
      posting.movement.after posting.found.balance := by
  rw [valid.after, valid.before assumes]

namespace Book

variable {book : Book} {posting : Posting} {postings : List Posting}

theorem balance_of_find? {wallet : WalletKey} {row : Wallet}
    (found : book.wallets.find? wallet = some row) :
    book.balance wallet = row.balance := by
  rw [balance, found]
  rfl

/-- After a commit every moved wallet has the balance its posting leaves. -/
theorem balance_commit (finds : book.Finds postings)
    (member : posting ∈ postings) :
    (book.commit postings).balance posting.found.key =
      posting.movement.after posting.found.balance := by
  induction postings generalizing book with
  | nil => cases member
  | cons first rest ih =>
      have distinct := finds.1
      rw [List.map_cons, List.nodup_cons] at distinct
      rw [commit_cons]
      rcases List.mem_cons.mp member with rfl | later
      · have last : ∀ other ∈ rest, posting.found.key ≠ other.found.key := by
          intro other ofRest same
          apply distinct.1
          rw [same]
          exact List.mem_map_of_mem ofRest
        rw [balance, find?_commit_ne last, ← balance,
          balance_post (finds.2 posting List.mem_cons_self), if_pos rfl]
      · exact ih finds.tail later

end Book

/-- The rows committed since the start lead every wallet from its starting
balance to its balance. -/
def Traced (start reached : World) : Prop :=
  ∃ committed, reached.ledger = start.ledger ++ committed ∧
    ∀ wallet,
      auditEntries.Chains (start.balance wallet) (rowsAbout wallet committed)
      (reached.balance wallet)

/-- The ledger rows a change of the state adds name the balances before and
after it. -/
def Faithful (before after : World) : Prop :=
  ∃ rows, after.ledger = before.ledger ++ rows ∧
    ∀ row ∈ rows, before.balance row.walletId = row.balanceBefore ∧
      after.balance row.walletId = row.balanceAfter

/-- `Traced` as a property that postings keep. -/
def audited (start : Book) : BookInvariant where
  assumed := [.currentBalance]
  seen := fun _ => True
  holds := fun book => ∃ committed, book.ledger = start.ledger ++ committed ∧
    ∀ wallet,
      auditEntries.Chains (start.balance wallet) (rowsAbout wallet committed)
      (book.balance wallet)
  seen_of_holds := fun _ _ => trivial
  holds_post := by
    intro book ignores posting holds valid finds
    obtain ⟨committed, ledger, chains⟩ := holds
    have before := valid.before (by simp)
    have after := valid.row_after (by simp)
    refine ⟨committed ++ [posting.row], ?_, fun wallet => ?_⟩
    · simp only [Book.post, ledger, List.append_assoc]
    · rw [Book.balance_post finds, rowsAbout, List.filter_append]
      by_cases same : wallet = posting.found.key
      · subst same
        rw [if_pos rfl, List.filter_singleton]
        simp only [valid.wallet, decide_true, cond_true]
        rw [← after]
        refine (chains posting.found.key).append ?_ ?_
        · rw [Book.balance_of_find? finds]
          exact congrArg Subtype.val before
        · exact (add_sub_cancel _ _).symm
      · have other : ¬ posting.row.walletId = wallet := by
          rw [valid.wallet]
          exact fun equal => same equal.symm
        rw [if_neg same, List.filter_singleton]
        simp only [other, decide_false, cond_false, List.append_nil]
        exact chains wallet

/-- When every balance update finds the balance its transaction read, the ledger
is a faithful audit trail: in every state reached the rows of each wallet chain
from its starting balance to its balance, and each row was committed on the
balance it calls `balanceBefore` and left the one it calls `balanceAfter`. -/
theorem ledger_chains {Id : Type} [DecidableEq Id] (world : World)
    (calls : Id → Call) (schedule : List (Event Id AppError))
    (expected : (starting world calls).AsExpected [.currentBalance] schedule) :
    Traced world ((starting world calls).run schedule).state ∧
      ∀ event,
        ((starting world calls).run schedule).Meets [.currentBalance] event →
        Faithful ((starting world calls).run schedule).state
          (((starting world calls).run schedule).step event).state := by
  have holds : (audited (book world)).holds (book world) :=
    ⟨[], by simp, fun wallet => rfl⟩
  have sound :=
    pool_run (audited (book world)) world calls holds schedule expected
  constructor
  · obtain ⟨held, ⟨kept, _, _⟩, _⟩ := sound
    exact kept
  · intro event meets
    obtain ⟨_, postings, valid, finds, committed⟩ := sound.step event meets
    have ledger := congrArg Book.ledger committed
    rw [Book.ledger_commit] at ledger
    refine ⟨_, ledger, fun row member => ?_⟩
    obtain ⟨posting, ofPosting, rfl⟩ := List.mem_map.mp member
    have ofValid := valid posting ofPosting
    have found := finds.2 posting ofPosting
    rw [ofValid.wallet, ofValid.row_after (by simp [audited]),
      ofValid.before (by simp [audited])]
    constructor
    · exact Book.balance_of_find? found
    · change Book.balance (book _) _ = _
      rw [committed]
      exact Book.balance_commit finds ofPosting

/-- Two deposits, 5 and 10, on a wallet with 100. -/
def depositsWorld : World where
  accounts :=
    Table.empty.insert { id := "a", accountId := "ACC-1"
                         sourceCode := "AAAAA" }
  wallets := Table.empty.insert
    { key := ⟨"a", .disbursement⟩, balance := Money.round 100 }

def depositCalls : Bool → Call
  | false => .move 1
      { accountId := "a", type := .disbursement, txType := .deposit
        amount := .value 10, description := "deposit" }
  | true => .move 1
      { accountId := "a", type := .disbursement, txType := .deposit
        amount := .value 5, description := "deposit" }

/-- The second deposit runs between the first one's read and its balance
update. -/
def readBeforeDeposit : List (Event Bool AppError) :=
  List.replicate 4 (.run false) ++ List.replicate 7 (.run true) ++
    List.replicate 3 (.run false)

/-- One deposit after the other. -/
def inTurn : List (Event Bool AppError) :=
  List.replicate 7 (.run false) ++ List.replicate 7 (.run true)

theorem ledger_chains_inTurn :
    Traced depositsWorld ((starting depositsWorld depositCalls).run
      inTurn).state ∧
      ∀ event,
        ((starting depositsWorld depositCalls).run inTurn).Meets
        [.currentBalance] event →
        Faithful ((starting depositsWorld depositCalls).run inTurn).state
          (((starting depositsWorld depositCalls).run inTurn).step
            event).state :=
  ledger_chains depositsWorld depositCalls inTurn (by decide +kernel)

/-- Both deposits return.  The row of the second says it found 100 and left 110,
where the wallet held 105 and holds 115, so the ledger has a gap. -/
theorem audit_gap_between_deposits :
    (∀ id, (((starting depositsWorld depositCalls).run readBeforeDeposit).thread
      id).outcome? = some (.returned ())) ∧
    ¬ Traced depositsWorld
      ((starting depositsWorld depositCalls).run readBeforeDeposit).state := by
  refine ⟨by decide +kernel, ?_⟩
  rintro ⟨committed, ledger, chains⟩
  have first : (rowsAbout ⟨"a", .disbursement⟩
      ((starting depositsWorld depositCalls).run
        readBeforeDeposit).state.ledger).getLast?.map
        (fun row => (row.balanceAfter : Decimal)) = some 110 := by
          decide +kernel
  have balance :
    ((starting depositsWorld depositCalls).run readBeforeDeposit).state.balance
      ⟨"a", .disbursement⟩ = 115 := by decide +kernel
  have same :
    ((starting depositsWorld depositCalls).run readBeforeDeposit).state.ledger =
      committed := ledger
  rw [same] at first
  obtain ⟨row, last, after⟩ := Option.map_eq_some_iff.mp first
  have finish := (chains ⟨"a", .disbursement⟩).last last
  rw [balance] at finish
  rw [show auditEntries.after row = (row.balanceAfter : Decimal) from rfl,
    after] at finish
  norm_num at finish

end CloudStudio.Wallets
