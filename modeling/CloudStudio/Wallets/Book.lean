import CloudStudio.Wallets.Model

/-!
# The book of wallets

What the wallet service is for, without its statements: a book holds the wallets
and the ledger, and changes by postings.  A posting moves one balance and adds
one ledger row.  An invariant of the book that every valid posting keeps is kept
by every commit of distinct postings.
-/

namespace CloudStudio.Wallets

open CloudStudio.Data CloudStudio.Platform

/-- The tables a movement writes. -/
structure Book where
  wallets : Table Wallet.key
  ledger : List WalletTransaction

/-- The three ways the code writes a balance. -/
inductive Movement where
  | decrement (delta : Decimal)
  | increment (delta : Decimal)
  | overwrite (before : Money) (delta : Decimal)

/-- What a movement adds to the ledger. -/
def Movement.signed : Movement → Decimal
  | .decrement delta => -delta
  | .increment delta => delta
  | .overwrite _ delta => delta

/-- The balance a movement leaves, from the balance it finds. -/
def Movement.after (found : Money) : Movement → Money
  | .decrement delta => Money.round (found - delta)
  | .increment delta => Money.round (found + delta)
  | .overwrite before delta => Money.round (before + delta)

/-- One movement of the wallet row `found`, with its ledger row. -/
structure Posting where
  found : Wallet
  movement : Movement
  row : WalletTransaction

variable (assumed : List Expectation) (seen : Money → Prop) (ignores : Prop)

/-- What the code ensures of a movement at the balance it finds.  A balance that
is written over was read before, when it satisfied `seen`. -/
def Movement.Allowed (found : Money) : Movement → Prop
  | .decrement delta =>
      0 ≤ delta ∧ delta ≤ found ∧ (.exactColumn ∈ assumed →
        (Money.round (found - delta) : Decimal) = found + Money.round (-delta))
  | .increment delta =>
      0 ≤ delta ∧ (.exactColumn ∈ assumed →
        (Money.round (found + delta) : Decimal) = found + Money.round delta)
  | .overwrite before delta =>
      0 ≤ delta ∧ seen before ∧
        (.overwrittenBalance ∈ assumed → found = before) ∧
        (.exactColumn ∈ assumed →
          (Money.round (before + delta) : Decimal) = before + Money.round delta)

/-- What the code ensures of a posting.  `ignores` says whether its call may
move a frozen wallet. -/
structure Posting.Valid (posting : Posting) : Prop where
  wallet : posting.row.walletId = posting.found.key
  amount : posting.row.amount = Money.round posting.movement.signed
  allowed : posting.movement.Allowed assumed seen posting.found.balance
  before : .currentBalance ∈ assumed → posting.row.balanceBefore =
    posting.found.balance
  after : posting.row.balanceAfter =
    posting.movement.after posting.row.balanceBefore
  active : .currentStatus ∈ assumed → ignores ∨ posting.found.status ≠ .frozen

namespace Book

def balance (book : Book) (wallet : WalletKey) : Decimal :=
  ((book.wallets.find? wallet).map fun row => (row.balance : Decimal)).getD 0

def ledgerSum (book : Book) (wallet : WalletKey) : Decimal :=
  amountsOn book.ledger wallet

/-- Write the balance and the ledger row of a posting. -/
def post (book : Book) (posting : Posting) : Book where
  wallets := book.wallets.modify posting.found.key
    (fun row =>
      { row with balance := posting.movement.after posting.found.balance })
    fun _ => rfl
  ledger := book.ledger ++ [posting.row]

def commit (book : Book) (postings : List Posting) : Book :=
  postings.foldl post book

/-- The postings move distinct wallets, each found as the posting says. -/
def Finds (book : Book) (postings : List Posting) : Prop :=
  (postings.map fun posting => posting.found.key).Nodup ∧
    ∀ posting ∈ postings, book.wallets.find? posting.found.key =
      some posting.found

variable {assumed seen ignores} {book : Book} {posting : Posting}
  {postings : List Posting}

@[simp] theorem commit_nil : book.commit [] = book := rfl

@[simp] theorem commit_cons :
    book.commit (posting :: postings) = (book.post posting).commit postings :=
      rfl

theorem find?_post_ne {wallet : WalletKey}
    (differ : wallet ≠ posting.found.key) :
    (book.post posting).wallets.find? wallet = book.wallets.find? wallet := by
  simp only [post, Table.find?_modify_ne differ]

theorem mem_post {row : Wallet}
    (finds : book.wallets.find? posting.found.key = some posting.found)
    (member : row ∈ (book.post posting).wallets.rows) :
    row = { posting.found with
      balance := posting.movement.after posting.found.balance } ∨
      row ∈ book.wallets.rows := by
  simp only [post] at member
  exact Table.mem_modify finds member

theorem find?_commit_ne {wallet : WalletKey}
    (apart : ∀ posting ∈ postings, wallet ≠ posting.found.key) :
    (book.commit postings).wallets.find? wallet =
      book.wallets.find? wallet := by
  induction postings generalizing book with
  | nil => rfl
  | cons posting rest ih =>
      rw [commit_cons, ih fun other member =>
        apart other (List.mem_cons_of_mem _ member)]
      exact find?_post_ne (apart posting List.mem_cons_self)

theorem ledger_commit :
    (book.commit postings).ledger = book.ledger ++ postings.map
      Posting.row := by
  induction postings generalizing book with
  | nil => simp
  | cons posting rest ih => simp [ih, post]

theorem balance_post
    (finds : book.wallets.find? posting.found.key = some posting.found)
    (wallet : WalletKey) :
    (book.post posting).balance wallet =
      if wallet = posting.found.key then
        (posting.movement.after posting.found.balance : Decimal)
      else book.balance wallet := by
  unfold balance post
  rw [Table.find?_modify]
  split
  · rename_i same
    rw [same, finds]
    rfl
  · rfl

theorem ledgerSum_post (wallet : WalletKey) :
    (book.post posting).ledgerSum wallet =
      book.ledgerSum wallet +
        if posting.row.walletId =
          wallet then (posting.row.amount : Decimal) else 0 := by
  unfold ledgerSum post
  rw [amountsOn_append]
  by_cases same : posting.row.walletId = wallet <;> simp [amountsOn, same]

/-- The rest of the postings still find their wallets after the first. -/
theorem Finds.tail (finds : book.Finds (posting :: postings)) :
    (book.post posting).Finds postings := by
  obtain ⟨distinct, found⟩ := finds
  rw [List.map_cons, List.nodup_cons] at distinct
  refine ⟨distinct.2, fun other member => ?_⟩
  have differ : other.found.key ≠ posting.found.key := fun equal =>
    distinct.1 (equal ▸ List.mem_map_of_mem member)
  rw [find?_post_ne differ]
  exact found other (List.mem_cons_of_mem _ member)

end Book

/-- A property of the book that every valid posting keeps. -/
structure BookInvariant where
  assumed : List Expectation
  seen : Money → Prop
  holds : Book → Prop
  seen_of_holds : ∀ {book wallet row}, holds book →
    book.wallets.find? wallet = some row → seen row.balance
  holds_post : ∀ {book ignores} {posting : Posting}, holds book →
    posting.Valid assumed seen ignores →
    book.wallets.find? posting.found.key = some posting.found →
    holds (book.post posting)

theorem BookInvariant.holds_commit (invariant : BookInvariant) {book : Book}
    {ignores : Prop} {postings : List Posting} (holds : invariant.holds book)
    (valid : ∀ posting ∈ postings,
      posting.Valid invariant.assumed invariant.seen ignores)
    (finds : book.Finds postings) : invariant.holds (book.commit postings) := by
  induction postings generalizing book with
  | nil => exact holds
  | cons posting rest ih =>
      rw [Book.commit_cons]
      refine ih ?_ (fun other member =>
        valid other (List.mem_cons_of_mem _ member)) finds.tail
      exact invariant.holds_post holds (valid posting List.mem_cons_self)
        (finds.2 posting List.mem_cons_self)

/-- With the balances found as they were read and rounded like the amounts, a
posting moves the balance by the amount of its row. -/
theorem Posting.Valid.after_eq {posting : Posting}
    (valid : posting.Valid assumed seen ignores)
    (current : .overwrittenBalance ∈ assumed)
    (exact_ : .exactColumn ∈ assumed) :
    (posting.movement.after posting.found.balance : Decimal) =
      posting.found.balance + posting.row.amount := by
  obtain ⟨found, movement, row⟩ := posting
  have allowed := valid.allowed
  rw [valid.amount]
  cases movement with
  | decrement delta => exact allowed.2.2 exact_
  | increment delta => exact allowed.2 exact_
  | overwrite before delta =>
      obtain ⟨_, _, same, rounded⟩ := allowed
      simp only at same ⊢
      rw [same current]
      exact rounded exact_

/-- Every balance is what it was at the start plus the ledger rows since. -/
def conservation (start : Book) : BookInvariant where
  assumed := [.overwrittenBalance, .exactColumn]
  seen := fun _ => True
  holds := fun book => ∀ wallet,
    book.balance wallet - book.ledgerSum wallet =
      start.balance wallet - start.ledgerSum wallet
  seen_of_holds := fun _ _ => trivial
  holds_post := by
    intro book ignores posting holds valid finds wallet
    have moved := valid.after_eq _ _ _ (by simp) (by simp)
    have before := holds wallet
    rw [Book.balance_post finds, Book.ledgerSum_post, valid.wallet, ← before]
    by_cases same : wallet = posting.found.key
    · subst same
      have found : book.balance posting.found.key = posting.found.balance := by
        rw [Book.balance, finds]
        rfl
      rw [if_pos rfl, if_pos rfl, moved, found]
      ring
    · rw [if_neg same, if_neg (Ne.symm same), add_zero]

/-- The floor of a movement: it never leaves less than nothing. -/
theorem Posting.Valid.after_nonneg {posting : Posting}
    (valid : posting.Valid assumed (fun balance => 0 ≤ (balance : Decimal))
      ignores) (nonneg : 0 ≤ (posting.found.balance : Decimal)) :
    0 ≤ (posting.movement.after posting.found.balance : Decimal) := by
  obtain ⟨found, movement, row⟩ := posting
  have allowed := valid.allowed
  cases movement with
  | decrement delta =>
      exact Decimal.toFixed_nonneg (by linarith [allowed.2.1])
  | increment delta =>
      exact Decimal.toFixed_nonneg (add_nonneg nonneg allowed.1)
  | overwrite before delta =>
      exact Decimal.toFixed_nonneg (add_nonneg allowed.2.1 allowed.1)

/-- Every balance is zero or more. -/
def floor : BookInvariant where
  assumed := []
  seen := fun balance => 0 ≤ (balance : Decimal)
  holds := fun book => ∀ row ∈ book.wallets.rows, 0 ≤ (row.balance : Decimal)
  seen_of_holds := fun holds found => holds _ (Table.mem_of_find? found)
  holds_post := by
    intro book ignores posting holds valid finds row member
    rcases Book.mem_post finds member with rfl | kept
    · exact valid.after_nonneg _ _ (holds _ (Table.mem_of_find? finds))
    · exact holds row kept

/-- A row that takes money was covered by the balance its posting found. -/
theorem Posting.Valid.covered {posting : Posting}
    (valid : posting.Valid assumed seen ignores)
    (debit : (posting.row.amount : Decimal) < 0) :
    0 ≤ (posting.found.balance : Decimal) + posting.row.amount := by
  obtain ⟨found, movement, row⟩ := posting
  have allowed := valid.allowed
  rw [valid.amount] at debit ⊢
  cases movement with
  | decrement delta =>
      have rounded := Decimal.toFixed_mono 2 allowed.2.1
      simp only [Movement.signed, Money.coe_round, Decimal.toFixed_neg,
        Decimal.toFixed_of_hasPlaces found.balance.property] at rounded ⊢
      linarith
  | increment delta =>
      exact absurd debit (not_lt.mpr (Decimal.toFixed_nonneg allowed.1))
  | overwrite before delta =>
      exact absurd debit (not_lt.mpr (Decimal.toFixed_nonneg allowed.1))

end CloudStudio.Wallets
