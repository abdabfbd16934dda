import Mathlib.Data.List.TakeWhile
import CloudStudio.Billing.Model
import CloudStudio.Data.Pages
import CloudStudio.Transactions.Growth
import CloudStudio.Wallets.Pool
import CloudStudio.Wallets.Runs

/-!
# The ledger, page by page

`common/pagination.middleware.ts` and `WalletsService.getTransactions`.  A
client asks for one page after another until `totalPages` says that there are no
more, while any number of movements and transfers run.  New rows move the others
to later pages: a row may be shown twice, but no row of the ledger that was
there at the first page is passed over.
-/

namespace CloudStudio.Wallets

open CloudStudio.Data CloudStudio.Data.Pages CloudStudio.Transactions
open CloudStudio.Platform
open CloudStudio.Billing

/-- `parseInt(text, 10)`; `none` is `NaN`. -/
def parseInt (text : String) : Option ℤ :=
  let read (digits : List Char) : Option ℕ :=
    if digits = [] then none else some (Nat.ofDigitChars 10 digits 0)
  match text.toList.dropWhile Text.isTrimmed with
  | '-' :: rest => (read (rest.takeWhile Char.isDigit)).map fun value =>
      -(value : ℤ)
  | '+' :: rest => (read (rest.takeWhile Char.isDigit)).map fun value =>
      (value : ℤ)
  | rest => (read (rest.takeWhile Char.isDigit)).map fun value => (value : ℤ)

/-- `Math.max(1, parseInt(String(param ?? fallback), 10) || fallback)`. -/
def positiveParam (fallback : ℕ) (param : Option String) : ℕ :=
  let parsed := match param with
    | some text => (parseInt text).filter fun value => value ≠ 0
    | none => none
  (max 1 (parsed.getD fallback)).toNat

structure Pagination where
  page : ℕ
  limit : ℕ

def Pagination.skip (pagination : Pagination) : ℕ :=
  (pagination.page - 1) * pagination.limit

def paginationFrom (page limit : Option String) (maxLimit : ℕ) :
    Pagination where
  page := positiveParam 1 page
  limit := min maxLimit (positiveParam 20 limit)

/-- `Math.max(1, Math.ceil(total / limit))` -/
def totalPages (total limit : ℕ) : ℕ := max 1 ((total + limit - 1) / limit)

/-- The dates of a listing, if it has them. -/
structure LedgerFilter where
  fromDate : Option Time := none
  toDate : Option Time := none

def LedgerFilter.Admits (filter : LedgerFilter) (row : WalletTransaction) :
    Prop :=
  (∀ date ∈ filter.fromDate, date ≤ row.createdAt) ∧
    ∀ date ∈ filter.toDate, row.createdAt ≤ date

instance (filter : LedgerFilter) (row : WalletTransaction) :
    Decidable (filter.Admits row) :=
  inferInstanceAs (Decidable (_ ∧ _))

/-- The rows that a listing is about, in the order they were written. -/
def listed (wallet : WalletKey) (filter : LedgerFilter) (world : World) :
    List WalletTransaction :=
  world.ledger.filter fun row => row.walletId = wallet ∧ filter.Admits row

structure LedgerPage where
  items : List WalletTransaction
  total : ℕ
  wallet : Wallet

/-- The page and the count are two statements of one transaction. -/
def getTransactions (accountId : String) (type : WalletType)
    (filter : LedgerFilter) (pagination : Pagination) : Db LedgerPage := do
  let wallet ← getWallet accountId type
  Program.atomically "walletTransaction.page" do
    let items ← Body.perform (select "walletTransaction.findMany" fun world =>
      newestFirst WalletTransaction.createdAt pagination.skip pagination.limit
        (listed wallet.key filter world))
    let total ← Body.perform (select "walletTransaction.count" fun world =>
      (listed wallet.key filter world).length)
    pure { items, total, wallet }

/-- A listing as its client asks for it: the account, the wallet, and the
query. -/
structure Listing where
  accountId : String
  type : WalletType
  filter : LedgerFilter := {}
  limit : Option String := none

def Listing.pagination (listing : Listing) (page : ℕ) : Pagination :=
  paginationFrom (some (toString page)) listing.limit 100

/-- A client that asks for `page` and the pages after it, as long as
`totalPages` says that there are more; after so many pages it gives up. -/
def Listing.walk (listing : Listing) :
    ℕ → ℕ → Db (Option (List (List WalletTransaction)))
  | 0, _ => pure none
  | patience + 1, page => do
      let answer ← getTransactions listing.accountId listing.type listing.filter
        (listing.pagination page)
      if totalPages answer.total (listing.pagination page).limit ≤ page then
        pure (some [answer.items])
      else do
        let rest ← listing.walk patience (page + 1)
        pure (rest.map fun pages => answer.items :: pages)

theorem isTrimmed_of_isDigit {char : Char} (digit : char.isDigit) :
    Text.isTrimmed char = false := by
  have bounds : (48 : UInt32) ≤ char.val ∧ char.val ≤ 57 := by
    simpa [Char.isDigit] using digit
  simp only [UInt32.le_iff_toNat_le, UInt32.reduceToNat] at bounds
  simp only [Text.isTrimmed, List.mem_cons, List.not_mem_nil,
    or_false, ← UInt32.toNat_inj,
    UInt32.le_iff_toNat_le, UInt32.reduceToNat, decide_eq_false_iff_not]
  omega

/-- A number survives its way through the query. -/
theorem parseInt_toString (value : ℕ) :
    parseInt (toString value) = some (value : ℤ) := by
  have digits : (toString value).toList = Nat.toDigits 10 value := by
    rw [Nat.toString_eq_repr, Nat.toList_repr]
  have numeric {char : Char} (member : char ∈ Nat.toDigits 10 value) :
    char.isDigit :=
    Nat.isDigit_of_mem_toDigits (by decide) (by decide) member
  have whole : (Nat.toDigits 10 value).takeWhile Char.isDigit =
    Nat.toDigits 10 value :=
    List.takeWhile_eq_self_iff.mpr fun _ member => numeric member
  have read : Nat.ofDigitChars 10 (Nat.toDigits 10 value) 0 = value :=
    Nat.ofDigitChars_ten_toDigits
  unfold parseInt
  rw [digits]
  cases split : Nat.toDigits 10 value with
  | nil => exact absurd split Nat.toDigits_ne_nil
  | cons char rest =>
      have digit := numeric (split ▸ List.mem_cons_self)
      rw [split] at whole read
      rw [List.dropWhile_cons_of_neg (by simp [isTrimmed_of_isDigit digit])]
      split
      · rename_i sign
        cases sign
        simp at digit
      · rename_i sign
        cases sign
        simp at digit
      · simp [whole, read]

/-- The rows on a page of the listing. -/
def Listing.rows (listing : Listing) : ℕ :=
  min 100 (positiveParam 20 listing.limit)

theorem positiveParam_pos (fallback : ℕ) (param : Option String) :
    0 < positiveParam fallback param :=
  Int.lt_toNat.mpr (lt_max_of_lt_left (by decide))

theorem Listing.rows_pos (listing : Listing) : 0 < listing.rows :=
  Nat.lt_min.mpr ⟨by decide, positiveParam_pos 20 listing.limit⟩

/-- The page the client asks for is the page it gets. -/
theorem Listing.pagination_succ (listing : Listing) (number : ℕ) :
    listing.pagination (number + 1) = ⟨number + 1, listing.rows⟩ := by
  have asked : positiveParam 1 (some (toString (number + 1))) = number + 1 := by
    simp only [positiveParam, parseInt_toString, Option.filter]
    rw [if_pos (by simp; omega), Option.getD_some, max_eq_right (by omega),
      Int.toNat_natCast]
  simp only [Listing.pagination, paginationFrom, asked]
  rfl

/-- There are no more pages exactly when the pages so far hold every row. -/
theorem totalPages_le {total limit page : ℕ} (some_rows : 0 < limit)
    (some_page : 0 < page) :
    totalPages total limit ≤ page ↔ total ≤ page * limit := by
  rw [totalPages, max_le_iff,
    and_iff_right (Nat.succ_le_of_lt some_page), ← Nat.lt_succ_iff,
    Nat.div_lt_iff_lt_mul some_rows, Nat.succ_mul]
  omega

/-- Ledger rows are only added, and the accounts stay. -/
def ledgerGrowth : Growth World where
  grows := fun before after => before.ledger <+: after.ledger ∧
    after.accounts = before.accounts
  refl := fun _ => ⟨List.prefix_rfl, rfl⟩
  trans := fun first second => ⟨first.1.trans second.1, second.2.trans first.2⟩

/-- A statement that leaves the ledger and the accounts alone. -/
theorem grows_untouched {Answer : Type} {statement : Statement Answer}
    (ledger : ∀ met world, (statement.effect met world).ledger = world.ledger)
    (accounts : ∀ met world, (statement.effect met world).accounts =
      world.accounts) : statement.Grows ledgerGrowth :=
  fun met world => ⟨by rw [ledger], accounts met world⟩

theorem grows_createLedgerRow (site : Site) (row : WalletTransaction) :
    (createLedgerRow site row).Grows ledgerGrowth :=
  fun _ _ => ⟨List.prefix_append _ _, rfl⟩

theorem grows_decrementBalance (site : Site) (wallet : WalletKey)
    (delta : Decimal) :
    (decrementBalance site wallet delta).Grows ledgerGrowth := by
  refine grows_untouched ?_ ?_
  all_goals
    intro met world
    simp only [decrementBalance]
    split
    · split <;> rfl
    · rfl

theorem grows_moveTransaction (now : Time) (input : MoveInput) (wallet : Wallet)
    (amount : Decimal) :
    (moveTransaction now input wallet amount).Grows ledgerGrowth := by
  refine Body.Grows.bind (.perform (.idle fun _ _ => rfl)) fun current => ?_
  cases current with
  | none => exact trivial
  | some current =>
      dsimp only
      split
      · exact trivial
      · split
        · exact trivial
        · split
          · refine Body.Grows.bind
              (.perform
                (grows_decrementBalance "move.decrement" wallet.key |amount|))
              fun count => ?_
            split
            · exact trivial
            · exact .perform (grows_createLedgerRow _ _)
          · refine Body.Grows.bind
              (.perform (grows_untouched (fun _ _ => rfl) fun _ _ => rfl))
              fun _ => ?_
            exact .perform (grows_createLedgerRow _ _)

theorem grows_move (now : Time) (input : MoveInput) :
    (move now input).Grows ledgerGrowth := by
  unfold move
  split
  · exact trivial
  · exact trivial
  · split
    · exact trivial
    · refine Program.Grows.bind (grows_getWallet _ _) fun wallet => ?_
      split
      · exact trivial
      · exact .atomically (grows_moveTransaction _ _ _ _)

theorem grows_transferTransaction (now : Time) (plan : TransferPlan) :
    (transferTransaction now plan).Grows ledgerGrowth := by
  have written {Answer : Type} {statement : Statement Answer}
      (ledger : ∀ met world, (statement.effect met world).ledger = world.ledger)
      (accounts : ∀ met world, (statement.effect met world).accounts =
        world.accounts) : (Body.perform statement).Grows ledgerGrowth :=
    .perform (grows_untouched ledger accounts)
  have credit : (transferCredit now plan).Grows ledgerGrowth := by
    refine Body.Grows.bind (.perform (.idle fun _ _ => rfl)) fun target => ?_
    cases target with
    | none => exact trivial
    | some target =>
        dsimp only
        split
        · exact trivial
        · refine Body.Grows.bind (written (fun _ _ => rfl) fun _ _ => rfl)
            fun _ => ?_
          refine Body.Grows.bind (.perform (grows_createLedgerRow _ _))
            fun _ => ?_
          exact written (fun _ _ => rfl) fun _ _ => rfl
  refine Body.Grows.bind (.perform (.idle fun _ _ => rfl)) fun source => ?_
  cases source with
  | none => exact trivial
  | some source =>
      dsimp only
      split
      · exact trivial
      · split
        · exact trivial
        · refine Body.Grows.bind (.perform
            (grows_decrementBalance "transfer.debit" plan.source.key
              plan.totalDebit))
            fun count => ?_
          split
          · exact trivial
          · exact Body.Grows.bind (.perform (grows_createLedgerRow _ _))
              fun _ => credit

theorem grows_transfer (now : Time) (reference : Reference) (accountId : String)
    (dto : TransferInput) (actorId : Option String) :
    (transferCollectionToDisbursement now reference accountId dto actorId).Grows
      ledgerGrowth := by
  have priced (owner : AccountId) (source target : Wallet) :
      (transferAmount now reference owner source target dto actorId).Grows
        ledgerGrowth := by
    unfold transferAmount
    split
    · exact trivial
    · exact trivial
    · split
      · exact trivial
      · refine Program.Grows.bind ?_ fun fee =>
          .atomically (grows_transferTransaction _ _)
        exact Program.Grows.bind (grows_getConfig owner fun _ _ =>
          ⟨List.prefix_rfl, rfl⟩) fun _ => trivial
  refine Program.Grows.bind (grows_resolveAccountId accountId)
    fun resolved => ?_
  cases resolved with
  | none => exact trivial
  | some resolved =>
      refine Program.Grows.bind (grows_getWallet _ _) fun source => ?_
      refine Program.Grows.bind (grows_getWallet _ _) fun target => ?_
      split
      · exact trivial
      · split
        · exact trivial
        · split
          · exact priced resolved source target
          · refine Program.Grows.bind (.perform (.idle fun _ _ => rfl))
              fun dupe => ?_
            cases dupe with
            | some _ => exact trivial
            | none => exact priced resolved source target

theorem Call.grows (call : Call) : call.program.Grows ledgerGrowth := by
  cases call with
  | move now input => exact Program.Grows.bind (grows_move now input) fun _ =>
      trivial
  | transfer now reference accountId dto actorId =>
      exact Program.Grows.bind
        (grows_transfer now reference accountId dto actorId) fun _ => trivial

variable {listing : Listing} {key : WalletKey} {filter : LedgerFilter}
variable {before after past shown counted final : World} {number : ℕ}

theorem walletKeyOf_grown (grown : ledgerGrowth.grows before after)
    (accountId : String) (type : WalletType) :
    after.walletKeyOf accountId type = before.walletKeyOf accountId type := by
  simp only [World.walletKeyOf, World.resolve, grown.2]

theorem listed_sublist (key : WalletKey) (filter : LedgerFilter)
    (grown : ledgerGrowth.grows before after) :
    (listed key filter before).Sublist (listed key filter after) :=
  grown.1.sublist.filter _

theorem listed_congr (same : after.ledger = before.ledger) :
    listed key filter after = listed key filter before := by
  rw [listed, listed, same]

/-- No two rows of the listing carry the same time. -/
def Distinct (rows : List WalletTransaction) : Prop :=
  (rows.map WalletTransaction.createdAt).Nodup

instance (rows : List WalletTransaction) : Decidable (Distinct rows) :=
  inferInstanceAs (Decidable (List.Nodup _))

/-- The listing, newest first. -/
def newest (rows : List WalletTransaction) : List WalletTransaction :=
  rows.mergeSort fun first second => second.createdAt ≤ first.createdAt

theorem ahead_grown {row : WalletTransaction}
    (grown : ledgerGrowth.grows before after)
    (distinct : Distinct (listed key filter after))
    (ahead : Ahead listing.rows number (newest (listed key filter before))
      row) : Ahead listing.rows number (newest (listed key filter after)) row :=
  ahead.grow (mergeSort_sublist (listed_sublist _ _ grown) distinct)

/-- What the pages from `number` on have shown of the rows that were there at
`past`. -/
structure Listing.Walked (listing : Listing) (key : WalletKey) (number : ℕ)
    (past final : World) (pages : List (List WalletTransaction)) : Prop where
  bounded : ∀ items ∈ pages, items.length ≤ listing.rows
  real : ∀ row ∈ pages.flatten, row ∈ listed key listing.filter final
  complete : Distinct (listed key listing.filter final) → ∀ row,
    Ahead listing.rows number (newest (listed key listing.filter past)) row →
      row ∈ pages.flatten
  still : final.ledger = past.ledger →
    pages.flatten = (newest (listed key listing.filter past)).drop
      (number * listing.rows)

namespace Listing.Walked

/-- There is nothing left to show. -/
theorem nil
    (enough : (listed key listing.filter past).length ≤ number * listing.rows) :
    listing.Walked key number past past [] where
  bounded := by simp
  real := by simp
  complete := by
    intro _ row ahead
    have short : (newest (listed key listing.filter past)).length ≤
      number * listing.rows := by
      rwa [newest, List.length_mergeSort]
    exact (ahead.not_past short).elim
  still := by
    intro _
    rw [List.drop_eq_nil_of_le (by rwa [newest, List.length_mergeSort]),
      List.flatten_nil]

/-- One page, and then the others. -/
theorem cons {pages : List (List WalletTransaction)}
    (toShown : ledgerGrowth.grows past shown)
    (toCounted : ledgerGrowth.grows shown counted)
    (toFinal : ledgerGrowth.grows counted final)
    (rest : listing.Walked key (number + 1) counted final pages) :
    listing.Walked key number past final
      (page listing.rows number (newest (listed key listing.filter shown)) ::
        pages) where
  bounded := by
    rintro items (_ | ⟨_, member⟩)
    · exact List.length_take_le _ _
    · exact rest.bounded items member
  real := by
    intro row member
    rw [List.flatten_cons, List.mem_append] at member
    rcases member with here | there
    · have member :=
        List.mem_mergeSort.mp (List.mem_of_mem_drop (List.mem_of_mem_take here))
      exact (listed_sublist _ _ (ledgerGrowth.trans toCounted toFinal)).mem
        member
    · exact rest.real row there
  complete := by
    intro distinct row ahead
    have sooner {world : World} (grown : ledgerGrowth.grows world final) :
        Distinct (listed key listing.filter world) :=
      distinct.sublist ((listed_sublist _ _ grown).map _)
    have distinctShown := sooner (ledgerGrowth.trans toCounted toFinal)
    rw [List.flatten_cons, List.mem_append]
    rcases (ahead_grown toShown distinctShown ahead).turn with here | ahead
    · exact .inl here
    · exact .inr
        (rest.complete distinct row
        (ahead_grown toCounted (sooner toFinal) ahead))
  still := by
    intro same
    have countedSame : counted.ledger = past.ledger :=
      (toFinal.1.sublist.trans (by rw [same])).antisymm
        (ledgerGrowth.trans toShown toCounted).1.sublist
    have shownSame : shown.ledger = past.ledger :=
      (toCounted.1.sublist.trans (by rw [countedSame])).antisymm
        toShown.1.sublist
    rw [List.flatten_cons, rest.still (same.trans countedSame.symm),
      listed_congr countedSame,
      listed_congr shownSame, page, Nat.succ_mul, ← List.drop_drop,
        List.take_append_drop]

end Listing.Walked

/-- How a walk of so many pages from `number` on ends. -/
def Listing.Outcome (listing : Listing) (key : WalletKey) (patience number : ℕ)
    (past final : World) : Option (List (List WalletTransaction)) → Prop
  | none => patience = 0 ∨
      (number + patience) * listing.rows <
        (listed key listing.filter final).length
  | some pages => listing.Walked key number past final pages

variable {Id : Type} [DecidableEq Id] {id : Id} {now : World}

/-- Wherever the account is looked up, it is what it was. -/
theorem resolveAccountId_reads (accountId : String)
    (grown : ledgerGrowth.grows past now) :
    (resolveAccountId accountId).Safe
      (remembering RowKey Expectation ledgerGrowth) id
      (fun resolved ghost => resolved = past.resolve accountId ∧
        ∃ later, ghost = some later ∧ ledgerGrowth.grows past later)
      (fun _ _ => True) (some now) := by
  unfold resolveAccountId
  split
  · rename_i empty
    exact ⟨by rw [World.resolve, if_pos empty], now, rfl, grown⟩
  · rename_i named
    refine Program.Safe.observe (fun _ _ => rfl) ?_ fun _ => trivial
    intro first since byId answered
    have found : first.accounts.find? accountId = byId := Except.ok.inj answered
    have toFirst := ledgerGrowth.trans grown (since now rfl)
    rw [toFirst.2] at found
    cases byId with
    | some account =>
        exact ⟨by rw [World.resolve, if_neg named, found], first, rfl, toFirst⟩
    | none =>
        refine Program.Safe.observe (fun _ _ => rfl) ?_ fun _ => trivial
        intro second since byPublic answered
        cases answered
        have toSecond := ledgerGrowth.trans toFirst (since first rfl)
        refine ⟨?_, second, rfl, toSecond⟩
        dsimp only
        rw [World.resolve, if_neg named, found, toSecond.2]

theorem getWallet_reads (accountId : String) (type : WalletType) (now : World) :
    (getWallet accountId type).Safe
      (remembering RowKey Expectation ledgerGrowth) id
      (fun wallet ghost => wallet.key = now.walletKeyOf accountId type ∧
        ∃ later, ghost = some later ∧ ledgerGrowth.grows now later)
      (fun _ _ => True) (some now) := by
  refine Program.Safe.andThen
    (resolveAccountId_reads accountId (ledgerGrowth.refl now)) ?_
  rintro resolved ghost ⟨rfl, later, rfl, grown⟩
  refine Program.Safe.observe (fun _ _ => rfl) ?_ fun _ => trivial
  intro last since wallet answered
  have found := Except.ok.inj answered
  cases wallet with
  | none => exact trivial
  | some wallet =>
      exact ⟨Table.key_of_find? found, last, rfl,
        ledgerGrowth.trans grown (since later rfl)⟩

/-- The rows of a page are those of one moment, and their number is that of a
later one. -/
theorem getTransactions_reads (listing : Listing) (number : ℕ) (now : World)
    (keyed : now.walletKeyOf listing.accountId listing.type = key) :
    (getTransactions listing.accountId listing.type listing.filter
      (listing.pagination (number + 1))).Safe
      (remembering RowKey Expectation ledgerGrowth) id
      (fun answer ghost => ∃ shown counted, ghost = some counted ∧
        ledgerGrowth.grows now shown ∧ ledgerGrowth.grows shown counted ∧
        answer.items =
          page listing.rows number (newest (listed key listing.filter shown)) ∧
        answer.total = (listed key listing.filter counted).length)
      (fun _ _ => True) (some now) := by
  rw [listing.pagination_succ]
  refine Program.Safe.andThen
    (getWallet_reads listing.accountId listing.type now) ?_
  rintro wallet ghost ⟨own, later, rfl, grown⟩
  rw [keyed] at own
  refine ⟨?_, fun _ => trivial⟩
  refine Body.Safe.observe (fun _ _ => rfl) ?_ fun _ => trivial
  intro shown since items answered
  cases answered
  refine Body.Safe.observe (fun _ _ => rfl) ?_ fun _ => trivial
  intro counted sinceShown total answered
  cases answered
  refine CommitSafe.unwritten ?_ fun _ => trivial
  rw [own]
  exact ⟨shown, counted, rfl, ledgerGrowth.trans grown (since later rfl),
    sinceShown shown rfl, rfl, rfl⟩

/-- A walk from any page on, by induction on the pages it may still ask for. -/
theorem walk_reads (listing : Listing) (patience number : ℕ) (now : World)
    (keyed : now.walletKeyOf listing.accountId listing.type = key) :
    (listing.walk patience (number + 1)).Safe
      (remembering RowKey Expectation ledgerGrowth) id
      (fun result ghost => ∃ final, ghost = some final ∧
        ledgerGrowth.grows now final ∧
        listing.Outcome key patience number now final result)
      (fun _ _ => True) (some now) := by
  induction patience generalizing number now with
  | zero => exact ⟨now, rfl, ledgerGrowth.refl now, .inl rfl⟩
  | succ patience ih =>
      refine Program.Safe.andThen
        (getTransactions_reads listing number now keyed) ?_
      rintro answer ghost ⟨shown, counted, rfl, toShown, toCounted, items,
        total⟩
      have toNow := ledgerGrowth.trans toShown toCounted
      rw [listing.pagination_succ, items, total]
      split
      · rename_i enough
        rw [totalPages_le listing.rows_pos number.succ_pos] at enough
        exact ⟨counted, rfl, toNow,
          .cons toShown toCounted (ledgerGrowth.refl counted) (.nil enough)⟩
      · rename_i more
        rw [totalPages_le listing.rows_pos number.succ_pos] at more
        have next :=
          ih (number + 1) counted ((walletKeyOf_grown toNow _ _).trans keyed)
        refine Program.Safe.andThen next ?_
        rintro result ghost ⟨final, rfl, toFinal, outcome⟩
        refine ⟨final, rfl, ledgerGrowth.trans toNow toFinal, ?_⟩
        cases result with
        | none =>
            have grown := (listed_sublist key listing.filter toFinal).length_le
            refine .inr ?_
            rcases outcome with rfl | outcome
            · exact (not_le.mp more).trans_le grown
            · rwa [show number + (patience + 1) =
                number + 1 + patience by omega]
        | some pages => exact .cons toShown toCounted toFinal outcome

/-! ## In any interleaving -/

/-- A client that walks through a listing, or a call of the wallet service. -/
inductive Visitor where
  | client (listing : Listing) (patience : ℕ)
  | call (call : Call)

def Visitor.program : Visitor → Db (Option (List (List WalletTransaction)))
  | .client listing patience => listing.walk patience 1
  | .call asked => do
      asked.program
      pure none

/-- What a visitor has once it has ended. -/
def Visitor.Ended (start final : World) :
    Visitor → Option (List (List WalletTransaction)) → Prop
  | .client listing patience, result => ∃ left, ledgerGrowth.grows start left ∧
      ledgerGrowth.grows left final ∧
      listing.Outcome (start.walletKeyOf listing.accountId listing.type)
        patience 0 start left result
  | .call _, _ => True

/-- The visitors, none of which has run a statement yet. -/
def visiting (world : World) (visitors : Id → Visitor) :
    Config Id World RowKey Expectation Site AppError
      (Option (List (List WalletTransaction))) :=
  Config.start world fun id => (visitors id).program

theorem visitor_ended (world : World) (visitors : Id → Visitor)
    (schedule : List (Event Id AppError))
    {result : Option (List (List WalletTransaction))}
    (ended : (((visiting world visitors).run schedule).thread id).outcome? =
      some (.returned result)) :
    (visitors id).Ended world ((visiting world visitors).run schedule).state
      result := by
  let post (id : Id) (result : Option (List (List WalletTransaction)))
      (ghost : Option World) : Prop :=
    ∀ final, (∀ past ∈ ghost, ledgerGrowth.grows past final) →
      (visitors id).Ended world final result
  have sound : Config.Sound (remembering RowKey Expectation ledgerGrowth) post
      (fun _ _ _ => True) (visiting world visitors) := by
    refine ⟨fun _ => some world, ?_, fun id => ?_⟩
    · rintro other past ⟨⟩
      exact ledgerGrowth.refl world
    · change ((visitors id).program).Safe _ id (post id) _ (some world)
      cases visitor : visitors id with
      | client listing patience =>
          refine (walk_reads listing patience 0 world rfl).mono ?_
            fun _ _ thrown => thrown
          rintro result ghost ⟨left, rfl, grown, outcome⟩ final later
          rw [visitor]
          exact ⟨left, grown, later left rfl, outcome⟩
      | call call =>
          have keeps : (Visitor.call call).program.Grows ledgerGrowth :=
            Program.Grows.bind call.grows fun _ => trivial
          refine (keeps.safe (some world)).mono ?_ fun _ _ thrown => thrown
          intro result ghost _ final later
          rw [visitor]
          trivial
  obtain ⟨held, kept, ends⟩ :=
    (sound.run schedule (Config.asExpected_nil _ schedule)).ended
  exact (ends id).1 result ended _ (kept id)

/-- A client that follows `totalPages` while any number of movements and
transfers run, and fail: every page is within its limit and shows rows of the
wallet only.  If no two rows carry the same time, every row that was there at
the start is on some page, and if besides nothing was added, the pages put
together are the listing, newest first.  A client that gives up has been
overtaken: there are more rows than the pages it was ready to read. -/
theorem ledger_walk (world : World) (visitors : Id → Visitor)
    (schedule : List (Event Id AppError)) (id : Id) (listing : Listing)
    (patience : ℕ) (client : visitors id = .client listing patience)
    (result : Option (List (List WalletTransaction)))
    (ended : (((visiting world visitors).run schedule).thread id).outcome? =
      some (.returned result)) :
    let key := world.walletKeyOf listing.accountId listing.type
    let final := ((visiting world visitors).run schedule).state
    (result = none → patience = 0 ∨
      patience * listing.rows < (listed key listing.filter final).length) ∧
    ∀ pages ∈ result,
      (∀ items ∈ pages, items.length ≤ listing.rows) ∧
      (∀ row ∈ pages.flatten, row ∈ listed key listing.filter final) ∧
      (Distinct (listed key listing.filter final) →
        ∀ row ∈ listed key listing.filter world, row ∈ pages.flatten) ∧
      (Distinct (listed key listing.filter final) →
        final.ledger = world.ledger →
        pages.flatten = newest (listed key listing.filter world)) := by
  intro key final
  have outcome := visitor_ended world visitors schedule ended
  rw [client] at outcome
  obtain ⟨left, grown, later, outcome⟩ := outcome
  have more := listed_sublist key listing.filter later
  refine ⟨?_, ?_⟩
  · rintro rfl
    rcases outcome with none_asked | overtaken
    · exact .inl none_asked
    · rw [zero_add] at overtaken
      exact .inr (overtaken.trans_le more.length_le)
  · rintro pages rfl
    refine ⟨outcome.bounded, fun row member =>
      more.mem (outcome.real row member), ?_, ?_⟩
    · intro distinct row member
      refine outcome.complete (distinct.sublist (more.map _)) row
        (ahead_first ?_)
      exact List.mem_mergeSort.mpr member
    · intro _ same
      have leftSame : left.ledger = world.ledger :=
        (later.1.sublist.trans (by rw [same])).antisymm grown.1.sublist
      rw [outcome.still leftSame, zero_mul, List.drop_zero]

/-- Two credits have been written; a third comes while the client reads. -/
def creditedWorld : World where
  accounts :=
    Table.empty.insert { id := "a", accountId := "ACC-1"
                         sourceCode := "AAAAA" }
  wallets :=
    Table.empty.insert { key := ⟨"a", .collection⟩, balance := Money.round 30 }
  ledger := [creditRow 1, creditRow 2]
where
  creditRow (time : Time) : WalletTransaction :=
    { walletId := ⟨"a", .collection⟩, type := .collectionCredit
      amount := Money.round 15
      balanceBefore := Money.round 0, balanceAfter := Money.round 15,
        currency := "TZS"
      reference := none, description := "credit", createdBy :=
        none, createdAt := time }

def pageByPage : Listing where
  accountId := "ACC-1"
  type := .collection
  limit := some "1"

def overtaking : Bool → Visitor
  | false => .client pageByPage 5
  | true => .call (.move 3 { accountId := "a", type := .collection, txType := .collectionCredit
                             amount := .value 5, description := "credit" })

/-- The third credit commits after the first page. -/
def creditMeanwhile : List (Event Bool AppError) :=
  List.replicate 7 (.run false) ++ List.replicate 9 (.run true) ++
    List.replicate 14 (.run false)

theorem ledger_walk_overtaking : ∃ pages : List (List WalletTransaction),
    (((visiting creditedWorld overtaking).run creditMeanwhile).thread
      false).outcome? = some (.returned (some pages)) ∧ pages.length = 3 ∧
    ∀ row ∈ creditedWorld.ledger, row ∈ pages.flatten := by
  -- how many pages there are is decided without sorting them
  have three : Option.elim
      (((visiting creditedWorld overtaking).run creditMeanwhile).thread
        false).outcome? 0
      (Outcome.rec (fun result => result.elim 0 List.length) (fun _ => 0) 0) = 3 := by
    decide +kernel
  cases ended :
      (((visiting creditedWorld overtaking).run creditMeanwhile).thread
        false).outcome? with
  | none =>
      rw [ended] at three
      cases three
  | some outcome =>
      rw [ended] at three
      rcases outcome with (_ | pages) | _ | _
      · cases three
      · have walked := ledger_walk creditedWorld overtaking creditMeanwhile
          false pageByPage 5
          rfl (some pages) ended
        have whole : listed ⟨"a", .collection⟩ {} creditedWorld = creditedWorld.ledger := by
          decide +kernel
        have shown := (walked.2 pages rfl).2.2.1 (by decide +kernel)
        exact ⟨pages, rfl, three, fun row member => shown row (whole ▸ member)⟩
      · cases three
      · cases three

end CloudStudio.Wallets
