import CloudStudio.Admin.Computations
import Mathlib.Data.List.TakeWhile

/-!
# What the review of a range reports

The calls of the wallet service have increasing times, so the balance of a
wallet at an instant is the balance after the calls up to it.  The review of a
range that ends before the last movement compares the past with the present.
-/

namespace CloudStudio.Wallets

open CloudStudio.Data CloudStudio.Transactions CloudStudio.Platform

/-- The instant a call writes its ledger rows at. -/
def SequentialCall.time? : SequentialCall → Option Time
  | .move now _ => some now
  | .transfer now .. => some now
  | .setFrozen .. => none

/-- Each movement comes after the one before it, at a time of its own. -/
def OneAfterAnother (calls : List SequentialCall) : Prop :=
  (calls.filterMap SequentialCall.time?).Pairwise (· < ·)

/-- The state after the first calls, as long as their times are within a
bound. -/
def runWhile (within : Time → Bool) (calls : List SequentialCall)
    (world : World) : World :=
  runAll (calls.takeWhile fun call => call.time?.all within) world

theorem runAll_append (first second : List SequentialCall) (world : World) :
    runAll (first ++ second) world = runAll second (runAll first world) :=
  List.foldl_append

theorem rowsOf_of_ledger {before after : World}
    (same : after.ledger = before.ledger) (wallet : WalletKey) :
    after.rowsOf wallet = before.rowsOf wallet := by
  rw [World.rowsOf, World.rowsOf, same]

/-- The call adds at most one row to the wallet, at its own time. -/
def SequentialCall.AddsOne (call : SequentialCall) (wallet : WalletKey)
    (before after : World) : Prop :=
  ∃ added : Option WalletTransaction,
    after.rowsOf wallet = before.rowsOf wallet ++ added.toList ∧
      ∀ row ∈ added, call.time? = some row.createdAt

theorem SequentialCall.AddsOne.of_ledger (call : SequentialCall)
    (wallet : WalletKey) {before after : World}
    (same : after.ledger = before.ledger) :
    call.AddsOne wallet before after := by
  refine ⟨none, ?_, by simp⟩
  rw [rowsOf_of_ledger same, Option.toList_none, List.append_nil]

theorem move_addsOne (now : Time) (input : MoveInput) (world : World)
    (wallet : WalletKey) :
    (SequentialCall.move now input).AddsOne wallet world
      ((SequentialCall.move now input).program.run world).2 := by
  simp only [SequentialCall.program, Program.run_bind]
  by_cases allowed : ∃ wallet amount, MoveAllowed input world wallet amount
  · obtain ⟨found, amount, allowed⟩ := allowed
    let row := moveRow now input found amount found.balance
    refine ⟨if row.walletId = wallet then some row else none, ?_, ?_⟩
    · rw [run_move now allowed]
      refine (rowsOf_record world row wallet).trans ?_
      split <;> rfl
    · intro written member
      split at member
      · cases member
        rfl
      · cases member
  · push Not at allowed
    obtain ⟨error, refused⟩ := run_move_refused now allowed
    rw [refused]
    exact .of_ledger _ wallet rfl

/-- The two legs are rows of two wallets. -/
theorem transferred_addsOne {now : Time} {reference : Reference}
    {accountId : String} {dto : TransferInput} {actorId : Option String}
    {plan : TransferPlan} {world left : World}
    (same : left.ledger = world.ledger)
    (apart : plan.target.key ≠ plan.source.key) (wallet : WalletKey) :
    (SequentialCall.transfer now reference accountId dto actorId).AddsOne wallet
      world (transferred now plan left) := by
  let out := plan.outRow now plan.source.balance
  let into := plan.inRow now plan.target.balance
  have rows : (transferred now plan left).rowsOf wallet =
      world.rowsOf wallet ++ (if out.walletId = wallet then [out] else []) ++
        if into.walletId = wallet then [into] else [] := by
    rw [← rowsOf_of_ledger same wallet, ← rowsOf_record, ← rowsOf_record]
    rfl
  refine ⟨if out.walletId = wallet then some out
    else if into.walletId = wallet then some into else none, ?_, ?_⟩
  · refine rows.trans ?_
    by_cases leaves : out.walletId = wallet
    · rw [if_pos leaves, if_pos leaves, if_neg (leaves ▸ apart),
        List.append_nil]
      rfl
    · rw [if_neg leaves, if_neg leaves, List.append_nil]
      split <;> rfl
  · intro written member
    split at member
    · cases member
      rfl
    · split at member
      · cases member
        rfl
      · cases member

/-- A call writes at most one row for a wallet, at its own time. -/
theorem rowsOf_call (call : SequentialCall) (world : World)
    (wallet : WalletKey) :
    call.AddsOne wallet world (call.program.run world).2 := by
  cases call with
  | move now input => exact move_addsOne now input world wallet
  | transfer now reference accountId dto actorId =>
      simp only [SequentialCall.program, Program.run_bind]
      rcases run_transfer now reference accountId dto actorId world with
        ⟨error, left, same, refused⟩ | ⟨plan, left, same, fits, value, covered,
          done⟩
      · rw [refused]
        exact .of_ledger _ wallet same.ledger
      · rw [done]
        obtain ⟨sourceKey, targetKey⟩ := fits.keys
        apply transferred_addsOne same.ledger
        rw [sourceKey, targetKey]
        simp
  | setFrozen accountId type frozen =>
      simp only [SequentialCall.program, Program.run_bind]
      rcases run_setFrozen accountId type frozen world with
        ⟨error, refused⟩ | ⟨found, status, _, done⟩
      · rw [refused]
        exact .of_ledger _ wallet rfl
      · rw [done]
        exact .of_ledger _ wallet rfl

/-- The rows of a run carry times of its calls, in their order. -/
theorem rowsOf_runAll (calls : List SequentialCall) (world : World)
    (wallet : WalletKey) :
    ∃ added, (runAll calls world).rowsOf wallet = world.rowsOf wallet ++ added ∧
      (added.map WalletTransaction.createdAt).Sublist
        (calls.filterMap SequentialCall.time?) := by
  induction calls generalizing world with
  | nil => exact ⟨[], (List.append_nil _).symm, .slnil⟩
  | cons call rest ih =>
      obtain ⟨written, one, timed⟩ := rowsOf_call call world wallet
      obtain ⟨added, rows, sublist⟩ := ih (call.program.run world).2
      refine ⟨written.toList ++ added, ?_, ?_⟩
      · change (runAll rest (call.program.run world).2).rowsOf wallet = _
        rw [rows, one, List.append_assoc]
      · cases written with
        | none =>
            rw [Option.toList_none, List.nil_append]
            apply sublist.trans
            cases time : call.time? with
            | none => rw [List.filterMap_cons_none time]
            | some _ => simp [time]
        | some row =>
            rw [List.filterMap_cons_some (timed row rfl)]
            exact sublist.cons_cons row.createdAt

/-- The calls left out are made after the bound. -/
theorem times_dropWhile {calls : List SequentialCall}
    (sequential : OneAfterAnother calls) {within : Time → Bool}
    (closed : ∀ earlier later, earlier < later → within later = true →
      within earlier = true) :
    ∀ time ∈ (calls.dropWhile fun call => call.time?.all within).filterMap
      SequentialCall.time?, within time = false := by
  induction calls with
  | nil => simp
  | cons call rest ih =>
      unfold OneAfterAnother at sequential
      cases timed : call.time? with
      | none =>
          rw [List.filterMap_cons_none timed] at sequential
          simp only [List.dropWhile_cons, timed, Option.all_none, if_true]
          exact ih sequential
      | some now =>
          rw [List.filterMap_cons_some timed, List.pairwise_cons] at sequential
          simp only [List.dropWhile_cons, timed, Option.all_some]
          cases first : within now with
          | true =>
              simp only [if_true]
              exact ih sequential.2
          | false =>
              simp only [Bool.false_eq_true, if_false,
                List.filterMap_cons_some timed,
                List.forall_mem_cons, first, true_and]
              intro later member
              by_contra isWithin
              have earlier := closed now later (sequential.1 later member)
                (Bool.of_not_eq_false isWithin)
              rw [first] at earlier
              cases earlier

theorem times_takeWhile (calls : List SequentialCall) (within : Time → Bool) :
    ∀ time ∈ (calls.takeWhile fun call => call.time?.all within).filterMap
      SequentialCall.time?, within time = true := by
  intro time member
  obtain ⟨call, taken, timed⟩ := List.mem_filterMap.mp member
  have all := List.mem_takeWhile_imp taken
  rw [timed] at all
  exact all

section Fresh

variable {world : World} {wallet : WalletKey} {calls : List SequentialCall}
  (unused : world.rowsOf wallet = []) (sequential : OneAfterAnother calls)

include unused sequential

theorem rowsOf_sorted : ((runAll calls world).rowsOf wallet).Pairwise
    fun row later => row.createdAt < later.createdAt := by
  obtain ⟨added, rows, sublist⟩ := rowsOf_runAll calls world wallet
  rw [rows, unused, List.nil_append, ← List.pairwise_map]
  exact sequential.sublist sublist

/-- The rows up to a bound are those of the calls up to it. -/
theorem rowsOf_runWhile {within : Time → Bool}
    (closed : ∀ earlier later, earlier < later → within later = true →
      within earlier = true) :
    (runWhile within calls world).rowsOf wallet =
      ((runAll calls world).rowsOf wallet).filter fun row =>
        within row.createdAt := by
  obtain ⟨early, earlyRows, earlyTimes⟩ := rowsOf_runAll
    (calls.takeWhile fun call => call.time?.all within) world wallet
  obtain ⟨late, lateRows, lateTimes⟩ := rowsOf_runAll
    (calls.dropWhile fun call => call.time?.all within)
      (runWhile within calls world) wallet
  have all : (runAll calls world).rowsOf wallet = early ++ late := by
    rw [← List.takeWhile_append_dropWhile (p := fun call : SequentialCall =>
      call.time?.all within) (l := calls), runAll_append]
    refine lateRows.trans ?_
    rw [runWhile, earlyRows, unused, List.nil_append]
  have kept : early.filter (fun row => within row.createdAt) = early := by
    rw [List.filter_eq_self]
    intro row member
    exact times_takeWhile calls within row.createdAt
      (earlyTimes.subset (List.mem_map_of_mem member))
  have dropped : late.filter (fun row => within row.createdAt) = [] := by
    rw [List.filter_eq_nil_iff]
    intro row member isWithin
    have outside := times_dropWhile sequential closed row.createdAt
      (lateTimes.subset (List.mem_map_of_mem member))
    rw [outside] at isWithin
    cases isWithin
  rw [all, List.filter_append, kept, dropped, List.append_nil, runWhile,
    earlyRows, unused, List.nil_append]

end Fresh

end CloudStudio.Wallets

namespace CloudStudio.Admin

open CloudStudio.Data CloudStudio.Transactions CloudStudio.Platform
open CloudStudio.Wallets

/-- What the wallet's ledger says of its balance moves to after the range. -/
def movedAfter (world : World) (wallet : WalletKey) (toDate : Time) : Decimal :=
  ((after WalletTransaction.createdAt toDate (world.rowsOf wallet)).map
    fun row => (row.amount : Decimal)).sum

/-- The figures of a range are those of the wallet in it. -/
structure WalletReview.Right (review : WalletReview) (range : DateRange)
    (wallet : WalletKey) (calls : List SequentialCall) (start : World) :
    Prop where
  opening : (review.openingBalance : Decimal) =
    (runWhile (fun time => time < range.fromDate) calls start).balance wallet
  closing : (review.closingBalance : Decimal) =
    (runWhile (fun time => time ≤ range.toDate) calls start).balance wallet
  adds : (review.openingBalance : Decimal) +
    review.totalCredited - review.totalDebited = review.closingBalance
  consistent : review.ledgerConsistent = true

theorem hasPlaces_sum {rows : List WalletTransaction} :
    Decimal.HasPlaces 2 (rows.map fun row => (row.amount : Decimal)).sum := by
  induction rows with
  | nil => exact .zero
  | cons row rest ih =>
      rw [List.map_cons, List.sum_cons]
      exact row.amount.property.add ih

/-- The rows of the range, opened at one balance and closed at another, are
reported with these two balances; a range without rows with the balance the
wallet has now. -/
theorem reviewWallet_figures (wallet : Wallet) {txs : List WalletTransaction}
    {opening closing : Decimal}
    (chains : ledgerEntries.Chains opening txs closing) :
    let review := reviewWallet wallet txs
    (review.openingBalance : Decimal) =
      (if txs = [] then ↑wallet.balance else opening) ∧
      (review.closingBalance : Decimal) =
        (if txs = [] then ↑wallet.balance else closing) ∧
      (review.openingBalance : Decimal) +
        review.totalCredited - review.totalDebited = review.closingBalance ∧
      (review.ledgerConsistent = true ↔
        review.closingBalance = wallet.balance) := by
  intro review
  have sums :=
    credits_add_debits (fun row : WalletTransaction => (row.amount : Decimal))
    txs
  have nonpos :=
    debits_nonpos (fun row : WalletTransaction => (row.amount : Decimal)) txs
  have credited : (review.totalCredited : Decimal) =
      credits (fun row : WalletTransaction => (row.amount : Decimal)) txs :=
    Money.coe_round_of_hasPlaces hasPlaces_sum
  have debited : (review.totalDebited : Decimal) =
      -debits (fun row : WalletTransaction => (row.amount : Decimal)) txs := by
    rw [← abs_of_nonpos nonpos]
    exact Money.coe_round_of_hasPlaces hasPlaces_sum.abs
  have total := chains.sum
  change closing =
    opening + (txs.map fun row => (row.amount : Decimal)).sum at total
  have ends : (review.openingBalance : Decimal) =
        (if txs = [] then ↑wallet.balance else opening) ∧
      (review.closingBalance : Decimal) =
        (if txs = [] then ↑wallet.balance else closing) := by
    cases txs with
    | nil => exact ⟨rfl, rfl⟩
    | cons first rest =>
        simp only [reduceCtorEq, if_false]
        constructor
        · exact chains.1
        · cases last : (first :: rest).getLast? with
          | none => simp at last
          | some tx =>
              rw [chains.last last]
              simp only [review, reviewWallet, last, Option.map_some,
                Option.getD_some]
              rfl
  have adds : (review.openingBalance : Decimal) +
      (txs.map fun row => (row.amount : Decimal)).sum =
        review.closingBalance := by
    rw [ends.1, ends.2]
    split
    · rename_i empty
      rw [empty, List.map_nil, List.sum_nil, add_zero]
    · exact total.symm
  have expected : (review.openingBalance : Decimal) +
      credits (fun row : WalletTransaction => (row.amount : Decimal)) txs +
      debits (fun row : WalletTransaction => (row.amount : Decimal)) txs =
        review.closingBalance := by
    rw [add_assoc, sums, adds]
  refine ⟨ends.1, ends.2, ?_, ?_⟩
  · rw [credited, debited, sub_neg_eq_add, expected]
  · change (decide (_ = _) && _ == _) = true ↔ _
    rw [Bool.and_eq_true_iff, beq_iff_eq, decide_eq_true_iff]
    exact and_iff_right expected

/-! ## The ledger of a run -/

section Run

variable {start : World} {calls : List SequentialCall} {wallet : WalletKey}
  (empty : start.balance wallet = 0) (unused : start.rowsOf wallet = [])
  (cents : ∀ call ∈ calls, ∀ amount ∈ call.amount?, Decimal.HasPlaces 2 amount)
  (sequential : OneAfterAnother calls)

include empty unused cents

theorem balanced_run : Balanced (runAll calls start) wallet := by
  have balanced : Balanced start wallet := by
    constructor
    · rw [unused, empty]
      rfl
    · exact empty.ge
  exact balanced.runAll calls cents

/-- The balance at an instant is what the rows up to it add up to. -/
theorem balance_runWhile {within : Time → Bool} {rows : List WalletTransaction}
    {middle : Decimal}
    (found : (runWhile within calls start).rowsOf wallet = rows)
    (chains : ledgerEntries.Chains 0 rows middle) :
    (runWhile within calls start).balance wallet = middle := by
  have early : ∀ call ∈ calls.takeWhile fun call => call.time?.all within,
      ∀ amount ∈ call.amount?, Decimal.HasPlaces 2 amount := by
    intro call taken
    exact cents call ((List.takeWhile_sublist _).subset taken)
  have total := (balanced_run empty unused early).1.sum
  change (runWhile within calls start).balance wallet =
    0 + (((runWhile within calls start).rowsOf wallet).map
      ledgerEntries.amount).sum at total
  rw [total, found, chains.sum]

include sequential

/-- The rows of a range lead from the balance just before it to the balance at
its end, and the rows after it to the balance now. -/
theorem range_chains {range : DateRange}
    (ordered : range.fromDate ≤ range.toDate) :
    let opening :=
      (runWhile (fun time => time < range.fromDate) calls start).balance wallet
    let closing :=
      (runWhile (fun time => time ≤ range.toDate) calls start).balance wallet
    ledgerEntries.Chains opening (ledgerOf wallet range (runAll calls start))
      closing ∧ (runAll calls start).balance wallet =
        closing + movedAfter (runAll calls start) wallet range.toDate := by
  intro opening closing
  have sorted := rowsOf_sorted unused sequential
  have chains := (balanced_run empty unused cents).1
  rw [eq_upTo_append sorted range.toDate] at chains
  obtain ⟨atEnd, upTo, later⟩ := chains.between
  have ends : closing = atEnd := by
    refine balance_runWhile empty unused cents
      (rowsOf_runWhile unused sequential ?_) upTo
    intro earlier later order isWithin
    rw [decide_eq_true_iff] at isWithin ⊢
    exact order.le.trans isWithin
  rw [upTo_eq sorted ordered] at upTo
  obtain ⟨atStart, early, within⟩ := upTo.between
  have starts : opening = atStart := by
    refine balance_runWhile empty unused cents
      (rowsOf_runWhile unused sequential ?_) early
    intro earlier later order isWithin
    rw [decide_eq_true_iff] at isWithin ⊢
    exact order.trans isWithin
  constructor
  · have inOrder : ledgerOf wallet range (runAll calls start) =
        during WalletTransaction.createdAt range.fromDate range.toDate
          ((runAll calls start).rowsOf wallet) := by
      apply List.mergeSort_of_pairwise
      apply (sorted.filter _).imp
      intro row next order
      exact decide_eq_true order.le
    rw [starts, ends, inOrder]
    exact within
  · rw [ends]
    exact later.sum

/-- The review of a wallet is right if and only if what moved after the range
adds up to nothing. -/
theorem reviewWallet_right_iff {range : DateRange}
    (ordered : range.fromDate ≤ range.toDate) {row : Wallet}
    (found : (runAll calls start).wallets.find? wallet = some row) :
    (reviewWallet row (ledgerOf wallet range (runAll calls start))).Right
      range wallet calls
        start ↔
      movedAfter (runAll calls start) wallet range.toDate = 0 := by
  obtain ⟨chains, live⟩ := range_chains empty unused cents sequential ordered
  rw [balance_eq found] at live
  obtain ⟨opening, closing, adds, consistent⟩ := reviewWallet_figures row chains
  constructor
  · intro right
    have same := consistent.mp right.consistent
    have balance : (row.balance : Decimal) =
        (runWhile (fun time => time ≤ range.toDate) calls start).balance
          wallet := by
      rw [← right.closing, same]
    linarith
  · intro settled
    rw [settled, add_zero] at live
    have total := chains.sum
    have closes : ((reviewWallet row
        (ledgerOf wallet range (runAll calls start))).closingBalance :
          Decimal) =
        (runWhile (fun time => time ≤ range.toDate) calls start).balance
          wallet := by
      rw [closing]
      split
      · exact live
      · rfl
    have opens : ((reviewWallet row
        (ledgerOf wallet range (runAll calls start))).openingBalance :
          Decimal) =
        (runWhile (fun time => time < range.fromDate) calls start).balance
          wallet := by
      rw [opening]
      split
      · rename_i none
        rw [live, total, none, List.map_nil, List.sum_nil, add_zero]
      · rfl
    constructor
    · exact opens
    · exact closes
    · exact adds
    · rw [consistent]
      exact Subtype.ext (closes.trans live.symm)

end Run

/-- Every ledger that movements one after another wrote and every range: the
review of each wallet of the account is right if and only if what moved in the
wallet after the range adds up to nothing. -/
theorem computations_right_iff (start : World) (account : AccountId)
    (fresh : ∀ type, start.balance ⟨account, type⟩ = 0 ∧
      start.rowsOf ⟨account, type⟩ = []) (calls : List SequentialCall)
    (cents : ∀ call ∈ calls, ∀ amount ∈ call.amount?,
      Decimal.HasPlaces 2 amount) (sequential : OneAfterAnother calls)
    (range : DateRange) (ordered : range.fromDate ≤ range.toDate)
    (accountId : String)
    (resolved : (runAll calls start).resolve accountId = some account) :
    ∃ reviews, (computations accountId range).run (runAll calls start) =
        (.ok (some reviews), runAll calls start) ∧
      reviews.map WalletReview.walletType =
        (walletsOf (runAll calls start) account).map (fun wallet =>
          wallet.key.type) ∧
      ∀ review ∈ reviews,
        (review.Right range ⟨account, review.walletType⟩ calls start ↔
          movedAfter (runAll calls start) ⟨account, review.walletType⟩
            range.toDate = 0) := by
  refine ⟨_, run_computations resolved range, ?_, ?_⟩
  · rw [List.map_map]
    rfl
  · intro review member
    obtain ⟨wallet, included, rfl⟩ := List.mem_map.mp member
    obtain ⟨row, own⟩ := List.mem_filter.mp included
    have key : (⟨account, wallet.key.type⟩ : WalletKey) = wallet.key := by
      rw [← of_decide_eq_true own]
    have found := Table.find?_of_mem row
    obtain ⟨empty, unused⟩ := fresh wallet.key.type
    rw [← key] at found ⊢
    exact reviewWallet_right_iff empty unused cents sequential ordered found

theorem computations_right_someCalls :
    ∃ reviews,
      ((computations "ACC-1" ⟨2, 4⟩).run (runAll someCalls emptyWorld)).1 =
        .ok (some reviews) ∧
      reviews.map WalletReview.walletType = [.collection, .disbursement] ∧
      ∀ review ∈ reviews,
        review.Right ⟨2, 4⟩ ⟨"a", review.walletType⟩ someCalls emptyWorld := by
  have fresh : ∀ type, emptyWorld.balance ⟨"a", type⟩ = 0 ∧
      emptyWorld.rowsOf ⟨"a", type⟩ = [] := by
    intro type
    cases type <;> decide +kernel
  have settled (type : WalletType) :
      movedAfter (runAll someCalls emptyWorld) ⟨"a", type⟩ 4 = 0 := by
    cases type <;> decide +kernel
  have sequential : OneAfterAnother someCalls := by
    unfold OneAfterAnother
    decide
  obtain ⟨reviews, reported, types, right⟩ :=
    computations_right_iff emptyWorld "a" fresh
    someCalls
      (by decide +kernel) sequential ⟨2, 4⟩ (by decide) "ACC-1"
      (by decide +kernel)
  refine ⟨reviews, by rw [reported], ?_, ?_⟩
  · rw [types]
    decide +kernel
  · intro review member
    exact (right review member).mpr (settled review.walletType)

/-- A credit of 100, and one of 50 later. -/
def twoCredits : List SequentialCall :=
  [.move 1 { accountId := "a", type := .collection, txType := .collectionCredit
             amount := .value 100, description := "credit" },
    .move 5 { accountId := "a", type := .collection, txType := .collectionCredit
              amount := .value 50, description := "credit" }]

/-- The wallet held 100 from 1 to 5.  The review of 1 to 3 calls the ledger
inconsistent, and that of 2 to 3, which has no row, opens and closes at 150. -/
theorem pastRange_misreported :
    (∃ reviews review,
      ((computations "a" ⟨1, 3⟩).run (runAll twoCredits emptyWorld)).1 =
        .ok (some reviews) ∧ review ∈ reviews ∧
          review.walletType = .collection ∧
        (review.closingBalance : Decimal) = 100 ∧
          review.ledgerConsistent = false) ∧
    ∃ reviews review,
      ((computations "a" ⟨2, 3⟩).run (runAll twoCredits emptyWorld)).1 =
        .ok (some reviews) ∧ review ∈ reviews ∧
          review.walletType = .collection ∧
        (review.openingBalance : Decimal) = 150 ∧
        (runWhile (fun time => time < 2) twoCredits emptyWorld).balance
          ⟨"a", .collection⟩ = 100 ∧
        ¬ review.Right ⟨2, 3⟩ ⟨"a", .collection⟩ twoCredits emptyWorld := by
  have resolved : (runAll twoCredits emptyWorld).resolve "a" = some "a" := by
    decide +kernel
  have row : ∃ wallet ∈ walletsOf (runAll twoCredits emptyWorld) "a",
      wallet.key.type = .collection ∧
        (let past := reviewWallet wallet
            (ledgerOf wallet.key ⟨1, 3⟩ (runAll twoCredits emptyWorld))
        (past.closingBalance : Decimal) = 100 ∧ past.ledgerConsistent = false) ∧
        ((reviewWallet wallet (ledgerOf wallet.key ⟨2, 3⟩
          (runAll twoCredits emptyWorld))).openingBalance : Decimal) = 150 := by
    decide +kernel
  have before :
      (runWhile (fun time => time < 2) twoCredits emptyWorld).balance
        ⟨"a", .collection⟩ =
        100 := by decide +kernel
  obtain ⟨wallet, included, type, ⟨closing, inconsistent⟩, opening⟩ := row
  constructor
  · rw [run_computations resolved]
    exact ⟨_, _, rfl, List.mem_map_of_mem included, type, closing, inconsistent⟩
  · rw [run_computations resolved]
    refine ⟨_, _, rfl, List.mem_map_of_mem included, type, opening, before, ?_⟩
    intro right
    have figure := right.opening
    rw [before, opening] at figure
    norm_num at figure

end CloudStudio.Admin
