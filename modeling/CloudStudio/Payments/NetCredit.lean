import Mathlib.Data.List.Infix
import CloudStudio.Payments.Runs

/-!
# What a collection pays out

Provider records are applied one after another to a collection.  The fee is
computed on the record's amount, or on the row's own amount when the record has
none; the gross is read back from the row, which keeps the amount of an earlier
record; and the ledger takes the absolute value of the net.  The three agree
exactly on the updates described by `Aligned`.
-/

namespace CloudStudio.Payments

open CloudStudio.Data CloudStudio.Transactions CloudStudio.Platform
open CloudStudio.Wallets

/-- A provider record for a collection and the time it is applied. -/
structure PaymentReport where
  now : Time
  record : ProviderRecord

/-- The state after one record. -/
def afterPayment (reference : Reference) (world : World)
    (report : PaymentReport) : World :=
  ((applyCollectionUpdate report.now reference report.record).run world).2

/-- Apply records to a collection one after another. -/
def applyCollectionReports (reference : Reference)
    (reports : List PaymentReport) (world : World) : World :=
  reports.foldl (afterPayment reference) world

/-- The fee of the account's schedule on an amount collected. -/
def collectionFee (world : World) (accountId : AccountId) (amount : Decimal) :
    Money :=
  ((world.configOf accountId).fee .collection amount).feeAmount

/-- The amount collected according to the row. -/
def grossOf (collection : Collection) : Decimal :=
  collection.collectedAmount.getD collection.amount

/-- If the update adds a ledger row, its amount is the gross then stored less
the fee on that gross, which is the fee stored; it is at most the gross, which
is not zero. -/
def CreditsNet (reference : Reference) (world : World)
    (report : PaymentReport) : Prop :=
  ∀ row, (afterPayment reference world report).ledger = world.ledger ++ [row] →
    ∃ collection,
      (afterPayment reference world report).collections.find? reference =
        some collection ∧
      (row.amount : Decimal) = grossOf collection -
        collectionFee world collection.accountId (grossOf collection) ∧
      collection.feeAmount =
        some (collectionFee world collection.accountId (grossOf collection)) ∧
      (row.amount : Decimal) ≤ grossOf collection ∧ grossOf collection ≠ 0

/-- The gross an update leaves on the row: the record's amount, else the one an
earlier record left, else the row's own. -/
def grossAfter (record : ProviderRecord) (collection : Collection) : Decimal :=
  (record.collectedAmount.value?.or collection.collectedAmount).getD
    collection.amount

/-- The amount the fee is computed on: the record's, else the row's own. -/
def basisOf (record : ProviderRecord) (collection : Collection) : Decimal :=
  record.collectedAmount.value?.getD collection.amount

/-- The fee is the same on both amounts, and the gross is a whole number of
cents, not negative. -/
structure Aligned (world : World) (record : ProviderRecord)
    (collection : Collection) :
    Prop where
  fee : collectionFee world collection.accountId (basisOf record collection) =
    collectionFee world collection.accountId (grossAfter record collection)
  nonneg : 0 ≤ grossAfter record collection
  cents : Decimal.HasPlaces 2 (grossAfter record collection)

/-- The update is to credit the collection: a writable success of a collection
that is not yet credited, on an account with the wallet, with a net amount that
is not zero. -/
structure Credits (reference : Reference) (world : World)
    (record : ProviderRecord) (collection : Collection) : Prop where
  found : world.collections.find? reference = some collection
  success : record.nextStatus? = some .success
  fits : record.FitsPayment
  unsettled : collection.status ≠ .success
  uncredited : collection.walletCreditedAt = none
  wallet : (world.wallets.find?
    (world.walletKeyOf collection.accountId .collection)).isSome
  nonzero : Decimal.toFixed 2 (grossAfter record collection -
    collectionFee world collection.accountId (basisOf record collection)) ≠ 0

theorem basisOf_eq {record : ProviderRecord} {collection : Collection}
    {basis : Decimal} (basis_eq : feeBasis record collection = .value basis) :
    basis = basisOf record collection := by
  unfold feeBasis at basis_eq
  unfold basisOf
  cases amount : record.collectedAmount <;> simp_all [Wire.value?]

/-- The row a crediting update leaves. -/
structure Credited (reference : Reference) (world : World)
    (record : ProviderRecord) (collection : Collection) (after : World)
    (row : WalletTransaction) : Prop where
  ledger : after.ledger = world.ledger ++ [row]
  amount : (row.amount : Decimal) = |Decimal.toFixed 2
    (grossAfter record collection -
    collectionFee world collection.accountId (basisOf record collection))|
  stored : ∃ updated, after.collections.find? reference = some updated ∧
    updated.accountId = collection.accountId ∧
      grossOf updated = grossAfter record collection ∧
    updated.feeAmount =
      some (collectionFee world collection.accountId
        (basisOf record collection))

theorem creditOf_amount (now : Time) (record : ProviderRecord)
    (nextStatus : TxStatus) (fee : ComputedFee) (collection : Collection) :
    (creditOf now record nextStatus fee collection).amount =
      .value (Decimal.toFixed 2
        (grossAfter record collection - fee.feeAmount)) := rfl

/-- A credit records the absolute value of its amount. -/
theorem credit_row_amount (now : Time) (record : ProviderRecord)
    (nextStatus : TxStatus) (fee : ComputedFee) (collection : Collection)
    (wallet : Wallet) {amount : Decimal} (cents : Decimal.HasPlaces 2 amount) :
    ((moveRow now (creditOf now record nextStatus fee collection) wallet amount
      wallet.balance).amount : Decimal) = |amount| := by
  have credit : isDebit (creditOf now record nextStatus fee collection).txType
    amount =
      false := by simp [creditOf, collectionCredit, isDebit]
  simp only [moveRow, credit, Bool.false_eq_true, if_false,
    Money.coe_round_of_hasPlaces cents.abs]

/-- An update that is to credit adds one row; any other adds none. -/
theorem afterPayment_cases (reference : Reference) (world : World)
    (report : PaymentReport) :
    (∃ collection row, Credits reference world report.record collection ∧
      Credited reference world report.record collection
        (afterPayment reference world report) row) ∨
    ((∀ collection, ¬ Credits reference world report.record collection) ∧
      (afterPayment reference world report).ledger = world.ledger) := by
  obtain ⟨now, record⟩ := report
  have runs := run_applyCollectionUpdate now reference record world
  unfold afterPayment
  generalize ((applyCollectionUpdate now reference record).run world).1 =
    result at runs
  generalize ((applyCollectionUpdate now reference record).run world).2 =
    after at runs ⊢
  cases runs with
  | unknown absent =>
      refine .inr ⟨fun collection credits => ?_, rfl⟩
      have found := credits.found
      simp [absent] at found
  | unreadable collection found unreadable =>
      refine .inr ⟨fun other credits => ?_, rfl⟩
      have success := credits.success
      simp [unreadable] at success
  | unchanged collection nextStatus found mapped isFinal same =>
      refine .inr ⟨fun other credits => ?_, rfl⟩
      have other_eq := credits.found
      have success := credits.success
      rw [found] at other_eq
      rw [mapped] at success
      cases other_eq
      cases success
      exact credits.unsettled same
  | refused collection nextStatus left found mapped changes unfit either =>
      refine .inr ⟨fun other credits => unfit credits.fits, ?_⟩
      rcases either with rfl | rfl
      · rfl
      · exact (sameBooks_withConfig world _).ledger
  | written collection nextStatus after found mapped changes fits
      undue noticed =>
      obtain ⟨deliveries, jobs, rfl⟩ := noticed
      refine .inr ⟨fun other credits => undue ?_, rfl⟩
      have other_eq := credits.found
      have success := credits.success
      rw [found] at other_eq
      rw [mapped] at success
      cases other_eq
      exact ⟨Option.some.inj success, credits.uncredited⟩
  | credited collection nextStatus basis fee wallet amount after found
      mapped changes fits due basis_eq fee_eq allowed noticed =>
      obtain ⟨deliveries, jobs, rfl⟩ := noticed
      have value := allowed.value
      have wallets := allowed.found
      rw [creditOf_amount, NumberInput.value.injEq] at value
      have charged : fee.feeAmount =
          collectionFee world collection.accountId
            (basisOf record collection) := by
        rw [fee_eq, basisOf_eq basis_eq]
        rfl
      refine .inl
        ⟨collection, moveRow now (creditOf now record nextStatus fee collection)
        wallet amount wallet.balance, ?_, ?_⟩
      · refine ⟨found, mapped.trans (congrArg some due.1), fits, ?_, due.2, ?_,
          ?_⟩
        · intro settled
          exact changes
            ⟨by simp [settled, FINAL_STATUSES], settled.trans due.1.symm⟩
        · exact Option.isSome_of_eq_some wallets
        · rw [← charged, value]
          exact allowed.nonzero
      · have key := Table.key_of_find? found
        have cents : Decimal.HasPlaces 2 amount := by
          rw [← value]
          exact Decimal.hasPlaces_toFixed 2 _
        refine ⟨?_, ?_,
          ⟨collectionUpdate now record nextStatus (some fee) collection
          collection, ?_, rfl, rfl, congrArg some charged⟩⟩
        · simp only [World.record, withCollection,
            (sameBooks_withConfig world _).ledger]
        · rw [credit_row_amount now record nextStatus fee collection wallet
            cents, ← value, charged]
        · simp only [World.record, withCollection,
            (withConfig_rest world _).2.2, key,
            Table.find?_modify_self, found, Option.map_some]
  | uncredited collection nextStatus basis fee error found mapped changes
      fits due basis_eq fee_eq refused =>
      rw [basisOf_eq basis_eq] at fee_eq
      subst fee_eq
      refine .inr ⟨fun other credits => ?_, ?_⟩
      · have other_eq := credits.found
        rw [found] at other_eq
        cases other_eq
        obtain ⟨wallet, at_key⟩ := Option.isSome_iff_exists.mp credits.wallet
        refine refused wallet _ ⟨creditOf_amount .., credits.nonzero, at_key,
          by simp [creditOf, collectionCredit], ?_⟩
        simp [creditOf, collectionCredit, isDebit]
      · exact (sameBooks_withConfig world _).ledger

theorem collectionFee_eq (world : World) (accountId : AccountId)
    (amount : Decimal) :
    ∃ bps, collectionFee world accountId amount = FeeConfig.charge bps amount :=
  ⟨_, rfl⟩

/-- A credit of the absolute net is exact just when the amounts are aligned. -/
theorem exact_iff_aligned {world : World} {record : ProviderRecord}
    {collection : Collection}
    (nonzero : Decimal.toFixed 2 (grossAfter record collection -
      collectionFee world collection.accountId (basisOf record collection)) ≠
        0) :
    (|Decimal.toFixed 2 (grossAfter record collection -
          collectionFee world collection.accountId
            (basisOf record collection))| =
        grossAfter record collection -
          collectionFee world collection.accountId
            (grossAfter record collection) ∧
      collectionFee world collection.accountId (basisOf record collection) =
        collectionFee world collection.accountId
          (grossAfter record collection) ∧
      |Decimal.toFixed 2 (grossAfter record collection -
          collectionFee world collection.accountId
            (basisOf record collection))| ≤
        grossAfter record collection ∧ grossAfter record collection ≠ 0) ↔
    Aligned world record collection := by
  obtain ⟨bps, charged⟩ :=
    collectionFee_eq world collection.accountId (grossAfter record collection)
  obtain ⟨fee, fee_eq⟩ : ∃ fee,
      collectionFee world collection.accountId (grossAfter record collection) =
        fee := ⟨_, rfl⟩
  rw [fee_eq] at charged ⊢
  have feeCents : Decimal.HasPlaces 2 (fee : Decimal) := fee.property
  constructor
  · rintro ⟨amount, same, _, _⟩
    rw [same] at amount nonzero
    have net_nonneg : 0 ≤ grossAfter record collection - fee :=
      amount ▸ abs_nonneg _
    have cents : Decimal.HasPlaces 2 (grossAfter record collection) := by
      have net : Decimal.HasPlaces 2 (grossAfter record collection - fee) :=
        amount ▸ (Decimal.hasPlaces_toFixed 2 _).abs
      simpa using net.add feeCents
    refine ⟨same.trans fee_eq.symm, ?_, cents⟩
    by_contra negative
    have bounded := FeeConfig.charge_le_abs bps cents
    rw [← charged, abs_of_neg (not_le.mp negative)] at bounded
    have zero : grossAfter record collection - fee = 0 := by
      have low := (abs_le.mp bounded).1
      linarith
    rw [zero] at nonzero
    exact nonzero (Decimal.toFixed_of_hasPlaces .zero)
  · rintro ⟨same, nonneg, cents⟩
    rw [fee_eq] at same
    have net : Decimal.toFixed 2 (grossAfter record collection - fee) =
        grossAfter record collection - fee :=
      Decimal.toFixed_of_hasPlaces (cents.sub feeCents)
    have bounded := FeeConfig.charge_le_abs bps cents
    rw [← charged, abs_of_nonneg nonneg] at bounded
    have high := (abs_le.mp bounded).2
    have feeNonneg : 0 ≤ (fee : Decimal) :=
      charged ▸ FeeConfig.charge_nonneg bps nonneg
    rw [same, net] at nonzero ⊢
    rw [abs_of_nonneg (by linarith)]
    refine ⟨rfl, rfl, by linarith, fun zero => nonzero ?_⟩
    linarith

/-- One update credits exactly the net just when the amounts it credits on are
aligned. -/
theorem creditsNet_iff (reference : Reference) (world : World)
    (report : PaymentReport) :
    CreditsNet reference world report ↔
      ∀ collection, Credits reference world report.record collection →
        Aligned world report.record collection := by
  rcases afterPayment_cases reference world report with
    ⟨collection, row, credits, credited⟩ | ⟨none_due, ledger⟩
  · obtain ⟨updated, found, account, gross, stored⟩ := credited.stored
    constructor
    · intro exact_ other due
      have same := credits.found.symm.trans due.found
      cases same
      obtain ⟨updated', found', amount, feeAmount, le, nonzero⟩ :=
        exact_ row credited.ledger
      rw [found] at found'
      cases found'
      rw [account, gross, credited.amount] at amount
      rw [account, gross, stored] at feeAmount
      rw [gross, credited.amount] at le
      rw [gross] at nonzero
      exact (exact_iff_aligned credits.nonzero).mp
        ⟨amount, Option.some.inj feeAmount, le, nonzero⟩
    · intro aligned row' ledger
      have rows := List.append_cancel_left (credited.ledger.symm.trans ledger)
      cases rows
      obtain ⟨amount, feeAmount, le, nonzero⟩ :=
        (exact_iff_aligned credits.nonzero).mpr (aligned collection credits)
      refine ⟨updated, found, ?_⟩
      rw [account, gross, credited.amount, stored]
      exact ⟨amount, congrArg some feeAmount, le, nonzero⟩
  · constructor
    · exact fun _ collection credits => absurd credits (none_due collection)
    · intro _ row added
      rw [ledger] at added
      simp at added

/-- Along a sequence of records every credit is exactly the net just when, at
every record that credits, the fee on the record's amount is the fee on the
gross stored and that gross is a whole number of cents, not negative. -/
theorem credits_net_iff (reference : Reference) (world : World)
    (reports : List PaymentReport) :
    (∀ earlier report, earlier ++ [report] <+: reports →
        CreditsNet reference (applyCollectionReports reference earlier world)
          report) ↔
      ∀ earlier report, earlier ++ [report] <+: reports →
        ∀ collection,
          Credits reference (applyCollectionReports reference earlier world)
            report.record collection →
          Aligned (applyCollectionReports reference earlier world) report.record
            collection := by
  simp only [creditsNet_iff]

def zeroCollected : PaymentReport :=
  ⟨2, { status := .given "PROCESSING", collectedAmount := .given 0 }⟩

def succeeded : PaymentReport := ⟨3, { status := .given "SUCCESS" }⟩

/-- 200 is credited on a gross of zero: the fee was computed on 10000, and the
ledger took the absolute value of the net -200. -/
theorem zero_gross_credited :
    ¬ CreditsNet "AAAAA000000000000001"
      (applyCollectionReports "AAAAA000000000000001" [zeroCollected]
        pendingWorld) succeeded := by
  intro exact_
  let before :=
    applyCollectionReports "AAAAA000000000000001" [zeroCollected] pendingWorld
  let after := afterPayment "AAAAA000000000000001" before succeeded
  have none_before : before.ledger = [] := by decide +kernel
  have one_after : after.ledger.map (fun row => (row.amount : Decimal)) =
    [200] := by
    decide +kernel
  have gross : (after.collections.find? "AAAAA000000000000001").map grossOf =
    some 0 := by
    decide +kernel
  obtain ⟨row, ledger, _⟩ := List.map_eq_singleton_iff.mp one_after
  obtain ⟨updated, found, _, _, _, nonzero⟩ := exact_ row (by
    change after.ledger = before.ledger ++ [row]
    rw [none_before, ledger]
    rfl)
  change after.collections.find? _ = _ at found
  rw [found] at gross
  exact nonzero (Option.some.inj gross)

end CloudStudio.Payments
