import CloudStudio.Payouts.Batches
import CloudStudio.Payouts.Previews

/-!
# Does batching change the price?

A single payout is debited its amount and the fee of its own tier, and its row
records the fee.  A batch is debited the amounts alone, and its rows record no
fee: the debit is the same only when no item has a fee, and the rows never
agree.
-/

namespace CloudStudio.Payouts

open CloudStudio.Data CloudStudio.Transactions CloudStudio.Platform
open CloudStudio.Payments
open CloudStudio.Wallets

/-- The item as a payout request. -/
def BatchItem.single (item : BatchItem) : PayoutDto where
  amount := item.amount
  reference := item.reference
  phoneNumber := item.phoneNumber
  accountNumber := item.accountNumber
  accountName := item.accountName
  bic := item.bic
  transferType := item.transferType

/-- The fee of the item under the account's configuration. -/
def itemFee (world : World) (accountId : AccountId) (item : BatchItem) :
    Money :=
  ((world.configOf accountId).fee .disbursement item.amount.val).feeAmount

/-- What a single payout of the item is debited. -/
def singlePrice (world : World) (accountId : AccountId) (item : BatchItem) :
    Decimal :=
  item.amount.val + itemFee world accountId item

/-- The batch is debited what its items would be one by one. -/
def SameDebit (before after : World) (accountId : AccountId)
    (items : List BatchItem) : Prop :=
  -amountsOn (addedRows before after) ⟨accountId, .disbursement⟩ =
    (items.map (singlePrice before accountId)).sum

instance (before after : World) (accountId : AccountId)
    (items : List BatchItem) :
    Decidable (SameDebit before after accountId items) :=
  inferInstanceAs (Decidable (_ = _))

/-- The price does not change: the debit is the same, and the rows record the
fees. -/
structure SamePrice (before after : World) (accountId : AccountId)
    (items : List BatchItem) :
    Prop where
  debit : SameDebit before after accountId items
  fees : (addedPayouts before after).map Payout.feeAmount =
    items.map fun item => some (itemFee before accountId item)

variable {now : Time} {accountId : AccountId} {world after : World}

/-- Paid alone, the item is debited its price and its row records its fee. -/
def PaidAlone (world : World) (accountId : AccountId) (item : BatchItem) :
    Prop :=
  ∀ (now : Time) (random : List Char) (failing : Site → Option (Fault AppError))
    (payout : Payout) (ended : World),
    (createPayout now random accountId item.channel item.single).exec
      failing world = (.returned payout, ended) →
    -amountsOn (addedRows world ended) ⟨accountId, .disbursement⟩ =
        singlePrice world accountId item ∧
      payout.feeAmount = some (itemFee world accountId item)

theorem paidAlone (world : World) (accountId : AccountId) (item : BatchItem) :
    PaidAlone world accountId item := by
  intro now random failing payout ended returned
  have charges := createPayout_charges now random accountId item.channel
    item.single failing world rfl
  rw [returned] at charges
  obtain ⟨charged, reference, rfl⟩ := charges
  obtain ⟨row, added, _, wallet, amount⟩ := charged.row
  have only : addedRows world ended = [row] := by
    rw [addedRows, added, List.drop_left]
  refine ⟨?_, rfl⟩
  rw [only]
  simp only [amountsOn, List.filter_singleton, wallet, decide_true,
    cond_true, List.map_cons,
    List.map_nil, List.sum_cons, List.sum_nil, add_zero, amount,
      neg_neg, coe_totalOf]
  rfl

/-- The debits agree exactly when no item has a fee. -/
theorem sameDebit_iff {items : List BatchItem} {reference : Reference}
    {row : WalletTransaction}
    (held : HoldsBatch world accountId reference (batchTotal items) row)
    (added : addedRows world after = [row]) :
    SameDebit world after accountId items ↔
      ∀ item ∈ items, (itemFee world accountId item : Decimal) = 0 := by
  have debited : -amountsOn (addedRows world after) ⟨accountId, .disbursement⟩ =
      batchTotal items := by
    rw [added]
    simp [amountsOn, held.wallet, held.amount]
  have priced : (items.map (singlePrice world accountId)).sum =
    batchTotal items +
      (items.map fun item => (itemFee world accountId item : Decimal)).sum :=
    List.sum_map_add
  rw [SameDebit, debited, priced, left_eq_add]
  constructor
  · intro none_charged item member
    have nonneg :
      ∀ fee ∈ items.map fun item => (itemFee world accountId item : Decimal),
        0 ≤ fee := by
      intro fee member
      obtain ⟨item, _, rfl⟩ := List.mem_map.mp member
      exact FeeConfig.charge_nonneg _ item.amount.property
    exact List.all_zero_of_le_zero_le_of_sum_eq_zero nonneg none_charged
      (List.mem_map_of_mem member)
  · intro free
    apply List.sum_eq_zero
    intro fee member
    obtain ⟨item, among, rfl⟩ := List.mem_map.mp member
    exact free item among

/-- No batch has the price of its items paid alone: its rows never record their
fees, and its debit is the same exactly when every item's fee is zero. -/
theorem batch_price_differs (now : Time) (random : List Char)
    (randoms : ℕ → List Char) (accountId : AccountId) (dto : CreateBatchDto)
    (faults : Site → Option (Fault AppError)) (world after : World)
    (batch : DisbursementBatch) (nonempty : dto.items ≠ [])
    (returned : (createBatch now random randoms accountId dto).exec faults
      world =
      (.returned batch, after)) :
    ¬ SamePrice world after accountId dto.items ∧
      (SameDebit world after accountId dto.items ↔
        ∀ item ∈ dto.items, (itemFee world accountId item : Decimal) = 0) ∧
      ∀ item ∈ dto.items, PaidAlone world accountId item := by
  obtain ⟨account, reference, row, rows, held, built, adds, _⟩ :=
    createBatch_added returned
  refine ⟨fun same => ?_, sameDebit_iff held adds.addedRows_eq,
    fun item _ => paidAlone world accountId item⟩
  obtain ⟨each, amounts⟩ := itemRows_ok built
  have fees := same.fees
  rw [adds.addedPayouts_eq] at fees
  cases items : dto.items with
  | nil => exact nonempty items
  | cons item rest =>
      rw [items] at fees
      cases rows with
      | nil => cases fees
      | cons payout others =>
          obtain ⟨_, _, own, rfl⟩ := each payout List.mem_cons_self
          cases fees

/-- A batch of one item of 1000, for an account whose fee below the threshold is
5 %. -/
def pricedBatch : Outcome AppError DisbursementBatch × World :=
  (createBatch 2 "00000000000000A".toList (fun _ => []) "a"
    { name := "pay", items := [namedItem] }).exec (fun _ => none) batchWorld

theorem batch_price_differs_named :
    ∃ batch, pricedBatch = (.returned batch, pricedBatch.2) ∧
      ¬ SamePrice batchWorld pricedBatch.2 "a" [namedItem] ∧
      (SameDebit batchWorld pricedBatch.2 "a" [namedItem] ↔
        ∀ item ∈ [namedItem], (itemFee batchWorld "a" item : Decimal) = 0) ∧
      ∀ item ∈ [namedItem], PaidAlone batchWorld "a" item := by
  have returned : pricedBatch = (.returned (newBatch 2 "a"
      { name := "pay", items := [namedItem] } "AAAAA00000000000000A"),
        pricedBatch.2) :=
    Prod.ext (by decide +kernel) rfl
  exact ⟨_, returned, batch_price_differs 2 "00000000000000A".toList
    (fun _ => []) "a"
    { name := "pay", items := [namedItem] } (fun _ => none) batchWorld
      pricedBatch.2 _
    (by simp) returned⟩

/-- The batch is debited 1000; the same payout alone is debited 1050. -/
theorem batch_undercharged :
    ¬ SamePrice batchWorld pricedBatch.2 "a" [namedItem] ∧
      amountsOn (addedRows batchWorld pricedBatch.2) ⟨"a", .disbursement⟩ =
        -1000 ∧ singlePrice batchWorld "a" namedItem = 1050 := by
  have differ : ¬ SameDebit batchWorld pricedBatch.2 "a" [namedItem] := by
    decide +kernel
  refine ⟨fun same => differ same.debit, ?_, ?_⟩
  · decide +kernel
  · decide +kernel

end CloudStudio.Payouts
