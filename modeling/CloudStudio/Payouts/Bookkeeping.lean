import CloudStudio.Payouts.Laws
import CloudStudio.Transactions.Invariance

/-!
# Beside the rows

Lookups, fee schedules, wallet movements, events and batch counts leave the rows
of payments and of settlement accounts alone.  An invariant of these rows is
kept by them, and by a status update if the one write of its row keeps it.
-/

namespace CloudStudio.Payouts

open CloudStudio.Data CloudStudio.Transactions CloudStudio.Platform
open CloudStudio.Payments
open CloudStudio.Wallets

/-- Payments and settlement accounts are as they were. -/
structure SameRoutes (before after : World) : Prop where
  payouts : after.payouts = before.payouts
  settlements : after.settlementAccounts = before.settlementAccounts
  collections : after.collections = before.collections
  deposits : after.deposits = before.deposits

/-- The invariant looks at nothing else. -/
def Beside (good : World → Prop) : Prop :=
  ∀ before after, SameRoutes before after → good before → good after

variable {assumed : List Expectation} {good : World → Prop}

namespace Beside

section

variable (beside : Beside good)
include beside

/-- A statement that leaves the rows alone. -/
theorem aside {Answer : Type} {statement : Statement Answer}
    (same : ∀ met world, SameRoutes world (statement.effect met world)) :
    statement.Keeps assumed good Anything :=
  Query.Keeps.aside (fun met world => beside world _ (same met world))
    fun _ => trivial

theorem perform {Answer : Type} {statement : Statement Answer}
    (same : ∀ met world, SameRoutes world (statement.effect met world)) :
    (Program.perform statement).Keeps assumed good Anything :=
  .perform (beside.aside same)

theorem select {Answer : Type} {site : Site} {view : World → Answer} :
    (Program.perform (Platform.select site view)).Keeps assumed good Anything :=
  beside.perform fun _ _ => ⟨rfl, rfl, rfl, rfl⟩

theorem resolveAccountId (idOrPublicId : String) :
    (Platform.resolveAccountId idOrPublicId).Keeps assumed good Anything := by
  unfold Platform.resolveAccountId
  split
  · exact trivial
  · apply beside.select.bind
    intro byId _
    cases byId with
    | some account => exact trivial
    | none =>
        apply beside.select.bind
        exact fun _ _ => trivial

theorem getWallet (accountId : String) (type : WalletType) :
    (Wallets.getWallet accountId type).Keeps assumed good Anything := by
  apply (beside.resolveAccountId accountId).bind
  intro resolved _
  apply beside.select.bind
  intro wallet _
  cases wallet <;> exact trivial

theorem getConfig (accountId : AccountId) :
    (Platform.getConfig accountId).Keeps assumed good Anything := by
  apply beside.select.bind
  intro existing _
  cases existing with
  | some config => exact trivial
  | none =>
      apply Program.Keeps.catching
      · exact beside.perform fun _ _ => ⟨rfl, rfl, rfl, rfl⟩
      · intro _
        apply beside.select.bind
        intro row _
        cases row <;> exact trivial

theorem computeFee (kind : FeeKind) (accountId : AccountId)
    (amount : NumberInput) :
    (Platform.computeFee kind accountId amount).Keeps assumed
      good Anything := by
  apply (beside.getConfig accountId).bind
  intro config _
  cases amount <;> exact trivial

theorem enqueue (site : Site) (now : Time) (payload : JobPayload) :
    (Platform.enqueue site now payload).Keeps assumed good Anything :=
  beside.perform fun _ _ => ⟨rfl, rfl, rfl, rfl⟩

theorem dispatch (now : Time) (notice : Dispatched) :
    (Platform.dispatch now notice).Keeps assumed good Anything := by
  have subscribers : (Program.perform (findSubscribers notice)).Keeps assumed
    good Anything :=
    beside.perform fun _ _ => ⟨rfl, rfl, rfl, rfl⟩
  apply subscribers.bind
  intro endpoints _
  have delivered : (Program.forEach endpoints (deliverTo now notice)).Keeps
    assumed good
      Anything := by
    apply Program.Keeps.forEach
    · intro endpoint _
      have created (delivery : WebhookDelivery) :
          (Program.perform (createDelivery "webhook.delivery" delivery)).Keeps
            assumed good Anything :=
        beside.perform fun _ _ => ⟨rfl, rfl, rfl, rfl⟩
      apply (created _).bind
      exact fun _ _ => (beside.enqueue _ _ _).discard trivial
    · exact trivial
  apply delivered.bind
  exact fun _ _ => trivial

theorem moveTransaction (now : Time) (input : MoveInput) (wallet : Wallet)
    (amount : Decimal) :
    (Wallets.moveTransaction now input wallet amount).Keeps assumed
      good Anything := by
  have ledger (site : Site) (row : WalletTransaction) :
      (Body.perform (createLedgerRow site row)).Keeps assumed good Anything :=
    .perform (beside.aside fun _ _ => ⟨rfl, rfl, rfl, rfl⟩)
  have read : (Body.perform (wallets.findUnique "move.read" wallet.key)).Keeps
    assumed good
      Anything :=
    .perform (beside.aside fun _ _ => ⟨rfl, rfl, rfl, rfl⟩)
  apply read.bind
  intro current _
  cases current with
  | none => exact trivial
  | some current =>
      dsimp only
      split
      · exact trivial
      split
      · exact trivial
      split
      · have decremented : (Body.perform (restingOn current input.ignoreFrozen
            (decrementBalance "move.decrement" wallet.key |amount|))).Keeps
              assumed good Anything := by
          apply Body.Keeps.perform
          apply beside.aside
          intro met world
          simp only [restingOn, decrementBalance]
          split
          · split
            · exact ⟨rfl, rfl, rfl, rfl⟩
            · exact ⟨rfl, rfl, rfl, rfl⟩
          · exact ⟨rfl, rfl, rfl, rfl⟩
        apply decremented.bind
        intro count _
        split
        · exact trivial
        · exact ledger _ _
      · have incremented : (Body.perform (restingOn current input.ignoreFrozen
            (incrementBalance "move.increment" wallet.key |amount|))).Keeps
              assumed good Anything :=
          .perform (beside.aside fun _ _ => ⟨rfl, rfl, rfl, rfl⟩)
        apply incremented.bind
        exact fun _ _ => ledger _ _

theorem move (now : Time) (input : MoveInput) :
    (Wallets.move now input).Keeps assumed good Anything := by
  unfold Wallets.move
  split
  · exact trivial
  · exact trivial
  split
  · exact trivial
  apply (beside.getWallet _ _).bind
  intro wallet _
  split
  · exact trivial
  · exact Program.Keeps.atomically (beside.moveTransaction now input wallet _)

theorem whenDispatch (condition : Prop) [Decidable condition] (now : Time)
    (notice : Dispatched) :
    (Program.when condition
      (Program.discard (Platform.dispatch now notice))).Keeps assumed
      good Anything :=
  Program.Keeps.when ((beside.dispatch now notice).discard trivial) trivial

omit beside in
/-- The row that a lookup by its number finds has that number. -/
theorem findUnique {Row : Type} {reference : Row → Reference}
    (relation : Relation reference) (site : Site) (wanted : Reference) :
    (Program.perform (relation.findUnique site wanted)).Keeps assumed good
      (fun found => ∀ row, found = some row → reference row = wanted) := by
  apply Program.Keeps.perform
  apply Query.Keeps.read fun _ _ => rfl
  intro met answer _ _ answered row found
  subst found
  exact Table.key_of_find? (Except.ok.inj answered)

theorem applyCollectionUpdate (now : Time) (reference : Reference)
    (record : ProviderRecord)
    (writes : ∀ nextStatus fee collection, collection.reference = reference →
      (updateCollection now record nextStatus fee collection).Keeps
        assumed good Anything) :
    (Payments.applyCollectionUpdate now reference record).Keeps assumed
      good Anything := by
  have finish (nextStatus : TxStatus) (fee : Option ComputedFee)
    (collection : Collection)
      (same : collection.reference = reference) :
      (finishCollection now record nextStatus fee collection).Keeps assumed
        good Anything := by
    unfold finishCollection
    split
    · exact trivial
    apply (Program.Keeps.perform (writes nextStatus fee collection same)).bind
    intro updated _
    have credited : (creditCollection now collection updated fee).Keeps assumed
      good
        Anything := by
      cases fee with
      | none => exact trivial
      | some fee => exact (beside.move _ _).discard trivial
    apply credited.bind
    intro _ _
    apply (beside.whenDispatch _ _ _).bind
    exact fun _ _ => trivial
  apply (findUnique _ _ _).bind
  intro collection found
  cases collection with
  | none => exact trivial
  | some collection =>
      have same := found collection rfl
      dsimp only
      split
      · exact trivial
      split
      · exact trivial
      split
      · apply (beside.computeFee _ _ _).bind
        exact fun _ _ => finish _ _ _ same
      · exact finish _ _ _ same

theorem applyDepositUpdate (now : Time) (reference : Reference)
    (record : ProviderRecord)
    (writes : ∀ nextStatus shouldCredit deposit, deposit.reference = reference →
      (updateDeposit now record nextStatus shouldCredit deposit).Keeps assumed
        good Anything) :
    (Payments.applyDepositUpdate now reference record).Keeps assumed
      good Anything := by
  have finish (nextStatus : TxStatus) (shouldCredit : Bool) (deposit : Deposit)
      (same : deposit.reference = reference) :
      (finishDeposit now record nextStatus shouldCredit deposit).Keeps assumed
        good Anything := by
    unfold finishDeposit
    split
    · exact trivial
    apply (Program.Keeps.perform
      (writes nextStatus shouldCredit deposit same)).bind
    intro updated _
    have credited : (Program.when (shouldCredit = true) (Program.discard
        (Wallets.move now (depositCredit deposit updated)))).Keeps assumed
          good Anything :=
      Program.Keeps.when ((beside.move _ _).discard trivial) trivial
    apply credited.bind
    intro _ _
    apply (beside.whenDispatch _ _ _).bind
    exact fun _ _ => trivial
  apply (findUnique _ _ _).bind
  intro deposit found
  cases deposit with
  | none => exact trivial
  | some deposit =>
      dsimp only
      split
      · exact trivial
      split
      · exact trivial
      · exact finish _ _ _ (found deposit rfl)

theorem recountBatch (now : Time) (batchId : Option Reference) :
    (Payments.recountBatch now batchId).Keeps assumed good Anything := by
  cases batchId with
  | none => exact trivial
  | some batchId =>
      apply beside.select.bind
      intro statuses _
      have updated : (Program.perform (updateBatch now batchId statuses)).Keeps
        assumed good
          Anything :=
        beside.perform fun _ _ => ⟨rfl, rfl, rfl, rfl⟩
      apply updated.bind
      exact fun _ _ => beside.whenDispatch _ _ _

theorem announcePayout (now : Time) (payout : Payout) (nextStatus : TxStatus) :
    (Payments.announcePayout now payout nextStatus).Keeps assumed
      good Anything := by
  unfold Payments.announcePayout
  split
  · apply beside.select.bind
    exact fun _ _ => (beside.dispatch _ _).discard trivial
  · exact (beside.dispatch _ _).discard trivial

theorem applyPayoutUpdate (now : Time) (reference : Reference)
    (record : ProviderRecord)
    (writes : ∀ nextStatus shouldRefund payout, payout.reference = reference →
      (updatePayout now record nextStatus shouldRefund payout).Keeps
        assumed good Anything) :
    (Payments.applyPayoutUpdate now reference record).Keeps assumed
      good Anything := by
  have finish (nextStatus : TxStatus) (shouldRefund : Bool) (payout : Payout)
      (same : payout.reference = reference) :
      (finishPayout now record nextStatus shouldRefund payout).Keeps assumed
        good Anything := by
    unfold finishPayout
    split
    · exact trivial
    apply (Program.Keeps.perform
      (writes nextStatus shouldRefund payout same)).bind
    intro _ _
    have refunded : (Program.when (shouldRefund = true) (Program.discard
        (Wallets.move now (payoutRefund payout)))).Keeps assumed
          good Anything :=
      Program.Keeps.when ((beside.move _ _).discard trivial) trivial
    apply refunded.bind
    intro _ _
    have announced : (Program.when (payout.status ∉ FINAL_STATUSES)
        (Payments.announcePayout now payout nextStatus)).Keeps assumed
          good Anything :=
      Program.Keeps.when (beside.announcePayout _ _ _) trivial
    apply announced.bind
    intro _ _
    apply (beside.recountBatch _ _).bind
    exact fun _ _ => trivial
  apply (findUnique _ _ _).bind
  intro payout found
  cases payout with
  | none => exact trivial
  | some payout =>
      dsimp only
      split
      · exact trivial
      split
      · exact trivial
      · exact finish _ _ _ (found payout rfl)

end

end Beside

end CloudStudio.Payouts
