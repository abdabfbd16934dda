import CloudStudio.Transactions.Statements
import CloudStudio.Payouts.Creation

/-!
# Laws of the creation paths

What the statements that create payouts change, for laws that look at neither
wallets, ledger, fee configurations nor jobs.
-/

namespace CloudStudio.Payouts

open CloudStudio.Data CloudStudio.Transactions CloudStudio.Platform
open CloudStudio.Payments
open CloudStudio.Wallets

/-- The law looks at neither wallets, ledger, fee configurations nor jobs. -/
def OverlooksMoney (law : World → World → Prop) : Prop :=
  ∀ world wallets ledger feeConfigs jobs,
    law world { world with wallets, ledger, feeConfigs, jobs }

variable {assumed : List Expectation} {alone inside : World → World → Prop}

theorem OverlooksMoney.refl {law : World → World → Prop}
    (overlooks : OverlooksMoney law) (world : World) : law world world :=
  overlooks world world.wallets world.ledger world.feeConfigs world.jobs

/-- What a program that returns anything returns. -/
abbrev Anything {Answer : Type} (_ : Answer) : Prop := True

section

variable (aloneOverlooks : OverlooksMoney alone)
include aloneOverlooks

theorem resolveAccountId_lawful (idOrPublicId : String) :
    (resolveAccountId idOrPublicId).Lawful assumed alone inside Anything := by
  unfold resolveAccountId
  split
  · exact trivial
  · apply (Program.Lawful.read aloneOverlooks.refl (fun _ => rfl)
      fun _ _ _ => trivial).bind
    intro byId _
    cases byId with
    | some account => exact trivial
    | none =>
        apply (Program.Lawful.read aloneOverlooks.refl (fun _ => rfl)
          fun _ _ _ => trivial).bind
        exact fun _ _ => trivial

theorem getWallet_lawful (accountId : String) (type : WalletType) :
    (getWallet accountId type).Lawful assumed alone inside Anything := by
  apply (resolveAccountId_lawful aloneOverlooks accountId).bind
  intro resolved _
  apply (Program.Lawful.read aloneOverlooks.refl (fun _ => rfl)
    fun _ _ _ => trivial).bind
  intro wallet _
  cases wallet <;> exact trivial

theorem findAccount_lawful (accountId : AccountId) :
    (findAccount accountId).Lawful assumed alone inside Anything := by
  apply (Program.Lawful.read aloneOverlooks.refl (fun _ => rfl)
    fun _ _ _ => trivial).bind
  intro account _
  cases account <;> exact trivial

theorem rejectRepeated_lawful (site : Site) (repeated : String → World → Bool)
    (message : String) (clientReference : Option String) :
    (rejectRepeated site repeated message clientReference).Lawful
      assumed alone inside Anything := by
  unfold rejectRepeated
  split
  · exact trivial
  · apply (Program.Lawful.read aloneOverlooks.refl (fun _ => rfl)
      fun _ _ _ => trivial).bind
    intro dupe _
    unfold Program.when
    split <;> exact trivial

theorem getConfig_lawful (accountId : AccountId) :
    (getConfig accountId).Lawful assumed alone inside Anything := by
  apply (Program.Lawful.read aloneOverlooks.refl (fun _ => rfl)
    fun _ _ _ => trivial).bind
  intro existing _
  cases existing with
  | some config => exact trivial
  | none =>
      constructor
      · intro world answer _ _
        exact ⟨aloneOverlooks world world.wallets world.ledger _ world.jobs,
          trivial⟩
      · intro _
        apply (Program.Lawful.read aloneOverlooks.refl (fun _ => rfl)
          fun _ _ _ => trivial).bind
        intro row _
        cases row <;> exact trivial

theorem computeFee_lawful (kind : FeeKind) (accountId : AccountId)
    (amount : NumberInput) :
    (computeFee kind accountId amount).Lawful assumed alone
      inside Anything := by
  apply (getConfig_lawful aloneOverlooks accountId).bind
  intro config _
  cases amount <;> exact trivial

theorem enqueue_lawful (site : Site) (now : Time) (payload : JobPayload) :
    (enqueue site now payload).Lawful assumed alone inside Anything := by
  apply Program.Lawful.perform
  intro world answer _ _
  exact ⟨aloneOverlooks world world.wallets world.ledger world.feeConfigs _,
    trivial⟩

/-- The checks of a payout come to a row of the account and channel. -/
theorem preparePayout_lawful (now : Time) (random : List Char)
    (accountId : AccountId) (channel : PayoutChannel) (dto : PayoutDto) :
    (preparePayout now random accountId channel dto).Lawful assumed alone inside
      (fun hold => hold.payout.accountId = accountId ∧
        hold.payout.channel = channel) := by
  apply (findAccount_lawful aloneOverlooks accountId).bind
  intro account _
  split
  · exact trivial
  · apply (rejectRepeated_lawful aloneOverlooks _ _ _ _).bind
    intro _ _
    apply (computeFee_lawful aloneOverlooks _ _ _).bind
    exact fun _ _ => ⟨rfl, rfl⟩

end

/-- The statements of a movement write wallets and ledger. -/
theorem moveTransaction_lawful (insideOverlooks : OverlooksMoney inside)
    (now : Time) (input : MoveInput) (wallet : Wallet) (amount : Decimal)
    {post : WalletTransaction → Prop} (holds : ∀ row, post row) :
    (moveTransaction now input wallet amount).Lawful assumed inside post := by
  have ledger (site : Site) (row : WalletTransaction) :
      (Body.perform (createLedgerRow site row)).Lawful assumed inside post := by
    constructor
    · intro world answer _ _
      exact ⟨insideOverlooks world world.wallets _ world.feeConfigs world.jobs,
        holds answer⟩
    · exact fun _ => trivial
  simp only [moveTransaction, Body.bind_perform]
  refine Body.Lawful.read insideOverlooks.refl (fun _ => rfl) ?_
    fun _ => trivial
  intro world current _
  cases current with
  | none => exact trivial
  | some current =>
      dsimp only
      split
      · exact trivial
      split
      · exact trivial
      split
      · refine ⟨?_, fun _ => trivial⟩
        intro world count _ _
        constructor
        · simp only [restingOn, decrementBalance]
          split
          · split
            · exact insideOverlooks world _ world.ledger world.feeConfigs
                world.jobs
            · exact insideOverlooks.refl world
          · exact insideOverlooks.refl world
        · dsimp only
          split
          · exact trivial
          · exact ledger _ _
      · refine ⟨?_, fun _ => trivial⟩
        intro world updated _ _
        exact ⟨insideOverlooks world _ world.ledger world.feeConfigs world.jobs,
          ledger _ _⟩

theorem move_lawful (aloneOverlooks : OverlooksMoney alone)
    (insideOverlooks : OverlooksMoney inside) (now : Time) (input : MoveInput) :
    (move now input).Lawful assumed alone inside Anything := by
  unfold move
  split
  · exact trivial
  · exact trivial
  split
  · exact trivial
  apply (getWallet_lawful aloneOverlooks _ _).bind
  intro wallet _
  split
  · exact trivial
  · exact ⟨moveTransaction_lawful insideOverlooks now input wallet _ fun _ =>
      trivial, fun _ => trivial⟩

/-- A single payout: besides money, one row of the account and channel is
created. -/
theorem createPayout_lawful (aloneOverlooks : OverlooksMoney alone)
    (insideOverlooks : OverlooksMoney inside) (now : Time) (random : List Char)
    (accountId : AccountId) (channel : PayoutChannel) (dto : PayoutDto)
    (creates : ∀ world payout, payout.accountId = accountId →
      payout.channel = channel →
      world.payouts.find? payout.reference = none →
      alone world { world with payouts := world.payouts.insert payout }) :
    (createPayout now random accountId channel dto).Lawful assumed alone
      inside Anything := by
  apply (preparePayout_lawful aloneOverlooks now random accountId
    channel dto).bind
  intro hold prepared
  unfold holdAndQueue
  apply (move_lawful aloneOverlooks insideOverlooks now hold.debit).bind
  intro _ _
  have created :
    (Program.perform (payouts.create "payout.create" hold.payout)).Lawful
    assumed
      alone inside Anything := by
    apply Program.Lawful.perform
    intro world answer _ answered
    obtain ⟨fresh, _⟩ := Relation.create_ok answered
    exact ⟨creates world hold.payout prepared.1 prepared.2 fresh, trivial⟩
  apply created.bind
  intro payout _
  apply (enqueue_lawful aloneOverlooks _ _ _).bind
  exact fun _ _ => trivial

theorem resolveRecipient_lawful (aloneOverlooks : OverlooksMoney alone)
    (now : Time) (tokenHash : String) (dto : PayoutLinkDetails)
    (beneficiaryName : Option String) :
    (resolvePayoutLinkRecipient now tokenHash dto beneficiaryName).Lawful
      assumed alone inside Anything := by
  have active : (findActivePayoutLink now tokenHash).Lawful assumed alone
    inside Anything := by
    apply (Program.Lawful.read aloneOverlooks.refl (fun _ => rfl)
      fun _ _ _ => trivial).bind
    intro link _
    cases link with
    | none => exact trivial
    | some link =>
        dsimp only
        split <;> exact trivial
  apply active.bind
  intro _ _
  split <;> exact trivial

/-- A confirmation: besides money and one mobile-money row, it writes its
link. -/
theorem confirmPayoutLink_lawful (aloneOverlooks : OverlooksMoney alone)
    (insideOverlooks : OverlooksMoney inside) (times : ConfirmTimes)
    (random : List Char) (tokenHash : String) (dto : PayoutLinkDetails)
    (beneficiaryName : Option String)
    (redeems : ∀ world now resolved, inside world
      { world with
        payoutLinks :=
          world.payoutLinks.modify tokenHash (redeemed now resolved)
          (redeemed_tokenHash now resolved) })
    (creates : ∀ world payout, payout.channel = .mobileMoney →
      world.payouts.find? payout.reference = none →
      alone world { world with payouts := world.payouts.insert payout })
    (notes : ∀ world now payoutId, alone world
      { world with
        payoutLinks :=
          world.payoutLinks.modify tokenHash (paidLink now payoutId)
          (paidLink_tokenHash now payoutId) }) :
    (confirmPayoutLink times random tokenHash dto beneficiaryName).Lawful
      assumed alone inside Anything := by
  apply (resolveRecipient_lawful aloneOverlooks times.checked tokenHash dto
    beneficiaryName).bind
  intro resolved _
  have redemption : (Program.atomically "payoutLink.commit"
      (redeemLink times.locked tokenHash resolved)).Lawful assumed alone
        inside Anything := by
    refine ⟨?_, fun _ => trivial⟩
    simp only [redeemLink, Body.bind_perform]
    refine Body.Lawful.read insideOverlooks.refl (fun _ => rfl) ?_
      fun _ => trivial
    intro world row _
    cases row with
    | none => exact trivial
    | some row =>
        dsimp only
        split
        · exact trivial
        split
        · exact trivial
        · exact ⟨fun world _ _ _ => ⟨redeems world _ _, trivial⟩,
            fun _ => trivial⟩
  apply redemption.bind
  intro link _
  apply (createPayout_lawful aloneOverlooks insideOverlooks times.created random
    link.accountId .mobileMoney (linkPayout link resolved)
    fun world payout _ channel fresh => creates world payout channel fresh).bind
  intro payout _
  have noted :
    (Program.perform (markPaid times.created tokenHash payout.reference)).Lawful
      assumed alone inside Anything := by
    apply Program.Lawful.perform
    exact fun world _ _ _ => ⟨notes world _ _, trivial⟩
  apply noted.bind
  exact fun _ _ => trivial

end CloudStudio.Payouts
