import CloudStudio.Payments.Credited
import CloudStudio.Payments.Initiation

/-!
# Currencies of credits

A wallet stamps its own currency on what it is credited with.  The amount is in
the currency that the provider's record gives, or else in the one the payment
was requested in; the engine compares neither with the wallet's.
-/

namespace CloudStudio.Payments

open CloudStudio.Data CloudStudio.Transactions CloudStudio.Platform
open CloudStudio.Wallets

inductive CurrencyPush where
  | collection
  | deposit
  deriving DecidableEq

/-- A request for a payment, or a record of the provider that reaches the
engine. -/
inductive CurrencyCall where
  | collection (now : Time) (random again : List Char) (accountId : AccountId)
      (dto : UssdPushInitiate) (result : ProviderResult ProviderRecord)
  | deposit (now : Time) (random : List Char) (accountId : AccountId)
      (dto : UssdPushInitiate) (result : ProviderResult ProviderRecord)
  | collectionRecord (now : Time) (reference : Reference)
      (record : ProviderRecord)
  | depositRecord (now : Time) (reference : Reference) (record : ProviderRecord)

/-- The currency of the row under a reference. -/
def currencyOf (world : World) : CurrencyPush → Reference → Option String
  | .collection, reference =>
      (world.collections.find? reference).map Collection.currency
  | .deposit, reference => (world.deposits.find? reference).map Deposit.currency

namespace CurrencyCall

/-- The state a call leaves, however it ends. -/
def after : CurrencyCall → World → World
  | .collection now random again accountId dto result, world =>
      ((initiateCollection now random again accountId dto fun _ => result).run
        world).2
  | .deposit now random accountId dto result, world =>
      ((initiateDeposit now random accountId dto fun _ => result).run world).2
  | .collectionRecord now reference record, world =>
      ((applyCollectionUpdate now reference record).run world).2
  | .depositRecord now reference record, world =>
      ((applyDepositUpdate now reference record).run world).2

/-- The currency of an amount credited by a call: the record's, else the
row's. -/
def denomination : CurrencyCall → World → Option String
  | .collectionRecord _ reference record, world =>
      record.collectedCurrency.value?.or
        (currencyOf world .collection reference)
  | .depositRecord _ reference record, world =>
      record.collectedCurrency.value?.or (currencyOf world .deposit reference)
  | _, _ => none

/-- The credits of a call: the currency of the amount and that of the wallet. -/
def credits (call : CurrencyCall) (world : World) :
    List (Option String × String) :=
  ((call.after world).ledger.drop world.ledger.length).filterMap fun row =>
    (world.wallets.find? row.walletId).map fun wallet =>
      (call.denomination world, wallet.currency)

/-- What a call has requested: the references of its new rows and the currency
asked for, which is TZS unless the request names one. -/
def requests : CurrencyCall → World → List (CurrencyPush × Reference × String)
  | .collection now random again accountId dto result, world =>
      (((initiateCollection now random again accountId dto fun _ => result).run
          world).2.collections.rows.filter fun row =>
        (world.collections.find? row.reference).isNone).map fun row =>
          (.collection, row.reference, dto.currency.getD "TZS")
  | .deposit now random accountId dto result, world =>
      (((initiateDeposit now random accountId dto fun _ => result).run
          world).2.deposits.rows.filter fun row =>
        (world.deposits.find? row.reference).isNone).map fun row =>
          (.deposit, row.reference, dto.currency.getD "TZS")
  | .collectionRecord .., _ => []
  | .depositRecord .., _ => []

end CurrencyCall

/-- Whenever a wallet is credited, the amount is in the wallet's currency. -/
def OwnCurrency : List CurrencyCall → World → Prop
  | [], _ => True
  | call :: rest, world =>
      (∀ credit ∈ call.credits world, credit.1 = some credit.2) ∧
        OwnCurrency rest (call.after world)

/-- The record makes the engine credit the wallet: it is the first success of a
collection that exists, and the wallet takes the net amount. -/
def CollectionCredits (now : Time) (reference : Reference)
    (record : ProviderRecord) (world : World) (wallet : Wallet) : Prop :=
  ∃ collection basis amount,
    world.collections.find? reference = some collection ∧
    record.nextStatus? = some .success ∧ collection.status ≠ .success ∧
    collection.walletCreditedAt = none ∧ record.FitsPayment ∧
    feeBasis record collection = .value basis ∧
    MoveAllowed (creditOf now record .success
      ((world.configOf collection.accountId).fee .collection basis) collection)
        world wallet
      amount

def DepositCredits (now : Time) (reference : Reference)
    (record : ProviderRecord) (world : World) (wallet : Wallet) : Prop :=
  ∃ deposit amount, world.deposits.find? reference = some deposit ∧
    record.nextStatus? = some .success ∧ deposit.status ≠ .success ∧
    deposit.walletCreditedAt = none ∧ record.FitsPayment ∧
    MoveAllowed (depositCreditOf now record .success deposit)
      world wallet amount

/-- The record names the wallet's currency, or names none and the payment was
requested in the wallet's currency. -/
def CurrencyAgrees (past : List (CurrencyPush × Reference × String))
    (push : CurrencyPush) (reference : Reference) (record : ProviderRecord)
    (wallet : Wallet) : Prop :=
  record.collectedCurrency.value?.elim
    (∀ requested, (push, reference, requested) ∈ past →
      requested = wallet.currency)
    (· = wallet.currency)

def CurrencyCall.Agrees (past : List (CurrencyPush × Reference × String))
    (world : World) :
    CurrencyCall → Prop
  | .collectionRecord now reference record => ∀ wallet,
      CollectionCredits now reference record world wallet →
        CurrencyAgrees past .collection reference record wallet
  | .depositRecord now reference record => ∀ wallet,
      DepositCredits now reference record world wallet →
        CurrencyAgrees past .deposit reference record wallet
  | _ => True

/-- Every record that makes the engine credit a wallet agrees with it. -/
def CurrenciesAgree :
    List CurrencyCall → List (CurrencyPush × Reference × String) → World → Prop
  | [], _, _ => True
  | call :: rest, past, world =>
      call.Agrees past world ∧
        CurrenciesAgree rest (past ++ call.requests world) (call.after world)

/-- The rows are as they were asked for. -/
def Remembers (past : List (CurrencyPush × Reference × String))
    (world : World) : Prop :=
  ∀ push reference currency,
    (push, reference, currency) ∈ past ↔
      currencyOf world push reference = some currency

/-- At most one row is new, and it is in the currency asked for. -/
def Requested (push : CurrencyPush) (currency : String) (before after : World) :
    Prop :=
  (∀ other reference, currencyOf after other reference =
    currencyOf before other reference) ∨
    ∃ added, currencyOf before push added = none ∧ ∀ other reference,
      currencyOf after other reference =
        if (other, reference) = (push, added) then some currency
        else currencyOf before other reference

theorem run_of_holds {Result : Type} {program : Db Result} {world : World}
    {post : Result → World → Prop} {rest : World → Prop}
    (holds : program.Holds (· = world) post rest)
    (weaker : ∀ result after, post result after → rest after) :
    rest (program.run world).2 := by
  have ends := holds (fun _ => none) world rfl
  rw [Program.exec_noFaults] at ends
  rcases ran : program.run world with ⟨error | result, after⟩
  · rw [ran] at ends
    exact ends
  · rw [ran] at ends
    exact weaker result after ends

/-- The currencies of the rows of a table after a request: at most one is
new. -/
theorem Pushed.currencies {Row : Type} {reference : Row → Reference}
    {relation : Relation reference} {row : Row} {fail : Row → Row}
    {keeps : ∀ row, reference (fail row) = reference row} {world after : World}
    (pushed : Pushed relation row fail keeps world after)
    (puts : ∀ table world, relation.table (relation.put table world) = table)
    (currency : Row → String)
    (kept : ∀ row, currency (fail row) = currency row) :
    relation.table after = relation.table world ∨
      (relation.table world).find? (reference row) = none ∧
        ∀ wanted, ((relation.table after).find? wanted).map currency =
          if wanted = reference row then some (currency row)
          else ((relation.table world).find? wanted).map currency := by
  have inserted (fresh : (relation.table world).find? (reference row) = none)
      (wanted : Reference) :
        (((relation.table world).insert row).find? wanted).map currency =
        if wanted = reference row then some (currency row)
        else ((relation.table world).find? wanted).map currency := by
    rw [Table.find?_insert]
    by_cases same : wanted = reference row
    · rw [if_pos same, if_pos same.symm, same, fresh]
      rfl
    · rw [if_neg same, if_neg (Ne.symm same), Option.or_none]
  cases pushed with
  | nothing => exact .inl rfl
  | created fresh =>
      refine .inr ⟨fresh, fun wanted => ?_⟩
      rw [puts]
      exact inserted fresh wanted
  | refused created fresh same =>
      refine .inr ⟨fresh, fun wanted => ?_⟩
      rw [puts, Table.find?_modify, ← inserted fresh wanted, same, puts]
      split
      · rw [Option.map_map]
        exact congrArg (fun change => Option.map change _) (funext kept)
      · rfl

theorem initiateCollection_requested (now : Time) (random again : List Char)
    (accountId : AccountId) (dto : UssdPushInitiate)
    (result : ProviderResult ProviderRecord) (world : World) :
    let after :=
      ((initiateCollection now random again accountId dto fun _ => result).run
      world).2
    after.ledger = world.ledger ∧
      Requested .collection (dto.currency.getD "TZS") world after := by
  intro after
  have initiates : Initiates collections
      (fun orderRef => newCollection now accountId dto orderRef result)
      (failedCollection now result.error)
        (failedCollection_reference now result.error)
      (builtReference world again accountId dto.reference) world after :=
    run_of_holds
      (initiateCollection_holds now random again accountId dto result) (by
      rintro _ _ ⟨orderRef, built, fresh, rfl⟩
      exact .inr ⟨orderRef, built, .created fresh⟩)
  clear_value after
  rcases initiates with same | ⟨orderRef, _, pushed⟩
  · rw [same]
    exact ⟨rfl, .inl fun _ _ => rfl⟩
  have aside : after.ledger = world.ledger ∧
    after.deposits = world.deposits := by
    cases pushed with
    | nothing => exact ⟨rfl, rfl⟩
    | created _ => exact ⟨rfl, rfl⟩
    | refused created _ same =>
        subst same
        exact ⟨rfl, rfl⟩
  refine ⟨aside.1, ?_⟩
  rcases pushed.currencies (fun _ _ => rfl) Collection.currency
    fun _ => rfl with
    same | ⟨fresh, stored⟩
  · left
    rintro (_ | _) wanted
    · exact congrArg
        (fun table => (Table.find? table wanted).map Collection.currency) same
    · exact congrArg
        (fun table => (Table.find? table wanted).map Deposit.currency) aside.2
  · refine .inr ⟨orderRef, congrArg (Option.map Collection.currency) fresh, ?_⟩
    rintro (_ | _) wanted
    · refine (stored wanted).trans ?_
      by_cases same : wanted = orderRef
      · simp [newCollection, same]
      · simp only [newCollection, same, Prod.mk.injEq, and_false, if_false]
        rfl
    · rw [if_neg (by simp)]
      exact congrArg
        (fun table => (Table.find? table wanted).map Deposit.currency) aside.2

theorem initiateDeposit_requested (now : Time) (random : List Char)
    (accountId : AccountId) (dto : UssdPushInitiate)
    (result : ProviderResult ProviderRecord) (world : World) :
    let after :=
      ((initiateDeposit now random accountId dto fun _ => result).run world).2
    after.ledger = world.ledger ∧
      Requested .deposit (dto.currency.getD "TZS") world after := by
  intro after
  have initiates : after = world ∨ ∃ wallet, Initiates deposits
      (fun reference => newDeposit now accountId wallet dto reference result)
      (failedDeposit now result.error)
        (failedDeposit_reference now result.error)
      (builtReference world random accountId dto.reference) world after :=
    run_of_holds (initiateDeposit_holds now random accountId dto result) (by
      rintro _ _ ⟨wallet, orderRef, built, fresh, rfl⟩
      exact .inr ⟨wallet, .inr ⟨orderRef, built, .created fresh⟩⟩)
  clear_value after
  rcases initiates with same | ⟨wallet, same | ⟨orderRef, _, pushed⟩⟩
  · rw [same]
    exact ⟨rfl, .inl fun _ _ => rfl⟩
  · rw [same]
    exact ⟨rfl, .inl fun _ _ => rfl⟩
  have aside : after.ledger = world.ledger ∧ after.collections =
    world.collections := by
    cases pushed with
    | nothing => exact ⟨rfl, rfl⟩
    | created _ => exact ⟨rfl, rfl⟩
    | refused created _ same =>
        subst same
        exact ⟨rfl, rfl⟩
  refine ⟨aside.1, ?_⟩
  rcases pushed.currencies (fun _ _ => rfl) Deposit.currency fun _ => rfl with
    same | ⟨fresh, stored⟩
  · left
    rintro (_ | _) wanted
    · exact congrArg
        (fun table => (Table.find? table wanted).map Collection.currency)
        aside.2
    · exact congrArg
        (fun table => (Table.find? table wanted).map Deposit.currency) same
  · refine .inr ⟨orderRef, congrArg (Option.map Deposit.currency) fresh, ?_⟩
    rintro (_ | _) wanted
    · rw [if_neg (by simp)]
      exact congrArg
        (fun table => (Table.find? table wanted).map Collection.currency)
        aside.2
    · refine (stored wanted).trans ?_
      by_cases same : wanted = orderRef
      · simp [newDeposit, same]
      · simp only [newDeposit, same, Prod.mk.injEq, and_false, if_false]
        rfl

/-- A record credits no wallet, or one. -/
def CreditsOnly (world after : World) (credited : Option Wallet) : Prop :=
  match credited with
  | none => after.ledger = world.ledger
  | some wallet => world.wallets.find? wallet.key = some wallet ∧
      ∃ row, after.ledger = world.ledger ++ [row] ∧ row.walletId = wallet.key

theorem noticed_ledger {notices : List Dispatched} {before after : World}
    (noticed : Noticed notices before after) :
    after.ledger = before.ledger ∧ after.collections = before.collections ∧
      after.deposits = before.deposits := by
  obtain ⟨_, _, rfl⟩ := noticed
  exact ⟨rfl, rfl, rfl⟩

theorem withConfig_ledger (world : World) (accountId : AccountId) :
    (world.withConfig accountId).ledger = world.ledger ∧
      (world.withConfig accountId).collections = world.collections ∧
      (world.withConfig accountId).deposits = world.deposits := by
  unfold World.withConfig
  split <;> exact ⟨rfl, rfl, rfl⟩

/-- An update keeps the currency its row has. -/
theorem currencyOf_modify {Row : Type} {reference : Row → Reference}
    (table : Table reference) (changed wanted : Reference) {change : Row → Row}
    {keeps : ∀ row, reference (change row) = reference row}
    (currency : Row → String)
    (kept : ∀ row, currency (change row) = currency row) :
    ((table.modify changed change keeps).find? wanted).map currency =
      (table.find? wanted).map currency := by
  rw [Table.find?_modify]
  split
  · rw [Option.map_map]
    exact congrArg (fun change => Option.map change _) (funext kept)
  · rfl

theorem collectionRecord_currencies (now : Time) (reference : Reference)
    (record : ProviderRecord) (world : World) (push : CurrencyPush)
    (wanted : Reference) :
    currencyOf ((applyCollectionUpdate now reference record).run world).2 push
      wanted = currencyOf world push wanted := by
  have writes (nextStatus : TxStatus) (fee : Option ComputedFee)
    (collection : Collection)
      {before after : World} (collections : before.collections =
        world.collections)
      (deposits : before.deposits = world.deposits)
      (written : after.collections =
        (withCollection now record nextStatus fee collection
          before).collections)
      (aside : after.deposits = before.deposits) :
      currencyOf after push wanted = currencyOf world push wanted := by
    cases push with
    | collection =>
        simp only [currencyOf, written, withCollection, collections]
        exact currencyOf_modify _ _ _ Collection.currency fun _ => rfl
    | deposit => simp only [currencyOf, aside, deposits]
  have ran := run_applyCollectionUpdate now reference record world
  generalize (applyCollectionUpdate now reference record).run world =
    ended at ran ⊢
  obtain ⟨answer, after⟩ := ended
  cases ran with
  | unknown | unreadable | unchanged => rfl
  | refused collection nextStatus left _ _ _ _ same =>
      rcases same with rfl | rfl
      · rfl
      · obtain ⟨_, collections, deposits⟩ :=
          withConfig_ledger world collection.accountId
        cases push <;> simp only [currencyOf, collections, deposits]
  | written collection nextStatus _ _ _ _ _ _ noticed =>
      obtain ⟨_, collections, deposits⟩ := noticed_ledger noticed
      exact writes nextStatus none collection rfl rfl collections deposits
  | credited collection nextStatus basis fee wallet amount _ _ _ _ _ _
      _ _ _ noticed =>
      obtain ⟨_, before, aside⟩ := withConfig_ledger world collection.accountId
      obtain ⟨_, collections, deposits⟩ := noticed_ledger noticed
      exact writes nextStatus (some fee) collection before aside
        collections deposits
  | uncredited collection nextStatus basis fee _ =>
      obtain ⟨_, before, aside⟩ := withConfig_ledger world collection.accountId
      exact writes nextStatus (some fee) collection before aside rfl rfl

theorem depositRecord_currencies (now : Time) (reference : Reference)
    (record : ProviderRecord) (world : World) (push : CurrencyPush)
    (wanted : Reference) :
    currencyOf ((applyDepositUpdate now reference record).run world).2 push
      wanted = currencyOf world push wanted := by
  have writes (nextStatus : TxStatus) (credits : Bool) (deposit : Deposit)
    {after : World}
      (written : after.deposits =
        (withDeposit now record nextStatus credits deposit world).deposits)
      (aside : after.collections = world.collections) :
      currencyOf after push wanted = currencyOf world push wanted := by
    cases push with
    | collection => simp only [currencyOf, aside]
    | deposit =>
        simp only [currencyOf, written, withDeposit]
        exact currencyOf_modify _ _ _ Deposit.currency fun _ => rfl
  have ran := run_applyDepositUpdate now reference record world
  generalize (applyDepositUpdate now reference record).run world =
    ended at ran ⊢
  obtain ⟨answer, after⟩ := ended
  cases ran with
  | unknown | unreadable | unchanged | refused => rfl
  | written deposit nextStatus _ _ _ _ _ _ noticed =>
      obtain ⟨_, collections, deposits⟩ := noticed_ledger noticed
      exact writes nextStatus false deposit deposits collections
  | credited deposit nextStatus wallet amount _ _ _ _ _ _ _ noticed =>
      obtain ⟨_, collections, deposits⟩ := noticed_ledger noticed
      exact writes nextStatus true deposit deposits collections
  | uncredited deposit nextStatus _ =>
      exact writes nextStatus true deposit rfl rfl

/-- Nobody is credited, and the ledger is as it was. -/
theorem creditsOnly_nobody {world after : World} {credits : Wallet → Prop}
    (same : after.ledger = world.ledger) (nobody : ∀ wallet, ¬ credits wallet) :
    ∃ credited, CreditsOnly world after credited ∧
      ∀ wallet, credits wallet ↔ credited = some wallet :=
  ⟨none, same, fun wallet => by simp [nobody wallet]⟩

theorem collectionRecord_credits (now : Time) (reference : Reference)
    (record : ProviderRecord) (world : World) :
    ∃ credited,
      CreditsOnly world
      ((applyCollectionUpdate now reference record).run world).2
      credited ∧ ∀ wallet, CollectionCredits now reference record world wallet ↔
        credited = some wallet := by
  have ran := run_applyCollectionUpdate now reference record world
  generalize (applyCollectionUpdate now reference record).run world =
    ended at ran ⊢
  obtain ⟨answer, after⟩ := ended
  cases ran with
  | unknown absent =>
      refine creditsOnly_nobody rfl ?_
      rintro wallet ⟨collection, basis, amount, found, _⟩
      rw [absent] at found
      cases found
  | unreadable collection _ unreadable =>
      refine creditsOnly_nobody rfl ?_
      rintro wallet ⟨_, basis, amount, _, success, _⟩
      rw [unreadable] at success
      cases success
  | unchanged collection nextStatus stored mapped _ same =>
      refine creditsOnly_nobody rfl ?_
      rintro wallet ⟨other, basis, amount, found, success, unpaid, _⟩
      rw [stored] at found
      rw [mapped] at success
      cases found
      cases success
      exact unpaid same
  | refused collection nextStatus left _ _ _ unfit same =>
      refine creditsOnly_nobody ?_ ?_
      · rcases same with rfl | rfl
        · rfl
        · exact (withConfig_ledger world collection.accountId).1
      · rintro wallet ⟨_, basis, amount, _, _, _, _, fits, _⟩
        exact unfit fits
  | written collection nextStatus _ stored mapped _ _ undue noticed =>
      refine creditsOnly_nobody (noticed_ledger noticed).1 ?_
      rintro wallet ⟨other, basis, amount, found, success, _, uncredited, _⟩
      rw [stored] at found
      rw [mapped] at success
      cases found
      cases success
      exact undue ⟨rfl, uncredited⟩
  | credited collection nextStatus basis fee wallet amount _ stored mapped
      changes fits due basis_eq fee_eq allowed noticed =>
      refine ⟨some wallet, ⟨allowed.found_key, ?_⟩, ?_⟩
      · rw [(noticed_ledger noticed).1]
        exact ⟨_,
          congrArg (· ++ [_]) (withConfig_ledger world collection.accountId).1,
          rfl⟩
      · intro other
        obtain ⟨rfl, uncredited⟩ := due
        subst fee_eq
        constructor
        · rintro ⟨_, _, amount', found, _, _, _, _, basis_eq', allowed'⟩
          rw [stored] at found
          cases found
          rw [basis_eq] at basis_eq'
          cases basis_eq'
          exact allowed.found.symm.trans allowed'.found
        · intro same
          cases same
          refine ⟨collection, basis, amount, stored, mapped, ?_, uncredited,
            fits, basis_eq, allowed⟩
          exact fun paid => changes ⟨by rw [paid]; decide, paid⟩
  | uncredited collection nextStatus basis fee _ stored mapped _ _ due
      basis_eq fee_eq refuses =>
      refine creditsOnly_nobody (withConfig_ledger world collection.accountId).1
        ?_
      rintro wallet ⟨other, basis', amount, found, _, _, _, _,
        basis_eq', allowed⟩
      obtain ⟨rfl, _⟩ := due
      rw [stored] at found
      cases found
      rw [basis_eq] at basis_eq'
      cases basis_eq'
      subst fee_eq
      exact refuses wallet amount allowed

theorem depositRecord_credits (now : Time) (reference : Reference)
    (record : ProviderRecord) (world : World) :
    ∃ credited,
      CreditsOnly world ((applyDepositUpdate now reference record).run world).2
      credited ∧ ∀ wallet, DepositCredits now reference record world wallet ↔
        credited = some wallet := by
  have ran := run_applyDepositUpdate now reference record world
  generalize (applyDepositUpdate now reference record).run world =
    ended at ran ⊢
  obtain ⟨answer, after⟩ := ended
  cases ran with
  | unknown absent =>
      refine creditsOnly_nobody rfl ?_
      rintro wallet ⟨deposit, amount, found, _⟩
      rw [absent] at found
      cases found
  | unreadable deposit _ unreadable =>
      refine creditsOnly_nobody rfl ?_
      rintro wallet ⟨_, amount, _, success, _⟩
      rw [unreadable] at success
      cases success
  | unchanged deposit nextStatus stored mapped _ same =>
      refine creditsOnly_nobody rfl ?_
      rintro wallet ⟨other, amount, found, success, unpaid, _⟩
      rw [stored] at found
      rw [mapped] at success
      cases found
      cases success
      exact unpaid same
  | refused deposit nextStatus _ _ _ unfit =>
      refine creditsOnly_nobody rfl ?_
      rintro wallet ⟨_, amount, _, _, _, _, fits, _⟩
      exact unfit fits
  | written deposit nextStatus _ stored mapped _ _ undue noticed =>
      refine creditsOnly_nobody (noticed_ledger noticed).1 ?_
      rintro wallet ⟨other, amount, found, success, _, uncredited, _⟩
      rw [stored] at found
      rw [mapped] at success
      cases found
      cases success
      exact undue ⟨rfl, uncredited⟩
  | credited deposit nextStatus wallet amount _ stored mapped changes
      fits due allowed noticed =>
      refine ⟨some wallet, ⟨allowed.found_key, ?_⟩, ?_⟩
      · rw [(noticed_ledger noticed).1]
        exact ⟨_, rfl, rfl⟩
      · intro other
        obtain ⟨rfl, uncredited⟩ := due
        constructor
        · rintro ⟨_, amount', found, _, _, _, _, allowed'⟩
          rw [stored] at found
          cases found
          exact allowed.found.symm.trans allowed'.found
        · intro same
          cases same
          refine ⟨deposit, amount, stored, mapped, ?_, uncredited, fits,
            allowed⟩
          exact fun paid => changes ⟨by rw [paid]; decide, paid⟩
  | uncredited deposit nextStatus _ stored mapped _ _ due refuses =>
      refine creditsOnly_nobody rfl ?_
      rintro wallet ⟨other, amount, found, _, _, _, _, allowed⟩
      obtain ⟨rfl, _⟩ := due
      rw [stored] at found
      cases found
      exact refuses wallet amount allowed

/-! ## Run after run -/

variable {past : List (CurrencyPush × Reference × String)} {world : World}

/-- New rows in the currency asked for are remembered. -/
theorem Remembers.append {after : World} {push : CurrencyPush}
    {currency : String} {requested : List (CurrencyPush × Reference × String)}
    (remembers : Remembers past world)
    (step : Requested push currency world after)
    (listed : ∀ other reference asked, (other, reference, asked) ∈ requested ↔
      other = push ∧ asked = currency ∧ currencyOf world push reference = none ∧
        (currencyOf after push reference).isSome) :
    Remembers (past ++ requested) after := by
  intro other reference asked
  rw [List.mem_append, remembers, listed]
  rcases step with same | ⟨added, fresh, stored⟩
  · rw [same, same]
    constructor
    · rintro (before | ⟨_, _, absent, present⟩)
      · exact before
      · rw [absent] at present
        cases present
    · exact .inl
  · rw [stored, stored]
    by_cases new : (other, reference) = (push, added)
    · obtain ⟨rfl, rfl⟩ := Prod.mk.inj new
      rw [if_pos rfl, fresh]
      simp [eq_comm]
    · rw [if_neg new]
      constructor
      · rintro (before | ⟨rfl, _, absent, present⟩)
        · exact before
        · rw [if_neg new, absent] at present
          cases present
      · exact .inl

/-- The requests of a call are remembered. -/
theorem CurrencyCall.remembers (call : CurrencyCall)
    (remembers : Remembers past world) :
    Remembers (past ++ call.requests world) (call.after world) := by
  have fresh {Row : Type} {reference : Row → Reference}
    (before after : Table reference)
      (currency : Row → String) (push : CurrencyPush) (asked : String)
        (other : CurrencyPush)
      (wanted : Reference) (given : String) :
      (other, wanted, given) ∈ ((after.rows.filter fun row =>
          (before.find? (reference row)).isNone).map fun row =>
            (push, reference row, asked)) ↔
        other = push ∧ given = asked ∧
          (before.find? wanted).map currency = none ∧
          ((after.find? wanted).map currency).isSome := by
    simp only [List.mem_map, List.mem_filter, Option.isNone_iff_eq_none,
      Prod.mk.injEq, Option.map_eq_none_iff, Option.isSome_map]
    constructor
    · rintro ⟨row, ⟨stored, absent⟩, rfl, rfl, rfl⟩
      exact ⟨rfl, rfl, absent,
        Option.isSome_of_eq_some (Table.find?_of_mem stored)⟩
    · rintro ⟨rfl, rfl, absent, present⟩
      obtain ⟨row, found⟩ := Option.isSome_iff_exists.mp present
      have key := Table.key_of_find? found
      subst key
      exact ⟨row, ⟨Table.mem_of_find? found, absent⟩, rfl, rfl, rfl⟩
  cases call with
  | collection now random again accountId dto result =>
      refine remembers.append
        (initiateCollection_requested now random again accountId dto
          result world).2 ?_
      exact fresh _ _ Collection.currency .collection _
  | deposit now random accountId dto result =>
      refine remembers.append
        (initiateDeposit_requested now random accountId dto result world).2 ?_
      exact fresh _ _ Deposit.currency .deposit _
  | collectionRecord now reference record =>
      rw [requests, List.append_nil]
      intro push wanted currency
      rw [after, collectionRecord_currencies]
      exact remembers push wanted currency
  | depositRecord now reference record =>
      rw [requests, List.append_nil]
      intro push wanted currency
      rw [after, depositRecord_currencies]
      exact remembers push wanted currency

/-- The credit of a record agrees with its wallet just when the record does. -/
theorem agrees_iff (remembers : Remembers past world) {push : CurrencyPush}
    {reference : Reference} {record : ProviderRecord} {wallet : Wallet}
    (stored : (currencyOf world push reference).isSome) :
    record.collectedCurrency.value?.or (currencyOf world push reference) =
        some wallet.currency ↔
          CurrencyAgrees past push reference record wallet := by
  obtain ⟨currency, found⟩ := Option.isSome_iff_exists.mp stored
  cases named : record.collectedCurrency.value? with
  | some given => simp [CurrencyAgrees, named]
  | none =>
      simp only [CurrencyAgrees, named, Option.none_or, Option.elim_none,
        remembers push reference, found,
        Option.some.injEq]
      constructor
      · rintro rfl requested rfl
        rfl
      · exact fun same => same currency rfl

theorem credits_of {call : CurrencyCall} {credited : Option Wallet}
    (ends : CreditsOnly world (call.after world) credited) :
    call.credits world =
      (credited.map fun wallet =>
        (call.denomination world, wallet.currency)).toList := by
  cases credited with
  | none =>
      have same : (call.after world).ledger = world.ledger := ends
      simp [CurrencyCall.credits, same]
  | some wallet =>
      obtain ⟨found, row, written, at_wallet⟩ := ends
      simp [CurrencyCall.credits, written, at_wallet, found]

/-- A credit is in the wallet's currency just when the record agrees with the
wallet. -/
theorem CurrencyCall.credits_iff (call : CurrencyCall)
    (remembers : Remembers past world) :
    (∀ credit ∈ call.credits world, credit.1 = some credit.2) ↔
      call.Agrees past world := by
  have idle (same : (call.after world).ledger = world.ledger) :
    call.credits world = [] := by
    have nobody : CreditsOnly world (call.after world) none := same
    exact credits_of nobody
  cases call with
  | collection now random again accountId dto result =>
      rw [idle (initiateCollection_requested now random again accountId dto
        result world).1]
      simp [CurrencyCall.Agrees]
  | deposit now random accountId dto result =>
      rw [idle
        (initiateDeposit_requested now random accountId dto result world).1]
      simp [CurrencyCall.Agrees]
  | collectionRecord now reference record =>
      obtain ⟨credited, ends, paid⟩ :=
        collectionRecord_credits now reference record world
      have all : CurrencyCall.credits (.collectionRecord now reference record)
        world = _ :=
        credits_of ends
      rw [all]
      simp only [Option.mem_toList, Option.map_eq_some_iff, CurrencyCall.Agrees,
        paid, CurrencyCall.denomination]
      constructor
      · rintro same wallet rfl
        obtain ⟨collection, basis, amount, found, _⟩ := (paid wallet).mpr rfl
        rw [← agrees_iff remembers (by simp [currencyOf, found])]
        exact same _ ⟨wallet, rfl, rfl⟩
      · rintro agrees _ ⟨wallet, rfl, rfl⟩
        obtain ⟨collection, basis, amount, found, _⟩ := (paid wallet).mpr rfl
        exact (agrees_iff remembers (by simp [currencyOf, found])).mpr
          (agrees wallet rfl)
  | depositRecord now reference record =>
      obtain ⟨credited, ends, paid⟩ :=
        depositRecord_credits now reference record world
      have all : CurrencyCall.credits (.depositRecord now reference record)
        world = _ :=
        credits_of ends
      rw [all]
      simp only [Option.mem_toList, Option.map_eq_some_iff, CurrencyCall.Agrees,
        paid, CurrencyCall.denomination]
      constructor
      · rintro same wallet rfl
        obtain ⟨deposit, amount, found, _⟩ := (paid wallet).mpr rfl
        rw [← agrees_iff remembers (by simp [currencyOf, found])]
        exact same _ ⟨wallet, rfl, rfl⟩
      · rintro agrees _ ⟨wallet, rfl, rfl⟩
        obtain ⟨deposit, amount, found, _⟩ := (paid wallet).mpr rfl
        exact (agrees_iff remembers (by simp [currencyOf, found])).mpr
          (agrees wallet rfl)

/-- Every credit of a run is in the currency of its wallet just when every
record that credits a wallet names the wallet's currency, or names none and the
payment was requested in it. -/
theorem own_currency_iff (calls : List CurrencyCall) (start : World)
    (collections : start.collections = .empty)
    (deposits : start.deposits = .empty) :
    OwnCurrency calls start ↔ CurrenciesAgree calls [] start := by
  have remembers : Remembers [] start := by
    rintro (_ | _) reference currency
    · simp [currencyOf, collections]
    · simp [currencyOf, deposits]
  clear collections deposits
  generalize ([] : List (CurrencyPush × Reference × String)) =
    past at remembers ⊢
  induction calls generalizing past start with
  | nil => exact Iff.rfl
  | cons call rest ih =>
      exact and_congr (call.credits_iff remembers)
        (ih (call.after start) _ (call.remembers remembers))

/-- A deposit of 100 in a currency. -/
def depositIn (currency : Option String) : CurrencyCall :=
  .deposit 1 "000000000000001".toList "a"
    { amount := Money.round 100, currency, phoneNumber := "255712345678" }
    { ok := true, data := some { status := .given "PROCESSING" } }

def depositPaid : CurrencyCall :=
  .depositRecord 2 "AAAAA000000000000001" { status := .given "SUCCESS" }

theorem own_currency_shillings :
    OwnCurrency [depositIn none, depositPaid] openedWorld := by
  refine (own_currency_iff [depositIn none, depositPaid] openedWorld rfl
    rfl).mpr ⟨trivial, ?_, trivial⟩
  rintro wallet ⟨_, amount, _, _, _, _, _, allowed⟩
  have shillings : ∀ wallet ∈ ((depositIn none).after openedWorld).wallets.rows,
      wallet.currency = "TZS" := by decide +kernel
  have requests : [] ++ (depositIn none).requests openedWorld =
      [(.deposit, "AAAAA000000000000001", "TZS")] := by decide +kernel
  intro requested member
  rw [requests, List.mem_singleton] at member
  cases member
  exact (shillings wallet (Table.mem_of_find? allowed.found_key)).symm

/-- A deposit of 100 dollars is booked as 100 shillings. -/
theorem dollars_as_shillings :
    openedWorld.collections = .empty ∧ openedWorld.deposits = .empty ∧
      ¬ OwnCurrency [depositIn (some "USD"), depositPaid] openedWorld := by
  refine ⟨rfl, rfl, fun own => ?_⟩
  have credited :
    depositPaid.credits ((depositIn (some "USD")).after openedWorld) =
      [(some "USD", "TZS")] := by decide +kernel
  have same :=
    own.2.1 (some "USD", "TZS") (by rw [credited]; exact List.mem_cons_self)
  exact absurd same (by decide)

end CloudStudio.Payments
