import CloudStudio.Payments.ExactlyOnce
import CloudStudio.Payments.Runs
import CloudStudio.Payments.Services
import CloudStudio.Transactions.Completion

/-!
# Successes are credited

The status engine credits every success it stores.  The initiating calls store
the provider's first answer without crediting, so each stored success is backed
by its one ledger row as long as no first answer is a success.
-/

namespace CloudStudio.Payments

open CloudStudio.Data CloudStudio.Transactions CloudStudio.Platform
open CloudStudio.Wallets

inductive PaymentAction where
  | initiateCollection (random again : List Char) (accountId : AccountId)
      (dto : UssdPushInitiate) (result : ProviderResult ProviderRecord)
  | initiateDeposit (random : List Char) (accountId : AccountId)
      (dto : UssdPushInitiate) (result : ProviderResult ProviderRecord)
  | webhook (event : String) (reference : Reference) (record : ProviderRecord)
  | refreshCollection (accountId : AccountId) (reference : Reference)
      (queryPayment : Reference → ProviderResult (List ProviderRecord))
  | refreshDeposit (accountId : AccountId) (reference : Reference)
      (queryPayment : Reference → ProviderResult (List ProviderRecord))
  | pollCollections (afterMs : Time) (batchSize : ℕ)
      (queryPayment : Reference → ProviderResult (List ProviderRecord))
  | pollDeposits (afterMs : Time) (batchSize : ℕ)
      (queryPayment : Reference → ProviderResult (List ProviderRecord))

structure PaymentCall where
  now : Time
  action : PaymentAction

namespace PaymentCall

def program (call : PaymentCall) : Db Unit :=
  match call.action with
  | .initiateCollection random again accountId dto result =>
      Program.discard
        (initiateCollection call.now random again accountId dto fun _ => result)
  | .initiateDeposit random accountId dto result =>
      Program.discard (initiateDeposit call.now random accountId dto
        fun _ => result)
  | .webhook event reference record => route call.now event reference record
  | .refreshCollection accountId reference queryPayment => Program.discard
      (collectionsService.refreshStatus call.now accountId
        reference queryPayment)
  | .refreshDeposit accountId reference queryPayment => Program.discard
      (depositsService.refreshStatus call.now accountId reference queryPayment)
  | .pollCollections afterMs batchSize queryPayment => Program.discard
      (collectionsService.pollPending call.now afterMs batchSize queryPayment)
  | .pollDeposits afterMs batchSize queryPayment => Program.discard
      (depositsService.pollPending call.now afterMs batchSize queryPayment)

/-- The provider's first answer to an initiating call is already a success. -/
def AnsweredSuccess (call : PaymentCall) : Prop :=
  match call.action with
  | .initiateCollection _ _ _ _ result | .initiateDeposit _ _ _ result =>
      initialStatus result = .success
  | _ => False

end PaymentCall

/-- The state after calls that ran one after another. -/
def afterCalls : List PaymentCall → World → World
  | [], world => world
  | call :: rest, world => afterCalls rest (call.program.run world).2

/-- Every call returns. -/
def Complete : List PaymentCall → World → Prop
  | [], _ => True
  | call :: rest, world =>
      (call.program.run world).1 = .ok () ∧
        Complete rest (call.program.run world).2

/-- No collection or deposit yet, and no ledger row of one. -/
structure Unused (world : World) : Prop where
  collections : world.collections = .empty
  deposits : world.deposits = .empty
  ledger : ∀ row ∈ world.ledger, row.type ≠ .collectionCredit ∧
    row.type ≠ .deposit

/-- Exactly one ledger row has been written on the ticket, and it is on the
wallet. -/
def CreditedOnce (world : World) (ticket : Ticket) (wallet : WalletKey) :
    Prop :=
  ∃ row, movements world ticket = [row] ∧ row.walletId = wallet

/-- Stored successes have their `walletCreditedAt` and their one ledger row: of
a collection on the COLLECTION wallet, of a deposit on the DISBURSEMENT
wallet. -/
structure SuccessesCredited (world : World) : Prop where
  collections : ∀ row ∈ world.collections.rows, row.status = .success →
    row.walletCreditedAt.isSome ∧
      CreditedOnce world ⟨.collectionCredit, row.reference⟩
        ⟨row.accountId, .collection⟩
  deposits : ∀ row ∈ world.deposits.rows, row.status = .success →
    row.walletCreditedAt.isSome ∧
      CreditedOnce world ⟨.deposit, row.reference⟩
        ⟨row.accountId, .disbursement⟩

/-- What the invariant reads of a collection or deposit. -/
structure Standing where
  accountId : AccountId
  status : TxStatus
  walletCreditedAt : Option Time

def collectionStanding (row : Collection) : Standing :=
  ⟨row.accountId, row.status, row.walletCreditedAt⟩

def depositStanding (row : Deposit) : Standing :=
  ⟨row.accountId, row.status, row.walletCreditedAt⟩

/-- The transaction a ticket belongs to. -/
def standingOf (world : World) (ticket : Ticket) : Option Standing :=
  match ticket.type with
  | .collectionCredit => (world.collections.find? ticket.reference).map
      collectionStanding
  | .deposit => (world.deposits.find? ticket.reference).map depositStanding
  | _ => none

/-- The wallet a ticket's ledger row goes to. -/
def creditWallet : WalletTxType → WalletType
  | .collectionCredit => .collection
  | _ => .disbursement

/-- A transaction is credited once or not at all, as its row says; an uncredited
one is not a success. -/
def Accounted (world : World) (ticket : Ticket) : Option Standing → Prop
  | none => movements world ticket = []
  | some standing =>
      (world.accounts.find? standing.accountId).isSome ∧
        if standing.walletCreditedAt.isSome then
          CreditedOnce world ticket ⟨standing.accountId,
            creditWallet ticket.type⟩
        else movements world ticket = [] ∧ standing.status ≠ .success

def isCredit (type : WalletTxType) : Prop :=
  type = .collectionCredit ∨ type = .deposit

/-- Every collection and deposit is accounted for. -/
def Booked (world : World) : Prop :=
  ∀ ticket, isCredit ticket.type →
    Accounted world ticket (standingOf world ticket)

theorem booked_of_unused {world : World} (unused : Unused world) :
    Booked world := by
  intro ticket credit
  have empty : movements world ticket = [] := by
    refine List.filter_eq_nil_iff.mpr fun row member => ?_
    have other := unused.ledger row member
    rcases credit with type | type <;> simp [type, other]
  have absent : standingOf world ticket = none := by
    rcases credit with type | type <;>
      simp [standingOf, type, unused.collections, unused.deposits]
  rw [absent]
  exact empty

/-- Accounted transactions that are successes are credited. -/
theorem Accounted.credited {world : World} {ticket : Ticket}
    {standing : Standing} (accounted : Accounted world ticket (some standing))
    (success : standing.status = .success) :
    standing.walletCreditedAt.isSome ∧
      CreditedOnce world ticket ⟨standing.accountId,
        creditWallet ticket.type⟩ := by
  obtain ⟨_, backed⟩ := accounted
  split at backed
  · rename_i credited
    exact ⟨credited, backed⟩
  · exact absurd success backed.2

/-- The account of a collection or deposit exists. -/
theorem Booked.account {world : World} {ticket : Ticket} {standing : Standing}
    (booked : Booked world) (credit : isCredit ticket.type)
    (found : standingOf world ticket = some standing) :
    ∃ account, world.accounts.find? standing.accountId = some account := by
  have accounted := booked ticket credit
  rw [found] at accounted
  exact Option.isSome_iff_exists.mp accounted.1

theorem successesCredited_of_booked {world : World} (booked : Booked world) :
    SuccessesCredited world where
  collections := by
    intro row member success
    have accounted := booked ⟨.collectionCredit, row.reference⟩ (.inl rfl)
    simp only [standingOf, Table.find?_of_mem member,
      Option.map_some] at accounted
    exact accounted.credited success
  deposits := by
    intro row member success
    have accounted := booked ⟨.deposit, row.reference⟩ (.inr rfl)
    simp only [standingOf, Table.find?_of_mem member,
      Option.map_some] at accounted
    exact accounted.credited success

/-- Nothing the invariant reads has changed, except that ledger rows of other
kinds may have been written. -/
structure Elsewhere (before after : World) : Prop where
  accounts : after.accounts = before.accounts
  collections : after.collections = before.collections
  deposits : after.deposits = before.deposits
  movements : ∀ ticket, isCredit ticket.type →
    movements after ticket = movements before ticket

theorem Accounted.congr {before after : World} {ticket : Ticket}
    (accounts : after.accounts = before.accounts)
    (rows : movements after ticket = movements before ticket)
    {standing : Option Standing}
    (accounted : Accounted before ticket standing) :
    Accounted after ticket standing := by
  cases standing with
  | none => exact rows.trans accounted
  | some standing =>
      simp only [Accounted, CreditedOnce, accounts, rows] at accounted ⊢
      exact accounted

theorem Booked.elsewhere {before after : World} (booked : Booked before)
    (elsewhere : Elsewhere before after) : Booked after := by
  intro ticket credit
  have same : standingOf after ticket = standingOf before ticket := by
    simp only [standingOf, elsewhere.collections, elsewhere.deposits]
  rw [same]
  exact (booked ticket credit).congr elsewhere.accounts
    (elsewhere.movements ticket credit)

/-- Only the transaction of one ticket has changed. -/
theorem Booked.changed {before after : World} {changed : Ticket}
    (booked : Booked before) (accounts : after.accounts = before.accounts)
    (others : ∀ ticket, isCredit ticket.type → ticket ≠ changed →
      standingOf after ticket = standingOf before ticket ∧
        movements after ticket = movements before ticket)
    (here : Accounted after changed (standingOf after changed)) :
    Booked after := by
  intro ticket credit
  by_cases same : ticket = changed
  · rw [same]
    exact here
  · obtain ⟨standing, rows⟩ := others ticket credit same
    rw [standing]
    exact (booked ticket credit).congr accounts rows

/-- A row is written that has not become due for a credit. -/
theorem Booked.written {before after : World} {changed : Ticket}
    {old new : Standing} (booked : Booked before)
    (accounts : after.accounts = before.accounts)
    (ledger : after.ledger = before.ledger) (credit : isCredit changed.type)
    (was : standingOf before changed = some old)
    (becomes : ∀ ticket, standingOf after ticket =
      if ticket = changed then some new else standingOf before ticket)
    (account : new.accountId = old.accountId)
    (stays : new.walletCreditedAt = old.walletCreditedAt)
    (undue : ¬ CreditDue new.status old.walletCreditedAt) : Booked after := by
  refine booked.changed accounts
    (fun ticket _ other =>
      ⟨by rw [becomes, if_neg other], movements_congr ticket ledger⟩) ?_
  rw [becomes, if_pos rfl]
  have accounted := booked changed credit
  rw [was] at accounted
  obtain ⟨exists_, backed⟩ :=
    accounted.congr accounts (movements_congr changed ledger)
  refine ⟨account ▸ exists_, ?_⟩
  rw [stays, account]
  split
  · rename_i credited
    rw [if_pos credited] at backed
    exact backed
  · rename_i uncredited
    rw [if_neg uncredited] at backed
    exact ⟨backed.1, fun success => undue ⟨success, by simpa using uncredited⟩⟩

/-- A row that was not credited is written together with its ledger row. -/
theorem Booked.credited {before after : World} {changed : Ticket}
    {old new : Standing} {row : WalletTransaction} (booked : Booked before)
    (accounts : after.accounts = before.accounts)
    (ledger : after.ledger = before.ledger ++ [row])
    (credit : isCredit changed.type)
    (was : standingOf before changed = some old)
    (becomes : ∀ ticket, standingOf after ticket =
      if ticket = changed then some new else standingOf before ticket)
    (account : new.accountId = old.accountId)
    (uncredited : old.walletCreditedAt = none)
    (sets : new.walletCreditedAt.isSome) (type : row.type = changed.type)
    (reference : row.reference = some changed.reference)
    (wallet : row.walletId = ⟨old.accountId, creditWallet changed.type⟩) :
    Booked after := by
  refine booked.changed accounts (fun ticket _ other =>
    ⟨by rw [becomes, if_neg other], ?_⟩) ?_
  · rw [movements_append ledger ticket, if_neg, List.append_nil]
    rintro ⟨sameType, sameReference⟩
    refine other ?_
    cases ticket
    cases changed
    simp_all
  · rw [becomes, if_pos rfl]
    have accounted := booked changed credit
    rw [was] at accounted
    obtain ⟨exists_, backed⟩ := accounted
    rw [uncredited, if_neg (by simp)] at backed
    refine ⟨by rw [accounts, account]; exact exists_, ?_⟩
    rw [if_pos sets, account]
    refine ⟨row, ?_, wallet⟩
    rw [movements_append ledger changed, backed.1, if_pos ⟨type, reference⟩,
      List.nil_append]

/-- A new row is added that is neither credited nor a success. -/
theorem Booked.created {before after : World} {added : Ticket} {new : Standing}
    (booked : Booked before) (accounts : after.accounts = before.accounts)
    (ledger : after.ledger = before.ledger) (credit : isCredit added.type)
    (absent : standingOf before added = none)
    (becomes : ∀ ticket, standingOf after ticket =
      if ticket = added then some new else standingOf before ticket)
    (account : (before.accounts.find? new.accountId).isSome)
    (uncredited : new.walletCreditedAt = none)
    (unsuccessful : new.status ≠ .success) : Booked after := by
  refine booked.changed accounts
    (fun ticket _ other =>
      ⟨by rw [becomes, if_neg other], movements_congr ticket ledger⟩) ?_
  rw [becomes, if_pos rfl]
  have accounted := booked added credit
  rw [absent] at accounted
  refine ⟨accounts ▸ account, ?_⟩
  rw [uncredited, if_neg (by simp)]
  exact ⟨(movements_congr added ledger).trans accounted, unsuccessful⟩

theorem Noticed.elsewhere {notices : List Dispatched} {before after : World}
    (noticed : Noticed notices before after) : Elsewhere before after := by
  obtain ⟨deliveries, jobs, rfl⟩ := noticed
  exact ⟨rfl, rfl, rfl, fun _ _ => rfl⟩

theorem elsewhere_withConfig (world : World) (accountId : AccountId) :
    Elsewhere world (world.withConfig accountId) := by
  unfold World.withConfig
  split <;> exact ⟨rfl, rfl, rfl, fun _ _ => rfl⟩

theorem standingOf_withCollection (now : Time) (record : ProviderRecord)
    (nextStatus : TxStatus) (fee : Option ComputedFee) {collection : Collection}
    {world : World}
    (found : world.collections.find? collection.reference = some collection)
    (ticket : Ticket) :
    standingOf (withCollection now record nextStatus fee collection world)
      ticket =
      if ticket = ⟨.collectionCredit, collection.reference⟩ then
        some ⟨collection.accountId, nextStatus,
          if fee.isSome then some now else collection.walletCreditedAt⟩
      else standingOf world ticket := by
  obtain ⟨type, reference⟩ := ticket
  cases type with
  | collectionCredit =>
      simp only [standingOf, withCollection, Table.find?_modify,
        Ticket.mk.injEq, true_and]
      split
      · rename_i same
        rw [same, found]
        rfl
      · rfl
  | _ => simp [standingOf, withCollection]

theorem applyCollectionUpdate_booked (now : Time) (reference : Reference)
    (record : ProviderRecord) :
    Program.Preserves Booked (applyCollectionUpdate now reference record) := by
  intro world booked result after ran
  have runs := run_applyCollectionUpdate now reference record world
  rw [ran] at runs
  cases runs with
  | unknown => exact booked
  | unchanged => exact booked
  | written collection nextStatus after found mapped changes fits
      undue noticed =>
      rw [← show collection.reference = reference from
        Table.key_of_find? found] at found
      have was : standingOf world ⟨.collectionCredit, collection.reference⟩ =
          some (collectionStanding collection) :=
            congrArg (Option.map collectionStanding) found
      refine Booked.elsewhere ?_ noticed.elsewhere
      exact booked.written rfl rfl (.inl rfl) was
        (standingOf_withCollection now record nextStatus none found) rfl rfl
          undue
  | credited collection nextStatus basis fee wallet amount after found mapped
      changes fits due basis_eq fee_eq allowed noticed =>
      rw [← show collection.reference = reference from
        Table.key_of_find? found] at found
      have configured :=
        booked.elsewhere (elsewhere_withConfig world collection.accountId)
      rw [← (withConfig_rest world collection.accountId).2.2] at found
      have was : standingOf (world.withConfig collection.accountId)
          ⟨.collectionCredit, collection.reference⟩ =
            some (collectionStanding collection) :=
        congrArg (Option.map collectionStanding) found
      obtain ⟨account, at_account⟩ := configured.account (.inl rfl) was
      rw [(withConfig_rest world collection.accountId).1] at at_account
      refine Booked.elsewhere ?_ noticed.elsewhere
      refine configured.credited rfl rfl (.inl rfl) was
        (standingOf_withCollection now record nextStatus (some fee) found) rfl
          due.2 rfl
        rfl rfl (allowed.wallet_key at_account)

theorem standingOf_withDeposit (now : Time) (record : ProviderRecord)
    (nextStatus : TxStatus) (shouldCredit : Bool) {deposit : Deposit}
    {world : World}
    (found : world.deposits.find? deposit.reference = some deposit)
    (ticket : Ticket) :
    standingOf (withDeposit now record nextStatus shouldCredit deposit world)
      ticket =
      if ticket = ⟨.deposit, deposit.reference⟩ then
        some ⟨deposit.accountId, nextStatus,
          if shouldCredit then some now else deposit.walletCreditedAt⟩
      else standingOf world ticket := by
  obtain ⟨type, reference⟩ := ticket
  cases type with
  | deposit =>
      simp only [standingOf, withDeposit, Table.find?_modify, Ticket.mk.injEq,
        true_and]
      split
      · rename_i same
        rw [same, found]
        rfl
      · rfl
  | _ => simp [standingOf, withDeposit]

theorem applyDepositUpdate_booked (now : Time) (reference : Reference)
    (record : ProviderRecord) :
    Program.Preserves Booked (applyDepositUpdate now reference record) := by
  intro world booked result after ran
  have runs := run_applyDepositUpdate now reference record world
  rw [ran] at runs
  cases runs with
  | unknown => exact booked
  | unchanged => exact booked
  | written deposit nextStatus after found mapped changes fits undue noticed =>
      rw [← show deposit.reference = reference from
        Table.key_of_find? found] at found
      have was : standingOf world ⟨.deposit, deposit.reference⟩ =
          some (depositStanding deposit) :=
            congrArg (Option.map depositStanding) found
      refine Booked.elsewhere ?_ noticed.elsewhere
      exact booked.written rfl rfl (.inr rfl) was
        (standingOf_withDeposit now record nextStatus false found) rfl rfl undue
  | credited deposit nextStatus wallet amount after found mapped changes
      fits due allowed noticed =>
      rw [← show deposit.reference = reference from
        Table.key_of_find? found] at found
      have was : standingOf world ⟨.deposit, deposit.reference⟩ =
          some (depositStanding deposit) :=
            congrArg (Option.map depositStanding) found
      obtain ⟨account, at_account⟩ := booked.account (.inr rfl) was
      refine Booked.elsewhere ?_ noticed.elsewhere
      exact booked.credited rfl rfl (.inr rfl) was
        (standingOf_withDeposit now record nextStatus true found) rfl
          due.2 rfl rfl rfl
        (allowed.wallet_key at_account)

/-- A payout update writes no collection, no deposit and no credit. -/
theorem Settled.elsewhere {now : Time} {record : ProviderRecord}
    {nextStatus : TxStatus} {payout : Payout} {world settled : World}
    (settles : Settled now record nextStatus payout world settled) :
    Elsewhere world settled := by
  cases settles with
  | kept => exact ⟨rfl, rfl, rfl, fun _ _ => rfl⟩
  | refunded wallet amount =>
      refine ⟨rfl, rfl, rfl, fun ticket credit => ?_⟩
      rw [movements_append rfl ticket, if_neg, List.append_nil]
      · rfl
      · rintro ⟨type, _⟩
        rcases credit with credit | credit <;> rw [credit] at type
          <;> cases type

theorem elsewhere_withRecount (now : Time) (batchId : Option Reference)
    (world : World) : Elsewhere world (withRecount now batchId world) := by
  unfold withRecount
  split <;> exact ⟨rfl, rfl, rfl, fun _ _ => rfl⟩

theorem applyPayoutUpdate_booked (now : Time) (reference : Reference)
    (record : ProviderRecord) :
    Program.Preserves Booked (applyPayoutUpdate now reference record) := by
  intro world booked result after ran
  have runs := run_applyPayoutUpdate now reference record world
  rw [ran] at runs
  cases runs with
  | unknown => exact booked
  | unchanged => exact booked
  | finished payout nextStatus settled after recounts found mapped
      changes fits settles single noticed =>
      have settledBooks := booked.elsewhere settles.elsewhere
      have recounted := settledBooks.elsewhere
        (elsewhere_withRecount now payout.batchId settled)
      exact recounted.elsewhere noticed.elsewhere

theorem findAccount_ok {accountId : AccountId} {world after : World}
    {account : Account}
    (ran : (findAccount accountId).run world = (.ok account, after)) :
    after = world ∧ world.accounts.find? accountId = some account := by
  simp only [findAccount, Program.bind_perform, Program.run_query,
    select] at ran
  cases found : world.accounts.find? accountId with
  | none =>
      rw [found] at ran
      cases ran
  | some row =>
      rw [found] at ran
      cases ran
      exact ⟨rfl, rfl⟩

/-- A client reference that is not rejected changes nothing. -/
theorem rejectRepeated_ok {site : Site} {repeated : String → World → Bool}
    {message : String} {clientReference : Option String} {world after : World}
    (ran : (rejectRepeated site repeated message clientReference).run world =
      (.ok (), after)) : after = world := by
  unfold rejectRepeated at ran
  split at ran
  · cases ran
    rfl
  · simp only [Program.bind_perform, Program.run_query, select,
      Program.when] at ran
    split at ran <;> cases ran
    rfl

/-- A row is created only if the push was accepted and its reference is free. -/
theorem createCollection_ok {now : Time} {row collection : Collection}
    {result : ProviderResult ProviderRecord} {world after : World}
    (ran : (createCollection now row result).run world =
      (.ok collection, after)) :
    world.collections.find? row.reference = none ∧
      after = { world with collections := world.collections.insert row } := by
  unfold createCollection at ran
  split at ran
  · cases ran
  simp only [Program.bind_perform, Program.run_query, Relation.create,
    Platform.collections] at ran
  cases taken : world.collections.find? row.reference with
  | some other =>
      simp only [taken, Option.isSome_some, if_true] at ran
      cases ran
  | none =>
      simp only [taken, Option.isSome_none, Bool.false_eq_true, if_false] at ran
      split at ran
      · cases ran
        exact ⟨rfl, rfl⟩
      · simp only [Program.run_query, Relation.update] at ran
        split at ran <;> cases ran

theorem initiateCollection_ok {now : Time} {random again : List Char}
    {accountId : AccountId} {dto : UssdPushInitiate}
    {result : ProviderResult ProviderRecord} {collection : Collection}
    {world after : World}
    (returned : (initiateCollection now random again accountId dto fun _ =>
      result).run world =
      (.ok collection, after)) :
    ∃ orderRef, (world.accounts.find? accountId).isSome ∧
      world.collections.find? orderRef = none ∧
      after = { world with
        collections :=
          world.collections.insert
            (newCollection now accountId dto orderRef result) } := by
  obtain ⟨account, middle, ranFind, ran⟩ := Program.run_bind_ok_iff.mp returned
  obtain ⟨rfl, found⟩ := findAccount_ok ranFind
  split at ran
  · cases ran
  obtain ⟨_, other, ranReject, ranCreate⟩ := Program.run_bind_ok_iff.mp ran
  have same := rejectRepeated_ok ranReject
  subst same
  split at ranCreate
  · cases ranCreate
  · rw [found]
    exact ⟨_, rfl, createCollection_ok ranCreate⟩

theorem createDeposit_ok {now : Time} {row deposit : Deposit}
    {result : ProviderResult ProviderRecord} {world after : World}
    (ran : (createDeposit now row result).run world = (.ok deposit, after)) :
    world.deposits.find? row.reference = none ∧
      after = { world with deposits := world.deposits.insert row } := by
  unfold createDeposit at ran
  split at ran
  · cases ran
  simp only [Program.bind_perform, Program.run_query, Relation.create,
    Platform.deposits] at ran
  cases taken : world.deposits.find? row.reference with
  | some other =>
      simp only [taken, Option.isSome_some, if_true] at ran
      cases ran
  | none =>
      simp only [taken, Option.isSome_none, Bool.false_eq_true, if_false] at ran
      split at ran
      · cases ran
        exact ⟨rfl, rfl⟩
      · simp only [Program.run_query, Relation.update] at ran
        split at ran <;> cases ran

theorem initiateDeposit_ok {now : Time} {random : List Char}
    {accountId : AccountId} {dto : UssdPushInitiate}
    {result : ProviderResult ProviderRecord} {deposit : Deposit}
    {world after : World}
    (returned : (initiateDeposit now random accountId dto fun _ => result).run
      world =
      (.ok deposit, after)) :
    ∃ reference wallet, (world.accounts.find? accountId).isSome ∧
      world.deposits.find? reference = none ∧
      after = { world with
        deposits :=
          world.deposits.insert
            (newDeposit now accountId wallet dto reference result) } := by
  obtain ⟨account, middle, ranFind, ran⟩ := Program.run_bind_ok_iff.mp returned
  obtain ⟨rfl, found⟩ := findAccount_ok ranFind
  simp only [Program.bind_perform, Program.run_query, Relation.findUnique,
    select, Platform.wallets] at ran
  split at ran
  · cases ran
  split at ran
  · cases ran
  obtain ⟨_, other, ranReject, ranCreate⟩ := Program.run_bind_ok_iff.mp ran
  have same := rejectRepeated_ok ranReject
  subst same
  rw [found]
  exact ⟨_, _, rfl, createDeposit_ok ranCreate⟩

theorem standingOf_insertCollection {world : World} (row : Collection)
    (free : world.collections.find? row.reference = none) (ticket : Ticket) :
    standingOf { world with collections := world.collections.insert row }
      ticket =
      if ticket =
        ⟨.collectionCredit, row.reference⟩ then some (collectionStanding row)
      else standingOf world ticket := by
  obtain ⟨type, reference⟩ := ticket
  cases type with
  | collectionCredit =>
      simp only [standingOf, Table.find?_insert, Ticket.mk.injEq, true_and]
      split
      · rename_i same
        rw [← same, free, if_pos rfl]
        rfl
      · rename_i other
        rw [if_neg (fun same => other same.symm), Option.or_none]
  | _ => simp [standingOf]

theorem initiateCollection_booked {now : Time} {random again : List Char}
    {accountId : AccountId} {dto : UssdPushInitiate}
    {result : ProviderResult ProviderRecord}
    (first : initialStatus result ≠ .success) :
    Program.Preserves Booked
      (initiateCollection now random again accountId dto fun _ => result) := by
  intro world booked collection after ran
  obtain ⟨orderRef, account, free, rfl⟩ := initiateCollection_ok ran
  have absent : standingOf world ⟨.collectionCredit, orderRef⟩ = none :=
    congrArg (Option.map collectionStanding) free
  exact booked.created rfl rfl (.inl rfl) absent
    (standingOf_insertCollection
      (newCollection now accountId dto orderRef result) free)
    account rfl first

theorem standingOf_insertDeposit {world : World} (row : Deposit)
    (free : world.deposits.find? row.reference = none) (ticket : Ticket) :
    standingOf { world with deposits := world.deposits.insert row } ticket =
      if ticket = ⟨.deposit, row.reference⟩ then some (depositStanding row)
      else standingOf world ticket := by
  obtain ⟨type, reference⟩ := ticket
  cases type with
  | deposit =>
      simp only [standingOf, Table.find?_insert, Ticket.mk.injEq, true_and]
      split
      · rename_i same
        rw [← same, free, if_pos rfl]
        rfl
      · rename_i other
        rw [if_neg (fun same => other same.symm), Option.or_none]
  | _ => simp [standingOf]

theorem initiateDeposit_booked {now : Time} {random : List Char}
    {accountId : AccountId} {dto : UssdPushInitiate}
    {result : ProviderResult ProviderRecord}
    (first : initialStatus result ≠ .success) :
    Program.Preserves Booked (initiateDeposit now random accountId dto
      fun _ => result) := by
  intro world booked deposit after ran
  obtain ⟨wanted, wallet, account, free, rfl⟩ := initiateDeposit_ok ran
  have absent : standingOf world ⟨.deposit, wanted⟩ = none :=
    congrArg (Option.map depositStanding) free
  exact booked.created rfl rfl (.inr rfl) absent
    (standingOf_insertDeposit
      (newDeposit now accountId wallet dto wanted result) free)
    account rfl first

theorem get_booked {Row : Type} {reference : Row → Reference}
    (service : PaymentService reference) (accountId : AccountId)
    (wanted : Reference) :
    Program.Preserves Booked (service.get accountId wanted) := by
  refine Program.Preserves.bind (.read fun _ => rfl) fun row => ?_
  cases row with
  | none => exact .threw _
  | some row => exact .returned _

section

variable {Row : Type} {reference : Row → Reference}
  {service : PaymentService reference}
variable (engine : ∀ now reference record,
  Program.Preserves Booked (service.applyUpdate now reference record))

include engine

theorem refreshStatus_booked (now : Time) (accountId : AccountId)
    (wanted : Reference)
    (queryPayment : Reference → ProviderResult (List ProviderRecord)) :
    Program.Preserves Booked
      (service.refreshStatus now accountId wanted queryPayment) := by
  refine Program.Preserves.bind (get_booked service accountId wanted)
    fun row => ?_
  split
  · exact .returned _
  split
  · exact (engine _ _ _).discard.bind fun _ =>
      get_booked service accountId wanted
  · exact .returned _

theorem pollPending_booked (now afterMs : Time) (batchSize : ℕ)
    (queryPayment : Reference → ProviderResult (List ProviderRecord)) :
    Program.Preserves Booked
      (service.pollPending now afterMs batchSize queryPayment) := by
  refine Program.Preserves.bind (.read fun _ => rfl) fun pending => ?_
  refine Program.Preserves.bind (.forEach (fun wanted => ?_) pending)
    fun _ => .returned _
  refine Program.Preserves.bind (.read fun _ => rfl) fun row => ?_
  split
  · exact .returned _
  split
  · exact (engine _ _ _).discard
  · exact .returned _

end

theorem route_booked (now : Time) (event : String) (orderReference : Reference)
    (record : ProviderRecord) :
    Program.Preserves Booked (route now event orderReference record) := by
  unfold route
  split
  · refine (applyCollectionUpdate_booked now orderReference record).bind
      fun applied => ?_
    unfold Program.when
    split
    · exact (applyDepositUpdate_booked now orderReference record).discard
    · exact .returned _
  split
  · exact (applyPayoutUpdate_booked now orderReference record).discard
  · exact .returned _

/-! ## Runs -/

/-- A call that completes keeps the books, unless it stores a success from the
start. -/
theorem PaymentCall.booked (call : PaymentCall)
    (pending : ¬ call.AnsweredSuccess) :
    Program.Preserves Booked call.program := by
  obtain ⟨now, action⟩ := call
  cases action with
  | initiateCollection => exact (initiateCollection_booked pending).discard
  | initiateDeposit => exact (initiateDeposit_booked pending).discard
  | webhook event reference record =>
      exact route_booked now event reference record
  | refreshCollection =>
      exact (refreshStatus_booked applyCollectionUpdate_booked _ _ _ _).discard
  | refreshDeposit =>
      exact (refreshStatus_booked applyDepositUpdate_booked _ _ _ _).discard
  | pollCollections =>
      exact (pollPending_booked applyCollectionUpdate_booked _ _ _ _).discard
  | pollDeposits =>
      exact (pollPending_booked applyDepositUpdate_booked _ _ _ _).discard

/-- A new row that is a success is not credited. -/
theorem not_credited_collection {world : World} {row : Collection}
    (free : world.collections.find? row.reference = none) (success : row.status = .success)
    (uncredited : row.walletCreditedAt = none) :
    ¬ SuccessesCredited { world with collections := world.collections.insert row } := by
  intro credited
  have found : (world.collections.insert row).find? row.reference =
    some row := by
    rw [Table.find?_insert, free, if_pos rfl, Option.none_or]
  have sets := (credited.collections row (Table.mem_of_find? found) success).1
  simp [uncredited] at sets

theorem not_credited_deposit {world : World} {row : Deposit}
    (free : world.deposits.find? row.reference = none) (success : row.status = .success)
    (uncredited : row.walletCreditedAt = none) :
    ¬ SuccessesCredited { world with deposits := world.deposits.insert row } := by
  intro credited
  have found : (world.deposits.insert row).find? row.reference = some row := by
    rw [Table.find?_insert, free, if_pos rfl, Option.none_or]
  have sets := (credited.deposits row (Table.mem_of_find? found) success).1
  simp [uncredited] at sets

/-- A success stored from the start is not credited. -/
theorem PaymentCall.uncredited {call : PaymentCall} {world after : World}
    (answered : call.AnsweredSuccess) (ran : call.program.run world = (.ok (), after)) :
    ¬ SuccessesCredited after := by
  obtain ⟨now, action⟩ := call
  cases action with
  | initiateCollection random again accountId dto result =>
      obtain ⟨collection, ran⟩ := Program.run_discard_ok_iff.mp ran
      obtain ⟨orderRef, account, free, rfl⟩ := initiateCollection_ok ran
      exact not_credited_collection free answered rfl
  | initiateDeposit random accountId dto result =>
      obtain ⟨deposit, ran⟩ := Program.run_discard_ok_iff.mp ran
      obtain ⟨reference, wallet, account, free, rfl⟩ := initiateDeposit_ok ran
      exact not_credited_deposit free answered rfl
  | webhook => exact answered.elim
  | refreshCollection => exact answered.elim
  | refreshDeposit => exact answered.elim
  | pollCollections => exact answered.elim
  | pollDeposits => exact answered.elim

theorem afterCalls_append (earlier later : List PaymentCall) (world : World) :
    afterCalls (earlier ++ later) world =
      afterCalls later (afterCalls earlier world) := by
  induction earlier generalizing world with
  | nil => rfl
  | cons call rest ih => exact ih _

theorem complete_append {earlier later : List PaymentCall} {world : World}
    (complete : Complete (earlier ++ later) world) :
    Complete earlier world ∧ Complete later (afterCalls earlier world) := by
  induction earlier generalizing world with
  | nil => exact ⟨trivial, complete⟩
  | cons call rest ih =>
      obtain ⟨restComplete, laterComplete⟩ := ih complete.2
      exact ⟨⟨complete.1, restComplete⟩, laterComplete⟩

theorem booked_afterCalls {calls : List PaymentCall} {world : World}
    (booked : Booked world) (complete : Complete calls world)
    (pending : ∀ call ∈ calls, ¬ call.AnsweredSuccess) :
    Booked (afterCalls calls world) := by
  induction calls generalizing world with
  | nil => exact booked
  | cons call rest ih =>
      have kept :=
        call.booked (pending call List.mem_cons_self) world booked () _
        (Prod.ext complete.1 rfl)
      exact ih kept complete.2 fun later member =>
        pending later (List.mem_cons_of_mem _ member)

/-- In every state that completed calls reach, the stored successes are credited
exactly once, just when no initiating call was first answered with a success. -/
theorem successes_credited_iff (start : World) (unused : Unused start)
    (calls : List PaymentCall) (complete : Complete calls start) :
    (∀ earlier, earlier <+: calls →
      SuccessesCredited (afterCalls earlier start)) ↔
      ∀ call ∈ calls, ¬ call.AnsweredSuccess := by
  constructor
  · intro credited call member answered
    obtain ⟨earlier, later, rfl⟩ := List.append_of_mem member
    obtain ⟨_, laterComplete⟩ := complete_append complete
    refine call.uncredited answered (Prod.ext laterComplete.1 rfl) ?_
    have reached := credited (earlier ++ [call]) ⟨later, by simp⟩
    rw [afterCalls_append] at reached
    exact reached
  · rintro pending earlier ⟨later, rfl⟩
    refine successesCredited_of_booked
      (booked_afterCalls (booked_of_unused unused)
      (complete_append complete).1 fun call member => pending call ?_)
    exact List.mem_append_left later member

/-- An account with two empty wallets. -/
def openedWorld : World where
  accounts :=
    Table.empty.insert { id := "a", accountId := "ACC-1"
                         sourceCode := "AAAAA" }
  wallets := (Table.empty.insert { key := ⟨"a", .collection⟩ }).insert
    { key := ⟨"a", .disbursement⟩ }

theorem unused_openedWorld : Unused openedWorld :=
  ⟨rfl, rfl, fun _ member => absurd member List.not_mem_nil⟩

/-- A collection of 10000 to whose initiation the provider answers with a
status. -/
def initiated (status : String) : PaymentCall :=
  ⟨1, .initiateCollection "000000000000001".toList "000000000000002".toList "a"
    { amount := Money.round 10000, phoneNumber := "255712345678" }
    { ok := true, data := some { status := .given status } }⟩

def paid : PaymentCall :=
  ⟨2, .webhook "PAYMENT RECEIVED" "AAAAA000000000000002" { status := .given "SUCCESS" }⟩

theorem successes_credited_iff_paid :
    SuccessesCredited (afterCalls [initiated "PROCESSING", paid] openedWorld) :=
  (successes_credited_iff openedWorld unused_openedWorld [initiated "PROCESSING", paid]
    ⟨by decide +kernel, by decide +kernel, trivial⟩).mpr
    (by
      intro call member
      rcases List.mem_pair.mp member with rfl | rfl
      · change initialStatus _ ≠ .success
        decide +kernel
      · exact id)
    _ (List.prefix_refl _)

/-- A success stored from the start leaves its wallet empty. -/
theorem success_uncredited :
    Unused openedWorld ∧ Complete [initiated "SUCCESS"] openedWorld ∧
      ¬ SuccessesCredited (afterCalls [initiated "SUCCESS"] openedWorld) := by
  refine ⟨unused_openedWorld, ⟨by decide +kernel, trivial⟩, fun credited => ?_⟩
  have stored :
    (afterCalls [initiated "SUCCESS"] openedWorld).collections.rows.map
      (fun row => (row.status, row.walletCreditedAt)) = [(.success, none)] := by
    decide +kernel
  obtain ⟨row, rows, stands⟩ := List.map_eq_singleton_iff.mp stored
  obtain ⟨success, uncredited⟩ := Prod.mk.inj stands
  have sets :=
    (credited.collections row
    (by rw [rows]; exact List.mem_cons_self) success).1
  rw [uncredited] at sets
  cases sets

end CloudStudio.Payments
