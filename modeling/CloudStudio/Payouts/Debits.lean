import CloudStudio.Payments.NetEffect
import CloudStudio.Payouts.AllOrNothing

/-!
# What the creation of a payout debits

Payouts are created in six ways, which compute their debits in different ways.
Each created payout has one debit row, under its own reference or that of its
batch, and the row is of what the payouts it stands for are charged; the amount
and the fee on a payout's row add up to its charge.
-/

namespace CloudStudio.Payouts

open CloudStudio.Data CloudStudio.Transactions CloudStudio.Platform
open CloudStudio.Payments
open CloudStudio.Wallets

/-- The ledger rows in `after` that were not in `before`. -/
def addedRows (before after : World) : List WalletTransaction :=
  after.ledger.drop before.ledger.length

def addedPayouts (before after : World) : List Payout :=
  after.payouts.rows.drop before.payouts.rows.length

/-- The rows and payouts are added; accounts stay, and so do the wallets there
are. -/
structure Adds (before : World) (rows : List WalletTransaction)
    (created : List Payout) (after : World) : Prop where
  ledger : after.ledger = before.ledger ++ rows
  payouts : after.payouts.rows = before.payouts.rows ++ created
  accounts : after.accounts = before.accounts
  wallets : ∀ key, (before.wallets.find? key).isSome →
    (after.wallets.find? key).isSome

namespace Adds

variable {before middle after : World} {rows later : List WalletTransaction}
variable {created others : List Payout}

theorem refl (world : World) : Adds world [] [] world where
  ledger := (List.append_nil _).symm
  payouts := (List.append_nil _).symm
  accounts := rfl
  wallets := fun _ present => present

theorem trans (first : Adds before rows created middle)
    (second : Adds middle later others after) :
    Adds before (rows ++ later) (created ++ others) after where
  ledger := by rw [second.ledger, first.ledger, List.append_assoc]
  payouts := by rw [second.payouts, first.payouts, List.append_assoc]
  accounts := second.accounts.trans first.accounts
  wallets := fun key present => second.wallets key (first.wallets key present)

theorem addedRows_eq (adds : Adds before rows created after) :
    addedRows before after = rows := by
  rw [addedRows, adds.ledger, List.drop_left]

theorem addedPayouts_eq (adds : Adds before rows created after) :
    addedPayouts before after = created := by
  rw [addedPayouts, adds.payouts, List.drop_left]

/-- A state that differs in other tables only. -/
theorem congr (adds : Adds before rows created middle)
    (ledger : after.ledger = middle.ledger)
    (payouts : after.payouts = middle.payouts)
    (accounts : after.accounts = middle.accounts)
    (wallets : after.wallets = middle.wallets) :
    Adds before rows created after where
  ledger := ledger.trans adds.ledger
  payouts := (congrArg Table.rows payouts).trans adds.payouts
  accounts := accounts.trans adds.accounts
  wallets := fun key present => by
    rw [wallets]
    exact adds.wallets key present

theorem record (world : World) (row : WalletTransaction) :
    Adds world [row] [] (world.record row) where
  ledger := rfl
  payouts := (List.append_nil _).symm
  accounts := rfl
  wallets := fun key present => by
    simp only [World.record, Table.find?_modify]
    split
    · simpa using present
    · exact present

theorem insert {payout : Payout} (adds : Adds before rows created middle)
    (fresh : middle.payouts.find? payout.reference = none) :
    Adds before rows (created ++ [payout])
      { middle with payouts := middle.payouts.insert payout } where
  ledger := adds.ledger
  payouts := by
    rw [Table.rows_insert fresh, adds.payouts, List.append_assoc]
  accounts := adds.accounts
  wallets := adds.wallets

end Adds

theorem Prepared.adds {before after : World}
    (prepared : Prepared before after) : Adds before [] [] after := by
  obtain ⟨feeConfigs, rfl⟩ := prepared
  exact (Adds.refl before).congr rfl rfl rfl rfl

theorem Prepared.moveAllowed_iff {before after : World}
    (prepared : Prepared before after) {input : MoveInput} {wallet : Wallet}
    {amount : Decimal} :
    MoveAllowed input after wallet amount ↔
      MoveAllowed input before wallet amount := by
  obtain ⟨feeConfigs, rfl⟩ := prepared
  exact moveAllowed_congr rfl rfl

/-! ## Debits and charges -/

/-- The reference a payout is debited under. -/
def debitReference (payout : Payout) : Reference :=
  payout.batchId.getD payout.reference

/-- The row is a debit for the payout. -/
def DebitsFor (payout : Payout) (row : WalletTransaction) : Prop :=
  row.walletId = sourceKey payout ∧ row.reference = some (debitReference payout)

instance (payout : Payout) (row : WalletTransaction) :
    Decidable (DebitsFor payout row) :=
  inferInstanceAs (Decidable (_ ∧ _))

/-- One debit row, which takes what the payouts it stands for are charged
together. -/
structure Debited (charge : Payout → WalletTransaction → Decimal)
    (rows : List WalletTransaction) (created : List Payout) (payout : Payout)
    (row : WalletTransaction) : Prop where
  only : rows.filter (fun row => DebitsFor payout row) = [row]
  whole : (row.amount : Decimal) =
    -((created.filter fun item => DebitsFor item row).map fun item =>
      charge item row).sum

/-- The added payouts are debited by the added rows, on these wallets, and are
as a creation leaves them; amount and fee add up to the charge, which is
positive when the amount is. -/
structure Accounted (charge : Payout → WalletTransaction → Decimal)
    (on : WalletKey → Prop) (rows : List WalletTransaction)
    (created : List Payout) (before after : World) :
    Prop where
  adds : Adds before rows created after
  rowsOn : ∀ row ∈ rows, on row.walletId
  createdOn : ∀ payout ∈ created, on (sourceKey payout)
  debited : ∀ payout ∈ created, ∃ row, Debited charge rows created payout row ∧
    charge payout row = fullDebit payout ∧ Payments.Created after payout
  positive : ∀ payout ∈ created, 0 < (payout.amount : Decimal) →
    0 < fullDebit payout

/-- More rows and payouts leave a payout as its creation left it. -/
theorem created_later {before after : World} {rows : List WalletTransaction}
    {created : List Payout} {payout : Payout}
    (adds : Adds before rows created after)
    (held : Payments.Created before payout) :
    Payments.Created after payout := by
  constructor
  · apply Table.find?_of_mem
    rw [adds.payouts]
    exact List.mem_append_left _ (Table.mem_of_find? held.stored)
  · exact held.pending
  · exact held.debited
  · exact held.unrefunded
  · rw [adds.accounts]
    exact held.account
  · exact adds.wallets _ held.wallet
  · exact held.nonneg

namespace Accounted

variable {charge : Payout → WalletTransaction → Decimal}
  {on onLater : WalletKey → Prop}
variable {rows later : List WalletTransaction} {created others : List Payout}
variable {before middle after : World}

theorem nothing (adds : Adds before [] [] after) :
    Accounted charge on [] [] before after where
  adds := adds
  rowsOn := fun _ member => absurd member List.not_mem_nil
  createdOn := fun _ member => absurd member List.not_mem_nil
  debited := fun _ member => absurd member List.not_mem_nil
  positive := fun _ member => absurd member List.not_mem_nil

theorem mono (accounted : Accounted charge on rows created before after)
    (weaker : ∀ key, on key → onLater key) :
    Accounted charge onLater rows created before after where
  adds := accounted.adds
  rowsOn := fun row member => weaker _ (accounted.rowsOn row member)
  createdOn := fun payout member => weaker _ (accounted.createdOn payout member)
  debited := accounted.debited
  positive := accounted.positive

/-- No row or payout of the one is for a payout of the other, on different
wallets. -/
theorem filter_rows_apart {payout : Payout}
    (apart : ∀ key, on key → ¬ onLater key) (there : on (sourceKey payout))
    (rowsOn : ∀ row ∈ later, onLater row.walletId) :
    later.filter (fun row => DebitsFor payout row) = [] := by
  apply List.filter_eq_nil_iff.mpr
  intro row member debits
  have debits : DebitsFor payout row := of_decide_eq_true debits
  exact apart _ there (debits.1 ▸ rowsOn row member)

theorem filter_payouts_apart {row : WalletTransaction}
    (apart : ∀ key, on key → ¬ onLater key) (there : on row.walletId)
    (createdOn : ∀ payout ∈ others, onLater (sourceKey payout)) :
    others.filter (fun item => DebitsFor item row) = [] := by
  apply List.filter_eq_nil_iff.mpr
  intro item member debits
  have debits : DebitsFor item row := of_decide_eq_true debits
  exact apart _ there (debits.1 ▸ createdOn item member)

/-- Two creations on different wallets, one after the other. -/
theorem append (first : Accounted charge on rows created before middle)
    (second : Accounted charge onLater later others middle after)
    (apart : ∀ key, on key → ¬ onLater key) :
    Accounted charge (fun key => on key ∨ onLater key) (rows ++ later)
      (created ++ others) before after where
  adds := first.adds.trans second.adds
  rowsOn := fun row member => (List.mem_append.mp member).imp (first.rowsOn row)
    (second.rowsOn row)
  createdOn := fun payout member =>
    (List.mem_append.mp member).imp (first.createdOn payout)
    (second.createdOn payout)
  debited := by
    intro payout member
    rcases List.mem_append.mp member with early | late
    · obtain ⟨row, debited, charged, held⟩ := first.debited payout early
      have among : row ∈ rows.filter fun row => DebitsFor payout row :=
        debited.only ▸ List.mem_singleton_self row
      have there := first.rowsOn row (List.mem_filter.mp among).1
      refine ⟨row, ⟨?_, ?_⟩, charged, created_later second.adds held⟩
      · rw [List.filter_append, debited.only,
          filter_rows_apart apart (first.createdOn payout early) second.rowsOn]
        rfl
      · rw [List.filter_append,
          filter_payouts_apart apart there second.createdOn, List.append_nil]
        exact debited.whole
    · obtain ⟨row, debited, charged, held⟩ := second.debited payout late
      have among : row ∈ later.filter fun row => DebitsFor payout row :=
        debited.only ▸ List.mem_singleton_self row
      have there := second.rowsOn row (List.mem_filter.mp among).1
      have swapped : ∀ key, onLater key → ¬ on key :=
        fun key later early => apart key early later
      refine ⟨row, ⟨?_, ?_⟩, charged, held⟩
      · rw [List.filter_append, debited.only,
          filter_rows_apart swapped (second.createdOn payout late) first.rowsOn]
        rfl
      · rw [List.filter_append,
          filter_payouts_apart swapped there first.createdOn, List.nil_append]
        exact debited.whole
  positive := fun payout member =>
    (List.mem_append.mp member).elim (first.positive payout)
    (second.positive payout)

/-- A single payout and its debit. -/
theorem single {payout : Payout} {row : WalletTransaction}
    (adds : Adds before [row] [payout] after) (there : on row.walletId)
    (debits : DebitsFor payout row)
    (charged : charge payout row = fullDebit payout)
    (amount : (row.amount : Decimal) = -fullDebit payout)
    (positive : 0 < fullDebit payout) (held : Payments.Created after payout) :
    Accounted charge on [row] [payout] before after where
  adds := adds
  rowsOn := fun _ member => List.mem_singleton.mp member ▸ there
  createdOn := by
    intro _ member
    rw [List.mem_singleton.mp member, ← debits.1]
    exact there
  debited := by
    intro _ member
    cases List.mem_singleton.mp member
    refine ⟨row, ⟨?_, ?_⟩, charged, held⟩
    · simp [debits]
    · simp [debits, charged, amount]
  positive := by
    intro _ member _
    cases List.mem_singleton.mp member
    exact positive

/-- A debit whose payout did not come to be. -/
theorem debitOnly {row : WalletTransaction} (adds : Adds before [row] [] after)
    (there : on row.walletId) : Accounted charge on [row] [] before after where
  adds := adds
  rowsOn := fun _ member => List.mem_singleton.mp member ▸ there
  createdOn := fun _ member => absurd member List.not_mem_nil
  debited := fun _ member => absurd member List.not_mem_nil
  positive := fun _ member => absurd member List.not_mem_nil

/-- Nothing has been added before. -/
theorem after_nothing (adds : Adds before [] [] middle)
    (accounted : Accounted charge on rows created middle after) :
    Accounted charge on rows created before after where
  adds := adds.trans accounted.adds
  rowsOn := accounted.rowsOn
  createdOn := accounted.createdOn
  debited := accounted.debited
  positive := accounted.positive

/-- A state that differs in other tables only. -/
theorem congr (accounted : Accounted charge on rows created before middle)
    (ledger : after.ledger = middle.ledger)
    (payouts : after.payouts = middle.payouts)
    (accounts : after.accounts = middle.accounts)
    (wallets : after.wallets = middle.wallets) :
    Accounted charge on rows created before after where
  adds := accounted.adds.congr ledger payouts accounts wallets
  rowsOn := accounted.rowsOn
  createdOn := accounted.createdOn
  debited := by
    intro payout member
    obtain ⟨row, debited, charged, held⟩ := accounted.debited payout member
    refine ⟨row, debited, charged, ?_⟩
    have same : Adds middle [] [] after :=
      (Adds.refl middle).congr ledger payouts accounts wallets
    exact created_later same held
  positive := accounted.positive

end Accounted

/-- What a call has added is accounted for. -/
def Leaves (charge : Payout → WalletTransaction → Decimal)
    (on : WalletKey → Prop) (before after : World) : Prop :=
  ∃ rows created, Accounted charge on rows created before after

theorem Leaves.nothing {charge : Payout → WalletTransaction → Decimal}
    {on : WalletKey → Prop} {before after : World}
    (adds : Adds before [] [] after) : Leaves charge on before after :=
  ⟨[], [], .nothing adds⟩

/-- The call leaves what it adds accounted for, whatever fails. -/
abbrev LeavesAccounted {Result : Type}
    (charge : Payout → WalletTransaction → Decimal) (on : WalletKey → Prop)
    (world : World) (program : Db Result) : Prop :=
  program.Holds (· = world) (fun _ => Leaves charge on world)
    (Leaves charge on world)

section

variable {charge : Payout → WalletTransaction → Decimal} {world : World}

/-- An allowed debit has its amount, taken off, on its row. -/
theorem moveRow_debit (now : Time) {input : MoveInput} {amount : Decimal}
    (wallet : Wallet) (balance : Money)
    (debit : isDebit input.txType amount = true) (nonneg : 0 ≤ amount)
    (cents : Decimal.HasPlaces 2 amount) :
    ((moveRow now input wallet amount balance).amount : Decimal) = -amount := by
  simp only [moveRow, debit, if_true, abs_of_nonneg nonneg]
  exact Money.coe_round_of_hasPlaces cents.neg

theorem moveRow_debit_after (now : Time) {input : MoveInput} {amount : Decimal}
    (wallet : Wallet) (balance : Money)
    (debit : isDebit input.txType amount = true) (nonneg : 0 ≤ amount)
    (cents : Decimal.HasPlaces 2 amount) :
    ((moveRow now input wallet amount balance).balanceAfter : Decimal) =
      balance - amount := by
  simp only [moveRow, debit, if_true, abs_of_nonneg nonneg, sub_eq_add_neg]
  exact Money.coe_round_of_hasPlaces (balance.property.add cents.neg)

theorem moveRow_credit (now : Time) {input : MoveInput} {amount : Decimal}
    (wallet : Wallet) (balance : Money)
    (credit : isDebit input.txType amount = false) (nonneg : 0 ≤ amount)
    (cents : Decimal.HasPlaces 2 amount) :
    ((moveRow now input wallet amount balance).amount : Decimal) = amount := by
  simp only [moveRow, credit, Bool.false_eq_true, if_false,
    abs_of_nonneg nonneg]
  exact Money.coe_round_of_hasPlaces cents

/-- The payout of a hold and its debit, once both are written. -/
theorem Hold.FitsIn.accounted (now : Time) {hold : Hold}
    {prepared after : World} {wallet : Wallet} {amount : Decimal}
    (fits : hold.FitsIn world) (sound : Prepared world prepared)
    (charged : ∀ row : WalletTransaction,
      (row.balanceBefore : Decimal) = world.balance (sourceKey hold.payout) →
        charge hold.payout row = fullDebit hold.payout)
    (allowed : MoveAllowed hold.debit prepared wallet amount)
    (adds : Adds world [moveRow now hold.debit wallet amount wallet.balance]
      [hold.payout]
      after) :
    Accounted charge (· = sourceKey hold.payout)
      [moveRow now hold.debit wallet amount wallet.balance] [hold.payout]
        world after := by
  have was := sound.moveAllowed_iff.mp allowed
  obtain ⟨reference, walletId, signed, negative⟩ := debit_row now fits was
  have single := fits.1.single
  obtain ⟨row, account⟩ := fits.2
  have key : wallet.key = sourceKey hold.payout := walletId
  apply Accounted.single adds walletId
  · refine ⟨walletId, ?_⟩
    rw [debitReference, single]
    exact reference
  · apply charged
    have found := was.found_key
    rw [key] at found
    rw [balance_eq found]
    rfl
  · exact signed
  · linarith
  · constructor
    · apply Table.find?_of_mem
      rw [adds.payouts]
      exact List.mem_append_right _ List.mem_cons_self
    · exact fits.1.pending
    · exact fits.1.debited
    · exact fits.1.unrefunded
    · rw [adds.accounts, account]
      rfl
    · apply adds.wallets
      rw [← key, was.found_key]
      rfl
    · exact fits.1.nonneg

theorem enqueue_holds (site : Site) (now : Time) (payload : JobPayload)
    {invariant : World → Prop}
    (keeps : ∀ world jobs, invariant world → invariant { world with jobs }) :
    (enqueue site now payload).Holds invariant (fun _ => invariant)
      invariant := by
  apply Program.Holds.perform
  · rintro _ _ ⟨before, kept, _, rfl⟩
    exact keeps before _ kept
  · exact fun _ kept => kept

/-- The debit, the row and the job of a hold. -/
theorem holdAndQueue_leaves (now : Time) {hold : Hold} {prepared : World}
    (fits : hold.FitsIn world) (sound : Prepared world prepared)
    (charged : ∀ row : WalletTransaction,
      (row.balanceBefore : Decimal) = world.balance (sourceKey hold.payout) →
        charge hold.payout row = fullDebit hold.payout) :
    (holdAndQueue now hold).Holds (· = prepared)
      (fun _ => Leaves charge (· = sourceKey hold.payout) world)
      (Leaves charge (· = sourceKey hold.payout) world) := by
  have debited := move_holds now hold.debit prepared
  have untouched : Leaves charge (· = sourceKey hold.payout) world prepared :=
    .nothing sound.adds
  apply (debited.mono (fun _ same => same) (fun _ _ moved => moved)
    fun _ same => same ▸ untouched).bind
  intro row
  apply Program.Holds.each
  rintro _ ⟨wallet, amount, allowed, rfl, rfl⟩
  have adds := sound.adds.trans (Adds.record prepared
    (moveRow now hold.debit wallet amount wallet.balance))
  have debitOnly : Leaves charge (· = sourceKey hold.payout) world
      (prepared.record
        (moveRow now hold.debit wallet amount wallet.balance)) := by
    refine ⟨_, _, .debitOnly adds ?_⟩
    exact (debit_row now fits (sound.moveAllowed_iff.mp allowed)).2.1
  have created :
    (Program.perform (payouts.create "payout.create" hold.payout)).Holds
      (· = prepared.record
        (moveRow now hold.debit wallet amount wallet.balance))
      (fun _ => Leaves charge (· = sourceKey hold.payout) world)
      (Leaves charge (· = sourceKey hold.payout) world) := by
    apply Program.Holds.perform
    · rintro answer _ ⟨_, rfl, answers, rfl⟩
      obtain ⟨fresh, rfl⟩ := Relation.create_ok answers
      exact ⟨_, _, fits.accounted now sound charged allowed (adds.insert fresh)⟩
    · rintro _ rfl
      exact debitOnly
  apply created.bind
  intro payout
  apply (enqueue_holds _ now _ ?_).bind
  · exact fun _ => Program.Holds.returned fun _ leaves => leaves
  · rintro state jobs ⟨rows, created, accounted⟩
    exact ⟨rows, created, accounted.congr rfl rfl rfl rfl⟩

/-- What a payout on request and a withdrawal are charged. -/
def amountAndFee (payout : Payout) (_ : WalletTransaction) : Decimal :=
  payout.amount + (payout.feeAmount.getD 0 : Money)

/-- What a sweep is charged: all that the wallet had. -/
def sweptBalance (_ : Payout) (row : WalletTransaction) : Decimal :=
  row.balanceBefore

theorem amountAndFee_eq (payout : Payout) (row : WalletTransaction) :
    amountAndFee payout row = fullDebit payout := by
  unfold amountAndFee fullDebit
  cases payout.feeAmount with
  | none => exact add_zero _
  | some fee => rfl

/-- The hold that the checks come to. -/
theorem held_leaves (now : Time) {prepare : Db Hold} (takes : Hold → Prop)
    (prepares : prepare.Holds (· = world)
      (fun hold after => Prepared world after ∧ hold.FitsIn world ∧ takes hold)
      (Prepared world))
    (charged : ∀ hold, takes hold → ∀ row : WalletTransaction,
      (row.balanceBefore : Decimal) = world.balance (sourceKey hold.payout) →
        charge hold.payout row = fullDebit hold.payout) :
    LeavesAccounted charge (fun _ => True) world
      (prepare >>= fun hold => holdAndQueue now hold) := by
  apply Program.Holds.bind
  · exact prepares.mono (fun _ same => same) (fun _ _ prepared => prepared)
      fun _ prepared => .nothing prepared.adds
  intro hold
  apply Program.Holds.each
  rintro state ⟨sound, fits, taken⟩
  have everywhere (after : World) :
      Leaves charge (· = sourceKey hold.payout) world after →
        Leaves charge (fun _ => True) world after := by
    rintro ⟨rows, created, accounted⟩
    exact ⟨rows, created, accounted.mono fun _ _ => trivial⟩
  exact (holdAndQueue_leaves now fits sound (charged hold taken)).mono
    (fun _ same => same) (fun _ => everywhere) everywhere

theorem createPayout_leaves (now : Time) (random : List Char)
    (accountId : AccountId) (channel : PayoutChannel) (dto : PayoutDto) :
    LeavesAccounted amountAndFee (fun _ => True) world
      (createPayout now random accountId channel dto) := by
  apply held_leaves now fun _ => True
  · exact (preparePayout_holds now random accountId channel dto).mono
      (fun _ same => same)
      (fun _ _ fits => ⟨fits.1, fits.2, trivial⟩) fun _ prepared => prepared
  · exact fun hold _ row _ => amountAndFee_eq hold.payout row

theorem createWithdrawal_leaves (now : Time) (random : List Char)
    (minPayout : MinPayout) (accountId : AccountId) (dto : WithdrawalDto)
    (actorId : Option String) :
    LeavesAccounted amountAndFee (fun _ => True) world
      (createWithdrawal now random minPayout accountId dto actorId) := by
  apply held_leaves now fun _ => True
  · exact (prepareWithdrawal_holds now random minPayout accountId
      dto actorId).mono
      (fun _ same => same) (fun _ _ fits => ⟨fits.1, fits.2, trivial⟩)
        fun _ prepared => prepared
  · exact fun hold _ row _ => amountAndFee_eq hold.payout row

theorem Hold.Sweeps.sourceKey_eq {accountId : AccountId} {hold : Hold}
    (sweeps : hold.Sweeps world accountId) :
    sourceKey hold.payout = ⟨accountId, .collection⟩ := by
  rw [sourceKey, sweeps.account, sweeps.wallet]

/-- A sweep is charged the balance that its debit finds. -/
theorem Hold.Sweeps.charged {accountId : AccountId} {hold : Hold}
    (sweeps : hold.Sweeps world accountId) (row : WalletTransaction)
    (before : (row.balanceBefore : Decimal) =
      world.balance (sourceKey hold.payout)) :
    sweptBalance hold.payout row = fullDebit hold.payout := by
  rw [sweptBalance, before, sweeps.sourceKey_eq, sweeps.balance]

theorem sweepNow_leaves (now : Time) (random : List Char)
    (minPayout : MinPayout) (accountId : String) :
    LeavesAccounted sweptBalance (fun _ => True) world
      (sweepNow now random minPayout accountId) := by
  apply Program.Holds.bind
  · exact (readOnly_holds (resolveAccountId_readOnly accountId)).mono
      (fun _ same => same)
      (fun _ _ same => same) fun _ prepared => .nothing prepared.adds
  intro resolved
  cases resolved with
  | none =>
      apply Program.Holds.threw
      rintro _ rfl
      exact .nothing (.refl _)
  | some resolved =>
      apply held_leaves now fun hold => hold.Sweeps world resolved
      · exact prepareSweepNow_holds now random minPayout resolved
      · exact fun hold sweeps row before => sweeps.charged row before

theorem sweepLeg_leaves (now startOfToday : Time) (random : List Char)
    (minPayout : MinPayout) (dryRun : Bool) (account : Account) :
    LeavesAccounted sweptBalance (· = ⟨account.id, .collection⟩) world
      (sweepLeg now startOfToday random minPayout dryRun account) := by
  have tried :
    (prepareLeg now startOfToday random minPayout dryRun account >>= finishLeg
      now).Holds (· = world)
        (fun _ => Leaves sweptBalance (· = ⟨account.id, .collection⟩) world)
      (Leaves sweptBalance (· = ⟨account.id, .collection⟩) world) := by
    apply Program.Holds.bind
    · exact (prepareLeg_holds now startOfToday random minPayout
        dryRun account).mono
        (fun _ same => same) (fun _ _ fits => fits) fun _ prepared =>
          .nothing prepared.adds
    intro prepared
    apply Program.Holds.each
    rintro state ⟨sound, fits, sweeps⟩
    cases prepared with
    | inl detail =>
        apply Program.Holds.returned
        rintro _ rfl
        exact .nothing sound.adds
    | inr hold =>
        have sweeps : hold.Sweeps world account.id := sweeps
        rw [← sweeps.sourceKey_eq]
        apply (holdAndQueue_leaves now fits sound fun row before =>
          sweeps.charged row before).bind
        exact fun _ => Program.Holds.returned fun _ leaves => leaves
  apply tried.catching
  · exact fun _ => Program.Holds.returned fun _ leaves => leaves
  · exact fun _ leaves => leaves

/-- The COLLECTION wallets of these accounts. -/
def CollectionOf (accounts : List Account) (key : WalletKey) : Prop :=
  ∃ account ∈ accounts, key = ⟨account.id, .collection⟩

/-- The legs of different accounts, one after another. -/
theorem sweepAll_leaves {sweep : Account → Db SweepDetail}
    {accounts : List Account} (distinct : (accounts.map Account.id).Nodup)
    (leg : ∀ account world,
      LeavesAccounted sweptBalance (· = ⟨account.id, .collection⟩) world
        (sweep account)) :
    LeavesAccounted sweptBalance (CollectionOf accounts) world
      (sweepAll sweep accounts) := by
  induction accounts generalizing world with
  | nil =>
      apply Program.Holds.returned
      rintro _ rfl
      exact .nothing (.refl _)
  | cons account rest ih =>
      obtain ⟨absent, distinct⟩ := List.nodup_cons.mp distinct
      have head (after : World) :
          Leaves sweptBalance (· = ⟨account.id, .collection⟩) world after →
            Leaves sweptBalance (CollectionOf (account :: rest))
              world after := by
        rintro ⟨rows, created, accounted⟩
        exact ⟨rows, created, accounted.mono fun _ same =>
          ⟨account, List.mem_cons_self, same⟩⟩
      have apart (key : WalletKey) (here : key = ⟨account.id, .collection⟩) :
          ¬ CollectionOf rest key := by
        rintro ⟨other, member, same⟩
        rw [here] at same
        apply absent
        have ids : account.id = other.id := congrArg WalletKey.accountId same
        rw [ids]
        exact List.mem_map_of_mem member
      apply Program.Holds.bind
      · exact (leg account world).mono (fun _ same => same)
          (fun _ _ leaves => leaves) head
      intro detail
      apply Program.Holds.each
      rintro middle ⟨rows, created, accounted⟩
      have both (after : World) :
          Leaves sweptBalance (CollectionOf rest) middle after →
            Leaves sweptBalance (CollectionOf (account :: rest))
              world after := by
        rintro ⟨later, others, more⟩
        refine ⟨_, _, (accounted.append more apart).mono ?_⟩
        rintro key (same | ⟨other, member, same⟩)
        · exact ⟨account, List.mem_cons_self, same⟩
        · exact ⟨other, List.mem_cons_of_mem _ member, same⟩
      apply Program.Holds.bind
      · exact (ih distinct).mono (fun _ same => same) (fun _ => both) both
      · exact fun _ => Program.Holds.returned fun _ leaves => leaves

theorem runAutoSweep_leaves (now startOfToday : Time)
    (random : AccountId → List Char) (minPayout : MinPayout) (dryRun : Bool) :
    LeavesAccounted sweptBalance (fun _ => True) world
      (runAutoSweep now startOfToday random minPayout dryRun) := by
  have selected : (Program.perform (select "sweep.accounts" fun world =>
      world.accounts.rows.filter fun account => account.status = .active ∧
        account.autoSweep)).Holds (· = world)
      (fun accounts after => after = world ∧ (accounts.map Account.id).Nodup)
      (Leaves sweptBalance (fun _ => True) world) := by
    apply Program.Holds.read (fun _ => rfl)
    · rintro state accounts rfl answers
      cases answers
      exact ⟨rfl, state.accounts.unique.sublist (List.filter_sublist.map _)⟩
    · rintro _ rfl
      exact .nothing (.refl _)
  apply selected.bind
  intro accounts
  apply Program.Holds.given
  intro distinct
  have everywhere (after : World) :
      Leaves sweptBalance (CollectionOf accounts) world after →
        Leaves sweptBalance (fun _ => True) world after := by
    rintro ⟨rows, created, accounted⟩
    exact ⟨rows, created, accounted.mono fun _ _ => trivial⟩
  apply (sweepAll_leaves distinct fun account _ =>
    sweepLeg_leaves now startOfToday
    (random account.id) minPayout dryRun account).mono (fun _ same => same)
      (fun _ => everywhere)
    everywhere

theorem resolvePayoutLinkRecipient_readOnly (now : Time) (tokenHash : String)
    (dto : PayoutLinkDetails) (beneficiaryName : Option String) :
    (resolvePayoutLinkRecipient now tokenHash dto
      beneficiaryName).ReadOnly := by
  have active : (findActivePayoutLink now tokenHash).ReadOnly := by
    apply (Program.ReadOnly.read fun _ => rfl).bind
    intro link
    cases link with
    | none => exact .threw _
    | some link =>
        dsimp only
        split
        · exact .returned _
        · exact .threw _
  apply active.bind
  intro _
  split
  · exact .threw _
  · exact .returned _

/-- Consuming a link adds no payout and moves no money. -/
theorem redeemLink_holds (now : Time) (tokenHash : String)
    (resolved : ResolvedRecipient) :
    (redeemLink now tokenHash resolved).Holds (· = world)
      (fun _ after => Adds world [] [] after) := by
  simp only [redeemLink, Body.bind_perform]
  apply Body.Holds.query
  · intro row
    cases row with
    | none => exact .threw _
    | some row =>
        dsimp only
        split
        · exact .threw _
        split
        · exact .threw _
        · apply Body.Holds.query
          · intro link
            apply Body.Holds.returned
            rintro _ ⟨_, ⟨_, rfl, _, rfl⟩, _, rfl⟩
            exact (Adds.refl _).congr rfl rfl rfl rfl
          · exact fun _ => .threw _
  · exact fun _ => .threw _

theorem confirmPayoutLink_leaves (times : ConfirmTimes) (random : List Char)
    (tokenHash : String) (dto : PayoutLinkDetails)
    (beneficiaryName : Option String) :
    LeavesAccounted amountAndFee (fun _ => True) world
      (confirmPayoutLink times random tokenHash dto beneficiaryName) := by
  apply Program.Holds.bind
  · exact (readOnly_holds
      (resolvePayoutLinkRecipient_readOnly times.checked tokenHash dto
      beneficiaryName)).mono (fun _ same => same) (fun _ _ same => same)
      fun _ prepared => .nothing prepared.adds
  intro resolved
  apply Program.Holds.bind
  · apply Program.Holds.atomically
      (redeemLink_holds times.locked tokenHash resolved)
    rintro _ rfl
    exact .nothing (.refl _)
  intro link
  apply Program.Holds.each
  intro state adds
  have extended (after : World) :
      Leaves amountAndFee (fun _ => True) state after →
        Leaves amountAndFee (fun _ => True) world after := by
    rintro ⟨rows, created, accounted⟩
    exact ⟨rows, created, accounted.after_nothing adds⟩
  apply Program.Holds.bind
  · exact (createPayout_leaves times.created random link.accountId .mobileMoney
      (linkPayout link resolved)).mono (fun _ same => same) (fun _ => extended)
        extended
  intro payout
  have noted :
    (Program.perform (markPaid times.created tokenHash payout.reference)).Holds
      (Leaves amountAndFee (fun _ => True) world)
      (fun _ => Leaves amountAndFee (fun _ => True) world)
      (Leaves amountAndFee (fun _ => True) world) := by
    apply Program.Holds.perform
    · rintro _ _ ⟨before, ⟨rows, created, accounted⟩, _, rfl⟩
      exact ⟨rows, created, accounted.congr rfl rfl rfl rfl⟩
    · exact fun _ leaves => leaves
  apply noted.bind
  exact fun _ => Program.Holds.returned fun _ leaves => leaves

/-! ## Batches -/

/-- What a batch item is charged: its share of the hold. -/
def itemShare (payout : Payout) (_ : WalletTransaction) : Decimal :=
  payout.amount

/-- The rows of a batch are those of its items, in order. -/
theorem itemRows_built {now : Time} {randoms : ℕ → List Char}
    {accountId : AccountId} {sourceCode : String} {batchId : Reference}
    {items : List BatchItem} {rows : List Payout}
    (built : itemRows now randoms accountId sourceCode batchId items =
      .ok rows) :
    List.Forall₂ (fun item payout => ∃ reference,
      payout = itemPayout now accountId batchId item reference) items rows := by
  unfold itemRows at built
  generalize 0 = index at built
  induction items generalizing index rows with
  | nil =>
      cases built
      exact .nil
  | cons item rest ih =>
      simp only [List.zipIdx_cons, List.mapM_cons] at built
      cases completed : buildReference (randoms index) sourceCode
        item.reference with
      | error error =>
          rw [completed] at built
          cases built
      | ok reference =>
          rw [completed] at built
          cases others : (rest.zipIdx (index + 1)).mapM fun item => do
              let reference ← buildReference (randoms item.2) sourceCode
                item.1.reference
              pure (itemPayout now accountId batchId item.1 reference) with
          | error error =>
              rw [others] at built
              cases built
          | ok later =>
              rw [others] at built
              cases built
              exact .cons ⟨reference, rfl⟩ (ih (index + 1) others)

/-- Each row of a batch is an item's, and their amounts are the items'
amounts. -/
theorem itemRows_ok {now : Time} {randoms : ℕ → List Char}
    {accountId : AccountId} {sourceCode : String} {batchId : Reference}
    {items : List BatchItem} {rows : List Payout}
    (built : itemRows now randoms accountId sourceCode batchId items =
      .ok rows) :
    (∀ payout ∈ rows, ∃ item ∈ items, ∃ reference,
      payout = itemPayout now accountId batchId item reference) ∧
    (rows.map fun payout => (payout.amount : Decimal)) =
      items.map fun item => (item.amount.val : Decimal) := by
  have rowByRow := itemRows_built built
  clear built
  induction rowByRow with
  | nil => exact ⟨fun _ member => absurd member List.not_mem_nil, rfl⟩
  | @cons item payout rest later first _ ih =>
      obtain ⟨reference, rfl⟩ := first
      obtain ⟨each, amounts⟩ := ih
      constructor
      · intro other member
        rcases List.mem_cons.mp member with rfl | member
        · exact ⟨item, List.mem_cons_self, reference, rfl⟩
        · obtain ⟨wanted, among, was⟩ := each other member
          exact ⟨wanted, List.mem_cons_of_mem _ among, was⟩
      · rw [List.map_cons, List.map_cons, amounts]
        rfl

theorem batchTotal_nonneg (items : List BatchItem) : 0 ≤ batchTotal items := by
  apply List.sum_nonneg
  intro amount member
  obtain ⟨item, _, rfl⟩ := List.mem_map.mp member
  exact item.amount.property

theorem batchTotal_hasPlaces (items : List BatchItem) :
    Decimal.HasPlaces 2 (batchTotal items) := by
  induction items with
  | nil => exact .zero
  | cons item rest ih =>
      have first : Decimal.HasPlaces 2 (item.amount.val : Decimal) :=
        item.amount.val.property
      exact first.add ih

/-- The debit of a batch hold. -/
structure HoldsBatch (world : World) (accountId : AccountId)
    (reference : Reference) (total : Decimal) (row : WalletTransaction) :
    Prop where
  wallet : row.walletId = ⟨accountId, .disbursement⟩
  reference : row.reference = some reference
  amount : (row.amount : Decimal) = -total
  after : (row.balanceAfter : Decimal) =
    world.balance ⟨accountId, .disbursement⟩ - total
  account : (world.accounts.find? accountId).isSome
  present : (world.wallets.find? ⟨accountId, .disbursement⟩).isSome

theorem holdsBatch_of_allowed (now : Time) {accountId : AccountId}
    {dto : CreateBatchDto} {reference : Reference} {account : Account}
    {wallet : Wallet} {amount : Decimal}
    (found : world.accounts.find? accountId = some account)
    (allowed : MoveAllowed (batchHold accountId dto reference)
      world wallet amount) :
    HoldsBatch world accountId reference (batchTotal dto.items)
      (moveRow now (batchHold accountId dto reference) wallet amount
        wallet.balance) := by
  have key : wallet.key = ⟨accountId, .disbursement⟩ := allowed.wallet_key found
  have value := allowed.value
  simp only [batchHold, NumberInput.value.injEq,
    Decimal.toFixed_of_hasPlaces (batchTotal_hasPlaces dto.items)] at value
  subst value
  constructor
  · exact key
  · rfl
  · exact moveRow_debit now wallet wallet.balance rfl
      (batchTotal_nonneg dto.items) (batchTotal_hasPlaces dto.items)
  · have at_key := allowed.found_key
    rw [key] at at_key
    rw [balance_eq at_key]
    exact moveRow_debit_after now wallet wallet.balance rfl
      (batchTotal_nonneg dto.items) (batchTotal_hasPlaces dto.items)
  · rw [found]
    rfl
  · rw [← key, allowed.found_key]
    rfl

/-- The items of a batch and its hold. -/
theorem HoldsBatch.accounted {now : Time} {randoms : ℕ → List Char}
    {accountId : AccountId} {sourceCode : String} {reference : Reference}
    {items : List BatchItem} {row : WalletTransaction} {created : List Payout}
    {after : World}
    (held : HoldsBatch world accountId reference (batchTotal items) row)
    (built : itemRows now randoms accountId sourceCode reference items =
      .ok created) (adds : Adds world [row] created after) :
    Accounted itemShare (fun _ => True) [row] created world after := by
  obtain ⟨each, amounts⟩ := itemRows_ok built
  have debits (payout : Payout) (member : payout ∈ created) :
    DebitsFor payout row := by
    obtain ⟨item, _, own, rfl⟩ := each payout member
    exact ⟨held.wallet, held.reference⟩
  constructor
  · exact adds
  · exact fun _ _ => trivial
  · exact fun _ _ => trivial
  swap
  · intro payout member positive
    obtain ⟨item, _, own, rfl⟩ := each payout member
    exact positive
  intro payout member
  refine ⟨row, ⟨?_, ?_⟩, ?_, ?_⟩
  · simp [debits payout member]
  · have all : created.filter (fun item => DebitsFor item row) = created :=
      List.filter_eq_self.mpr fun item among =>
        decide_eq_true (debits item among)
    rw [all, held.amount]
    exact congrArg (fun amounts => -amounts.sum) amounts.symm
  · obtain ⟨item, _, own, rfl⟩ := each payout member
    rfl
  · have stored : after.payouts.find? payout.reference = some payout := by
      apply Table.find?_of_mem
      rw [adds.payouts]
      exact List.mem_append_right _ member
    obtain ⟨item, _, own, rfl⟩ := each payout member
    constructor
    · exact stored
    · rfl
    · rfl
    · rfl
    · rw [adds.accounts]
      exact held.account
    · exact adds.wallets _ held.present
    · exact item.amount.property

/-- The rows of a batch, in their transaction. -/
theorem createBatchRows_holds {now : Time} {randoms : ℕ → List Char}
    {accountId : AccountId} {sourceCode : String} {dto : CreateBatchDto}
    {reference : Reference} {row : WalletTransaction} {debited : World}
    (held : HoldsBatch world accountId reference (batchTotal dto.items) row)
    (adds : Adds world [row] [] debited) :
    (createBatchRows now randoms accountId sourceCode dto reference).Holds
      (· = debited) (fun _ => Leaves itemShare (fun _ => True) world) := by
  simp only [createBatchRows, Body.bind_perform]
  apply Body.Holds.query
  · intro batch
    split
    · exact .threw _
    rename_i created built
    apply Body.Holds.query
    · intro answer
      apply Body.Holds.returned
      rintro _ ⟨_, ⟨_, rfl, answers, rfl⟩, inserted, rfl⟩
      obtain ⟨_, rfl⟩ := Relation.create_ok answers
      refine ⟨[row], created, held.accounted built ?_⟩
      exact ⟨adds.ledger, (Relation.createMany_ok inserted).trans
        (congrArg (· ++ created) (adds.payouts.trans (List.append_nil _))),
          adds.accounts,
        adds.wallets⟩
    · exact fun _ => .threw _
  · exact fun _ => .threw _

theorem holdBatch_leaves (now : Time) (randoms : ℕ → List Char)
    {accountId : AccountId} (sourceCode : String) (dto : CreateBatchDto)
    (reference : Reference) {account : Account}
    (found : world.accounts.find? accountId = some account) :
    LeavesAccounted itemShare (fun _ => True) world
      (holdBatch now randoms accountId sourceCode dto reference) := by
  apply Program.Holds.bind
  · apply (move_holds now (batchHold accountId dto reference) world).mono
      (fun _ same => same) (fun _ _ moved => moved)
    rintro _ rfl
    exact .nothing (.refl _)
  intro row
  apply Program.Holds.each
  rintro _ ⟨wallet, amount, allowed, rfl, rfl⟩
  have held := holdsBatch_of_allowed now found allowed
  have adds := Adds.record world
    (moveRow now (batchHold accountId dto reference) wallet amount
      wallet.balance)
  apply Program.Holds.bind
  · apply Program.Holds.atomically (createBatchRows_holds held adds)
    rintro _ rfl
    exact ⟨_, _, .debitOnly adds trivial⟩
  intro batch
  have listed : (Program.perform (select "batch.findItems" fun world =>
      batchItemIds world batch.reference)).Holds
        (Leaves itemShare (fun _ => True) world)
      (fun _ => Leaves itemShare (fun _ => True) world)
      (Leaves itemShare (fun _ => True) world) :=
    .read (fun _ => rfl) (fun _ _ leaves _ => leaves) fun _ leaves => leaves
  apply listed.bind
  intro items
  apply (enqueue_holds _ now _ ?_).bind
  · exact fun _ => Program.Holds.returned fun _ leaves => leaves
  · rintro state jobs ⟨rows, created, accounted⟩
    exact ⟨rows, created, accounted.congr rfl rfl rfl rfl⟩

theorem createBatch_leaves (now : Time) (random : List Char)
    (randoms : ℕ → List Char) (accountId : AccountId) (dto : CreateBatchDto) :
    LeavesAccounted itemShare (fun _ => True) world
      (createBatch now random randoms accountId dto) := by
  apply Program.Holds.bind
  · exact (findAccount_holds accountId).mono (fun _ same => same)
      (fun _ _ found => found) fun _ prepared => .nothing prepared.adds
  intro account
  apply Program.Holds.given
  intro found
  have threw (error : AppError) :
    LeavesAccounted itemShare (fun _ => True) world
      (.threw error : Db DisbursementBatch) := by
    apply Program.Holds.threw
    rintro _ rfl
    exact .nothing (.refl _)
  cases validateItems dto.items with
  | error problem => exact threw problem
  | ok _ =>
      cases buildReference random account.sourceCode none with
      | error error => exact threw error
      | ok reference => exact holdBatch_leaves now randoms account.sourceCode dto reference found

end

/-- A call that creates payouts. -/
inductive Creation where
  | createPayout (now : Time) (random : List Char) (accountId : AccountId)
      (channel : PayoutChannel) (dto : PayoutDto)
  | confirmPayoutLink (times : ConfirmTimes) (random : List Char)
      (tokenHash : String)
      (dto : PayoutLinkDetails) (beneficiaryName : Option String)
  | createWithdrawal (now : Time) (random : List Char) (minPayout : MinPayout)
      (accountId : AccountId) (dto : WithdrawalDto) (actorId : Option String)
  | runAutoSweep (now startOfToday : Time) (random : AccountId → List Char)
      (minPayout : MinPayout) (dryRun : Bool)
  | sweepNow (now : Time) (random : List Char) (minPayout : MinPayout)
      (accountId : String)
  | createBatch (now : Time) (random : List Char) (randoms : ℕ → List Char)
      (accountId : AccountId) (dto : CreateBatchDto)

namespace Creation

def program : Creation → Db Unit
  | createPayout now random accountId channel dto =>
      Program.discard (Payouts.createPayout now random accountId channel dto)
  | confirmPayoutLink times random tokenHash dto beneficiaryName =>
      Program.discard
        (Payouts.confirmPayoutLink times random tokenHash dto beneficiaryName)
  | createWithdrawal now random minPayout accountId dto actorId =>
      Program.discard
        (Payouts.createWithdrawal now random minPayout accountId dto actorId)
  | runAutoSweep now startOfToday random minPayout dryRun =>
      Program.discard
        (Payouts.runAutoSweep now startOfToday random minPayout dryRun)
  | sweepNow now random minPayout accountId =>
      Program.discard (Payouts.sweepNow now random minPayout accountId)
  | createBatch now random randoms accountId dto =>
      Program.discard (Payouts.createBatch now random randoms accountId dto)

/-- What the call charges for a payout that the row debits. -/
def charge : Creation → Payout → WalletTransaction → Decimal
  | createPayout .. | confirmPayoutLink .. | createWithdrawal .. => amountAndFee
  | runAutoSweep .. | sweepNow .. => sweptBalance
  | createBatch .. => itemShare

/-- Whatever fails in it, a call leaves its payouts and their debits accounted
for. -/
theorem accounted (creation : Creation)
    (faults : Site → Option (Fault AppError)) (world : World) :
    Leaves creation.charge (fun _ => True) world
      (creation.program.exec faults world).2 := by
  cases creation with
  | createPayout now random accountId channel dto =>
      exact (createPayout_leaves now random accountId channel dto).discard.final
        faults
  | confirmPayoutLink times random tokenHash dto beneficiaryName =>
      exact (confirmPayoutLink_leaves times random tokenHash dto
        beneficiaryName).discard.final faults
  | createWithdrawal now random minPayout accountId dto actorId =>
      exact (createWithdrawal_leaves now random minPayout accountId dto
        actorId).discard.final faults
  | runAutoSweep now startOfToday random minPayout dryRun =>
      exact (runAutoSweep_leaves now startOfToday random minPayout
        dryRun).discard.final faults
  | sweepNow now random minPayout accountId =>
      exact (sweepNow_leaves now random minPayout accountId).discard.final
        faults
  | createBatch now random randoms accountId dto =>
      exact (createBatch_leaves now random randoms accountId dto).discard.final
        faults

end Creation

end CloudStudio.Payouts
