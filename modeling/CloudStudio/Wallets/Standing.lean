import Mathlib.Data.List.Flatten
import CloudStudio.Transactions.Resting
import CloudStudio.Wallets.AuditTrail
import CloudStudio.Wallets.Freezing

/-!
# Threads that move money any number of times

The pool is of threads that each run one movement or transfer.  In the whole
service a thread makes several, or none, and does other things between them.  To
such a transaction everything that is in the ledger may as well have been posted
by one more thread of a pool: what the pool says of the transaction holds here
too.
-/

namespace CloudStudio.Wallets

open Function
open CloudStudio.Data CloudStudio.Transactions CloudStudio.Platform

variable {Id : Type} [DecidableEq Id] {id : Id} {kept : BookInvariant}
  {ignores : Id → Prop}

/-- The ledger rows that a step adds are those of valid postings on wallets as
they were, and no wallet moves that is frozen, if statuses are as they were
read. -/
structure StepsOn (kept : BookInvariant) (ignores : Prop)
    (before after : World) : Prop where
  adds : ∃ postings,
    (∀ posting ∈ postings,
    Posting.Valid kept.assumed kept.seen ignores posting) ∧
    (book before).Finds postings ∧
      after.ledger = before.ledger ++ postings.map Posting.row
  respects : .currentStatus ∈ kept.assumed → RespectsFreeze ignores before after

theorem stepsOn_same {before after : World} {ignores : Prop}
    (ledger : after.ledger = before.ledger)
    (balance : ∀ wallet row, before.wallets.find? wallet = some row →
      after.balance wallet = before.balance wallet) :
    StepsOn kept ignores before after where
  adds := ⟨[], by simp, by simp [Book.Finds], by simp [ledger]⟩
  respects := fun _ _ wallet row found _ => balance wallet row found

theorem stepsOn_beside {before after : World} {ignores : Prop}
    (same : book after = book before) : StepsOn kept ignores before after := by
  refine stepsOn_same (congrArg Book.ledger same) fun wallet _ _ => ?_
  change (book after).balance wallet = (book before).balance wallet
  rw [same]

/-- A thread holds the wallet rows that its open transaction has locked, as it
found them. -/
def standing (kept : BookInvariant) (ignores : Id → Prop) :
    Protocol Id World RowKey Expectation (List Wallet) where
  assumed := kept.assumed
  invariant := fun world owner held => kept.holds (book world) ∧
    ∀ id, ∀ wallet ∈ held id, owner (.wallet wallet.key) = some id ∧
      world.wallets.find? wallet.key = some wallet
  guarantee := fun id => StepsOn kept (ignores id)
  abandon := fun _ => []
  guarantee_refl := fun _ _ => stepsOn_beside rfl
  invariant_abandon := by
    rintro world owner held id ⟨holds, pinned⟩
    refine ⟨holds, fun other wallet member => ?_⟩
    by_cases same : other = id
    · subst same
      simp at member
    · rw [update_of_ne same] at member
      obtain ⟨owned, found⟩ := pinned other wallet member
      exact ⟨release_of_ne owned same, found⟩

/-- One more thread has posted the whole ledger. -/
def asPool (ledger : List WalletTransaction) (held : Id → List Wallet) :
    Option Id → Holding
  | none => { posted := ledger }
  | some id => { locked := held id }

def asOwner (owner : RowKey → Option Id) : RowKey → Option (Option Id) :=
  fun key => (owner key).map some

/-- Any thread may write any rows. -/
def anyRows (ignores : Id → Prop) : Duties (Option Id) where
  wrote := fun _ _ => True
  ignores := fun id => id.elim True ignores

omit [DecidableEq Id] in
theorem acquire_asOwner (owner : RowKey → Option Id) (keys : List RowKey) :
    acquire (asOwner owner) (some id) keys =
      asOwner (acquire owner id keys) := by
  funext key
  simp only [acquire, asOwner]
  split <;> rfl

theorem release_asOwner (owner : RowKey → Option Id) :
    release (asOwner owner) (some id) = asOwner (release owner id) := by
  funext key
  simp only [release, asOwner, Option.map_eq_some_iff, Option.some.injEq,
    exists_eq_right]
  split <;> rfl

omit [DecidableEq Id] in
theorem asOwner_eq_some {owner : RowKey → Option Id} {key : RowKey} :
    asOwner owner key = some (some id) ↔ owner key = some id := by
  simp [asOwner]

omit [DecidableEq Id] in
theorem free_asOwner {owner : RowKey → Option Id} {keys : List RowKey}
    (free : Free owner id keys) : Free (asOwner owner) (some id) keys := by
  intro key member
  rcases free key member with unowned | ours
  · exact .inl (by simp [asOwner, unowned])
  · exact .inr (asOwner_eq_some.mpr ours)

theorem update_asPool (ledger : List WalletTransaction)
    (held : Id → List Wallet) {holding : Holding}
    (unposted : holding.posted = []) :
    update (asPool ledger held) (some id) holding =
      asPool ledger (update held id holding.locked) := by
  funext other
  cases other with
  | none => rfl
  | some other =>
      by_cases same : other = id
      · subst same
        rw [update_self]
        cases holding
        simp_all [asPool]
      · simp [asPool, same]

omit [DecidableEq Id] in
theorem contributes_asPool (ledger : List WalletTransaction)
    (held : Id → List Wallet) :
    Contributes [] ledger fun id => (asPool ledger held id).posted := by
  cases ledger with
  | nil =>
      refine ⟨[], by simp, fun id => ?_, rfl⟩
      cases id <;> simp [asPool]
  | cons row rest =>
      refine ⟨[none], by simp, fun id => ?_, by simp [asPool]⟩
      cases id <;> simp [asPool]

/-- Where one more thread has posted the whole ledger, the others have posted
nothing. -/
theorem unposted_of_contributes {ledger : List WalletTransaction}
    {held : Id → List Wallet} {holding : Holding}
    (contributes : Contributes [] ledger fun other =>
      (update (asPool ledger held) (some id) holding other).posted) :
    holding.posted = [] := by
  obtain ⟨order, distinct, members, whole⟩ := contributes
  by_contra some_rows
  have mine : some id ∈ order :=
    (members (some id)).mpr (by simpa using some_rows)
  by_cases rows : ledger = []
  · rw [rows, List.nil_append, eq_comm, List.flatMap_eq_nil_iff] at whole
    exact some_rows (by simpa using whole (some id) mine)
  · have theirs : none ∈ order :=
      (members none).mpr (by simpa [asPool] using rows)
    have both : [none, some id].Subperm order :=
      List.subperm_of_subset (by simp) (by simp [mine, theirs])
    obtain ⟨part, same, sublist⟩ := both
    have length := (sublist.flatMap fun other =>
      (update (asPool ledger held) (some id) holding other).posted).length_le
    rw [(same.flatMap_right _).length_eq, ← List.nil_append
      (order.flatMap _), ← whole] at length
    simp [asPool] at length
    exact some_rows length

/-- What the pool says of a transaction holds between other work too. -/
theorem standing_iff {world : World} {owner : RowKey → Option Id}
    {held : Id → List Wallet} :
    (standing kept ignores).invariant world owner held ↔
      (pool kept (anyRows ignores) []).invariant world (asOwner owner)
        (asPool world.ledger held) := by
  constructor
  · rintro ⟨holds, pinned⟩
    refine ⟨holds, ⟨contributes_asPool world.ledger held, fun _ _ => trivial⟩,
      ?_⟩
    intro other wallet member
    cases other with
    | none => cases member
    | some other =>
        obtain ⟨owned, found⟩ := pinned other wallet member
        exact ⟨asOwner_eq_some.mpr owned, found⟩
  · rintro ⟨holds, _, pinned⟩
    refine ⟨holds, fun other wallet member => ?_⟩
    obtain ⟨owned, found⟩ := pinned (some other) wallet member
    exact ⟨asOwner_eq_some.mp owned, found⟩

/-- The transaction keeps the protocol until it commits, and at its commit. -/
abbrev Stands {Answer : Type} (kept : BookInvariant) (ignores : Id → Prop)
    (id : Id) (body : Tx Answer) (written : World → World)
    (locked : List Wallet) : Prop :=
  body.Safe (standing kept ignores) id
    (CommitSafe (standing kept ignores) id (fun _ ghost => ghost = [])
      (fun (_ : AppError) ghost => ghost = []))
    (fun _ ghost => (standing kept ignores).abandon ghost = []) written locked

theorem stands_of_pool {Answer : Type} {body : Tx Answer}
    {written : World → World} {holding : Holding}
    (safe : body.Safe (pool kept (anyRows ignores) []) (some id)
      (CommitSafe (pool kept (anyRows ignores) []) (some id) Settled Rejected)
      Rejected written holding) (unposted : holding.posted = []) :
    Stands kept ignores id body written holding.locked := by
  have own {ledger : List WalletTransaction} {held : Id → List Wallet}
    {holding : Holding}
      (unposted : holding.posted = []) (same : held id = holding.locked) :
      asPool ledger held (some id) = holding := by
    cases holding
    simp_all [asPool]
  induction body generalizing written holding with
  | returned answer =>
      refine ⟨fun world owner held standing_ same => ?_, fun _ => rfl⟩
      obtain ⟨ghost, ⟨holds, _, pinned⟩, commits, _⟩ :=
        safe.1 world _ _ (standing_iff.mp standing_) (own unposted same)
      refine ⟨[], ⟨holds, fun other wallet member => ?_⟩, ?_, trivial, rfl⟩
      · by_cases mover : other = id
        · subst mover
          simp at member
        · rw [update_of_ne mover] at member
          have others := pinned (some other) wallet (by
            rw [update_of_ne (by simpa using mover)]
            exact member)
          rw [release_asOwner] at others
          exact ⟨asOwner_eq_some.mp others.1, others.2⟩
      · refine ⟨?_, fun assumes => commits.respectsFreeze assumes⟩
        obtain ⟨postings, valid, finds, committed⟩ := commits
        refine ⟨postings, valid, finds, ?_⟩
        have ledger := congrArg Book.ledger committed
        rwa [Book.ledger_commit] at ledger
  | threw error => exact rfl
  | query statement next failed nextIH failedIH =>
      refine ⟨?_, fun error => failedIH error (safe.2 error) unposted⟩
      intro world owner held standing_ same free meets answer answered
      obtain ⟨ghost, stays, later⟩ :=
        safe.1 world _ _ (standing_iff.mp standing_)
        (own unposted same) (free_asOwner free) meets answer answered
      have unposted := unposted_of_contributes stays.2.1.1
      refine ⟨ghost.locked, ?_, nextIH answer later unposted⟩
      rw [acquire_asOwner, update_asPool _ _ unposted] at stays
      exact standing_iff.mpr stays

/-- The wallets and the ledger stay. -/
def besideBook : Growth World where
  grows := fun before after => book after = book before
  refl := fun _ => rfl
  trans := fun first second => second.trans first

theorem standing_locks {world : World} {owner : RowKey → Option Id}
    {held : Id → List Wallet}
    (stays : (standing kept ignores).invariant world owner held)
    {keys : List RowKey} (free : Free owner id keys) :
    (standing kept ignores).invariant world (acquire owner id keys) held := by
  refine ⟨stays.1, fun other wallet member => ?_⟩
  obtain ⟨owned, found⟩ := stays.2 other wallet member
  by_cases same : other = id
  · subst same
    exact ⟨acquire_of_own owned, found⟩
  · exact ⟨acquire_of_ne free owned same, found⟩

theorem standing_released {world : World} {owner : RowKey → Option Id}
    {held : Id → List Wallet}
    (stays : (standing kept ignores).invariant world owner held)
    (own : held id = []) :
    (standing kept ignores).invariant world (release owner id) held := by
  refine ⟨stays.1, fun other wallet member => ?_⟩
  obtain ⟨owned, found⟩ := stays.2 other wallet member
  have differ : other ≠ id := by
    rintro rfl
    rw [own] at member
    cases member
  exact ⟨release_of_ne owned differ, found⟩

theorem standing_unaware : (standing kept ignores).Unaware besideBook [] where
  grown := by
    rintro before after owner held ⟨holds, pinned⟩ same
    have wallets : after.wallets = before.wallets := congrArg Book.wallets same
    refine ⟨?_, ?_⟩
    · rw [same]
      exact holds
    · rw [wallets]
      exact pinned
  guaranteed := fun same _ => stepsOn_beside same
  locked := fun stays free => standing_locks stays free
  released := fun stays own => standing_released stays own
  abandoned := rfl
  committed := trivial

theorem besideBook_rests {Result : Type} {program : Db Result}
    (changes : program.Grows besideBook) :
    program.Rests (standing kept ignores) id [] :=
  changes.rests standing_unaware

theorem move_rests (now : Time) {input : MoveInput}
    (permitted : input.ignoreFrozen → ignores id) :
    (move now input).Rests (standing kept ignores) id [] := by
  unfold move
  split
  · exact rfl
  · exact rfl
  rename_i amount value
  split
  · exact rfl
  refine Program.Rests.bind (besideBook_rests (grows_getWallet _ _))
    fun wallet => ?_
  split
  · exact rfl
  · have permits : (anyRows ignores).Permits (some id) (.move now input) :=
      ⟨fun _ _ => trivial, permitted⟩
    exact Program.Rests.atomically
      (stands_of_pool
        (moveTransaction_safe now input wallet amount permits value) rfl)

theorem standing_ignores_feeConfigs (config : FeeConfig) :
    Ignores (standing kept ignores) fun world =>
      { world with feeConfigs := world.feeConfigs.insert config } :=
  fun _ _ _ stays => ⟨stays, fun _ => stepsOn_beside rfl⟩

theorem transferAmount_rests (now : Time) (reference : Reference)
    (accountId : AccountId) {source target : Wallet}
    (apart : target.key ≠ source.key) (dto : TransferInput)
    (actorId : Option String) :
    (transferAmount now reference accountId source target dto actorId).Rests
      (standing kept ignores) id [] := by
  unfold transferAmount
  split
  · exact rfl
  · exact rfl
  rename_i amount _
  split
  · exact rfl
  rename_i positive
  have nonneg : (0 : Decimal) ≤ amount := not_lt.mp (not_or.mp positive).2
  refine Program.Safe.andThen
    (computeTransferFee_safe accountId amount standing_ignores_feeConfigs
      fun _ => rfl) ?_
  rintro fee _ ⟨⟨config, rfl⟩, rfl⟩
  have feeNonneg := FeeConfig.charge_nonneg config.transferBps nonneg
  refine ⟨stands_of_pool
    (transferTransaction_safe now _ nonneg feeNonneg apart ?_) rfl,
    fun _ => rfl⟩
  exact fun _ _ => trivial

/-- The two wallets differ, since they are of two types. -/
theorem transfer_rests (now : Time) (reference : Reference) (accountId : String)
    (dto : TransferInput) (actorId : Option String) :
    (transferCollectionToDisbursement now reference accountId dto actorId).Rests
      (standing kept ignores) id [] := by
  refine Program.Rests.bind
    (besideBook_rests (grows_resolveAccountId accountId)) fun resolved => ?_
  cases resolved with
  | none => exact rfl
  | some resolved =>
      refine Program.Safe.andThen
        (getWallet_safe resolved .collection fun _ => rfl) ?_
      rintro source _ ⟨sourceType, rfl⟩
      refine Program.Safe.andThen
        (getWallet_safe resolved .disbursement fun _ => rfl) ?_
      rintro target _ ⟨targetType, rfl⟩
      have apart : target.key ≠ source.key := by
        intro same
        rw [same, sourceType] at targetType
        cases targetType
      split
      · exact rfl
      split
      · exact rfl
      split
      · exact transferAmount_rests now reference resolved apart dto actorId
      · refine Program.Rests.bind
          (besideBook_rests (.perform (.idle fun _ _ => rfl))) fun dupe => ?_
        cases dupe with
        | some _ => exact rfl
        | none => exact transferAmount_rests now reference resolved apart dto actorId

/-! ## Freezes and new wallets -/

/-- The invariant is of what wallets hold: new ones are empty, and no status
matters. -/
structure BookInvariant.Open (kept : BookInvariant) : Prop where
  opened : ∀ {book : Book} {rows : List Wallet}, kept.holds book →
    (∀ row ∈ rows, row.balance = 0) →
      kept.holds { book with wallets := book.wallets.insertAll rows }
  frozen : ∀ {book : Book} (wallet : WalletKey) (status : WalletStatus),
    kept.holds book → kept.holds { book with
      wallets :=
        book.wallets.modify wallet (fun row => { row with status := status })
        fun _ => rfl }

/-- `setFrozen` waits for the lock of the row. -/
theorem setFrozen_rests (open_ : kept.Open) (accountId : String)
    (type : WalletType) (frozen : Bool) :
    (setFrozen accountId type frozen).Rests (standing kept ignores) id [] := by
  refine Program.Rests.bind (besideBook_rests (grows_getWallet _ _))
    fun wallet => ?_
  refine ⟨?_, fun _ => rfl⟩
  rintro world owner held ⟨holds, pinned⟩ own free _ answer answered
  refine ⟨[], ⟨open_.frozen wallet.key _ holds, fun other row member => ?_⟩,
    stepsOn_same rfl fun key _ _ => balance_setStatus world wallet.key key _,
      rfl⟩
  rw [← own, update_eq_self] at member
  obtain ⟨owned, found⟩ := pinned other row member
  have apart : row.key ≠ wallet.key := by
    intro same
    rw [same] at owned
    rcases free (.wallet wallet.key) List.mem_cons_self with unowned | ours
    · rw [owned] at unowned
      cases unowned
    · rw [owned] at ours
      obtain rfl := Option.some.inj ours
      rw [own] at member
      cases member
  refine ⟨owned, ?_⟩
  simp only [Relation.update, Platform.wallets]
  rwa [Table.find?_modify_ne apart]

theorem walletCall_rests (open_ : kept.Open) {call : WalletCall}
    (permitted : call.IgnoresFrozen → ignores id) :
    call.program.Rests (standing kept ignores) id [] := by
  cases call with
  | movement call =>
      cases call with
      | move now input => exact (move_rests now permitted).discard
      | transfer now reference accountId dto actorId =>
          exact Program.Rests.discard
            (transfer_rests now reference accountId dto actorId)
  | setFrozen accountId type frozen =>
      exact Program.Rests.discard (setFrozen_rests open_ accountId type frozen)

/-- The transaction has changed nothing of the book but inserted these
wallets. -/
def Opens (rows : List Wallet) (written : World → World) : Prop :=
  ∀ world, book (written world) =
    { book world with wallets := world.wallets.insertAll rows }

theorem opens_nothing : Opens [] fun world => world := fun _ => rfl

theorem Opens.createMany {written : World → World} (opens : Opens [] written)
    (site : Site) (rows : List Wallet) (met : World) :
    Opens rows fun world => (wallets.createMany site rows).effect met
      (written world) := by
  intro world
  have wallets : (written world).wallets = world.wallets :=
    congrArg Book.wallets (opens world)
  have ledger : (written world).ledger = world.ledger :=
    congrArg Book.ledger (opens world)
  simp only [book, Relation.createMany, Platform.wallets, wallets, ledger]

/-- A part of the transaction that leaves the book alone. -/
theorem grows_stands {Answer Result : Type} {body : Tx Answer}
    {next : Answer → Tx Result} {rows : List Wallet} {written : World → World}
    (changes : body.Grows besideBook) (opens : Opens rows written)
    (later : ∀ answer written, Opens rows written →
      Stands kept ignores id (next answer) written []) :
    Stands kept ignores id (body >>= next) written [] := by
  change Stands kept ignores id (body.bind next) written []
  induction body generalizing written with
  | returned answer => exact later answer written opens
  | threw error => exact rfl
  | query statement rest failed restIH failedIH =>
      refine ⟨?_, fun error => failedIH error (changes.2.2 error) opens⟩
      intro world owner held stays own free _ answer _
      refine ⟨[], ?_, restIH answer (changes.2.1 answer) fun world' => ?_⟩
      · rw [← own, update_eq_self]
        exact standing_locks stays free
      · exact (changes.1 _ _).trans (opens world')

/-- A commit that opens empty wallets. -/
theorem Opens.commit {Answer : Type} {answer : Answer} {rows : List Wallet}
    {written : World → World} (opens : Opens rows written) (open_ : kept.Open)
    (empty : ∀ row ∈ rows, row.balance = 0) :
    CommitSafe (standing kept ignores) id (fun _ ghost => ghost = [])
      (fun (_ : AppError) ghost => ghost = []) answer written [] := by
  refine ⟨fun world owner held stays own => ⟨[], ?_, ?_, trivial, rfl⟩,
    fun _ => rfl⟩
  · have released := standing_released stays own
    rw [← own, update_eq_self]
    refine ⟨?_, fun other wallet member => ?_⟩
    · rw [opens world]
      exact open_.opened stays.1 empty
    · obtain ⟨owned, found⟩ := released.2 other wallet member
      have wallets : (written world).wallets = world.wallets.insertAll rows :=
        congrArg Book.wallets (opens world)
      refine ⟨owned, ?_⟩
      rw [wallets]
      exact Table.find?_insertAll found rows
  · refine stepsOn_same (congrArg Book.ledger (opens world))
      fun wallet row found => ?_
    have wallets : (written world).wallets = world.wallets.insertAll rows :=
      congrArg Book.wallets (opens world)
    simp only [World.balance, wallets, found, Table.find?_insertAll found]

theorem floor_open : floor.Open where
  opened := by
    intro book rows holds empty
    refine Table.Each.insertAll holds fun row member => ?_
    rw [empty row member]
    exact le_refl _
  frozen := by
    intro book wallet status holds
    refine Table.Each.modify holds ?_ fun _ nonneg => nonneg
    exact fun _ => rfl

/-- What has no wallet has a balance of zero too. -/
theorem Book.balance_opened (book : Book) {rows : List Wallet}
    (empty : ∀ row ∈ rows, row.balance = 0) :
    ({ book with wallets := book.wallets.insertAll rows } : Book).balance =
      book.balance := by
  funext wallet
  simp only [Book.balance]
  cases found : book.wallets.find? wallet with
  | some row => rw [Table.find?_insertAll found]
  | none =>
      cases opened : (book.wallets.insertAll rows).find? wallet with
      | none => rfl
      | some row =>
          obtain ⟨added, sublist, same⟩ := book.wallets.rows_insertAll rows
          have member := Table.mem_of_find? opened
          rw [same, List.mem_append] at member
          rcases member with old | new
          · have absent := Table.find?_eq_none_iff.mp found
            rw [← Table.key_of_find? opened] at absent
            exact absurd (List.mem_map_of_mem old) absent
          · simp only [Option.map_some, Option.getD_some,
              empty row (sublist.subset new)]
            rfl

theorem Book.balance_frozen (book : Book) (wallet : WalletKey)
    (status : WalletStatus) :
    ({ book with
        wallets :=
          book.wallets.modify wallet (fun row => { row with status := status })
          fun _ => rfl } : Book).balance = book.balance := by
  funext other
  simp only [Book.balance, Table.find?_modify]
  split
  · rename_i same
    subst same
    cases book.wallets.find? other <;> rfl
  · rfl

theorem conservation_open (start : Book) : (conservation start).Open where
  opened := by
    intro book rows holds empty wallet
    rw [book.balance_opened empty]
    exact holds wallet
  frozen := by
    intro book key status holds wallet
    rw [book.balance_frozen key status]
    exact holds wallet

theorem audited_open (start : Book) : (audited start).Open where
  opened := by
    rintro book rows ⟨committed, ledger, chains⟩ empty
    refine ⟨committed, ledger, fun wallet => ?_⟩
    rw [book.balance_opened empty]
    exact chains wallet
  frozen := by
    rintro book key status ⟨committed, ledger, chains⟩
    refine ⟨committed, ledger, fun wallet => ?_⟩
    rw [book.balance_frozen key status]
    exact chains wallet

theorem unconstrained_open : unconstrained.Open where
  opened := fun _ _ => trivial
  frozen := fun _ _ _ => trivial

end CloudStudio.Wallets
