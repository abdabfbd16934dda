import CloudStudio.Wallets.Book
import CloudStudio.Wallets.Reads

/-!
# Concurrent wallet calls refine the book

Any number of `move` and `transferCollectionToDisbursement` calls run at once.
Between its balance update and its commit a transaction holds the lock of the
wallet row, so the row it found is still there when it commits: every commit is
a `Book.commit` of valid postings, and every other statement leaves the book
alone.
-/

namespace CloudStudio.Wallets

open Function
open CloudStudio.Data CloudStudio.Transactions CloudStudio.Platform

/-- A call of the wallet service. -/
inductive Call where
  | move (now : Time) (input : MoveInput)
  | transfer (now : Time) (reference : Reference) (accountId : String)
      (dto : TransferInput) (actorId : Option String)

def Call.program : Call → Db Unit
  | .move now input => do
      let _ ← Wallets.move now input
      pure ()
  | .transfer now reference accountId dto actorId => do
      let _ ← transferCollectionToDisbursement now reference
        accountId dto actorId
      pure ()

/-- `rows` are ledger rows this call writes when it succeeds. -/
def Call.Wrote : Call → List WalletTransaction → Prop
  | .move now input, rows => ∃ wallet amount before,
      input.amount = .value amount ∧
        rows = [moveRow now input wallet amount before]
  | .transfer now reference _ dto _, rows =>
      ∃ (plan : TransferPlan) (srcBefore dstBefore : Money),
      plan.reference = reference ∧ dto.amount = .value plan.amount ∧
        rows = [plan.outRow now srcBefore, plan.inRow now dstBefore]

/-- The part of the state the wallet service keeps. -/
def book (world : World) : Book where
  wallets := world.wallets
  ledger := world.ledger

/-- What a call holds: the wallet rows its open transaction has locked, as it
found them, and the ledger rows it has committed. -/
structure Holding where
  locked : List Wallet := []
  posted : List WalletTransaction := []

variable {Id : Type} [DecidableEq Id]

theorem posted_update (held : Id → Holding) (id : Id) (holding : Holding) :
    (fun other => (update held id holding other).posted) =
      update (fun other => (held other).posted) id holding.posted := by
  funext other
  by_cases same : other = id
  · subst same
    simp
  · simp [same]

theorem posted_update_same {held : Id → Holding} {id : Id} {holding : Holding}
    (same : holding.posted = (held id).posted) :
    (fun other => (update held id holding other).posted) =
      fun other => (held other).posted := by
  rw [posted_update, same]
  exact update_eq_self id _

/-- A change of the book is a commit of valid postings. -/
def Commits (assumed : List Expectation) (seen : Money → Prop) (ignores : Prop)
    (before after : Book) : Prop :=
  ∃ postings,
    (∀ posting ∈ postings, Posting.Valid assumed seen ignores posting) ∧
    before.Finds postings ∧ after = before.commit postings

theorem commits_refl (assumed : List Expectation) (seen : Money → Prop)
    (ignores : Prop) (book : Book) : Commits assumed seen ignores book book :=
  ⟨[], by simp [Book.Finds]⟩

/-- The ledger is its start and then the rows of the calls that have posted. -/
def Ledgered (calls : Id → Call) (start ledger : List WalletTransaction)
    (posted : Id → List WalletTransaction) : Prop :=
  Contributes start ledger posted ∧
    ∀ id, posted id ≠ [] → (calls id).Wrote (posted id)

/-- The call may move a frozen wallet. -/
def Call.IgnoresFrozen : Call → Prop
  | .move _ input => input.ignoreFrozen
  | .transfer .. => False

/-- What the threads of a pool may do: the ledger rows each may write, and which
of them may move a frozen wallet. -/
structure Duties (Id : Type) where
  wrote : Id → List WalletTransaction → Prop
  ignores : Id → Prop

/-- The duties of threads that each run one call. -/
def dutiesOf (calls : Id → Call) : Duties Id where
  wrote := fun id => (calls id).Wrote
  ignores := fun id => (calls id).IgnoresFrozen

/-- The thread may run this call. -/
structure Duties.Permits (duties : Duties Id) (id : Id) (call : Call) :
    Prop where
  wrote : ∀ rows, call.Wrote rows → duties.wrote id rows
  ignores : call.IgnoresFrozen → duties.ignores id

/-- The ledger is its start and then the rows of the threads that have
posted. -/
def Duties.Ledgered (duties : Duties Id) (start ledger : List WalletTransaction)
    (posted : Id → List WalletTransaction) : Prop :=
  Contributes start ledger posted ∧
    ∀ id, posted id ≠ [] → duties.wrote id (posted id)

/-- The rules of the pool: the book keeps `kept`, a locked wallet row stays as
it was found, and the ledger is what the threads have posted. -/
def pool (kept : BookInvariant) (duties : Duties Id)
    (start : List WalletTransaction) :
    Protocol Id World RowKey Expectation Holding where
  assumed := kept.assumed
  invariant := fun world owner held =>
    kept.holds (book world) ∧
      duties.Ledgered start world.ledger (fun id => (held id).posted) ∧
      ∀ id, ∀ wallet ∈ (held id).locked,
        owner (.wallet wallet.key) = some id ∧
          world.wallets.find? wallet.key = some wallet
  guarantee := fun id before after =>
    Commits kept.assumed kept.seen (duties.ignores id)
      (book before) (book after)
  abandon := fun holding => { holding with locked := [] }
  guarantee_refl := fun _ world => commits_refl _ _ _ (book world)
  invariant_abandon := by
    rintro world owner held id ⟨holds, contributes, pinned⟩
    refine ⟨holds, ?_, fun other wallet member => ?_⟩
    · convert contributes using 1
      exact posted_update_same rfl
    · by_cases same : other = id
      · subst same
        simp at member
      · rw [update_of_ne same] at member
        obtain ⟨owned, found⟩ := pinned other wallet member
        exact ⟨release_of_ne owned same, found⟩

variable {kept : BookInvariant} {duties : Duties Id}
  {start : List WalletTransaction}
variable {world : World} {owner : RowKey → Option Id} {held : Id → Holding}
  {id : Id}

/-- Locking a wallet row pins it as it is found. -/
theorem pin {wallet : Wallet} {holding : Holding}
    (safe : (pool kept duties start).invariant world owner held)
    (own : held id = holding)
    (found : world.wallets.find? wallet.key = some wallet)
    (free : Free owner id [RowKey.wallet wallet.key]) :
    (pool kept duties start).invariant world
      (acquire owner id [RowKey.wallet wallet.key])
      (update held id { holding with locked :=
        holding.locked ++ [wallet] }) := by
  obtain ⟨holds, contributes, pinned⟩ := safe
  subst own
  refine ⟨holds, ?_, fun other locked member => ?_⟩
  · convert contributes using 1
    exact posted_update_same rfl
  · by_cases same : other = id
    · subst same
      rw [update_self] at member
      rcases List.mem_append.mp member with earlier | fresh
      · obtain ⟨owned, found'⟩ := pinned other locked earlier
        exact ⟨acquire_of_own owned, found'⟩
      · rw [List.mem_singleton.mp fresh]
        exact ⟨acquire_of_mem List.mem_cons_self, found⟩
    · rw [update_of_ne same] at member
      obtain ⟨owned, found'⟩ := pinned other locked member
      exact ⟨acquire_of_ne free owned same, found'⟩

/-- Locks on other rows change no obligation. -/
theorem lock {holding : Holding} {keys : List RowKey}
    (safe : (pool kept duties start).invariant world owner held)
    (own : held id = holding) (free : Free owner id keys) :
    (pool kept duties start).invariant world (acquire owner id keys)
      (update held id holding) := by
  obtain ⟨holds, contributes, pinned⟩ := safe
  subst own
  rw [update_eq_self]
  refine ⟨holds, contributes, fun other locked member => ?_⟩
  obtain ⟨owned, found⟩ := pinned other locked member
  by_cases same : other = id
  · subst same
    exact ⟨acquire_of_own owned, found⟩
  · exact ⟨acquire_of_ne free owned same, found⟩

omit [DecidableEq Id] in
theorem free_nil : Free owner id [] := by simp [Free]

/-- The changes `written` commit exactly these postings. -/
def Writes (written : World → World) (postings : List Posting) : Prop :=
  ∀ world, (book world).Finds postings →
    book (written world) = (book world).commit postings

/-- A call that ends in an error has posted nothing. -/
def Rejected (_ : AppError) (holding : Holding) : Prop :=
  holding.posted = []

/-- A call that returns has posted its rows. -/
def Settled {Answer : Type} (_ : Answer) (holding : Holding) : Prop :=
  holding.posted ≠ []

/-- Committing postings whose wallets are locked keeps the rules. -/
theorem commitSafe {Answer : Type} {written : World → World}
    (postings : List Posting) {answer : Answer} (some_rows : postings ≠ [])
    (distinct : (postings.map fun posting => posting.found.key).Nodup)
    (valid : ∀ posting ∈ postings,
      posting.Valid kept.assumed kept.seen (duties.ignores id))
    (writes : Writes written postings)
    (wrote : duties.wrote id (postings.map Posting.row)) :
    CommitSafe (pool kept duties start) id Settled Rejected answer written
      { locked := postings.map Posting.found } := by
  refine ⟨fun world owner held safe own => ?_, fun _ => rfl⟩
  obtain ⟨holds, contributes, pinned⟩ := safe
  have locked : ∀ posting ∈ postings,
    owner (.wallet posting.found.key) = some id ∧
      world.wallets.find? posting.found.key = some posting.found := by
    intro posting member
    refine pinned id posting.found ?_
    rw [own]
    exact List.mem_map_of_mem member
  have finds : (book world).Finds postings :=
    ⟨distinct, fun posting member => (locked posting member).2⟩
  have committed := writes world finds
  have ledger : (written world).ledger = world.ledger ++ postings.map
    Posting.row := by
    have ledgers := congrArg Book.ledger committed
    rwa [Book.ledger_commit] at ledgers
  refine ⟨{ posted := postings.map Posting.row }, ⟨?_, ?_, ?_⟩,
    ⟨postings, valid, finds, committed⟩,
      trivial, by simpa [Settled] using some_rows⟩
  · rw [committed]
    exact kept.holds_commit holds valid finds
  · rw [posted_update, ledger]
    refine ⟨contributes.1.append
      (by simp only [own]) (by simpa using some_rows), ?_⟩
    intro other posted
    by_cases same : other = id
    · subst same
      simpa using wrote
    · simp only [update_of_ne same] at posted ⊢
      exact contributes.2 other posted
  · intro other wallet member
    by_cases same : other = id
    · subst same
      simp at member
    · rw [update_of_ne same] at member
      obtain ⟨owned, found⟩ := pinned other wallet member
      refine ⟨release_of_ne owned same, ?_⟩
      have wallets := congrArg Book.wallets committed
      change (written world).wallets = _ at wallets
      rw [wallets, Book.find?_commit_ne, ← found]
      · rfl
      · intro posting member' equal
        rw [equal, (locked posting member').1] at owned
        exact same (Option.some.inj owned).symm

/-- The wallet an update finds is as its movement read it. -/
def Rests (assumed : List Expectation) (read : Wallet) (ignoreFrozen : Bool)
    (found : Wallet) : Prop :=
  (.currentBalance ∈ assumed → found.balance = read.balance) ∧
    (.currentStatus ∈ assumed → ignoreFrozen ∨ found.status = read.status)

omit [DecidableEq Id] in
theorem rests_of_meets {Answer : Type} {assumed : List Expectation}
    {read found : Wallet} {ignoreFrozen : Bool} {statement : Statement Answer}
    (at_met : world.wallets.find? read.key = some found)
    (meets : ∀ expectation ∈ assumed,
      (restingOn read ignoreFrozen statement).expects expectation world =
        true) : Rests assumed read ignoreFrozen found := by
  constructor
  · intro assumes
    have balance := meets .currentBalance assumes
    simp only [restingOn, at_met] at balance
    exact of_decide_eq_true balance
  · intro assumes
    have status := meets .currentStatus assumes
    simp only [restingOn, at_met] at status
    exact of_decide_eq_true status

omit [DecidableEq Id] in
/-- A status that was checked when it was read is still not frozen. -/
theorem Rests.active {assumed : List Expectation} {read found : Wallet}
    {ignoreFrozen : Bool} {ignores : Prop}
    (rests : Rests assumed read ignoreFrozen found)
    (checked : ¬ (read.status = .frozen ∧ ¬ ignoreFrozen))
    (ignored : ignoreFrozen → ignores) (assumes : .currentStatus ∈ assumed) :
    ignores ∨ found.status ≠ .frozen := by
  rcases rests.2 assumes with ignoring | same
  · exact .inl (ignored ignoring)
  · by_cases ignoring : ignoreFrozen
    · exact .inl (ignored ignoring)
    · refine .inr fun frozen => checked ⟨?_, ignoring⟩
      rw [← same]
      exact frozen

omit [DecidableEq Id] in
theorem restingOn_exactColumn {Answer : Type} (read : Wallet)
    (ignoreFrozen : Bool) (statement : Statement Answer) :
    (restingOn read ignoreFrozen statement).expects .exactColumn world =
      statement.expects .exactColumn world := by
  simp only [restingOn]

omit [DecidableEq Id] in
theorem restingOn_overwrittenBalance {Answer : Type} (read : Wallet)
    (ignoreFrozen : Bool) (statement : Statement Answer) :
    (restingOn read ignoreFrozen statement).expects .overwrittenBalance world =
      statement.expects .overwrittenBalance world := by
  simp only [restingOn]

section Updates

variable {Answer Result : Type} {written : World → World} {holding : Holding}
variable {done : Answer → (World → World) → Holding → Prop}
variable {thrown : AppError → Holding → Prop} {site : Site} {wallet : WalletKey}

/-- `updateMany` with the floor in its condition: either it found too little and
changed nothing, or it locked a row that covers it. -/
theorem decrement_safe {read : Wallet} {ignoreFrozen : Bool}
    (readKey : read.key = wallet) {delta : Decimal} {next : ℕ → Tx Answer}
    {failed : AppError → Tx Answer}
    (refused : (next 0).Safe (pool kept duties start) id done thrown
      written holding)
    (taken : ∀ (met : World) found, met.wallets.find? wallet = some found →
      delta ≤ found.balance →
      (.exactColumn ∈ kept.assumed →
        (Money.round (found.balance - delta) : Decimal) =
          found.balance + Money.round (-delta)) →
      Rests kept.assumed read ignoreFrozen found →
      (next 1).Safe (pool kept duties start) id done thrown
        (fun later => (decrementBalance site wallet delta).effect met
          (written later)) { holding with locked := holding.locked ++ [found] })
    (untouched : ∀ (world : World) owner held,
      (pool kept duties start).invariant world owner held → held id = holding →
      (written world).wallets.find? wallet = world.wallets.find? wallet)
    (failing : ∀ error, (failed error).Safe (pool kept duties start) id
      done thrown written
      holding) :
    (Body.query
      (restingOn read ignoreFrozen (decrementBalance site wallet delta)) next
      failed).Safe (pool kept duties start) id done thrown written holding := by
  refine ⟨?_, failing⟩
  intro world owner held safe own free meets answer answered
  have same := untouched world owner held safe own
  cases found : (written world).wallets.find? wallet with
  | none =>
      simp only [restingOn, decrementBalance, found] at answered ⊢
      cases answered
      exact ⟨holding, lock safe own free_nil, refused⟩
  | some row =>
      have row_key := Table.key_of_find? found
      by_cases covered : delta ≤ row.balance
      · have rests : Rests kept.assumed read ignoreFrozen row :=
          rests_of_meets (readKey ▸ found) meets
        have exact_ := meets .exactColumn
        rw [restingOn_exactColumn] at exact_
        simp only [restingOn, decrementBalance, found, if_pos covered,
          Except.ok.injEq] at answered free exact_
        subst answered
        refine ⟨{ holding with locked := holding.locked ++ [row] }, ?_, ?_⟩
        · simp only [restingOn, decrementBalance, found, if_pos covered]
          subst row_key
          exact pin safe own (same ▸ found) free
        · refine taken _ row found covered (fun assumed => ?_) rests
          exact of_decide_eq_true (exact_ assumed) covered
      · simp only [restingOn, decrementBalance, found, if_neg covered,
          Except.ok.injEq] at answered ⊢
        subst answered
        exact ⟨holding, lock safe own free_nil, refused⟩

/-- An `update` of a wallet row locks the row it changes. -/
theorem update_safe {read : Wallet} {ignoreFrozen : Bool}
    (readKey : read.key = wallet) {change : Wallet → Wallet}
    {keeps : ∀ row, (change row).key = row.key}
    {expects : Expectation → World → Bool} {next : Wallet → Tx Answer}
    {failed : AppError → Tx Answer}
    (taken : ∀ (met : World) found, met.wallets.find? wallet = some found →
      (.exactColumn ∈ kept.assumed → expects .exactColumn met = true) →
      (.overwrittenBalance ∈ kept.assumed →
        expects .overwrittenBalance met = true) →
      Rests kept.assumed read ignoreFrozen found →
      (next (change found)).Safe (pool kept duties start) id done thrown
        (fun later => (wallets.update site wallet change keeps).effect met
          (written later)) { holding with locked := holding.locked ++ [found] })
    (untouched : ∀ (world : World) owner held,
      (pool kept duties start).invariant world owner held → held id = holding →
      (written world).wallets.find? wallet = world.wallets.find? wallet)
    (failing : ∀ error, (failed error).Safe (pool kept duties start) id
      done thrown written
      holding) :
    (Body.query (restingOn read ignoreFrozen
      { wallets.update site wallet change keeps with expects })
        next failed).Safe
      (pool kept duties start) id done thrown written holding := by
  refine ⟨?_, failing⟩
  intro world owner held safe own free meets answer answered
  have same := untouched world owner held safe own
  cases found : (written world).wallets.find? wallet with
  | none =>
      simp only [restingOn, Relation.update, Platform.wallets,
        found] at answered
      cases answered
  | some row =>
      have row_key := Table.key_of_find? found
      have rests : Rests kept.assumed read ignoreFrozen row :=
        rests_of_meets (readKey ▸ found) meets
      simp only [restingOn, Relation.update, Platform.wallets, found,
        Except.ok.injEq] at answered
      subst answered
      refine ⟨{ holding with locked := holding.locked ++ [row] }, ?_, ?_⟩
      · subst row_key
        exact pin safe own (same ▸ found) free
      · refine taken _ row found (fun assumes => ?_) (fun assumes => ?_) rests
        · have exact_ := meets _ assumes
          rwa [restingOn_exactColumn] at exact_
        · have current := meets _ assumes
          rwa [restingOn_overwrittenBalance] at current

/-- A ledger row is written without a lock. -/
theorem ledger_safe {row : WalletTransaction}
    {next : WalletTransaction → Tx Answer} {failed : AppError → Tx Answer}
    (safeNext : ∀ met, (next row).Safe (pool kept duties start) id done thrown
      (fun later => (createLedgerRow site row).effect met (written later))
        holding)
    (failing : ∀ error, (failed error).Safe (pool kept duties start) id
      done thrown written
      holding) :
    (Body.query (createLedgerRow site row) next failed).Safe
      (pool kept duties start) id done thrown written holding := by
  refine ⟨?_, failing⟩
  intro world owner held safe own _ _ answer answered
  cases answered
  exact ⟨holding, lock safe own free_nil, safeNext _⟩

end Updates

/-- `extra` writes one posting when it finds the wallet as the posting says. -/
def Posts (extra : World → World) (posting : Posting) : Prop :=
  ∀ world : World, world.wallets.find? posting.found.key = some posting.found →
    book (extra world) = (book world).post posting

theorem Posts.writes {extra : World → World} {posting : Posting}
    (posts : Posts extra posting) : Writes extra [posting] :=
  fun world finds => posts world (finds.2 posting List.mem_cons_self)

theorem Writes.append {written extra : World → World} {postings : List Posting}
    {posting : Posting} (writes : Writes written postings)
    (posts : Posts extra posting) :
    Writes (fun world => extra (written world)) (postings ++ [posting]) := by
  intro world finds
  obtain ⟨distinct, found⟩ := finds
  rw [List.map_append, List.nodup_append'] at distinct
  have first : (book world).Finds postings :=
    ⟨distinct.1, fun other member =>
      found other (List.mem_append_left _ member)⟩
  have committed := writes world first
  have last : (written world).wallets.find? posting.found.key =
    some posting.found := by
    change (book (written world)).wallets.find? posting.found.key = _
    rw [committed, Book.find?_commit_ne]
    · exact found posting (by simp)
    · intro other member equal
      exact distinct.2.2 (List.mem_map_of_mem member) (by simp [equal])
  rw [posts _ last, committed, Book.commit, Book.commit, List.foldl_append]
  rfl

theorem posts_decrement {met : World} {found : Wallet} {delta : Decimal}
    (at_met : met.wallets.find? found.key = some found)
    (covered : delta ≤ found.balance) (site ledgerSite : Site)
    (row : WalletTransaction) (ledgerMet : World) :
    Posts (fun later => (createLedgerRow ledgerSite row).effect ledgerMet
        ((decrementBalance site found.key delta).effect met later))
      ⟨found, .decrement delta, row⟩ := by
  intro world at_world
  simp only [createLedgerRow, decrementBalance, at_met, if_pos covered,
    book, Book.post, Book.mk.injEq, and_true]
  refine Table.modify_congr at_world ?_ _ _
  rfl

theorem posts_update (met : World) {found : Wallet} (movement : Movement)
    (change : Wallet → Wallet) (keeps : ∀ row, (change row).key = row.key)
    (same : change found =
      { found with balance := movement.after found.balance })
    (site ledgerSite : Site) (row : WalletTransaction) (ledgerMet : World) :
    Posts (fun later => (createLedgerRow ledgerSite row).effect ledgerMet
        ((wallets.update site found.key change keeps).effect met later))
      ⟨found, movement, row⟩ := by
  intro world at_world
  simp only [createLedgerRow, Relation.update, Platform.wallets,
    book, Book.post, Book.mk.injEq, and_true]
  exact Table.modify_congr at_world same _ _

/-- The amount of a ledger row of `move` is the rounded signed delta. -/
theorem moveRow_amount (now : Time) (input : MoveInput) (wallet : Wallet)
    (amount : Decimal) (before : Money) :
    (moveRow now input wallet amount before).amount =
      Money.round
        (if isDebit input.txType amount then -|amount| else |amount|) := rfl

omit [DecidableEq Id] in
/-- What the transaction of `move` has checked makes its posting valid. -/
theorem movePosting_valid (now : Time) {input : MoveInput}
    {wallet current found : Wallet} {amount : Decimal} {movement : Movement}
    {assumed : List Expectation} {seen : Money → Prop} {ignores : Prop}
    (found_key : found.key = wallet.key)
    (signed : movement.signed =
      if isDebit input.txType amount then -|amount| else |amount|)
    (adds : ∀ before, movement.after before =
      Money.round (before + movement.signed))
    (allowed : movement.Allowed assumed seen found.balance)
    (checked : ¬ (current.status = .frozen ∧ ¬ input.ignoreFrozen))
    (ignored : input.ignoreFrozen → ignores)
    (rests : Rests assumed current input.ignoreFrozen found) :
    Posting.Valid assumed seen ignores
      ⟨found, movement, moveRow now input wallet amount current.balance⟩ where
  wallet := found_key.symm
  amount := by rw [moveRow_amount, signed]
  allowed := allowed
  before := fun assumes => (rests.1 assumes).symm
  after := by
    rw [adds, signed]
    rfl
  active := rests.active checked ignored

theorem moveTransaction_safe (now : Time) (input : MoveInput) (wallet : Wallet)
    (amount : Decimal) (permits : duties.Permits id (.move now input))
    (value : input.amount = .value amount) :
    (moveTransaction now input wallet amount).Safe (pool kept duties start) id
      (CommitSafe (pool kept duties start) id Settled Rejected) Rejected
      (fun world => world) {} := by
  simp only [moveTransaction, Body.bind_perform]
  refine Body.Safe.read (fun _ _ => rfl) (fun _ => rfl) ?_ fun _ => rfl
  intro world owner held safe own current found
  cases current with
  | none => exact rfl
  | some current =>
      simp only
      have current_key : current.key = wallet.key := by
        simp only [Relation.findUnique, select, Except.ok.injEq] at found
        exact Table.key_of_find? found
      split
      · exact rfl
      rename_i checked
      split
      · exact rfl
      split
      · rename_i debit
        refine decrement_safe current_key rfl ?_ (fun _ _ _ _ _ => rfl)
          fun _ => rfl
        intro met found at_met covered exact_ rests
        have found_key := Table.key_of_find? at_met
        simp only [if_neg one_ne_zero]
        refine ledger_safe (fun ledgerMet => ?_) fun _ => rfl
        rw [← found_key] at at_met ⊢
        refine commitSafe [_] (by simp) (by simp) ?_
          (posts_decrement at_met covered _ _ _ ledgerMet).writes
          (permits.wrote _ ⟨wallet, amount, current.balance, value, rfl⟩)
        intro posting member
        rw [List.mem_singleton.mp member]
        refine movePosting_valid now found_key ?_ ?_ ⟨abs_nonneg amount,
          covered, exact_⟩ checked permits.ignores rests
        · rw [if_pos debit]
          rfl
        · intro before
          exact congrArg Money.round (sub_eq_add_neg _ _)
      · rename_i credit
        refine update_safe current_key ?_ (fun _ _ _ _ _ => rfl) fun _ => rfl
        intro met found at_met exact_ _ rests
        have found_key := Table.key_of_find? at_met
        refine ledger_safe (fun ledgerMet => ?_) fun _ => rfl
        rw [← found_key]
        refine commitSafe [_] (by simp) (by simp) ?_
          (posts_update met (.increment |amount|) _ _ rfl _ _ _
            ledgerMet).writes
          (permits.wrote _ ⟨wallet, amount, current.balance, value, rfl⟩)
        intro posting member
        rw [List.mem_singleton.mp member]
        refine movePosting_valid now found_key ?_ (fun _ => rfl)
          ⟨abs_nonneg amount, fun assumed => ?_⟩ checked permits.ignores rests
        · rw [if_neg credit]
          rfl
        · have rounded := exact_ assumed
          rw [at_met] at rounded
          exact of_decide_eq_true rounded

theorem pool_ignores_feeConfigs (config : FeeConfig) :
    Ignores (pool kept duties start) fun world =>
      { world with feeConfigs := world.feeConfigs.insert config } :=
  fun world _ _ safe => ⟨safe, fun _ => commits_refl _ _ _ (book world)⟩

theorem move_safe (now : Time) (input : MoveInput)
    (permits : duties.Permits id (.move now input)) :
    (move now input).Safe (pool kept duties start) id Settled Rejected {} := by
  unfold move
  split
  · exact rfl
  · exact rfl
  rename_i amount value
  split
  · exact rfl
  refine Program.Safe.andThen (getWallet_safe _ _ fun _ => rfl) ?_
  rintro wallet holding ⟨_, rfl⟩
  split
  · exact rfl
  · exact ⟨moveTransaction_safe now input wallet amount permits value,
      fun _ => rfl⟩

/-- Leg 2, after a first leg that has locked and posted another wallet. -/
theorem transferCredit_safe (now : Time) (plan : TransferPlan) {out : Posting}
    {written : World → World} (nonneg : 0 ≤ plan.amount)
    (apart : plan.target.key ≠ out.found.key)
    (valid : out.Valid kept.assumed kept.seen (duties.ignores id))
    (writes : Writes written [out])
    (wrote : ∀ before, duties.wrote id [out.row, plan.inRow now before])
    (untouched : ∀ world : World,
      (written world).wallets.find? plan.target.key =
      world.wallets.find? plan.target.key) :
    (transferCredit now plan).Safe (pool kept duties start) id
      (CommitSafe (pool kept duties start) id Settled Rejected) Rejected
      written { locked := [out.found] } := by
  simp only [transferCredit, Body.bind_perform]
  refine Body.Safe.read (fun _ _ => rfl) (fun _ => rfl) ?_ fun _ => rfl
  intro world owner held safe own dst read
  cases dst with
  | none => exact rfl
  | some dst =>
      simp only
      split
      · exact rfl
      rename_i checked
      simp only [Relation.findUnique, select, Except.ok.injEq, Platform.wallets,
        untouched] at read
      have seen := kept.seen_of_holds safe.1 read
      have dst_key := Table.key_of_find? read
      refine update_safe dst_key ?_ (fun world _ _ _ _ => untouched world)
        fun _ => rfl
      intro met found at_met exact_ current rests
      have found_key := Table.key_of_find? at_met
      refine ledger_safe (fun ledgerMet => ?_) fun _ => rfl
      simp only [← found_key] at apart ⊢
      refine ⟨?_, fun _ => rfl⟩
      intro world owner held safe own free _ answer answered
      let credit : Posting :=
        ⟨found, .overwrite dst.balance plan.amount, plan.inRow now dst.balance⟩
      have posts : Posts _ credit :=
        posts_update met (.overwrite dst.balance plan.amount)
          (fun row =>
            { row with balance := Money.round (dst.balance + plan.amount) })
          (fun _ => rfl) rfl "transfer.credit" "transfer.in" _ ledgerMet
      refine ⟨_, lock safe own free, ?_⟩
      refine commitSafe [out, credit]
        (by simp) (by simpa using apart.symm) ?_ ?_ (wrote dst.balance)
      rotate_left
      · exact fun world finds => writes.append posts world finds
      intro posting member
      rcases List.mem_cons.mp member with rfl | last
      · exact valid
      rw [List.mem_singleton.mp last]
      refine ⟨found_key.symm, rfl, ⟨nonneg, seen, ?_, ?_⟩, ?_, rfl, ?_⟩
      · intro assumed
        have same := current assumed
        rw [at_met] at same
        exact of_decide_eq_true same
      · intro assumed
        have rounded := exact_ assumed
        rw [at_met] at rounded
        exact of_decide_eq_true rounded
      · exact fun assumes => (rests.1 assumes).symm
      · exact rests.active (fun frozen => checked frozen.1)
          fun ignoring => absurd ignoring Bool.false_ne_true

theorem transferTransaction_safe (now : Time) (plan : TransferPlan)
    (nonneg : 0 ≤ plan.amount) (feeNonneg : 0 ≤ (plan.fee.feeAmount : Decimal))
    (apart : plan.target.key ≠ plan.source.key)
    (wrote : ∀ srcBefore dstBefore, duties.wrote id
      [plan.outRow now srcBefore, plan.inRow now dstBefore]) :
    (transferTransaction now plan).Safe (pool kept duties start) id
      (CommitSafe (pool kept duties start) id Settled Rejected) Rejected
      (fun world => world) {} := by
  simp only [transferTransaction, Body.bind_perform]
  refine Body.Safe.read (fun _ _ => rfl) (fun _ => rfl) ?_ fun _ => rfl
  intro world owner held safe own src read
  cases src with
  | none => exact rfl
  | some src =>
      simp only
      have src_key : src.key = plan.source.key := by
        simp only [Relation.findUnique, select, Except.ok.injEq] at read
        exact Table.key_of_find? read
      split
      · exact rfl
      rename_i checked
      split
      · exact rfl
      refine decrement_safe src_key rfl ?_ (fun _ _ _ _ _ => rfl) fun _ => rfl
      intro met found at_met covered exact_ rests
      have found_key := Table.key_of_find? at_met
      simp only [if_neg one_ne_zero]
      refine ledger_safe (fun ledgerMet => ?_) fun _ => rfl
      let out : Posting :=
        ⟨found, .decrement plan.totalDebit, plan.outRow now src.balance⟩
      rw [← found_key] at apart at_met
      have posts : Posts _ out :=
        posts_decrement at_met covered "transfer.debit" "transfer.out" _
          ledgerMet
      rw [found_key] at posts
      have debit : 0 ≤ plan.totalDebit := add_nonneg nonneg feeNonneg
      have valid : out.Valid kept.assumed kept.seen (duties.ignores id) :=
        ⟨found_key.symm, rfl, ⟨debit, covered, exact_⟩,
          fun assumes => (rests.1 assumes).symm, rfl,
          rests.active (fun frozen => checked frozen.1)
            fun ignoring => absurd ignoring Bool.false_ne_true⟩
      refine transferCredit_safe now plan nonneg apart valid posts.writes
        (wrote src.balance) fun world => ?_
      rw [found_key] at apart at_met
      simp only [createLedgerRow, decrementBalance, at_met, if_pos covered,
        Table.find?_modify_ne apart]

theorem transferAmount_safe (now : Time) (reference : Reference)
    (accountId : AccountId) (source target : Wallet) (dto : TransferInput)
    (actorId : Option String) (apart : target.key ≠ source.key)
    {accountId' : String}
    (permits :
      duties.Permits id (.transfer now reference accountId' dto actorId)) :
    (transferAmount now reference accountId source target dto actorId).Safe
      (pool kept duties start) id Settled Rejected {} := by
  unfold transferAmount
  split
  · exact rfl
  · exact rfl
  rename_i amount value
  split
  · exact rfl
  rename_i positive
  have nonneg : 0 ≤ amount := not_lt.mp fun negative => positive (.inr negative)
  refine Program.Safe.andThen
    (computeTransferFee_safe accountId amount pool_ignores_feeConfigs
      fun _ => rfl) ?_
  rintro fee holding ⟨⟨config, rfl⟩, rfl⟩
  have feeNonneg := FeeConfig.charge_nonneg config.transferBps nonneg
  refine ⟨transferTransaction_safe now _ nonneg feeNonneg apart ?_,
    fun _ => rfl⟩
  intro srcBefore dstBefore
  exact permits.wrote _ ⟨_, srcBefore, dstBefore, rfl, value, rfl⟩

theorem transfer_safe (now : Time) (reference : Reference) (accountId : String)
    (dto : TransferInput) (actorId : Option String)
    (permits :
      duties.Permits id (.transfer now reference accountId dto actorId)) :
    (transferCollectionToDisbursement now reference accountId dto actorId).Safe
      (pool kept duties start) id Settled Rejected {} := by
  unfold transferCollectionToDisbursement
  refine Program.Safe.andThen (resolveAccountId_safe _ fun _ => rfl) ?_
  rintro resolved holding rfl
  cases resolved with
  | none => exact rfl
  | some resolved =>
      refine Program.Safe.andThen (getWallet_safe _ _ fun _ => rfl) ?_
      rintro source holding ⟨sourceType, rfl⟩
      refine Program.Safe.andThen (getWallet_safe _ _ fun _ => rfl) ?_
      rintro target holding ⟨targetType, rfl⟩
      have apart : target.key ≠ source.key := by
        intro same
        rw [same, sourceType] at targetType
        cases targetType
      split
      · exact rfl
      split
      · exact rfl
      split
      · exact transferAmount_safe now reference resolved source target dto
          actorId apart permits
      · refine Program.Safe.read (fun _ _ => rfl) ?_ fun _ => rfl
        intro world owner held safe own dupe answered
        cases dupe with
        | some _ => exact rfl
        | none =>
            exact transferAmount_safe now reference resolved source target dto
              actorId apart permits

/-! ## Every run of the pool -/

theorem Duties.Permits.safe {call : Call} (permits : duties.Permits id call) :
    call.program.Safe (pool kept duties start) id Settled Rejected {} := by
  cases call with
  | move now input =>
      exact Program.Safe.andThen (move_safe now input permits)
        fun _ _ settled => settled
  | transfer now reference accountId dto actorId =>
      exact Program.Safe.andThen
        (transfer_safe now reference accountId dto actorId permits)
        fun _ _ settled => settled

omit [DecidableEq Id] in
theorem dutiesOf_permits (calls : Id → Call) (id : Id) :
    (dutiesOf calls).Permits id (calls id) :=
  ⟨fun _ wrote => wrote, fun ignored => ignored⟩

end CloudStudio.Wallets
