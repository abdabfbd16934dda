import CloudStudio.Payouts.ClientReferences

/-!
# Requests that reuse a client reference

A request that looks for its reference is rejected, in every run, if the
reference is in use before it begins.  Withdrawals and batches do not look, and
what the others found may be out of date when they go on.  References stay
unique in runs in which neither matters: nobody takes a reference between the
check of a request and its steps at stake, and those of withdrawals and batches
are fresh.
-/

namespace CloudStudio.Payouts

open CloudStudio.Data CloudStudio.Transactions CloudStudio.Platform
open CloudStudio.Payments
open CloudStudio.Wallets

variable {Id : Type}

theorem clientReference_eq_some {clientReference : Option String}
    {wanted : String}
    (given : nonEmpty (upperReference clientReference) = some wanted) :
    ∃ reference, nonEmpty clientReference = some reference ∧
      Text.toUpperCase reference = wanted := by
  cases clientReference with
  | none => simp [upperReference, nonEmpty] at given
  | some reference =>
      simp only [upperReference, nonEmpty, Option.map_some,
        Option.filter_some] at given ⊢
      by_cases empty : reference = ""
      · have still : Text.toUpperCase "" = "" := by decide
        simp [empty, still] at given
      · refine ⟨reference, by simp [empty], ?_⟩
        split at given
        · exact Option.some.inj given
        · cases given

theorem mem_clientReferences {Row : Type} {rows : List Row}
    {owner : Row → AccountId} {client : Row → Option String}
    {account : AccountId} {reference : String} :
    reference ∈ rows.filterMap (fun row =>
      referenceFor account (owner row) (client row)) →
      ∃ row ∈ rows, owner row = account ∧ client row = some reference := by
  intro member
  obtain ⟨row, within, referred⟩ := List.mem_filterMap.mp member
  unfold referenceFor at referred
  split at referred
  next mine =>
    exact ⟨row, within, mine, (Option.filter_eq_some_iff.mp referred).1⟩
  next => cases referred

namespace ReferencedRequest

theorem owner_congr {before after : World}
    (accounts : after.accounts = before.accounts)
    (request : ReferencedRequest) :
    request.owner after = request.owner before := by
  cases request <;> first | rfl | simp only [owner, World.resolve, accounts]

/-- A request that checks its reference has one at most. -/
theorem nodup_of_checks {request : ReferencedRequest}
    (checks : request.checksReference = true) : request.references.Nodup := by
  have single (reference : Option String) : reference.toList.Nodup := by
    cases reference <;> simp
  cases request with
  | collection | deposit | transfer | payout => exact single _
  | withdrawal | batch => cases checks

/-- A reference that is in use stays in use while rows are only added. -/
theorem Reuses.later {before after : World} {request : ReferencedRequest}
    (reuses : request.Reuses before)
    (accounts : after.accounts = before.accounts) (kept : ∀ account kind,
      clientReferences before account kind ⊆
        clientReferences after account kind) : request.Reuses after := by
  obtain ⟨account, owned, reference, wanted, used⟩ := reuses
  exact ⟨account, (owner_congr accounts request).trans owned, reference, wanted,
    kept _ _ used⟩

end ReferencedRequest

theorem KeepsReferences.reuses {before after : World}
    (keeps : KeepsReferences before after) {request : ReferencedRequest}
    (reuses : request.Reuses before) : request.Reuses after :=
  reuses.later keeps.accounts fun account kind => by
    rw [keeps.references]
    exact List.Subset.refl _

theorem AddsReferences.reuses {wanted : ReferenceKind}
    {owner : Option AccountId} {references : List String} {before after : World}
    (adds : AddsReferences wanted owner references before after)
    {request : ReferencedRequest} (reuses : request.Reuses before) :
    request.Reuses after := by
  obtain ⟨added, _, rows⟩ := adds.added
  apply reuses.later adds.accounts
  intro account kind
  rw [rows]
  exact List.subset_append_left _ _

/-- What a request with fresh references adds, leaves references unique. -/
theorem AddsReferences.unique {request : ReferencedRequest}
    {before after : World}
    (adds : AddsReferences request.kind (request.owner before)
      request.references before after) (fresh : request.Fresh before)
    (unique : UniqueReferences before) : UniqueReferences after := by
  obtain ⟨added, sublist, rows⟩ := adds.added
  intro account kind
  rw [rows]
  split
  next mine =>
    obtain ⟨rfl, owned⟩ := mine
    refine (unique account request.kind).append (fresh.1.sublist sublist) ?_
    intro reference used isAdded
    exact fresh.2 ⟨account, owned, reference, sublist.subset isAdded, used⟩
  next =>
    rw [List.append_nil]
    exact unique account kind

/-- What the steps of the requests may change; those in `taken` may not have a
step at stake, as their references are in use. -/
def referenceStakes (start : World) (requests : Id → ReferencedRequest)
    (taken : Id → Prop) :
    Stakes Id World Site where
  marked := createsRow
  valid := fun world => world.accounts = start.accounts ∧
    ∀ id, taken id → (requests id).Reuses world
  quiet := KeepsReferences
  stake := fun id before after => ¬ taken id ∧ AddsReferences (requests id).kind
    ((requests id).owner start) (requests id).references before after
  valid_quiet := fun keeps valid => ⟨keeps.accounts.trans valid.1,
    fun id isTaken => keeps.reuses (valid.2 id isTaken)⟩
  valid_stake := fun stakes valid => ⟨stakes.2.accounts.trans valid.1,
    fun id isTaken => stakes.2.reuses (valid.2 id isTaken)⟩

/-- The references that one row adds to a table. -/
theorem filterMap_insert {Row Key : Type} {key : Row → Key} [DecidableEq Key]
    (table : Table key) {row : Row} {owner : Row → AccountId}
    (client : Row → Option String) {account : AccountId}
    {clientReference : Option String} (mine : owner row = account)
    (given : client row = clientReference) :
    ∃ added, added.Sublist (nonEmpty clientReference).toList ∧ ∀ other,
      (table.insert row).rows.filterMap
          (fun row => referenceFor other (owner row) (client row)) =
        table.rows.filterMap
          (fun row => referenceFor other (owner row) (client row)) ++
          if account = other then added else [] := by
  have single : [row].filterMap (fun row => nonEmpty (client row)) =
      (nonEmpty clientReference).toList := by
    subst given
    cases found : nonEmpty (client row) <;> simp [found]
  rw [← single]
  exact filterMap_insertAll table [row] client (by simpa using mine)

theorem insertPayouts_adds {owner : AccountId} {rows : List Payout}
    {items : List BatchItem} (mine : ∀ row ∈ rows, row.accountId = owner)
    (given : rows.map requestedReference = items.map fun item =>
      upperReference item.reference) (world : World) (batches) :
    AddsReferences .payout (some owner)
      (items.filterMap fun item => nonEmpty (upperReference item.reference))
        world
      { world with batches, payouts := world.payouts.insertAll rows } := by
  have same : rows.filterMap (fun row => nonEmpty (requestedReference row)) =
      items.filterMap fun item => nonEmpty (upperReference item.reference) := by
    have mapped := congrArg (List.filterMap nonEmpty) given
    rwa [List.filterMap_map, List.filterMap_map] at mapped
  rw [← same]
  exact adds_of_table rfl
    (filterMap_insertAll world.payouts rows requestedReference mine)

section

variable {start : World} {requests : Id → ReferencedRequest} {taken : Id → Prop}
  {id : Id}

theorem ordinary_referenceStakes :
    Ordinary start (referenceStakes start requests taken) where
  marked := rfl
  accounts := fun _ valid => valid.1
  quiet := fun _ _ _ => ⟨rfl, rfl, fun _ kind => by cases kind <;> rfl⟩

/-- Wallets and ledger carry no client references. -/
theorem spends_referenceStakes (free : ¬ taken id) (world : World)
    (wallets : Table Wallet.key) (ledger : List WalletTransaction) :
    (referenceStakes start requests taken).stake id world
      { world with wallets, ledger } :=
  ⟨free, adds_nothing rfl fun _ kind => by cases kind <;> rfl⟩

theorem stakes_referenceStakes {request : ReferencedRequest}
    (same : requests id = request) (free : ¬ taken id) {before after : World}
    (adds : AddsReferences request.kind (request.owner start) request.references
      before after) :
    (referenceStakes start requests taken).stake id before after :=
  ⟨free, same ▸ adds⟩

/-- The one reference of a request in `taken` is in use. -/
theorem taken_reference {request : ReferencedRequest}
    (same : requests id = request) {clientReference : Option String}
    (single : request.references =
      (nonEmpty (upperReference clientReference)).toList) {world : World}
    (valid : (referenceStakes start requests taken).valid world)
    (isTaken : taken id) :
    ∃ reference, nonEmpty clientReference = some reference ∧
      ∃ account ∈ request.owner world,
        Text.toUpperCase reference ∈ clientReferences world account
          request.kind := by
  subst same
  obtain ⟨account, owned, wanted, member, used⟩ := valid.2 id isTaken
  rw [single] at member
  obtain ⟨reference, given, rfl⟩ :=
    clientReference_eq_some (Option.mem_toList.mp member)
  exact ⟨reference, given, account, owned, used⟩

/-- The request has no reference to check. -/
theorem free_of_absent {request : ReferencedRequest}
    (same : requests id = request) {clientReference : Option String}
    (single : request.references =
      (nonEmpty (upperReference clientReference)).toList) {world : World}
    (valid : (referenceStakes start requests taken).valid world)
    (absent : nonEmpty clientReference = none) : ¬ taken id := by
  intro isTaken
  obtain ⟨reference, given, _⟩ := taken_reference same single valid isTaken
  cases absent.symm.trans given

/-- The check of the reference finds no row. -/
theorem free_of_checked {request : ReferencedRequest}
    (same : requests id = request) {clientReference : Option String}
    (single : request.references =
      (nonEmpty (upperReference clientReference)).toList) {Row : Type}
    {rows : World → List Row} {owner : Row → AccountId}
    {client : Row → Option String}
    (listed : ∀ world account, clientReferences world account request.kind =
      (rows world).filterMap fun row =>
        referenceFor account (owner row) (client row)) {reference : String}
    (given : nonEmpty clientReference = some reference) {world : World}
    (valid : (referenceStakes start requests taken).valid world)
    (absent : ∀ row ∈ rows world, request.owner world = some (owner row) →
      client row ≠ some (Text.toUpperCase reference)) : ¬ taken id := by
  intro isTaken
  obtain ⟨found, given', account, owned, used⟩ :=
    taken_reference same single valid isTaken
  cases given.symm.trans given'
  rw [listed] at used
  obtain ⟨row, member, rfl, has⟩ := mem_clientReferences used
  exact absent row member owned has

theorem collection_obeys {now : Time} {random again : List Char}
    {accountId : AccountId} {dto : UssdPushInitiate}
    {result : ProviderResult ProviderRecord}
    (same : requests id = .collection now random again accountId dto result)
    {world : World}
    (valid : (referenceStakes start requests taken).valid world) :
    (initiateCollection now random again accountId dto fun _ => result).Obeys
      (referenceStakes start requests taken) id (fun _ => True)
        fun _ => False := by
  apply initiateCollection_obeys ordinary_referenceStakes (¬ taken id)
  · intro free world row mine given
    exact stakes_referenceStakes same free
      (adds_of_table rfl (filterMap_insert world.collections _ mine given))
  · intro world wanted
    refine ⟨rfl, rfl, fun account kind => ?_⟩
    cases kind with
    | collection =>
        exact Table.filterMap_modify _ _ _
          (failedCollection_reference now result.error) fun _ => rfl
    | deposit | transfer | payout => rfl
  · intro reference given world valid found
    apply free_of_checked same rfl (fun _ _ => rfl) given valid
    intro row member mine has
    have absent := List.any_eq_false.mp found row member
    exact absent (by simp [has, Option.some.inj mine])
  · exact free_of_absent same rfl valid

theorem deposit_obeys {now : Time} {random : List Char} {accountId : AccountId}
    {dto : UssdPushInitiate} {result : ProviderResult ProviderRecord}
    (same : requests id = .deposit now random accountId dto result)
    {world : World}
    (valid : (referenceStakes start requests taken).valid world) :
    (initiateDeposit now random accountId dto fun _ => result).Obeys
      (referenceStakes start requests taken) id (fun _ => True)
        fun _ => False := by
  apply initiateDeposit_obeys ordinary_referenceStakes (¬ taken id)
  · intro free world row mine given
    exact stakes_referenceStakes same free
      (adds_of_table rfl (filterMap_insert world.deposits _ mine given))
  · intro world wanted
    refine ⟨rfl, rfl, fun account kind => ?_⟩
    cases kind with
    | deposit =>
        exact Table.filterMap_modify _ _ _
          (failedDeposit_reference now result.error) fun _ => rfl
    | collection | transfer | payout => rfl
  · intro reference given world valid found
    apply free_of_checked same rfl (fun _ _ => rfl) given valid
    intro row member mine has
    have absent := List.any_eq_false.mp found row member
    exact absent (by simp [has, Option.some.inj mine])
  · exact free_of_absent same rfl valid

theorem transferRequest_obeys {now : Time} {reference : Reference}
    {accountId : String} {dto : TransferInput} {actorId : Option String}
    (same : requests id = .transfer now reference accountId dto actorId)
    {world : World}
    (valid : (referenceStakes start requests taken).valid world) :
    (transferCollectionToDisbursement now reference accountId dto actorId).Obeys
      (referenceStakes start requests taken) id (fun _ => True)
        fun _ => False := by
  apply transfer_obeys ordinary_referenceStakes (¬ taken id)
  · intro free world wallets ledger row resolved given
    refine stakes_referenceStakes same free ?_
    change AddsReferences .transfer (start.resolve accountId) _ _ _
    rw [resolved]
    exact adds_of_table rfl (filterMap_insert world.transfers _ rfl given)
  · intro owner resolved reference given world valid found
    apply free_of_checked same rfl (fun _ _ => rfl) given valid
    intro row member mine has
    rw [ReferencedRequest.owner_congr valid.1] at mine
    have absent := List.find?_eq_none.mp found row member
    exact absent (by simp [has, Option.some.inj (mine.symm.trans resolved)])
  · exact free_of_absent same rfl valid

theorem payout_obeys {now : Time} {random : List Char} {accountId : AccountId}
    {channel : PayoutChannel} {dto : PayoutDto}
    (same : requests id = .payout now random accountId channel dto)
    {world : World}
    (valid : (referenceStakes start requests taken).valid world) :
    (createPayout now random accountId channel dto).Obeys
      (referenceStakes start requests taken) id (fun _ => True)
        fun _ => False := by
  apply (preparePayout_obeys ordinary_referenceStakes (¬ taken id) now random
    accountId channel dto ?_ (free_of_absent same rfl valid)).andThen
  · rintro hold ⟨free, mine, given⟩
    apply holdAndQueue_obeys ordinary_referenceStakes
      (spends_referenceStakes free)
    intro world
    exact stakes_referenceStakes same free
      (adds_of_table rfl
        (filterMap_insert world.payouts requestedReference mine given))
  · intro reference given world valid found
    apply free_of_checked same rfl (fun _ _ => rfl) given valid
    intro row member mine has
    have absent := List.any_eq_false.mp found row member
    unfold requestedReference at has
    split at has
    · cases has
    · exact absent (by simp [has, Option.some.inj mine])

theorem withdrawal_obeys {now : Time} {random : List Char}
    {minPayout : MinPayout} {accountId : AccountId} {dto : WithdrawalDto}
    {actorId : Option String}
    (same : requests id = .withdrawal now random minPayout
      accountId dto actorId) (free : ¬ taken id) :
    (createWithdrawal now random minPayout accountId dto actorId).Obeys
      (referenceStakes start requests taken) id (fun _ => True)
        fun _ => False := by
  apply (prepareWithdrawal_obeys ordinary_referenceStakes now random
    minPayout accountId dto actorId).andThen
  rintro hold ⟨mine, given⟩
  apply holdAndQueue_obeys ordinary_referenceStakes
    (spends_referenceStakes free)
  intro world
  exact stakes_referenceStakes same free
    (adds_of_table rfl
      (filterMap_insert world.payouts requestedReference mine given))

theorem batch_obeys {now : Time} {random : List Char} {randoms : ℕ → List Char}
    {accountId : AccountId} {dto : CreateBatchDto}
    (same : requests id = .batch now random randoms accountId dto)
    (free : ¬ taken id) :
    (createBatch now random randoms accountId dto).Obeys
      (referenceStakes start requests taken) id (fun _ => True)
        fun _ => False := by
  apply createBatch_obeys ordinary_referenceStakes (spends_referenceStakes free)
  intro world batches rows mine given
  exact stakes_referenceStakes same free
    (insertPayouts_adds mine given world batches)

/-- Every request obeys the rules, if those in `taken` check their reference. -/
theorem program_obeys (checks : taken id → (requests id).checksReference = true)
    {world : World}
    (valid : (referenceStakes start requests taken).valid world) :
    (requests id).program.Obeys (referenceStakes start requests taken) id
      (fun _ => True)
      fun _ => False := by
  cases same : requests id with
  | collection => exact discard_obeys (collection_obeys same valid)
  | deposit => exact discard_obeys (deposit_obeys same valid)
  | transfer => exact discard_obeys (transferRequest_obeys same valid)
  | payout => exact discard_obeys (payout_obeys same valid)
  | withdrawal =>
      refine discard_obeys (withdrawal_obeys same fun isTaken => ?_)
      have impossible := checks isTaken
      rw [same] at impossible
      cases impossible
  | batch =>
      refine discard_obeys (batch_obeys same fun isTaken => ?_)
      have impossible := checks isTaken
      rw [same] at impossible
      cases impossible

end

/-! ## Every run -/

variable [DecidableEq Id]

/-- The requests, none of which has run a statement yet. -/
def referencing (start : World) (requests : Id → ReferencedRequest) :
    Config Id World RowKey Expectation Site AppError Unit :=
  Config.start start fun id => (requests id).program

/-- The step is not at stake, or the references of its request are fresh. -/
def FreshAtStake (requests : Id → ReferencedRequest)
    (config : Config Id World RowKey Expectation Site AppError Unit)
    (event : Event Id AppError) : Prop :=
  config.atStake createsRow event = true →
    (requests event.id).Fresh config.state

instance (requests : Id → ReferencedRequest)
    (config : Config Id World RowKey Expectation Site AppError Unit)
    (event : Event Id AppError) :
    Decidable (FreshAtStake requests config event) :=
  inferInstanceAs (Decidable (_ → _))

/-- The reference was in use at a moment before the first event of the
request. -/
def ReusedBefore (requests : Id → ReferencedRequest)
    (config : Config Id World RowKey Expectation Site AppError Unit)
    (schedule : List (Event Id AppError)) (id : Id) : Prop :=
  ∃ early late, schedule = early ++ late ∧ (∀ event ∈ early, event.id ≠ id) ∧
    (requests id).Reuses (config.run early).state

/-- Whenever a request has a step at stake, nobody has taken a reference that it
checks since it began, and references that it does not check are fresh. -/
def Careful (requests : Id → ReferencedRequest)
    (config : Config Id World RowKey Expectation Site AppError Unit)
    (schedule : List (Event Id AppError)) : Prop :=
  ∀ before event after, schedule = before ++ event :: after →
    (config.run before).atStake createsRow event = true →
      if (requests event.id).checksReference = true then
        (requests event.id).Reuses (config.run before).state →
          ReusedBefore requests config before event.id
      else (requests event.id).Fresh (config.run before).state

/-- The request moves no money, creates no row, and does not succeed. -/
def RequestRejected
    (config : Config Id World RowKey Expectation Site AppError Unit) (id : Id)
    (schedule : List (Event Id AppError)) : Prop :=
  config.Throughout (fun config event =>
      event.id = id → KeepsReferences config.state (config.step event).state)
        schedule ∧
    ∀ result, ((config.run schedule).thread id).outcome? ≠
      some (.returned result)

section

variable {start : World} {requests : Id → ReferencedRequest} {id : Id}

variable (start requests) in
omit [DecidableEq Id] in
/-- All requests are free to go on, and none has a step at stake behind it. -/
theorem referencing_obeying :
    (referencing start requests).Obeying
      (referenceStakes start requests fun _ => False)
      fun _ _ => False where
  valid := ⟨rfl, fun _ => False.elim⟩
  threads := fun _ => program_obeys False.elim ⟨rfl, fun _ => False.elim⟩

variable (start requests) in
/-- Before its first event, a request has no step at stake behind it. -/
theorem obeying_before {early : List (Event Id AppError)}
    (absent : ∀ event ∈ early, event.id ≠ id) :
    ((referencing start requests).run early).Obeying
      (referenceStakes start requests fun _ => False)
        fun other _ => other ≠ id := by
  have begun : (referencing start requests).Obeying
      (referenceStakes start requests fun _ => False) fun other _ => other ≠
        id :=
    (referencing_obeying start requests).mono fun _ _ => False.elim
  refine (begun.run (fun _ => True) early
    (Config.throughout_of_mem fun _ event member => absent event member) ?_ ?_
      ?_ trivial).2.1
  · exact fun _ _ differ _ _ _ _ => differ
  · exact fun _ _ _ _ _ _ _ _ => trivial
  · exact fun _ _ _ _ => trivial

/-- A step that is not at stake keeps wallets and references. -/
theorem keeps_of_quiet {taken : Id → Prop} {clean : Id → Unit → Prop}
    {config : Config Id World RowKey Expectation Site AppError Unit}
    (obeying : config.Obeying (referenceStakes start requests taken) clean)
    {event : Event Id AppError}
    (calm : config.atStake createsRow event ≠ true) :
    KeepsReferences config.state (config.step event).state := by
  rcases obeying.quiet (Bool.eq_false_of_not_eq_true calm) with same | keeps
  · rw [same]
    exact KeepsReferences.refl _
  · exact keeps

/-- A request that checks its reference, which is in use when it begins, is not
free to go on. -/
theorem obeying_of_checks {early : List (Event Id AppError)}
    (absent : ∀ event ∈ early, event.id ≠ id)
    (checks : (requests id).checksReference = true)
    (reuses :
      (requests id).Reuses ((referencing start requests).run early).state) :
    ((referencing start requests).run early).Obeying
      (referenceStakes start requests (· = id)) fun other _ => other ≠ id := by
  have before := obeying_before start requests absent
  have valid : (referenceStakes start requests (· = id)).valid
      ((referencing start requests).run early).state :=
    ⟨before.valid.1, fun other same => same ▸ reuses⟩
  refine ⟨valid, fun other => ?_⟩
  by_cases same : other = id
  · subst same
    rw [Config.run_thread_of_ne absent]
    exact (program_obeys (fun _ => checks) valid).mono (fun _ _ => trivial)
      fun _ => False.elim
  · have within : (referenceStakes start requests fun _ => False).Within
        (referenceStakes start requests (· = id)) other :=
      ⟨rfl, fun valid => ⟨valid.1, fun _ => False.elim⟩, fun keeps => keeps,
        fun stakes => ⟨same, stakes.2⟩⟩
    exact (before.threads other).under within

/-- It is never free to go on. -/
theorem obeying_run
    {config : Config Id World RowKey Expectation Site AppError Unit}
    (obeying : config.Obeying (referenceStakes start requests (· = id))
      fun other _ => other ≠ id) (schedule : List (Event Id AppError)) :
    config.Throughout
      (fun config _ => config.Obeying (referenceStakes start requests (· = id))
        fun other _ => other ≠ id) schedule ∧
      (config.run schedule).Obeying (referenceStakes start requests (· = id))
        fun other _ => other ≠ id := by
  have anyhow : config.Throughout (fun _ _ => True) schedule :=
    Config.throughout_of_mem fun _ _ _ => trivial
  obtain ⟨throughout, reached, -⟩ := obeying.run (fun _ => True) schedule anyhow
    (fun _ _ _ obeying _ staked _ => (obeying.staked staked).1)
    (fun _ _ _ _ _ _ _ _ => trivial) (fun _ _ _ _ => trivial) trivial
  exact ⟨throughout.mono fun _ _ holds => holds.2.1, reached⟩

/-- A request that checks its reference is rejected if it is in use when it
begins. -/
theorem rejected_of_checks {early : List (Event Id AppError)}
    (absent : ∀ event ∈ early, event.id ≠ id)
    (checks : (requests id).checksReference = true)
    (reuses :
      (requests id).Reuses ((referencing start requests).run early).state)
    (late : List (Event Id AppError)) :
    RequestRejected ((referencing start requests).run early) id late := by
  obtain ⟨throughout, reached⟩ :=
    obeying_run (obeying_of_checks absent checks reuses) late
  constructor
  · apply throughout.mono
    intro config event obeying same
    exact keeps_of_quiet obeying fun staked => (obeying.staked staked).1 same
  · exact fun result ended => reached.returned ended rfl

/-- In a careful run, references are fresh at every step at stake. -/
theorem freshAtStake_of_careful {schedule : List (Event Id AppError)}
    (careful : Careful requests (referencing start requests) schedule) :
    (referencing start requests).Throughout (FreshAtStake requests)
      schedule := by
  apply Config.throughout_iff.mpr
  intro before event after split staked
  have meets := careful before event after split staked
  split at meets
  next checks =>
    refine ⟨ReferencedRequest.nodup_of_checks checks, fun reuses => ?_⟩
    obtain ⟨early, late, rfl, absent, used⟩ := meets reuses
    have obeying := (obeying_run (obeying_of_checks absent checks used) late).2
    rw [Config.run_append] at staked
    exact (obeying.staked staked).1 rfl
  next => exact meets

theorem careful_of_freshAtStake
    {config : Config Id World RowKey Expectation Site AppError Unit}
    {schedule : List (Event Id AppError)}
    (fresh : config.Throughout (FreshAtStake requests) schedule) :
    Careful requests config schedule := by
  intro before event after within staked
  have isFresh :=
    Config.throughout_iff.mp fresh before event after within staked
  split
  next => exact fun reuses => absurd reuses isFresh.2
  next => exact isFresh

/-- A request whose references are not fresh is rejected while nobody has a step
at stake with references that are not. -/
theorem rejected_of_stale {early late : List (Event Id AppError)}
    (absent : ∀ event ∈ early, event.id ≠ id)
    (careful : ((referencing start requests).run early).Throughout
      (FreshAtStake requests) late)
    (stale :
      ¬ (requests id).Fresh ((referencing start requests).run early).state) :
    RequestRejected ((referencing start requests).run early) id late := by
  have before := obeying_before start requests absent
  obtain ⟨throughout, reached, -⟩ := before.run
    (fun world => ¬ (requests id).Fresh world) late careful
    (fun _ _ careful _ stale staked _ same => stale (same ▸ careful staked))
    (fun _ _ _ _ stale _ _ adds fresh =>
      stale ⟨fresh.1, fun reuses => fresh.2 (adds.2.reuses reuses)⟩)
    (fun _ _ keeps stale fresh =>
      stale ⟨fresh.1, fun reuses =>
        fresh.2 (KeepsReferences.reuses keeps reuses)⟩) stale
  constructor
  · apply throughout.mono
    rintro config event ⟨careful, obeying, stale⟩ same
    exact keeps_of_quiet obeying fun staked => stale (same ▸ careful staked)
  · exact fun result ended => reached.returned ended rfl

/-- References that are fresh at every step at stake stay unique. -/
theorem unique_of_freshAtStake (unique : UniqueReferences start)
    {schedule : List (Event Id AppError)}
    (careful : (referencing start requests).Throughout (FreshAtStake requests)
      schedule) :
    UniqueReferences ((referencing start requests).run schedule).state := by
  have begun : (referencing start requests).Obeying
      (referenceStakes start requests fun _ => False) fun _ _ => True :=
    (referencing_obeying start requests).mono fun _ _ => False.elim
  refine (begun.run UniqueReferences schedule careful
    (fun _ _ _ _ _ _ _ => trivial) ?_ ?_ unique).2.2
  · intro config event careful valid unique staked after stakes
    have adds := stakes.2
    rw [← ReferencedRequest.owner_congr valid.1] at adds
    exact adds.unique (careful staked) unique
  · intro before after keeps unique account kind
    rw [KeepsReferences.references keeps]
    exact unique account kind

end

/-- A request is rejected if the condition holds when it begins. -/
def RejectedIf (config : Config Id World RowKey Expectation Site AppError Unit)
    (schedule : List (Event Id AppError)) (condition : World → Id → Prop) :
    Prop :=
  ∀ early late id, schedule = early ++ late → (∀ event ∈ early, event.id ≠ id) →
    condition (config.run early).state id →
      RequestRejected (config.run early) id late

/-- However the requests interleave, fail or stop, one that checks its reference
is rejected if it is in use already.  In a careful run references stay unique,
and any request is rejected whose references repeat or are in use already. -/
theorem duplicates_rejected (start : World) (requests : Id → ReferencedRequest)
    (unique : UniqueReferences start) (schedule : List (Event Id AppError)) :
    RejectedIf (referencing start requests) schedule (fun world id =>
        (requests id).checksReference = true ∧ (requests id).Reuses world) ∧
      (Careful requests (referencing start requests) schedule →
        UniqueReferences ((referencing start requests).run schedule).state ∧
          RejectedIf (referencing start requests) schedule fun world id =>
            ¬ (requests id).Fresh world) := by
  constructor
  · rintro early late id - absent ⟨checks, reuses⟩
    exact rejected_of_checks absent checks reuses late
  · intro careful
    have fresh := freshAtStake_of_careful careful
    refine ⟨unique_of_freshAtStake unique fresh, ?_⟩
    rintro early late id rfl absent stale
    exact rejected_of_stale absent (Config.throughout_append.mp fresh).2 stale

/-- An account with 5000 in each wallet and a settlement account, and no
rows. -/
def unusedWorld : World where
  accounts :=
    Table.empty.insert { id := "a", accountId := "ACC-1"
                         sourceCode := "AAAAA" }
  wallets := (Table.empty.insert { key := ⟨"a", .collection⟩, balance := Money.round 5000 }).insert
    { key := ⟨"a", .disbursement⟩, balance := Money.round 5000 }
  settlementAccounts := Table.empty.insert
    { id := "s1", accountId := "a", type := .mobile, method := some .airtel
      phoneNumber := some "255682345678", createdAt := 1, updatedAt := 1 }

theorem unusedWorld_unique : UniqueReferences unusedWorld := by
  intro account kind
  cases kind <;> exact List.nodup_nil

def fifteenTimes (char : Char) : List Char :=
  List.replicate 15 char

/-- A payout of 1200, asked for twice under one reference. -/
def payoutTwice (again : Bool) : ReferencedRequest :=
  .payout 5 (fifteenTimes (bif again then 'B' else 'A')) "a" .mobileMoney
    { amount := Amount.shillings 1200, reference := some "inv1"
      phoneNumber := some "255682345678" }

/-- All of the first request, then all of the second. -/
def firstAlone : List (Event Bool AppError) :=
  List.replicate 30 (.run false)

def secondAlone : List (Event Bool AppError) :=
  List.replicate 30 (.run true)

theorem payoutTwice_rejected :
    clientReferences
      ((referencing unusedWorld payoutTwice).run firstAlone).state "a" .payout =
      ["INV1"] ∧
    UniqueReferences
      ((referencing unusedWorld payoutTwice).run
        (firstAlone ++ secondAlone)).state ∧
    RequestRejected ((referencing unusedWorld payoutTwice).run firstAlone) true
      secondAlone := by
  obtain ⟨-, careful⟩ :=
    duplicates_rejected unusedWorld payoutTwice unusedWorld_unique
    (firstAlone ++ secondAlone)
  obtain ⟨unique, rejects⟩ := careful (careful_of_freshAtStake (by decide +kernel))
  exact ⟨by decide +kernel, unique,
    rejects firstAlone secondAlone true rfl (by decide) (by decide +kernel)⟩

/-- A withdrawal of 1200, asked for twice under one reference. -/
def withdrawalTwice (again : Bool) : ReferencedRequest :=
  .withdrawal 5 (fifteenTimes (bif again then 'B' else 'A')) (some 1000) "a"
    { amount := Amount.shillings 1200, reference := some "inv1" } none

/-- The two requests in step. -/
def inStep : List (Event Bool AppError) :=
  (List.replicate 30 [.run false, .run true]).flatten

/-- A withdrawal that reuses the reference of another is paid too, and so are
two payouts that both find no row with their reference. -/
theorem references_reused :
    (UniqueReferences unusedWorld ∧
      (withdrawalTwice true).Reuses
        ((referencing unusedWorld withdrawalTwice).run firstAlone).state ∧
      ¬ RequestRejected
        ((referencing unusedWorld withdrawalTwice).run firstAlone) true
        secondAlone ∧
      ¬ UniqueReferences
        ((referencing unusedWorld withdrawalTwice).run
          (firstAlone ++ secondAlone)).state) ∧
    ¬ UniqueReferences
      ((referencing unusedWorld payoutTwice).run inStep).state := by
  have of_repeated {world : World} (repeated : ¬ (clientReferences world "a" .payout).Nodup) :
      ¬ UniqueReferences world :=
    fun unique => repeated (unique "a" .payout)
  refine ⟨⟨unusedWorld_unique, by decide +kernel, fun rejected => ?_, ?_⟩, ?_⟩
  · have succeeded : ((((referencing unusedWorld withdrawalTwice).run firstAlone).run
        secondAlone).thread true).outcome? = some (.returned ()) := by
      decide +kernel
    exact rejected.2 () succeeded
  · exact of_repeated (by decide +kernel)
  · exact of_repeated (by decide +kernel)

end CloudStudio.Payouts
