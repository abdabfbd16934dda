import CloudStudio.Transactions.Failure
import CloudStudio.Platform.Webhooks

/-!
# What belongs to an account

The rows of the tables that carry an account, and the programs that, whatever
fails, leave the rows of all other accounts as they are.
-/

namespace CloudStudio.Tenancy

open CloudStudio.Data CloudStudio.Transactions CloudStudio.Platform

section

variable {Row Key : Type} {key : Row → Key} {accountOf : Row → AccountId}
variable {owner : AccountId}

/-- The rows that belong to an account. -/
def ownedBy (accountOf : Row → AccountId) (owner : AccountId)
    (rows : List Row) : List Row :=
  rows.filter fun row => accountOf row = owner

theorem mem_ownedBy {rows : List Row} {row : Row} :
    row ∈ ownedBy accountOf owner rows ↔ row ∈ rows ∧
      accountOf row = owner := by
  simp only [ownedBy, List.mem_filter, decide_eq_true_eq]

theorem ownedBy_append {rows added : List Row}
    (others : ∀ row ∈ added, accountOf row ≠ owner) :
    ownedBy accountOf owner (rows ++ added) = ownedBy accountOf owner rows := by
  have none_added : ownedBy accountOf owner added = [] := by
    apply List.filter_eq_nil_iff.mpr
    intro row member
    simpa using others row member
  unfold ownedBy at none_added ⊢
  rw [List.filter_append, none_added, List.append_nil]

variable [DecidableEq Key]

theorem ownedBy_modify (table : Table key) {wanted : Key} {change : Row → Row}
    {keeps : ∀ row, key (change row) = key row}
    (keepsOwner : ∀ row, accountOf (change row) = accountOf row)
    (others : ∀ row ∈ table.rows, key row = wanted → accountOf row ≠ owner) :
    ownedBy accountOf owner (table.modify wanted change keeps).rows =
      ownedBy accountOf owner table.rows := by
  obtain ⟨rows, unique⟩ := table
  simp only [ownedBy, Table.modify] at others ⊢
  clear unique
  induction rows with
  | nil => rfl
  | cons row rest ih =>
      have later := ih fun row member =>
        others row (List.mem_cons_of_mem _ member)
      rw [List.map_cons]
      by_cases hit : key row = wanted
      · have foreign : accountOf row ≠ owner :=
          others row List.mem_cons_self hit
        rw [if_pos hit,
          List.filter_cons_of_neg (by simpa [keepsOwner] using foreign),
          List.filter_cons_of_neg (by simpa using foreign)]
        exact later
      · rw [if_neg hit, List.filter_cons, List.filter_cons, later]

theorem ownedBy_erase (table : Table key) {wanted : Key}
    (others : ∀ row ∈ table.rows, key row = wanted → accountOf row ≠ owner) :
    ownedBy accountOf owner (table.erase wanted).rows =
      ownedBy accountOf owner table.rows := by
  unfold ownedBy Table.erase
  rw [List.filter_filter]
  apply List.filter_congr
  intro row member
  by_cases hit : key row = wanted
  · simp [others row member hit]
  · simp [hit]

end

/-- The rows of one account. -/
structure Holdings where
  wallets : List Wallet
  ledger : List WalletTransaction
  transfers : List WalletTransfer
  collections : List Collection
  deposits : List Deposit
  payouts : List Payout
  batches : List DisbursementBatch
  payoutLinks : List PayoutLink
  smsMessages : List SmsMessage
  bills : List Bill
  endpoints : List WebhookEndpoint

/-- What the tables hold for an account. -/
def holdings (world : World) (owner : AccountId) : Holdings where
  wallets := ownedBy (fun row => row.key.accountId) owner world.wallets.rows
  ledger := ownedBy (fun row => row.walletId.accountId) owner world.ledger
  transfers := ownedBy WalletTransfer.accountId owner world.transfers.rows
  collections := ownedBy Collection.accountId owner world.collections.rows
  deposits := ownedBy Deposit.accountId owner world.deposits.rows
  payouts := ownedBy Payout.accountId owner world.payouts.rows
  batches := ownedBy DisbursementBatch.accountId owner world.batches.rows
  payoutLinks := ownedBy PayoutLink.accountId owner world.payoutLinks.rows
  smsMessages := ownedBy SmsMessage.accountId owner world.smsMessages.rows
  bills := ownedBy Bill.accountId owner world.bills
  endpoints := ownedBy WebhookEndpoint.accountId owner world.endpoints.rows

/-- The accounts, and what all but one of them hold, are as they were. -/
structure Isolated (own : AccountId) (before after : World) : Prop where
  accounts : after.accounts = before.accounts
  holdings : ∀ other, other ≠ own → holdings after other = holdings before other

theorem Isolated.refl (own : AccountId) (world : World) :
    Isolated own world world :=
  ⟨rfl, fun _ _ => rfl⟩

theorem Isolated.trans {own : AccountId} {first second third : World}
    (left : Isolated own first second) (right : Isolated own second third) :
    Isolated own first third := by
  constructor
  · exact right.accounts.trans left.accounts
  · intro other differ
    exact (right.holdings other differ).trans (left.holdings other differ)

/-- A table whose rows the holdings list. -/
structure Held {Row Key : Type} {key : Row → Key} (relation : Relation key)
    (accountOf : Row → AccountId) : Prop where
  put : ∀ own world table,
    (∀ other, other ≠ own → ownedBy accountOf other table.rows =
      ownedBy accountOf other (relation.table world).rows) →
    Isolated own world (relation.put table world)
  kept : ∀ own before after, Isolated own before after → ∀ other, other ≠ own →
    ownedBy accountOf other (relation.table after).rows =
      ownedBy accountOf other (relation.table before).rows

/-- One of the lists of the holdings. -/
theorem Held.of_field {Row Key : Type} {key : Row → Key}
    {relation : Relation key} {accountOf : Row → AccountId}
    (field : Holdings → List Row)
    (reads : ∀ world owner, field (Tenancy.holdings world owner) =
      ownedBy accountOf owner (relation.table world).rows)
    (accounts : ∀ world table, (relation.put table world).accounts =
      world.accounts) (put : ∀ world table owner,
      ownedBy accountOf owner table.rows =
        ownedBy accountOf owner (relation.table world).rows →
      Tenancy.holdings (relation.put table world) owner =
        Tenancy.holdings world owner) : Held relation accountOf := by
  constructor
  · intro own world table same
    exact ⟨accounts world table, fun other differ =>
      put world table other (same other differ)⟩
  · intro own before after isolated other differ
    rw [← reads, ← reads, isolated.holdings other differ]

theorem wallets_held : Held wallets fun row => row.key.accountId :=
  .of_field Holdings.wallets (fun _ _ => rfl) (fun _ _ => rfl)
    fun world _ owner same => congrArg
      (fun rows => { Tenancy.holdings world owner with wallets := rows }) same

theorem transfers_held : Held transfers WalletTransfer.accountId :=
  .of_field Holdings.transfers (fun _ _ => rfl) (fun _ _ => rfl)
    fun world _ owner same => congrArg
      (fun rows => { Tenancy.holdings world owner with transfers := rows }) same

theorem collections_held : Held collections Collection.accountId :=
  .of_field Holdings.collections (fun _ _ => rfl) (fun _ _ => rfl)
    fun world _ owner same => congrArg
      (fun rows => { Tenancy.holdings world owner with collections := rows })
        same

theorem deposits_held : Held deposits Deposit.accountId :=
  .of_field Holdings.deposits (fun _ _ => rfl) (fun _ _ => rfl)
    fun world _ owner same => congrArg
      (fun rows => { Tenancy.holdings world owner with deposits := rows }) same

theorem payouts_held : Held payouts Payout.accountId :=
  .of_field Holdings.payouts (fun _ _ => rfl) (fun _ _ => rfl)
    fun world _ owner same => congrArg
      (fun rows => { Tenancy.holdings world owner with payouts := rows }) same

theorem batches_held : Held batches DisbursementBatch.accountId :=
  .of_field Holdings.batches (fun _ _ => rfl) (fun _ _ => rfl)
    fun world _ owner same => congrArg
      (fun rows => { Tenancy.holdings world owner with batches := rows }) same

theorem payoutLinks_held : Held payoutLinks PayoutLink.accountId :=
  .of_field Holdings.payoutLinks (fun _ _ => rfl) (fun _ _ => rfl)
    fun world _ owner same => congrArg
      (fun rows => { Tenancy.holdings world owner with payoutLinks := rows })
        same

theorem smsMessages_held : Held smsMessages SmsMessage.accountId :=
  .of_field Holdings.smsMessages (fun _ _ => rfl) (fun _ _ => rfl)
    fun world _ owner same => congrArg
      (fun rows => { Tenancy.holdings world owner with smsMessages := rows })
        same

theorem endpoints_held : Held endpoints WebhookEndpoint.accountId :=
  .of_field Holdings.endpoints (fun _ _ => rfl) (fun _ _ => rfl)
    fun world _ owner same => congrArg
      (fun rows => { Tenancy.holdings world owner with endpoints := rows }) same

section

variable {Row Key : Type} [DecidableEq Key] {key : Row → Key}
  {relation : Relation key}
variable {accountOf : Row → AccountId} (held : Held relation accountOf)
variable {own : AccountId} {world : World}
include held

theorem Held.inserted {row : Row}
    (fresh : (relation.table world).find? (key row) = none)
    (mine : accountOf row = own) :
    Isolated own world
      (relation.put ((relation.table world).insert row) world) := by
  apply held.put
  intro other differ
  rw [Table.rows_insert fresh]
  apply ownedBy_append
  intro added member
  rw [List.mem_singleton.mp member, mine]
  exact differ.symm

theorem Held.modified {wanted : Key} {change : Row → Row}
    {keeps : ∀ row, key (change row) = key row}
    (keepsOwner : ∀ row, accountOf (change row) = accountOf row)
    (mine : ∀ row, (relation.table world).find? wanted = some row →
      accountOf row = own) :
    Isolated own world
      (relation.put ((relation.table world).modify wanted change keeps)
        world) := by
  apply held.put
  intro other differ
  apply ownedBy_modify _ keepsOwner
  intro row member hit
  have found := Table.find?_of_mem member
  rw [hit] at found
  rw [mine row found]
  exact differ.symm

/-- The row with a key, if there is one, belongs to the account.  Nothing that
leaves the other accounts alone can change that. -/
theorem Held.belongs {before after : World} {wanted : Key}
    (isolated : Isolated own before after)
    (belongs : ∀ row, (relation.table before).find? wanted = some row →
      accountOf row = own) :
    ∀ row, (relation.table after).find? wanted = some row →
      accountOf row = own := by
  intro row found
  by_contra differ
  have same := held.kept own before after isolated (accountOf row) differ
  have listed : row ∈ ownedBy accountOf (accountOf row)
    (relation.table after).rows :=
    mem_ownedBy.mpr ⟨Table.mem_of_find? found, rfl⟩
  rw [same] at listed
  have earlier := Table.find?_of_mem (mem_ownedBy.mp listed).1
  rw [Table.key_of_find? found] at earlier
  exact differ (belongs row earlier)

end

/-! ## Confined programs -/

/-- What is known of a state outlasts what the account does. -/
def Stable (own : AccountId) (known : World → Prop) : Prop :=
  ∀ before after, Isolated own before after → known before → known after

variable {Result Answer : Type} {own : AccountId} {known : World → Prop}

/-- The statement writes at most rows of the account; what it answers is
`good`. -/
def Confines (own : AccountId) (known : World → Prop)
    (statement : Statement Answer) (good : Answer → Prop) : Prop :=
  ∀ world answer, known world → statement.answer world = .ok answer →
    Isolated own world (statement.effect world world) ∧ good answer

/-- Whatever fails, the transaction body writes at most rows of the account. -/
def BodyConfined (own : AccountId) (known : World → Prop) (body : Tx Result)
    (good : Result → Prop) : Prop :=
  ∀ world, known world →
    body.Holds (· = world) fun result after => Isolated own world after ∧
      good result

/-- Whatever fails, the program writes at most rows of the account. -/
def Confined (own : AccountId) (known : World → Prop) (program : Db Result)
    (good : Result → Prop) : Prop :=
  ∀ world, known world →
    program.Holds (· = world) (fun result after => Isolated own world after ∧
      good result) (Isolated own world)

/-- Results of which nothing needs to be known. -/
abbrev Whatever {Answer : Type} (_ : Answer) : Prop := True

section

variable {good : Result → Prop} {middle : Answer → Prop}

theorem BodyConfined.returned {result : Result} (holds : good result) :
    BodyConfined own known (.returned result) good :=
  fun world _ => .returned fun state same => by
    subst same
    exact ⟨.refl own state, holds⟩

theorem BodyConfined.threw (error : AppError) :
    BodyConfined own known (.threw error : Tx Result) good :=
  fun _ _ => .threw error

theorem BodyConfined.query (stable : Stable own known)
    {statement : Statement Answer} {next : Answer → Tx Result}
    {failed : AppError → Tx Result}
    (confines : Confines own known statement middle)
    (nextConfined : ∀ answer, middle answer →
      BodyConfined own known (next answer) good)
    (failedConfined : ∀ error, BodyConfined own known (failed error) good) :
    BodyConfined own known (.query statement next failed) good := by
  intro world met
  apply Body.Holds.query
  · intro answer faults after stated
    obtain ⟨before, same, answered, rfl⟩ := stated
    subst same
    obtain ⟨isolated, passes⟩ := confines before answer met answered
    apply (nextConfined answer passes _ (stable _ _ isolated met)
      faults _ rfl).mono
    · intro result later ended
      exact ⟨isolated.trans ended.1, ended.2⟩
    · exact fun _ _ => trivial
  · intro error
    exact failedConfined error world met

theorem BodyConfined.perform {statement : Statement Result}
    (confines : Confines own known statement good) :
    BodyConfined own known (Body.perform statement) good := by
  intro world met
  apply Body.Holds.query
  · intro answer
    apply Body.Holds.returned
    intro after stated
    obtain ⟨before, same, answered, rfl⟩ := stated
    subst same
    exact confines before answer met answered
  · exact fun error => .threw error

theorem Confined.returned {result : Result} (holds : good result) :
    Confined own known (.returned result) good := by
  intro world _
  apply Program.Holds.returned
  intro state same
  subst same
  exact ⟨.refl own state, holds⟩

theorem Confined.threw (error : AppError) :
    Confined own known (.threw error : Db Result) good := by
  intro world _
  apply Program.Holds.threw
  intro state same
  subst same
  exact .refl own state

theorem Confined.weaken {better : Result → Prop} {program : Db Result}
    (confined : Confined own known program better)
    (weaker : ∀ result, better result → good result) :
    Confined own known program good := by
  intro world met
  apply (confined world met).mono (fun _ same => same) ?_
    fun _ isolated => isolated
  exact fun result _ ended => ⟨ended.1, weaker result ended.2⟩

theorem Confined.bind (stable : Stable own known) {program : Db Answer}
    {next : Answer → Db Result} (first : Confined own known program middle)
    (rest : ∀ answer, middle answer → Confined own known (next answer) good) :
    Confined own known (program >>= next) good := by
  intro world met
  apply (first world met).bind
  intro answer
  apply Program.Holds.each
  intro state ended
  obtain ⟨isolated, passes⟩ := ended
  apply (rest answer passes state (stable _ _ isolated met)).mono
    (fun _ same => same)
  · exact fun result after ended => ⟨isolated.trans ended.1, ended.2⟩
  · exact fun after ended => isolated.trans ended

theorem Confined.perform {statement : Statement Result}
    (confines : Confines own known statement good) :
    Confined own known (Program.perform statement) good := by
  intro world met
  apply Program.Holds.perform
  · intro answer after stated
    obtain ⟨before, same, answered, rfl⟩ := stated
    subst same
    exact confines before answer met answered
  · intro state same
    subst same
    exact .refl own state

theorem Confined.readOnly {program : Db Result} (readOnly : program.ReadOnly) :
    Confined own known program Whatever := by
  intro world _
  apply (readOnly world).mono (fun _ same => same)
  · intro _ after same
    subst same
    exact ⟨.refl own _, trivial⟩
  · intro after same
    subst same
    exact .refl own _

/-- What a program that only reads has shown of the state is known from then
on. -/
theorem Confined.afterLearning {program : Db Answer} {next : Answer → Db Result}
    {shows : Answer → World → Prop}
    (learns : ∀ world, known world → program.Holds (· = world)
      (fun answer after => after = world ∧ shows answer world) (· = world))
    (rest : ∀ answer,
      Confined own (fun world => known world ∧ shows answer world)
        (next answer) good) : Confined own known (program >>= next) good := by
  intro world met
  have learned :=
    (learns world met).mono (fun _ same => same) (fun _ _ ended => ended)
    fun after same => show Isolated own world after from same ▸ .refl own world
  apply learned.bind
  intro answer
  apply Program.Holds.each
  intro state ended
  obtain ⟨same, shown⟩ := ended
  subst same
  exact rest answer state ⟨met, shown⟩

theorem Confined.atomically {label : Site} {body : Tx Result}
    (confined : BodyConfined own known body good) :
    Confined own known (Program.atomically label body) good := by
  intro world met
  apply Program.Holds.atomically (confined world met)
  intro state same
  subst same
  exact .refl own state

theorem Confined.discard (stable : Stable own known) {program : Db Answer}
    (confined : Confined own known program middle) :
    Confined own known program.discard Whatever :=
  confined.bind stable fun _ _ => .returned trivial

theorem Confined.when {condition : Prop} [Decidable condition]
    {program : Db Unit} (confined : Confined own known program Whatever) :
    Confined own known (Program.when condition program) Whatever := by
  unfold Program.when
  split
  · exact confined
  · exact .returned trivial

theorem Confined.forEach {Item : Type} (stable : Stable own known)
    {items : List Item} {step : Item → Db Unit}
    (turn : ∀ item, Confined own known (step item) Whatever) :
    Confined own known (Program.forEach items step) Whatever := by
  induction items with
  | nil => exact .returned trivial
  | cons item rest ih => exact (turn item).bind stable fun _ _ => ih

theorem Confined.catching (stable : Stable own known) {program : Db Result}
    {handler : AppError → Db Result}
    (confined : Confined own known program good)
    (handles : ∀ error, Confined own known (handler error) good) :
    Confined own known (program.catching handler) good := by
  intro world met
  apply (confined world met).catching
  · intro error
    apply Program.Holds.each
    intro state isolated
    apply (handles error state (stable _ _ isolated met)).mono
      (fun _ same => same)
    · exact fun result after ended => ⟨isolated.trans ended.1, ended.2⟩
    · exact fun after ended => isolated.trans ended
  · exact fun _ isolated => isolated

end

section

variable {good : Answer → Prop}

/-- A statement that leaves every account's rows alone. -/
theorem Confines.aside {statement : Statement Answer}
    (aside : ∀ world, Isolated own world (statement.effect world world))
    (answers : ∀ world answer, known world →
      statement.answer world = .ok answer →
      good answer) : Confines own known statement good :=
  fun world answer met answered =>
    ⟨aside world, answers world answer met answered⟩

theorem Confines.selected {site : Site} {view : World → Answer}
    (answers : ∀ world, known world → good (view world)) :
    Confines own known (select site view) good := by
  apply Confines.aside (fun world => .refl own world)
  intro world answer met answered
  cases answered
  exact answers world met

/-- A read of which nothing needs to be known. -/
theorem Confines.reads {site : Site} {view : World → Answer} :
    Confines own known (select site view) Whatever :=
  .selected fun _ _ => trivial

theorem Confined.reads {site : Site} {view : World → Answer} :
    Confined own known (Program.perform (select site view)) Whatever :=
  .perform .reads

variable {Row Key : Type} [DecidableEq Key] {key : Row → Key}
  {relation : Relation key}
variable {accountOf : Row → AccountId}

theorem Held.create (held : Held relation accountOf) {site : Site} {row : Row}
    (mine : accountOf row = own) :
    Confines own known (relation.create site row) (· = row) := by
  intro world answer _ answered
  obtain ⟨fresh, same⟩ := Relation.create_ok answered
  exact ⟨held.inserted fresh mine, same⟩

theorem Held.createMany (held : Held relation accountOf) {site : Site}
    {rows : List Row} (mine : ∀ row ∈ rows, accountOf row = own) :
    Confines own known (relation.createMany site rows) Whatever := by
  intro world answer _ answered
  refine ⟨?_, trivial⟩
  apply held.put
  intro other differ
  rw [Relation.createMany_ok answered]
  apply ownedBy_append
  intro added member
  rw [mine added member]
  exact differ.symm

theorem Held.update (held : Held relation accountOf) {site : Site}
    {wanted : Key} {change : Row → Row}
    {keeps : ∀ row, key (change row) = key row}
    (keepsOwner : ∀ row, accountOf (change row) = accountOf row)
    (mine : ∀ world row, known world →
      (relation.table world).find? wanted = some row →
      accountOf row = own) :
    Confines own known (relation.update site wanted change keeps) Whatever :=
  fun world _ met _ =>
    ⟨held.modified keepsOwner fun row => mine world row met, trivial⟩

theorem Held.delete (held : Held relation accountOf) {site : Site}
    {wanted : Key}
    (mine : ∀ world row, known world →
      (relation.table world).find? wanted = some row →
      accountOf row = own) :
    Confines own known (relation.delete site wanted) Whatever := by
  intro world answer met _
  refine ⟨?_, trivial⟩
  apply held.put
  intro other differ
  apply ownedBy_erase
  intro row member hit
  have found := Table.find?_of_mem member
  rw [hit] at found
  rw [mine world row met found]
  exact differ.symm

end

theorem ledgerRow_confines {site : Site} {row : WalletTransaction}
    (mine : row.walletId.accountId = own) :
    Confines own known (createLedgerRow site row) Whatever := by
  intro world answer _ _
  refine ⟨⟨rfl, ?_⟩, trivial⟩
  intro other differ
  have same : ownedBy (fun row : WalletTransaction => row.walletId.accountId)
    other
      (world.ledger ++ [row]) = ownedBy (fun row => row.walletId.accountId)
        other world.ledger := by
    apply ownedBy_append
    intro added member
    rw [List.mem_singleton.mp member, mine]
    exact differ.symm
  exact congrArg
    (fun rows => { Tenancy.holdings world other with ledger := rows }) same

theorem bill_confines {site : Site} {bill : Bill}
    (mine : bill.accountId = own) :
    Confines own known (createBill site bill) Whatever := by
  intro world answer _ _
  refine ⟨⟨rfl, ?_⟩, trivial⟩
  intro other differ
  have same : ownedBy Bill.accountId other (world.bills ++ [bill]) =
      ownedBy Bill.accountId other world.bills := by
    apply ownedBy_append
    intro added member
    rw [List.mem_singleton.mp member, mine]
    exact differ.symm
  exact congrArg
    (fun rows => { Tenancy.holdings world other with bills := rows }) same

theorem enqueue_confined (site : Site) (now : Time) (payload : JobPayload) :
    Confined own known (enqueue site now payload) Whatever := by
  apply Confined.perform
  apply Confines.aside
  · exact fun _ => ⟨rfl, fun _ _ => rfl⟩
  · exact fun _ _ _ _ => trivial

theorem dispatch_confined (stable : Stable own known) (now : Time)
    (notice : Dispatched) :
    Confined own known (dispatch now notice) Whatever := by
  have found : Confined own known (Program.perform (findSubscribers notice))
    Whatever := by
    apply Confined.perform
    apply Confines.aside
    · exact fun _ => ⟨rfl, fun _ _ => rfl⟩
    · exact fun _ _ _ _ => trivial
  apply found.bind stable
  intro endpoints _
  have delivered (endpoint : WebhookEndpoint) :
      Confined own known (deliverTo now notice endpoint) Whatever := by
    have created :
      Confined own known (Program.perform (createDelivery "webhook.delivery"
        { endpointId := endpoint.id, event := notice.event,
          reference := notice.reference })) Whatever := by
      apply Confined.perform
      apply Confines.aside
      · exact fun _ => ⟨rfl, fun _ _ => rfl⟩
      · exact fun _ _ _ _ => trivial
    apply created.bind stable
    intro delivery _
    exact (enqueue_confined _ now _).discard stable
  apply (Confined.forEach stable delivered).bind stable
  exact fun _ _ => .returned trivial

end CloudStudio.Tenancy
