import CloudStudio.Platform.Guards
import CloudStudio.Payouts.Debits
import CloudStudio.Transactions.FirstReads
import CloudStudio.Wallets.Reads

/-!
# Are customer payouts authorised?

The guards of a route check its account once, before the handler runs; the
statement that creates the payout runs later, and that of a payout link's payout
in another request.  On the two single routes the check is enough as long as
nothing that the guards read is taken back.  Batches and links are not checked
for the channel at all, and a link is confirmed without any guard: what stands
behind it is what the guards of the request that created it read.
-/

namespace CloudStudio.Payouts

open CloudStudio.Data CloudStudio.Transactions CloudStudio.Platform
open CloudStudio.Payments CloudStudio.Wallets

/-- The account may be paid from in this state: it is active, its DISBURSEMENT
permission is granted, and the permission's channels do not exclude the
payout's. -/
structure Authorised (world : World) (payout : Payout) : Prop where
  active : ∃ account, world.accounts.find? payout.accountId = some account ∧
    account.status = .active
  granted : ∃ permission,
    world.permissions.find? ⟨payout.accountId, .disbursement⟩ =
      some permission ∧ permission.granted = true ∧
      channelAllowed permission.permissionMeta payout.channel = true

/-- The customer payouts that are in `after` and not in `before`. -/
def createdCustomers (before after : World) : List Payout :=
  after.payouts.rows.filter fun payout =>
    payout.payoutKind = .customer ∧
      (before.payouts.find? payout.reference).isNone

/-- Every customer payout that is created is authorised in the state it is
created in. -/
def CreatesAuthorised (before after : World) : Prop :=
  ∀ payout ∈ createdCustomers before after, Authorised before payout

theorem authorised_iff {world : World} {payout : Payout} :
    Authorised world payout ↔ ∃ grant ∈ world.grant? payout.accountId,
      grant.Passes ∧ grant.allows payout.channel = true := by
  constructor
  · rintro ⟨⟨account, found, active⟩, permission, stored, granted, allowed⟩
    refine ⟨_, Option.map_eq_some_iff.mpr ⟨account, found, rfl⟩,
      ⟨active, ?_⟩, ?_⟩
    · simpa [grantOf, stored] using granted
    · rw [allows_grantOf, stored]
      exact allowed
  · rintro ⟨grant, same, ⟨active, granted⟩, allowed⟩
    obtain ⟨account, found, rfl⟩ := Option.map_eq_some_iff.mp same
    rw [allows_grantOf] at allowed
    simp only [grantOf] at active granted
    constructor
    · exact ⟨account, found, active⟩
    · cases stored :
        world.permissions.find? ⟨payout.accountId, .disbursement⟩ with
      | none =>
          rw [stored] at granted
          cases granted
      | some permission =>
          rw [stored] at granted allowed
          exact ⟨permission, rfl, granted, allowed⟩

instance (world : World) (payout : Payout) :
    Decidable (Authorised world payout) :=
  decidable_of_iff _ authorised_iff.symm

instance (before after : World) : Decidable (CreatesAuthorised before after) :=
  inferInstanceAs (Decidable (∀ payout ∈ createdCustomers before after, _))

/-- Every customer payout was there before, and every link, for the same
account. -/
def origins : Growth World where
  grows := fun before after =>
    (∀ payout ∈ after.payouts.rows, payout.payoutKind = .customer →
      ∃ old ∈ before.payouts.rows, old.reference = payout.reference ∧
        old.payoutKind = .customer) ∧
    ∀ link ∈ after.payoutLinks.rows, ∃ old ∈ before.payoutLinks.rows,
      old.tokenHash = link.tokenHash ∧ old.accountId = link.accountId
  refl := fun _ =>
    ⟨fun payout member customer => ⟨payout, member, rfl, customer⟩,
    fun link member => ⟨link, member, rfl, rfl⟩⟩
  trans := by
    rintro first second third ⟨payouts, links⟩ ⟨payouts', links'⟩
    constructor
    · intro payout member customer
      obtain ⟨old, oldMember, reference, kind⟩ :=
        payouts' payout member customer
      obtain ⟨older, olderMember, same, customer'⟩ := payouts old oldMember kind
      exact ⟨older, olderMember, same.trans reference, customer'⟩
    · intro link member
      obtain ⟨old, oldMember, tokenHash, account⟩ := links' link member
      obtain ⟨older, olderMember, same, account'⟩ := links old oldMember
      exact ⟨older, olderMember, same.trans tokenHash, account'.trans account⟩

/-- A call that creates payouts or links, or changes what an account is
granted. -/
inductive DisbursementTask where
  | payout (now : Time) (random : List Char) (accountId : AccountId)
      (channel : PayoutChannel) (dto : PayoutDto)
  | batch (now : Time) (random : List Char) (randoms : ℕ → List Char)
      (accountId : AccountId) (dto : CreateBatchDto)
  | createLink (now : Time) (tokenHash : String) (accountId : AccountId)
      (dto : CreatePayoutLinkDto)
  | confirm (times : ConfirmTimes) (random : List Char) (tokenHash : String)
      (dto : PayoutLinkDetails) (beneficiaryName : Option String)
  | suspend (accountId : String)
  | activate (accountId : String)
  | setPermissions (accountId : String) (items : List PermissionItem)
  | other (call : { program : Db Unit // program.Grows origins })

/-- The call behind the guards of its route; no guard stands before a
confirmation. -/
def DisbursementTask.program : DisbursementTask → Db Unit
  | .payout now random accountId channel dto =>
      guarded accountId .disbursement (some channel) fun _ =>
        Program.discard (createPayout now random accountId channel dto)
  | .batch now random randoms accountId dto =>
      guarded accountId .disbursement none fun _ =>
        Program.discard (createBatch now random randoms accountId dto)
  | .createLink now tokenHash accountId dto =>
      guarded accountId .disbursement none fun _ =>
        Program.discard (createPayoutLink now tokenHash accountId dto)
  | .confirm times random tokenHash dto beneficiaryName =>
      Program.discard
        (confirmPayoutLink times random tokenHash dto beneficiaryName)
  | .suspend accountId => Program.discard (Platform.suspend accountId)
  | .activate accountId => Program.discard (Platform.activate accountId)
  | .setPermissions accountId items =>
      Program.discard (Platform.setPermissions accountId items)
  | .other call => call.val

/-- The channels of the payouts that the call asks for. -/
def DisbursementTask.channels : DisbursementTask → List PayoutChannel
  | .payout _ _ _ channel _ => [channel]
  | .batch _ _ _ _ dto => dto.items.map BatchItem.channel
  | .confirm .. => [.mobileMoney]
  | _ => []

/-- Those of them that no guard looks at. -/
def DisbursementTask.unchecked : DisbursementTask → List PayoutChannel
  | .payout .. => []
  | task => task.channels

/-- The link that the call confirms. -/
def DisbursementTask.confirms? : DisbursementTask → Option String
  | .confirm _ _ tokenHash _ _ => some tokenHash
  | _ => none

/-- The account for which the call creates this link. -/
def DisbursementTask.linkFor? (tokenHash : String) :
    DisbursementTask → Option AccountId
  | .createLink _ created accountId _ =>
      if created = tokenHash then some accountId else none
  | _ => none

section

variable {Id : Type} [DecidableEq Id]

/-- The calls, none of which has run a statement yet. -/
def disbursing (world : World) (tasks : Id → DisbursementTask) :
    Config Id World RowKey Expectation Site AppError Unit :=
  Config.start world fun id => (tasks id).program

/-- The account that `issuer` vouches for when `id` pays: it is the call itself,
or it creates the link that the call confirms. -/
def vouches (tasks : Id → DisbursementTask) (issuer id : Id) :
    Option AccountId :=
  match tasks id with
  | .payout _ _ accountId _ _ | .batch _ _ _ accountId _ =>
      if issuer = id then some accountId else none
  | .confirm _ _ tokenHash _ _ => (tasks issuer).linkFor? tokenHash
  | _ => none

/-- From one grant of an account to the next nothing is taken back: the account
is not suspended, the service not revoked and none of the channels excluded. -/
structure Lasts (channels : List PayoutChannel) (read now : Grant) : Prop where
  active : read.status = .active → now.status = .active
  granted : read.granted = true → now.granted = true
  allowed : ∀ channel ∈ channels, read.allows channel = true →
    now.allows channel = true

instance (channels : List PayoutChannel) (read now : Grant) :
    Decidable (Lasts channels read now) :=
  decidable_of_iff (_ ∧ _ ∧ _) ⟨fun ⟨active, granted, allowed⟩ =>
    ⟨active, granted, allowed⟩,
    fun lasts => ⟨lasts.active, lasts.granted, lasts.allowed⟩⟩

/-- The event takes nothing back from the account. -/
def TakesNothing (channels : List PayoutChannel) (accountId : AccountId)
    (config : Config Id World RowKey Expectation Site AppError Unit)
    (event : Event Id AppError) : Prop :=
  ∀ read ∈ config.state.grant? accountId,
    ∃ now ∈ (config.step event).state.grant? accountId, Lasts channels read now

instance (channels : List PayoutChannel) (accountId : AccountId)
    (config : Config Id World RowKey Expectation Site AppError Unit)
    (event : Event Id AppError) :
    Decidable (TakesNothing channels accountId config event) :=
  inferInstanceAs (Decidable (∀ read ∈ _, ∃ now ∈ _, _))

/-- At some point of the run the account is granted `read`, and no event after
it takes anything back. -/
def NothingTaken (world : World) (tasks : Id → DisbursementTask)
    (channels : List PayoutChannel) (accountId : AccountId) (read : Grant)
    (schedule : List (Event Id AppError)) : Prop :=
  ∃ earlier later, schedule = earlier ++ later ∧
    ((disbursing world tasks).run earlier).state.grant? accountId = some read ∧
    ((disbursing world tasks).run earlier).Throughout
      (TakesNothing channels accountId) later

/-- What has to be true before the call creates payouts.  A link it confirms is
created in the run; what the guards behind the call read allows the channels
that no guard looks at; and no suspension, revocation or exclusion after they
read it is still in force. -/
structure StillGranted (world : World) (tasks : Id → DisbursementTask)
    (schedule : List (Event Id AppError)) (id : Id) : Prop where
  recent : ∀ tokenHash ∈ (tasks id).confirms?,
    ∀ link ∈ world.payoutLinks.rows, link.tokenHash ≠ tokenHash
  checked : ∀ issuer, ∀ accountId ∈ vouches tasks issuer id,
    ∀ read ∈ ((disbursing world tasks).firstMet schedule issuer).grant? accountId,
      read.Passes → ∀ channel ∈ (tasks id).unchecked, read.allows channel = true
  lasts : ∀ issuer, ∀ accountId ∈ vouches tasks issuer id,
    ∀ read ∈ ((disbursing world tasks).firstMet schedule issuer).grant? accountId,
      read.Passes →
        NothingTaken world tasks (tasks id).channels accountId read schedule

end

/-! ## What the calls create -/

section

variable {Id : Type} [DecidableEq Id] (world : World)
  (tasks : Id → DisbursementTask)
variable (met : Id → World)

/-- The link was there at the start of the run, or a call whose guards passed
created it for this account. -/
def Issued (tokenHash : String) (accountId : AccountId) : Prop :=
  (∃ old ∈ world.payoutLinks.rows, old.tokenHash = tokenHash) ∨
    ∃ issuer, (tasks issuer).linkFor? tokenHash = some accountId ∧
      ∃ read ∈ (met issuer).grant? accountId, read.Passes

/-- The payout is one that the call asks for, from an account that a call
vouches for whose guards passed. -/
structure Vouched (id : Id) (payout : Payout) : Prop where
  channel : payout.channel ∈ (tasks id).channels
  guarded : (∃ tokenHash ∈ (tasks id).confirms?, ∃ old ∈ world.payoutLinks.rows,
      old.tokenHash = tokenHash) ∨
    ∃ issuer, vouches tasks issuer id = some payout.accountId ∧
      ∃ read ∈ (met issuer).grant? payout.accountId, read.Passes ∧
        (payout.channel ∈ (tasks id).unchecked ∨
          read.allows payout.channel = true)

/-- Every step creates only payouts that are vouched for and links that are
issued. -/
def vouching : Stakes Id World Site where
  marked := fun _ => true
  valid := fun now => ∀ link ∈ now.payoutLinks.rows,
    Issued world tasks met link.tokenHash link.accountId
  quiet := fun before after => after = before
  stake := fun id before after =>
    (∀ payout ∈ createdCustomers before after,
      Vouched world tasks met id payout) ∧
      ∀ link ∈ after.payoutLinks.rows,
        Issued world tasks met link.tokenHash link.accountId ∨
        ∃ old ∈ before.payoutLinks.rows, old.tokenHash = link.tokenHash ∧
          old.accountId = link.accountId
  valid_quiet := by
    rintro before _ rfl valid
    exact valid
  valid_stake := by
    rintro id before after ⟨_, links⟩ valid link member
    rcases links link member with issued | ⟨old, oldMember, tokenHash, account⟩
    · exact issued
    · rw [← tokenHash, ← account]
      exact valid old oldMember

variable {world tasks met} {id : Id}

/-- Without a new payout or link there is nothing to vouch for. -/
theorem vouching_origins {before after : World}
    (grown : origins.grows before after) :
    (vouching world tasks met).stake id before after := by
  constructor
  · intro payout created
    obtain ⟨member, customer, absent⟩ := by
      simpa only [createdCustomers, List.mem_filter,
        decide_eq_true_eq] using created
    obtain ⟨old, oldMember, same, _⟩ := grown.1 payout member customer
    rw [← same, Table.find?_of_mem oldMember] at absent
    cases absent
  · exact fun link member => .inr (grown.2 link member)

/-- The rows of payouts and links stay. -/
theorem origins_same {before after : World}
    (payouts : after.payouts = before.payouts)
    (links : after.payoutLinks = before.payoutLinks) :
    origins.grows before after := by
  simp only [origins, payouts, links]
  exact origins.refl before

/-- A call that creates neither. -/
theorem origins_obeys {Result : Type} {program : Db Result}
    (changes : program.Grows origins) :
    program.Obeys (vouching world tasks met) id (fun _ => True) fun _ => True :=
  changes.obeys (fun _ _ _ => vouching_origins) fun _ _ => vouching_origins

theorem grant?_of_read {now : World} {accountId : AccountId}
    {request : RequestAccount}
    (found : now.accounts.find? accountId = some request.account)
    (permissions : request.permissions = now.permissions.rows.filter
      fun permission =>
      permission.key.accountId = accountId) :
    now.grant? accountId = some request.grant := by
  have read : request.permission? .disbursement =
      now.permissions.find? ⟨accountId, .disbursement⟩ := by
    rw [RequestAccount.permission?, permissions, List.find?_filter, Table.find?]
    congr 1
    funext permission
    cases permission.key
    simp
  rw [World.grant?, found, RequestAccount.grant, read]
  rfl

theorem apiKeyGuard_obeys (accountId : AccountId) (now : World) :
    ((apiKeyGuard accountId).answering now).Obeys (vouching world tasks met) id
      (fun request => now.grant? accountId = some request.grant ∧
        request.account.status = .active)
      fun request => now.grant? accountId = some request.grant ∧
        request.account.status = .active := by
  refine ⟨fun state _ answer answered =>
    ⟨vouching_origins (origins.refl state), ?_⟩, fun _ => trivial⟩
  rw [Bool.cond_self]
  cases answered
  dsimp only [Program.bind]
  cases found : now.accounts.find? accountId with
  | none => exact trivial
  | some account =>
      dsimp only [Option.map_some]
      split
      · exact trivial
      · rename_i unsuspended
        refine ⟨grant?_of_read found rfl, ?_⟩
        cases status : account.status with
        | active => rfl
        | suspended => exact absurd status unsuspended

/-- A guarded call goes on with a grant that passes and, on a route with a
channel, allows it. -/
theorem guarded_obeys {accountId : AccountId} {channel : Option PayoutChannel}
    {handler : RequestAccount → Db Unit} {now : World}
    (handles : ∀ request, ∀ read ∈ now.grant? accountId, read.Passes →
      (∀ wanted ∈ channel, read.allows wanted = true) →
        (handler request).Obeys (vouching world tasks met) id (fun _ => True)
          fun _ => True) :
    ((guarded accountId .disbursement channel handler).answering now).Obeys
      (vouching world tasks met) id (fun _ => True) fun _ => True := by
  apply (apiKeyGuard_obeys accountId now).seq
  rintro request ⟨read, active⟩
  cases stored : request.permission? .disbursement with
  | none =>
      simp only [servicePermissionGuard, stored]
      exact trivial
  | some permission =>
      by_cases granted : permission.granted = true
      · have passes : request.grant.Passes := by
          constructor
          · exact active
          · simpa [RequestAccount.grant, grantOf, stored] using granted
        cases channel with
        | none =>
            simp only [servicePermissionGuard, stored, granted,
              not_true, if_false]
            exact handles request _ read passes fun _ member => by cases member
        | some wanted =>
            by_cases allowed : channelAllowed permission.permissionMeta wanted =
              true
            · simp only [servicePermissionGuard, stored, granted, not_true,
                if_false, allowed, if_true]
              apply handles request _ read passes
              intro other same
              cases same
              rw [RequestAccount.grant, allows_grantOf, stored]
              exact allowed
            · simp only [servicePermissionGuard, stored, granted, not_true,
                if_false, allowed]
              exact trivial
      · simp only [servicePermissionGuard, stored, granted]
        exact trivial

theorem grows_aside {Answer : Type} {statement : Statement Answer}
    (payouts : ∀ met now, (statement.effect met now).payouts = now.payouts)
    (links : ∀ met now, (statement.effect met now).payoutLinks =
      now.payoutLinks) : statement.Grows origins :=
  fun met now => origins_same (payouts met now) (links met now)

theorem move_origins (now : Time) (input : MoveInput) :
    (move now input).Grows origins := by
  have ledger (site : Site) (row : WalletTransaction) :
      (Body.perform (createLedgerRow site row)).Grows origins :=
    .perform (grows_aside (fun _ _ => rfl) fun _ _ => rfl)
  have transaction (wallet : Wallet) (amount : Decimal) :
      (moveTransaction now input wallet amount).Grows origins := by
    refine Body.Grows.bind (.perform (.idle fun _ _ => rfl)) fun current => ?_
    cases current with
    | none => exact trivial
    | some current =>
        dsimp only
        split
        · exact trivial
        split
        · exact trivial
        split
        · have debit : (restingOn current input.ignoreFrozen
              (decrementBalance "move.decrement" wallet.key |amount|)).Grows
                origins := by
            apply grows_aside
            all_goals
              intro met now
              simp only [restingOn, decrementBalance]
              split
              · split <;> rfl
              · rfl
          refine Body.Grows.bind (.perform debit) fun count => ?_
          split
          · exact trivial
          · exact ledger _ _
        · exact Body.Grows.bind
            (.perform (grows_aside (fun _ _ => rfl) fun _ _ => rfl))
            fun _ => ledger _ _
  unfold move
  split
  · exact trivial
  · exact trivial
  split
  · exact trivial
  refine Program.Grows.bind (grows_getWallet _ _) fun wallet => ?_
  split
  · exact trivial
  · exact .atomically (transaction _ _)

theorem computeFee_origins (kind : FeeKind) (accountId : AccountId)
    (amount : NumberInput) :
    (computeFee kind accountId amount).Grows origins := by
  refine Program.Grows.bind (grows_getConfig accountId fun _ _ =>
    origins_same rfl rfl) fun config => ?_
  cases amount <;> exact trivial

theorem findAccount_origins (accountId : AccountId) :
    (findAccount accountId).Grows origins := by
  refine Program.Grows.bind (.perform (.idle fun _ _ => rfl)) fun account => ?_
  cases account <;> exact trivial

theorem enqueue_origins (site : Site) (now : Time) (payload : JobPayload) :
    (enqueue site now payload).Grows origins :=
  .perform (grows_aside (fun _ _ => rfl) fun _ _ => rfl)

theorem rejectRepeated_origins (site : Site) (repeated : String → World → Bool)
    (message : String) (clientReference : Option String) :
    (rejectRepeated site repeated message clientReference).Grows origins := by
  unfold rejectRepeated
  split
  · exact trivial
  · refine Program.Grows.bind (.perform (.idle fun _ _ => rfl)) fun dupe => ?_
    unfold Program.when
    split <;> exact trivial

/-- A single payout: one row of the account and the channel is created. -/
theorem createPayout_vouches (now : Time) (random : List Char)
    (accountId : AccountId) (channel : PayoutChannel) (dto : PayoutDto)
    (vouched : ∀ payout : Payout, payout.accountId = accountId →
      payout.channel = channel →
      Vouched world tasks met id payout) :
    (createPayout now random accountId channel dto).Obeys
      (vouching world tasks met) id (fun _ => True) fun _ => True := by
  have prepared : (preparePayout now random accountId channel dto).Obeys
      (vouching world tasks met) id
      (fun hold => hold.payout.accountId = accountId ∧
        hold.payout.channel = channel)
      fun hold => hold.payout.accountId = accountId ∧
        hold.payout.channel = channel := by
    apply (origins_obeys (findAccount_origins accountId)).seq
    intro account _
    split
    · exact trivial
    · apply (origins_obeys (rejectRepeated_origins _ _ _ _)).seq
      intro _ _
      apply (origins_obeys (computeFee_origins _ _ _)).seq
      exact fun _ _ => ⟨rfl, rfl⟩
  apply prepared.seq
  rintro hold ⟨account, onChannel⟩
  apply (origins_obeys (move_origins now hold.debit)).seq
  intro _ _
  have created :
    (Program.perform (payouts.create "payout.create" hold.payout)).Obeys
      (vouching world tasks met) id (fun _ => True) fun _ => True := by
    apply Program.Obeys.staked rfl
    intro before _ row answered
    have fresh : before.payouts.find? hold.payout.reference = none :=
      (Relation.create_ok answered).1
    refine ⟨⟨fun payout new => ?_, fun link member =>
      .inr ⟨link, member, rfl, rfl⟩⟩, trivial⟩
    obtain ⟨member, _, absent⟩ := by
      simpa only [createdCustomers, List.mem_filter,
        decide_eq_true_eq] using new
    change payout ∈ (before.payouts.insert hold.payout).rows at member
    rw [Table.rows_insert fresh] at member
    rcases List.mem_append.mp member with old | last
    · rw [Table.find?_of_mem old] at absent
      cases absent
    · rw [List.mem_singleton.mp last]
      exact vouched hold.payout account onChannel
  apply created.seq
  intro payout _
  exact origins_obeys (Program.Grows.bind (enqueue_origins _ _ _)
    fun _ => trivial)

/-- The rows of a batch: each is an item's. -/
theorem createBatchRows_vouches (now : Time) (randoms : ℕ → List Char)
    (accountId : AccountId) (sourceCode : String) (dto : CreateBatchDto)
    (reference : Reference)
    (vouched : ∀ payout : Payout, payout.accountId = accountId →
      payout.channel ∈ dto.items.map BatchItem.channel →
        Vouched world tasks met id payout) :
    (createBatchRows now randoms accountId sourceCode dto reference).Commits
      (vouching world tasks met) id (fun _ => True) fun state => state := by
  unfold createBatchRows
  simp only [Body.bind_perform]
  refine ⟨fun _ _ created _ => ?_, fun _ => trivial⟩
  dsimp only
  split
  · exact trivial
  · rename_i rows built
    refine ⟨fun _ _ _ _ =>
      ⟨fun before _ => ⟨fun payout new => ?_, fun link member => ?_⟩,
      trivial⟩, fun _ => trivial⟩
    · obtain ⟨member, _, absent⟩ := by
        simpa only [createdCustomers, List.mem_filter,
          decide_eq_true_eq] using new
      change payout ∈ (before.payouts.insertAll rows).rows at member
      obtain ⟨added, within, same⟩ := before.payouts.rows_insertAll rows
      rw [same] at member
      rcases List.mem_append.mp member with old | last
      · rw [Table.find?_of_mem old] at absent
        cases absent
      · obtain ⟨item, its, _, rfl⟩ :=
          (itemRows_ok built).1 payout (within.mem last)
        exact vouched _ rfl (List.mem_map_of_mem its)
    · exact .inr ⟨link, member, rfl, rfl⟩

theorem createBatch_vouches (now : Time) (random : List Char)
    (randoms : ℕ → List Char) (accountId : AccountId) (dto : CreateBatchDto)
    (vouched : ∀ payout : Payout, payout.accountId = accountId →
      payout.channel ∈ dto.items.map BatchItem.channel →
        Vouched world tasks met id payout) :
    (createBatch now random randoms accountId dto).Obeys
      (vouching world tasks met) id (fun _ => True) fun _ => True := by
  apply (origins_obeys (findAccount_origins accountId)).seq
  intro account _
  split
  · exact trivial
  split
  · exact trivial
  rename_i reference _
  apply (origins_obeys (move_origins now _)).seq
  intro _ _
  have committed :
    (Program.atomically "batch.commit" (createBatchRows now randoms accountId
      account.sourceCode dto reference)).Obeys (vouching world tasks met) id
        (fun _ => True)
      fun _ => True :=
    ⟨createBatchRows_vouches now randoms accountId account.sourceCode dto
      reference vouched, fun _ => trivial⟩
  apply committed.seq
  intro batch _
  apply origins_obeys
  refine Program.Grows.bind (.perform (.idle fun _ _ => rfl)) fun items => ?_
  exact Program.Grows.bind (enqueue_origins _ _ _) fun _ => trivial

/-- A link is created for the account of the request. -/
theorem createPayoutLink_vouches (now : Time) (tokenHash : String)
    (accountId : AccountId) (dto : CreatePayoutLinkDto)
    (issued : Issued world tasks met tokenHash accountId) :
    (createPayoutLink now tokenHash accountId dto).Obeys
      (vouching world tasks met) id (fun _ => True) fun _ => True := by
  apply (origins_obeys (findAccount_origins accountId)).seq
  intro _ _
  split
  · exact trivial
  · apply Program.Obeys.staked rfl
    intro before _ row answered
    refine ⟨⟨fun payout new => ?_, fun link member => ?_⟩, trivial⟩
    · obtain ⟨member, _, absent⟩ := by
        simpa only [createdCustomers, List.mem_filter,
          decide_eq_true_eq] using new
      rw [Table.find?_of_mem (show payout ∈ before.payouts.rows from
        member)] at absent
      cases absent
    · have fresh : before.payoutLinks.find? tokenHash = none :=
        (Relation.create_ok answered).1
      change link ∈ (before.payoutLinks.insert _).rows at member
      rw [Table.rows_insert fresh] at member
      rcases List.mem_append.mp member with old | last
      · exact .inr ⟨link, old, rfl, rfl⟩
      · rw [List.mem_singleton.mp last]
        exact .inl issued

/-- A confirmation pays from the account its link was issued for, to mobile
money. -/
theorem confirmPayoutLink_vouches (times : ConfirmTimes) (random : List Char)
    (tokenHash : String) (dto : PayoutLinkDetails)
    (beneficiaryName : Option String)
    (vouched : ∀ payout : Payout,
      Issued world tasks met tokenHash payout.accountId →
      payout.channel = .mobileMoney → Vouched world tasks met id payout) :
    (confirmPayoutLink times random tokenHash dto beneficiaryName).Obeys
      (vouching world tasks met) id (fun _ => True) fun _ => True := by
  have relinked {now : World} {change : PayoutLink → PayoutLink}
      (keeps : ∀ link, (change link).tokenHash = link.tokenHash)
      (account : ∀ link, (change link).accountId = link.accountId) :
      origins.grows now
        { now with payoutLinks :=
          now.payoutLinks.modify tokenHash change keeps } := by
    refine ⟨(origins.refl now).1, fun link member => ?_⟩
    obtain ⟨old, oldMember, rfl⟩ := List.mem_map.mp member
    refine ⟨old, oldMember, ?_⟩
    split
    · exact ⟨(keeps old).symm, (account old).symm⟩
    · exact ⟨rfl, rfl⟩
  have recipient : (resolvePayoutLinkRecipient times.checked tokenHash dto
      beneficiaryName).Grows origins := by
    have active : (findActivePayoutLink times.checked tokenHash).Grows
      origins := by
      refine Program.Grows.bind (.perform (.idle fun _ _ => rfl)) fun link => ?_
      cases link with
      | none => exact trivial
      | some link =>
          dsimp only
          split <;> exact trivial
    refine Program.Grows.bind active fun _ => ?_
    split <;> exact trivial
  apply (origins_obeys recipient).seq
  intro resolved _
  have redemption : (Program.atomically "payoutLink.commit"
      (redeemLink times.locked tokenHash resolved)).Obeys
        (vouching world tasks met) id
      (fun link => Issued world tasks met tokenHash link.accountId)
      fun link => Issued world tasks met tokenHash link.accountId := by
    refine ⟨?_, fun _ => trivial⟩
    simp only [redeemLink, Body.bind_perform]
    refine ⟨fun _ _ row _ => ?_, fun _ => trivial⟩
    dsimp only
    split
    · exact trivial
    split
    · exact trivial
    split
    · exact trivial
    refine ⟨fun now valid link answered =>
      ⟨fun _ _ => vouching_origins (relinked _ fun _ => rfl),
      ?_⟩, fun _ => trivial⟩
    obtain ⟨found, at_hash, rfl⟩ := Relation.update_ok answered
    have issued := valid found (Table.mem_of_find? at_hash)
    rw [Table.key_of_find? at_hash] at issued
    exact issued
  apply redemption.seq
  intro link issued
  have created : (createPayout times.created random link.accountId .mobileMoney
      (linkPayout link resolved)).Obeys (vouching world tasks met) id
        (fun _ => True)
      fun _ => True :=
    createPayout_vouches times.created random link.accountId .mobileMoney
      (linkPayout link resolved) fun payout account channel =>
        vouched payout (account ▸ issued) channel
  apply created.seq
  intro payout _
  apply origins_obeys
  exact Program.Grows.bind (.perform fun _ _ => relinked _ fun _ => rfl)
    fun _ => trivial

theorem setStatus_origins (accountId : String) (status : AccountStatus) :
    (setStatus accountId status).Grows origins := by
  have entity : (getEntity accountId).Grows origins := by
    refine Program.Grows.bind (grows_resolveAccountId accountId)
      fun resolved => ?_
    cases resolved with
    | none => exact trivial
    | some resolved =>
        refine Program.Grows.bind (.perform (.idle fun _ _ => rfl))
          fun account => ?_
        cases account <;> exact trivial
  refine Program.Grows.bind entity fun account => ?_
  split
  · exact trivial
  · exact .perform (grows_aside (fun _ _ => rfl) fun _ _ => rfl)

theorem setPermissions_origins (accountId : String)
    (items : List PermissionItem) :
    (setPermissions accountId items).Grows origins := by
  have upserts (owner : AccountId) : (upsertAll owner items).Grows origins := by
    induction items with
    | nil => exact trivial
    | cons item rest ih =>
        refine Body.Grows.bind (.perform (grows_aside ?_ ?_)) fun _ => ih
        all_goals
          intro met now
          simp only [upsertPermission]
          split <;> rfl
  refine Program.Grows.bind (grows_resolveAccountId accountId)
    fun resolved => ?_
  cases resolved with
  | none => exact trivial
  | some resolved =>
      exact Program.Grows.bind (.atomically (upserts resolved)) fun _ =>
        .perform (.idle fun _ _ => rfl)

/-! ## Every run -/

/-- The call, with its guards answering as in `now`. -/
def DisbursementTask.answered (now : World) (task : DisbursementTask) :
    Db Unit :=
  match task with
  | .payout .. | .batch .. | .createLink .. => task.program.answering now
  | task => task.program

variable (world tasks met) in
/-- Every call creates what is vouched for by what the guards of its run
read. -/
theorem answered_vouches (id : Id) :
    ((tasks id).answered (met id)).Obeys (vouching world tasks met) id
      (fun _ => True)
      fun _ => True := by
  have discarded {Result : Type} {program : Db Result}
      (obeys : program.Obeys (vouching world tasks met) id (fun _ => True)
        fun _ => True) :
      (Program.discard program).Obeys (vouching world tasks met) id
        (fun _ => True) fun _ => True :=
    obeys.seq fun _ _ => trivial
  cases task : tasks id with
  | payout now random accountId channel dto =>
      apply guarded_obeys
      intro _ read granted passes allowed
      apply discarded
      apply createPayout_vouches
      intro payout account onChannel
      constructor
      · rw [task, onChannel]
        exact List.mem_singleton_self channel
      · refine .inr ⟨id, ?_, read, account ▸ granted, passes, .inr ?_⟩
        · rw [vouches, task, account]
          exact if_pos rfl
        · rw [onChannel]
          exact allowed channel rfl
  | batch now random randoms accountId dto =>
      apply guarded_obeys
      intro _ read granted passes _
      apply discarded
      apply createBatch_vouches
      intro payout account onChannel
      constructor
      · rw [task]
        exact onChannel
      · refine .inr ⟨id, ?_, read, account ▸ granted, passes, .inl ?_⟩
        · rw [vouches, task, account]
          exact if_pos rfl
        · rw [task]
          exact onChannel
  | createLink now tokenHash accountId dto =>
      apply guarded_obeys
      intro _ read granted passes _
      apply discarded
      apply createPayoutLink_vouches
      refine .inr ⟨id, ?_, read, granted, passes⟩
      rw [task]
      exact if_pos rfl
  | confirm times random tokenHash dto beneficiaryName =>
      apply discarded
      apply confirmPayoutLink_vouches
      intro payout issued channel
      constructor
      · rw [task, channel]
        exact List.mem_singleton_self _
      · rcases issued with old | ⟨issuer, linkFor, read, granted, passes⟩
        · left
          rw [task]
          exact ⟨tokenHash, rfl, old⟩
        · refine .inr ⟨issuer, ?_, read, granted, passes, .inl ?_⟩
          · rw [vouches, task]
            exact linkFor
          · rw [task, channel]
            exact List.mem_singleton_self _
  | suspend accountId =>
      exact discarded (origins_obeys (setStatus_origins accountId .suspended))
  | activate accountId =>
      exact discarded (origins_obeys (setStatus_origins accountId .active))
  | setPermissions accountId items =>
      exact discarded (origins_obeys (setPermissions_origins accountId items))
  | other call => exact origins_obeys call.property

end

section

variable {Id : Type} [DecidableEq Id]

theorem Lasts.trans {channels : List PayoutChannel} {first second third : Grant}
    (before : Lasts channels first second)
    (after : Lasts channels second third) :
    Lasts channels first third where
  active := fun active => after.active (before.active active)
  granted := fun granted => after.granted (before.granted granted)
  allowed := fun channel member allowed =>
    after.allowed channel member (before.allowed channel member allowed)

/-- What no event takes back is there at the end. -/
theorem lasts_run {channels : List PayoutChannel} {accountId : AccountId}
    {config : Config Id World RowKey Expectation Site AppError Unit}
    {read now : Grant} (granted : config.state.grant? accountId = some now)
    (lasting : Lasts channels read now) {schedule : List (Event Id AppError)}
    (keeps : config.Throughout (TakesNothing channels accountId) schedule) :
    ∃ last ∈ (config.run schedule).state.grant? accountId,
      Lasts channels read last := by
  induction schedule generalizing config now with
  | nil => exact ⟨now, granted, lasting⟩
  | cons event rest ih =>
      obtain ⟨next, nextGranted, lasts⟩ := keeps.1 now granted
      exact ih nextGranted (lasting.trans lasts) keeps.2

theorem NothingTaken.lasts {world : World} {tasks : Id → DisbursementTask}
    {channels : List PayoutChannel} {accountId : AccountId} {read : Grant}
    {schedule : List (Event Id AppError)}
    (untouched : NothingTaken world tasks channels accountId read schedule) :
    ∃ now ∈ ((disbursing world tasks).run schedule).state.grant? accountId,
      Lasts channels read now := by
  obtain ⟨earlier, later, rfl, granted, keeps⟩ := untouched
  rw [Config.run_append]
  exact lasts_run granted ⟨fun active => active, fun granted => granted,
    fun _ _ allowed => allowed⟩ keeps

/-- A payout that is vouched for is authorised as long as its call is still
granted. -/
theorem StillGranted.authorised {world : World} {tasks : Id → DisbursementTask}
    {schedule : List (Event Id AppError)} {id : Id}
    (granted : StillGranted world tasks schedule id) {payout : Payout}
    (vouched : Vouched world tasks ((disbursing world tasks).firstMet schedule)
      id payout) :
    Authorised ((disbursing world tasks).run schedule).state payout := by
  rcases vouched.guarded with ⟨tokenHash, confirms, old, member, same⟩ |
    ⟨issuer, vouches, read, met, passes, looked⟩
  · exact absurd same (granted.recent tokenHash confirms old member)
  · obtain ⟨now, current, lasts⟩ :=
      (granted.lasts issuer _ vouches read met passes).lasts
    have allowed : read.allows payout.channel = true := by
      rcases looked with unchecked | allowed
      · exact granted.checked issuer _ vouches read met passes _ unchecked
      · exact allowed
    exact authorised_iff.mpr ⟨now, current,
      ⟨lasts.active passes.1, lasts.granted passes.2⟩,
      lasts.allowed _ vouched.channel allowed⟩

theorem program_answered (task : DisbursementTask) (now : World) :
    task.answered now = task.program ∨
      task.program.StartsUnlocked ∧ task.answered now =
        task.program.answering now := by
  cases task with
  | payout => exact .inr ⟨fun _ => rfl, rfl⟩
  | batch => exact .inr ⟨fun _ => rfl, rfl⟩
  | createLink => exact .inr ⟨fun _ => rfl, rfl⟩
  | confirm => exact .inl rfl
  | suspend => exact .inl rfl
  | activate => exact .inl rfl
  | setPermissions => exact .inl rfl
  | other => exact .inl rfl

theorem vouching_run {world : World} {tasks : Id → DisbursementTask}
    {met : Id → World}
    {config : Config Id World RowKey Expectation Site AppError Unit}
    (obeying : config.Obeying (vouching world tasks met) fun _ _ => True)
    (schedule : List (Event Id AppError)) :
    (config.run schedule).Obeying (vouching world tasks met)
      fun _ _ => True := by
  induction schedule generalizing config with
  | nil => exact obeying
  | cons event rest ih => exact ih (obeying.step fun _ _ => trivial)

/-- However the calls interleave, fail or stop: every customer payout is
authorised in the state it is created in, if the link its call confirms is one
of the run, what the guards behind the call read allows the channels that they
do not look at, and no suspension, revocation or exclusion after that is still
in force. -/
theorem created_authorised (world : World) (tasks : Id → DisbursementTask)
    (schedule : List (Event Id AppError)) (event : Event Id AppError)
    (granted : StillGranted world tasks schedule event.id) :
    CreatesAuthorised ((disbursing world tasks).run schedule).state
      ((disbursing world tasks).run (schedule ++ [event])).state := by
  let met := (disbursing world tasks).firstMet schedule
  have answers (id : Id) := program_answered (tasks id) (met id)
  have start :
    (Config.start world fun id => (tasks id).answered (met id)).Obeying
      (vouching world tasks met) fun _ _ => True :=
    ⟨fun link member => .inl ⟨link, member, rfl⟩,
      answered_vouches world tasks met⟩
  have reached := vouching_run start schedule
  have stepped := Config.step_follows answers event
  have same := (Config.follows_run answers).state
  rw [Config.run_append]
  intro payout created
  apply granted.authorised
  change payout ∈ createdCustomers _
    (((disbursing world tasks).run schedule).step event).state at created
  rw [disbursing, ← same, ← stepped] at created
  cases atStake : Config.atStake (vouching world tasks met).marked _ event with
  | true => exact (reached.staked atStake).1 payout created
  | false =>
      have idle := (reached.quiet atStake).elim id id
      rw [idle] at created
      exact ((vouching_origins (origins.refl _)).1 payout created)

end

/-- An active account that may pay to mobile money only. -/
def mobileOnlyWorld : World where
  accounts :=
    Table.empty.insert { id := "a", accountId := "ACC-1"
                         sourceCode := "AAAAA" }
  wallets :=
    Table.empty.insert
      { key := ⟨"a", .disbursement⟩, balance := Money.round 100000 }
  permissions := Table.empty.insert
    { key := ⟨"a", .disbursement⟩, granted := true
      permissionMeta := some (.obj [("channels", .arr [.str "MOBILE_MONEY"])]) }

/-- Who has to do with a payout link. -/
inductive Party where
  | customer | admin | recipient
  deriving DecidableEq

/-- The customer creates a link, the admin suspends the customer's account, and
the recipient confirms the link. -/
def linkTasks : Party → DisbursementTask
  | .customer => .createLink 1 "t" "a" { amount := Amount.shillings 1000 }
  | .admin => .suspend "ACC-1"
  | .recipient => .confirm ⟨2, 2, 2⟩ (List.replicate 15 'X') "t"
      { phoneNumber := "255712345678", payoutMethod := "M-PESA" } none

/-- The recipient is about to pay, from an account that nobody has suspended. -/
def promptly : List (Event Party AppError) :=
  List.replicate 3 (.run .customer) ++ List.replicate 15 (.run .recipient)

theorem created_authorised_promptly :
    createdCustomers ((disbursing mobileOnlyWorld linkTasks).run promptly).state
        ((disbursing mobileOnlyWorld linkTasks).run
          (promptly ++ [.run .recipient])).state ≠ [] ∧
      CreatesAuthorised
        ((disbursing mobileOnlyWorld linkTasks).run promptly).state
        ((disbursing mobileOnlyWorld linkTasks).run
          (promptly ++ [.run .recipient])).state := by
  refine ⟨by decide +kernel, created_authorised mobileOnlyWorld linkTasks
    promptly (.run .recipient) ⟨?_, ?_, ?_⟩⟩
  · intro _ _ link member
    cases member
  · intro issuer accountId vouched
    cases issuer with
    | customer =>
        cases vouched
        decide +kernel
    | admin => cases vouched
    | recipient => cases vouched
  · intro issuer accountId vouched read met _
    cases issuer with
    | customer =>
        cases vouched
        refine ⟨[], promptly, rfl, ?_, by decide +kernel⟩
        rw [← Option.mem_some_iff.mp met]
        decide +kernel
    | admin => cases vouched
    | recipient => cases vouched

/-- A batch with one payout to a bank account. -/
def bankBatch : DisbursementTask :=
  .batch 2 (List.replicate 15 'X') (fun _ => List.replicate 15 'Y') "a"
    { name := "Salaries"
      items := [{ channel := .bank, amount := Amount.shillings 5000
                  accountNumber := some "0150", accountName := some "Jane",
                    bic := some "CRDB" }] }

/-- The account is suspended before the link is confirmed. -/
def suspendedFirst : List (Event Party AppError) :=
  List.replicate 3 (.run .customer) ++ List.replicate 5 (.run .admin) ++
    List.replicate 15 (.run .recipient)

/-- A batch reaches a bank account that the permission excludes, and a link pays
from a suspended account. -/
theorem unauthorised_payouts :
    (∃ schedule event, ¬ CreatesAuthorised
      ((disbursing mobileOnlyWorld fun _ : Unit => bankBatch).run
        schedule).state
      ((disbursing mobileOnlyWorld fun _ : Unit => bankBatch).run
        (schedule ++ [event])).state) ∧
    ∃ schedule event, ¬ CreatesAuthorised
      ((disbursing mobileOnlyWorld linkTasks).run schedule).state
      ((disbursing mobileOnlyWorld linkTasks).run
        (schedule ++ [event])).state :=
  ⟨⟨List.replicate 12 (.run ()), .run (), by decide +kernel⟩,
    suspendedFirst, .run .recipient, by decide +kernel⟩

end CloudStudio.Payouts
