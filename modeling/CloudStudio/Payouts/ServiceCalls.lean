import CloudStudio.Payouts.Requests
import CloudStudio.Wallets.Standing

/-!
# What all calls of the service do to the books

Payouts, batches, withdrawals and sweeps debit a wallet, provider records credit
or refund one, administrators do both, and an account is opened with two.  All
of them read, decide, move and write rows in many commits, of which any may fail
or be the last.  Between their movements they leave wallets and ledger alone, so
an invariant of the books that movements, freezes and new wallets keep holds in
every state, however many of them run at once.
-/

namespace CloudStudio.Payouts

open Function
open CloudStudio.Data CloudStudio.Transactions CloudStudio.Platform
open CloudStudio.Payments
open CloudStudio.Wallets

variable {Id : Type} [DecidableEq Id] {id : Id} {kept : BookInvariant}
  {ignores : Id → Prop}

/-- A statement that leaves wallets and ledger alone. -/
theorem perform_rests {Answer : Type} {statement : Statement Answer}
    (same : statement.Grows besideBook) :
    (Program.perform statement).Rests (standing kept ignores) id [] :=
  besideBook_rests (.perform same)

theorem select_rests {Answer : Type} {site : Site} {view : World → Answer} :
    (Program.perform (select site view)).Rests (standing kept ignores) id [] :=
  perform_rests (.idle fun _ _ => rfl)

theorem findAccount_rests (accountId : AccountId) :
    (findAccount accountId).Rests (standing kept ignores) id [] := by
  refine select_rests.bind fun account => ?_
  cases account <;> exact rfl

theorem rejectRepeated_rests (site : Site) (repeated : String → World → Bool)
    (message : String) (clientReference : Option String) :
    (rejectRepeated site repeated message clientReference).Rests
      (standing kept ignores) id [] := by
  unfold rejectRepeated
  split
  · exact rfl
  · exact select_rests.bind fun dupe => Program.Rests.when rfl

theorem computeFee_rests (kind : FeeKind) (accountId : AccountId)
    (amount : NumberInput) :
    (computeFee kind accountId amount).Rests (standing kept ignores) id [] := by
  refine Program.Rests.bind
    (besideBook_rests (grows_getConfig accountId fun _ _ => rfl))
      fun config => ?_
  cases amount <;> exact rfl

theorem enqueue_rests (site : Site) (now : Time) (payload : JobPayload) :
    (enqueue site now payload).Rests (standing kept ignores) id [] :=
  perform_rests fun _ _ => rfl

theorem dispatch_rests (now : Time) (notice : Dispatched) :
    (dispatch now notice).Rests (standing kept ignores) id [] := by
  have subscribers : (Program.perform (findSubscribers notice)).Rests
    (standing kept ignores) id [] :=
    perform_rests fun _ _ => rfl
  refine subscribers.bind fun endpoints => ?_
  have delivered : (Program.forEach endpoints (deliverTo now notice)).Rests
      (standing kept ignores) id [] := by
    refine .forEach fun endpoint => ?_
    refine Program.Rests.bind (perform_rests fun _ _ => rfl) fun _ => ?_
    exact (enqueue_rests _ _ _).discard
  exact delivered.bind fun _ => rfl

theorem applyCollectionUpdate_rests (permitted : ignores id) (now : Time)
    (reference : Reference) (record : ProviderRecord) :
    (applyCollectionUpdate now reference record).Rests (standing kept ignores)
      id [] := by
  have finish (nextStatus : TxStatus) (fee : Option ComputedFee)
    (collection : Collection) :
      (finishCollection now record nextStatus fee collection).Rests
        (standing kept ignores) id [] := by
    unfold finishCollection
    split
    · exact rfl
    refine Program.Rests.bind (perform_rests fun _ _ => rfl) fun updated => ?_
    have credited : (creditCollection now collection updated fee).Rests
      (standing kept ignores) id [] := by
      cases fee with
      | none => exact rfl
      | some fee => exact (move_rests _ fun _ => permitted).discard
    refine credited.bind fun _ => ?_
    exact Program.Rests.bind (.when (dispatch_rests _ _).discard) fun _ => rfl
  refine select_rests.bind fun collection => ?_
  cases collection with
  | none => exact rfl
  | some collection =>
      dsimp only
      split
      · exact rfl
      split
      · exact rfl
      split
      · exact (computeFee_rests _ _ _).bind fun _ => finish _ _ _
      · exact finish _ _ _

theorem applyDepositUpdate_rests (permitted : ignores id) (now : Time)
    (reference : Reference) (record : ProviderRecord) :
    (applyDepositUpdate now reference record).Rests (standing kept ignores) id
      [] := by
  have finish (nextStatus : TxStatus) (shouldCredit : Bool)
    (deposit : Deposit) :
      (finishDeposit now record nextStatus shouldCredit deposit).Rests
        (standing kept ignores) id [] := by
    unfold finishDeposit
    split
    · exact rfl
    refine Program.Rests.bind (perform_rests fun _ _ => rfl) fun updated => ?_
    refine Program.Rests.bind (.when (move_rests _ fun _ => permitted).discard)
      fun _ => ?_
    exact Program.Rests.bind (.when (dispatch_rests _ _).discard) fun _ => rfl
  refine select_rests.bind fun deposit => ?_
  cases deposit with
  | none => exact rfl
  | some deposit =>
      dsimp only
      split
      · exact rfl
      split
      · exact rfl
      · exact finish _ _ _

theorem recountBatch_rests (now : Time) (batchId : Option Reference) :
    (recountBatch now batchId).Rests (standing kept ignores) id [] := by
  cases batchId with
  | none => exact rfl
  | some batchId =>
      refine select_rests.bind fun statuses => ?_
      refine Program.Rests.bind (perform_rests fun _ _ => rfl) fun batch => ?_
      exact Program.Rests.when (dispatch_rests _ _).discard

theorem announcePayout_rests (now : Time) (payout : Payout)
    (nextStatus : TxStatus) :
    (announcePayout now payout nextStatus).Rests (standing kept ignores) id
      [] := by
  unfold announcePayout
  split
  · exact select_rests.bind fun _ => (dispatch_rests _ _).discard
  · exact (dispatch_rests _ _).discard

theorem applyPayoutUpdate_rests (permitted : ignores id) (now : Time)
    (reference : Reference) (record : ProviderRecord) :
    (applyPayoutUpdate now reference record).Rests (standing kept ignores) id
      [] := by
  have finish (nextStatus : TxStatus) (shouldRefund : Bool) (payout : Payout) :
      (finishPayout now record nextStatus shouldRefund payout).Rests
        (standing kept ignores) id [] := by
    unfold finishPayout
    split
    · exact rfl
    refine Program.Rests.bind (perform_rests fun _ _ => rfl) fun updated => ?_
    refine Program.Rests.bind (.when (move_rests _ fun _ => permitted).discard)
      fun _ => ?_
    refine Program.Rests.bind (.when (announcePayout_rests _ _ _)) fun _ => ?_
    exact (recountBatch_rests _ _).bind fun _ => rfl
  refine select_rests.bind fun payout => ?_
  cases payout with
  | none => exact rfl
  | some payout =>
      dsimp only
      split
      · exact rfl
      split
      · exact rfl
      · exact finish _ _ _

theorem receiveRecord_rests (permitted : ignores id) (now : Time)
    (reference : Reference) (record : ProviderRecord) :
    (receiveRecord now reference record).Rests (standing kept ignores) id [] :=
  Program.Rests.bind (perform_rests fun _ _ => rfl) fun _ =>
    (applyPayoutUpdate_rests permitted _ _ _).discard

theorem processPayout_rests (permitted : ignores id) (now : Time)
    (credentialsReady : Bool) (provider : PayoutRequest → Behaviour)
    (requestOf : Payout → PayoutRequest)
    (complete : ProviderRecord → ProviderRecord) (payoutId : Reference) :
    (processPayout now credentialsReady provider requestOf complete
      payoutId).Rests (standing kept ignores) id [] := by
  refine select_rests.bind fun payout => ?_
  cases payout with
  | none => exact rfl
  | some payout =>
      dsimp only
      split
      · exact rfl
      refine Program.Rests.bind (perform_rests fun _ _ => rfl) fun result => ?_
      split
      · exact (applyPayoutUpdate_rests permitted _ _ _).discard
      · exact (applyPayoutUpdate_rests permitted _ _ _).discard

theorem handler_rests (permitted : ignores id) (turn : QueueTurn)
    (payload : JobPayload) :
    (turn.handler payload).Rests (standing kept ignores) id [] := by
  unfold QueueTurn.handler
  split
  · exact processPayout_rests permitted _ _ _ _ _ _
  · exact .forEach fun item => processPayout_rests permitted _ _ _ _ _ _
  · split
    · exact rfl
    · exact rfl

theorem queueTurn_rests (permitted : ignores id) (turn : QueueTurn) :
    turn.program.Rests (standing kept ignores) id [] := by
  have process (position : ℕ) (job : Job) :
      (turn.process position job).Rests (standing kept ignores) id [] := by
    refine .catching ?_ fun _ => ?_
    · refine (handler_rests permitted turn job.payload).bind fun _ => ?_
      exact perform_rests fun _ _ => rfl
    · exact .catching (perform_rests fun _ _ => rfl) fun _ => rfl
  have claims : (claimJob turn.claimedAt).Grows besideBook := by
    intro met world
    simp only [claimJob]
    split
    · rfl
    · rfl
  refine Program.Rests.bind (.catching (perform_rests claims) fun _ => rfl)
    fun claimed => ?_
  cases claimed with
  | none => exact rfl
  | some found => exact process found.1 found.2

/-- The debit of a hold minds freezes. -/
def Hold.Careful (hold : Hold) : Prop := hold.debit.ignoreFrozen = false

theorem holdAndQueue_rests (now : Time) {hold : Hold} (careful : hold.Careful) :
    (holdAndQueue now hold).Rests (standing kept ignores) id [] := by
  have permitted : hold.debit.ignoreFrozen → ignores id := by
    intro ignoring
    rw [careful] at ignoring
    cases ignoring
  refine (move_rests now permitted).bind fun _ => ?_
  refine Program.Rests.bind (perform_rests fun _ _ => rfl) fun payout => ?_
  exact (enqueue_rests _ _ _).bind fun _ => rfl

theorem createPayout_rests (now : Time) (random : List Char)
    (accountId : AccountId) (channel : PayoutChannel) (dto : PayoutDto) :
    (createPayout now random accountId channel dto).Rests
      (standing kept ignores) id [] := by
  have prepared : (preparePayout now random accountId channel dto).Gives
      (standing kept ignores) id [] Hold.Careful := by
    refine (findAccount_rests accountId).bind fun account => ?_
    split
    · exact rfl
    · refine (rejectRepeated_rests _ _ _ _).bind fun _ => ?_
      exact (computeFee_rests _ _ _).bind fun _ => ⟨rfl, rfl⟩
  exact prepared.bind fun _ careful => holdAndQueue_rests now careful

theorem createBatch_rests (now : Time) (random : List Char)
    (randoms : ℕ → List Char) (accountId : AccountId) (dto : CreateBatchDto) :
    (createBatch now random randoms accountId dto).Rests (standing kept ignores)
      id [] := by
  refine (findAccount_rests accountId).bind fun account => ?_
  split
  · exact rfl
  split
  · exact rfl
  rename_i reference _
  unfold holdBatch
  refine (move_rests _ fun ignoring => by cases ignoring).bind fun _ => ?_
  have rows :
    (createBatchRows now randoms accountId account.sourceCode dto
    reference).Grows
      besideBook := by
    refine Body.Grows.bind (.perform fun _ _ => rfl) fun batch => ?_
    split
    · exact trivial
    · exact Body.Grows.bind (.perform fun _ _ => rfl) fun _ => trivial
  refine Program.Rests.bind (besideBook_rests (.atomically rows))
    fun batch => ?_
  refine select_rests.bind fun items => ?_
  exact (enqueue_rests _ _ _).bind fun _ => rfl

theorem createPayoutLink_rests (now : Time) (tokenHash : String)
    (accountId : AccountId) (dto : CreatePayoutLinkDto) :
    (createPayoutLink now tokenHash accountId dto).Rests (standing kept ignores)
      id [] := by
  refine (findAccount_rests accountId).bind fun account => ?_
  split
  · exact rfl
  · exact perform_rests fun _ _ => rfl

theorem confirmPayoutLink_rests (times : ConfirmTimes) (random : List Char)
    (tokenHash : String) (dto : PayoutLinkDetails)
    (beneficiaryName : Option String) :
    (confirmPayoutLink times random tokenHash dto beneficiaryName).Rests
      (standing kept ignores) id [] := by
  have resolved : (resolvePayoutLinkRecipient times.checked tokenHash dto
      beneficiaryName).Rests (standing kept ignores) id [] := by
    have active : (findActivePayoutLink times.checked tokenHash).Rests
      (standing kept ignores) id [] := by
      refine select_rests.bind fun link => ?_
      cases link with
      | none => exact rfl
      | some link =>
          dsimp only
          split
          · exact rfl
          · exact rfl
    refine active.bind fun _ => ?_
    split
    · exact rfl
    · exact rfl
  refine resolved.bind fun resolved => ?_
  have redeemed : (redeemLink times.locked tokenHash resolved).Grows
    besideBook := by
    refine Body.Grows.bind (.perform (.idle fun _ _ => rfl)) fun row => ?_
    cases row with
    | none => exact trivial
    | some row =>
        dsimp only
        split
        · exact trivial
        split
        · exact trivial
        · exact .perform fun _ _ => rfl
  refine Program.Rests.bind (besideBook_rests (.atomically redeemed))
    fun link => ?_
  refine (createPayout_rests _ _ _ _ _).bind fun payout => ?_
  exact Program.Rests.bind (perform_rests fun _ _ => rfl) fun _ => rfl

theorem getDefaultSettlementAccount_rests (accountId : AccountId) :
    (getDefaultSettlementAccount accountId).Rests (standing kept ignores) id
      [] := by
  refine select_rests.bind fun account => ?_
  cases account with
  | none => exact rfl
  | some account => exact perform_rests (.idle fun _ _ => rfl)

theorem findSettlement_rests (accountId : AccountId) (wanted : Option String) :
    (findSettlement accountId wanted).Rests (standing kept ignores) id [] := by
  unfold findSettlement
  split
  · exact perform_rests (.idle fun _ _ => rfl)
  · exact getDefaultSettlementAccount_rests accountId

theorem createWithdrawal_rests (now : Time) (random : List Char)
    (minPayout : MinPayout) (accountId : AccountId) (dto : WithdrawalDto)
    (actorId : Option String) :
    (createWithdrawal now random minPayout accountId dto actorId).Rests
      (standing kept ignores) id [] := by
  have prepared :
    (prepareWithdrawal now random minPayout accountId dto actorId).Gives
      (standing kept ignores) id [] Hold.Careful := by
    refine (findAccount_rests accountId).bind fun account => ?_
    refine (findSettlement_rests _ _).bind fun found => ?_
    cases found with
    | none => exact rfl
    | some settlement =>
        dsimp only
        split
        · exact rfl
        refine (computeFee_rests _ _ _).bind fun fee => ?_
        split
        · exact rfl
        split
        · exact rfl
        · exact ⟨rfl, rfl⟩
  exact prepared.bind fun _ careful => holdAndQueue_rests now careful

theorem readBalance_rests (accountId : AccountId) :
    (readBalance accountId).Rests (standing kept ignores) id [] :=
  select_rests.bind fun _ => rfl

theorem sweepNow_rests (now : Time) (random : List Char) (minPayout : MinPayout)
    (accountId : String) :
    (sweepNow now random minPayout accountId).Rests (standing kept ignores) id
      [] := by
  have prepared (accountId : AccountId) :
      (prepareSweepNow now random minPayout accountId).Gives
        (standing kept ignores) id [] Hold.Careful := by
    refine (findAccount_rests accountId).bind fun account => ?_
    refine (getDefaultSettlementAccount_rests _).bind fun found => ?_
    cases found with
    | none => exact rfl
    | some settlement =>
        refine (readBalance_rests _).bind fun balance => ?_
        split
        · exact rfl
        refine (computeFee_rests _ _ _).bind fun fee => ?_
        dsimp only
        split
        · exact rfl
        split
        · exact rfl
        · exact ⟨rfl, rfl⟩
  refine Program.Rests.bind
    (besideBook_rests (grows_resolveAccountId accountId)) fun resolved => ?_
  cases resolved with
  | none => exact rfl
  | some resolved =>
      exact (prepared resolved).bind fun _ careful =>
        holdAndQueue_rests now careful

theorem sweepLeg_rests (now startOfToday : Time) (random : List Char)
    (minPayout : MinPayout) (dryRun : Bool) (account : Account) :
    (sweepLeg now startOfToday random minPayout dryRun account).Rests
      (standing kept ignores) id [] := by
  have prepared :
    (prepareLeg now startOfToday random minPayout dryRun account).Gives
      (standing kept ignores) id []
      (fun prepared => ∀ hold, prepared = .inr hold → hold.Careful) := by
    have none_ (detail : SweepDetail) (hold : Hold)
        (same : (Sum.inl detail : SweepDetail ⊕ Hold) = .inr hold) :
          hold.Careful := by
      cases same
    refine (getDefaultSettlementAccount_rests _).bind fun found => ?_
    cases found with
    | none => exact ⟨none_ _, rfl⟩
    | some settlement =>
        refine (readBalance_rests _).bind fun balance => ?_
        split
        · exact ⟨none_ _, rfl⟩
        refine select_rests.bind fun already => ?_
        split
        · exact ⟨none_ _, rfl⟩
        unfold prepareSweep
        refine (computeFee_rests _ _ _).bind fun fee => ?_
        dsimp only
        split
        · exact ⟨none_ _, rfl⟩
        split
        · exact rfl
        split
        · exact ⟨none_ _, rfl⟩
        · refine ⟨fun hold same => ?_, rfl⟩
          cases same
          rfl
  refine Program.Rests.catching (prepared.bind fun prepared careful => ?_)
    fun _ => rfl
  cases prepared with
  | inl detail => exact rfl
  | inr hold => exact (holdAndQueue_rests now (careful hold rfl)).bind fun _ =>
      rfl

theorem runAutoSweep_rests (now startOfToday : Time)
    (random : AccountId → List Char) (minPayout : MinPayout) (dryRun : Bool) :
    (runAutoSweep now startOfToday random minPayout dryRun).Rests
      (standing kept ignores) id [] := by
  refine select_rests.bind fun accounts => ?_
  induction accounts with
  | nil => exact rfl
  | cons account rest ih =>
      refine (sweepLeg_rests _ _ _ _ _ account).bind fun detail => ?_
      exact Program.Rests.bind ih fun _ => rfl

theorem settlementCall_rests (call : SettlementCall) :
    call.program.Rests (standing kept ignores) id [] := by
  cases call with
  | upsert now id accountId input isDefault =>
      refine Program.Rests.bind
        (besideBook_rests (grows_resolveAccountId accountId)) fun resolved => ?_
      cases resolved with
      | none => exact rfl
      | some resolved =>
          dsimp only
          split
          · exact rfl
          refine besideBook_rests (.atomically ?_)
          have created (data : SettlementData) (isDefault : Bool) :
              (createSettlementRow now id resolved data isDefault).Grows
                besideBook := by
            unfold createSettlementRow
            split
            · exact .perform fun _ _ => rfl
            · exact trivial
          unfold upsertTransaction
          split
          · exact Body.Grows.bind (.perform fun _ _ => rfl) fun _ => created _ _
          · exact created _ _
  | update now accountId settlementId patch =>
      have written (wanted : String) : (writePatch now wanted patch).Rests
        (standing kept ignores) id [] := by
        unfold writePatch
        split
        · exact rfl
        · split
          · exact rfl
          · exact perform_rests fun _ _ => rfl
      refine Program.Rests.bind
        (besideBook_rests (grows_resolveAccountId accountId)) fun resolved => ?_
      cases resolved with
      | none => exact rfl
      | some resolved =>
          refine select_rests.bind fun row => ?_
          cases row with
          | none => exact rfl
          | some row =>
              dsimp only
              split
              · exact Program.Rests.bind (perform_rests fun _ _ => rfl)
                  fun _ => written row.id
              · exact written row.id

theorem uniqueSourceCode_rests (generated : ℕ → String) :
    (Accounts.uniqueSourceCode generated).Rests (standing kept ignores) id
      [] := by
  unfold Accounts.uniqueSourceCode
  generalize (List.range 25).map generated = codes
  induction codes with
  | nil => exact rfl
  | cons code rest ih =>
      refine select_rests.bind fun clash => ?_
      cases clash with
      | none => exact rfl
      | some account => exact ih

/-- The two wallets of an account start empty. -/
theorem createTransaction_stands (open_ : kept.Open) (now : Time)
    (generated : Accounts.Generated) (sourceCode : String)
    (settlement : Option SettlementData) (dto : Accounts.CreateAccountDto) :
    Stands kept ignores id
      (Accounts.createTransaction now generated sourceCode settlement dto)
      (fun world => world) [] := by
  have aside {Answer : Type} {statement : Statement Answer}
      (same : statement.Grows besideBook) :
        (Body.perform statement).Grows besideBook :=
    .perform same
  have settled (settlementId : String) (accountId : AccountId) :
      (Accounts.createDefaultSettlement now settlementId accountId
        settlement).Grows besideBook := by
    cases settlement with
    | none => exact trivial
    | some data => exact Body.Grows.bind (aside fun _ _ => rfl) fun _ => trivial
  have priced (accountId : AccountId) (fees : Option Accounts.FeePatch) :
      (Accounts.createFees accountId fees).Grows besideBook := by
    cases fees with
    | none => exact trivial
    | some fees =>
        unfold Accounts.createFees
        dsimp only
        split
        · exact trivial
        · exact Body.Grows.bind (aside fun _ _ => rfl) fun _ => trivial
  unfold Accounts.createTransaction
  refine grows_stands (aside fun _ _ => rfl) opens_nothing
    fun created _ opens => ?_
  rw [Body.bind_perform]
  refine ⟨fun world owner held stays own free _ _ _ => ⟨[], ?_, ?_⟩,
    fun _ => rfl⟩
  · have unchanged : update held id [] = held := by rw [← own, update_eq_self]
    rw [unchanged]
    exact standing_locks stays free
  have empty : ∀ row ∈ ([{ key := ⟨created.id, .collection⟩ },
      { key := ⟨created.id, .disbursement⟩ }] : List Wallet),
        row.balance = 0 := by
    intro row member
    rcases List.mem_pair.mp member with rfl | rfl
    · rfl
    · rfl
  refine grows_stands (aside fun _ _ => rfl) (opens.createMany _ _ _)
    fun _ _ opens => ?_
  refine grows_stands (settled _ _) opens fun _ _ opens => ?_
  refine grows_stands (priced _ _) opens fun _ _ opens => ?_
  refine grows_stands (aside (.idle fun _ _ => rfl)) opens
    fun account _ opens => ?_
  cases account with
  | none => exact rfl
  | some account => exact opens.commit open_ empty

theorem createAccount_rests (open_ : kept.Open) (now : Time)
    (generated : Accounts.Generated) (dto : Accounts.CreateAccountDto) :
    (Accounts.create now generated dto).Rests (standing kept ignores) id
      [] := by
  refine (uniqueSourceCode_rests _).bind fun sourceCode => ?_
  split
  · exact rfl
  · exact Program.Rests.atomically
      (createTransaction_stands open_ now generated sourceCode _ dto)

theorem initiateCollection_rests (now : Time) (random again : List Char)
    (accountId : AccountId) (dto : UssdPushInitiate) (provider : PushProvider) :
    (initiateCollection now random again accountId dto provider).Rests
      (standing kept ignores) id [] := by
  have stored (orderRef : Reference) (result : ProviderResult ProviderRecord) :
      (createCollection now (newCollection now accountId dto orderRef result)
        result).Rests (standing kept ignores) id [] := by
    unfold createCollection
    split
    · exact rfl
    refine Program.Rests.bind (perform_rests fun _ _ => rfl)
      fun collection => ?_
    split
    · exact rfl
    · exact Program.Rests.bind (perform_rests fun _ _ => rfl) fun _ => rfl
  refine (findAccount_rests accountId).bind fun account => ?_
  split
  · exact rfl
  refine (rejectRepeated_rests _ _ _ _).bind fun _ => ?_
  split
  · exact rfl
  · exact stored _ _

theorem initiateDeposit_rests (now : Time) (random : List Char)
    (accountId : AccountId) (dto : UssdPushInitiate) (provider : PushProvider) :
    (initiateDeposit now random accountId dto provider).Rests
      (standing kept ignores) id [] := by
  have stored (wallet : Wallet) (reference : Reference)
      (result : ProviderResult ProviderRecord) : (createDeposit now
        (newDeposit now accountId wallet dto reference result) result).Rests
          (standing kept ignores) id [] := by
    unfold createDeposit
    split
    · exact rfl
    refine Program.Rests.bind (perform_rests fun _ _ => rfl) fun deposit => ?_
    split
    · exact rfl
    · exact Program.Rests.bind (perform_rests fun _ _ => rfl) fun _ => rfl
  refine (findAccount_rests accountId).bind fun account => ?_
  refine select_rests.bind fun wallet => ?_
  cases wallet with
  | none => exact rfl
  | some wallet =>
      dsimp only
      split
      · exact rfl
      refine (rejectRepeated_rests _ _ _ _).bind fun _ => ?_
      exact stored _ _ _

/-! ## Every run -/

/-- A call of an endpoint, a provider record, a turn of the queue, or a call of
the wallet service. -/
inductive ServiceCall where
  | endpoint (call : EndpointCall)
  | wallet (call : WalletCall)

def ServiceCall.program : ServiceCall → Db Unit
  | .endpoint call => call.program
  | .wallet call => call.program

/-- What the provider reports is credited or refunded to a frozen wallet too. -/
def EndpointCall.IgnoresFrozen : EndpointCall → Prop
  | .collectionRecord .. | .depositRecord .. | .payoutRecord .. | .poll _ =>
      True
  | _ => False

def ServiceCall.IgnoresFrozen : ServiceCall → Prop
  | .endpoint call => call.IgnoresFrozen
  | .wallet call => call.IgnoresFrozen

theorem endpointCall_rests (open_ : kept.Open) {call : EndpointCall}
    (permitted : call.IgnoresFrozen → ignores id) :
    call.program.Rests (standing kept ignores) id [] := by
  cases call with
  | createPayout now random accountId channel dto =>
      exact (createPayout_rests _ _ _ _ _).discard
  | createBatch now random randoms accountId dto =>
      exact (createBatch_rests _ _ _ _ _).discard
  | createPayoutLink now tokenHash accountId dto =>
      exact (createPayoutLink_rests _ _ _ _).discard
  | confirmPayoutLink times random tokenHash dto beneficiaryName =>
      exact (confirmPayoutLink_rests _ _ _ _ _).discard
  | createWithdrawal now random minPayout accountId dto actorId =>
      exact (createWithdrawal_rests _ _ _ _ _ _).discard
  | runAutoSweep now startOfToday random minPayout dryRun =>
      exact (runAutoSweep_rests _ _ _ _ _).discard
  | sweepNow now random minPayout accountId =>
      exact (sweepNow_rests _ _ _ _).discard
  | settlementAccount call => exact (settlementCall_rests call).discard
  | createAccount now generated dto =>
      exact (createAccount_rests open_ _ _ _).discard
  | initiateCollection now random again accountId dto provider =>
      exact (initiateCollection_rests _ _ _ _ _ _).discard
  | initiateDeposit now random accountId dto provider =>
      exact (initiateDeposit_rests _ _ _ _ _).discard
  | collectionRecord now reference record =>
      exact (applyCollectionUpdate_rests (permitted trivial) _ _ _).discard
  | depositRecord now reference record =>
      exact (applyDepositUpdate_rests (permitted trivial) _ _ _).discard
  | payoutRecord now reference record =>
      exact receiveRecord_rests (permitted trivial) _ _ _
  | poll turn => exact queueTurn_rests (permitted trivial) turn

theorem serviceCall_rests (open_ : kept.Open) {call : ServiceCall}
    (permitted : call.IgnoresFrozen → ignores id) :
    call.program.Rests (standing kept ignores) id [] := by
  cases call with
  | endpoint call => exact endpointCall_rests open_ permitted
  | wallet call => exact walletCall_rests open_ permitted

/-- The calls, none of which has run a statement yet. -/
def inService (world : World) (calls : Id → ServiceCall) :
    Config Id World RowKey Expectation Site AppError Unit :=
  Config.start world fun id => (calls id).program

/-- The threads whose calls may move a frozen wallet. -/
abbrev ignoring (calls : Id → ServiceCall) (id : Id) : Prop :=
  (calls id).IgnoresFrozen

/-- However the calls interleave, fail or stop, the books keep the invariant. -/
theorem service_run (open_ : kept.Open) (world : World)
    (holds : kept.holds (book world)) (calls : Id → ServiceCall)
    (schedule : List (Event Id AppError))
    (expected : (inService world calls).AsExpected kept.assumed schedule) :
    Config.Sound (standing kept (ignoring calls)) (fun _ _ ghost => ghost = [])
      (fun _ _ ghost => ghost = []) ((inService world calls).run schedule) := by
  have sound : Config.Sound (standing kept (ignoring calls))
    (fun _ _ ghost => ghost = [])
      (fun _ _ ghost => ghost = []) (inService world calls) :=
    ⟨fun _ => [], ⟨holds, fun _ _ member => by cases member⟩, fun id =>
      serviceCall_rests open_ fun permitted => permitted⟩
  exact sound.run schedule expected

/-- No call takes back a row of the ledger. -/
theorem ledger_kept (open_ : kept.Open) (world : World)
    (holds : kept.holds (book world)) (calls : Id → ServiceCall)
    (schedule : List (Event Id AppError))
    (expected : (inService world calls).AsExpected kept.assumed schedule) :
    world.ledger <+: ((inService world calls).run schedule).state.ledger := by
  have start := service_run open_ world holds calls [] trivial
  have grows : ∀ id before after,
      (standing kept (ignoring calls)).guarantee id before after →
        before.ledger <+: after.ledger := by
    rintro _ before after ⟨⟨postings, _, _, ledger⟩, _⟩
    exact ⟨_, ledger.symm⟩
  refine Config.Sound.guaranteed ?_ ?_ grows start schedule expected
  · exact fun _ => List.prefix_rfl
  · exact fun first second => first.trans second

end CloudStudio.Payouts
