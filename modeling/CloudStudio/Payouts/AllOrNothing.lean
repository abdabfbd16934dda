import CloudStudio.Payouts.Holds

/-!
# Is creating a payout all or nothing?

The debit, the row and the job are three commits.  A creation is all or nothing
exactly when its debit does not commit, or nothing goes wrong after it: the
reference is on no payout and no debit yet, and neither the insert nor the
enqueue fails.
-/

namespace CloudStudio.Payouts

open CloudStudio.Data CloudStudio.Transactions CloudStudio.Platform
open CloudStudio.Payments
open CloudStudio.Wallets

/-- The four ways a single payout is created. -/
inductive SingleCreation where
  | createPayout (random : List Char) (accountId : AccountId)
      (channel : PayoutChannel) (dto : PayoutDto)
  | createWithdrawal (random : List Char) (minPayout : MinPayout)
      (accountId : AccountId) (dto : WithdrawalDto) (actorId : Option String)
  | sweepLeg (startOfToday : Time) (random : List Char) (minPayout : MinPayout)
      (dryRun : Bool) (account : Account)
  | sweepNow (random : List Char) (minPayout : MinPayout) (accountId : String)

namespace SingleCreation

/-- The call, with the reference of the payout it reports as created. -/
def program (now : Time) : SingleCreation → Db (Option Reference)
  | .createPayout random accountId channel dto => do
      let payout ← Payouts.createPayout now random accountId channel dto
      pure (some payout.reference)
  | .createWithdrawal random minPayout accountId dto actorId => do
      let payout ← Payouts.createWithdrawal now random minPayout
        accountId dto actorId
      pure (some payout.reference)
  | .sweepLeg startOfToday random minPayout dryRun account => do
      let detail ← Payouts.sweepLeg now startOfToday random minPayout dryRun
        account
      pure detail.reference?
  | .sweepNow random minPayout accountId => do
      let payout ← Payouts.sweepNow now random minPayout accountId
      pure (some payout.reference)

/-- What the call does before its debit; a leg may end without a hold. -/
def prepare (now : Time) : SingleCreation → Db (Option Hold)
  | .createPayout random accountId channel dto => do
      let hold ← preparePayout now random accountId channel dto
      pure (some hold)
  | .createWithdrawal random minPayout accountId dto actorId => do
      let hold ← prepareWithdrawal now random minPayout accountId dto actorId
      pure (some hold)
  | .sweepLeg startOfToday random minPayout dryRun account => do
      let prepared ← prepareLeg now startOfToday random minPayout dryRun account
      pure (prepared.elim (fun _ => none) some)
  | .sweepNow random minPayout accountId => do
      let resolved ← resolveAccountId accountId
      match resolved with
      | none => .threw (.missing .notFound "Account not found")
      | some resolved => do
          let hold ← prepareSweepNow now random minPayout resolved
          pure (some hold)

end SingleCreation

/-- The ledger rows that debit a wallet under this reference. -/
def debitsOf (reference : Reference) (ledger : List WalletTransaction) :
    List WalletTransaction :=
  ledger.filter fun row => row.reference = some reference ∧
    (row.amount : Decimal) < 0

/-- One payout, one debit of its amount and fee, and a job that was queued for
it. -/
structure Created (before after : World) (reference : Reference) : Prop where
  row : ∃ payout, after.payouts.find? reference = some payout ∧
    ∃ debit, debitsOf reference after.ledger = [debit] ∧
      debit.walletId = ⟨payout.accountId, payout.sourceWallet⟩ ∧
      (debit.amount : Decimal) = -fullDebit payout
  job : ∃ job, after.jobs = before.jobs ++ [job] ∧
    job.payload = .payoutProcess reference ∧ job.status = .pending

/-- Nothing of a payout is left: wallets, ledger and payouts are as they
were. -/
structure NothingLeft (before after : World) : Prop where
  wallets : after.wallets = before.wallets
  ledger : after.ledger = before.ledger
  payouts : after.payouts = before.payouts

/-- The payout a call reports as created, if it succeeds. -/
def createdReference : Outcome AppError (Option Reference) → Option Reference
  | .returned reference => reference
  | .threw _ => none
  | .stopped => none

/-- The call has created its payout, or it has left nothing. -/
def AllOrNothing (before : World)
    (ended : Outcome AppError (Option Reference) × World) : Prop :=
  match createdReference ended.1 with
  | some reference => Created before ended.2 reference
  | none => NothingLeft before ended.2

/-- The checks pass and the debit commits. -/
def Debits (now : Time) (faults : Site → Option (Fault AppError))
    (world : World) (creation : SingleCreation) (hold : Hold) : Prop :=
  (∃ prepared, (creation.prepare now).exec faults world =
    (.returned (some hold), prepared)) ∧ MoveGoes faults hold.debit world

/-- Nothing goes wrong after the debit. -/
structure Queues (faults : Site → Option (Fault AppError)) (world : World)
    (hold : Hold) :
    Prop where
  fresh : world.payouts.find? hold.payout.reference = none
  undebited : debitsOf hold.payout.reference world.ledger = []
  creates : faults "payout.create" = none
  enqueues : faults "payout.enqueue" = none

/-! ## After the debit -/

/-- The ledger row of a hold's debit takes the full debit from the wallet of the
payout. -/
theorem debit_row (now : Time) {hold : Hold} {world : World} {wallet : Wallet}
    {amount : Decimal} (fits : hold.FitsIn world)
    (allowed : MoveAllowed hold.debit world wallet amount) :
    let row := moveRow now hold.debit wallet amount wallet.balance
    row.reference = some hold.payout.reference ∧
      row.walletId = ⟨hold.payout.accountId, hold.payout.sourceWallet⟩ ∧
      (row.amount : Decimal) = -fullDebit hold.payout ∧
        (row.amount : Decimal) < 0 := by
  obtain ⟨fits, account, found⟩ := fits
  have value : amount = fullDebit hold.payout := by
    have same := allowed.value
    rw [fits.amount] at same
    exact (NumberInput.value.inj same).symm
  subst value
  have debit : isDebit hold.debit.txType (fullDebit hold.payout) = true := by
    rcases fits.debits with payout | withdrawal
    · simp [isDebit, payout]
    · simp [isDebit, withdrawal]
  have signed :
      ((moveRow now hold.debit wallet (fullDebit hold.payout)
        wallet.balance).amount : Decimal) =
        -fullDebit hold.payout := by
    simp only [moveRow, debit, if_true, abs_of_nonneg fits.nonneg]
    exact Money.coe_round_of_hasPlaces fits.cents.neg
  have positive : 0 < fullDebit hold.payout :=
    lt_of_le_of_ne fits.nonneg (Ne.symm allowed.nonzero)
  refine ⟨fits.reference, ?_, signed, ?_⟩
  · rw [← fits.account, ← fits.wallet]
    apply allowed.wallet_key
    rw [fits.account]
    exact found
  · rw [signed]
    linarith

/-- The job of a payout. -/
def payoutJob (now : Time) (reference : Reference) : Job where
  payload := .payoutProcess reference
  maxAttempts := 5
  runAt := now

/-- The state a creation leaves when nothing fails. -/
def queued (now : Time) (hold : Hold) (row : WalletTransaction)
    (world : World) : World :=
  { world.record row with
    payouts := world.payouts.insert hold.payout
    jobs := world.jobs ++ [payoutJob now hold.payout.reference] }

/-- The debit does not go: the state is as it was. -/
theorem exec_holdAndQueue_stuck (now : Time) {hold : Hold}
    {faults : Site → Option (Fault AppError)} {world : World}
    (stuck : ¬ MoveGoes faults hold.debit world) :
    ∃ outcome, (holdAndQueue now hold).exec faults world = (outcome, world) ∧
      ∀ payout, outcome ≠ .returned payout := by
  rcases exec_move now hold.debit faults world with
    ⟨wallet, amount, allowed, clear, _⟩ | ⟨_, outcome, ran, fails⟩
  · exact (stuck ⟨wallet, amount, allowed, clear⟩).elim
  · unfold holdAndQueue
    rw [Program.exec_bind, ran]
    cases outcome with
    | returned row => exact (fails row rfl).elim
    | threw error => exact ⟨.threw error, rfl, fun _ same => by cases same⟩
    | stopped => exact ⟨.stopped, rfl, fun _ same => by cases same⟩

/-- A create in front of others: it fails, or the row is in the table for the
rest. -/
theorem exec_create_bind {Row Key Result : Type} {key : Row → Key}
    [DecidableEq Key] (relation : Relation key) (site : Site) (row : Row)
    (rest : Row → Db Result) (faults : Site → Option (Fault AppError))
    (world : World) :
    (Program.perform (relation.create site row) >>= rest).exec faults world =
      match faults site with
      | some (.throws error) => (.threw error, world)
      | some .stops => (.stopped, world)
      | none =>
          if (relation.table world).find? (key row) = none then
            (rest row).exec faults
              (relation.put ((relation.table world).insert row) world)
          else (.threw .uniqueViolation, world) := by
  rw [Program.exec_perform_bind]
  have answers : (relation.create site row).answer world =
      if (relation.table world).find? (key row) = none then .ok row
      else .error .uniqueViolation := by
    by_cases fresh : (relation.table world).find? (key row) = none <;>
      simp [Relation.create, fresh, Option.isSome_iff_ne_none]
  have label : (relation.create site row).label = site := rfl
  simp only [answers, label]
  rcases faults site with _ | _ | _
  · by_cases fresh : (relation.table world).find? (key row) = none
    · simp only [if_pos fresh]
      rfl
    · simp only [if_neg fresh]
  · rfl
  · rfl

/-- The row and the job of a payout, once it is debited: the ledger stays, and
the call returns exactly when the reference is free and neither statement
fails. -/
theorem exec_queue (now : Time) (payout : Payout)
    (faults : Site → Option (Fault AppError)) (world : World) :
    let program : Db Payout := do
      let payout ← Program.perform (payouts.create "payout.create" payout)
      let _ ← enqueue "payout.enqueue" now (.payoutProcess payout.reference)
      pure payout
    ((world.payouts.find? payout.reference = none ∧
      faults "payout.create" = none ∧
        faults "payout.enqueue" = none) ∧
      program.exec faults world = (.returned payout,
        { world with
          payouts := world.payouts.insert payout
          jobs := world.jobs ++ [payoutJob now payout.reference] })) ∨
    (¬ (world.payouts.find? payout.reference = none ∧
      faults "payout.create" = none ∧
        faults "payout.enqueue" = none) ∧
      ∃ outcome after, program.exec faults world = (outcome, after) ∧
        (∀ payout, outcome ≠ .returned payout) ∧
          after.ledger = world.ledger) := by
  intro program
  have threw (error : AppError) (after : World)
    (same : after.ledger = world.ledger) :
      ∃ outcome left,
        ((.threw error, after) : Outcome AppError Payout × World) =
        (outcome, left) ∧ (∀ payout, outcome ≠ .returned payout) ∧
          left.ledger = world.ledger := by
    exact ⟨.threw error, after, rfl, (fun _ same => by cases same), same⟩
  have stopped (after : World) (same : after.ledger = world.ledger) :
      ∃ outcome left, ((.stopped, after) : Outcome AppError Payout × World) =
        (outcome, left) ∧ (∀ payout, outcome ≠ .returned payout) ∧
          left.ledger = world.ledger := by
    exact ⟨.stopped, after, rfl, (fun _ same => by cases same), same⟩
  have ran : program.exec faults world = _ :=
    exec_create_bind _ _ _ _ faults world
  rw [ran]
  rcases faults "payout.create" with _ | fault
  swap
  · refine .inr ⟨fun met => (Option.some_ne_none _ met.2.1).elim, ?_⟩
    cases fault with
    | throws error => exact threw error world rfl
    | stops => exact stopped world rfl
  by_cases fresh : world.payouts.find? payout.reference = none
  swap
  · refine .inr ⟨fun met => fresh met.1, ?_⟩
    have taken : ¬ (payouts.table world).find? payout.reference = none := fresh
    simp only [if_neg taken]
    exact threw _ world rfl
  · have free : (payouts.table world).find? payout.reference = none := fresh
    simp only [if_pos free, enqueue, Program.exec_perform_bind, createJob]
    rcases faults "payout.enqueue" with _ | fault
    · exact .inl ⟨⟨fresh, trivial, rfl⟩, rfl⟩
    · refine .inr ⟨fun met => (Option.some_ne_none _ met.2.2).elim, ?_⟩
      cases fault with
      | throws error => exact threw error _ rfl
      | stops => exact stopped _ rfl

/-- What a debit and its row, then a payout and its job, leave is what a
creation is. -/
theorem created_of_queued (now : Time) {hold : Hold} {world : World}
    {wallet : Wallet} {amount : Decimal} (fits : hold.FitsIn world)
    (allowed : MoveAllowed hold.debit world wallet amount)
    (fresh : world.payouts.find? hold.payout.reference = none)
    (undebited : debitsOf hold.payout.reference world.ledger = []) :
    Created world
      (queued now hold (moveRow now hold.debit wallet amount wallet.balance)
        world) hold.payout.reference := by
  obtain ⟨reference, walletId, signed, negative⟩ := debit_row now fits allowed
  constructor
  · refine ⟨hold.payout, ?_,
      moveRow now hold.debit wallet amount wallet.balance, ?_, walletId, signed⟩
    · change (world.payouts.insert hold.payout).find? hold.payout.reference = _
      rw [Table.find?_insert, fresh, if_pos rfl, Option.none_or]
    · change debitsOf _ (world.ledger ++ [_]) = _
      unfold debitsOf at undebited ⊢
      rw [List.filter_append, undebited, List.nil_append]
      simp [reference, negative]
  · exact ⟨payoutJob now hold.payout.reference, rfl, rfl, rfl⟩

/-- A debit that is in the ledger twice is not the debit of one creation. -/
theorem not_created_of_debited {hold : Hold} {world after : World}
    {row : WalletTransaction}
    (reference : row.reference = some hold.payout.reference)
    (negative : (row.amount : Decimal) < 0)
    (ledger : after.ledger = world.ledger ++ [row])
    (debited : debitsOf hold.payout.reference world.ledger ≠ []) :
    ¬ Created world after hold.payout.reference := by
  rintro ⟨⟨payout, _, debit, single, _⟩, _⟩
  unfold debitsOf at single debited
  rw [ledger, List.filter_append] at single
  have last :
    [row].filter (fun row => row.reference = some hold.payout.reference ∧
      (row.amount : Decimal) < 0) = [row] := by
    simp [reference, negative]
  rw [last] at single
  have lengths := congrArg List.length single
  simp only [List.length_append, List.length_cons, List.length_nil] at lengths
  exact debited (List.length_eq_zero_iff.mp (by omega))

namespace SingleCreation

/-- What the four ways share: the checks, then the debit, the row and the
job. -/
def core (now : Time) (creation : SingleCreation) : Db (Option Reference) := do
  let prepared ← creation.prepare now
  match prepared with
  | none => pure none
  | some hold => do
      let payout ← holdAndQueue now hold
      pure (some payout.reference)

/-- Each way does what they share: it reports the same creation and leaves the
same state.  A leg reports a failure instead of throwing. -/
theorem exec_program (now : Time) (creation : SingleCreation)
    (faults : Site → Option (Fault AppError)) (world : World) :
    createdReference ((creation.program now).exec faults world).1 =
        createdReference ((creation.core now).exec faults world).1 ∧
      ((creation.program now).exec faults world).2 =
        ((creation.core now).exec faults world).2 := by
  cases creation with
  | createPayout random accountId channel dto =>
      simp only [program, core, prepare, Payouts.createPayout,
        Program.exec_bind]
      rcases (preparePayout now random accountId channel dto).exec
        faults world with
        ⟨hold | error | _, after⟩
      · simp only [Program.pure_eq, Program.exec, Program.exec_bind, and_self]
      · exact ⟨rfl, rfl⟩
      · exact ⟨rfl, rfl⟩
  | createWithdrawal random minPayout accountId dto actorId =>
      simp only [program, core, prepare, Payouts.createWithdrawal,
        Program.exec_bind]
      rcases (prepareWithdrawal now random minPayout accountId dto actorId).exec
        faults world with ⟨hold | error | _, after⟩
      · simp only [Program.pure_eq, Program.exec, Program.exec_bind, and_self]
      · exact ⟨rfl, rfl⟩
      · exact ⟨rfl, rfl⟩
  | sweepLeg startOfToday random minPayout dryRun account =>
      have ends :=
        prepareLeg_holds now startOfToday random minPayout dryRun account faults
        world rfl
      simp only [program, core, prepare, Payouts.sweepLeg, Program.exec_bind,
        Program.exec_catching]
      generalize
        (prepareLeg now startOfToday random minPayout dryRun account).exec
        faults world
        = ended at ends ⊢
      rcases ended with ⟨(detail | hold) | error | _, after⟩
      · exact ⟨ends.2.1, rfl⟩
      · simp only [finishLeg, Program.pure_eq, Program.exec, Program.exec_bind,
          Sum.elim_inr]
        rcases (holdAndQueue now hold).exec faults after with ⟨_ | _ | _, left⟩
          <;>
          exact ⟨rfl, rfl⟩
      · exact ⟨rfl, rfl⟩
      · exact ⟨rfl, rfl⟩
  | sweepNow random minPayout accountId =>
      simp only [program, core, prepare, Payouts.sweepNow, Program.exec_bind]
      rcases (resolveAccountId accountId).exec faults world with
        ⟨(_ | resolved) | error | _, found⟩
      · exact ⟨rfl, rfl⟩
      · simp only [Program.exec_bind]
        rcases (prepareSweepNow now random minPayout resolved).exec
          faults found with
          ⟨hold | error | _, after⟩
        · simp only [Program.pure_eq, Program.exec, Program.exec_bind, and_self]
        · exact ⟨rfl, rfl⟩
        · exact ⟨rfl, rfl⟩
      · exact ⟨rfl, rfl⟩
      · exact ⟨rfl, rfl⟩

/-- The checks come to a hold that fits, or to nothing, and prepare at most a
fee. -/
theorem prepare_holds (now : Time) (creation : SingleCreation) (world : World) :
    (creation.prepare now).Holds (· = world)
      (fun prepared after => Prepared world after ∧ ∀ hold ∈ prepared,
        hold.FitsIn world) (Prepared world) := by
  have given {program : Db Hold}
      (holds : program.Holds (· = world)
        (fun hold after => Prepared world after ∧ hold.FitsIn world)
          (Prepared world)) :
      (program >>= fun hold => pure (some hold)).Holds (· = world)
        (fun prepared after => Prepared world after ∧ ∀ hold ∈ prepared,
          hold.FitsIn world)
        (Prepared world) := by
    apply holds.bind
    intro hold
    apply Program.Holds.returned
    rintro state ⟨prepared, fits⟩
    exact ⟨prepared, fun other same => Option.some.inj same ▸ fits⟩
  cases creation with
  | createPayout random accountId channel dto =>
      exact given (preparePayout_holds now random accountId channel dto)
  | createWithdrawal random minPayout accountId dto actorId =>
      exact given
        (prepareWithdrawal_holds now random minPayout accountId dto actorId)
  | sweepLeg startOfToday random minPayout dryRun account =>
      apply (prepareLeg_holds now startOfToday random minPayout
        dryRun account).bind
      intro prepared
      apply Program.Holds.returned
      rintro state ⟨fresh, fits, _⟩
      cases prepared with
      | inl detail =>
          exact ⟨fresh, fun hold same =>
          (Option.some_ne_none hold same.symm).elim⟩
      | inr hold => exact ⟨fresh, fun other same => Option.some.inj same ▸ fits⟩
  | sweepNow random minPayout accountId =>
      apply (readOnly_holds (resolveAccountId_readOnly accountId)).bind
      intro resolved
      cases resolved with
      | none =>
          apply Program.Holds.threw
          rintro state rfl
          exact .refl state
      | some resolved =>
          apply given
          exact (prepareSweepNow_holds now random minPayout resolved).mono
            (fun _ same => same)
            (fun _ _ fits => ⟨fits.1, fits.2.1⟩) fun _ prepared => prepared

end SingleCreation

theorem Prepared.nothingLeft {before after : World}
    (prepared : Prepared before after) : NothingLeft before after := by
  obtain ⟨feeConfigs, rfl⟩ := prepared
  exact ⟨rfl, rfl, rfl⟩

theorem Prepared.moveGoes_iff {before after : World}
    (prepared : Prepared before after) (faults : Site → Option (Fault AppError))
    (input : MoveInput) :
    MoveGoes faults input after ↔ MoveGoes faults input before := by
  obtain ⟨feeConfigs, rfl⟩ := prepared
  exact moveGoes_congr rfl rfl

/-- A held payout is all or nothing when its debit does not commit, or nothing
goes wrong after it. -/
theorem allOrNothing_hold_iff (now : Time) {hold : Hold}
    {faults : Site → Option (Fault AppError)} {world prepared : World}
    (fits : hold.FitsIn world) (sound : Prepared world prepared) :
    (match (holdAndQueue now hold).exec faults prepared with
      | (.returned payout, after) => Created world after payout.reference
      | (_, after) => NothingLeft world after) ↔
      (MoveGoes faults hold.debit world → Queues faults world hold) := by
  rw [← sound.moveGoes_iff faults hold.debit]
  obtain ⟨feeConfigs, rfl⟩ := sound
  have fitsNow : hold.FitsIn { world with feeConfigs } := fits
  rcases exec_move now hold.debit faults { world with feeConfigs } with
    ⟨wallet, amount, allowed, clear, ran⟩ | ⟨stuck, _⟩
  swap
  · obtain ⟨outcome, ran, fails⟩ := exec_holdAndQueue_stuck now stuck
    rw [ran]
    apply iff_of_true ?_ fun goes => (stuck goes).elim
    cases outcome with
    | returned payout => exact (fails payout rfl).elim
    | threw error => exact ⟨rfl, rfl, rfl⟩
    | stopped => exact ⟨rfl, rfl, rfl⟩
  have goes : MoveGoes faults hold.debit { world with feeConfigs } :=
    ⟨wallet, amount, allowed, clear⟩
  obtain ⟨reference, walletId, signed, negative⟩ :=
    debit_row now fitsNow allowed
  unfold holdAndQueue
  rw [Program.exec_bind, ran]
  rcases exec_queue now hold.payout faults
      (({ world with feeConfigs } : World).record
        (moveRow now hold.debit wallet amount wallet.balance)) with
    ⟨⟨fresh, creates, enqueues⟩, queues⟩ | ⟨unmet, outcome, after, fails,
      unreturned, ledger⟩
  · dsimp only
    rw [queues]
    constructor
    · intro created _
      refine ⟨fresh, ?_, creates, enqueues⟩
      by_contra debited
      exact not_created_of_debited reference negative rfl debited created
    · intro met
      have created :=
        created_of_queued now fitsNow allowed fresh (met goes).undebited
      exact ⟨created.row, created.job⟩
  · dsimp only
    rw [fails]
    have unQueued : ¬ Queues faults world hold := fun met =>
      unmet ⟨met.fresh, met.creates, met.enqueues⟩
    apply iff_of_false ?_ fun met => unQueued (met goes)
    have longer : ¬ NothingLeft world after := by
      intro nothing
      have lengths := congrArg List.length (ledger.symm.trans nothing.ledger)
      simp [World.record] at lengths
    cases outcome with
    | returned payout => exact (unreturned payout rfl).elim
    | threw error => exact longer
    | stopped => exact longer

/-- Whether a creation is all or nothing. -/
theorem allOrNothing_iff (now : Time) (creation : SingleCreation)
    (faults : Site → Option (Fault AppError)) (world : World) :
    AllOrNothing world ((creation.program now).exec faults world) ↔
      ∀ hold, Debits now faults world creation hold →
        Queues faults world hold := by
  have ends := creation.prepare_holds now world faults world rfl
  obtain ⟨reported, left⟩ := creation.exec_program now faults world
  unfold AllOrNothing Debits
  rw [reported, left]
  unfold SingleCreation.core
  rw [Program.exec_bind]
  generalize (creation.prepare now).exec faults world = ended at ends ⊢
  rcases ended with ⟨(_ | hold) | error | _, prepared⟩
  · exact iff_of_true ends.1.nothingLeft
      (by rintro hold ⟨⟨_, same⟩, _⟩; cases same)
  · obtain ⟨sound, fits⟩ := ends
    have fit : hold.FitsIn world := fits hold rfl
    dsimp only
    rw [Program.exec_bind]
    have single : (∀ other, ((∃ left, (Outcome.returned (some hold), prepared) =
        ((.returned (some other), left) :
          Outcome AppError (Option Hold) × World)) ∧
          MoveGoes faults other.debit world) → Queues faults world other) ↔
        (MoveGoes faults hold.debit world → Queues faults world hold) := by
      constructor
      · exact fun met goes => met hold ⟨⟨prepared, rfl⟩, goes⟩
      · rintro met other ⟨⟨left, same⟩, goes⟩
        cases same
        exact met goes
    rw [single, ← allOrNothing_hold_iff now fit sound]
    rcases (holdAndQueue now hold).exec faults prepared with ⟨_ | _ | _, after⟩
      <;> exact .rfl
  · exact iff_of_true ends.nothingLeft
      (by rintro hold ⟨⟨_, same⟩, _⟩; cases same)
  · exact iff_of_true ends.nothingLeft
      (by rintro hold ⟨⟨_, same⟩, _⟩; cases same)

/-- An account with 100000 to pay out, one payout of which had no client
reference. -/
def paidOnceWorld : World where
  accounts :=
    Table.empty.insert { id := "a", accountId := "ACC-1"
                         sourceCode := "AAAAA" }
  wallets := Table.empty.insert { key := ⟨"a", .disbursement⟩, balance := Money.round 100000 }
  payouts := Table.empty.insert
    { accountId := "a", channel := .mobileMoney
      reference := "AAAAA000000000000001"
      amount := Money.round 1000, status := .success, createdAt :=
        1, updatedAt := 1 }

/-- A payout whose client reference completes to the reference of that one. -/
def collidingPayout : SingleCreation :=
  .createPayout [] "a" .mobileMoney
    { amount := Amount.shillings 5000, reference := some "000000000000001"
      phoneNumber := some "255712345678" }

/-- The payout is refused after its debit: the money is gone, and no row says
so. -/
theorem debited_without_payout :
    ¬ AllOrNothing paidOnceWorld
        ((collidingPayout.program 2).exec (fun _ => none) paidOnceWorld) ∧
      ((collidingPayout.program 2).exec (fun _ => none) paidOnceWorld).1 =
        .threw .uniqueViolation ∧
      (((collidingPayout.program 2).exec (fun _ => none)
        paidOnceWorld).2.ledger.map
        fun row => row.amount) = [Money.round (-5100)] := by
  have threw : ((collidingPayout.program 2).exec (fun _ => none) paidOnceWorld).1 =
      .threw .uniqueViolation := by
    decide +kernel
  have ledger : (((collidingPayout.program 2).exec (fun _ => none) paidOnceWorld).2.ledger.map
      fun row => row.amount) = [Money.round (-5100)] := by
    decide +kernel
  refine ⟨fun nothing => ?_, threw, ledger⟩
  unfold AllOrNothing at nothing
  rw [threw] at nothing
  have same : _ = paidOnceWorld.ledger := nothing.ledger
  rw [same] at ledger
  revert ledger
  decide +kernel

end CloudStudio.Payouts
