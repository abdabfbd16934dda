import CloudStudio.Payouts.Plans
import CloudStudio.Transactions.Agreement

/-!
# The legs of a sweep are independent

A leg reads and writes what belongs to its account.  In two states that agree on
that, it ends alike; and it leaves what belongs to any other account as it was.
So in a sweep of many accounts each leg does what it does in a sweep of its
account alone.
-/

namespace CloudStudio.Payouts

open CloudStudio.Data CloudStudio.Transactions CloudStudio.Platform
open CloudStudio.Payments
open CloudStudio.Wallets

/-- The states agree on an account that exists: on its wallets, ledger rows,
payouts and fee schedule, on the payouts under its references, and on all
accounts and settlement accounts. -/
structure SameFor (account : Account) (first second : World) : Prop where
  present : ∃ row, first.accounts.find? account.id = some row
  accounts : second.accounts = first.accounts
  settlementAccounts : second.settlementAccounts = first.settlementAccounts
  wallets : ∀ type, second.wallets.find? ⟨account.id, type⟩ =
    first.wallets.find? ⟨account.id, type⟩
  ledger :
    second.ledger.filter (fun row => row.walletId.accountId = account.id) =
    first.ledger.filter fun row => row.walletId.accountId = account.id
  payouts : second.payouts.rows.filter (fun row => row.accountId = account.id) =
    first.payouts.rows.filter fun row => row.accountId = account.id
  references : ∀ random reference,
    buildReference random account.sourceCode none = .ok reference →
      second.payouts.find? reference = first.payouts.find? reference
  feeConfig : second.feeConfigs.find? account.id =
    first.feeConfigs.find? account.id

variable {account : Account}

theorem SameFor.refl {world : World}
    (present : ∃ row, world.accounts.find? account.id = some row) :
    SameFor account world world where
  present := present
  accounts := rfl
  settlementAccounts := rfl
  wallets := fun _ => rfl
  ledger := rfl
  payouts := rfl
  references := fun _ _ _ => rfl
  feeConfig := rfl

theorem SameFor.symm {first second : World}
    (same : SameFor account first second) :
    SameFor account second first where
  present := by
    rw [same.accounts]
    exact same.present
  accounts := same.accounts.symm
  settlementAccounts := same.settlementAccounts.symm
  wallets := fun type => (same.wallets type).symm
  ledger := same.ledger.symm
  payouts := same.payouts.symm
  references := fun random reference built =>
    (same.references random reference built).symm
  feeConfig := same.feeConfig.symm

theorem SameFor.trans {first second third : World}
    (left : SameFor account first second)
    (right : SameFor account second third) : SameFor account first third where
  present := left.present
  accounts := right.accounts.trans left.accounts
  settlementAccounts := right.settlementAccounts.trans left.settlementAccounts
  wallets := fun type => (right.wallets type).trans (left.wallets type)
  ledger := right.ledger.trans left.ledger
  payouts := right.payouts.trans left.payouts
  references := fun random reference built =>
    (right.references random reference built).trans
      (left.references random reference built)
  feeConfig := right.feeConfig.trans left.feeConfig

/-! ## A leg ends alike -/

section

variable {first second : World}

/-- The same change of the wallets, of those of the account in the same way. -/
theorem SameFor.withWallets (same : SameFor account first second) {key : WalletKey}
    {change : Wallet → Wallet} {keeps : ∀ row, (change row).key = row.key} :
    SameFor account { first with wallets := first.wallets.modify key change keeps }
      { second with wallets := second.wallets.modify key change keeps } :=
  { same with
    wallets := by
      intro type
      simp only [Table.find?_modify, same.wallets type] }

theorem SameFor.withRow (same : SameFor account first second)
    (row : WalletTransaction) :
    SameFor account { first with ledger := first.ledger ++ [row] }
      { second with ledger := second.ledger ++ [row] } :=
  { same with
    ledger := by
      simp only [List.filter_append, same.ledger] }

theorem SameFor.withPayout (same : SameFor account first second)
    {payout : Payout} (fresh : first.payouts.find? payout.reference = none)
    (alsoFresh : second.payouts.find? payout.reference = none) :
    SameFor account { first with payouts := first.payouts.insert payout }
      { second with payouts := second.payouts.insert payout } :=
  { same with
    payouts := by
      simp only [Table.rows_insert fresh, Table.rows_insert alsoFresh,
        List.filter_append, same.payouts]
    references := by
      intro random reference built
      simp only [Table.find?_insert, same.references random reference built] }

theorem SameFor.withFees (same : SameFor account first second)
    (config : FeeConfig) :
    SameFor account { first with feeConfigs := first.feeConfigs.insert config }
      { second with feeConfigs := second.feeConfigs.insert config } :=
  { same with
    feeConfig := by
      simp only [Table.find?_insert, same.feeConfig] }

theorem SameFor.withJobs (same : SameFor account first second)
    (jobs others : List Job) :
    SameFor account { first with jobs } { second with jobs := others } :=
  { same with }

end

/-- A read of something the states agree on. -/
theorem select_agrees {Answer : Type} {site : Site} {view : World → Answer}
    {post : Answer → Prop}
    (same : ∀ first second, SameFor account first second →
      view first = view second)
    (good : ∀ first second, SameFor account first second → post (view first)) :
    (select site view).Agrees (SameFor account) post := by
  apply Query.Agrees.read (fun _ => rfl)
  · intro first second related
    exact congrArg Except.ok (same first second related)
  · intro first second answer related answered
    cases answered
    exact good first second related

theorem resolve_agrees :
    (resolveAccountId account.id).Agrees (SameFor account)
      (fun resolved => resolved.getD account.id = account.id) := by
  unfold resolveAccountId
  split
  · exact .returned rfl
  have lookup : (select "account.findUnique(id)" fun world =>
      world.accounts.find? account.id).Agrees (SameFor account)
      (fun byId => ∃ row, byId = some row ∧ row.id = account.id) := by
    apply select_agrees
    · intro first second same
      rw [same.accounts]
    · intro first second same
      obtain ⟨row, found⟩ := same.present
      exact ⟨row, found, Table.key_of_find? found⟩
  apply (Program.Agrees.perform lookup).bind
  rintro _ ⟨row, rfl, key⟩
  exact .returned key

theorem findWallet_agrees (site : Site) (type : WalletType) :
    (Platform.wallets.findUnique site ⟨account.id, type⟩).Agrees
      (SameFor account)
      (fun wallet => ∀ row ∈ wallet, row.key = ⟨account.id, type⟩) := by
  apply select_agrees
  · exact fun first second same => (same.wallets type).symm
  · intro first second same row found
    exact Table.key_of_find? found

theorem getWallet_agrees (type : WalletType) :
    (getWallet account.id type).Agrees (SameFor account)
      (fun wallet => wallet.key = ⟨account.id, type⟩) := by
  apply resolve_agrees.bind
  intro resolved key
  rw [key]
  apply (Program.Agrees.perform (findWallet_agrees _ type)).bind
  intro wallet keyed
  cases wallet with
  | none => exact .threw _
  | some wallet => exact .returned (keyed wallet rfl)

theorem createLedgerRow_agrees (site : Site) (row : WalletTransaction) :
    (createLedgerRow site row).Agrees (SameFor account) fun _ => True := by
  intro first second same
  exact ⟨rfl, fun answer _ => ⟨same.withRow row, trivial⟩⟩

theorem decrementBalance_agrees (site : Site) (type : WalletType) (delta : Decimal)
    (read : Wallet) (ignoreFrozen : Bool) :
    (restingOn read ignoreFrozen (decrementBalance site ⟨account.id, type⟩ delta)).Agrees
      (SameFor account) fun _ => True := by
  intro first second same
  have wallets := same.wallets type
  simp only [restingOn, decrementBalance, wallets]
  refine ⟨trivial, ?_⟩
  intro answer _
  refine ⟨?_, trivial⟩
  cases first.wallets.find? ⟨account.id, type⟩ with
  | none => exact same
  | some row =>
      dsimp only
      split
      · exact same.withWallets
      · exact same

theorem incrementBalance_agrees (site : Site) (type : WalletType)
    (delta : Decimal) (read : Wallet) (ignoreFrozen : Bool) :
    (restingOn read ignoreFrozen
      (incrementBalance site ⟨account.id, type⟩ delta)).Agrees
      (SameFor account) fun _ => True := by
  intro first second same
  have wallets := same.wallets type
  constructor
  · simp only [restingOn, incrementBalance, Relation.update, Platform.wallets, wallets]
  · intro answer _
    exact ⟨same.withWallets, trivial⟩

theorem moveTransaction_agrees (now : Time) (input : MoveInput)
    {wallet : Wallet} (amount : Decimal)
    (key : wallet.key = ⟨account.id, input.type⟩) :
    (moveTransaction now input wallet amount).Agrees (SameFor account)
      fun _ => True := by
  have row_agrees (row : WalletTransaction) :
      (Body.perform (createLedgerRow "move.ledger" row) :
        Tx WalletTransaction).Agrees (SameFor account) fun _ => True :=
    .query (createLedgerRow_agrees _ row) (fun _ _ => .returned trivial)
      fun error => .threw error
  unfold moveTransaction
  rw [key, Body.bind_perform]
  apply Body.Agrees.query (findWallet_agrees _ input.type)
  · intro current _
    cases current with
    | none => exact .threw _
    | some current =>
        dsimp only
        split
        · exact .threw _
        split
        · exact .threw _
        split
        · apply Body.Agrees.query (decrementBalance_agrees _ _ _ _ _)
          · intro count _
            change Body.Agrees _ (if count = 0 then _ else _) _
            split
            · exact .threw _
            · exact row_agrees _
          · exact fun error => .threw error
        · apply Body.Agrees.query (incrementBalance_agrees _ _ _ _ _)
          · exact fun _ _ => row_agrees _
          · exact fun error => .threw error
  · exact fun error => .threw error

theorem move_agrees (now : Time) (input : MoveInput)
    (own : input.accountId = account.id) :
    (move now input).Agrees (SameFor account) fun _ => True := by
  unfold move
  split
  · exact .threw _
  · exact .threw _
  split
  · exact .threw _
  rw [own]
  apply (getWallet_agrees input.type).bind
  intro wallet key
  split
  · exact .threw _
  · exact .atomically (moveTransaction_agrees now input _ key)

theorem getConfig_agrees :
    (getConfig account.id).Agrees (SameFor account) fun _ => True := by
  have find (site : Site) :
      (feeConfigs.findUnique site account.id).Agrees (SameFor account)
        fun _ => True :=
    select_agrees (fun _ _ same => same.feeConfig.symm) fun _ _ _ => trivial
  apply (Program.Agrees.perform (find "feeConfig.find")).bind
  intro existing _
  cases existing with
  | some config => exact .returned trivial
  | none =>
      apply Program.Agrees.catching
      · apply Program.Agrees.perform
        intro first second same
        have config := same.feeConfig
        constructor
        · simp only [Relation.create, feeConfigs, config]
          rfl
        · exact fun answer _ => ⟨same.withFees _, trivial⟩
      · intro _
        apply (Program.Agrees.perform (find "feeConfig.reread")).bind
        intro row _
        cases row with
        | some config => exact .returned trivial
        | none => exact .threw _

theorem computeFee_agrees (kind : FeeKind) (amount : NumberInput) :
    (computeFee kind account.id amount).Agrees (SameFor account)
      fun _ => True := by
  apply getConfig_agrees.bind
  intro config _
  cases amount with
  | value value => exact .returned trivial
  | nonFinite => exact .threw _
  | malformed => exact .threw _

theorem defaultSettlement_agrees :
    (getDefaultSettlementAccount account.id).Agrees (SameFor account)
      fun _ => True := by
  have lookup : (select "settlement.account" fun world =>
      world.accounts.find? account.id).Agrees (SameFor account) fun _ => True :=
    select_agrees (fun _ _ same => by rw [same.accounts]) fun _ _ _ => trivial
  apply (Program.Agrees.perform lookup).bind
  intro found _
  cases found with
  | none => exact .threw _
  | some row =>
      apply Program.Agrees.perform
      apply Query.Agrees.read (fun _ => rfl)
      · intro first second same
        have sorted : defaultSettlement first account.id =
          defaultSettlement second account.id := by
          unfold defaultSettlement
          rw [same.settlementAccounts]
        exact congrArg Except.ok sorted
      · exact fun _ _ _ _ _ => trivial

theorem readBalance_agrees :
    (readBalance account.id).Agrees (SameFor account) fun _ => True := by
  apply (Program.Agrees.perform (findWallet_agrees _ .collection)).bind
  exact fun _ _ => .returned trivial

/-- Whether an account was swept shows in its own payouts. -/
theorem sweptSince_eq (startOfToday : Time) (accountId : AccountId)
    (world : World) :
    sweptSince startOfToday accountId world =
      (world.payouts.rows.filter fun row => row.accountId = accountId).any
        fun row =>
        row.payoutKind = .autoSweep ∧ startOfToday ≤ row.createdAt ∧
          row.status ≠ .failed := by
  unfold sweptSince
  rw [List.any_filter]
  congr 1
  funext row
  by_cases own : row.accountId = accountId <;> simp [own]

/-- What a prepared leg holds belongs to the account. -/
def OwnHold (account : Account) (hold : Hold) : Prop :=
  hold.debit.accountId = account.id ∧ ∃ random,
    buildReference random account.sourceCode none = .ok hold.payout.reference

theorem prepareSweep_agrees (now : Time) (random : List Char)
    (minPayout : MinPayout) (dryRun : Bool) (settlement : SettlementAccount)
    (balance : Money) :
    (prepareSweep now random minPayout dryRun account settlement balance).Agrees
      (SameFor account) (fun prepared => ∀ hold, prepared = .inr hold →
        OwnHold account hold) := by
  apply (computeFee_agrees .disbursement _).bind
  intro fee _
  dsimp only
  split
  · apply Program.Agrees.returned
    intro hold same
    cases same
  cases built : buildReference random account.sourceCode none with
  | error error => exact .threw _
  | ok reference =>
      dsimp only
      split
      · apply Program.Agrees.returned
        intro hold same
        cases same
      · apply Program.Agrees.returned
        intro hold same
        cases same
        exact ⟨rfl, random, built⟩

theorem prepareLeg_agrees (now startOfToday : Time) (random : List Char)
    (minPayout : MinPayout) (dryRun : Bool) :
    (prepareLeg now startOfToday random minPayout dryRun account).Agrees
      (SameFor account)
      (fun prepared => ∀ hold, prepared = .inr hold →
        OwnHold account hold) := by
  have skips (reason : String) :
      (Program.returned (.inl (.skipped reason)) :
        Db (SweepDetail ⊕ Hold)).Agrees
        (SameFor account) (fun prepared => ∀ hold, prepared = .inr hold →
          OwnHold account hold) := by
    apply Program.Agrees.returned
    intro hold same
    cases same
  apply defaultSettlement_agrees.bind
  intro settlement _
  cases settlement with
  | none => exact skips _
  | some settlement =>
      apply readBalance_agrees.bind
      intro balance _
      split
      · exact skips _
      have swept :
        (select "sweep.findFirst" (sweptSince startOfToday account.id)).Agrees
          (SameFor account) fun _ => True := by
        apply select_agrees
        · intro first second same
          rw [sweptSince_eq, sweptSince_eq, same.payouts]
        · exact fun _ _ _ => trivial
      apply (Program.Agrees.perform swept).bind
      intro alreadySwept _
      split
      · exact skips _
      · exact prepareSweep_agrees now random minPayout dryRun settlement balance

theorem holdAndQueue_agrees (now : Time) {hold : Hold}
    (own : OwnHold account hold) :
    (holdAndQueue now hold).Agrees (SameFor account) fun _ => True := by
  obtain ⟨debit, random, built⟩ := own
  apply (move_agrees now hold.debit debit).bind
  intro row _
  have create : (payouts.create "payout.create" hold.payout).Agrees
    (SameFor account)
      fun _ => True := by
    intro first second same
    have reference := same.references random _ built
    constructor
    · simp only [Relation.create, payouts, reference]
      rfl
    · intro answer answered
      obtain ⟨fresh, _⟩ := Relation.create_ok answered
      exact ⟨same.withPayout fresh (reference.trans fresh), trivial⟩
  apply (Program.Agrees.perform create).bind
  intro payout _
  apply Program.Agrees.performThen
  · exact fun state => ⟨_, rfl⟩
  · exact fun first second same => same.withJobs _ _
  · exact .returned trivial

/-- In states that agree on the account, its leg ends alike. -/
theorem sweepLeg_agrees (now startOfToday : Time) (random : List Char)
    (minPayout : MinPayout) (dryRun : Bool) :
    (sweepLeg now startOfToday random minPayout dryRun account).Agrees
      (SameFor account)
      fun _ => True := by
  apply Program.Agrees.catching
  · apply (prepareLeg_agrees now startOfToday random minPayout dryRun).bind
    intro prepared own
    cases prepared with
    | inl detail => exact .returned trivial
    | inr hold =>
        apply (holdAndQueue_agrees now (own hold rfl)).bind
        exact fun _ _ => .returned trivial
  · exact fun error => .returned trivial

/-! ## A leg leaves other accounts alone -/

/-- A built reference starts with the source code it is built from. -/
theorem sourceCode_of_built {random : List Char} {code : String}
    {client : Option String} {reference : Reference}
    (built : buildReference random code client = .ok reference) :
    reference.toList.take SOURCE_CODE_LENGTH = code.toList := by
  unfold buildReference at built
  by_cases length : code.length = SOURCE_CODE_LENGTH
  · simp only [length, ne_eq, not_true_eq_false, if_false] at built
    cases sanitized : sanitizeClientReference client with
    | error error =>
        rw [sanitized] at built
        cases built
    | ok client =>
        rw [sanitized] at built
        have starts (padded : String) :
          (code ++ padded).toList.take SOURCE_CODE_LENGTH =
            code.toList := by
          rw [String.toList_append, List.take_left']
          exact length
        cases client with
        | none =>
            simp only [bind, Except.bind] at built
            split at built
            · cases built
            · cases built
              exact starts _
        | some client =>
            simp only [bind, Except.bind] at built
            split at built
            · cases built
            · cases built
              exact starts _
  · simp only [ne_eq, length, not_false_eq_true, if_true] at built
    cases built

/-- Two accounts with ids and source codes of their own. -/
structure Apart (account other : Account) : Prop where
  id : other.id ≠ account.id
  sourceCode : other.sourceCode ≠ account.sourceCode

section

variable {other : Account} {start world : World}

theorem SameFor.configured (same : SameFor account start world)
    (apart : Apart account other) {after : World}
    (configured : Configured other.id world after) :
    SameFor account start after := by
  rcases configured with rfl | rfl
  · exact same
  unfold World.withConfig
  split
  · exact same
  · exact { same with
      feeConfig := by
        rw [Table.find?_insert, if_neg apart.id, Option.or_none, same.feeConfig]
          }

theorem SameFor.recorded (same : SameFor account start world)
    {row : WalletTransaction} (foreign : row.walletId.accountId ≠ account.id) :
    SameFor account start (world.record row) :=
  { same with
    wallets := by
      intro type
      simp only [World.record]
      rw [Table.find?_modify_ne, same.wallets]
      intro equal
      exact foreign (congrArg WalletKey.accountId equal).symm
    ledger := by
      simp only [World.record, List.filter_append, same.ledger]
      simp [foreign] }

theorem SameFor.paid (same : SameFor account start world) {payout : Payout}
    (foreign : payout.accountId ≠ account.id)
    (other : ∀ random reference,
      buildReference random account.sourceCode none = .ok reference →
        payout.reference ≠ reference)
    (fresh : world.payouts.find? payout.reference = none) :
    SameFor account start { world with payouts := world.payouts.insert payout } :=
  { same with
    payouts := by
      simp only [Table.rows_insert fresh, List.filter_append, same.payouts]
      simp [foreign]
    references := by
      intro random reference built
      rw [Table.find?_insert, if_neg (other random reference built),
        Option.or_none, same.references random reference built] }

/-- A hold of another account leaves what belongs to the account. -/
theorem holdAndQueue_frame (apart : Apart account other) (now : Time)
    {random : List Char} {minPayout : MinPayout} {hold : Hold} {earlier : World}
    (exists_ : ∃ row, start.accounts.find? other.id = some row)
    (plan : SweepPlan now random minPayout other earlier hold)
    (kept : SameFor account start world) :
    (holdAndQueue now hold).Holds (· = world) (fun _ => SameFor account start)
      (SameFor account start) := by
  obtain ⟨settlement, balance, fee, title, reference, _, built, rfl⟩ :=
    plan.plan
  obtain ⟨row, found⟩ := exists_
  apply Program.Holds.bind
  · exact (move_holds now _ world).mono (fun _ same => same)
      (fun _ _ moved => moved) fun _ same => same ▸ kept
  intro debit
  apply Program.Holds.each
  rintro _ ⟨wallet, amount, allowed, rfl, rfl⟩
  have there : world.accounts.find? other.id = some row := by
    rw [kept.accounts]
    exact found
  have own : wallet.key = ⟨other.id, .collection⟩ := allowed.wallet_key there
  have debited :
    SameFor account start (world.record (moveRow now (sweepHold now other
      settlement balance fee title reference).debit wallet amount
        wallet.balance)) := by
    apply kept.recorded
    change wallet.key.accountId ≠ account.id
    rw [own]
    exact apart.id
  have created :
    (Program.perform (payouts.create "payout.create" (sweepHold now other
      settlement balance fee title reference).payout)).Holds
      (· = world.record
        (moveRow now (sweepHold now other settlement balance fee title
        reference).debit wallet amount wallet.balance))
      (fun _ => SameFor account start) (SameFor account start) := by
    apply Program.Holds.perform
    · rintro payout _ ⟨_, rfl, answers, rfl⟩
      obtain ⟨fresh, rfl⟩ := Relation.create_ok answers
      apply debited.paid apart.id _ fresh
      intro random mine builtMine equal
      apply apart.sourceCode
      have codes := sourceCode_of_built built
      have mineCodes := sourceCode_of_built builtMine
      change reference = mine at equal
      rw [equal, mineCodes] at codes
      exact String.toList_inj.mp codes.symm
    · rintro _ rfl
      exact debited
  apply created.bind
  intro payout
  apply (enqueue_holds _ now _ ?_).bind
  · exact fun _ => Program.Holds.returned fun _ kept => kept
  · exact fun _ _ kept => { kept with }

/-- Whatever fails, the leg of another account leaves what belongs to the
account. -/
theorem sweepLeg_frame (apart : Apart account other) (now startOfToday : Time)
    (random : List Char) (minPayout : MinPayout) (dryRun : Bool)
    (exists_ : ∃ row, start.accounts.find? other.id = some row) :
    (sweepLeg now startOfToday random minPayout dryRun other).Holds
      (SameFor account start)
      (fun _ => SameFor account start) (SameFor account start) := by
  have tried :
    (prepareLeg now startOfToday random minPayout dryRun other >>= finishLeg
      now).Holds (SameFor account start) (fun _ => SameFor account start)
      (SameFor account start) := by
    apply Program.Holds.each
    intro world same
    apply Program.Holds.bind
    · exact (prepareLeg_plan now startOfToday random minPayout
        dryRun other).mono (fun _ same => same) (fun _ _ planned => planned)
        fun _ configured => same.configured apart configured
    intro prepared
    apply Program.Holds.each
    rintro middle ⟨configured, plan⟩
    have kept := same.configured apart configured
    cases prepared with
    | inl detail =>
        apply Program.Holds.returned
        rintro _ rfl
        exact kept
    | inr hold =>
        apply (holdAndQueue_frame apart now exists_ (plan hold rfl) kept).bind
        exact fun _ => Program.Holds.returned fun _ kept => kept
  apply tried.catching
  · exact fun _ => Program.Holds.returned fun _ kept => kept
  · exact fun _ kept => kept

end

/-- The legs one after another, each with failures of its own, and what each
reports. -/
def execLegs (failures : AccountId → Site → Option AppError)
    (sweep : Account → Db SweepDetail) :
    List Account → World → List (AccountId × SweepDetail) × World
  | [], world => ([], world)
  | account :: rest, world =>
      match (sweep account).exec (throwing (failures account.id)) world with
      | (.returned detail, left) =>
          let later := execLegs failures sweep rest left
          ((account.id, detail) :: later.1, later.2)
      -- a leg catches what it throws, and returns
      | (_, left) => ([], left)

/-- The legs return. -/
def Returns (sweep : Account → Db SweepDetail) : Prop :=
  ∀ failures account world, ∃ detail,
    ((sweep account).exec (throwing failures) world).1 = .returned detail

theorem execLegs_cons (failures : AccountId → Site → Option AppError)
    {sweep : Account → Db SweepDetail} (returns : Returns sweep)
    (account : Account) (rest : List Account) (world : World) :
    ∃ detail left, (sweep account).exec (throwing (failures account.id)) world =
        (.returned detail, left) ∧
      execLegs failures sweep (account :: rest) world =
        ((account.id, detail) :: (execLegs failures sweep rest left).1,
          (execLegs failures sweep rest left).2) := by
  obtain ⟨detail, returned⟩ := returns (failures account.id) account world
  rcases ran : (sweep account).exec (throwing (failures account.id)) world with
    ⟨outcome, left⟩
  rw [ran] at returned
  simp only at returned
  subst returned
  refine ⟨detail, left, rfl, ?_⟩
  simp only [execLegs, ran]

/-- With the same failures for all accounts, these are the legs of the loop. -/
theorem exec_sweepAll {sweep : Account → Db SweepDetail}
    (returns : Returns sweep) (failures : Site → Option AppError)
    (accounts : List Account) (world : World) :
    (sweepAll sweep accounts).exec (throwing failures) world =
      (.returned (execLegs (fun _ => failures) sweep accounts world).1,
        (execLegs (fun _ => failures) sweep accounts world).2) := by
  induction accounts generalizing world with
  | nil => rfl
  | cons account rest ih =>
      obtain ⟨detail, left, ran, legs⟩ :=
        execLegs_cons (fun _ => failures) returns account rest world
      rw [legs]
      simp only [sweepAll, Program.exec_bind, ran, ih]
      rfl

theorem execLegs_accounts (failures : AccountId → Site → Option AppError)
    {sweep : Account → Db SweepDetail} (returns : Returns sweep)
    (accounts : List Account) (world : World) :
    (execLegs failures sweep accounts world).1.map Prod.fst =
      accounts.map Account.id := by
  induction accounts generalizing world with
  | nil => rfl
  | cons account rest ih =>
      obtain ⟨detail, left, _, legs⟩ :=
        execLegs_cons failures returns account rest world
      rw [legs, List.map_cons, List.map_cons, ih]

/-- What is needed of a leg: it returns, keeps the accounts, ends alike where
the states agree on its account, and leaves what belongs to other accounts. -/
structure Independent (sweep : Account → Db SweepDetail)
    (accounts : List Account) : Prop where
  returns : Returns sweep
  keepsAccounts : ∀ account world, (sweep account).Holds (· = world)
    (fun _ after => after.accounts = world.accounts)
    (fun after => after.accounts = world.accounts)
  agrees : ∀ account ∈ accounts,
    (sweep account).Agrees (SameFor account) fun _ => True
  frame : ∀ account ∈ accounts, ∀ other ∈ accounts, other.id ≠ account.id →
    ∀ start : World, (∃ row, start.accounts.find? other.id = some row) →
      (sweep other).Holds (SameFor account start)
        (fun _ => SameFor account start) (SameFor account start)

section

variable {failures : AccountId → Site → Option AppError}
  {sweep : Account → Db SweepDetail}

theorem Independent.accounts_eq {accounts : List Account}
    (independent : Independent sweep accounts) {world left : World}
    {detail : SweepDetail}
    (ran : (sweep account).exec (throwing (failures account.id)) world =
      (.returned detail, left)) : left.accounts = world.accounts := by
  have ends :=
    independent.keepsAccounts account world (throwing (failures account.id))
    world rfl
  rw [ran] at ends
  exact ends

/-- Legs of other accounts leave what belongs to an account. -/
theorem execLegs_frame {all accounts : List Account}
    (independent : Independent sweep all)
    (sub : ∀ other ∈ accounts, other ∈ all) (member : account ∈ all)
    (others : ∀ other ∈ accounts, other.id ≠ account.id) {start world : World}
    (there : ∀ other ∈ accounts, ∃ row,
      start.accounts.find? other.id = some row)
    (same : SameFor account start world) :
    SameFor account start (execLegs failures sweep accounts world).2 := by
  induction accounts generalizing world with
  | nil => exact same
  | cons other rest ih =>
      obtain ⟨detail, left, ran, legs⟩ :=
        execLegs_cons failures independent.returns other rest world
      rw [legs]
      have frame :=
        independent.frame account member other (sub other List.mem_cons_self)
        (others other List.mem_cons_self) start (there other List.mem_cons_self)
      have ends := frame (throwing (failures other.id)) world same
      rw [ran] at ends
      exact ih (fun later inRest => sub later (List.mem_cons_of_mem _ inRest))
        (fun later inRest => others later (List.mem_cons_of_mem _ inRest))
        (fun later inRest => there later (List.mem_cons_of_mem _ inRest)) ends

/-- Among other accounts, the leg of an account does what it does alone. -/
theorem execLegs_alone (failures : AccountId → Site → Option AppError)
    {all accounts : List Account} (independent : Independent sweep all)
    (sub : ∀ other ∈ accounts, other ∈ all) (member : account ∈ accounts)
    (distinct : (accounts.map Account.id).Nodup) {start world : World}
    (there : ∀ other ∈ accounts, ∃ row,
      world.accounts.find? other.id = some row)
    (same : SameFor account start world) :
    ∃ detail,
      (execLegs failures sweep [account] start).1 = [(account.id, detail)] ∧
      (account.id, detail) ∈ (execLegs failures sweep accounts world).1 ∧
      SameFor account (execLegs failures sweep [account] start).2
        (execLegs failures sweep accounts world).2 := by
  induction accounts generalizing world with
  | nil => cases member
  | cons head rest ih =>
      rw [List.map_cons, List.nodup_cons] at distinct
      obtain ⟨fresh, distinct⟩ := distinct
      have subRest : ∀ other ∈ rest, other ∈ all :=
        fun other inRest => sub other (List.mem_cons_of_mem _ inRest)
      obtain ⟨detail, left, ran, legs⟩ :=
        execLegs_cons failures independent.returns head rest world
      have accounts := independent.accounts_eq ran
      have thereLater : ∀ other ∈ rest, ∃ row,
        left.accounts.find? other.id = some row := by
        intro other inRest
        rw [accounts]
        exact there other (List.mem_cons_of_mem _ inRest)
      rw [legs]
      rcases List.mem_cons.mp member with rfl | later
      · -- its own leg: alike from the start, and the rest leaves it
        have alike :=
          independent.agrees account (sub account List.mem_cons_self)
          (throwing (failures account.id)) start world same
        obtain ⟨own, alone, ranAlone, legsAlone⟩ :=
          execLegs_cons failures independent.returns account [] start
        rw [ran, ranAlone] at alike
        obtain ⟨outcome, states, _⟩ := alike
        cases outcome
        rw [legsAlone]
        refine ⟨detail, rfl, List.mem_cons_self, states.trans ?_⟩
        apply execLegs_frame independent subRest
          (sub account List.mem_cons_self) _ thereLater
        · apply SameFor.refl
          rw [accounts]
          exact there account List.mem_cons_self
        · intro other inRest equal
          exact fresh (equal ▸ List.mem_map_of_mem inRest)
      · have foreign : head.id ≠ account.id := by
          intro equal
          exact fresh (equal ▸ List.mem_map_of_mem later)
        have frame := independent.frame account (sub account member) head
          (sub head List.mem_cons_self) foreign world
            (there head List.mem_cons_self)
          (throwing (failures head.id)) world (SameFor.refl same.symm.present)
        rw [ran] at frame
        obtain ⟨detail', aloneDetail, inRest, states⟩ :=
          ih subRest later distinct thereLater (same.trans frame)
        exact ⟨detail', aloneDetail, List.mem_cons_of_mem _ inRest, states⟩

end

/-- `created` is raised with this detail. -/
def SweepDetail.isCreated : SweepDetail → Bool
  | .created _ _ => true
  | .skipped _ | .dryRun _ _ | .failed _ => false

/-- `skipped` is raised with this detail. -/
def SweepDetail.isSkipped : SweepDetail → Bool
  | .skipped _ | .failed _ => true
  | .created _ _ | .dryRun _ _ => false

def createdCount (details : List (AccountId × SweepDetail)) : ℕ :=
  details.countP fun entry => entry.2.isCreated

def skippedCount (details : List (AccountId × SweepDetail)) : ℕ :=
  details.countP fun entry => entry.2.isSkipped

/-- One of the counters is raised, and not both. -/
def SweepDetail.Counted (detail : SweepDetail) : Prop :=
  detail.isSkipped = !detail.isCreated

theorem counts_add_up {details : List (AccountId × SweepDetail)}
    (counted : ∀ entry ∈ details, entry.2.Counted) :
    createdCount details + skippedCount details = details.length := by
  have skipped : skippedCount details = details.countP fun entry =>
    !entry.2.isCreated := by
    apply List.countP_congr
    intro entry member
    rw [counted entry member]
  have flip : (fun entry : AccountId × SweepDetail => !entry.2.isCreated) =
      fun entry => decide (¬ entry.2.isCreated = true) := by
    funext entry
    cases entry.2.isCreated <;> rfl
  rw [skipped, flip, createdCount]
  exact (List.length_eq_countP_add_countP _).symm

theorem prepareLeg_counted (now startOfToday : Time) (random : List Char)
    (minPayout : MinPayout) (account : Account) :
    (prepareLeg now startOfToday random minPayout false account).Holds
      (fun _ => True)
      (fun prepared _ => ∀ detail, prepared = .inl detail → detail.Counted)
        fun _ => True := by
  have skips (reason : String) :
      (Program.returned (.inl (.skipped reason)) :
        Db (SweepDetail ⊕ Hold)).Holds (fun _ => True)
        (fun prepared _ => ∀ detail, prepared = .inl detail → detail.Counted)
          fun _ => True := by
    apply Program.Holds.returned
    intro _ _ detail same
    cases same
    rfl
  apply (Program.Holds.anyway _).bind
  intro settlement
  cases settlement with
  | none => exact skips _
  | some settlement =>
      apply (Program.Holds.anyway _).bind
      intro balance
      split
      · exact skips _
      apply (Program.Holds.anyway _).bind
      intro alreadySwept
      split
      · exact skips _
      apply (Program.Holds.anyway _).bind
      intro fee
      dsimp only
      split
      · exact skips _
      cases buildReference random account.sourceCode none with
      | error error => exact Program.Holds.threw fun _ _ => trivial
      | ok reference =>
          apply Program.Holds.returned
          intro _ _ detail same
          cases same

/-- Unless the run is dry, each leg raises one of the counters. -/
theorem sweepLeg_counted (now startOfToday : Time) (random : List Char)
    (minPayout : MinPayout) (account : Account) :
    (sweepLeg now startOfToday random minPayout false account).Holds (fun _ => True)
      (fun detail _ => detail.Counted) fun _ => True := by
  have tried :
    (prepareLeg now startOfToday random minPayout false account >>= finishLeg
      now).Holds (fun _ => True) (fun detail _ => detail.Counted) fun _ => True := by
    apply (prepareLeg_counted now startOfToday random minPayout account).bind
    intro prepared
    cases prepared with
    | inl detail => exact Program.Holds.returned fun _ counted => counted detail rfl
    | inr hold =>
        apply (Program.Holds.anyway _).bind
        exact fun payout => Program.Holds.returned fun _ _ => rfl
  apply tried.catching
  · exact fun error => Program.Holds.returned fun _ _ => rfl
  · exact fun _ _ => trivial

theorem execLegs_counted {failures : AccountId → Site → Option AppError}
    {sweep : Account → Db SweepDetail} (returns : Returns sweep)
    (counted : ∀ account, (sweep account).Holds (fun _ => True)
      (fun detail _ => detail.Counted) fun _ => True) (accounts : List Account)
    (world : World) :
    ∀ entry ∈ (execLegs failures sweep accounts world).1, entry.2.Counted := by
  induction accounts generalizing world with
  | nil =>
      intro entry member
      cases member
  | cons account rest ih =>
      obtain ⟨detail, left, ran, legs⟩ :=
        execLegs_cons failures returns account rest world
      have ends :=
        counted account (throwing (failures account.id)) world trivial
      rw [ran] at ends
      rw [legs]
      intro entry member
      rcases List.mem_cons.mp member with rfl | later
      · exact ends
      · exact ih left entry later

/-- The accounts a sweep is to visit. -/
def eligible (world : World) : List Account :=
  world.accounts.rows.filter fun account => account.status = .active ∧
    account.autoSweep

section

variable (now startOfToday : Time) (random : AccountId → List Char)
  (minPayout : MinPayout)

/-- A leg that is not dry. -/
def legOf (account : Account) : Db SweepDetail :=
  sweepLeg now startOfToday (random account.id) minPayout false account

theorem legOf_returns : Returns (legOf now startOfToday random minPayout) :=
  fun failures _ world => Program.catching_returns failures _ SweepDetail.failed
    world

theorem legOf_independent {world : World} {accounts : List Account}
    (codes : (world.accounts.rows.map Account.sourceCode).Nodup)
    (listed : ∀ account ∈ accounts, account ∈ world.accounts.rows) :
    Independent (legOf now startOfToday random minPayout) accounts where
  returns := legOf_returns now startOfToday random minPayout
  keepsAccounts := by
    intro account world
    apply (sweepLeg_leaves now startOfToday (random account.id) minPayout
      false account).mono
    · exact fun _ same => same
    · rintro _ after ⟨rows, created, accounted⟩
      exact accounted.adds.accounts
    · rintro after ⟨rows, created, accounted⟩
      exact accounted.adds.accounts
  agrees := fun account _ =>
    sweepLeg_agrees now startOfToday (random account.id) minPayout false
  frame := by
    intro account member other otherMember id start there
    apply sweepLeg_frame ⟨id, ?_⟩ now startOfToday _ minPayout false there
    intro same
    have equal := List.inj_on_of_nodup_map codes (listed other otherMember)
      (listed account member) same
    exact id (congrArg Account.id equal)

/-- The legs of `runAutoSweep` are those of the eligible accounts. -/
theorem exec_runAutoSweep (failures : Site → Option AppError)
    (reads : failures "sweep.accounts" = none) (world : World) :
    (runAutoSweep now startOfToday random minPayout false).exec
      (throwing failures) world =
      (.returned
        (execLegs (fun _ => failures) (legOf now startOfToday random minPayout)
          (eligible world) world).1,
        (execLegs (fun _ => failures) (legOf now startOfToday random minPayout)
          (eligible world) world).2) := by
  have answers : throwing failures "sweep.accounts" = none := by
    rw [throwing, reads]
    rfl
  unfold runAutoSweep
  simp only [Program.exec_perform_bind, select, answers]
  exact exec_sweepAll (legOf_returns now startOfToday random minPayout)
    failures _ world

/-- Each account is swept as it is alone, whatever fails for which account and
in whatever order they come; there is one detail for each, and the counters add
up. -/
theorem sweep_independent (world : World)
    (codes : (world.accounts.rows.map Account.sourceCode).Nodup)
    (failures : AccountId → Site → Option AppError) (accounts : List Account)
    (distinct : (accounts.map Account.id).Nodup)
    (listed : ∀ account ∈ accounts, account ∈ world.accounts.rows) :
    let leg := legOf now startOfToday random minPayout
    let swept := execLegs failures leg accounts world
    (∀ account ∈ accounts, ∃ detail,
      (execLegs failures leg [account] world).1 = [(account.id, detail)] ∧
        (account.id, detail) ∈ swept.1 ∧
        SameFor account (execLegs failures leg [account] world).2 swept.2) ∧
    swept.1.map Prod.fst = accounts.map Account.id ∧
    createdCount swept.1 + skippedCount swept.1 = accounts.length ∧
    ∀ uniform : Site → Option AppError, uniform "sweep.accounts" = none →
      (runAutoSweep now startOfToday random minPayout false).exec
        (throwing uniform) world =
        (.returned (execLegs (fun _ => uniform) leg (eligible world) world).1,
          (execLegs (fun _ => uniform) leg (eligible world) world).2) := by
  intro leg swept
  have returns := legOf_returns now startOfToday random minPayout
  have independent :=
    legOf_independent now startOfToday random minPayout codes listed
  have there : ∀ other ∈ accounts, ∃ row,
    world.accounts.find? other.id = some row :=
    fun other member => ⟨other, Table.find?_of_mem (listed other member)⟩
  have ids := execLegs_accounts failures returns accounts world
  refine ⟨?_, ids, ?_, ?_⟩
  · intro account member
    exact execLegs_alone failures independent (fun _ inAll => inAll)
      member distinct there (SameFor.refl (there account member))
  · rw [counts_add_up]
    · have lengths := congrArg List.length ids
      rw [List.length_map, List.length_map] at lengths
      exact lengths
    · exact execLegs_counted returns (fun account =>
        sweepLeg_counted now startOfToday (random account.id) minPayout account)
          accounts world
  · intro uniform reads
    exact exec_runAutoSweep now startOfToday random minPayout
      uniform reads world

end

/-- Two accounts: one with a settlement account and a balance, one with
neither. -/
def twoAccounts : World where
  accounts := (Table.empty.insert
    { id := "a", accountId := "ACC-1", sourceCode := "AAAAA" }).insert
      { id := "b", accountId := "ACC-2", sourceCode := "BBBBB" }
  wallets := Table.empty.insert { key := ⟨"a", .collection⟩, balance := Money.round 5000 }
  settlementAccounts := Table.empty.insert
    { id := "s1", accountId := "a", type := .mobile, method := some .airtel
      phoneNumber := some "255682345678", createdAt := 1, updatedAt := 1 }

/-- The first of the two accounts cannot be debited. -/
def debitFails (owner : AccountId) (site : Site) : Option AppError :=
  if owner = "a" ∧ site = "move.decrement" then some .invalidValue else none

theorem sweep_independent_two :
    let leg := legOf 5 3 (fun _ => "00000000000000A".toList) (some 1000)
    let swept :=
      execLegs debitFails leg twoAccounts.accounts.rows.reverse twoAccounts
    (∀ account ∈ twoAccounts.accounts.rows.reverse, ∃ detail,
      (execLegs debitFails leg [account] twoAccounts).1 =
        [(account.id, detail)] ∧
      (account.id, detail) ∈ swept.1 ∧
      SameFor account (execLegs debitFails leg [account] twoAccounts).2
        swept.2) ∧
    swept.1.map Prod.fst = twoAccounts.accounts.rows.reverse.map Account.id ∧
    createdCount swept.1 + skippedCount swept.1 =
      twoAccounts.accounts.rows.reverse.length ∧
    ∀ uniform : Site → Option AppError, uniform "sweep.accounts" = none →
      (runAutoSweep 5 3 (fun _ => "00000000000000A".toList)
        (some 1000) false).exec
          (throwing uniform) twoAccounts =
        (.returned
          (execLegs (fun _ => uniform) leg (eligible twoAccounts)
          twoAccounts).1,
          (execLegs (fun _ => uniform) leg (eligible twoAccounts)
            twoAccounts).2) :=
  sweep_independent 5 3 (fun _ => "00000000000000A".toList) (some 1000)
    twoAccounts (by decide) debitFails _ (by decide) (by decide)

end CloudStudio.Payouts
