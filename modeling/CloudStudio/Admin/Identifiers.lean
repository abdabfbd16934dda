import CloudStudio.Admin.Routes

/-!
# Either identifier

`resolveAccountId` promises that the admin's routes take the public identifier
of an account as well as its row id.  Both readings of a route are compared on
one state, with the events they track: the fee routes and the list of settlement
accounts do not resolve what they are given, and the event of a frozen wallet
repeats it.
-/

namespace CloudStudio.Admin

open CloudStudio.Data CloudStudio.Transactions CloudStudio.Platform
open CloudStudio.Accounts
open CloudStudio.Billing CloudStudio.Payouts CloudStudio.Wallets

/-- The identifiers of a database: none is empty, public ones are unique and of
another form than row ids, and fee configs and settlement accounts belong to
accounts. -/
structure Identified (world : World) : Prop where
  named : ∀ account ∈ world.accounts.rows, account.id ≠ "" ∧
    account.accountId ≠ ""
  apart : ∀ account ∈ world.accounts.rows, ∀ other ∈ world.accounts.rows,
    account.id ≠ other.accountId
  uniquePublic : ∀ account ∈ world.accounts.rows, ∀ other ∈ world.accounts.rows,
    account.accountId = other.accountId → account = other
  fees : ∀ config ∈ world.feeConfigs.rows,
    (world.accounts.find? config.accountId).isSome
  settlements : ∀ row ∈ world.settlementAccounts.rows,
    (world.accounts.find? row.accountId).isSome

section

variable {world : World} {account : Account}

theorem Identified.no_row (identified : Identified world)
    (member : account ∈ world.accounts.rows) :
    world.accounts.find? account.accountId = none := by
  cases found : world.accounts.find? account.accountId with
  | none => rfl
  | some other =>
      have own : other.id = account.accountId := Table.key_of_find? found
      exact absurd own
        (identified.apart other (Table.mem_of_find? found) account member)

theorem Identified.byPublic (identified : Identified world)
    (member : account ∈ world.accounts.rows) :
    (world.accounts.rows.find? fun other =>
      other.accountId == account.accountId) = some account := by
  cases found : world.accounts.rows.find? fun other =>
    other.accountId == account.accountId with
  | none =>
      have differs := List.find?_eq_none.mp found account member
      exact absurd (beq_self_eq_true _) differs
  | some other =>
      have same : other.accountId = account.accountId := by
        simpa using List.find?_some found
      rw [identified.uniquePublic other (List.mem_of_find?_eq_some found)
        account member same]

theorem Identified.resolve_id (identified : Identified world)
    (member : account ∈ world.accounts.rows) :
    world.resolve account.id = some account.id := by
  rw [World.resolve, if_neg (identified.named account member).1,
    show world.accounts.find? account.id = some account from
      Table.find?_of_mem member]

theorem Identified.resolve_public (identified : Identified world)
    (member : account ∈ world.accounts.rows) :
    world.resolve account.accountId = some account.id := by
  rw [World.resolve, if_neg (identified.named account member).2,
    identified.no_row member, identified.byPublic member]
  rfl

end

section

variable {world : World} {first second : String}

/-- Only what the identifier resolves to matters. -/
theorem run_resolved {Result : Type} (rest : Option AccountId → Db Result)
    (same : world.resolve first = world.resolve second) :
    (resolveAccountId first >>= rest).run world =
      (resolveAccountId second >>= rest).run world := by
  rw [Program.run_bind, Program.run_bind, run_resolveAccountId,
    run_resolveAccountId, same]

/-- What follows a call sees its answer and the state it leaves. -/
theorem run_bind_congr {Answer Result : Type} {program other : Db Answer}
    (rest : Answer → Db Result) (same : program.run world = other.run world) :
    (program >>= rest).run world = (other >>= rest).run world := by
  rw [Program.run_bind, Program.run_bind, same]

theorem run_untracked {Result : Type} (program : Db Result) :
    (untracked program).run world =
      ((program.run world).1.map fun result => (result, []),
        (program.run world).2) := by
  rw [untracked, Program.run_bind]
  rcases program.run world with ⟨error | result, after⟩ <;> rfl

/-- Routes that track nothing agree just when their services do. -/
theorem run_untracked_iff {Result : Type} {program other : Db Result} :
    (untracked program).run world = (untracked other).run world ↔
      program.run world = other.run world := by
  refine ⟨fun same => ?_, run_bind_congr _⟩
  rw [run_untracked, run_untracked] at same
  obtain ⟨answers, after⟩ := Prod.mk.inj same
  refine Prod.ext ?_ after
  cases one : (program.run world).1 with
  | error error =>
      cases two : (other.run world).1 with
      | error error' =>
          rw [one, two] at answers
          exact congrArg Except.error (Except.error.inj answers)
      | ok result =>
          rw [one, two] at answers
          cases answers
  | ok result =>
      cases two : (other.run world).1 with
      | error error =>
          rw [one, two] at answers
          cases answers
      | ok result' =>
          rw [one, two] at answers
          exact congrArg Except.ok (congrArg Prod.fst (Except.ok.inj answers))

theorem run_getEntity_congr
    (same : world.resolve first = world.resolve second) :
    (getEntity first).run world = (getEntity second).run world :=
  run_resolved _ same

theorem run_namedAccount_congr
    (same : world.resolve first = world.resolve second) :
    (namedAccount first).run world = (namedAccount second).run world :=
  run_resolved _ same

theorem run_getWallet_congr (type : WalletType) {account : AccountId}
    (one : world.resolve first = some account)
    (two : world.resolve second = some account) :
    (getWallet first type).run world = (getWallet second type).run world := by
  rw [run_getWallet, run_getWallet, World.walletKeyOf, World.walletKeyOf, one,
    two]
  rfl

theorem run_adminMove_congr (now : Time) (txType : WalletTxType)
    (title adminId : String) (type : WalletType) (dto : WalletAmount)
    {account : AccountId} (one : world.resolve first = some account)
    (two : world.resolve second = some account) :
    (adminMove now txType title adminId type dto first).run world =
      (adminMove now txType title adminId type dto second).run world := by
  unfold adminMove move
  cases dto.amount with
  | malformed => rfl
  | nonFinite => rfl
  | value amount =>
      by_cases zero : amount = 0
      · simp only [zero, if_true]
      · simp only [zero, if_false]
        exact run_bind_congr _ (run_getWallet_congr type one two)

theorem run_assignPlan_congr (calendar : Calendar) (now : Time)
    (adminId planId : String)
    (same : world.resolve first = world.resolve second) :
    (assignPlan calendar now adminId first planId).run world =
      (assignPlan calendar now adminId second planId).run world := by
  unfold assignPlan
  rw [Program.run_bind, Program.run_bind, Program.run_perform]
  simp only [Relation.findUnique, select]
  cases ((plans.table world).find? planId).filter Plan.isActive with
  | none => rfl
  | some plan => exact run_bind_congr _ (run_namedAccount_congr same)

theorem run_getByPublicId {account : Account} (identified : Identified world)
    (member : account ∈ world.accounts.rows) :
    (getByPublicId account.accountId).run world =
      (getByPublicId account.id).run world := by
  have nobody :
    (world.accounts.rows.find? fun other => other.accountId == account.id) =
      none := by
    apply List.find?_eq_none.mpr
    intro other there same
    exact identified.apart account member other there
      (by simpa using (beq_iff_eq.mp same).symm)
  have own : world.accounts.find? account.id = some account :=
    Table.find?_of_mem member
  simp only [getByPublicId, Program.bind_perform, Program.run_query, select,
    identified.byPublic member, nobody, own, Option.map_some, Option.map_none]

end

/-! ## Routes that do not -/

section

variable {world : World} {account : Account}

/-- For an account that exists, the fee routes run as the service does for the
account. -/
theorem run_getFeeConfig (member : account ∈ world.accounts.rows) :
    (getFeeConfig account.id).run world =
      (.ok (world.configOf account.id), world.withConfig account.id) := by
  have own : world.accounts.find? account.id = some account :=
    Table.find?_of_mem member
  simp only [getFeeConfig, Program.bind_perform, Program.run_query,
    Relation.findUnique, select, feeConfigs, World.configOf, World.withConfig]
  cases absent : world.feeConfigs.find? account.id with
  | some config => rfl
  | none =>
      simp only [Program.perform, Program.run_catching, Program.run_query,
        createFeeConfig,
        Relation.create, own, Option.isSome_some, if_true, feeConfigs, absent]
      rfl

/-- No row of an account can be created under its public identifier. -/
theorem run_getFeeConfig_public (identified : Identified world)
    (member : account ∈ world.accounts.rows) :
    (getFeeConfig account.accountId).run world =
      (.error (.missing .notFound "Fee config not found"), world) := by
  have nobody := identified.no_row member
  have absent : world.feeConfigs.find? account.accountId = none := by
    cases found : world.feeConfigs.find? account.accountId with
    | none => rfl
    | some config =>
        have owner := identified.fees config (Table.mem_of_find? found)
        rw [show config.accountId = account.accountId from
          Table.key_of_find? found, nobody] at owner
        cases owner
  simp only [getFeeConfig, Program.bind_perform, Program.run_query,
    Relation.findUnique, select, feeConfigs, absent]
  simp only [Program.perform, Program.run_catching, Program.run_query,
    createFeeConfig, nobody, Option.isSome_none, Bool.false_eq_true, if_false]
  simp only [Program.run_threw, absent]

theorem run_getFeeConfig_ne (identified : Identified world)
    (member : account ∈ world.accounts.rows) :
    (getFeeConfig account.accountId).run world ≠
      (getFeeConfig account.id).run world := by
  intro same
  rw [run_getFeeConfig member,
    run_getFeeConfig_public identified member] at same
  cases congrArg Prod.fst same

/-- A value that cannot be bound, or the rest of the computation, is at
fault. -/
theorem bind_eq_error {Error Answer Result : Type} {value : Except Error Answer}
    {rest : Answer → Except Error Result} {error : Error}
    (failed : (value >>= rest) = .error error) :
    value = .error error ∨ ∃ answer, rest answer = .error error := by
  cases value with
  | error found =>
      have same : (Except.error found : Except Error Result) = .error error :=
        failed
      exact .inl (congrArg Except.error (Except.error.inj same))
  | ok answer => exact .inr ⟨answer, failed⟩

theorem checkBps_ne (key : String) (input : Option BpsInput)
    (message : String) :
    checkBps key input ≠ .error (.missing .notFound message) := by
  unfold checkBps
  split
  · exact fun same => by cases same
  · split
    · exact fun same => by cases same
    · exact fun same => by cases same

theorem threshold_ne (input : Option NumberInput) (message : String) :
    threshold input ≠ .error (.missing .notFound message) := by
  unfold threshold
  split <;> exact fun same => by cases same

/-- A patch is never refused as if the account were missing. -/
theorem checkPatch_ne (patch : FeePatch) (message : String) :
    checkPatch patch ≠ .error (.missing .notFound message) := by
  intro failed
  unfold checkPatch at failed
  obtain here | ⟨_, failed⟩ := bind_eq_error failed
  · exact checkBps_ne _ _ _ here
  obtain here | ⟨_, failed⟩ := bind_eq_error failed
  · exact checkBps_ne _ _ _ here
  obtain here | ⟨_, failed⟩ := bind_eq_error failed
  · exact checkBps_ne _ _ _ here
  obtain here | ⟨_, failed⟩ := bind_eq_error failed
  · exact checkBps_ne _ _ _ here
  obtain here | ⟨_, failed⟩ := bind_eq_error failed
  · exact checkBps_ne _ _ _ here
  obtain here | ⟨_, failed⟩ := bind_eq_error failed
  · exact threshold_ne _ _ here
  obtain here | ⟨_, failed⟩ := bind_eq_error failed
  · exact threshold_ne _ _ here
  cases failed

/-- The settlement accounts are listed for the row id only. -/
theorem run_listSettlementAccounts_public (identified : Identified world)
    (member : account ∈ world.accounts.rows) :
    (listSettlementAccounts account.accountId).run world = (.ok [], world) := by
  have nobody := identified.no_row member
  have empty : (world.settlementAccounts.rows.filter fun row =>
      row.accountId = account.accountId) = [] := by
    apply List.filter_eq_nil_iff.mpr
    intro row there same
    have owner := identified.settlements row there
    rw [of_decide_eq_true same, nobody] at owner
    cases owner
  simp only [listSettlementAccounts, Program.run_perform, select, empty,
    List.mergeSort_nil]

theorem run_settlements_iff (identified : Identified world)
    (member : account ∈ world.accounts.rows) :
    (listSettlementAccounts account.accountId).run world =
        (listSettlementAccounts account.id).run world ↔
      ∀ row ∈ world.settlementAccounts.rows, row.accountId ≠ account.id := by
  rw [run_listSettlementAccounts_public identified member]
  simp only [listSettlementAccounts, Program.run_perform, select]
  constructor
  · intro same row there own
    have none_of := Except.ok.inj (congrArg Prod.fst same)
    have listed : row ∈ (world.settlementAccounts.rows.filter fun row =>
        row.accountId = account.id) :=
          List.mem_filter.mpr ⟨there, decide_eq_true own⟩
    have gone : row ∈ ([] : List SettlementAccount) := by
      rw [none_of]
      exact List.mem_mergeSort.mpr listed
    cases gone
  · intro none_of
    have empty : (world.settlementAccounts.rows.filter fun row =>
        row.accountId = account.id) = [] := by
      apply List.filter_eq_nil_iff.mpr
      intro row there same
      exact none_of row there (of_decide_eq_true same)
    rw [empty, List.mergeSort_nil]

/-- An update of the fees answers something else. -/
theorem run_updateFeeConfig_ne (identified : Identified world)
    (member : account ∈ world.accounts.rows) (patch : FeePatch) :
    (updateFeeConfig patch account.accountId).run world ≠
      (updateFeeConfig patch account.id).run world := by
  intro same
  have refused : ((updateFeeConfig patch account.id).run world).1 =
      .error (.missing .notFound "Fee config not found") := by
    rw [← same]
    simp only [updateFeeConfig, Program.run_bind,
      run_getFeeConfig_public identified member]
  simp only [updateFeeConfig, Program.run_bind,
    run_getFeeConfig member] at refused
  cases checked : checkPatch patch with
  | error error =>
      rw [checked] at refused
      have is_missing : error = .missing .notFound "Fee config not found" :=
        Except.error.inj refused
      exact checkPatch_ne patch _ (is_missing ▸ checked)
  | ok change =>
      rw [checked] at refused
      simp only [Program.run_perform] at refused
      rcases answered :
        (feeConfigs.update "feeConfig.update" account.id change.apply
          change.apply_accountId).answer (world.withConfig account.id) with
            error | config
      · rw [answered] at refused
        obtain rfl : error = .missing .notFound "Fee config not found" :=
          Except.error.inj refused
        simp only [Relation.update] at answered
        split at answered <;> cases answered
      · rw [answered] at refused
        cases refused

/-- A wallet that is frozen is tracked under the identifier of the path. -/
theorem run_setFrozenTracked_iff (identified : Identified world)
    (member : account ∈ world.accounts.rows) (type : WalletType)
    (frozen : Bool) :
    (setFrozenTracked type frozen account.accountId).run world =
        (setFrozenTracked type frozen account.id).run world ↔
      world.wallets.find? ⟨account.id, type⟩ = none := by
  have resolved := identified.resolve_id member
  have same : (setFrozen account.accountId type frozen).run world =
      (setFrozen account.id type frozen).run world :=
    run_bind_congr _
      (run_getWallet_congr type (identified.resolve_public member) resolved)
  have key : world.walletKeyOf account.id type = ⟨account.id, type⟩ := by
    rw [World.walletKeyOf, resolved]
    rfl
  simp only [setFrozenTracked, Program.run_bind, same]
  cases found : world.wallets.find? ⟨account.id, type⟩ with
  | none =>
      have refused : (setFrozen account.id type frozen).run world =
          (.error (walletNotFound (walletName type ++ " wallet not found")),
            world) := by
        simp only [setFrozen, Program.run_bind, run_getWallet, key, found]
      simp only [refused]
  | some wallet =>
      have own : wallet.key = ⟨account.id, type⟩ := Table.key_of_find? found
      obtain ⟨updated, after, done⟩ : ∃ updated after,
          (setFrozen account.id type frozen).run world =
            (.ok updated, after) := by
        simp only [setFrozen, Program.run_bind, run_getWallet, key, found,
          Program.run_perform, Relation.update, Platform.wallets, own]
        exact ⟨_, _, rfl⟩
      simp only [done]
      constructor
      · intro tracked
        have events :=
          congrArg Prod.snd (Except.ok.inj (congrArg Prod.fst tracked))
        have named := congrArg AnalyticsEvent.accountId (List.cons.inj events).1
        exact absurd named.symm (identified.apart account member account member)
      · intro missing
        cases missing

end

/-- The routes that treat both identifiers of an account alike. -/
def AdminOp.SameForBoth (world : World) (account : AccountId) : AdminOp → Prop
  | .fees | .updateFees _ => False
  | .settlements => ∀ row ∈ world.settlementAccounts.rows,
      row.accountId ≠ account
  | .freeze type | .unfreeze type => world.wallets.find? ⟨account, type⟩ = none
  | _ => True

/-- A route answers, changes and tracks the same for the public identifier and for the row
id, exactly when it is not a fee route, lists no settlement account and freezes no wallet. -/
theorem either_identifier_iff (world : World) (identified : Identified world)
    (account : Account) (member : account ∈ world.accounts.rows) (op : AdminOp) :
    (op.program account.accountId).run world = (op.program account.id).run world ↔
      op.SameForBoth world account.id := by
  have one := identified.resolve_public member
  have two := identified.resolve_id member
  have same : world.resolve account.accountId = world.resolve account.id := one.trans two.symm
  cases op with
  | detail => exact iff_of_true (run_bind_congr _ (run_getByPublicId identified member)) trivial
  | overview pages =>
      exact iff_of_true
        (run_bind_congr _ (run_bind_congr _ (run_resolved _ same))) trivial
  | computations range =>
      exact iff_of_true
        (run_bind_congr _ (run_bind_congr _ (run_resolved _ same))) trivial
  | wallets => exact iff_of_true (run_bind_congr _ (run_resolved _ same)) trivial
  | transactions type skip take =>
      exact iff_of_true
        (run_bind_congr _ (run_bind_congr _ (run_getWallet_congr type one two)))
          trivial
  | deposit now adminId type dto =>
      exact iff_of_true
        (run_bind_congr _ (run_adminMove_congr now _ _ _ type dto one two))
        trivial
  | withdraw now adminId type dto =>
      exact iff_of_true
        (run_bind_congr _ (run_adminMove_congr now _ _ _ type dto one two))
        trivial
  | freeze type => exact run_setFrozenTracked_iff identified member type true
  | unfreeze type => exact run_setFrozenTracked_iff identified member type false
  | permissions items =>
      exact iff_of_true (run_bind_congr _ (run_resolved _ same)) trivial
  | issueKey sha256 apiKeyPrefix now draw name =>
      exact iff_of_true (run_bind_congr _ (run_resolved _ same)) trivial
  | revokeKey now keyId =>
      exact iff_of_true (run_bind_congr _ (run_resolved _ same)) trivial
  | update accountName =>
      exact iff_of_true
        (run_bind_congr _ (run_bind_congr _ (run_getEntity_congr same))) trivial
  | suspend => exact iff_of_true (run_bind_congr _ (run_getEntity_congr same)) trivial
  | activate => exact iff_of_true (run_bind_congr _ (run_getEntity_congr same)) trivial
  | assignPlan calendar now adminId planId =>
      exact iff_of_true
        (run_bind_congr _
        (run_assignPlan_congr calendar now adminId planId same)) trivial
  | createBill now adminId dto =>
      exact iff_of_true
        (run_bind_congr _ (run_bind_congr _ (run_namedAccount_congr same)))
        trivial
  | payBill now billId =>
      exact iff_of_true (run_bind_congr _ (run_resolved _ same)) trivial
  | bills skip take status =>
      exact iff_of_true (run_bind_congr _ (run_resolved _ same)) trivial
  | fees =>
      refine iff_of_false (fun equal => ?_) id
      exact run_getFeeConfig_ne identified member (run_untracked_iff.mp equal)
  | updateFees patch =>
      refine iff_of_false (fun equal => ?_) id
      exact run_updateFeeConfig_ne identified member patch
        (run_untracked_iff.mp equal)
  | settlements =>
      exact run_untracked_iff.trans (run_settlements_iff identified member)
  | createSettlement now id input =>
      exact iff_of_true (run_bind_congr _ (run_resolved _ same)) trivial
  | updateSettlement now settlementId patch =>
      exact iff_of_true (run_bind_congr _ (run_resolved _ same)) trivial
  | autoSweep enabled =>
      exact iff_of_true (run_bind_congr _ (run_resolved _ same)) trivial
  | sweepNow now random minPayout =>
      exact iff_of_true (run_bind_congr _ (run_resolved _ same)) trivial

/-- One account with its two wallets, the first of which holds 2000. -/
def newcomer : Account where
  id := "a"
  accountId := "ACC-1"
  sourceCode := "AAAAA"

def newcomerWorld : World where
  accounts := Table.empty.insert newcomer
  wallets := (Table.empty.insert { key := ⟨"a", .collection⟩, balance := Money.round 2000 }).insert
    { key := ⟨"a", .disbursement⟩ }

theorem identified_newcomerWorld : Identified newcomerWorld where
  named := by decide
  apart := by decide
  uniquePublic := by decide
  fees := by decide
  settlements := by decide

/-- An administrator pays out of its wallet under either identifier. -/
theorem newcomer_either_identifier :
    let withdraw := AdminOp.withdraw 1 "admin" .collection
      { amount := .value 1500, reason := "paid in cash" }
    ((withdraw.program "ACC-1").run newcomerWorld).2.ledger.length = 1 ∧
    (withdraw.program "ACC-1").run newcomerWorld =
      (withdraw.program "a").run newcomerWorld := by
  intro withdraw
  refine ⟨by decide +kernel, ?_⟩
  exact (either_identifier_iff newcomerWorld identified_newcomerWorld newcomer
    (List.mem_singleton_self _) withdraw).mpr trivial

/-- Its fees are found under the row id, and are missing under the public
identifier. -/
theorem fees_by_row_id_only :
    ¬ ∀ world : World, Identified world → ∀ account ∈ world.accounts.rows,
      ∀ op : AdminOp,
      (op.program account.accountId).run world =
        (op.program account.id).run world := by
  intro always
  have same := always newcomerWorld identified_newcomerWorld newcomer
    (List.mem_singleton_self _) .fees
  have found := congrArg (fun ran => ran.1.toOption.isSome) same
  revert found
  decide +kernel

end CloudStudio.Admin
