import Mathlib.Data.List.Infix
import CloudStudio.Payments.Runs

/-!
# What a payout has cost its wallet

Provider records are applied one after another to a payout whose creation
debited its source wallet.  After them the stored status is the last status
read, while the debit has been returned exactly when some status read was a
failure: the two agree only on orderly sequences.
-/

namespace CloudStudio.Payments

open CloudStudio.Data CloudStudio.Transactions CloudStudio.Platform
open CloudStudio.Wallets

/-- A provider record and the time it is applied. -/
structure Report where
  now : Time
  record : ProviderRecord

/-- The status a payout update stores for the record; it stores none for a
record it cannot write. -/
def Report.status? (report : Report) : Option TxStatus :=
  if report.record.FitsPayout then report.record.nextStatus? else none

/-- Apply records to a payout one after another.  An update that throws leaves
what it has written. -/
def applyPayoutReports (reference : Reference) (reports : List Report)
    (world : World) : World :=
  reports.foldl
    (fun world report =>
      ((applyPayoutUpdate report.now reference report.record).run world).2)
        world

def sourceKey (payout : Payout) : WalletKey :=
  ⟨payout.accountId, payout.sourceWallet⟩

/-- The payout is as its creation left it. -/
structure Created (world : World) (payout : Payout) : Prop where
  stored : world.payouts.find? payout.reference = some payout
  pending : payout.status = .pending
  debited : payout.walletDebitedAt.isSome
  unrefunded : payout.refundedAt = none
  account : (world.accounts.find? payout.accountId).isSome
  wallet : (world.wallets.find? (sourceKey payout)).isSome
  nonneg : 0 ≤ fullDebit payout

/-- The change of the source wallet since just before the creation, which took
the full debit. -/
def netEffect (payout : Payout) (created after : World) : Decimal :=
  after.balance (sourceKey payout) -
    (created.balance (sourceKey payout) + fullDebit payout)

/-- The net effect a stored status stands for. -/
def Agrees (debit : Decimal) (net : Decimal) : TxStatus → Prop
  | .pending | .processing | .success => net = -debit
  | .failed | .reversed | .refunded | .expired => net = 0

def HasFailed (statuses : List TxStatus) : Prop :=
  ∃ status ∈ statuses, status ∈ TERMINAL_FAIL

instance (statuses : List TxStatus) : Decidable (HasFailed statuses) :=
  inferInstanceAs (Decidable (∃ status ∈ statuses, _))

/-- A status may follow these: a payout that is not failed never follows a
failure, and `EXPIRED` only follows one. -/
def MayFollow (earlier : List TxStatus) : TxStatus → Prop
  | .pending | .processing | .success => ¬ HasFailed earlier
  | .expired => HasFailed earlier
  | .failed | .reversed | .refunded => True

/-- Every status may follow those read before it. -/
def Orderly (statuses : List TxStatus) : Prop :=
  ∀ earlier status, earlier ++ [status] <+: statuses → MayFollow earlier status

theorem hasPlaces_fullDebit (payout : Payout) :
    Decimal.HasPlaces 2 (fullDebit payout) := by
  unfold fullDebit
  cases payout.feeAmount with
  | none => exact payout.amount.property
  | some fee => exact payout.amount.property.add fee.property

section

variable {world : World} {payout : Payout} {wallet : Wallet} {amount : Decimal}

/-- An allowed refund is of the full debit, to the wallet that funded the
payout. -/
theorem refund_allowed
    (account : (world.accounts.find? payout.accountId).isSome)
    (allowed : MoveAllowed (payoutRefund payout) world wallet amount) :
    amount = fullDebit payout ∧ world.wallets.find? (sourceKey payout) =
      some wallet := by
  obtain ⟨row, found⟩ := Option.isSome_iff_exists.mp account
  have value := allowed.value
  have wallets := allowed.found
  simp only [payoutRefund, NumberInput.value.injEq,
    Decimal.toFixed_of_hasPlaces (hasPlaces_fullDebit payout)] at value
  simp only [payoutRefund, World.walletKeyOf,
    World.resolve_of_find? found] at wallets
  exact ⟨value.symm, wallets⟩

/-- A refund of an account that has the wallet is refused only when it is of
nothing. -/
theorem refund_refused
    (account : (world.accounts.find? payout.accountId).isSome)
    (present : (world.wallets.find? (sourceKey payout)).isSome)
    (refused : ∀ wallet amount,
      ¬ MoveAllowed (payoutRefund payout) world wallet amount) :
    fullDebit payout = 0 := by
  by_contra nonzero
  obtain ⟨row, found⟩ := Option.isSome_iff_exists.mp account
  obtain ⟨wallet, at_key⟩ := Option.isSome_iff_exists.mp present
  refine refused wallet (fullDebit payout)
    ⟨?_, nonzero, ?_, by simp [payoutRefund], ?_⟩
  · simp only [payoutRefund,
      Decimal.toFixed_of_hasPlaces (hasPlaces_fullDebit payout)]
  · simp only [payoutRefund, World.walletKeyOf, World.resolve_of_find? found]
    exact at_key
  · simp [payoutRefund, isDebit]

/-- A recorded refund adds the full debit to the balance. -/
theorem balance_refunded (now : Time) (nonneg : 0 ≤ fullDebit payout)
    (found : world.wallets.find? (sourceKey payout) = some wallet) :
    (world.record (moveRow now (payoutRefund payout) wallet (fullDebit payout)
        wallet.balance)).balance (sourceKey payout) =
      world.balance (sourceKey payout) + fullDebit payout := by
  have key := Table.key_of_find? found
  have places :
    Decimal.HasPlaces 2 ((wallet.balance : Decimal) + fullDebit payout) :=
    wallet.balance.property.add (hasPlaces_fullDebit payout)
  have at_row : world.wallets.find? (moveRow now (payoutRefund payout) wallet
      (fullDebit payout) wallet.balance).walletId = some wallet := by
    simp only [moveRow, key, found]
  have credit : isDebit (payoutRefund payout).txType (fullDebit payout) =
    false := by
    simp [payoutRefund, isDebit]
  rw [balance_record at_row, balance_eq found]
  simp only [moveRow, key, if_true, credit, Bool.false_eq_true, if_false,
    abs_of_nonneg nonneg, Money.coe_round_of_hasPlaces places]

end

/-! ## Sequences of records -/

/-- What the records read so far have made of the payout's row. -/
structure Follows (payout row : Payout) (statuses : List TxStatus) : Prop where
  accountId : row.accountId = payout.accountId
  sourceWallet : row.sourceWallet = payout.sourceWallet
  amount : row.amount = payout.amount
  feeAmount : row.feeAmount = payout.feeAmount
  debited : row.walletDebitedAt = payout.walletDebitedAt
  status : row.status = statuses.getLast?.getD .pending
  refunded : row.refundedAt.isSome ↔ HasFailed statuses

theorem Follows.sourceKey {payout row : Payout} {statuses : List TxStatus}
    (follows : Follows payout row statuses) :
    sourceKey row = sourceKey payout := by
  simp only [Payments.sourceKey, follows.accountId, follows.sourceWallet]

theorem Follows.fullDebit {payout row : Payout} {statuses : List TxStatus}
    (follows : Follows payout row statuses) :
    fullDebit row = fullDebit payout := by
  simp only [Payments.fullDebit, follows.amount, follows.feeAmount]

/-- What they have made of the payout, its wallet and its account. -/
structure Progress (created : World) (payout : Payout)
    (statuses : List TxStatus) (after : World) : Prop where
  row : ∃ row, after.payouts.find? payout.reference = some row ∧
    Follows payout row statuses
  account : (after.accounts.find? payout.accountId).isSome
  wallet : (after.wallets.find? (sourceKey payout)).isSome
  balance : after.balance (sourceKey payout) =
    created.balance (sourceKey payout) +
    if HasFailed statuses then fullDebit payout else 0

theorem Created.progress {world : World} {payout : Payout}
    (created : Created world payout) :
    Progress world payout [] world where
  row := ⟨payout, created.stored, rfl, rfl, rfl, rfl, rfl, created.pending,
    by simp [created.unrefunded, HasFailed]⟩
  account := created.account
  wallet := created.wallet
  balance := by simp [HasFailed]

theorem hasFailed_append {statuses : List TxStatus} {status : TxStatus} :
    HasFailed (statuses ++ [status]) ↔ HasFailed statuses ∨
      status ∈ TERMINAL_FAIL := by
  simp only [HasFailed, List.mem_append, List.mem_singleton]
  constructor
  · rintro ⟨read, member | rfl, fails⟩
    · exact .inl ⟨read, member, fails⟩
    · exact .inr fails
  · rintro (⟨read, member, fails⟩ | fails)
    · exact ⟨read, .inl member, fails⟩
    · exact ⟨status, .inr rfl, fails⟩

/-- The row written for a status that has been read. -/
theorem Follows.update {payout row : Payout} {statuses : List TxStatus}
    {status : TxStatus} (follows : Follows payout row statuses)
    (debited : payout.walletDebitedAt.isSome) (now : Time)
    (record : ProviderRecord) (shouldRefund : Bool)
    (decides : shouldRefund = true ↔ RefundDue status row) :
    Follows payout (payoutUpdate now record status shouldRefund row row)
      (statuses ++ [status]) := by
  refine ⟨follows.accountId, follows.sourceWallet, follows.amount,
    follows.feeAmount, follows.debited, by simp [payoutUpdate], ?_⟩
  rw [hasFailed_append, ← follows.refunded]
  cases shouldRefund with
  | true =>
      have due := decides.mp rfl
      simp [payoutUpdate, due.1]
  | false =>
      have undue : ¬ RefundDue status row := fun due => by
        simpa using decides.mpr due
      simp only [payoutUpdate, Bool.false_eq_true, if_false]
      constructor
      · exact .inl
      · rintro (refunded | fails)
        · exact refunded
        · by_contra unrefunded
          refine undue ⟨fails, by rwa [follows.debited], ?_⟩
          simpa using unrefunded

section Step

variable {created world : World} {payout row : Payout}
  {statuses : List TxStatus}
variable {status : TxStatus}

/-- Notices and batch counters do not matter. -/
theorem Progress.noticed {after : World} {notices : List Dispatched}
    (now : Time) (batchId : Option Reference)
    (progress : Progress created payout statuses world)
    (noticed : Noticed notices (withRecount now batchId world) after) :
    Progress created payout statuses after := by
  obtain ⟨deliveries, jobs, rfl⟩ := noticed
  cases batchId with
  | none =>
      exact ⟨progress.row, progress.account, progress.wallet, progress.balance⟩
  | some batchId =>
      exact ⟨progress.row, progress.account, progress.wallet, progress.balance⟩

/-- A write that moves no money, because no refund is due or because it is of
nothing. -/
theorem Progress.written (progress : Progress created payout statuses world)
    (debited : payout.walletDebitedAt.isSome)
    (found : world.payouts.find? payout.reference = some row) (now : Time)
    (record : ProviderRecord) (shouldRefund : Bool)
    (decides : shouldRefund = true ↔ RefundDue status row)
    (still : RefundDue status row → fullDebit payout = 0) :
    Progress created payout (statuses ++ [status])
      (withPayout now record status shouldRefund row world) := by
  obtain ⟨row', found', follows⟩ := progress.row
  rw [found] at found'
  cases found'
  have key : row.reference = payout.reference := Table.key_of_find? found
  refine ⟨⟨_, ?_, follows.update debited now record shouldRefund decides⟩,
    progress.account, progress.wallet, ?_⟩
  · simp only [withPayout, key, Table.find?_modify_self, found, Option.map_some]
  · refine progress.balance.trans ?_
    congr 1
    simp only [hasFailed_append]
    by_cases before : HasFailed statuses
    · simp [before]
    · by_cases fails : status ∈ TERMINAL_FAIL
      · have unrefunded : row.refundedAt = none := by
          simpa using fun refunded => before (follows.refunded.mp refunded)
        have due : RefundDue status row :=
          ⟨fails, by rwa [follows.debited], unrefunded⟩
        simp [before, fails, still due]
      · simp [before, fails]

/-- A write and the refund it makes due. -/
theorem Progress.refunded (progress : Progress created payout statuses world)
    (debited : payout.walletDebitedAt.isSome) (nonneg : 0 ≤ fullDebit payout)
    (found : world.payouts.find? payout.reference = some row) (now : Time)
    (record : ProviderRecord) {wallet : Wallet} {amount : Decimal}
    (due : RefundDue status row)
    (allowed : MoveAllowed (payoutRefund row) world wallet amount) :
    Progress created payout (statuses ++ [status])
      ((withPayout now record status true row world).record
        (moveRow now (payoutRefund row) wallet amount wallet.balance)) := by
  obtain ⟨row', found', follows⟩ := progress.row
  rw [found] at found'
  cases found'
  have key : row.reference = payout.reference := Table.key_of_find? found
  have account : (world.accounts.find? row.accountId).isSome := by
    rw [follows.accountId]
    exact progress.account
  obtain ⟨rfl, at_key⟩ := refund_allowed account allowed
  have unrefunded : ¬ HasFailed statuses := by
    rw [← follows.refunded, due.2.2]
    simp
  have nonneg : 0 ≤ fullDebit row := by rwa [follows.fullDebit]
  have credited := balance_refunded now nonneg at_key
  refine ⟨⟨_, ?_, follows.update debited now record true (by simp [due])⟩,
    progress.account,
    ?_, ?_⟩
  · simp only [withPayout, World.record, key, Table.find?_modify_self, found,
      Option.map_some]
  · have present := progress.wallet
    simp only [World.record, withPayout, Table.find?_modify]
    split <;> simpa using present
  · have balance := progress.balance
    rw [if_neg unrefunded, add_zero] at balance
    rw [if_pos
      (hasFailed_append.mpr (.inr due.1)), ← balance, ← follows.sourceKey,
      ← follows.fullDebit]
    exact credited

theorem Progress.settled {settled : World}
    (progress : Progress created payout statuses world)
    (debited : payout.walletDebitedAt.isSome) (nonneg : 0 ≤ fullDebit payout)
    (found : world.payouts.find? payout.reference = some row) {now : Time}
    {record : ProviderRecord}
    (settles : Settled now record status row world settled) :
    Progress created payout (statuses ++ [status]) settled := by
  cases settles with
  | kept undue =>
      exact progress.written debited found now record false (by simp [undue])
        fun due => absurd due undue
  | refunded wallet amount due allowed =>
      exact progress.refunded debited nonneg found now record due allowed

/-- Reading a final status again makes no difference. -/
theorem Progress.repeated (progress : Progress created payout statuses world)
    (found : world.payouts.find? payout.reference = some row)
    (isFinal : row.status ∈ FINAL_STATUSES) :
    Progress created payout (statuses ++ [row.status]) world := by
  obtain ⟨row', found', follows⟩ := progress.row
  rw [found] at found'
  cases found'
  have last : row.status ∈ statuses := by
    cases at_end : statuses.getLast? with
    | none =>
        have pending := follows.status
        rw [at_end] at pending
        rw [pending] at isFinal
        simp [FINAL_STATUSES] at isFinal
    | some status =>
        have same := follows.status
        rw [at_end] at same
        rw [same]
        exact List.mem_of_getLast? at_end
  have same : HasFailed (statuses ++ [row.status]) ↔ HasFailed statuses := by
    rw [hasFailed_append]
    exact ⟨fun failed => failed.elim id fun fails => ⟨_, last, fails⟩, .inl⟩
  refine ⟨⟨row, found, ?_⟩, progress.account, progress.wallet, ?_⟩
  · exact ⟨follows.accountId, follows.sourceWallet, follows.amount,
      follows.feeAmount,
      follows.debited, by simp, follows.refunded.trans same.symm⟩
  · simp only [same]
    exact progress.balance

end Step

/-- One record makes the progress its status says. -/
theorem Progress.step {created world : World} {payout : Payout}
    {statuses : List TxStatus}
    (progress : Progress created payout statuses world)
    (debited : payout.walletDebitedAt.isSome) (nonneg : 0 ≤ fullDebit payout)
    (report : Report) :
    Progress created payout (statuses ++ report.status?.toList)
      ((applyPayoutUpdate report.now payout.reference report.record).run
        world).2 := by
  obtain ⟨row, found, follows⟩ := progress.row
  have runs :=
    run_applyPayoutUpdate report.now payout.reference report.record world
  generalize
    ((applyPayoutUpdate report.now payout.reference report.record).run
    world).1 = result at runs
  generalize
    ((applyPayoutUpdate report.now payout.reference report.record).run
    world).2 = after at runs ⊢
  have read {status : TxStatus}
    (mapped : report.record.nextStatus? = some status)
      (fits : report.record.FitsPayout) : report.status? = some status :=
    (if_pos fits).trans mapped
  cases runs with
  | unknown absent => simp [absent] at found
  | unreadable other found' unreadable =>
      have none_read : report.status? = none := by
        simp [Report.status?, unreadable]
      simpa [none_read] using progress
  | unchanged other nextStatus found' mapped isFinal same =>
      rw [found] at found'
      cases found'
      subst same
      by_cases fits : report.record.FitsPayout
      · rw [read mapped fits]
        exact progress.repeated found isFinal
      · have none_read : report.status? = none := if_neg fits
        simpa [none_read] using progress
  | refused other nextStatus found' mapped changes unfit =>
      have none_read : report.status? = none := if_neg unfit
      simpa [none_read] using progress
  | unrefunded other nextStatus error found' mapped changes fits due refused =>
      rw [found] at found'
      cases found'
      rw [read mapped fits]
      refine progress.written debited found report.now report.record true
        (by simp [due]) fun _ => ?_
      rw [← follows.fullDebit]
      refine refund_refused ?_ ?_ refused
      · rw [follows.accountId]
        exact progress.account
      · rw [follows.sourceKey]
        exact progress.wallet
  | uncounted other nextStatus settled after batchId found' mapped changes
      fits settles batch absent noticed =>
      rw [found] at found'
      cases found'
      rw [read mapped fits]
      exact (progress.settled debited nonneg found settles).noticed
        report.now none noticed
  | finished other nextStatus settled after recounts found' mapped
      changes fits settles single noticed =>
      rw [found] at found'
      cases found'
      rw [read mapped fits]
      exact (progress.settled debited nonneg found settles).noticed
        report.now _ noticed

/-- The progress after a whole sequence of records. -/
theorem Created.run {world : World} {payout : Payout}
    (created : Created world payout) (reports : List Report) :
    Progress world payout (reports.filterMap Report.status?)
      (applyPayoutReports payout.reference reports world) := by
  induction reports using List.reverseRecOn with
  | nil => exact created.progress
  | append_singleton earlier report ih =>
      have step := ih.step created.debited created.nonneg report
      rw [applyPayoutReports, List.foldl_append, List.filterMap_append]
      cases read : report.status? with
      | none => simpa [read, applyPayoutReports] using step
      | some status => simpa [read, applyPayoutReports] using step

/-- The status after these records agrees with the net effect they have had. -/
def AgreesAfter (created : World) (payout : Payout) (applied : List Report) :
    Prop :=
  ∃ row,
    (applyPayoutReports payout.reference applied created).payouts.find?
      payout.reference = some row ∧
    Agrees (fullDebit payout)
      (netEffect payout created
        (applyPayoutReports payout.reference applied created))
      row.status

/-- What has been read last fits what has been read before it. -/
theorem agreesAfter_iff {world : World} {payout : Payout}
    (created : Created world payout) (applied : List Report) :
    AgreesAfter world payout applied ↔
      Agrees (fullDebit payout)
        (if HasFailed (applied.filterMap Report.status?) then 0 else -fullDebit
          payout)
        ((applied.filterMap Report.status?).getLast?.getD .pending) := by
  have progress := created.run applied
  obtain ⟨row, found, follows⟩ := progress.row
  have net :
    netEffect payout world (applyPayoutReports payout.reference applied world) =
      if HasFailed (applied.filterMap Report.status?) then 0 else -fullDebit
        payout := by
    rw [netEffect, progress.balance]
    split <;> ring
  rw [← net, ← follows.status]
  constructor
  · rintro ⟨row', found', agrees⟩
    rw [found] at found'
    cases found'
    exact agrees
  · exact fun agrees => ⟨row, found, agrees⟩

/-- A non-zero debit and the last status read agree when that status may
follow. -/
theorem agrees_iff_mayFollow {debit : Decimal} (nonzero : debit ≠ 0)
    (earlier : List TxStatus) (status : TxStatus) :
    Agrees debit (if HasFailed (earlier ++ [status]) then 0 else -debit)
      status ↔ MayFollow earlier status := by
  have kept : ¬ (0 : Decimal) = -debit := fun same => nonzero (by linarith)
  have returned : ¬ -debit = (0 : Decimal) := fun same => nonzero (by linarith)
  by_cases before : HasFailed earlier <;> cases status <;>
    simp [Agrees, MayFollow, hasFailed_append, before, TERMINAL_FAIL,
      kept, returned]

/-- The net effect of a payout is what its stored status says, after each record
of a sequence, exactly when the statuses read are orderly (or there was nothing
to debit). -/
theorem net_effect_iff (world : World) (payout : Payout)
    (created : Created world payout) (reports : List Report) :
    (∀ applied, applied <+: reports → AgreesAfter world payout applied) ↔
      fullDebit payout = 0 ∨ Orderly (reports.filterMap Report.status?) := by
  simp only [agreesAfter_iff created]
  constructor
  · intro agrees
    by_cases nothing : fullDebit payout = 0
    · exact .inl nothing
    refine .inr fun earlier status prior => ?_
    obtain ⟨later, statuses⟩ := prior
    obtain ⟨applied, rest, reports_eq, read, _⟩ :=
      List.filterMap_eq_append_iff.mp statuses.symm
    have now := agrees applied ⟨rest, reports_eq.symm⟩
    rw [read] at now
    simpa [agrees_iff_mayFollow nothing] using now
  · rintro (nothing | orderly) applied prior
    · cases (applied.filterMap Report.status?).getLast?.getD .pending <;>
        simp [Agrees, nothing]
    · have statuses := prior.filterMap Report.status?
      cases read : applied.filterMap Report.status? using List.reverseRecOn with
      | nil => simp [Agrees, HasFailed]
      | append_singleton earlier status =>
          rw [read] at statuses
          have follows := orderly earlier status statuses
          by_cases nothing : fullDebit payout = 0
          · cases status <;> simp [Agrees, nothing]
          · simpa using (agrees_iff_mayFollow nothing earlier status).mpr
              follows

/-- A payout of 1000 with a fee of 50, as its creation left it. -/
def heldPayout : Payout where
  accountId := "a"
  channel := .mobileMoney
  reference := "AAAAA000000000000001"
  amount := Money.round 1000
  feeAmount := some (Money.round 50)
  feeBps := some 500
  phoneNumber := some "255712345678"
  walletDebitedAt := some 1
  createdAt := 1
  updatedAt := 1

def heldWorld : World where
  accounts :=
    Table.empty.insert { id := "a", accountId := "ACC-1"
                         sourceCode := "AAAAA" }
  wallets := (Table.empty.insert { key := ⟨"a", .collection⟩ }).insert
    { key := ⟨"a", .disbursement⟩ }
  payouts := Table.empty.insert heldPayout

theorem created_heldPayout : Created heldWorld heldPayout := by
  constructor <;> decide +kernel

def reading (status : String) : Report := ⟨2, { status := .given status }⟩

theorem net_effect_iff_failed :
    (∀ applied, applied <+: [reading "PROCESSING", reading "FAILED"] →
        AgreesAfter heldWorld heldPayout applied) ↔
      fullDebit heldPayout = 0 ∨ Orderly
        ([reading "PROCESSING", reading "FAILED"].filterMap Report.status?) :=
  net_effect_iff heldWorld heldPayout created_heldPayout _

/-- A success after a failure: the status is `SUCCESS` and the debit has been
returned. -/
theorem refunded_success :
    ¬ AgreesAfter heldWorld heldPayout [reading "FAILED",
      reading "SUCCESS"] := by
  rintro ⟨row, found, agrees⟩
  have status : ((applyPayoutReports heldPayout.reference
      [reading "FAILED", reading "SUCCESS"] heldWorld).payouts.find?
      heldPayout.reference).map Payout.status = some .success := by
        decide +kernel
  have net :
    netEffect heldPayout heldWorld (applyPayoutReports heldPayout.reference
      [reading "FAILED", reading "SUCCESS"] heldWorld) = 0 := by decide +kernel
  have debit : fullDebit heldPayout = 1050 := by decide +kernel
  rw [found] at status
  rw [Option.some.inj status, net, debit] at agrees
  norm_num [Agrees] at agrees

end CloudStudio.Payments
