import CloudStudio.Payments.ExactlyOnce
import CloudStudio.Payouts.Debits
import CloudStudio.Wallets.Freezing

/-!
# What a failed payout is refunded

Provider records are applied to a created payout one after another, while
wallets are frozen and unfrozen.  The refund is one row of what the creation
charged, on the wallet that was debited, as soon as some record has failed the
payout; it does not depend on the order of the records or on how often each
comes.
-/

namespace CloudStudio.Payouts

open CloudStudio.Data CloudStudio.Transactions CloudStudio.Platform
open CloudStudio.Payments
open CloudStudio.Wallets

/-- A provider record is applied, or a wallet is frozen or unfrozen. -/
inductive Happening where
  | report (report : Report)
  | setFrozen (accountId : String) (type : WalletType) (frozen : Bool)

def Happening.report? : Happening → Option Report
  | .report applied => some applied
  | .setFrozen .. => none

def Happening.apply (reference : Reference) (happening : Happening)
    (world : World) : World :=
  match happening with
  | .report applied =>
      ((applyPayoutUpdate applied.now reference applied.record).run world).2
  | .setFrozen accountId type frozen =>
      ((Wallets.setFrozen accountId type frozen).run world).2

/-- What happens, one after another. -/
def applyAll (reference : Reference) (happenings : List Happening)
    (world : World) : World :=
  happenings.foldl (fun world happening => happening.apply reference world)
    world

/-- The record is one that an update writes, and it fails the payout: it maps to
`FAILED`, `REVERSED` or `REFUNDED`. -/
def Report.Fails (report : Report) : Prop :=
  ∃ status ∈ report.status?, status ∈ TERMINAL_FAIL

/-- The refund rows of the payout since its creation. -/
def refunds (payout : Payout) (created after : World) :
    List WalletTransaction :=
  (movements after ⟨.refund, payout.reference⟩).drop
    (movements created ⟨.refund, payout.reference⟩).length

def refundTotal (payout : Payout) (created after : World) : Decimal :=
  ((refunds payout created after).map fun row => (row.amount : Decimal)).sum

/-- Whatever happens after the creation, the payout is refunded its debit in
full or not at all: in full when a record has failed it, to the wallet that was
debited, and whatever the order and the repetitions of the records. -/
structure RefundedInFull (payout : Payout) (created : World) (debit : Decimal) :
    Prop where
  zeroOrFull : ∀ happenings,
    refundTotal payout created (applyAll payout.reference happenings created) =
      0 ∨
      refundTotal payout created
        (applyAll payout.reference happenings created) = debit
  full : ∀ happenings,
    refundTotal payout created (applyAll payout.reference happenings created) =
      debit ↔
      ∃ report ∈ happenings.filterMap Happening.report?, Report.Fails report
  toSource : ∀ happenings,
    (∀ row ∈ refunds payout created (applyAll payout.reference happenings created),
      row.walletId = sourceKey payout) ∧
    (applyAll payout.reference happenings created).balance (sourceKey payout) =
      created.balance (sourceKey payout) +
        refundTotal payout created
          (applyAll payout.reference happenings created)
  regardless : ∀ happenings others,
    (∀ record,
      record ∈ (happenings.filterMap Happening.report?).map Report.record ↔
      record ∈ (others.filterMap Happening.report?).map Report.record) →
    refundTotal payout created (applyAll payout.reference happenings created) =
      refundTotal payout created (applyAll payout.reference others created)

/-! ## One record -/

/-- What a list of refund rows gives back, and where. -/
def given (rows : List WalletTransaction) : List (WalletKey × Decimal) :=
  rows.map fun row => (row.walletId, (row.amount : Decimal))

/-- The refund that these statuses make due. -/
def refundOf (payout : Payout) (statuses : List TxStatus) :
    List (WalletKey × Decimal) :=
  if HasFailed statuses then [(sourceKey payout, fullDebit payout)] else []

/-- The progress of a payout, with the refund rows it has been given. -/
structure Refunding (created : World) (payout : Payout)
    (statuses : List TxStatus) (after : World) : Prop where
  progress : Progress created payout statuses after
  rows : ∃ rows, movements after ⟨.refund, payout.reference⟩ =
    movements created ⟨.refund, payout.reference⟩ ++ rows ∧
      given rows = refundOf payout statuses

section

variable {created world : World} {payout row : Payout}
  {statuses : List TxStatus}
variable {status : TxStatus}

/-- A refund is due on a failing status that is the first. -/
theorem refundDue_iff (follows : Follows payout row statuses)
    (debited : payout.walletDebitedAt.isSome) :
    RefundDue status row ↔ status ∈ TERMINAL_FAIL ∧ ¬ HasFailed statuses := by
  unfold RefundDue
  rw [follows.debited, ← follows.refunded]
  simp [debited]

theorem refundOf_append :
    refundOf payout (statuses ++ [status]) = refundOf payout statuses ++
      if status ∈ TERMINAL_FAIL ∧
        ¬ HasFailed statuses then [(sourceKey payout, fullDebit payout)]
      else [] := by
  unfold refundOf
  by_cases before : HasFailed statuses <;> by_cases fails :
    status ∈ TERMINAL_FAIL <;>
    simp [hasFailed_append, before, fails]

/-- The row write and the refund add what the status makes due. -/
theorem settled_refunding {settled : World} {now : Time}
    {record : ProviderRecord}
    (progress : Progress created payout statuses world)
    (found : world.payouts.find? payout.reference = some row)
    (follows : Follows payout row statuses)
    (debited : payout.walletDebitedAt.isSome) (nonneg : 0 ≤ fullDebit payout)
    (settles : Payments.Settled now record status row world settled) :
    ∃ rows, movements settled ⟨.refund, payout.reference⟩ =
      movements world ⟨.refund, payout.reference⟩ ++ rows ∧
        given rows = if status ∈ TERMINAL_FAIL ∧ ¬ HasFailed statuses then
          [(sourceKey payout, fullDebit payout)] else [] := by
  cases settles with
  | kept undue =>
      refine ⟨[], (List.append_nil _).symm, ?_⟩
      rw [refundDue_iff follows debited] at undue
      rw [if_neg undue]
      rfl
  | refunded wallet amount due allowed =>
      have key : row.reference = payout.reference := Table.key_of_find? found
      have account : (world.accounts.find? row.accountId).isSome := by
        rw [follows.accountId]
        exact progress.account
      obtain ⟨rfl, at_key⟩ := refund_allowed account allowed
      rw [refundDue_iff follows debited] at due
      refine ⟨[moveRow now (payoutRefund row) wallet (fullDebit row)
        wallet.balance], ?_, ?_⟩
      · simp [movements, World.record, withPayout, moveRow, payoutRefund, key]
      · have walletKey : wallet.key = sourceKey payout := by
          rw [Table.key_of_find? at_key, follows.sourceKey]
        have debit : fullDebit row = fullDebit payout := follows.fullDebit
        have amount := moveRow_credit now wallet wallet.balance
          (show isDebit (payoutRefund row).txType (fullDebit row) = false by
            simp [payoutRefund, isDebit])
          (debit ▸ nonneg) (hasPlaces_fullDebit row)
        rw [if_pos due, given, List.map_singleton, amount, debit]
        exact congrArg (fun key => [(key, fullDebit payout)]) walletKey

/-- The ledger after a record: the refund that its status makes due is added. -/
theorem Refunding.step (refunding : Refunding created payout statuses world)
    (debited : payout.walletDebitedAt.isSome) (positive : 0 < fullDebit payout)
    (report : Report) :
    Refunding created payout (statuses ++ report.status?.toList)
      ((applyPayoutUpdate report.now payout.reference report.record).run
        world).2 := by
  obtain ⟨progress, rows, ledger, returned⟩ := refunding
  refine ⟨progress.step debited positive.le report, ?_⟩
  obtain ⟨row, found, follows⟩ := progress.row
  have runs :=
    run_applyPayoutUpdate report.now payout.reference report.record world
  generalize
    ((applyPayoutUpdate report.now payout.reference report.record).run
    world).1 = result at runs
  generalize
    ((applyPayoutUpdate report.now payout.reference report.record).run
    world).2 = after at runs ⊢
  have read {status : TxStatus}
    (mapped : report.record.nextStatus? = some status)
      (fits : report.record.FitsPayout) : report.status? = some status :=
    (if_pos fits).trans mapped
  have kept (unwritten : report.status? = none) : ∃ rows,
      movements world ⟨.refund, payout.reference⟩ =
        movements created ⟨.refund, payout.reference⟩ ++ rows ∧
        given rows = refundOf payout (statuses ++ report.status?.toList) := by
    refine ⟨rows, ledger, ?_⟩
    rw [unwritten, returned]
    simp
  have settled {settled : World} {nextStatus : TxStatus}
      (mapped : report.record.nextStatus? = some nextStatus)
        (fits : report.record.FitsPayout)
      (settles : Payments.Settled report.now report.record nextStatus
        row world settled)
      (same : after.ledger = settled.ledger) : ∃ rows,
      movements after ⟨.refund, payout.reference⟩ =
        movements created ⟨.refund, payout.reference⟩ ++ rows ∧
        given rows = refundOf payout (statuses ++ report.status?.toList) := by
    obtain ⟨added, more, gives⟩ :=
      settled_refunding progress found follows debited positive.le settles
    refine ⟨rows ++ added, ?_, ?_⟩
    · rw [movements_congr _ same, more, ledger, List.append_assoc]
    · rw [read mapped fits, Option.toList_some,
        refundOf_append, ← returned, ← gives]
      exact List.map_append
  cases runs with
  | unknown absent => simp [absent] at found
  | unreadable other found' unreadable =>
      exact kept (by simp [Report.status?, unreadable])
  | unchanged other nextStatus found' mapped isFinal same =>
      rw [found] at found'
      cases found'
      subst same
      refine ⟨rows, ledger, ?_⟩
      rw [returned]
      by_cases fits : report.record.FitsPayout
      · have repeated := (progress.repeated found isFinal).row
        obtain ⟨again, found', followsAgain⟩ := repeated
        rw [found] at found'
        cases found'
        have same : HasFailed (statuses ++ [row.status]) ↔ HasFailed statuses :=
          followsAgain.refunded.symm.trans follows.refunded
        rw [read mapped fits, Option.toList_some, refundOf, refundOf]
        simp only [same]
      · rw [show report.status? = none from if_neg fits]
        simp
  | refused other nextStatus found' mapped changes unfit =>
      exact kept (if_neg unfit)
  | unrefunded other nextStatus error found' mapped changes fits due refused =>
      rw [found] at found'
      cases found'
      have nothing : fullDebit row = 0 := by
        apply refund_refused ?_ ?_ refused
        · rw [follows.accountId]
          exact progress.account
        · rw [follows.sourceKey]
          exact progress.wallet
      rw [follows.fullDebit] at nothing
      exact absurd nothing positive.ne'
  | uncounted other nextStatus settledWorld after batchId found' mapped
      changes fits settles batch absent noticed =>
      rw [found] at found'
      cases found'
      obtain ⟨deliveries, jobs, rfl⟩ := noticed
      exact settled mapped fits settles rfl
  | finished other nextStatus settledWorld after recounts found' mapped
      changes fits settles single noticed =>
      rw [found] at found'
      cases found'
      obtain ⟨deliveries, jobs, rfl⟩ := noticed
      refine settled mapped fits settles ?_
      cases row.batchId <;> rfl

/-- Setting the status of a wallet moves nothing and writes no row. -/
theorem Refunding.frozen (refunding : Refunding created payout statuses world)
    (accountId : String) (type : WalletType) (frozen : Bool) :
    Refunding created payout statuses
      ((Wallets.setFrozen accountId type frozen).run world).2 := by
  simp only [Wallets.setFrozen, Program.run_bind, run_getWallet]
  cases found : world.wallets.find? (world.walletKeyOf accountId type) with
  | none => exact refunding
  | some wallet =>
      have key := Table.key_of_find? found
      simp only [Program.run_perform, Relation.update, Platform.wallets, key,
        found]
      obtain ⟨progress, rows, ledger, returned⟩ := refunding
      refine ⟨⟨progress.row, progress.account, ?_, ?_⟩, rows, ledger, returned⟩
      · have present := progress.wallet
        simp only [Table.find?_modify]
        split <;> simpa using present
      · exact (balance_setStatus world _ _ _).trans progress.balance

end

/-- The statuses of the records among what happens. -/
def statusesOf (happenings : List Happening) : List TxStatus :=
  (happenings.filterMap Happening.report?).filterMap Report.status?

theorem Refunding.run {created : World} {payout : Payout}
    (held : Payments.Created created payout) (positive : 0 < fullDebit payout)
    (happenings : List Happening) :
    Refunding created payout (statusesOf happenings)
      (applyAll payout.reference happenings created) := by
  induction happenings using List.reverseRecOn with
  | nil => exact ⟨held.progress, [], (List.append_nil _).symm, rfl⟩
  | append_singleton earlier happening ih =>
      rw [applyAll, List.foldl_append]
      cases happening with
      | report report =>
          have step := ih.step held.debited positive report
          have read : statusesOf (earlier ++ [.report report]) =
              statusesOf earlier ++ report.status?.toList := by
            cases status : report.status?
              <;> simp [statusesOf, Happening.report?, status]
          rw [read]
          exact step
      | setFrozen accountId type frozen =>
          have read :
            statusesOf (earlier ++ [.setFrozen accountId type frozen]) =
              statusesOf earlier := by
            simp [statusesOf, Happening.report?]
          rw [read]
          exact ih.frozen accountId type frozen

theorem hasFailed_statusesOf {happenings : List Happening} :
    HasFailed (statusesOf happenings) ↔
      ∃ report ∈ happenings.filterMap Happening.report?,
        Report.Fails report := by
  unfold HasFailed statusesOf Report.Fails
  simp only [List.mem_filterMap (f := Report.status?)]
  constructor
  · rintro ⟨status, ⟨report, member, read⟩, fails⟩
    exact ⟨report, member, status, read, fails⟩
  · rintro ⟨report, member, status, read, fails⟩
    exact ⟨status, ⟨report, member, read⟩, fails⟩

/-- Whether a record fails the payout does not depend on when it comes. -/
theorem fails_of_record {first second : Report}
    (same : first.record = second.record) (fails : Report.Fails first) :
    Report.Fails second := by
  unfold Report.Fails Report.status? at fails ⊢
  rwa [← same]

theorem refundedInFull {created : World} {payout : Payout}
    (held : Payments.Created created payout) (positive : 0 < fullDebit payout) :
    RefundedInFull payout created (fullDebit payout) := by
  have total (happenings : List Happening) :
      refundTotal payout created
        (applyAll payout.reference happenings created) =
        if HasFailed (statusesOf happenings) then fullDebit payout else 0 := by
    obtain ⟨_, rows, ledger, returned⟩ := Refunding.run held positive happenings
    have amounts := congrArg (List.map Prod.snd) returned
    rw [refundTotal, refunds, ledger, List.drop_left]
    simp only [given, refundOf, List.map_map] at amounts
    change (rows.map fun row => (row.amount : Decimal)) = _ at amounts
    rw [amounts]
    split <;> simp
  constructor
  · intro happenings
    rw [total]
    split
    · exact .inr rfl
    · exact .inl rfl
  · intro happenings
    rw [total, ← hasFailed_statusesOf]
    constructor
    · intro full
      by_contra standing
      rw [if_neg standing] at full
      exact positive.ne full
    · exact fun failed => if_pos failed
  · intro happenings
    obtain ⟨progress, rows, ledger, returned⟩ :=
      Refunding.run held positive happenings
    constructor
    · intro row member
      rw [refunds, ledger, List.drop_left] at member
      have among : (row.walletId, (row.amount : Decimal)) ∈ given rows :=
        List.mem_map_of_mem member
      rw [returned, refundOf] at among
      split at among
      · exact congrArg Prod.fst (List.mem_singleton.mp among)
      · exact absurd among List.not_mem_nil
    · rw [progress.balance, total]
  · intro happenings others same
    have transfers (first second : List Happening)
        (within :
          ∀ record ∈ (first.filterMap Happening.report?).map Report.record,
          record ∈ (second.filterMap Happening.report?).map Report.record)
        (failed : HasFailed (statusesOf first)) :
          HasFailed (statusesOf second) := by
      rw [hasFailed_statusesOf] at failed ⊢
      obtain ⟨report, member, fails⟩ := failed
      obtain ⟨other, among, sameRecord⟩ := List.mem_map.mp
        (within report.record (List.mem_map_of_mem member))
      exact ⟨other, among, fails_of_record sameRecord.symm fails⟩
    have iff : HasFailed (statusesOf happenings) ↔
      HasFailed (statusesOf others) :=
      ⟨transfers happenings others fun record member => (same record).mp member,
        transfers others happenings fun record member =>
          (same record).mpr member⟩
    rw [total, total]
    simp only [iff]

/-- For every payout of a positive amount that one of the six ways creates,
whatever fails in the call: one row debits what the way charges, and the records
that come later refund that charge in full or not at all. -/
theorem refunded_in_full (creation : Creation)
    (faults : Site → Option (Fault AppError)) (world : World) (payout : Payout)
    (positive : 0 < (payout.amount : Decimal))
    (created :
      payout ∈ addedPayouts world (creation.program.exec faults world).2) :
    ∃ row,
      Debited creation.charge
        (addedRows world (creation.program.exec faults world).2)
        (addedPayouts world (creation.program.exec faults world).2) payout row ∧
      RefundedInFull payout (creation.program.exec faults world).2
        (creation.charge payout row) := by
  obtain ⟨rows, payouts, accounted⟩ := creation.accounted faults world
  rw [accounted.adds.addedPayouts_eq] at created
  rw [accounted.adds.addedRows_eq, accounted.adds.addedPayouts_eq]
  obtain ⟨row, debited, charged, held⟩ := accounted.debited payout created
  refine ⟨row, debited, ?_⟩
  rw [charged]
  exact refundedInFull held (accounted.positive payout created positive)

/-- An account with 100000 to pay out. -/
def fundedWorld : World where
  accounts :=
    Table.empty.insert { id := "a", accountId := "ACC-1"
                         sourceCode := "AAAAA" }
  wallets := Table.empty.insert { key := ⟨"a", .disbursement⟩, balance := Money.round 100000 }

def paying : Creation :=
  .createPayout 2 [] "a" .mobileMoney
    { amount := Amount.shillings 5000, reference := some "000000000000001"
      phoneNumber := some "255712345678" }

/-- The payout of that call, with its fee of 100. -/
def paidOut : Payout where
  accountId := "a"
  channel := .mobileMoney
  reference := "AAAAA000000000000001"
  clientReference := some "000000000000001"
  amount := Money.round 5000
  feeAmount := some (Money.round 100)
  feeBps := some 200
  phoneNumber := some "255712345678"
  walletDebitedAt := some 2
  createdAt := 2
  updatedAt := 2

theorem refunded_in_full_paidOut :
    ∃ row,
      Debited paying.charge
        (addedRows fundedWorld
          (paying.program.exec (fun _ => none) fundedWorld).2)
        (addedPayouts fundedWorld
          (paying.program.exec (fun _ => none) fundedWorld).2) paidOut row ∧
      RefundedInFull paidOut (paying.program.exec (fun _ => none) fundedWorld).2
        (paying.charge paidOut row) :=
  refunded_in_full paying (fun _ => none) fundedWorld paidOut (by decide +kernel)
    (by decide +kernel)

end CloudStudio.Payouts
