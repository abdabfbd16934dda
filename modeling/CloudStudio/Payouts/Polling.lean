import CloudStudio.Data.Sweeps
import CloudStudio.Payments.Services
import CloudStudio.Payouts.Bookkeeping

/-!
# Polling open rows

`pollPending` of collections, deposits and disbursements.  A run asks the
provider for the oldest open rows, as many as fit a batch.  A row that stays
open is asked for again in every run, so a newer one waits until few enough are
left before it, and a status update that throws ends the run.
-/

namespace CloudStudio.Payouts

open CloudStudio.Data CloudStudio.Transactions CloudStudio.Platform
open CloudStudio.Payments

/-- The payouts as the poll of them sees them. -/
def payoutsService : PaymentService Payout.reference where
  name := "Payout"
  relation := payouts
  accountId := Payout.accountId
  status := Payout.status
  createdAt := Payout.createdAt
  applyUpdate := applyPayoutUpdate

/-- One turn of the loop over payouts. -/
def pollPayout (now : Time)
    (queryPayout : Reference → ProviderResult (List ProviderRecord))
    (wanted : Reference) : Db Unit :=
  match firstRecord (queryPayout wanted) with
  | some record => Program.discard (applyPayoutUpdate now wanted record)
  | none => pure ()

/-- Cron: poll pending payouts (missed webhooks). -/
def pollPendingPayouts (now afterMs : Time) (batchSize : ℕ)
    (queryPayout : Reference → ProviderResult (List ProviderRecord)) :
    Db Unit :=
  do
  let pending ← Program.perform (select "Payout.findMany"
    (payoutsService.openRows now afterMs batchSize))
  Program.forEach pending (pollPayout now queryPayout)

/-- The rows of a poll, its turn for one of them, and whether that turn asks the
provider. -/
structure Poller {Row : Type} (reference : Row → Reference) where
  service : PaymentService reference
  turn : Time → (Reference → ProviderResult (List ProviderRecord)) →
    Reference → Db Unit
  asks : Reference → World → Bool

/-- The payment services look the row up again before they ask. -/
def servicePoller {Row : Type} {reference : Row → Reference}
    (service : PaymentService reference) : Poller reference where
  service
  turn := service.pollOne
  asks := fun wanted world =>
    ((service.relation.table world).find? wanted).isSome

def collectionsPoller : Poller Collection.reference :=
  servicePoller collectionsService

def depositsPoller : Poller Deposit.reference := servicePoller depositsService

def payoutsPoller : Poller Payout.reference where
  service := payoutsService
  turn := pollPayout
  asks := fun _ _ => true

/-- One run of a poll: when, and what the provider answers in it. -/
structure PollRun where
  now : Time
  query : Reference → ProviderResult (List ProviderRecord)

namespace Poller

variable {Row : Type} {reference : Row → Reference} (poller : Poller reference)

/-- The references asked for, turn after turn until one throws, and the state
left. -/
def ask (run : PollRun) : List Reference → World → List Reference × World
  | [], world => ([], world)
  | wanted :: rest, world =>
      let answer := (poller.turn run.now run.query wanted).run world
      let asked := if poller.asks wanted world then [wanted] else []
      if answer.1.isOk then
        (asked ++ (ask run rest answer.2).1, (ask run rest answer.2).2)
      else (asked, answer.2)

def poll (afterMs : Time) (batchSize : ℕ) (run : PollRun) (world : World) :
    List Reference × World :=
  poller.ask run (poller.service.openRows run.now afterMs batchSize world) world

/-- Run after run. -/
def polls (afterMs : Time) (batchSize : ℕ) :
    List PollRun → World → List Reference × World
  | [], world => ([], world)
  | run :: later, world =>
      let first := poller.poll afterMs batchSize run world
      let others := polls afterMs batchSize later first.2
      (first.1 ++ others.1, others.2)

/-- The state is the one the loop leaves. -/
theorem ask_state (run : PollRun) (pending : List Reference) (world : World) :
    (poller.ask run pending world).2 =
      ((Program.forEach pending (poller.turn run.now run.query)).run
        world).2 := by
  induction pending generalizing world with
  | nil => rfl
  | cons wanted rest ih =>
      change _ = ((poller.turn run.now run.query wanted >>= fun _ =>
        Program.forEach rest (poller.turn run.now run.query)).run world).2
      rw [Program.run_bind, ask]
      rcases (poller.turn run.now run.query wanted).run world with
        ⟨error | answer, after⟩
      · rfl
      · exact ih after

end Poller

/-- The state a poll of payments leaves. -/
theorem run_pollPending {Row : Type} {reference : Row → Reference}
    (service : PaymentService reference) (afterMs : Time) (batchSize : ℕ)
    (run : PollRun) (world : World) :
    ((service.pollPending run.now afterMs batchSize run.query).run world).2 =
      ((servicePoller service).poll afterMs batchSize run world).2 := by
  rw [Poller.poll, Poller.ask_state]
  simp only [PaymentService.pollPending, Program.run_bind, Program.run_perform,
    select, servicePoller]
  rcases (Program.forEach (service.openRows run.now afterMs batchSize world)
    (service.pollOne run.now run.query)).run world with ⟨error | answer, after⟩
  · rfl
  · rfl

theorem run_pollPendingPayouts (afterMs : Time) (batchSize : ℕ) (run : PollRun)
    (world : World) :
    ((pollPendingPayouts run.now afterMs batchSize run.query).run world).2 =
      (payoutsPoller.poll afterMs batchSize run world).2 := by
  rw [Poller.poll, Poller.ask_state]
  simp only [pollPendingPayouts, Program.run_bind, Program.run_perform,
    select, payoutsPoller]

section

variable {Row : Type} {reference : Row → Reference}
  (service : PaymentService reference)

/-- PENDING or PROCESSING. -/
def isOpen (world : World) (wanted : Reference) : Bool :=
  ((service.relation.table world).find? wanted).any fun row =>
    service.status row ∈ [TxStatus.pending, .processing]

/-- The rows and when they were created. -/
def stamps (world : World) : List (Reference × Time) :=
  (service.relation.table world).rows.map fun row =>
    (reference row, service.createdAt row)

/-- At most the status of the wanted row has changed. -/
structure Undisturbed (wanted : Reference) (before after : World) : Prop where
  stamps : stamps service after = stamps service before
  others : ∀ other, other ≠ wanted → isOpen service after other =
    isOpen service before other

theorem Undisturbed.refl (wanted : Reference) (world : World) :
    Undisturbed service wanted world world :=
  ⟨rfl, fun _ _ => rfl⟩

variable {service}

/-- A change of the wanted row. -/
theorem Undisturbed.modify {wanted : Reference} {before world after : World}
    {change : Row → Row} (keeps : ∀ row, reference (change row) = reference row)
    (written : service.relation.table after =
      (service.relation.table world).modify wanted change keeps)
    (created : ∀ row, service.createdAt (change row) = service.createdAt row)
    (undisturbed : Undisturbed service wanted before world) :
    Undisturbed service wanted before after := by
  constructor
  · rw [← undisturbed.stamps]
    simp only [Payouts.stamps, written, Table.modify, List.map_map]
    refine List.map_congr_left fun row _ => ?_
    simp only [Function.comp_apply]
    split
    · rw [keeps, created]
    · rfl
  · intro other differs
    rw [← undisturbed.others other differs]
    simp only [isOpen, written, Table.find?_modify_ne differs]

theorem Undisturbed.same {wanted : Reference} {before world after : World}
    (same : service.relation.table after = service.relation.table world)
    (undisturbed : Undisturbed service wanted before world) :
    Undisturbed service wanted before after := by
  constructor
  · rw [← undisturbed.stamps]
    simp only [Payouts.stamps, same]
  · intro other differs
    rw [← undisturbed.others other differs]
    simp only [isOpen, same]

end

theorem applyCollectionUpdate_undisturbed (now : Time) (wanted : Reference)
    (record : ProviderRecord) (before : World) :
    (applyCollectionUpdate now wanted record).Keeps []
      (Undisturbed collectionsService wanted before) Anything := by
  have beside : Beside (Undisturbed collectionsService wanted before) :=
    fun world after same undisturbed => undisturbed.same same.collections
  refine beside.applyCollectionUpdate now wanted record
    fun nextStatus fee collection at_ => ?_
  subst at_
  refine Query.Keeps.aside (fun met world undisturbed => ?_) fun _ => trivial
  exact undisturbed.modify
    (collectionUpdate_reference now record nextStatus fee collection) rfl
    fun _ => rfl

theorem applyDepositUpdate_undisturbed (now : Time) (wanted : Reference)
    (record : ProviderRecord) (before : World) :
    (applyDepositUpdate now wanted record).Keeps []
      (Undisturbed depositsService wanted before) Anything := by
  have beside : Beside (Undisturbed depositsService wanted before) :=
    fun world after same undisturbed => undisturbed.same same.deposits
  refine beside.applyDepositUpdate now wanted record
    fun nextStatus credits deposit at_ => ?_
  subst at_
  refine Query.Keeps.aside (fun met world undisturbed => ?_) fun _ => trivial
  exact undisturbed.modify
    (depositUpdate_reference now record nextStatus credits deposit) rfl
    fun _ => rfl

theorem applyPayoutUpdate_undisturbed (now : Time) (wanted : Reference)
    (record : ProviderRecord) (before : World) :
    (applyPayoutUpdate now wanted record).Keeps []
      (Undisturbed payoutsService wanted before) Anything := by
  have beside : Beside (Undisturbed payoutsService wanted before) :=
    fun world after same undisturbed => undisturbed.same same.payouts
  refine beside.applyPayoutUpdate now wanted record
    fun nextStatus refunds payout at_ => ?_
  subst at_
  refine Query.Keeps.aside (fun met world undisturbed => ?_) fun _ => trivial
  exact undisturbed.modify
    (payoutUpdate_reference now record nextStatus refunds payout) rfl
    fun _ => rfl

namespace Poller

variable {Row : Type} {reference : Row → Reference}

/-- What the three polls have in common. -/
structure Careful (poller : Poller reference) : Prop where
  turn : ∀ (run : PollRun) wanted before,
    Undisturbed poller.service wanted before
    ((poller.turn run.now run.query wanted).run before).2
  asks : ∀ wanted world, wanted ∈ (stamps poller.service world).map Prod.fst →
    poller.asks wanted world = true

end Poller

theorem servicePoller_careful {Row : Type} {reference : Row → Reference}
    {service : PaymentService reference}
    (applies : ∀ now wanted record before,
      (service.applyUpdate now wanted record).Keeps []
      (Undisturbed service wanted before) Anything) :
    (servicePoller service).Careful := by
  constructor
  · intro run wanted before
    simp only [servicePoller, PaymentService.pollOne, Program.run_bind,
      Program.run_perform, Relation.findUnique, select]
    cases (service.relation.table before).find? wanted with
    | none => exact .refl service wanted before
    | some row =>
        cases firstRecord (run.query wanted) with
        | none => exact .refl service wanted before
        | some record =>
            have kept :
              (Program.discard
              (service.applyUpdate run.now wanted record)).Keeps []
                (Undisturbed service wanted before) Anything :=
              (applies run.now wanted record before).discard trivial
            exact kept.run (.refl service wanted before)
  · intro wanted world member
    simp only [stamps, List.map_map, List.mem_map,
      Function.comp_apply] at member
    obtain ⟨row, stored, rfl⟩ := member
    exact Option.isSome_of_eq_some (Table.find?_of_mem stored)

theorem collectionsPoller_careful : collectionsPoller.Careful :=
  servicePoller_careful applyCollectionUpdate_undisturbed

theorem depositsPoller_careful : depositsPoller.Careful :=
  servicePoller_careful applyDepositUpdate_undisturbed

theorem payoutsPoller_careful : payoutsPoller.Careful := by
  constructor
  · intro run wanted before
    have start := Undisturbed.refl payoutsService wanted before
    simp only [payoutsPoller, pollPayout]
    cases firstRecord (run.query wanted) with
    | none => exact start
    | some record =>
        have kept :
          (Program.discard (applyPayoutUpdate run.now wanted record)).Keeps []
            (Undisturbed payoutsService wanted before) Anything :=
          (applyPayoutUpdate_undisturbed run.now wanted record before).discard
            trivial
        exact kept.run start
  · exact fun _ _ _ => rfl

/-! ## Run after run -/

section

variable {Row : Type} {reference : Row → Reference}

/-- The rows not newer than a cutoff that are open, oldest first. -/
def pendingAt (service : PaymentService reference) (cutoff : Time)
    (world : World) : List Reference :=
  (((service.relation.table world).rows.filter fun row =>
    service.status row ∈ [TxStatus.pending, .processing] ∧
      service.createdAt row ≤ cutoff).mergeSort fun first second =>
    service.createdAt first ≤ service.createdAt second).map reference

/-- No row comes of age between the runs: they all look at the rows of the
cutoff. -/
def NoneArrive (service : PaymentService reference) (afterMs cutoff : Time)
    (runs : List PollRun) (world : World) : Prop :=
  ∀ run ∈ runs, ∀ row ∈ (service.relation.table world).rows,
    service.createdAt row + afterMs ≤ run.now ↔ service.createdAt row ≤ cutoff

/-- Every row that is still open after the runs has been asked for. -/
def PollsAll (poller : Poller reference) (afterMs cutoff : Time) (batchSize : ℕ)
    (runs : List PollRun) (world : World) : Prop :=
  ∀ wanted ∈ pendingAt poller.service cutoff (poller.polls afterMs batchSize runs world).2,
    wanted ∈ (poller.polls afterMs batchSize runs world).1

/-- A run finds no more open rows than fit a batch, and none of its updates
throws but, at most, the last. -/
def Reaches (poller : Poller reference) (cutoff : Time) (batchSize : ℕ)
    (run : PollRun) (world : World) : Prop :=
  (pendingAt poller.service cutoff world).length ≤ batchSize ∧
    ((Program.forEach (pendingAt poller.service cutoff world).dropLast
      (poller.turn run.now run.query)).run world).1 = .ok ()

/-- There is nothing to ask for, or one of the runs reaches every row. -/
def SomeRunReaches (poller : Poller reference) (afterMs cutoff : Time)
    (batchSize : ℕ) (runs : List PollRun) (world : World) : Prop :=
  pendingAt poller.service cutoff world = [] ∨
    ∃ earlier run later, runs = earlier ++ run :: later ∧
      Reaches poller cutoff batchSize run
        (poller.polls afterMs batchSize earlier world).2

/-- The rows of a cutoff, open or not, in the order of the poll. -/
def orderOf (service : PaymentService reference) (cutoff : Time)
    (world : World) : List Reference :=
  (((stamps service world).filter fun stamp => stamp.2 ≤ cutoff).mergeSort
    fun first second => first.2 ≤ second.2).map Prod.fst

theorem orderOf_nodup (service : PaymentService reference) (cutoff : Time)
    (world : World) : (orderOf service cutoff world).Nodup := by
  have references : (stamps service world).map Prod.fst =
      (service.relation.table world).rows.map reference := by
    simp [stamps, Function.comp_def]
  have distinct : ((stamps service world).map Prod.fst).Nodup :=
    references ▸ (service.relation.table world).unique
  refine ((List.mergeSort_perm _ _).map Prod.fst).nodup_iff.mpr ?_
  exact distinct.sublist (List.filter_sublist.map Prod.fst)

theorem pendingAt_eq_opened (service : PaymentService reference) (cutoff : Time)
    (world : World) :
    pendingAt service cutoff world =
      Sweeps.opened (orderOf service cutoff world) (isOpen service) world := by
  let rows := (service.relation.table world).rows
  let open_ : Row → Bool :=
    fun row => service.status row ∈ [TxStatus.pending, .processing]
  let old : Row → Bool := fun row => service.createdAt row ≤ cutoff
  have due :
    (rows.filter fun row =>
    service.status row ∈ [TxStatus.pending, .processing] ∧
      service.createdAt row ≤ cutoff) = (rows.filter old).filter open_ := by
    rw [List.filter_filter]
    refine List.filter_congr fun row _ => ?_
    simp [open_, old]
  have order : orderOf service cutoff world =
    ((rows.filter old).mergeSort fun first second =>
      service.createdAt first ≤ service.createdAt second).map reference := by
    have sorted : ((rows.filter old).mergeSort fun first second =>
          service.createdAt first ≤ service.createdAt second).map
            (fun row => (reference row, service.createdAt row)) =
        ((rows.filter old).map fun row =>
          (reference row, service.createdAt row)).mergeSort
          fun first second => first.2 ≤ second.2 :=
      List.map_mergeSort fun _ _ _ _ => rfl
    rw [orderOf, stamps, List.filter_map]
    exact (congrArg (List.map Prod.fst) sorted.symm).trans (List.map_map ..)
  rw [pendingAt, due, ← Sweeps.filter_mergeSort, order, Sweeps.opened,
    List.filter_map]
  congr 1
  refine List.filter_congr fun row member => ?_
  have stored : row ∈ rows :=
    List.mem_of_mem_filter (List.mem_mergeSort.mp member)
  simp only [Function.comp_apply, isOpen, Table.find?_of_mem stored]
  rfl

theorem openRows_eq_take {service : PaymentService reference}
    {now afterMs cutoff : Time} {world : World}
    (aged : ∀ row ∈ (service.relation.table world).rows,
      service.createdAt row + afterMs ≤ now ↔ service.createdAt row ≤ cutoff)
    (batchSize : ℕ) :
    service.openRows now afterMs batchSize world =
      (pendingAt service cutoff world).take batchSize := by
  rw [PaymentService.openRows, pendingAt, ← List.map_take]
  congr 3
  refine List.filter_congr fun row member => ?_
  simp only [aged row member]

namespace Poller

variable {poller : Poller reference}

/-- A turn as the sweep sees it. -/
def turnOf (poller : Poller reference) (run : PollRun) :
    Sweeps.Turn World Reference :=
  fun wanted world =>
    (((poller.turn run.now run.query wanted).run world).1.isOk,
      ((poller.turn run.now run.query wanted).run world).2)

theorem Careful.frames (careful : poller.Careful) (run : PollRun) :
    Sweeps.Frames (isOpen poller.service) (poller.turnOf run) :=
  fun wanted world other differs =>
    (careful.turn run wanted world).others other differs

theorem Careful.ask_eq_visit (careful : poller.Careful) (run : PollRun)
    {pending : List Reference} {world : World}
    (stored : ∀ wanted ∈ pending,
      wanted ∈ (stamps poller.service world).map Prod.fst) :
    poller.ask run pending world = Sweeps.visit (poller.turnOf run)
      pending world := by
  induction pending generalizing world with
  | nil => rfl
  | cons wanted rest ih =>
      rw [List.forall_mem_cons] at stored
      have later : poller.ask run rest (poller.turnOf run wanted world).2 =
          Sweeps.visit (poller.turnOf run) rest
            (poller.turnOf run wanted world).2 := by
        apply ih
        rw [turnOf, (careful.turn run wanted world).stamps]
        exact stored.2
      rw [ask, Sweeps.visit, ← later]
      simp only [turnOf, careful.asks wanted world stored.1, if_true,
        List.singleton_append]
      rfl

theorem Careful.stamps_ask (careful : poller.Careful) (run : PollRun)
    (pending : List Reference) (world : World) :
    stamps poller.service (poller.ask run pending world).2 =
      stamps poller.service world := by
  induction pending generalizing world with
  | nil => rfl
  | cons wanted rest ih =>
      rw [ask]
      split
      · exact (ih _).trans (careful.turn run wanted world).stamps
      · exact (careful.turn run wanted world).stamps

theorem completes_iff (run : PollRun) (pending : List Reference)
    (world : World) :
    Sweeps.Completes (poller.turnOf run) pending world ↔
      ((Program.forEach pending (poller.turn run.now run.query)).run world).1 =
        .ok () := by
  induction pending generalizing world with
  | nil => exact ⟨fun _ => rfl, fun _ => trivial⟩
  | cons wanted rest ih =>
      change _ ∧ Sweeps.Completes _ rest _ ↔
        ((poller.turn run.now run.query wanted >>= fun _ =>
          Program.forEach rest (poller.turn run.now run.query)).run world).1 =
            .ok ()
      rw [Program.run_bind, ih, turnOf]
      rcases (poller.turn run.now run.query wanted).run world with
        ⟨error | answer, after⟩
      · simp [Except.isOk, Except.toBool]
      · simp [Except.isOk, Except.toBool]

theorem noneArrive_iff {service : PaymentService reference}
    {afterMs cutoff : Time} {runs : List PollRun} {world : World} :
    NoneArrive service afterMs cutoff runs world ↔
      ∀ run ∈ runs, ∀ stamp ∈ stamps service world,
        stamp.2 + afterMs ≤ run.now ↔ stamp.2 ≤ cutoff := by
  simp only [NoneArrive, stamps, List.forall_mem_map]

/-- The runs are sweeps over the rows of the cutoff. -/
theorem Careful.polls_eq_sweeps (careful : poller.Careful)
    {afterMs cutoff : Time} {batchSize : ℕ} {runs : List PollRun}
    {start world : World}
    (same : stamps poller.service world = stamps poller.service start)
    (settled : NoneArrive poller.service afterMs cutoff runs start) :
    poller.polls afterMs batchSize runs world =
      Sweeps.sweeps (orderOf poller.service cutoff start)
        (isOpen poller.service) batchSize (runs.map poller.turnOf) world := by
  induction runs generalizing world with
  | nil => rfl
  | cons run later ih =>
      rw [noneArrive_iff, List.forall_mem_cons, ← same] at settled
      have aged : ∀ row ∈ (poller.service.relation.table world).rows,
          poller.service.createdAt row + afterMs ≤ run.now ↔
            poller.service.createdAt row ≤ cutoff := by
        have ofStamps := settled.1
        rwa [stamps, List.forall_mem_map] at ofStamps
      have order : orderOf poller.service cutoff world =
        orderOf poller.service cutoff start := by
        rw [orderOf, orderOf, same]
      have stored :
        ∀ wanted ∈ poller.service.openRows run.now afterMs batchSize world,
          wanted ∈ (stamps poller.service world).map Prod.fst := by
        intro wanted member
        rw [openRows_eq_take aged] at member
        obtain ⟨row, listed, rfl⟩ :=
          List.mem_map.mp (List.mem_of_mem_take member)
        have kept := List.mem_of_mem_filter (List.mem_mergeSort.mp listed)
        simp only [stamps, List.map_map]
        exact List.mem_map_of_mem kept
      have first : poller.poll afterMs batchSize run world =
          Sweeps.sweep (orderOf poller.service cutoff start)
            (isOpen poller.service) batchSize (poller.turnOf run) world := by
        rw [poll, careful.ask_eq_visit run stored, openRows_eq_take aged,
          pendingAt_eq_opened, order, Sweeps.sweep]
      have kept :
        stamps poller.service (poller.poll afterMs batchSize run world).2 =
          stamps poller.service start :=
            (careful.stamps_ask run _ world).trans same
      have rest : NoneArrive poller.service afterMs cutoff later start := by
        rw [noneArrive_iff, ← same]
        exact settled.2
      have next := ih kept rest
      rw [first] at next
      simp only [polls, List.map_cons, Sweeps.sweeps, first, next]

theorem Careful.stamps_polls (careful : poller.Careful) (afterMs : Time)
    (batchSize : ℕ) (runs : List PollRun) (world : World) :
    stamps poller.service (poller.polls afterMs batchSize runs world).2 =
      stamps poller.service world := by
  induction runs generalizing world with
  | nil => rfl
  | cons run later ih => exact (ih _).trans (careful.stamps_ask run _ world)

theorem Careful.polls_all_iff (careful : poller.Careful) {afterMs cutoff : Time}
    {batchSize : ℕ} {runs : List PollRun} {world : World}
    (settled : NoneArrive poller.service afterMs cutoff runs world) :
    PollsAll poller afterMs cutoff batchSize runs world ↔
      SomeRunReaches poller afterMs cutoff batchSize runs world := by
  have prefixes {earlier : List PollRun} (part : ∀ run ∈ earlier, run ∈ runs) :
      poller.polls afterMs batchSize earlier world =
        Sweeps.sweeps (orderOf poller.service cutoff world)
          (isOpen poller.service) batchSize (earlier.map poller.turnOf) world :=
    careful.polls_eq_sweeps rfl fun run member => settled run (part run member)
  have order {earlier : List PollRun} (part : ∀ run ∈ earlier, run ∈ runs) :
      pendingAt poller.service cutoff
        (poller.polls afterMs batchSize earlier world).2 =
        Sweeps.opened (orderOf poller.service cutoff world)
          (isOpen poller.service)
          (poller.polls afterMs batchSize earlier world).2 := by
    rw [pendingAt_eq_opened, orderOf, careful.stamps_polls, ← orderOf]
  have frames : ∀ turn ∈ runs.map poller.turnOf,
      Sweeps.Frames (isOpen poller.service) turn := by
    rw [List.forall_mem_map]
    exact fun run _ => careful.frames run
  rw [PollsAll, order fun _ member => member, prefixes fun _ member => member,
    Sweeps.reaches_open_iff (orderOf_nodup poller.service cutoff world) frames,
    ← pendingAt_eq_opened]
  refine or_congr_right ?_
  constructor
  · rintro ⟨earlier', turn, later', split, short, completes⟩
    obtain ⟨earlier, rest, rfl, rfl, split'⟩ := List.map_eq_append_iff.mp split
    obtain ⟨run, later, rfl, rfl, rfl⟩ := List.map_eq_cons_iff.mp split'
    have part : ∀ other ∈ earlier, other ∈ earlier ++ run :: later :=
      fun _ member => List.mem_append_left _ member
    rw [← prefixes part, ← order part] at short completes
    exact ⟨earlier, run, later, rfl, short,
      (completes_iff run _ _).mp completes⟩
  · rintro ⟨earlier, run, later, rfl, short, completes⟩
    have part : ∀ other ∈ earlier, other ∈ earlier ++ run :: later :=
      fun _ member => List.mem_append_left _ member
    refine ⟨earlier.map poller.turnOf, poller.turnOf run,
      later.map poller.turnOf, by rw [List.map_append, List.map_cons], ?_⟩
    rw [← prefixes part, ← order part]
    exact ⟨short, (completes_iff run _ _).mpr completes⟩

end Poller

end

/-- Each poll has asked for all rows that are still open after any number of
runs just when one of the runs found no more of them open than fit its batch,
and got to the newest.  Of rows of one time the newest is the last of the table:
their order is the database's own. -/
theorem pollers_ask_all_iff (afterMs cutoff : Time) (batchSize : ℕ)
    (runs : List PollRun) (world : World) :
    (NoneArrive collectionsService afterMs cutoff runs world →
      (PollsAll collectionsPoller afterMs cutoff batchSize runs world ↔
        SomeRunReaches collectionsPoller afterMs cutoff batchSize runs world)) ∧
    (NoneArrive depositsService afterMs cutoff runs world →
      (PollsAll depositsPoller afterMs cutoff batchSize runs world ↔
        SomeRunReaches depositsPoller afterMs cutoff batchSize runs world)) ∧
    (NoneArrive payoutsService afterMs cutoff runs world →
      (PollsAll payoutsPoller afterMs cutoff batchSize runs world ↔
        SomeRunReaches payoutsPoller afterMs cutoff batchSize runs world)) :=
  ⟨collectionsPoller_careful.polls_all_iff,
    depositsPoller_careful.polls_all_iff, payoutsPoller_careful.polls_all_iff⟩

/-- The collection of an account that never hears from its payer. -/
def silentCollection (reference : Reference) (createdAt : Time) :
    Collection where
  accountId := "a"
  reference := reference
  amount := Money.round 1000
  phoneNumber := "255712345678"
  createdAt := createdAt
  updatedAt := createdAt

def silentWorld : World where
  collections :=
    (Table.empty.insert (silentCollection "AAAAA000000000000001" 1)).insert
    (silentCollection "AAAAA000000000000002" 2)

/-- A run in which the provider knows of nothing. -/
def silentRun : PollRun where
  now := 100
  query := fun _ => { ok := true, data := some [] }

theorem noneArrive_silentWorld :
    NoneArrive collectionsService 10 50 [silentRun, silentRun] silentWorld := by
  intro run member row stored
  obtain rfl : run = silentRun := by simpa using member
  have aged : ∀ row ∈ silentWorld.collections.rows,
      row.createdAt + 10 ≤ silentRun.now ↔ row.createdAt ≤ 50 := by decide
  exact aged row stored

theorem pollers_ask_all_iff_silent :
    PollsAll collectionsPoller 10 50 1 [silentRun, silentRun] silentWorld ↔
      SomeRunReaches collectionsPoller 10 50 1 [silentRun, silentRun]
        silentWorld :=
  (pollers_ask_all_iff 10 50 1 [silentRun, silentRun] silentWorld).1
    noneArrive_silentWorld

/-- Two rows that the provider keeps open and two runs of one row each: both
runs ask for the older row. -/
theorem newer_starved :
    ¬ ∀ (afterMs cutoff : Time) (batchSize : ℕ) (runs : List PollRun) (world : World),
      0 < batchSize → NoneArrive collectionsService afterMs cutoff runs world →
      runs.length =
        ((pendingAt collectionsService cutoff world).length + batchSize - 1) /
        batchSize →
      PollsAll collectionsPoller afterMs cutoff batchSize runs world := by
  intro always
  have rows : silentWorld.collections.rows =
    [silentCollection "AAAAA000000000000001" 1,
      silentCollection "AAAAA000000000000002" 2] := rfl
  have pending : pendingAt collectionsService 50 silentWorld =
      ["AAAAA000000000000001", "AAAAA000000000000002"] := by
    have kept : (silentWorld.collections.rows.filter fun row =>
        row.status ∈ [TxStatus.pending, .processing] ∧ row.createdAt ≤ 50) =
          silentWorld.collections.rows := rfl
    have sorted : (silentWorld.collections.rows.mergeSort fun first second =>
        first.createdAt ≤ second.createdAt) = silentWorld.collections.rows := by
      apply List.mergeSort_of_pairwise
      rw [rows]
      decide
    change ((silentWorld.collections.rows.filter fun row =>
        row.status ∈ [TxStatus.pending, .processing] ∧
          row.createdAt ≤ 50).mergeSort
          fun first second => first.createdAt ≤ second.createdAt).map
            Collection.reference = _
    rw [kept, sorted, rows]
    rfl
  have settled := noneArrive_silentWorld
  have turns : collectionsPoller.poll 10 1 silentRun silentWorld =
      (["AAAAA000000000000001"], silentWorld) := by
    have oldest : collectionsService.openRows silentRun.now 10 1 silentWorld =
        ["AAAAA000000000000001"] := by
      rw [openRows_eq_take fun row => settled silentRun List.mem_cons_self row,
        pending]
      rfl
    change collectionsPoller.ask silentRun
      (collectionsService.openRows silentRun.now 10 1 silentWorld)
      silentWorld = _
    rw [oldest]
    rfl
  have asked : collectionsPoller.polls 10 1 [silentRun, silentRun] silentWorld =
      (["AAAAA000000000000001", "AAAAA000000000000001"], silentWorld) := by
    simp only [Poller.polls, turns, List.append_nil, List.singleton_append]
  have reached :=
    always 10 50 1 [silentRun, silentRun] silentWorld (by decide) settled
    (by simp [pending])
  rw [PollsAll, asked] at reached
  have still : "AAAAA000000000000002" ∈ pendingAt collectionsService 50
    silentWorld := by
    rw [pending]
    decide
  exact absurd (reached _ still) (by decide)

end CloudStudio.Payouts
