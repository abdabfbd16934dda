import CloudStudio.Payments.Credited
import CloudStudio.Payments.Forgery
import CloudStudio.Payments.Initiation

/-!
# Collections and deposits on one rail

Both are announced as payments, and the receiver tries collections first.  A
reference is unique in each of the two tables, not across them: what keeps them
apart is that the requests build different references.
-/

namespace CloudStudio.Payments

open CloudStudio.Data CloudStudio.Transactions CloudStudio.Platform
open CloudStudio.Wallets

inductive PushKind where
  | collection | deposit
  deriving DecidableEq

/-- An initiate request; `again` is for the second reference of a collection. -/
structure Push where
  kind : PushKind
  now : Time
  random : List Char
  again : List Char
  accountId : AccountId
  dto : UssdPushInitiate
  result : ProviderResult ProviderRecord

def Push.program (push : Push) : Db Unit :=
  match push.kind with
  | .collection => Program.discard
      (initiateCollection push.now push.random push.again push.accountId
        push.dto fun _ => push.result)
  | .deposit => Program.discard
      (initiateDeposit push.now push.random push.accountId push.dto
        fun _ => push.result)

/-- The reference a request gives its row: the account's source code, and the
client reference completed with random characters. -/
def Push.reference? (push : Push) (world : World) : Option Reference :=
  match push.kind with
  | .collection => builtReference world push.again push.accountId
      push.dto.reference
  | .deposit => builtReference world push.random push.accountId
      push.dto.reference

/-- A request with the statements that fail in it. -/
structure PushCall where
  push : Push
  faults : Site → Option (Fault AppError) := fun _ => none

def PushCall.ended (call : PushCall) (world : World) :
    Outcome AppError Unit × World :=
  call.push.program.exec call.faults world

/-- The state after the calls, one after another. -/
def afterPushes : List PushCall → World → World
  | [], world => world
  | call :: rest, world => afterPushes rest (call.ended world).2

/-- Every call returns. -/
def Accepted : List PushCall → World → Prop
  | [], _ => True
  | call :: rest, world =>
      (call.ended world).1 = .returned () ∧ Accepted rest (call.ended world).2

/-- A row of this kind has the reference. -/
def carries (world : World) : PushKind → Reference → Bool
  | .collection, reference => (world.collections.find? reference).isSome
  | .deposit, reference => (world.deposits.find? reference).isSome

/-- What the claim asks of a state: no reference is both a collection's and a
deposit's, and a payment that names a deposit is applied to it: the whole call
is the deposit's update, which leaves collections and COLLECTION wallets
alone. -/
structure Unmistaken (world : World) : Prop where
  apart : ∀ reference,
    ¬ (carries world .collection reference = true ∧
      carries world .deposit reference = true)
  applied : ∀ now event reference record,
    Text.startsWith event "PAYMENT" = true →
    carries world .deposit reference = true →
      let after := ((route now event reference record).run world).2
      after = ((applyDepositUpdate now reference record).run world).2 ∧
        after.collections = world.collections ∧
        ∀ accountId, after.wallets.find? ⟨accountId, .collection⟩ =
          world.wallets.find? ⟨accountId, .collection⟩

/-- A reference of this kind at the start, or built by a call of this kind. -/
def Uses (start : World) (calls : List PushCall) (kind : PushKind)
    (reference : Reference) : Prop :=
  carries start kind reference = true ∨
    ∃ call ∈ calls, call.push.kind = kind ∧
      call.push.reference? start = some reference

/-- No reference is used by both kinds. -/
def NeverShared (start : World) (calls : List PushCall) : Prop :=
  ∀ reference,
    ¬ (Uses start calls .collection reference ∧
    Uses start calls .deposit reference)

/-! ## One call -/

/-- A deposit's update moves at most a DISBURSEMENT wallet. -/
theorem depositUpdate_elsewhere (now : Time) (reference : Reference)
    (record : ProviderRecord) (world : World) :
    let after := ((applyDepositUpdate now reference record).run world).2
    after.collections = world.collections ∧
      ∀ accountId, after.wallets.find? ⟨accountId, .collection⟩ =
        world.wallets.find? ⟨accountId, .collection⟩ := by
  have runs := run_applyDepositUpdate now reference record world
  generalize ((applyDepositUpdate now reference record).run world) =
    ended at runs ⊢
  obtain ⟨result, after⟩ := ended
  cases runs with
  | unknown => exact ⟨rfl, fun _ => rfl⟩
  | unreadable => exact ⟨rfl, fun _ => rfl⟩
  | unchanged => exact ⟨rfl, fun _ => rfl⟩
  | refused => exact ⟨rfl, fun _ => rfl⟩
  | written deposit nextStatus after found mapped changes fits undue noticed =>
      obtain ⟨deliveries, jobs, rfl⟩ := noticed
      exact ⟨rfl, fun _ => rfl⟩
  | credited deposit nextStatus wallet amount after found mapped changes
      fits due allowed noticed =>
      obtain ⟨deliveries, jobs, rfl⟩ := noticed
      refine ⟨rfl, fun accountId => ?_⟩
      have other : (⟨accountId, .collection⟩ : WalletKey) ≠ wallet.key := by
        rw [Table.key_of_find? allowed.found]
        intro same
        cases congrArg WalletKey.type same
      apply Table.find?_modify_ne other
      exact fun _ => rfl
  | _ => exact ⟨rfl, fun _ => rfl⟩

/-- Keeping the references apart is enough. -/
theorem unmistaken_iff {world : World} :
    Unmistaken world ↔ ∀ reference,
      ¬ (carries world .collection reference = true ∧
        carries world .deposit reference = true) := by
  constructor
  · exact Unmistaken.apart
  · intro apart
    refine ⟨apart, fun now event reference record payment deposited => ?_⟩
    have absent : world.collections.find? reference = none := by
      cases found : world.collections.find? reference with
      | none => rfl
      | some row =>
          exact (apart reference ⟨by simp [carries, found], deposited⟩).elim
    have applied : ((route now event reference record).run world).2 =
        ((applyDepositUpdate now reference record).run world).2 := by
      rw [snd_run_route_payment now reference record world payment,
        if_pos absent]
    refine ⟨applied, ?_⟩
    rw [applied]
    exact depositUpdate_elsewhere now reference record world

/-- What a call adds to the references in use. -/
structure Adds (push : Push) (created : Prop) (world after : World) : Prop where
  accounts : after.accounts = world.accounts
  references : ∀ kind reference, carries after kind reference = true ↔
    carries world kind reference = true ∨
      created ∧ push.kind = kind ∧ push.reference? world = some reference

theorem Adds.none (push : Push) (world : World) : Adds push False world world :=
  ⟨rfl, fun _ _ => by simp⟩

/-- A new row's key is in use, and no other key is new. -/
theorem isSome_find?_insert {Row Key : Type} [DecidableEq Key] {key : Row → Key}
    (table : Table key) (row : Row) (wanted : Key) :
    ((table.insert row).find? wanted).isSome = true ↔
      (table.find? wanted).isSome = true ∨ key row = wanted := by
  rw [Table.find?_insert, Option.isSome_or, Bool.or_eq_true]
  by_cases same : key row = wanted <;> simp [same]

theorem isSome_find?_modify {Row Key : Type} [DecidableEq Key] {key : Row → Key}
    (table : Table key) (changed wanted : Key) (change : Row → Row)
    (keeps : ∀ row, key (change row) = key row) :
    ((table.modify changed change keeps).find? wanted).isSome =
      (table.find? wanted).isSome := by
  rw [Table.find?_modify]
  split
  · exact Option.isSome_map
  · rfl

/-- Whether a marked failure follows or not, at most the row's key is new. -/
theorem Pushed.keys {Row : Type} {reference : Row → Reference}
    {relation : Relation reference} {row : Row} {fail : Row → Row}
    {keeps : ∀ row, reference (fail row) = reference row} {world after : World}
    (putting : ∀ table world, relation.table (relation.put table world) = table)
    (pushed : Pushed relation row fail keeps world after) :
    ∃ created : Prop, ∀ wanted,
      ((relation.table after).find? wanted).isSome = true ↔
      ((relation.table world).find? wanted).isSome = true ∨ created ∧
        reference row = wanted := by
  cases pushed with
  | nothing => exact ⟨False, fun _ => by simp⟩
  | created =>
      refine ⟨True, fun wanted => ?_⟩
      rw [putting, isSome_find?_insert, true_and]
  | refused created _ same =>
      refine ⟨True, fun wanted => ?_⟩
      subst same
      rw [putting, putting, isSome_find?_modify, isSome_find?_insert, true_and]

/-- Nothing beside the table changes. -/
theorem Pushed.rest {Row View : Type} {reference : Row → Reference}
    {relation : Relation reference} {row : Row} {fail : Row → Row}
    {keeps : ∀ row, reference (fail row) = reference row} {world after : World}
    (pushed : Pushed relation row fail keeps world after) (view : World → View)
    (beside : ∀ table world, view (relation.put table world) = view world) :
    view after = view world := by
  cases pushed with
  | nothing => rfl
  | created => exact beside _ _
  | refused created _ same =>
      subst same
      exact (beside _ _).trans (beside _ _)

/-- It is enough to follow the table of the request's own kind. -/
theorem Adds.of_keys {push : Push} {created : Prop} {world after : World}
    {orderRef : Reference} (built : push.reference? world = some orderRef)
    (accounts : after.accounts = world.accounts)
    (others : ∀ kind reference, kind ≠ push.kind →
      carries after kind reference = carries world kind reference)
    (own : ∀ reference, carries after push.kind reference = true ↔
      carries world push.kind reference = true ∨ created ∧
        orderRef = reference) : Adds push created world after := by
  refine ⟨accounts, fun kind reference => ?_⟩
  by_cases same : push.kind = kind
  · subst same
    rw [own, built, Option.some.injEq]
    simp only [true_and]
  · rw [others kind reference fun equal => same equal.symm]
    simp only [same, false_and, and_false, or_false]

/-- Whatever fails, a call adds at most its reference, and a call that returns
adds it. -/
theorem Push.adds (push : Push) (world : World) :
    push.program.Holds (· = world) (fun _ after => Adds push True world after)
      (fun after => ∃ created, Adds push created world after) := by
  cases isKind : push.kind with
  | collection =>
      have named : push.reference? world =
          builtReference world push.again push.accountId
            push.dto.reference := by
        simp only [Push.reference?, isKind]
      simp only [Push.program, isKind]
      apply Program.Holds.discard
      apply (initiateCollection_holds _ _ _ _ _ push.result).mono
        fun _ same => same
      · intro _ after ended
        obtain ⟨orderRef, built, _, rfl⟩ := ended
        apply Adds.of_keys (named.trans built)
        · rfl
        · intro kind _ other
          cases kind with
          | collection => exact (other isKind.symm).elim
          | deposit => rfl
        · intro reference
          rw [isKind, true_and]
          exact isSome_find?_insert world.collections _ reference
      · intro after ended
        rcases ended with rfl | ⟨orderRef, built, pushed⟩
        · exact ⟨False, .none _ _⟩
        · obtain ⟨created, keys⟩ := pushed.keys fun _ _ => rfl
          refine ⟨created,
            .of_keys (named.trans built) (pushed.rest World.accounts ?_) ?_ ?_⟩
          · exact fun _ _ => rfl
          · intro kind reference other
            cases kind with
            | collection => exact (other isKind.symm).elim
            | deposit =>
                exact pushed.rest
                  (fun world => carries world .deposit reference) fun _ _ => rfl
          · rw [isKind]
            exact keys
  | deposit =>
      have named : push.reference? world =
          builtReference world push.random push.accountId
            push.dto.reference := by
        simp only [Push.reference?, isKind]
      simp only [Push.program, isKind]
      apply Program.Holds.discard
      apply (initiateDeposit_holds _ _ _ _ push.result).mono fun _ same => same
      · intro _ after ended
        obtain ⟨wallet, reference, built, _, rfl⟩ := ended
        apply Adds.of_keys (named.trans built)
        · rfl
        · intro kind _ other
          cases kind with
          | collection => rfl
          | deposit => exact (other isKind.symm).elim
        · intro wanted
          rw [isKind, true_and]
          exact isSome_find?_insert world.deposits _ wanted
      · intro after ended
        rcases ended with rfl | ⟨wallet, rfl | ⟨reference, built, pushed⟩⟩
        · exact ⟨False, .none _ _⟩
        · exact ⟨False, .none _ _⟩
        · obtain ⟨created, keys⟩ := pushed.keys fun _ _ => rfl
          refine ⟨created,
            .of_keys (named.trans built) (pushed.rest World.accounts ?_) ?_ ?_⟩
          · exact fun _ _ => rfl
          · intro kind reference other
            cases kind with
            | collection =>
                exact pushed.rest
                  (fun world => carries world .collection reference)
                  fun _ _ => rfl
            | deposit => exact (other isKind.symm).elim
          · rw [isKind]
            exact keys

/-- The references in use after calls: those of the start, and those of calls
that created their row, which every accepted call did. -/
theorem afterPushes_references (calls : List PushCall) (start world : World)
    (accounts : world.accounts = start.accounts) :
    ∃ created : List PushCall, created ⊆ calls ∧
      (Accepted calls world → created = calls) ∧
      ∀ kind reference,
        carries (afterPushes calls world) kind reference = true ↔
        carries world kind reference = true ∨
          ∃ call ∈ created, call.push.kind = kind ∧
            call.push.reference? start = some reference := by
  induction calls generalizing world with
  | nil =>
      exact ⟨[], fun _ member => member, fun _ => rfl,
      fun _ _ => by simp [afterPushes]⟩
  | cons call rest ih =>
      have same : call.push.reference? world = call.push.reference? start := by
        simp only [Push.reference?, builtReference, accounts]
      have adds := call.push.adds world call.faults world rfl
      change Ends _ _ (call.ended world) at adds
      cases ended : call.ended world with
      | mk outcome after =>
          rw [ended] at adds
          have added : ∃ created : Prop, (outcome = .returned () → created) ∧
              Adds call.push created world after := by
            cases outcome with
            | returned => exact ⟨True, fun _ => trivial, adds⟩
            | threw =>
                obtain ⟨created, adds⟩ := adds
                exact ⟨created, (fun other => by cases other), adds⟩
            | stopped =>
                obtain ⟨created, adds⟩ := adds
                exact ⟨created, (fun other => by cases other), adds⟩
          obtain ⟨isCreated, always, adds⟩ := added
          obtain ⟨created, among, all, references⟩ :=
            ih after (adds.accounts.trans accounts)
          simp only [afterPushes, Accepted, ended]
          by_cases wasCreated : isCreated
          · refine ⟨call :: created, ?_, ?_, ?_⟩
            · exact List.cons_subset_cons _ among
            · intro accepted
              rw [all accepted.2]
            · intro kind reference
              rw [references, adds.references, same]
              simp only [wasCreated, true_and, List.mem_cons, exists_eq_or_imp,
                or_assoc]
          · refine ⟨created, fun _ member =>
              List.mem_cons_of_mem _ (among member), ?_, ?_⟩
            · exact fun accepted => (wasCreated (always accepted.1)).elim
            · intro kind reference
              rw [references, adds.references]
              simp only [wasCreated, false_and, or_false]

/-- As long as no collection request and deposit request build the same
reference, and none builds one the other table has at the start, no state that a
sequence of them reaches confuses the two; and a sequence of accepted requests
confuses them otherwise. -/
theorem references_apart (start : World) (calls : List PushCall) :
    (NeverShared start calls →
      ∀ earlier, earlier <+: calls → Unmistaken (afterPushes earlier start)) ∧
    (Accepted calls start → Unmistaken (afterPushes calls start) →
      NeverShared start calls) := by
  constructor
  · intro never earlier initial
    apply unmistaken_iff.mpr
    intro reference shared
    obtain ⟨created, among, _, references⟩ :=
      afterPushes_references earlier start start rfl
    have used (kind : PushKind)
        (carried : carries (afterPushes earlier start) kind reference = true) :
        Uses start calls kind reference := by
      rcases (references kind reference).mp carried with atStart | ⟨call,
        member, builds⟩
      · exact .inl atStart
      · exact .inr ⟨call, initial.subset (among member), builds⟩
    exact never reference ⟨used .collection shared.1, used .deposit shared.2⟩
  · intro accepted unmistaken reference used
    obtain ⟨created, _, all, references⟩ :=
      afterPushes_references calls start start rfl
    have carried (kind : PushKind) (uses : Uses start calls kind reference) :
        carries (afterPushes calls start) kind reference = true := by
      rw [references, all accepted]
      exact uses
    exact unmistaken.apart reference
      ⟨carried .collection used.1, carried .deposit used.2⟩

/-- A request for 10000 that the provider accepts, with a client reference of 15
characters. -/
def pushOf (kind : PushKind) (clientReference : String) : PushCall where
  push :=
    { kind, now := 1, random := [], again := [], accountId := "a"
      dto := { amount := Money.round 10000, phoneNumber := "255712345678"
               reference := some clientReference }
      result := { ok := true, data := some { status := .given "PROCESSING" } } }

theorem references_apart_distinct :
    Unmistaken (afterPushes
      [pushOf .collection "000000000000001", pushOf .deposit "000000000000002"]
      openedWorld) := by
  apply (references_apart openedWorld
    [pushOf .collection "000000000000001", pushOf .deposit "000000000000002"]).1
      ?_ _
    (List.prefix_refl _)
  intro reference used
  have first : (pushOf .collection "000000000000001").push.reference?
    openedWorld =
      some "AAAAA000000000000001" := by
    decide +kernel
  have second : (pushOf .deposit "000000000000002").push.reference?
    openedWorld =
      some "AAAAA000000000000002" := by
    decide +kernel
  obtain ⟨collected, deposited⟩ := used
  rcases collected with atStart | ⟨call, member, isCollection, builds⟩
  · cases atStart
  rcases deposited with atStart | ⟨other, otherMember, isDeposit, otherBuilds⟩
  · cases atStart
  rcases List.mem_pair.mp member with rfl | rfl
  · rcases List.mem_pair.mp otherMember with rfl | rfl
    · cases isDeposit
    · rw [first] at builds
      rw [second, ← builds] at otherBuilds
      revert otherBuilds
      decide
  · cases isCollection

/-- A collection and a deposit with the same client reference. -/
def sharedPushes : List PushCall :=
  [pushOf .collection "000000000000001", pushOf .deposit "000000000000001"]

/-- Both requests are accepted, and the payment of the deposit credits the
COLLECTION wallet, less the collection fee. -/
theorem deposit_collected :
    Accepted sharedPushes openedWorld ∧
      ¬ Unmistaken (afterPushes sharedPushes openedWorld) ∧
      let after := ((route 2 "PAYMENT RECEIVED" "AAAAA000000000000001"
        { status := .given "SUCCESS" }).run
          (afterPushes sharedPushes openedWorld)).2
      after.balance ⟨"a", .collection⟩ = 9800 ∧
        after.balance ⟨"a", .disbursement⟩ = 0 := by
  refine ⟨⟨by decide +kernel, by decide +kernel, trivial⟩, fun unmistaken => ?_,
    ?_⟩
  · have shared : carries (afterPushes sharedPushes openedWorld) .collection
          "AAAAA000000000000001" = true ∧
        carries (afterPushes sharedPushes openedWorld) .deposit
          "AAAAA000000000000001" = true := by
      decide +kernel
    exact unmistaken.apart _ shared
  · decide +kernel

end CloudStudio.Payments
