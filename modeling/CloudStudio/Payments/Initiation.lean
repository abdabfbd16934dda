import CloudStudio.Payments.Services
import CloudStudio.Transactions.Failure

/-!
# What an initiation leaves

Whatever fails: a collection or deposit request adds at most one row, under the
reference it builds, and a call that returns has added it.  A request makes one
push at most, so here the provider is the one answer it gives.
-/

namespace CloudStudio.Payments

open CloudStudio.Data CloudStudio.Transactions CloudStudio.Platform
open CloudStudio.Wallets

section

variable {world : World}

/-- The account found; a failing lookup changes nothing. -/
theorem findAccount_finds (accountId : AccountId) :
    (findAccount accountId).Holds (· = world)
      (fun account after => after = world ∧ world.accounts.find? accountId =
        some account) (· = world) := by
  have lookup : (Program.perform (select "account.findUnique" fun world =>
      world.accounts.find? accountId) : Db (Option Account)).Holds (· = world)
        (fun answer after => after = world ∧ world.accounts.find? accountId =
          answer)
        (· = world) := by
    apply Program.Holds.read (fun _ => rfl)
    · intro state answer same answered
      subst same
      cases answered
      exact ⟨rfl, rfl⟩
    · exact fun _ same => same
  apply lookup.bind
  intro answer
  cases answer with
  | some account => exact .returned fun _ found => found
  | none => exact .threw fun _ found => found.1

/-- A program that only reads keeps what is known of the state. -/
theorem readOnly_keeps {Answer : Type} {program : Db Answer}
    {known rest : World → Prop} (readOnly : program.ReadOnly)
    (ends : ∀ after, known after → rest after) :
    program.Holds known (fun _ => known) rest := by
  intro faults state met
  apply (readOnly state faults state rfl).mono
  · intro _ after same
    subst same
    exact met
  · intro after same
    subst same
    exact ends _ met

theorem rejectRepeated_readOnly (site : Site) (repeated : String → World → Bool)
    (message : String) (clientReference : Option String) :
    (rejectRepeated site repeated message clientReference).ReadOnly := by
  unfold rejectRepeated
  split
  · exact .returned ()
  · apply (Program.ReadOnly.read fun _ => rfl).bind
    intro dupe
    unfold Program.when
    split
    · exact .threw _
    · exact .returned ()

end

/-- What a call leaves that creates a row and may then mark it as failed. -/
inductive Pushed {Row : Type} {reference : Row → Reference}
    (relation : Relation reference) (row : Row) (fail : Row → Row)
    (keeps : ∀ row, reference (fail row) = reference row) (world : World) :
    World → Prop where
  | nothing : Pushed relation row fail keeps world world
  | created : (relation.table world).find? (reference row) = none →
      Pushed relation row fail keeps world
        (relation.put ((relation.table world).insert row) world)
  | refused (created : World) : (relation.table world).find? (reference row) =
      none → created = relation.put ((relation.table world).insert row) world →
      Pushed relation row fail keeps world
        (relation.put
          ((relation.table created).modify (reference row) fail keeps) created)

/-- The row is created, and on a refused push marked as failed. -/
theorem createRow_holds {Row : Type} {reference : Row → Reference}
    {relation : Relation reference} {world : World} (row : Row)
    (fail : Row → Row) (keeps : ∀ row, reference (fail row) = reference row)
    (create mark : Site) (accepted : Bool) (error : AppError) :
    (Program.perform (relation.create create row) >>= fun created =>
      if accepted = true then pure created
      else Program.perform
        (relation.update mark (reference created) fail keeps) >>= fun _ =>
        .threw error).Holds (· = world)
      (fun _ after => (relation.table world).find? (reference row) = none ∧
        after = relation.put ((relation.table world).insert row) world)
      (Pushed relation row fail keeps world) := by
  have inserted : (Program.perform (relation.create create row)).Holds
    (· = world)
      (fun created after => created = row ∧
        (relation.table world).find? (reference row) = none ∧
        after = relation.put ((relation.table world).insert row) world)
      (Pushed relation row fail keeps world) := by
    apply Program.Holds.perform
    · intro answer after stated
      obtain ⟨before, same, answered, rfl⟩ := stated
      subst same
      obtain ⟨fresh, same⟩ := Relation.create_ok answered
      exact ⟨same, fresh, rfl⟩
    · intro state same
      subst same
      exact .nothing
  apply inserted.bind
  intro created
  split
  · exact .returned fun _ ended => ended.2
  · have marked : (Program.perform
        (relation.update mark (reference created) fail keeps)).Holds
          (fun after => created = row ∧
            (relation.table world).find? (reference row) = none ∧
            after = relation.put ((relation.table world).insert row) world)
          (fun _ => Pushed relation row fail keeps world)
          (Pushed relation row fail keeps world) := by
      apply Program.Holds.perform
      · intro answer after stated
        obtain ⟨before, ⟨same, fresh, rfl⟩, _, rfl⟩ := stated
        rw [same]
        exact .refused _ fresh rfl
      · intro after stated
        obtain ⟨_, fresh, rfl⟩ := stated
        exact .created fresh
    exact marked.bind fun _ => .threw fun _ ended => ended

/-- The reference a request builds, if its account and client reference allow
one. -/
def builtReference (world : World) (random : List Char) (accountId : AccountId)
    (clientReference : Option String) : Option Reference :=
  (world.accounts.find? accountId).bind fun account =>
    (buildReference random account.sourceCode clientReference).toOption

theorem builtReference_of_ok {world : World} {random : List Char}
    {accountId : AccountId} {clientReference : Option String}
    {account : Account} {reference : Reference}
    (found : world.accounts.find? accountId = some account)
    (built : buildReference random account.sourceCode clientReference =
      .ok reference) :
    builtReference world random accountId clientReference = some reference := by
  simp only [builtReference, found, Option.bind_some, built, Except.toOption]

/-- How an initiation ends whose row would be `row reference`. -/
def Initiates {Row : Type} {reference : Row → Reference}
    (relation : Relation reference) (row : Reference → Row) (fail : Row → Row)
    (keeps : ∀ row, reference (fail row) = reference row)
    (built : Option Reference) (world after : World) : Prop :=
  after = world ∨ ∃ orderRef, built = some orderRef ∧
    Pushed relation (row orderRef) fail keeps world after

/-- How it ends when it returns. -/
def InitiatesOk {Row : Type} {reference : Row → Reference}
    (relation : Relation reference) (row : Reference → Row)
    (built : Option Reference) (world after : World) : Prop :=
  ∃ orderRef, built = some orderRef ∧
    (relation.table world).find? (reference (row orderRef)) = none ∧
    after = relation.put ((relation.table world).insert (row orderRef)) world

section

variable {world : World}

theorem initiateCollection_holds (now : Time) (random again : List Char)
    (accountId : AccountId) (dto : UssdPushInitiate)
    (result : ProviderResult ProviderRecord) :
    (initiateCollection now random again accountId dto fun _ => result).Holds
      (· = world) (fun _ => InitiatesOk collections
        (fun orderRef => newCollection now accountId dto orderRef result)
        (builtReference world again accountId dto.reference) world)
      (Initiates collections
        (fun orderRef => newCollection now accountId dto orderRef result)
        (failedCollection now result.error)
          (failedCollection_reference now result.error)
        (builtReference world again accountId dto.reference) world) := by
  apply ((findAccount_finds accountId).mono (fun _ same => same)
    (fun _ _ found => found) fun _ => .inl).bind
  intro account
  split
  · exact .threw fun _ found => .inl found.1
  apply (readOnly_keeps (rejectRepeated_readOnly _ _ _ _) fun _ found =>
    .inl found.1).bind
  intro _
  split
  · exact .threw fun _ found => .inl found.1
  · rename_i orderRef built
    intro faults state found
    obtain ⟨rfl, at_account⟩ := found
    have at_reference := builtReference_of_ok at_account built
    dsimp only
    unfold createCollection
    split
    · exact .inl rfl
    · exact (createRow_holds _ _ (failedCollection_reference now result.error) _
        _ _ _ faults
        state rfl).mono (fun _ after ended => ⟨orderRef, at_reference, ended⟩)
        fun after ended => .inr ⟨orderRef, at_reference, ended⟩

theorem initiateDeposit_holds (now : Time) (random : List Char)
    (accountId : AccountId) (dto : UssdPushInitiate)
    (result : ProviderResult ProviderRecord) :
    (initiateDeposit now random accountId dto fun _ => result).Holds (· = world)
      (fun _ after => ∃ wallet, InitiatesOk deposits
        (fun reference => newDeposit now accountId wallet dto reference result)
        (builtReference world random accountId dto.reference) world after)
      (fun after => after = world ∨ ∃ wallet, Initiates deposits
        (fun reference => newDeposit now accountId wallet dto reference result)
        (failedDeposit now result.error)
          (failedDeposit_reference now result.error)
        (builtReference world random accountId dto.reference) world after) := by
  apply ((findAccount_finds accountId).mono (fun _ same => same)
    (fun _ _ found => found) fun _ => .inl).bind
  intro account
  apply (readOnly_keeps (Program.ReadOnly.read fun _ => rfl) fun _ found =>
    .inl found.1).bind
  intro wallet
  cases wallet with
  | none => exact .threw fun _ found => .inl found.1
  | some wallet =>
      dsimp only
      split
      · exact .threw fun _ found => .inl found.1
      rename_i reference built
      apply (readOnly_keeps (rejectRepeated_readOnly _ _ _ _)
        fun _ found => .inl found.1).bind
      intro _ faults state found
      obtain ⟨rfl, at_account⟩ := found
      have at_reference := builtReference_of_ok at_account built
      unfold createDeposit
      split
      · exact .inl rfl
      · exact (createRow_holds _ _ (failedDeposit_reference now result.error) _
          _ _ _ faults
          state rfl).mono (fun _ after ended =>
            ⟨wallet, reference, at_reference, ended⟩)
          fun after ended =>
            .inr ⟨wallet, .inr ⟨reference, at_reference, ended⟩⟩

end

end CloudStudio.Payments
