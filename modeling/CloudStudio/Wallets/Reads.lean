import CloudStudio.Transactions.Growth
import CloudStudio.Wallets.Model

/-!
# The lookups every money path shares

Under any protocol the account and wallet lookups keep the ghost, and so does
the lazily created fee configuration under a protocol that does not look at it.
What they change is within any growth of the database that has room for that
configuration.
-/

namespace CloudStudio.Wallets

open CloudStudio.Data CloudStudio.Transactions CloudStudio.Platform

variable {Id Ghost : Type} [DecidableEq Id]
variable {protocol : Protocol Id World RowKey Expectation Ghost} {id : Id}
variable {thrown : AppError → Ghost → Prop} {ghost : Ghost}

/-- The protocol does not look at what `change` changes. -/
def Ignores (protocol : Protocol Id World RowKey Expectation Ghost)
    (change : World → World) : Prop :=
  ∀ world owner held, protocol.invariant world owner held →
    protocol.invariant (change world) owner held ∧
      ∀ id, protocol.guarantee id world (change world)

/-- A statement whose change the protocol ignores keeps the ghost. -/
theorem ignored_safe {Answer Result : Type} {post : Result → Ghost → Prop}
    {statement : Statement Answer} {next : Answer → Db Result}
    {failed : AppError → Db Result}
    (ignores : Ignores protocol fun world => statement.effect world world)
    (safeNext : ∀ state answer, statement.answer state = .ok answer →
      (next answer).Safe protocol id post thrown ghost)
    (safeFailed : ∀ error, (failed error).Safe protocol id post thrown ghost) :
    (Program.query statement next failed).Safe protocol id post
      thrown ghost := by
  refine ⟨?_, safeFailed⟩
  intro world owner held kept own _ _ answer answered
  have safe := safeNext world answer answered
  subst own
  obtain ⟨kept', guaranteed⟩ := ignores world owner held kept
  refine ⟨held id, ?_, guaranteed id, safe⟩
  rwa [Function.update_eq_self]

theorem resolveAccountId_safe (idOrPublicId : String)
    (safeThrown : ∀ error, thrown error ghost) :
    (resolveAccountId idOrPublicId).Safe protocol id
      (fun _ left => left = ghost) thrown ghost := by
  unfold resolveAccountId
  split
  · exact rfl
  · refine Program.Safe.read (fun _ _ => rfl) ?_ safeThrown
    intro world owner held kept own byId answered
    cases byId with
    | some account => exact rfl
    | none =>
        refine Program.Safe.read (fun _ _ => rfl) ?_ safeThrown
        intro world owner held kept own byPublic answered
        exact rfl

theorem getWallet_safe (accountId : String) (type : WalletType)
    (safeThrown : ∀ error, thrown error ghost) :
    (getWallet accountId type).Safe protocol id
      (fun wallet left => wallet.key.type = type ∧ left = ghost)
        thrown ghost := by
  unfold getWallet
  refine (resolveAccountId_safe accountId safeThrown).andThen ?_
  rintro resolved left rfl
  refine Program.Safe.read (fun _ _ => rfl) ?_ safeThrown
  intro world owner held kept own found answered
  cases found with
  | none => exact safeThrown _
  | some wallet =>
      refine ⟨?_, rfl⟩
      simp only [Relation.findUnique, select, Except.ok.injEq] at answered
      have key := Table.key_of_find? answered
      rw [key]

theorem getConfig_safe (accountId : AccountId)
    (ignores : ∀ config, Ignores protocol fun world =>
      { world with feeConfigs := world.feeConfigs.insert config })
    (safeThrown : ∀ error, thrown error ghost) :
    (getConfig accountId).Safe protocol id (fun _ left => left = ghost)
      thrown ghost := by
  unfold getConfig
  refine Program.Safe.read (fun _ _ => rfl) ?_ safeThrown
  intro world owner held kept own existing answered
  cases existing with
  | some config => exact rfl
  | none =>
      refine ignored_safe (ignores _) (fun _ _ _ => rfl) fun _ => ?_
      refine Program.Safe.read (fun _ _ => rfl) ?_ safeThrown
      intro world owner held kept own row answered
      cases row with
      | some config => exact rfl
      | none => exact safeThrown _

theorem computeFee_safe (kind : FeeKind) (accountId : AccountId)
    (amount : NumberInput) (ignores : ∀ config, Ignores protocol fun world =>
      { world with feeConfigs := world.feeConfigs.insert config })
    (safeThrown : ∀ error, thrown error ghost) :
    (computeFee kind accountId amount).Safe protocol id
      (fun _ left => left = ghost) thrown ghost := by
  refine Program.Safe.andThen (getConfig_safe accountId ignores safeThrown) ?_
  rintro config left rfl
  cases amount with
  | value value => exact rfl
  | nonFinite => exact safeThrown _
  | malformed => exact safeThrown _

theorem computeTransferFee_safe (accountId : AccountId) (amount : Decimal)
    (ignores : ∀ config, Ignores protocol fun world =>
      { world with feeConfigs := world.feeConfigs.insert config })
    (safeThrown : ∀ error, thrown error ghost) :
    (computeTransferFee accountId amount).Safe protocol id
      (fun fee left => (∃ config : FeeConfig, fee = config.transferFee amount) ∧
        left = ghost) thrown ghost := by
  refine Program.Safe.andThen (getConfig_safe accountId ignores safeThrown) ?_
  rintro config left rfl
  exact ⟨⟨config, rfl⟩, rfl⟩

section

variable {growth : Growth World}

theorem grows_resolveAccountId (accountId : String) :
    (resolveAccountId accountId).Grows growth := by
  unfold resolveAccountId
  split
  · exact trivial
  · refine Program.Grows.bind (.perform (.idle fun _ _ => rfl)) fun byId => ?_
    cases byId with
    | some account => exact trivial
    | none => exact Program.Grows.bind (.perform (.idle fun _ _ => rfl)) fun _ => trivial

theorem grows_getWallet (accountId : String) (type : WalletType) :
    (getWallet accountId type).Grows growth := by
  refine Program.Grows.bind (grows_resolveAccountId accountId)
    fun resolved => ?_
  refine Program.Grows.bind (.perform (.idle fun _ _ => rfl)) fun wallet => ?_
  cases wallet <;> exact trivial

theorem grows_getConfig (accountId : AccountId)
    (creates : ∀ config world, growth.grows world
      { world with feeConfigs := world.feeConfigs.insert config }) :
    (getConfig accountId).Grows growth := by
  refine Program.Grows.bind (.perform (.idle fun _ _ => rfl)) fun existing => ?_
  cases existing with
  | some config => exact trivial
  | none =>
      refine .catching (.perform fun _ => creates _) fun _ => ?_
      refine Program.Grows.bind (.perform (.idle fun _ _ => rfl)) fun row => ?_
      cases row <;> exact trivial

end

end CloudStudio.Wallets
