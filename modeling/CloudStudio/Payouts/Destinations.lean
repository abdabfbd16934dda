import CloudStudio.Accounts.Creation
import CloudStudio.Payouts.Bookkeeping
import CloudStudio.Payouts.PhoneNumbers
import CloudStudio.Payouts.Queue

/-!
# Where the requests to the provider go

The jobs hand over what the payout rows say.  A row is well addressed if it
names its destination in the form that the API demands of callers.  Once it is,
no lookup, movement, status update or job of the services changes that.
-/

namespace CloudStudio.Payouts

open CloudStudio.Data CloudStudio.Transactions CloudStudio.Platform
open CloudStudio.Payments
open CloudStudio.Wallets

/-- A Tanzanian mobile number in the canonical form. -/
def CanonicalPhone (phone : String) : Prop :=
  isMobileNumber phone.toList = true

/-- A code of the form that the API takes for a BIC. -/
def BicCode (code : String) : Prop :=
  isBic code.toList = true

/-- The request has the number or the account that its channel needs. -/
def PayoutRequest.WellFormed : PayoutRequest → Prop
  | .mobileMoney _ _ _ phoneNumber => ∃ phone ∈ phoneNumber,
      CanonicalPhone phone
  | .bank _ accountNumber accountName bic _ _ _ _ =>
      accountNumber.isSome ∧ accountName.isSome ∧ ∃ code ∈ bic, BicCode code

/-- What the payout job would hand over for the row is well formed. -/
def WellAddressed (payout : Payout) : Prop :=
  (payoutRequest payout).WellFormed

/-- The two jobs differ in the transfer type only. -/
theorem batchItemRequest_wellFormed (payout : Payout) :
    (batchItemRequest payout).WellFormed ↔ WellAddressed payout := by
  unfold WellAddressed payoutRequest batchItemRequest
  cases payout.channel with
  | mobileMoney => exact Iff.rfl
  | bank => exact Iff.rfl

theorem normalizePhoneNumber_canonical {raw phone : String}
    (normal : normalizePhoneNumber raw = some phone) :
    CanonicalPhone phone := by
  unfold normalizePhoneNumber at normal
  obtain ⟨international, same⟩ := Option.ite_none_right_eq_some.mp normal
  unfold CanonicalPhone
  rw [← Option.some.inj same, String.toList_ofList]
  exact international

theorem payoutPhone_canonical {phone : String}
    (canonical : CanonicalPhone phone) :
    ∃ stored ∈ payoutPhone (some phone), CanonicalPhone stored :=
  ⟨phone, payoutPhone_eq_self canonical, canonical⟩

/-! ## Settlement accounts -/

/-- What validation leaves in a settlement account for a payout to go to. -/
def Addressable (row : SettlementAccount) : Prop :=
  match row.type with
  | .mobile => ∃ phone ∈ row.phoneNumber, CanonicalPhone phone
  | .bank => row.accountNumber.isSome

/-- The payout to a settlement account is well addressed unless the initials of
a bank account are no BIC. -/
theorem settlementPayout_wellAddressed_iff {settlement : SettlementAccount}
    (addressable : Addressable settlement) (now : Time) (account : Account)
    (kind : PayoutKind) (reference : Reference)
    (clientReference : Option String) (amount : Decimal) (fee : ComputedFee) :
    WellAddressed
      (settlementPayout now account settlement kind reference clientReference
      amount fee) ↔ payable settlement = true := by
  unfold Addressable at addressable
  cases type : settlement.type with
  | mobile =>
      rw [type] at addressable
      simp only [WellAddressed, payoutRequest, settlementPayout,
        settlementChannel, type,
        PayoutRequest.WellFormed, onSettlement, payable, if_true, iff_true]
      exact addressable
  | bank =>
      rw [type] at addressable
      simp only [WellAddressed, payoutRequest, settlementPayout,
        settlementChannel, type,
        PayoutRequest.WellFormed, onSettlement, payable, if_true,
          Option.isSome_some, true_and,
        BicCode]
      constructor
      · rintro ⟨_, code, stored, isCode⟩
        rw [Option.mem_def.mp stored]
        exact isCode
      · intro codes
        refine ⟨addressable, ?_⟩
        cases initials : settlement.bankInitials with
        | none =>
            rw [initials] at codes
            cases codes
        | some code =>
            rw [initials] at codes
            exact ⟨code, rfl, codes⟩

/-- The columns that a validated input assigns name a destination. -/
def SettlementData.Fits : SettlementData → Prop
  | .mobile _ phoneNumber => CanonicalPhone phoneNumber
  | .bank .. => True

theorem assign_addressable {data : SettlementData} (fits : data.Fits)
    (row : SettlementAccount) : Addressable (data.assign row) := by
  cases data with
  | mobile method phone => exact ⟨phone, rfl, fits⟩
  | bank => exact rfl

theorem validateSettlementInput_fits {type : SettlementType}
    {input : SettlementFields} {data : SettlementData}
    (valid : validateSettlementInput type input = .ok data) : data.Fits := by
  cases type with
  | mobile =>
      simp only [validateSettlementInput] at valid
      cases method : input.method with
      | none =>
          rw [method] at valid
          cases valid
      | some method' =>
          simp only [method] at valid
          cases normal : normalizePhoneNumber (input.phoneNumber.getD "") with
          | none =>
              rw [normal] at valid
              cases valid
          | some phone =>
              rw [normal] at valid
              cases valid
              exact normalizePhoneNumber_canonical normal
  | bank =>
      simp only [validateSettlementInput] at valid
      split at valid
      · cases valid
        exact trivial
      · cases valid

/-- Every stored payout is well addressed, every settlement account can be
addressed, and every push has gone to a canonical number. -/
structure Routed (world : World) : Prop where
  payouts : world.payouts.Each WellAddressed
  settlements : world.settlementAccounts.Each Addressable
  collections : world.collections.Each fun row => CanonicalPhone row.phoneNumber
  deposits : world.deposits.Each fun row => CanonicalPhone row.phoneNumber

/-- A database without payments and settlement accounts. -/
theorem routed_of_empty {world : World} (payouts : world.payouts = Table.empty)
    (settlements : world.settlementAccounts = Table.empty)
    (collections : world.collections = Table.empty)
    (deposits : world.deposits = Table.empty) : Routed world := by
  constructor
  · intro row member
    rw [payouts] at member
    cases member
  · intro row member
    rw [settlements] at member
    cases member
  · intro row member
    rw [collections] at member
    cases member
  · intro row member
    rw [deposits] at member
    cases member

theorem Routed.same {before after : World} (routed : Routed before)
    (same : SameRoutes before after) : Routed after := by
  constructor
  · rw [same.payouts]
    exact routed.payouts
  · rw [same.settlements]
    exact routed.settlements
  · rw [same.collections]
    exact routed.collections
  · rw [same.deposits]
    exact routed.deposits

theorem beside_routed : Beside Routed := fun _ _ same routed => routed.same same

section

variable {assumed : List Expectation}

/-- A statement that leaves payments and settlement accounts alone. -/
theorem aside_keeps {Answer : Type} {statement : Statement Answer}
    (same : ∀ met world, SameRoutes world (statement.effect met world)) :
    statement.Keeps assumed Routed Anything :=
  beside_routed.aside same

theorem performAside_keeps {Answer : Type} {statement : Statement Answer}
    (same : ∀ met world, SameRoutes world (statement.effect met world)) :
    (Program.perform statement).Keeps assumed Routed Anything :=
  beside_routed.perform same

theorem select_keeps {Answer : Type} {site : Site} {view : World → Answer} :
    (Program.perform (select site view)).Keeps assumed Routed Anything :=
  beside_routed.select

theorem createPayoutRow_keeps {site : Site} {payout : Payout}
    (fits : WellAddressed payout) :
    (Program.perform (payouts.create site payout)).Keeps assumed
      Routed Anything := by
  apply Program.Keeps.perform
  apply Query.Keeps.aside
  · intro met world routed
    exact ⟨routed.payouts.insert fits, routed.settlements, routed.collections,
      routed.deposits⟩
  · exact fun _ => trivial

theorem createSettlementRow_keeps {site : Site} {row : SettlementAccount}
    (fits : Addressable row) :
    (Body.perform (settlementAccounts.create site row)).Keeps assumed
      Routed Anything := by
  apply Body.Keeps.perform
  apply Query.Keeps.aside
  · intro met world routed
    exact ⟨routed.payouts, routed.settlements.insert fits, routed.collections,
      routed.deposits⟩
  · exact fun _ => trivial

theorem addressable_cleared {row : SettlementAccount} (now : Time)
    (accountId : AccountId) (addressable : Addressable row) :
    Addressable (cleared now accountId row) := by
  unfold cleared
  split
  · exact addressable
  · exact addressable

theorem clearDefaults_keeps {site : Site} {now : Time} {accountId : AccountId} :
    (clearDefaults site now accountId).Keeps assumed Routed Anything := by
  apply Query.Keeps.aside
  · intro met world routed
    exact ⟨routed.payouts,
      routed.settlements.modifyAll (cleared_id now accountId)
      fun _ => addressable_cleared now accountId, routed.collections,
        routed.deposits⟩
  · exact fun _ => trivial

theorem resolveAccountId_keeps (idOrPublicId : String) :
    (resolveAccountId idOrPublicId).Keeps assumed Routed Anything :=
  beside_routed.resolveAccountId idOrPublicId

theorem findAccount_keeps (accountId : AccountId) :
    (findAccount accountId).Keeps assumed Routed Anything := by
  apply select_keeps.bind
  intro account _
  cases account <;> exact trivial

theorem rejectRepeated_keeps (site : Site) (repeated : String → World → Bool)
    (message : String) (clientReference : Option String) :
    (rejectRepeated site repeated message clientReference).Keeps assumed
      Routed Anything := by
  unfold rejectRepeated
  split
  · exact trivial
  · apply select_keeps.bind
    intro dupe _
    exact Program.Keeps.when trivial trivial

theorem computeFee_keeps (kind : FeeKind) (accountId : AccountId)
    (amount : NumberInput) :
    (computeFee kind accountId amount).Keeps assumed Routed Anything :=
  beside_routed.computeFee kind accountId amount

theorem enqueue_keeps (site : Site) (now : Time) (payload : JobPayload) :
    (enqueue site now payload).Keeps assumed Routed Anything :=
  beside_routed.enqueue site now payload

theorem move_keeps (now : Time) (input : MoveInput) :
    (move now input).Keeps assumed Routed Anything :=
  beside_routed.move now input

/-- An update of a collection leaves its number alone. -/
theorem applyCollectionUpdate_keeps (now : Time) (reference : Reference)
    (record : ProviderRecord) :
    (applyCollectionUpdate now reference record).Keeps assumed
      Routed Anything :=
  beside_routed.applyCollectionUpdate now reference record
    fun nextStatus fee collection _ =>
    Query.Keeps.aside
      (fun _ _ routed =>
        ⟨routed.payouts, routed.settlements, routed.collections.modify
        (collectionUpdate_reference now record nextStatus fee collection)
        fun _ canonical => canonical, routed.deposits⟩)
      fun _ => trivial

theorem applyDepositUpdate_keeps (now : Time) (reference : Reference)
    (record : ProviderRecord) :
    (applyDepositUpdate now reference record).Keeps assumed Routed Anything :=
  beside_routed.applyDepositUpdate now reference record
    fun nextStatus shouldCredit deposit _ =>
    Query.Keeps.aside
      (fun _ _ routed =>
        ⟨routed.payouts, routed.settlements, routed.collections,
        routed.deposits.modify
          (depositUpdate_reference now record nextStatus shouldCredit deposit)
          fun _ canonical => canonical⟩)
      fun _ => trivial

/-- An update of a payout leaves its destination alone. -/
theorem applyPayoutUpdate_keeps (now : Time) (reference : Reference)
    (record : ProviderRecord) :
    (applyPayoutUpdate now reference record).Keeps assumed Routed Anything :=
  beside_routed.applyPayoutUpdate now reference record
    fun nextStatus shouldRefund payout _ =>
    Query.Keeps.aside
      (fun _ _ routed => ⟨routed.payouts.modify
        (payoutUpdate_reference now record nextStatus shouldRefund payout)
        fun _ addressed => addressed, routed.settlements, routed.collections,
        routed.deposits⟩)
      fun _ => trivial

theorem processPayout_keeps (now : Time) (credentialsReady : Bool)
    (provider : PayoutRequest → Behaviour) (requestOf : Payout → PayoutRequest)
    (complete : ProviderRecord → ProviderRecord) (payoutId : Reference) :
    (processPayout now credentialsReady provider requestOf complete
      payoutId).Keeps assumed Routed Anything := by
  apply select_keeps.bind
  intro payout _
  cases payout with
  | none => exact trivial
  | some payout =>
      dsimp only
      split
      · exact trivial
      have called : (Program.perform (createOnRail credentialsReady
          (provider (requestOf payout)) payout.reference)).Keeps assumed
            Routed Anything :=
        performAside_keeps fun _ _ => ⟨rfl, rfl, rfl, rfl⟩
      apply called.bind
      intro result _
      split
      · exact (applyPayoutUpdate_keeps _ _ _).discard trivial
      · exact (applyPayoutUpdate_keeps _ _ _).discard trivial

theorem receiveRecord_keeps (now : Time) (reference : Reference)
    (record : ProviderRecord) :
    (receiveRecord now reference record).Keeps assumed Routed Anything := by
  have noted : (Program.perform (noteRecord reference record)).Keeps assumed
    Routed
      Anything :=
    performAside_keeps fun _ _ => ⟨rfl, rfl, rfl, rfl⟩
  apply noted.bind
  exact fun _ _ => (applyPayoutUpdate_keeps _ _ _).discard trivial

theorem handler_keeps (turn : QueueTurn) (payload : JobPayload) :
    (turn.handler payload).Keeps assumed Routed Anything := by
  unfold QueueTurn.handler
  split
  · exact processPayout_keeps _ _ _ _ _ _
  · apply Program.Keeps.forEach
    · exact fun item _ => processPayout_keeps _ _ _ _ _ _
    · exact trivial
  · split
    · exact trivial
    · exact trivial

/-- One turn of the poll, whatever job it finds. -/
theorem queueTurn_keeps (turn : QueueTurn) :
    turn.program.Keeps assumed Routed Anything := by
  have process (position : ℕ) (job : Job) :
      (turn.process position job).Keeps assumed Routed Anything := by
    apply Program.Keeps.catching
    · apply (handler_keeps turn job.payload).bind
      exact fun _ _ => performAside_keeps fun _ _ => ⟨rfl, rfl, rfl, rfl⟩
    · intro _
      apply Program.Keeps.catching
      · exact performAside_keeps fun _ _ => ⟨rfl, rfl, rfl, rfl⟩
      · exact fun _ => trivial
  have claim : (Program.catching (Program.perform (claimJob turn.claimedAt))
      fun _ => pure none).Keeps assumed Routed Anything := by
    apply Program.Keeps.catching
    · apply performAside_keeps
      intro met world
      simp only [claimJob]
      split
      · exact ⟨rfl, rfl, rfl, rfl⟩
      · exact ⟨rfl, rfl, rfl, rfl⟩
    · exact fun _ => trivial
  apply claim.bind
  intro claimed _
  cases claimed with
  | none => exact trivial
  | some found => exact process found.1 found.2

end

end CloudStudio.Payouts
