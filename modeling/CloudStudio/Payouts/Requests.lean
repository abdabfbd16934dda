import CloudStudio.Payouts.Debits
import CloudStudio.Payouts.Destinations

/-!
# Are all requests to the provider well formed?

Five services create payouts, and two push a payment to a phone.  The API checks
the destinations that its callers give, with two exceptions: the initials of a
bank, which a settlement uses as its BIC, and the phone number of a deposit.  As
long as these have the form the others are checked for, so has every request,
however the calls interleave.
-/

namespace CloudStudio.Payouts

open CloudStudio.Data CloudStudio.Transactions CloudStudio.Platform
open CloudStudio.Payments
open CloudStudio.Wallets

/-- The destination that `MobileMoneyPayoutDto` and `BankPayoutDto` demand. -/
def ValidPayout (channel : PayoutChannel) (dto : PayoutDto) : Prop :=
  match channel with
  | .mobileMoney => ∃ phone ∈ dto.phoneNumber, CanonicalPhone phone
  | .bank =>
      dto.accountNumber.isSome ∧ dto.accountName.isSome ∧ ∃ code ∈ dto.bic,
        BicCode code

/-- What `BatchItemDto` demands of the members that are there. -/
structure ValidItem (item : BatchItem) : Prop where
  phone : ∀ phone ∈ item.phoneNumber, CanonicalPhone phone
  bic : ∀ code ∈ item.bic, BicCode code

theorem newPayout_wellAddressed {channel : PayoutChannel} {dto : PayoutDto}
    (valid : ValidPayout channel dto) (now : Time) (accountId : AccountId)
    (reference : Reference) (fee : ComputedFee) :
    WellAddressed (newPayout now accountId channel dto reference fee) := by
  cases channel with
  | mobileMoney =>
      obtain ⟨phone, given_, canonical⟩ := valid
      simp only [WellAddressed, payoutRequest, newPayout,
        PayoutRequest.WellFormed, onChannel, if_true, Option.mem_def.mp given_]
      exact payoutPhone_canonical canonical
  | bank => exact valid

theorem nonEmpty_some {text : Option String} (present : nonEmpty text ≠ none) :
    text.isSome := by
  cases text with
  | none => exact absurd rfl present
  | some text => rfl

/-- The service checks that the destination is there, the endpoint its form. -/
theorem itemPayout_wellAddressed {item : BatchItem} {index : ℕ}
    (valid : ValidItem item) (sound : item.problem? index = none) (now : Time)
    (accountId : AccountId) (batchId reference : Reference) :
    WellAddressed (itemPayout now accountId batchId item reference) := by
  unfold BatchItem.problem? at sound
  cases channel : item.channel with
  | mobileMoney =>
      simp only [channel] at sound
      split at sound
      · cases sound
      rename_i present
      obtain ⟨phone, given_⟩ :=
        Option.isSome_iff_exists.mp (nonEmpty_some present)
      simp only [WellAddressed, payoutRequest, itemPayout, channel,
        PayoutRequest.WellFormed, onChannel, if_true, given_]
      exact payoutPhone_canonical (valid.phone phone given_)
  | bank =>
      simp only [channel] at sound
      split at sound
      · cases sound
      rename_i present
      rw [not_or, not_or] at present
      obtain ⟨number, name, code⟩ := present
      obtain ⟨bic, given_⟩ := Option.isSome_iff_exists.mp (nonEmpty_some code)
      simp only [WellAddressed, payoutRequest, itemPayout, channel,
        PayoutRequest.WellFormed, onChannel, if_true]
      exact ⟨nonEmpty_some number, nonEmpty_some name, bic, given_,
        valid.bic bic given_⟩

theorem validateItems_sound {items : List BatchItem}
    (valid : validateItems items = .ok ()) {item : BatchItem}
    (member : item ∈ items) : ∃ index, item.problem? index = none := by
  unfold validateItems at valid
  cases first :
    (items.zipIdx.filterMap fun item => item.1.problem? item.2).head? with
  | some problem =>
      rw [first] at valid
      cases valid
  | none =>
      have none_ :=
        List.filterMap_eq_nil_iff.mp (List.head?_eq_none_iff.mp first)
      obtain ⟨index, at_index⟩ := List.mem_iff_getElem?.mp member
      exact ⟨index,
        none_ (item, index) (List.mem_zipIdx_iff_getElem?.mpr at_index)⟩

section

variable {assumed : List Expectation}

theorem holdAndQueue_keeps (now : Time) {hold : Hold}
    (fits : WellAddressed hold.payout) :
    (holdAndQueue now hold).Keeps assumed Routed Anything := by
  apply (move_keeps now hold.debit).bind
  intro _ _
  apply (createPayoutRow_keeps fits).bind
  intro payout _
  apply (enqueue_keeps _ _ _).bind
  exact fun _ _ => trivial

theorem createPayout_keeps (now : Time) (random : List Char)
    (accountId : AccountId) {channel : PayoutChannel} {dto : PayoutDto}
    (valid : ValidPayout channel dto) :
    (createPayout now random accountId channel dto).Keeps assumed
      Routed Anything := by
  have prepared : (preparePayout now random accountId channel dto).Keeps assumed
    Routed
      (fun hold => WellAddressed hold.payout) := by
    apply (findAccount_keeps accountId).bind
    intro account _
    split
    · exact trivial
    · apply (rejectRepeated_keeps _ _ _ _).bind
      intro _ _
      apply (computeFee_keeps _ _ _).bind
      exact fun _ _ => newPayout_wellAddressed valid _ _ _ _
  apply prepared.bind
  exact fun _ fits => holdAndQueue_keeps now fits

theorem createBatch_keeps (now : Time) (random : List Char)
    (randoms : ℕ → List Char) (accountId : AccountId) {dto : CreateBatchDto}
    (valid : ∀ item ∈ dto.items, ValidItem item) :
    (createBatch now random randoms accountId dto).Keeps assumed
      Routed Anything := by
  apply (findAccount_keeps accountId).bind
  intro account _
  split
  · exact trivial
  rename_i checked
  split
  · exact trivial
  rename_i reference built
  unfold holdBatch
  apply (move_keeps _ _).bind
  intro _ _
  have rows :
    (createBatchRows now randoms accountId account.sourceCode dto
    reference).Keeps
      assumed Routed Anything := by
    have created : (Body.perform (batches.create "batch.create"
        (newBatch now accountId dto reference))).Keeps assumed
          Routed Anything :=
      .perform (aside_keeps fun _ _ => ⟨rfl, rfl, rfl, rfl⟩)
    apply created.bind
    intro batch _
    split
    · exact trivial
    rename_i rows builtRows
    have inserted :
      (Body.perform (payouts.createMany "payout.createMany" rows)).Keeps assumed
        Routed Anything := by
      apply Body.Keeps.perform
      apply Query.Keeps.aside
      · intro met world routed
        constructor
        · apply routed.payouts.insertAll
          intro row member
          obtain ⟨item, its, completed, rfl⟩ :=
            (itemRows_ok builtRows).1 row member
          obtain ⟨index, sound⟩ := validateItems_sound checked its
          exact itemPayout_wellAddressed (valid item its) sound _ _ _ _
        · exact routed.settlements
        · exact routed.collections
        · exact routed.deposits
      · exact fun _ => trivial
    apply inserted.bind
    exact fun _ _ => trivial
  apply (Program.Keeps.atomically rows).bind
  intro batch _
  apply select_keeps.bind
  intro items _
  apply (enqueue_keeps _ _ _).bind
  exact fun _ _ => trivial

theorem createPayoutLink_keeps (now : Time) (tokenHash : String)
    (accountId : AccountId) (dto : CreatePayoutLinkDto) :
    (createPayoutLink now tokenHash accountId dto).Keeps assumed
      Routed Anything := by
  apply (findAccount_keeps accountId).bind
  intro account _
  split
  · exact trivial
  · exact performAside_keeps fun _ _ => ⟨rfl, rfl, rfl, rfl⟩

theorem confirmPayoutLink_keeps (times : ConfirmTimes) (random : List Char)
    (tokenHash : String) (dto : PayoutLinkDetails)
    (beneficiaryName : Option String) :
    (confirmPayoutLink times random tokenHash dto beneficiaryName).Keeps assumed
      Routed Anything := by
  have resolved : (resolvePayoutLinkRecipient times.checked tokenHash dto
      beneficiaryName).Keeps assumed Routed
        (fun resolved => CanonicalPhone resolved.phoneNumber) := by
    have active : (findActivePayoutLink times.checked tokenHash).Keeps assumed
      Routed
        Anything := by
      apply select_keeps.bind
      intro link _
      cases link with
      | none => exact trivial
      | some link =>
          dsimp only
          split <;> exact trivial
    apply active.bind
    intro _ _
    split
    · exact trivial
    · rename_i phone normal
      exact normalizePhoneNumber_canonical normal
  apply resolved.bind
  intro resolved canonical
  have redeemed : (redeemLink times.locked tokenHash resolved).Keeps assumed
    Routed
      Anything := by
    have locked : (Body.perform (lockLink tokenHash)).Keeps assumed
      Routed Anything :=
      .perform (aside_keeps fun _ _ => ⟨rfl, rfl, rfl, rfl⟩)
    apply locked.bind
    intro row _
    cases row with
    | none => exact trivial
    | some row =>
        dsimp only
        split
        · exact trivial
        split
        · exact trivial
        · exact .perform (aside_keeps fun _ _ => ⟨rfl, rfl, rfl, rfl⟩)
  apply (Program.Keeps.atomically redeemed).bind
  intro link _
  have valid : ValidPayout .mobileMoney (linkPayout link resolved) :=
    ⟨resolved.phoneNumber, rfl, canonical⟩
  apply (createPayout_keeps _ _ _ valid).bind
  intro payout _
  have noted :
    (Program.perform (markPaid times.created tokenHash payout.reference)).Keeps
      assumed Routed Anything :=
    performAside_keeps fun _ _ => ⟨rfl, rfl, rfl, rfl⟩
  apply noted.bind
  exact fun _ _ => trivial

/-- A payout to the settlement account is well addressed. -/
structure Target (settlement : SettlementAccount) : Prop where
  addressable : Addressable settlement
  payable : payable settlement = true

theorem Target.wellAddressed {settlement : SettlementAccount}
    (target : Target settlement) (now : Time) (account : Account)
    (kind : PayoutKind) (reference : Reference)
    (clientReference : Option String) (amount : Decimal) (fee : ComputedFee) :
    WellAddressed
      (settlementPayout now account settlement kind reference clientReference
      amount fee) :=
  (settlementPayout_wellAddressed_iff target.addressable now
    account kind reference clientReference amount fee).mpr target.payable

section

variable (expects : Expectation.payableSettlement ∈ assumed)
include expects

theorem selectSettlement_keeps {site : Site}
    {view : World → Option SettlementAccount}
    (listed : ∀ world, ∀ settlement ∈ view world,
      settlement ∈ world.settlementAccounts.rows) :
    (Program.perform (selectSettlement site view)).Keeps assumed Routed
      (fun found => ∀ settlement ∈ found, Target settlement) := by
  apply Program.Keeps.perform
  apply Query.Keeps.read
  · exact fun _ _ => rfl
  · intro met found routed expected answered
    cases answered
    intro settlement member
    constructor
    · exact routed.settlements settlement (listed met settlement member)
    · have all : (view met).all payable = true := expected _ expects
      rw [Option.mem_def.mp member] at all
      exact all

theorem getDefaultSettlementAccount_keeps (accountId : AccountId) :
    (getDefaultSettlementAccount accountId).Keeps assumed Routed
      (fun found => ∀ settlement ∈ found, Target settlement) := by
  apply select_keeps.bind
  intro account _
  cases account with
  | none => exact trivial
  | some account =>
      apply selectSettlement_keeps expects
      intro world settlement member
      have sorted := List.mem_of_mem_head? member
      exact (List.mem_filter.mp ((List.mergeSort_perm _ _).mem_iff.mp sorted)).1

theorem findSettlement_keeps (accountId : AccountId) (wanted : Option String) :
    (findSettlement accountId wanted).Keeps assumed Routed
      (fun found => ∀ settlement ∈ found, Target settlement) := by
  unfold findSettlement
  split
  · apply selectSettlement_keeps expects
    exact fun world settlement member => List.mem_of_find?_eq_some member
  · exact getDefaultSettlementAccount_keeps expects accountId

theorem createWithdrawal_keeps (now : Time) (random : List Char)
    (minPayout : MinPayout) (accountId : AccountId) (dto : WithdrawalDto)
    (actorId : Option String) :
    (createWithdrawal now random minPayout accountId dto actorId).Keeps assumed
      Routed Anything := by
  have prepared :
    (prepareWithdrawal now random minPayout accountId dto actorId).Keeps assumed
      Routed (fun hold => WellAddressed hold.payout) := by
    apply (findAccount_keeps accountId).bind
    intro account _
    apply (findSettlement_keeps expects _ _).bind
    intro found targets
    cases found with
    | none => exact trivial
    | some settlement =>
        dsimp only
        split
        · exact trivial
        apply (computeFee_keeps _ _ _).bind
        intro fee _
        split
        · exact trivial
        split
        · exact trivial
        · exact (targets settlement rfl).wellAddressed _ _ _ _ _ _ _
  apply prepared.bind
  exact fun _ fits => holdAndQueue_keeps now fits

omit expects in
theorem readBalance_keeps (accountId : AccountId) :
    (readBalance accountId).Keeps assumed Routed Anything := by
  apply select_keeps.bind
  exact fun _ _ => trivial

theorem sweepNow_keeps (now : Time) (random : List Char) (minPayout : MinPayout)
    (accountId : String) :
    (sweepNow now random minPayout accountId).Keeps assumed
      Routed Anything := by
  have prepared (accountId : AccountId) :
      (prepareSweepNow now random minPayout accountId).Keeps assumed Routed
        (fun hold => WellAddressed hold.payout) := by
    apply (findAccount_keeps accountId).bind
    intro account _
    apply (getDefaultSettlementAccount_keeps expects _).bind
    intro found targets
    cases found with
    | none => exact trivial
    | some settlement =>
        apply (readBalance_keeps _).bind
        intro balance _
        split
        · exact trivial
        apply (computeFee_keeps _ _ _).bind
        intro fee _
        dsimp only
        split
        · exact trivial
        split
        · exact trivial
        · exact (targets settlement rfl).wellAddressed _ _ _ _ _ _ _
  apply (resolveAccountId_keeps accountId).bind
  intro resolved _
  cases resolved with
  | none => exact trivial
  | some resolved =>
      apply (prepared resolved).bind
      exact fun _ fits => holdAndQueue_keeps now fits

theorem sweepLeg_keeps (now startOfToday : Time) (random : List Char)
    (minPayout : MinPayout) (dryRun : Bool) (account : Account) :
    (sweepLeg now startOfToday random minPayout dryRun account).Keeps assumed
      Routed Anything := by
  have prepared :
    (prepareLeg now startOfToday random minPayout dryRun account).Keeps assumed
      Routed (fun prepared => ∀ hold, prepared = .inr hold →
        WellAddressed hold.payout) := by
    have none_ (detail : SweepDetail) (hold : Hold)
        (same : (Sum.inl detail : SweepDetail ⊕ Hold) = .inr hold) :
        WellAddressed hold.payout := by
      cases same
    apply (getDefaultSettlementAccount_keeps expects _).bind
    intro found targets
    cases found with
    | none => exact none_ _
    | some settlement =>
        apply (readBalance_keeps _).bind
        intro balance _
        split
        · exact none_ _
        apply select_keeps.bind
        intro already _
        split
        · exact none_ _
        unfold prepareSweep
        apply (computeFee_keeps _ _ _).bind
        intro fee _
        dsimp only
        split
        · exact none_ _
        split
        · exact trivial
        split
        · exact none_ _
        · intro hold same
          cases same
          exact (targets settlement rfl).wellAddressed _ _ _ _ _ _ _
  apply Program.Keeps.catching
  · apply prepared.bind
    intro prepared fits
    cases prepared with
    | inl detail => exact trivial
    | inr hold =>
        apply (holdAndQueue_keeps now (fits hold rfl)).bind
        exact fun _ _ => trivial
  · exact fun _ => trivial

theorem runAutoSweep_keeps (now startOfToday : Time)
    (random : AccountId → List Char) (minPayout : MinPayout) (dryRun : Bool) :
    (runAutoSweep now startOfToday random minPayout dryRun).Keeps assumed
      Routed Anything := by
  apply select_keeps.bind
  intro accounts _
  induction accounts with
  | nil => exact trivial
  | cons account rest ih =>
      apply (sweepLeg_keeps expects _ _ _ _ _ account).bind
      intro detail _
      apply (ih trivial).bind
      exact fun _ _ => trivial

end

theorem newSettlement_addressable {data : SettlementData} (fits : data.Fits)
    (now : Time) (id : String) (accountId : AccountId) (isDefault : Bool) :
    Addressable (newSettlement now id accountId data isDefault) :=
  assign_addressable fits _

theorem patched_addressable {now : Time} {data : Option SettlementData}
    {patch : SettlementPatch} (fits : ∀ assigned ∈ data, assigned.Fits)
    {row : SettlementAccount} (addressable : Addressable row) :
    Addressable (patched now data patch row) := by
  cases data with
  | none => exact addressable
  | some data => exact assign_addressable (fits data rfl) row

theorem patchData_fits {patch : SettlementPatch} {data : Option SettlementData}
    (valid : patchData patch = .ok data) :
    ∀ assigned ∈ data, assigned.Fits := by
  unfold patchData at valid
  cases type : patch.type with
  | none =>
      rw [type] at valid
      cases valid
      exact fun _ member => by cases member
  | some type' =>
      simp only [type] at valid
      cases checked :
        validateSettlementInput type' patch.toSettlementFields with
      | error error =>
          rw [checked] at valid
          cases valid
      | ok assigned =>
          rw [checked] at valid
          cases valid
          intro other member
          cases member
          exact validateSettlementInput_fits checked

theorem upsertTransaction_keeps (now : Time) (id : String)
    (accountId : AccountId) {data : SettlementData} (fits : data.Fits)
    (isDefault : Bool) :
    (upsertTransaction now id accountId data isDefault).Keeps assumed
      Routed Anything := by
  have created : (createSettlementRow now id accountId data isDefault).Keeps
    assumed Routed
      Anything := by
    unfold createSettlementRow
    split
    · exact createSettlementRow_keeps
        (newSettlement_addressable fits now id accountId isDefault)
    · exact trivial
  unfold upsertTransaction
  split
  · apply (Body.Keeps.perform clearDefaults_keeps).bind
    exact fun _ _ => created
  · exact created

theorem settlementCall_keeps (call : SettlementCall) :
    call.program.Keeps assumed Routed Anything := by
  cases call with
  | upsert now id accountId input isDefault =>
      apply (resolveAccountId_keeps accountId).bind
      intro resolved _
      cases resolved with
      | none => exact trivial
      | some resolved =>
          dsimp only
          split
          · exact trivial
          · rename_i data valid
            exact Program.Keeps.atomically
              (upsertTransaction_keeps _ _ _
                (validateSettlementInput_fits valid) _)
  | update now accountId settlementId patch =>
      have written (id : String) :
        (writePatch now id patch).Keeps assumed Routed
          Anything := by
        unfold writePatch
        split
        · exact trivial
        rename_i data valid
        split
        · exact trivial
        apply Program.Keeps.perform
        apply Query.Keeps.aside
        · intro met world routed
          exact ⟨routed.payouts,
            routed.settlements.modify (patched_id now data patch)
            fun _ => patched_addressable (patchData_fits valid),
              routed.collections,
            routed.deposits⟩
        · exact fun _ => trivial
      apply (resolveAccountId_keeps accountId).bind
      intro resolved _
      cases resolved with
      | none => exact trivial
      | some resolved =>
          apply select_keeps.bind
          intro row _
          cases row with
          | none => exact trivial
          | some row =>
              dsimp only
              split
              · apply (Program.Keeps.perform clearDefaults_keeps).bind
                exact fun _ _ => written row.id
              · exact written row.id

theorem createSettlement_fits {input : SettlementInput} {data : SettlementData}
    (valid : Accounts.createSettlement input = .ok data) : data.Fits := by
  unfold Accounts.createSettlement at valid
  split at valid
  · split at valid
    · split at valid
      · cases valid
      · rename_i phone normal
        cases valid
        exact normalizePhoneNumber_canonical normal
    · cases valid
  · exact validateSettlementInput_fits valid

theorem createSettlement?_fits {input : Option SettlementInput}
    {data : Option SettlementData}
    (valid : Accounts.createSettlement? input = .ok data) :
    ∀ assigned ∈ data, assigned.Fits := by
  cases input with
  | none =>
      cases valid
      exact fun _ member => by cases member
  | some input =>
      change Except.map some (Accounts.createSettlement input) =
        .ok data at valid
      cases checked : Accounts.createSettlement input with
      | error error =>
          rw [checked] at valid
          cases valid
      | ok assigned =>
          rw [checked] at valid
          cases valid
          intro other member
          cases member
          exact createSettlement_fits checked

theorem uniqueSourceCode_keeps (generated : ℕ → String) :
    (Accounts.uniqueSourceCode generated).Keeps assumed Routed Anything := by
  unfold Accounts.uniqueSourceCode
  generalize (List.range 25).map generated = codes
  induction codes with
  | nil => exact trivial
  | cons code rest ih =>
      apply select_keeps.bind
      intro clash _
      cases clash with
      | none => exact trivial
      | some account => exact ih

theorem createAccount_keeps (now : Time) (generated : Accounts.Generated)
    (dto : Accounts.CreateAccountDto) :
    (Accounts.create now generated dto).Keeps assumed Routed Anything := by
  have beside {Answer : Type} {statement : Statement Answer}
      (same : ∀ met world, SameRoutes world (statement.effect met world)) :
      (Body.perform statement).Keeps assumed Routed Anything :=
    .perform (aside_keeps same)
  have settled {data : Option SettlementData}
    (fits : ∀ assigned ∈ data, assigned.Fits)
      (id : String) (accountId : AccountId) :
      (Accounts.createDefaultSettlement now id accountId data).Keeps assumed
        Routed Anything := by
    cases data with
    | none => exact trivial
    | some data =>
        apply (createSettlementRow_keeps
          (newSettlement_addressable (fits data rfl) now id
            accountId true)).bind
        exact fun _ _ => trivial
  have priced (accountId : AccountId) (fees : Option Accounts.FeePatch) :
      (Accounts.createFees accountId fees).Keeps assumed Routed Anything := by
    cases fees with
    | none => exact trivial
    | some fees =>
        unfold Accounts.createFees
        dsimp only
        split
        · exact trivial
        · apply (beside fun _ _ => ⟨rfl, rfl, rfl, rfl⟩).bind
          exact fun _ _ => trivial
  apply (uniqueSourceCode_keeps _).bind
  intro sourceCode _
  split
  · exact trivial
  rename_i data valid
  apply Program.Keeps.atomically
  unfold Accounts.createTransaction
  apply (beside fun _ _ => ⟨rfl, rfl, rfl, rfl⟩).bind
  intro created _
  apply (beside fun _ _ => ⟨rfl, rfl, rfl, rfl⟩).bind
  intro _ _
  apply (beside fun _ _ => ⟨rfl, rfl, rfl, rfl⟩).bind
  intro _ _
  apply (settled (createSettlement?_fits valid) _ _).bind
  intro _ _
  apply (priced _ _).bind
  intro _ _
  apply (beside fun _ _ => ⟨rfl, rfl, rfl, rfl⟩).bind
  intro account _
  cases account <;> exact trivial

theorem initiateCollection_keeps (now : Time) (random again : List Char)
    (accountId : AccountId) {dto : UssdPushInitiate} (provider : PushProvider)
    (canonical : CanonicalPhone dto.phoneNumber) :
    (initiateCollection now random again accountId dto provider).Keeps assumed
      Routed Anything := by
  have stored (orderRef : Reference) (result : ProviderResult ProviderRecord) :
      (createCollection now (newCollection now accountId dto orderRef result)
        result).Keeps assumed Routed Anything := by
    unfold createCollection
    split
    · exact trivial
    have created : (Program.perform (collections.create "collection.create"
        (newCollection now accountId dto orderRef result))).Keeps assumed
          Routed Anything := by
      apply Program.Keeps.perform
      apply Query.Keeps.aside
      · intro met world routed
        exact ⟨routed.payouts, routed.settlements,
          routed.collections.insert canonical, routed.deposits⟩
      · exact fun _ => trivial
    apply created.bind
    intro collection _
    split
    · exact trivial
    have failed :
      (Program.perform
      (collections.update "collection.fail" collection.reference
        (failedCollection now result.error)
        (failedCollection_reference now result.error))).Keeps assumed
          Routed Anything := by
      apply Program.Keeps.perform
      apply Query.Keeps.aside
      · intro met world routed
        exact ⟨routed.payouts, routed.settlements, routed.collections.modify
          (failedCollection_reference now result.error) fun _ kept => kept,
            routed.deposits⟩
      · exact fun _ => trivial
    apply failed.bind
    exact fun _ _ => trivial
  apply (findAccount_keeps accountId).bind
  intro account _
  split
  · exact trivial
  apply (rejectRepeated_keeps _ _ _ _).bind
  intro _ _
  split
  · exact trivial
  · exact stored _ _

theorem initiateDeposit_keeps (now : Time) (random : List Char)
    (accountId : AccountId) {dto : UssdPushInitiate} (provider : PushProvider)
    (canonical : CanonicalPhone dto.phoneNumber) :
    (initiateDeposit now random accountId dto provider).Keeps assumed
      Routed Anything := by
  have stored (wallet : Wallet) (reference : Reference)
      (result : ProviderResult ProviderRecord) : (createDeposit now
        (newDeposit now accountId wallet dto reference result) result).Keeps
          assumed Routed Anything := by
    unfold createDeposit
    split
    · exact trivial
    have created : (Program.perform (deposits.create "deposit.create"
        (newDeposit now accountId wallet dto reference result))).Keeps assumed
          Routed Anything := by
      apply Program.Keeps.perform
      apply Query.Keeps.aside
      · intro met world routed
        exact ⟨routed.payouts, routed.settlements, routed.collections,
          routed.deposits.insert canonical⟩
      · exact fun _ => trivial
    apply created.bind
    intro deposit _
    split
    · exact trivial
    have failed :
      (Program.perform (deposits.update "deposit.fail" deposit.reference
        (failedDeposit now result.error)
        (failedDeposit_reference now result.error))).Keeps assumed
          Routed Anything := by
      apply Program.Keeps.perform
      apply Query.Keeps.aside
      · intro met world routed
        exact ⟨routed.payouts, routed.settlements, routed.collections,
          routed.deposits.modify
          (failedDeposit_reference now result.error) fun _ kept => kept⟩
      · exact fun _ => trivial
    apply failed.bind
    exact fun _ _ => trivial
  apply (findAccount_keeps accountId).bind
  intro account _
  apply select_keeps.bind
  intro wallet _
  cases wallet with
  | none => exact trivial
  | some wallet =>
      dsimp only
      split
      · exact trivial
      apply (rejectRepeated_keeps _ _ _ _).bind
      intro _ _
      exact stored _ _ _

end

/-- A collection asks the provider only for the push of its own body. -/
theorem initiateCollection_asks (now : Time) (random again : List Char)
    (accountId : AccountId) (dto : UssdPushInitiate)
    {provider other : PushProvider} (same : ∀ orderReference,
      provider (pushRequest dto orderReference) =
        other (pushRequest dto orderReference)) :
    initiateCollection now random again accountId dto provider =
      initiateCollection now random again accountId dto other := by
  unfold initiateCollection
  simp only [same]

/-- And so does a deposit. -/
theorem initiateDeposit_asks (now : Time) (random : List Char)
    (accountId : AccountId) (dto : UssdPushInitiate)
    {provider other : PushProvider} (same : ∀ orderReference,
      provider (pushRequest dto orderReference) =
        other (pushRequest dto orderReference)) :
    initiateDeposit now random accountId dto provider =
      initiateDeposit now random accountId dto other := by
  unfold initiateDeposit
  simp only [same]

/-! ## Calls -/

/-- A request of an endpoint, an applied record of the provider, or a turn of a
background job. -/
inductive EndpointCall where
  | createPayout (now : Time) (random : List Char) (accountId : AccountId)
      (channel : PayoutChannel) (dto : PayoutDto)
  | createBatch (now : Time) (random : List Char) (randoms : ℕ → List Char)
      (accountId : AccountId) (dto : CreateBatchDto)
  | createPayoutLink (now : Time) (tokenHash : String) (accountId : AccountId)
      (dto : CreatePayoutLinkDto)
  | confirmPayoutLink (times : ConfirmTimes) (random : List Char)
      (tokenHash : String)
      (dto : PayoutLinkDetails) (beneficiaryName : Option String)
  | createWithdrawal (now : Time) (random : List Char) (minPayout : MinPayout)
      (accountId : AccountId) (dto : WithdrawalDto) (actorId : Option String)
  | runAutoSweep (now startOfToday : Time) (random : AccountId → List Char)
      (minPayout : MinPayout) (dryRun : Bool)
  | sweepNow (now : Time) (random : List Char) (minPayout : MinPayout)
      (accountId : String)
  | settlementAccount (call : SettlementCall)
  | createAccount (now : Time) (generated : Accounts.Generated)
      (dto : Accounts.CreateAccountDto)
  | initiateCollection (now : Time) (random again : List Char)
      (accountId : AccountId) (dto : UssdPushInitiate) (provider : PushProvider)
  | initiateDeposit (now : Time) (random : List Char) (accountId : AccountId)
      (dto : UssdPushInitiate) (provider : PushProvider)
  | collectionRecord (now : Time) (reference : Reference)
      (record : ProviderRecord)
  | depositRecord (now : Time) (reference : Reference) (record : ProviderRecord)
  | payoutRecord (now : Time) (reference : Reference) (record : ProviderRecord)
  | poll (turn : QueueTurn)

def EndpointCall.program : EndpointCall → Db Unit
  | .createPayout now random accountId channel dto =>
      Program.discard (Payouts.createPayout now random accountId channel dto)
  | .createBatch now random randoms accountId dto =>
      Program.discard (Payouts.createBatch now random randoms accountId dto)
  | .createPayoutLink now tokenHash accountId dto =>
      Program.discard (Payouts.createPayoutLink now tokenHash accountId dto)
  | .confirmPayoutLink times random tokenHash dto beneficiaryName =>
      Program.discard
        (Payouts.confirmPayoutLink times random tokenHash dto beneficiaryName)
  | .createWithdrawal now random minPayout accountId dto actorId =>
      Program.discard
        (Payouts.createWithdrawal now random minPayout accountId dto actorId)
  | .runAutoSweep now startOfToday random minPayout dryRun =>
      Program.discard
        (Payouts.runAutoSweep now startOfToday random minPayout dryRun)
  | .sweepNow now random minPayout accountId =>
      Program.discard (Payouts.sweepNow now random minPayout accountId)
  | .settlementAccount call => Program.discard call.program
  | .createAccount now generated dto =>
      Program.discard (Accounts.create now generated dto)
  | .initiateCollection now random again accountId dto provider =>
      Program.discard
        (Payments.initiateCollection now random again accountId dto provider)
  | .initiateDeposit now random accountId dto provider =>
      Program.discard
        (Payments.initiateDeposit now random accountId dto provider)
  | .collectionRecord now reference record =>
      Program.discard (applyCollectionUpdate now reference record)
  | .depositRecord now reference record =>
      Program.discard (applyDepositUpdate now reference record)
  | .payoutRecord now reference record => receiveRecord now reference record
  | .poll turn => turn.program

/-- The patterns of the endpoint hold.  A deposit's phone number need only be a
text, and a settlement's bank initials have only a length. -/
def EndpointCall.Validated : EndpointCall → Prop
  | .createPayout _ _ _ channel dto => ValidPayout channel dto
  | .createBatch _ _ _ _ dto => ∀ item ∈ dto.items, ValidItem item
  | .initiateCollection _ _ _ _ dto _ => CanonicalPhone dto.phoneNumber
  | _ => True

/-- The phone number of a deposit is in the canonical form. -/
def EndpointCall.CanonicalDeposit : EndpointCall → Prop
  | .initiateDeposit _ _ _ dto _ => CanonicalPhone dto.phoneNumber
  | _ => True

/-- The call, with another answer of the provider to one push. -/
def EndpointCall.answered (call : EndpointCall) (request : PushRequest)
    (answer : ProviderResult ProviderRecord) : EndpointCall :=
  match call with
  | .initiateCollection now random again accountId dto provider =>
      .initiateCollection now random again accountId dto
        (Function.update provider request answer)
  | .initiateDeposit now random accountId dto provider =>
      .initiateDeposit now random accountId dto
        (Function.update provider request answer)
  | call => call

/-- The call hands the push to the provider: what it does depends on the answer
to it. -/
def EndpointCall.Pushes (call : EndpointCall) (request : PushRequest) : Prop :=
  ∃ answer, (call.answered request answer).program ≠ call.program

theorem update_of_ne {dto : UssdPushInitiate} {request : PushRequest}
    (other : ∀ orderReference, request ≠ pushRequest dto orderReference)
    (provider : PushProvider) (answer : ProviderResult ProviderRecord)
    (orderReference : Reference) :
    Function.update provider request answer (pushRequest dto orderReference) =
      provider (pushRequest dto orderReference) :=
  Function.update_of_ne (other orderReference).symm answer provider

/-- A push has the phone number of the body. -/
theorem EndpointCall.pushes_canonical {call : EndpointCall}
    (valid : call.Validated) (canonical : call.CanonicalDeposit)
    {request : PushRequest} (pushes : call.Pushes request) :
    CanonicalPhone request.phoneNumber := by
  obtain ⟨answer, differs⟩ := pushes
  by_contra malformed
  apply differs
  cases call with
  | initiateCollection now random again accountId dto provider =>
      have other (orderReference : Reference) : request ≠
        pushRequest dto orderReference := by
        rintro rfl
        exact malformed valid
      exact congrArg Program.discard
        (initiateCollection_asks _ _ _ _ _ (update_of_ne other provider answer))
  | initiateDeposit now random accountId dto provider =>
      have other (orderReference : Reference) : request ≠
        pushRequest dto orderReference := by
        rintro rfl
        exact malformed canonical
      exact congrArg Program.discard
        (initiateDeposit_asks _ _ _ _ (update_of_ne other provider answer))
  | _ => rfl

/-- A job that reads this state hands the request to the provider. -/
def Submits (world : World) (request : PayoutRequest) : Prop :=
  ∃ payoutId payout, world.payouts.find? payoutId = some payout ∧
    payout.status = .pending ∧
    (request = payoutRequest payout ∨ request = batchItemRequest payout)

/-- A job asks the provider only for the request of the pending payout it
reads. -/
theorem processPayout_asks (now : Time) (credentialsReady : Bool)
    {provider other : PayoutRequest → Behaviour}
    (requestOf : Payout → PayoutRequest)
    (complete : ProviderRecord → ProviderRecord) (payoutId : Reference)
    {world : World}
    (same : ∀ payout, world.payouts.find? payoutId = some payout →
      payout.status = .pending →
      provider (requestOf payout) = other (requestOf payout))
    (faults : Site → Option (Fault AppError)) :
    (processPayout now credentialsReady provider requestOf complete
      payoutId).exec faults world =
      (processPayout now credentialsReady other requestOf complete
        payoutId).exec faults world := by
  unfold processPayout
  rw [Program.exec_perform_bind, Program.exec_perform_bind]
  cases faults (payouts.findUnique "payout.job" payoutId).label with
  | some fault => cases fault <;> rfl
  | none =>
      cases found : world.payouts.find? payoutId with
      | none =>
          simp only [Relation.findUnique, select, payouts, found]
      | some payout =>
          simp only [Relation.findUnique, select, payouts, found]
          split
          · rfl
          · rename_i pending
            rw [same payout found (not_not.mp pending)]

theorem EndpointCall.keeps {assumed : List Expectation}
    (expects : Expectation.payableSettlement ∈ assumed) {call : EndpointCall}
    (valid : call.Validated) (canonical : call.CanonicalDeposit) :
    call.program.Keeps assumed Routed Anything := by
  cases call with
  | createPayout now random accountId channel dto =>
      exact (createPayout_keeps _ _ _ valid).discard trivial
  | createBatch now random randoms accountId dto =>
      exact (createBatch_keeps _ _ _ _ valid).discard trivial
  | createPayoutLink now tokenHash accountId dto =>
      exact (createPayoutLink_keeps _ _ _ _).discard trivial
  | confirmPayoutLink times random tokenHash dto beneficiaryName =>
      exact (confirmPayoutLink_keeps _ _ _ _ _).discard trivial
  | createWithdrawal now random minPayout accountId dto actorId =>
      exact (createWithdrawal_keeps expects _ _ _ _ _ _).discard trivial
  | runAutoSweep now startOfToday random minPayout dryRun =>
      exact (runAutoSweep_keeps expects _ _ _ _ _).discard trivial
  | sweepNow now random minPayout accountId =>
      exact (sweepNow_keeps expects _ _ _ _).discard trivial
  | settlementAccount call => exact (settlementCall_keeps call).discard trivial
  | createAccount now generated dto =>
      exact (createAccount_keeps _ _ _).discard trivial
  | initiateCollection now random again accountId dto provider =>
      exact (initiateCollection_keeps _ _ _ _ _ valid).discard trivial
  | initiateDeposit now random accountId dto provider =>
      exact (initiateDeposit_keeps _ _ _ _ canonical).discard trivial
  | collectionRecord now reference record =>
      exact (applyCollectionUpdate_keeps _ _ _).discard trivial
  | depositRecord now reference record =>
      exact (applyDepositUpdate_keeps _ _ _).discard trivial
  | payoutRecord now reference record => exact receiveRecord_keeps _ _ _
  | poll turn => exact queueTurn_keeps turn

/-! ## Every run -/

variable {Id : Type} [DecidableEq Id]

/-- The calls, none of which has run a statement yet. -/
def requesting (world : World) (calls : Id → EndpointCall) :
    Config Id World RowKey Expectation Site AppError Unit :=
  Config.start world fun id => (calls id).program

/-- However validated calls interleave, fail or stop: if no withdrawal or sweep
reads a bank account whose initials are no BIC, and the deposits have canonical
numbers, every request a job would hand over is well formed in every state,
every push goes to a canonical number, and so do the stored ones. -/
theorem requests_wellFormed (world : World) (start : Routed world)
    (calls : Id → { call : EndpointCall // call.Validated })
    (canonical : ∀ id, (calls id).val.CanonicalDeposit)
    (schedule : List (Event Id AppError))
    (payable : (requesting world fun id => (calls id).val).AsExpected
      [.payableSettlement]
      schedule) :
    (∀ request,
      Submits ((requesting world fun id => (calls id).val).run schedule).state
        request → request.WellFormed) ∧
    (∀ id request, (calls id).val.Pushes request →
      CanonicalPhone request.phoneNumber) ∧
    Routed ((requesting world fun id => (calls id).val).run
      schedule).state := by
  have reached :
    Routed ((requesting world fun id => (calls id).val).run schedule).state :=
    Config.keeps_run start
      (fun id => EndpointCall.keeps List.mem_cons_self (calls id).property
        (canonical id))
      schedule payable
  refine ⟨?_, fun id _ => EndpointCall.pushes_canonical (calls id).property
    (canonical id), reached⟩
  rintro request ⟨payoutId, payout, found, _, rfl | rfl⟩
  · exact reached.payouts payout (Table.mem_of_find? found)
  · exact (batchItemRequest_wellFormed payout).mpr
      (reached.payouts payout (Table.mem_of_find? found))

/-- An account with 2000 in its COLLECTION wallet and no settlement account
yet. -/
def unsettledWorld : World where
  accounts :=
    Table.empty.insert { id := "a", accountId := "ACC-1"
                         sourceCode := "AAAAA" }
  wallets :=
    (Table.empty.insert
      { key := ⟨"a", .collection⟩, balance := Money.round 2000 }).insert
      { key := ⟨"a", .disbursement⟩ }

/-- A settlement account is set up, and 1500 are withdrawn to it. -/
def settling (input : SettlementInput) :
    Bool → { call : EndpointCall // call.Validated }
  | false => ⟨.settlementAccount (.upsert 1 "s1" "a" input none), trivial⟩
  | true => ⟨.createWithdrawal 5 "00000000000000A".toList (some 1000) "a"
      { amount := Amount.shillings 1500 } none, trivial⟩

def oneAfterTheOther : List (Event Bool AppError) :=
  List.replicate 8 (.run false) ++ List.replicate 24 (.run true)

/-- The state when both are done. -/
def settledWith (input : SettlementInput) : World :=
  ((requesting unsettledWorld fun id => (settling input id).val).run
    oneAfterTheOther).state

def airtelNumber : SettlementInput :=
  { type := .mobile, method := some .airtel, phoneNumber := some "0682345678" }

/-- A deposit from this number, which the provider accepts. -/
def depositFrom (phoneNumber : String) : EndpointCall :=
  .initiateDeposit 5 "00000000000000B".toList "a"
    { amount := Money.round 1500, phoneNumber } fun _ => { ok := true }

/-- A mobile number is set up and paid to while a deposit is made. -/
def settlingAndDepositing :
    Option Bool → { call : EndpointCall // call.Validated }
  | some id => settling airtelNumber id
  | none => ⟨depositFrom "255682345678", trivial⟩

/-- The deposit is pushed after the withdrawal has begun. -/
def depositBetween : List (Event (Option Bool) AppError) :=
  List.replicate 8 (.run (some false)) ++ List.replicate 6 (.run (some true)) ++
    List.replicate 6 (.run none) ++ List.replicate 18 (.run (some true))

theorem requests_wellFormed_mobile :
    (∀ request, Submits ((requesting unsettledWorld fun id =>
        (settlingAndDepositing id).val).run depositBetween).state request →
      request.WellFormed) ∧
    (∀ id request, (settlingAndDepositing id).val.Pushes request →
      CanonicalPhone request.phoneNumber) ∧
    Routed ((requesting unsettledWorld fun id =>
      (settlingAndDepositing id).val).run depositBetween).state := by
  apply requests_wellFormed unsettledWorld (routed_of_empty rfl rfl rfl rfl)
    settlingAndDepositing
  · intro id
    rcases id with _ | _ | _
    · change CanonicalPhone "255682345678"
      unfold CanonicalPhone
      decide +kernel
    · trivial
    · trivial
  · decide +kernel

def crdbAccount : SettlementInput :=
  { type := .bank, bankName := some "CRDB Bank", bankInitials := some "CRDB"
    accountNumber := some "0150" }

/-- The short name of a bank becomes the BIC of a payout, and a deposit is
pushed to the number as it was typed. -/
theorem initials_submitted :
    (¬ ∀ request, Submits (settledWith crdbAccount) request →
      request.WellFormed) ∧
    ¬ ∀ request, (depositFrom "0682345678").Pushes request →
      CanonicalPhone request.phoneNumber := by
  constructor
  · intro wellFormed
    have stored : ∃ payout ∈ (settledWith crdbAccount).payouts.rows,
        payout.status = .pending ∧ payout.channel = .bank ∧
          payout.bic = some "CRDB" := by
      decide +kernel
    obtain ⟨payout, member, pending, channel, bic⟩ := stored
    have formed := wellFormed (payoutRequest payout)
      ⟨payout.reference, payout, Table.find?_of_mem member, pending, .inl rfl⟩
    simp only [payoutRequest, channel, PayoutRequest.WellFormed, bic] at formed
    obtain ⟨_, _, code, same, isCode⟩ := formed
    cases same
    revert isCode
    unfold BicCode
    decide +kernel
  · intro canonical
    have pushed := canonical (pushRequest
      { amount := Money.round 1500, phoneNumber := "0682345678" }
        "AAAAA00000000000000B")
      ⟨{ ok := false }, fun same => ?_⟩
    · revert pushed
      unfold CanonicalPhone
      decide +kernel
    -- Refused, the push leaves a failed row instead of a pending one.
    have rows := congrArg
      (fun program => (program.run unsettledWorld).2.deposits.rows.map
        Deposit.status) same
    revert rows
    decide +kernel

end CloudStudio.Payouts
