import CloudStudio.Payouts.Debits

/-!
# The preview of a payout

`DisbursementsService.previewMobileMoneyPayout` computes the fee of a payout and
executes nothing.  A payout that is asked for afterwards debits the total that
was shown, if it debits anything, as long as the fees of the account are as they
were.
-/

namespace CloudStudio.Payouts

open CloudStudio.Data CloudStudio.Transactions CloudStudio.Platform
open CloudStudio.Payments
open CloudStudio.Wallets

inductive MobileOperator where
  | vodacom | airtel | tigo | halopesa | unknown
  deriving DecidableEq, Repr

def operatorName : MobileOperator → String
  | .vodacom => "VODACOM"
  | .airtel => "AIRTEL"
  | .tigo => "TIGO"
  | .halopesa => "HALOPESA"
  | .unknown => "UNKNOWN"

/-- The operator of a number, by the two digits after 255. -/
def detectMobileOperator (normalized255 : String) : MobileOperator :=
  let digits := normalized255.toList.filter Char.isDigit
  if ¬ ['2', '5', '5'].isPrefixOf digits ∨ digits.length < 12 then .unknown
  else
    match (digits.drop 3).take 2 with
    | ['7', '4'] | ['7', '5'] | ['7', '6'] => .vodacom
    | ['7', '8'] | ['6', '8'] => .airtel
    | ['6', '1'] | ['6', '5'] | ['6', '6'] | ['6', '7'] | ['7',
        '1'] | ['7', '3'] => .tigo
    | ['6', '2'] => .halopesa
    | _ => .unknown

structure MnoPayoutPreview where
  amount : Amount
  currency : Option String := none
  phoneNumber : String

/-- The answer of a preview; `channel` and `executed` are the same for all. -/
structure PayoutPreview where
  phoneNumber : String
  operator : MobileOperator
  amount : Money
  currency : String
  fee : ComputedFee
  totalDebit : Money
  beneficiaryReceives : Money
  activeMethods : Json
  providerPreviewError : Option Json

/-- The provider's data, or why there is none.  A provider may have no previews
at all. -/
def providerPreview (result : Option (ProviderResult Json)) : Json :=
  let unavailable (error : Option String) :=
    Json.obj [("error", .str (error.getD "provider preview unavailable"))]
  match result with
  | some result =>
      match result.data with
      | some data => if result.ok ∧
          data.truthy then data else unavailable result.error
      | none => unavailable result.error
  | none => unavailable none

/-- The one method that is shown when the provider lists none. -/
def localMethods (operator : MobileOperator) : Json :=
  .arr [.obj [("name", .str (operatorName operator)),
    ("status", .str "AVAILABLE"), ("fee", .num "0"), ("message", .str "")]]

def previewOf (dto : MnoPayoutPreview) (phoneNumber : String)
    (result : Option (ProviderResult Json)) (fee : ComputedFee) :
    PayoutPreview :=
  let operator := detectMobileOperator phoneNumber
  let preview := providerPreview result
  { phoneNumber, operator
    amount := Money.round dto.amount.val
    currency := dto.currency.getD "TZS"
    fee
    totalDebit := Money.round (dto.amount.val + fee.feeAmount)
    beneficiaryReceives := Money.round dto.amount.val
    activeMethods :=
      (preview.present? "activeMethods").getD (localMethods operator)
    providerPreviewError :=
      if ((preview.get? "activeMethods").any Json.truthy) = true then none
      else preview.get? "error" }

/-- Mobile money payout preview; `result` is what the provider answers. -/
def previewMobileMoneyPayout (accountId : AccountId) (dto : MnoPayoutPreview)
    (result : Option (ProviderResult Json)) : Db PayoutPreview :=
  match normalizePhoneNumber dto.phoneNumber with
  | none => .threw (.badRequest .validationFailed
      "A valid Tanzanian phoneNumber is required (07XXXXXXXX / 2557XXXXXXXX)")
  | some phoneNumber =>
      if (dto.amount.val : Decimal) ≤ 0 then
        .threw (.badRequest .validationFailed
          "Amount must be greater than zero")
      else do
        let fee ← computeFee .disbursement accountId (.value dto.amount.val)
        pure (previewOf dto phoneNumber result fee)

variable {world : World}

/-- It adds a default fee schedule at most, and shows the fee that the account
has. -/
theorem preview_holds (accountId : AccountId) (dto : MnoPayoutPreview)
    (result : Option (ProviderResult Json)) :
    (previewMobileMoneyPayout accountId dto result).Holds (· = world)
      (fun preview after => Prepared world after ∧ ∃ phoneNumber,
        normalizePhoneNumber dto.phoneNumber = some phoneNumber ∧
          preview = previewOf dto phoneNumber result
            ((world.configOf accountId).fee .disbursement dto.amount.val))
      (Prepared world) := by
  unfold previewMobileMoneyPayout
  split
  · apply Program.Holds.threw
    rintro _ rfl
    exact .refl _
  rename_i phoneNumber normal
  split
  · apply Program.Holds.threw
    rintro _ rfl
    exact .refl _
  · apply (computeFee_holds .disbursement accountId _).bind
    intro fee
    apply Program.Holds.returned
    rintro after ⟨rfl, rfl⟩
    exact ⟨prepared_withConfig world accountId, phoneNumber, normal, rfl⟩

/-! ## The payout afterwards -/

/-- The hold that a payout request comes to under a fee. -/
def holdOf (now : Time) (accountId : AccountId) (channel : PayoutChannel)
    (dto : PayoutDto) (reference : Reference) (fee : ComputedFee) : Hold where
  debit := payoutDebit accountId dto reference fee
  payout := newPayout now accountId channel dto reference fee

theorem preparePayout_fee (now : Time) (random : List Char)
    (accountId : AccountId) (channel : PayoutChannel) (dto : PayoutDto) :
    (preparePayout now random accountId channel dto).Holds (· = world)
      (fun hold after => Prepared world after ∧
        (∃ account, world.accounts.find? accountId = some account) ∧
        ∃ reference, hold = holdOf now accountId channel dto reference
          ((world.configOf accountId).fee .disbursement dto.amount.val))
      (Prepared world) := by
  apply (findAccount_holds accountId).bind
  intro account
  cases buildReference random account.sourceCode dto.reference with
  | error _ =>
      apply Program.Holds.threw
      rintro state ⟨rfl, _⟩
      exact .refl state
  | ok reference =>
      intro faults state ⟨same, found⟩
      subst same
      refine Program.Holds.bind
        (readOnly_holds (rejectRepeated_readOnly _ _ _ _))
        (fun _ => Program.Holds.bind (computeFee_holds _ _ _) fun fee => ?_)
          faults state rfl
      apply Program.Holds.returned
      rintro after ⟨rfl, rfl⟩
      exact ⟨prepared_withConfig state accountId, ⟨account, found⟩,
        reference, rfl⟩

/-- The total has left the DISBURSEMENT wallet, with one ledger row. -/
structure Charged (accountId : AccountId) (total : Money)
    (before after : World) : Prop where
  row : ∃ row, after.ledger = before.ledger ++ [row] ∧ row.type = .payoutDebit ∧
    row.walletId = ⟨accountId, .disbursement⟩ ∧ (row.amount : Decimal) = -total
  balance : ∀ key, after.balance key =
    before.balance key - if key =
      ⟨accountId, .disbursement⟩ then (total : Decimal) else 0
  covered : (total : Decimal) ≤ before.balance ⟨accountId, .disbursement⟩

/-- No balance and no ledger row is another than before. -/
structure Uncharged (before after : World) : Prop where
  wallets : after.wallets = before.wallets
  ledger : after.ledger = before.ledger

theorem Prepared.uncharged {before after : World}
    (prepared : Prepared before after) : Uncharged before after := by
  obtain ⟨feeConfigs, rfl⟩ := prepared
  exact ⟨rfl, rfl⟩

/-- Only the wallets and the ledger say what is charged. -/
theorem Charged.congr {accountId : AccountId} {total : Money}
    {before after later : World}
    (charged : Charged accountId total before after)
    (same : Uncharged after later) :
    Charged accountId total before later where
  row := by
    rw [same.ledger]
    exact charged.row
  balance := fun key => by
    rw [← charged.balance key]
    simp only [World.balance, same.wallets]
  covered := charged.covered

theorem Charged.since {accountId : AccountId} {total : Money}
    {earlier before after : World}
    (charged : Charged accountId total before after)
    (same : Uncharged earlier before) :
    Charged accountId total earlier after where
  row := by
    rw [← same.ledger]
    exact charged.row
  balance := fun key => by
    rw [charged.balance key]
    simp only [World.balance, same.wallets]
  covered := by
    have covered := charged.covered
    simp only [World.balance, same.wallets] at covered
    exact covered

/-- The total that the DISBURSEMENT wallet is debited. -/
def totalOf (dto : PayoutDto) (fee : ComputedFee) : Money :=
  Money.round (dto.amount.val + fee.feeAmount)

theorem coe_totalOf (dto : PayoutDto) (fee : ComputedFee) :
    (totalOf dto fee : Decimal) = dto.amount.val + fee.feeAmount :=
  Money.coe_round_of_hasPlaces
    (dto.amount.val.property.add fee.feeAmount.property)

/-- The debit of a payout, once it is recorded. -/
theorem charged_record (now : Time) {accountId : AccountId}
    {channel : PayoutChannel} {dto : PayoutDto} {reference : Reference}
    {config : FeeConfig} {account : Account} {wallet : Wallet}
    {amount : Decimal} (found : world.accounts.find? accountId = some account)
    (allowed : MoveAllowed (holdOf now accountId channel dto reference
      (config.fee .disbursement dto.amount.val)).debit world wallet amount) :
    Charged accountId (totalOf dto (config.fee .disbursement dto.amount.val))
      world
      (world.record (moveRow now (holdOf now accountId channel dto reference
        (config.fee .disbursement dto.amount.val)).debit wallet amount
          wallet.balance)) := by
  let fee := config.fee .disbursement dto.amount.val
  let input := (holdOf now accountId channel dto reference fee).debit
  have fits := payoutHold_fits now accountId channel dto reference config
  have debit : isDebit input.txType amount = true := rfl
  have value : amount = totalOf dto fee :=
    (NumberInput.value.inj allowed.value).symm
  have key : wallet.key = ⟨accountId, .disbursement⟩ := allowed.wallet_key found
  have cents : Decimal.HasPlaces 2 amount := value ▸ (totalOf dto fee).property
  have nonneg : 0 ≤ amount := by
    rw [value, coe_totalOf]
    exact fits.nonneg
  constructor
  · refine ⟨moveRow now input wallet amount wallet.balance, rfl, rfl, key, ?_⟩
    rw [moveRow_debit now wallet wallet.balance debit nonneg cents, value]
  · intro other
    rw [balance_record allowed.found_key,
      show (moveRow now _ wallet amount _).walletId = wallet.key from rfl, key]
    by_cases same : other = ⟨accountId, .disbursement⟩
    · rw [if_pos same, if_pos same, same, ← key, balance_eq allowed.found_key,
        moveRow_debit_after now wallet wallet.balance debit nonneg cents, value]
    · rw [if_neg same, if_neg same, sub_zero]
  · have covered := allowed.covered debit
    rwa [abs_of_nonneg nonneg, value, ← balance_eq allowed.found_key,
      key] at covered

/-- The row and the job of a payout leave what is charged as it is. -/
theorem queue_charges (now : Time) (accountId : AccountId) (total : Money)
    (payout : Payout) :
    Program.Holds (Charged accountId total world)
      (do
        let payout ← Program.perform (payouts.create "payout.create" payout)
        let _ ← enqueue "payout.enqueue" now (.payoutProcess payout.reference)
        pure payout : Db Payout)
      (fun created after => Charged accountId total world after ∧
        created = payout) (Charged accountId total world) := by
  have creates : (Program.perform (payouts.create "payout.create" payout)).Holds
      (Charged accountId total world)
      (fun created after => Charged accountId total world after ∧
        created = payout)
      (Charged accountId total world) := by
    apply Program.Holds.perform
    · rintro answer _ ⟨before, charged, answers, rfl⟩
      exact ⟨charged.congr ⟨rfl, rfl⟩, (Relation.create_ok answers).2⟩
    · exact fun _ charged => charged
  apply creates.bind
  intro created
  apply Program.Holds.given
  rintro rfl
  have keeps (before : World) (jobs : List Job)
    (charged : Charged accountId total world before) :
      Charged accountId total world { before with jobs } :=
    charged.congr ⟨rfl, rfl⟩
  apply (enqueue_holds "payout.enqueue" now _ keeps).bind
  intro _
  apply Program.Holds.returned
  exact fun _ charged => ⟨charged, rfl⟩

/-- The total is debited at once or not at all, and a payout that is returned
has the amount and the fee that make it up. -/
theorem createPayout_charges (now : Time) (random : List Char)
    (accountId : AccountId) (channel : PayoutChannel) (dto : PayoutDto) :
    (createPayout now random accountId channel dto).Holds (· = world)
      (fun payout after =>
        let fee := (world.configOf accountId).fee .disbursement dto.amount.val
        Charged accountId (totalOf dto fee) world after ∧
          ∃ reference,
            payout = newPayout now accountId channel dto reference fee)
      (fun after => Uncharged world after ∨ Charged accountId
        (totalOf dto
          ((world.configOf accountId).fee .disbursement dto.amount.val)) world
          after) := by
  have prepares := @preparePayout_fee world now random accountId channel dto
  apply (prepares.mono (fun _ same => same) (fun _ _ prepared => prepared)
    fun _ prepared => .inl prepared.uncharged).bind
  intro hold
  apply Program.Holds.each
  rintro prepared ⟨sound, ⟨account, found⟩, reference, rfl⟩
  let fee := (world.configOf accountId).fee .disbursement dto.amount.val
  have moves :=
    move_holds now (holdOf now accountId channel dto reference fee).debit
    prepared
  apply (moves.mono (fun _ same => same) (fun _ _ moved => moved)
    fun _ same => same ▸ .inl sound.uncharged).bind
  intro row
  apply Program.Holds.each
  rintro recorded ⟨wallet, amount, allowed, rfl, rfl⟩
  have there : prepared.accounts.find? accountId = some account := by
    obtain ⟨feeConfigs, rfl⟩ := sound
    exact found
  have charged := (charged_record now there allowed).since sound.uncharged
  apply (queue_charges now accountId (totalOf dto fee)
    (newPayout now accountId channel dto reference fee)).mono
  · rintro _ rfl
    exact charged
  · rintro _ after ⟨charged, rfl⟩
    exact ⟨charged, reference, rfl⟩
  · exact fun _ charged => .inr charged

/-- A preview leaves no trace but a default fee schedule.  As long as the fees
of the account are as they were, and whatever fails, a payout of the amount that
was shown takes the total that was shown from a balance that covers it, or takes
nothing. -/
theorem preview_honest {before later : World} {accountId : AccountId}
    {dto : MnoPayoutPreview} {result : Option (ProviderResult Json)}
    {preview : PayoutPreview} {faults : Site → Option (Fault AppError)}
    (shown :
      ((previewMobileMoneyPayout accountId dto result).exec faults before).1 =
      .returned preview)
    (unchanged : later.configOf accountId = before.configOf accountId)
    (now : Time) (random : List Char) {payout : PayoutDto}
    (same : payout.amount = dto.amount)
    (failing : Site → Option (Fault AppError)) :
    let ended :=
      (createPayout now random accountId .mobileMoney payout).exec failing later
    Prepared before ((previewMobileMoneyPayout accountId dto result).exec
      faults before).2 ∧
      (Uncharged later ended.2 ∨
        Charged accountId preview.totalDebit later ended.2) ∧
      ∀ created, ended.1 = .returned created →
        Charged accountId preview.totalDebit later ended.2 ∧
          created.amount = preview.amount ∧
            preview.beneficiaryReceives = preview.amount ∧
          created.feeAmount = some preview.fee.feeAmount ∧
          created.feeBps = some preview.fee.feeBps ∧
          (payout.phoneNumber = some dto.phoneNumber →
            created.phoneNumber = some preview.phoneNumber) := by
  intro ended
  have shows_ := @preview_holds before accountId dto result faults before rfl
  have charges := @createPayout_charges later now random accountId .mobileMoney
    payout failing later rfl
  generalize (previewMobileMoneyPayout accountId dto result).exec
    faults before = ran at shows_ shown ⊢
  obtain ⟨outcome, left⟩ := ran
  obtain rfl : outcome = .returned preview := shown
  obtain ⟨sound, phoneNumber, normal, rfl⟩ := shows_
  have total :
    totalOf payout
    ((before.configOf accountId).fee .disbursement dto.amount.val) =
      (previewOf dto phoneNumber result
        ((before.configOf accountId).fee .disbursement
          dto.amount.val)).totalDebit := by
    rw [totalOf, same]
    rfl
  rw [unchanged, same] at charges
  rw [← total]
  change Ends _ _ ended at charges
  refine ⟨sound, ?_, fun created returned => ?_⟩
  · generalize ended = ended at charges ⊢
    rcases ended with ⟨created | error | _, after⟩
    · exact .inr charges.1
    · exact charges
    · exact charges
  · generalize ended = ended at charges returned ⊢
    obtain ⟨outcome, after⟩ := ended
    obtain rfl : outcome = .returned created := returned
    obtain ⟨charged, reference, rfl⟩ := charges
    have shownAmount : Money.round dto.amount.val = (dto.amount.val : Money) :=
      Subtype.ext (Money.coe_round_of_hasPlaces dto.amount.val.property)
    refine ⟨charged, ?_, rfl, rfl, rfl, fun asked => ?_⟩
    · change (payout.amount.val : Money) = Money.round dto.amount.val
      rw [same, shownAmount]
    · change payoutPhone payout.phoneNumber = some phoneNumber
      rw [asked, payoutPhone, Option.getD_some, normal]
      rfl

/-- Five thousand to a number of Tigo. -/
def tigoPreview : MnoPayoutPreview where
  amount := Amount.shillings 5000
  phoneNumber := "0712345678"

/-- The payout of what was shown. -/
def tigoDto : PayoutDto where
  amount := tigoPreview.amount
  phoneNumber := some tigoPreview.phoneNumber

def tigoPayout : Outcome AppError Payout × World :=
  (createPayout 2 "00000000000000A".toList "a" .mobileMoney tigoDto).exec
    (fun _ => none) paidOnceWorld

theorem preview_honest_tigo :
    ∃ (preview : PayoutPreview) (created : Payout), preview.operator = .tigo ∧
      tigoPayout.1 = .returned created ∧
        created.phoneNumber = some preview.phoneNumber ∧
      Charged "a" preview.totalDebit paidOnceWorld tigoPayout.2 := by
  have shown :
    ((previewMobileMoneyPayout "a" tigoPreview none).exec (fun _ => none)
      paidOnceWorld).1 = .returned (previewOf tigoPreview "255712345678" none
        ((paidOnceWorld.configOf "a").fee .disbursement
          tigoPreview.amount.val)) := by
    have normal : normalizePhoneNumber tigoPreview.phoneNumber =
      some "255712345678" := by
      decide +kernel
    have positive : ¬ (tigoPreview.amount.val : Decimal) ≤ 0 := by
      decide +kernel
    unfold previewMobileMoneyPayout
    simp only [normal, if_neg positive, Program.exec_noFaults, Program.run_bind,
      run_computeFee]
    rfl
  have returned : tigoPayout.1 = .returned (newPayout 2 "a" .mobileMoney tigoDto
      "AAAAA00000000000000A"
      ((paidOnceWorld.configOf "a").fee .disbursement 5000)) := by
    decide +kernel
  obtain ⟨charged, _, _, _, _, sameNumber⟩ := (preview_honest shown rfl 2
    "00000000000000A".toList rfl fun _ => none).2.2 _ returned
  exact ⟨_, _, by decide +kernel, returned, sameNumber rfl, charged⟩

end CloudStudio.Payouts
