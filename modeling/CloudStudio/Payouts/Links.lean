import CloudStudio.Payments.Threads
import CloudStudio.Payouts.Laws

/-!
# A payout link pays once

Any number of confirmations of one link run at once.  A confirmation gets past
the redemption by committing it, and only while it holds the row of a link that
nobody has redeemed; the payout comes after that, and whatever becomes of it the
link stays redeemed.
-/

namespace CloudStudio.Payouts

open Function
open CloudStudio.Data CloudStudio.Transactions CloudStudio.Platform
open CloudStudio.Payments
open CloudStudio.Wallets

/-- One confirmation of a link: by whom, and when its steps read the clock. -/
structure Confirmation where
  times : ConfirmTimes
  random : List Char
  details : PayoutLinkDetails
  beneficiaryName : Option String

def Confirmation.program (tokenHash : String) (call : Confirmation) :
    Db Payout :=
  confirmPayoutLink call.times call.random tokenHash call.details
    call.beneficiaryName

/-- How far a confirmation has come: it has not got past the redemption, it
holds the row of a link that it may redeem, or it has redeemed it and created
these payouts. -/
inductive LinkStage where
  | waiting
  | holding
  | redeemed (created : List Payout)

/-- The redemption is committed. -/
def LinkStage.Past : LinkStage → Prop
  | .redeemed _ => True
  | .waiting | .holding => False

theorem LinkStage.Past.redeemed {stage : LinkStage} (past : stage.Past) :
    ∃ created, stage = .redeemed created := by
  cases stage with
  | waiting => exact past.elim
  | holding => exact past.elim
  | redeemed created => exact ⟨created, rfl⟩

/-- What an undone transaction leaves. -/
def LinkStage.undone : LinkStage → LinkStage
  | .redeemed created => .redeemed created
  | .waiting | .holding => .waiting

/-- The link that a call whose clock read `locked` may redeem. -/
structure Redeemable (start : World) (tokenHash : String) (locked : Time)
    (link : PayoutLink) : Prop where
  found : start.payoutLinks.find? tokenHash = some link
  unredeemed : link.redeemedAt = none
  unexpired : locked < link.expiresAt

/-- The payouts that a redemption of the link creates: at most one, of its
amount. -/
structure PaidFrom (link : PayoutLink) (created : List Payout) : Prop where
  once : created.length ≤ 1
  amount : ∀ payout ∈ created, payout.amount = link.amount.val
  account : ∀ payout ∈ created, payout.accountId = link.accountId

/-- The link is redeemed. -/
def LinkRedeemed (tokenHash : String) (world : World) : Prop :=
  ∃ link, world.payoutLinks.find? tokenHash = some link ∧ link.redeemedAt.isSome

variable {Id : Type} [DecidableEq Id]

/-- What holds between the calls and the state.  As long as nobody is past the
redemption, link and payouts are as they were. -/
structure LinkKept (tokenHash : String) (start : World) (locked : Id → Time)
    (world : World) (owner : RowKey → Option Id) (held : Id → LinkStage) :
    Prop where
  single : ∀ id other, (held id).Past → (held other).Past → id = other
  holder : ∀ id, held id = .holding → owner (.payoutLink tokenHash) = some id
  redeemable : ∀ id, held id = .holding →
    (∀ other, ¬ (held other).Past) ∧ ∃ link,
      Redeemable start tokenHash (locked id) link
  untouched : (∀ id, ¬ (held id).Past) →
    world.payoutLinks.find? tokenHash = start.payoutLinks.find? tokenHash ∧
      world.payouts.rows = start.payouts.rows
  winner : ∀ id created, held id = .redeemed created →
    LinkRedeemed tokenHash world ∧
      world.payouts.rows = start.payouts.rows ++ created ∧
      ∃ link, Redeemable start tokenHash (locked id) link ∧
        PaidFrom link created

section

variable {tokenHash : String} {start world after : World} {locked : Id → Time}
variable {owner owner' : RowKey → Option Id} {held : Id → LinkStage} {id : Id}

omit [DecidableEq Id] in
/-- The rules look at links, payouts and the locks of the holders. -/
theorem LinkKept.congr (kept : LinkKept tokenHash start locked world owner held)
    (links : after.payoutLinks = world.payoutLinks)
    (payouts : after.payouts = world.payouts)
    (locks : ∀ other, held other = .holding →
      owner' (.payoutLink tokenHash) = some other) :
    LinkKept tokenHash start locked after owner' held := by
  constructor
  · exact kept.single
  · exact locks
  · exact kept.redeemable
  · rw [links, payouts]
    exact kept.untouched
  · unfold LinkRedeemed
    rw [links, payouts]
    exact kept.winner

/-- A call that is not past the redemption lets go of the row. -/
theorem LinkKept.letGo (kept : LinkKept tokenHash start locked world owner held)
    (before : ¬ (held id).Past)
    (locks : ∀ other, other ≠ id → held other = .holding →
      owner' (.payoutLink tokenHash) = some other) :
    LinkKept tokenHash start locked world owner' (update held id .waiting) := by
  have past (other : Id) : (update held id .waiting other).Past ↔
    (held other).Past := by
    by_cases same : other = id
    · subst same
      rw [update_self]
      exact iff_of_false not_false before
    · rw [update_of_ne same]
  have stays {other : Id} {stage : LinkStage}
      (holds : update held id .waiting other = stage)
        (differ : stage ≠ .waiting) : other ≠ id ∧ held other = stage := by
    by_cases same : other = id
    · subst same
      rw [update_self] at holds
      exact (differ holds.symm).elim
    · rw [update_of_ne same] at holds
      exact ⟨same, holds⟩
  constructor
  · simp only [past]
    exact kept.single
  · intro other holds
    obtain ⟨differ, holding⟩ := stays holds fun same => by cases same
    exact locks other differ holding
  · intro other holds
    simp only [past]
    exact kept.redeemable other (stays holds (fun same => by cases same)).2
  · simp only [past]
    exact kept.untouched
  · intro other created holds
    exact kept.winner other created (stays holds (fun same => by cases same)).2

end

/-- The rules of the confirmations. -/
def linkOnce (tokenHash : String) (start : World) (locked : Id → Time) :
    Protocol Id World RowKey Expectation LinkStage where
  assumed := []
  invariant := LinkKept tokenHash start locked
  guarantee := fun _ before after => LinkRedeemed tokenHash before →
    LinkRedeemed tokenHash after
  abandon := LinkStage.undone
  committed := LinkStage.Past
  guarantee_refl := fun _ _ redeemed => redeemed
  invariant_abandon := by
    intro world owner held id kept
    have locks (other : Id) (differ : other ≠ id)
      (holding : held other = .holding) :
        release owner id (.payoutLink tokenHash) = some other :=
      release_of_ne (kept.holder other holding) differ
    cases own : held id with
    | waiting => exact kept.letGo (by rw [own]; exact not_false) locks
    | holding => exact kept.letGo (by rw [own]; exact not_false) locks
    | redeemed created =>
        change LinkKept tokenHash start locked world _
          (update held id (.redeemed created))
        rw [← own, update_eq_self]
        apply kept.congr rfl rfl
        intro other holding
        apply locks other ?_ holding
        intro same
        rw [same, own] at holding
        cases holding

section

variable {tokenHash : String} {start world : World} {locked : Id → Time}
variable {owner : RowKey → Option Id} {held : Id → LinkStage} {id : Id}

/-- A change that touches neither links nor payouts. -/
theorem linkOnce_ignores {change : World → World}
    (links : ∀ world, (change world).payoutLinks = world.payoutLinks)
    (payouts : ∀ world, (change world).payouts = world.payouts) :
    Ignores (linkOnce tokenHash start locked) change := by
  intro world owner held kept
  constructor
  · exact kept.congr (links world) (payouts world) kept.holder
  · intro id redeemed
    unfold LinkRedeemed
    rw [links]
    exact redeemed

omit [DecidableEq Id] in
/-- Nobody is past the redemption of a link that is not redeemed. -/
theorem LinkKept.nobody
    (kept : LinkKept tokenHash start locked world owner held)
    {link : PayoutLink} (found : world.payoutLinks.find? tokenHash = some link)
    (unredeemed : link.redeemedAt = none) (other : Id) :
    ¬ (held other).Past := by
  intro past
  obtain ⟨created, stage⟩ := past.redeemed
  obtain ⟨⟨row, at_token, redeemed⟩, _⟩ := kept.winner other created stage
  rw [found] at at_token
  cases at_token
  rw [unredeemed] at redeemed
  cases redeemed

/-- Who is past the redemption stays past it. -/
theorem LinkKept.lasting {after : World} {owner' : RowKey → Option Id}
    {stage : LinkStage}
    (kept : LinkKept tokenHash start locked world owner held)
    (kept' : LinkKept tokenHash start locked after owner'
      (update held id stage))
    (persists : LinkRedeemed tokenHash world → LinkRedeemed tokenHash after)
    (past : (held id).Past) : stage.Past := by
  by_contra lost
  have nobody (other : Id) : ¬ (update held id stage other).Past := by
    by_cases same : other = id
    · subst same
      rwa [update_self]
    · rw [update_of_ne same]
      exact fun otherPast => same (kept.single other id otherPast past)
  obtain ⟨created, own⟩ := past.redeemed
  obtain ⟨redeemed, _, link, redeemable, _⟩ := kept.winner id created own
  obtain ⟨row, found, isRedeemed⟩ := persists redeemed
  have same :=
    found.symm.trans ((kept'.untouched nobody).1.trans redeemable.found)
  rw [Option.some.inj same, redeemable.unredeemed] at isRedeemed
  cases isRedeemed

/-- A call takes the row of a link that it may redeem. -/
theorem LinkKept.hold (kept : LinkKept tokenHash start locked world owner held)
    (free : Free owner id [.payoutLink tokenHash]) {link : PayoutLink}
    (found : world.payoutLinks.find? tokenHash = some link)
    (unredeemed : link.redeemedAt = none)
    (unexpired : locked id < link.expiresAt) :
    LinkKept tokenHash start locked world
      (acquire owner id [.payoutLink tokenHash]) (update held id .holding) := by
  have nobody := kept.nobody found unredeemed
  have past (other : Id) : ¬ (update held id .holding other).Past := by
    by_cases same : other = id
    · subst same
      rw [update_self]
      exact not_false
    · rw [update_of_ne same]
      exact nobody other
  have own : acquire owner id [.payoutLink tokenHash] (.payoutLink tokenHash) =
    some id :=
    acquire_of_mem List.mem_cons_self
  have alone (other : Id) (holding : held other = .holding) : other = id := by
    have owned := kept.holder other holding
    rcases free (.payoutLink tokenHash) List.mem_cons_self with unowned | owns
    · rw [owned] at unowned
      cases unowned
    · rw [owned] at owns
      exact Option.some.inj owns
  have only (other : Id) (holding : update held id .holding other = .holding) :
      other = id := by
    by_cases same : other = id
    · exact same
    · rw [update_of_ne same] at holding
      exact alone other holding
  have untouched := kept.untouched nobody
  constructor
  · intro first second isPast
    exact (past first isPast).elim
  · intro other holding
    rw [only other holding]
    exact own
  · intro other holding
    rw [only other holding]
    exact ⟨past, link, untouched.1 ▸ found, unredeemed, unexpired⟩
  · exact fun _ => untouched
  · intro other created stage
    apply (past other ?_).elim
    rw [stage]
    trivial

/-- The holder of the row redeems the link. -/
theorem LinkKept.redeem
    (kept : LinkKept tokenHash start locked world owner held)
    (own : held id = .holding) {now : Time} {resolved : ResolvedRecipient}
    {after : World}
    (links : after.payoutLinks = world.payoutLinks.modify tokenHash
      (redeemed now resolved)
      (redeemed_tokenHash now resolved))
    (payouts : after.payouts = world.payouts) :
    LinkKept tokenHash start locked after (release owner id)
      (update held id (.redeemed [])) := by
  obtain ⟨nobody, link, redeemable⟩ := kept.redeemable id own
  obtain ⟨sameLink, samePayouts⟩ := kept.untouched nobody
  have owned := kept.holder id own
  have unheld (other : Id) : update held id (.redeemed []) other ≠
    .holding := by
    intro holding
    by_cases same : other = id
    · subst same
      rw [update_self] at holding
      cases holding
    · rw [update_of_ne same] at holding
      have both := owned.symm.trans (kept.holder other holding)
      exact same (Option.some.inj both).symm
  have past (other : Id) (isPast : (update held id (.redeemed []) other).Past) :
      other = id := by
    by_contra differ
    rw [update_of_ne differ] at isPast
    exact nobody other isPast
  constructor
  · intro first second firstPast secondPast
    rw [past first firstPast, past second secondPast]
  · exact fun other holding => (unheld other holding).elim
  · exact fun other holding => (unheld other holding).elim
  · intro none_
    apply (none_ id ?_).elim
    rw [update_self]
    trivial
  · intro other created stage
    have isWinner : other = id := by
      apply past other
      rw [stage]
      trivial
    subst isWinner
    rw [update_self] at stage
    cases stage
    refine ⟨⟨redeemed now resolved link, ?_, rfl⟩, ?_, link, redeemable, ?_⟩
    · rw [links, Table.find?_modify_self, sameLink, redeemable.found,
        Option.map_some]
    · rw [payouts, samePayouts, List.append_nil]
    · exact ⟨Nat.zero_le 1, (fun _ member => by cases member),
        fun _ member => by cases member⟩

/-- The payout of the call that redeemed the link. -/
theorem LinkKept.create
    (kept : LinkKept tokenHash start locked world owner held)
    (own : held id = .redeemed []) {payout : Payout}
    (fresh : world.payouts.find? payout.reference = none)
    (fits : ∀ link, Redeemable start tokenHash (locked id) link →
      payout.amount = link.amount.val ∧ payout.accountId = link.accountId) :
    LinkKept tokenHash start locked
      { world with payouts := world.payouts.insert payout } owner
      (update held id (.redeemed [payout])) := by
  have past (other : Id) :
      (update held id (.redeemed [payout]) other).Past ↔ (held other).Past := by
    by_cases same : other = id
    · subst same
      rw [update_self, own]
      exact iff_of_true trivial trivial
    · rw [update_of_ne same]
  have holding (other : Id) (holds : update held id (.redeemed [payout]) other =
    .holding) : held other = .holding := by
    by_cases same : other = id
    · subst same
      rw [update_self] at holds
      cases holds
    · rwa [update_of_ne same] at holds
  have ownPast : (held id).Past := by
    rw [own]
    trivial
  constructor
  · simp only [past]
    exact kept.single
  · exact fun other holds => kept.holder other (holding other holds)
  · simp only [past]
    exact fun other holds => kept.redeemable other (holding other holds)
  · simp only [past]
    exact fun none_ => (none_ id ownPast).elim
  · intro other created stage
    have isWinner : other = id := by
      apply kept.single other id ?_ ownPast
      rw [← past, stage]
      trivial
    subst isWinner
    rw [update_self] at stage
    cases stage
    obtain ⟨redeemed, rows, link, redeemable, _⟩ := kept.winner other [] own
    obtain ⟨amount, account⟩ := fits link redeemable
    refine ⟨redeemed, ?_, link, redeemable, ?_⟩
    · change (world.payouts.insert payout).rows = _
      rw [Table.rows_insert fresh, rows, List.append_nil]
    · constructor
      · exact le_refl 1
      · intro row member
        rw [List.mem_singleton.mp member]
        exact amount
      · intro row member
        rw [List.mem_singleton.mp member]
        exact account

omit [DecidableEq Id] in
/-- The payout's id is noted on a link that stays redeemed. -/
theorem LinkKept.note (kept : LinkKept tokenHash start locked world owner held)
    (own : (held id).Past) (now : Time) (payoutId : Reference) :
    LinkKept tokenHash start locked
      { world with
        payoutLinks :=
          world.payoutLinks.modify tokenHash (paidLink now payoutId)
          (paidLink_tokenHash now payoutId) } owner held := by
  constructor
  · exact kept.single
  · exact kept.holder
  · exact kept.redeemable
  · exact fun none_ => (none_ id own).elim
  · intro other created stage
    obtain ⟨⟨row, found, redeemed⟩, rest⟩ := kept.winner other created stage
    refine ⟨⟨paidLink now payoutId row, ?_, redeemed⟩, rest⟩
    apply (Table.find?_modify_self _ _ _
      (paidLink_tokenHash now payoutId)).trans
    rw [found, Option.map_some]

end

section

variable {Ghost : Type} {protocol : Protocol Id World RowKey Expectation Ghost}
  {id : Id}
variable {thrown : AppError → Ghost → Prop} {ghost : Ghost}

theorem findAccount_safe (accountId : AccountId)
    (safeThrown : ∀ error, thrown error ghost) :
    (findAccount accountId).Safe protocol id (fun _ left => left = ghost)
      thrown ghost := by
  apply Program.Safe.read (fun _ _ => rfl) ?_ safeThrown
  intro world owner held kept own account answered
  cases account with
  | none => exact safeThrown _
  | some account => exact rfl

theorem rejectRepeated_safe (site : Site) (repeated : String → World → Bool)
    (message : String) (clientReference : Option String)
    (safeThrown : ∀ error, thrown error ghost) :
    (rejectRepeated site repeated message clientReference).Safe protocol id
      (fun _ left => left = ghost) thrown ghost := by
  unfold rejectRepeated
  split
  · exact rfl
  · apply Program.Safe.read (fun _ _ => rfl) ?_ safeThrown
    intro world owner held kept own dupe answered
    apply when_safe
    · exact fun _ => safeThrown _
    · exact fun _ => rfl

/-- The checks of a payout keep the ghost and come to a row of the asked
amount. -/
theorem preparePayout_safe (now : Time) (random : List Char)
    (accountId : AccountId) (channel : PayoutChannel) (dto : PayoutDto)
    (ignores : ∀ config, Ignores protocol fun world =>
      { world with feeConfigs := world.feeConfigs.insert config })
    (safeThrown : ∀ error, thrown error ghost) :
    (preparePayout now random accountId channel dto).Safe protocol id
      (fun hold left => (hold.payout.amount = dto.amount.val ∧
        hold.payout.accountId = accountId) ∧ left = ghost) thrown ghost := by
  apply (findAccount_safe accountId safeThrown).andThen
  intro account left same
  subst same
  split
  · exact safeThrown _
  · apply (rejectRepeated_safe _ _ _ _ safeThrown).andThen
    intro _ left same
    subst same
    apply (computeFee_safe .disbursement accountId _ ignores safeThrown).andThen
    intro fee left same
    exact ⟨⟨rfl, rfl⟩, same⟩

end

section

variable {tokenHash : String} {start : World} {locked : Id → Time} {id : Id}

/-- Ended in whatever way. -/
def Whatever {Answer : Type} (_ : Answer) (_ : LinkStage) : Prop := True

theorem walletBlind_linkOnce :
    WalletBlind (linkOnce tokenHash start locked) id := by
  intro world owner held keys onWallets kept
  apply kept.congr rfl rfl
  intro other holding
  unfold acquire
  rw [if_neg]
  · exact kept.holder other holding
  · intro member
    obtain ⟨wallet, same⟩ := onWallets _ member
    cases same

/-- The payout of the call that has redeemed the link. -/
theorem createPayout_safe (now : Time) (random : List Char)
    {accountId : AccountId} {dto : PayoutDto}
    (fits : ∀ link, Redeemable start tokenHash (locked id) link →
      dto.amount.val = link.amount.val ∧ accountId = link.accountId) :
    (createPayout now random accountId .mobileMoney dto).Safe
      (linkOnce tokenHash start locked) id (fun _ left => left.Past) Whatever
      (.redeemed []) := by
  apply (preparePayout_safe now random accountId .mobileMoney dto
    (fun _ => linkOnce_ignores (fun _ => rfl) fun _ => rfl)
      fun _ => trivial).andThen
  intro hold left prepared
  obtain ⟨⟨amount, account⟩, same⟩ := prepared
  subst same
  unfold holdAndQueue
  have moved : (move now hold.debit).Safe (linkOnce tokenHash start locked) id
      (fun _ left => left = .redeemed []) Whatever (.redeemed []) := by
    apply posting_safe walletBlind_linkOnce (fun _ => trivial) rfl
    intro before after owner held kept own posted
    obtain ⟨wallets, row, rfl, _, _⟩ := posted
    refine ⟨.redeemed [], ?_, fun redeemed => redeemed, trivial, rfl⟩
    rw [← own, update_eq_self]
    exact kept.congr rfl rfl kept.holder
  apply moved.andThen
  intro _ left same
  subst same
  simp only [Program.bind_perform, enqueue]
  refine ⟨?_, fun _ => trivial⟩
  intro world owner held kept own free _ payout answered
  obtain ⟨fresh, rfl⟩ := Relation.create_ok answered
  refine ⟨.redeemed [hold.payout], ?_, fun redeemed => redeemed, ?_⟩
  · apply kept.create own fresh
    intro link redeemable
    rw [amount, account]
    exact fits link redeemable
  · apply ignored_safe (linkOnce_ignores (fun _ => rfl) fun _ => rfl)
    · exact fun _ _ _ => trivial
    · exact fun _ => trivial

theorem resolveRecipient_safe (now : Time) (dto : PayoutLinkDetails)
    (beneficiaryName : Option String) :
    (resolvePayoutLinkRecipient now tokenHash dto beneficiaryName).Safe
      (linkOnce tokenHash start locked) id (fun _ left => left = .waiting)
        Whatever .waiting := by
  have active : (findActivePayoutLink now tokenHash).Safe
    (linkOnce tokenHash start locked) id
      (fun _ left => left = .waiting) Whatever .waiting := by
    simp only [findActivePayoutLink, Program.bind_perform]
    refine Program.Safe.read (fun _ _ => rfl) ?_ fun _ => trivial
    intro world owner held kept own link answered
    cases link with
    | none => exact trivial
    | some link =>
        dsimp only
        split
        · exact rfl
        · exact trivial
  apply active.andThen
  intro _ left same
  subst same
  split
  · exact trivial
  · exact rfl

/-- The rest of a confirmation that has redeemed the link. -/
def afterRedemption (times : ConfirmTimes) (random : List Char)
    (tokenHash : String) (resolved : ResolvedRecipient) (link : PayoutLink) :
    Db Payout :=
  do
  let payout ← createPayout times.created random link.accountId .mobileMoney
    (linkPayout link resolved)
  let _ ← Program.perform (markPaid times.created tokenHash payout.reference)
  pure payout

theorem afterRedemption_safe (times : ConfirmTimes) (random : List Char)
    (resolved : ResolvedRecipient) {link : PayoutLink}
    (fits : ∀ other, Redeemable start tokenHash (locked id) other →
      link.amount = other.amount ∧ link.accountId = other.accountId) :
    (afterRedemption times random tokenHash resolved link).Safe
      (linkOnce tokenHash start locked) id Whatever Whatever
        (.redeemed []) := by
  have asked (other : PayoutLink)
    (redeemable : Redeemable start tokenHash (locked id) other) :
      (linkPayout link resolved).amount.val = other.amount.val ∧
        link.accountId = other.accountId := by
    obtain ⟨amount, account⟩ := fits other redeemable
    exact ⟨congrArg Subtype.val amount, account⟩
  apply (createPayout_safe times.created random asked).andThen
  intro payout left past
  refine ⟨?_, fun _ => trivial⟩
  intro world owner held kept own _ _ noted answered
  subst own
  refine ⟨held id, ?_, ?_, trivial⟩
  · rw [update_eq_self]
    exact kept.note past times.created payout.reference
  · intro redeemed
    obtain ⟨row, found, isRedeemed⟩ := redeemed
    refine ⟨paidLink times.created payout.reference row, ?_, isRedeemed⟩
    apply (Table.find?_modify_self _ _ _ (paidLink_tokenHash _ _)).trans
    exact congrArg _ found

/-- The redemption: a call that commits it holds the row of a link nobody has
redeemed. -/
theorem redeemLink_safe {now : Time} (at_lock : locked id = now)
    (resolved : ResolvedRecipient) {next : PayoutLink → Db Payout}
    (continues : ∀ link,
      (∀ other, Redeemable start tokenHash (locked id) other →
        link.amount = other.amount ∧ link.accountId = other.accountId) →
      (next link).Safe (linkOnce tokenHash start locked) id Whatever Whatever
        (.redeemed [])) :
    (Program.transaction "payoutLink.commit" (redeemLink now tokenHash resolved)
      next
      .threw).Safe (linkOnce tokenHash start locked) id Whatever
        Whatever .waiting := by
  refine ⟨?_, fun _ => trivial⟩
  simp only [redeemLink, Body.bind_perform]
  refine ⟨?_, fun _ => trivial⟩
  intro world owner held kept own free _ row answered
  have refused : LinkKept tokenHash start locked world
      (acquire owner id ((lockLink tokenHash).locks world))
        (update held id .waiting) := by
    apply kept.letGo
    · rw [own]
      exact not_false
    · exact fun other differ holding =>
        acquire_of_ne free (kept.holder other holding) differ
  have read : world.payoutLinks.find? tokenHash = row := Except.ok.inj answered
  cases row with
  | none => exact ⟨.waiting, refused, trivial⟩
  | some row =>
      dsimp only
      split
      · exact ⟨.waiting, refused, trivial⟩
      split
      · exact ⟨.waiting, refused, trivial⟩
      rename_i unredeemed unexpired
      have locks : (lockLink tokenHash).locks world =
        [.payoutLink tokenHash] := by
        simp only [lockLink, read]
      rw [locks] at free ⊢
      refine ⟨.holding, kept.hold free read (by simpa using unredeemed) ?_, ?_,
        fun _ => trivial⟩
      · rw [at_lock]
        exact not_le.mp unexpired
      intro world owner held kept own free _ link answered
      refine ⟨.holding, ?_, ?_, fun _ => trivial⟩
      · rw [← own, update_eq_self]
        apply kept.congr rfl rfl
        intro other holding
        by_cases same : other = id
        · subst same
          exact acquire_of_own (kept.holder other holding)
        · exact acquire_of_ne free (kept.holder other holding) same
      obtain ⟨row, found, rfl⟩ := Relation.update_ok answered
      have fits (other : PayoutLink)
          (redeemable : Redeemable start tokenHash (locked id) other) :
          (redeemed now resolved row).amount = other.amount ∧
            (redeemed now resolved row).accountId = other.accountId := by
        have same := (kept.untouched (kept.redeemable id own).1).1
        have equal : some row = some other :=
          found.symm.trans (same.trans redeemable.found)
        cases equal
        exact ⟨rfl, rfl⟩
      intro world owner held kept own
      refine ⟨.redeemed [], kept.redeem own rfl rfl, ?_, trivial,
        continues _ fits⟩
      intro redeemed
      obtain ⟨row, found, isRedeemed⟩ := redeemed
      refine ⟨Payouts.redeemed now resolved row, ?_, rfl⟩
      apply (Table.find?_modify_self _ _ _ (redeemed_tokenHash _ _)).trans
      exact congrArg _ found

/-- A confirmation keeps the rules. -/
theorem confirmation_safe {call : Confirmation}
    (at_lock : locked id = call.times.locked) :
    (call.program tokenHash).Safe (linkOnce tokenHash start locked) id
      Whatever Whatever .waiting := by
  apply (resolveRecipient_safe call.times.checked call.details
    call.beneficiaryName).andThen
  intro resolved left same
  subst same
  apply redeemLink_safe at_lock resolved
  intro link fits
  exact afterRedemption_safe call.times call.random resolved fits

end

/-- No statement that stands alone redeems the link. -/
theorem confirmation_lawful (tokenHash : String) (call : Confirmation) :
    (call.program tokenHash).Lawful []
      (fun before after => ¬ LinkRedeemed tokenHash before →
        ¬ LinkRedeemed tokenHash after) (fun _ _ => True) Anything := by
  apply confirmPayoutLink_lawful
  · exact fun _ _ _ _ _ unredeemed => unredeemed
  · exact fun _ _ _ _ _ => trivial
  · exact fun _ _ _ => trivial
  · exact fun _ _ _ _ unredeemed => unredeemed
  · intro world now payoutId unredeemed redeemed
    obtain ⟨link, found, isRedeemed⟩ := redeemed
    have before :=
      (Table.find?_modify_self _ _ _
      (paidLink_tokenHash now payoutId)).symm.trans found
    obtain ⟨row, at_token, same⟩ := Option.map_eq_some_iff.mp before
    subst same
    exact unredeemed ⟨row, at_token, isRedeemed⟩

/-! ## Every run -/

/-- The confirmations of a link, none of which has run a statement yet. -/
def confirming (world : World) (tokenHash : String)
    (calls : Id → Confirmation) :
    Config Id World RowKey Expectation Site AppError Payout :=
  Config.start world fun id => (calls id).program tokenHash

section

variable (world : World) (tokenHash : String) (calls : Id → Confirmation)
variable (schedule : List (Event Id AppError))

theorem confirming_sound :
    Config.SoundWith (linkOnce tokenHash world fun id =>
      (calls id).times.locked)
      (fun _ => Whatever) (fun _ => Whatever) (fun _ => .waiting)
      (confirming world tokenHash calls) := by
  constructor
  · constructor
    · exact fun _ _ past => past.elim
    · exact fun _ holding => by cases holding
    · exact fun _ holding => by cases holding
    · exact fun _ => ⟨rfl, rfl⟩
    · exact fun _ _ stage => by cases stage
  · exact fun id => confirmation_safe rfl

variable {tokenHash} in
/-- A redeemed link stays redeemed. -/
theorem redeemed_later
    (redeemed :
      LinkRedeemed tokenHash
      ((confirming world tokenHash calls).run schedule).state)
    (later : List (Event Id AppError)) :
    LinkRedeemed tokenHash
      ((confirming world tokenHash calls).run (schedule ++ later)).state := by
  rw [Config.run_append]
  have reached :=
    Config.Sound.run ⟨_, confirming_sound world tokenHash calls⟩ schedule
    (Config.asExpected_nil _ schedule)
  exact reached.guaranteed (fun _ kept => kept) (fun first second kept =>
    second (first kept))
    (fun _ _ _ guaranteed => guaranteed) later (Config.asExpected_nil _ later)
      redeemed

/-- A link that nobody had redeemed at the start is redeemed by a commit. -/
theorem unredeemed_of_no_commit (unredeemed : ¬ LinkRedeemed tokenHash world)
    (none_commits : (confirming world tokenHash calls).committers schedule =
      []) :
    ¬ LinkRedeemed tokenHash
      ((confirming world tokenHash calls).run schedule).state := by
  have lawful : (confirming world tokenHash calls).Lawful []
      (fun before after => ¬ LinkRedeemed tokenHash before →
        ¬ LinkRedeemed tokenHash after)
      (fun _ _ => True) (fun _ => Anything) :=
    fun id => confirmation_lawful tokenHash (calls id)
  exact lawful.uncommitted_run (fun _ _ keeps => keeps) schedule
    (Config.asExpected_nil _ schedule) none_commits unredeemed

end

theorem Redeemable.not_redeemed {world : World} {tokenHash : String}
    {now : Time} {link : PayoutLink}
    (redeemable : Redeemable world tokenHash now link) :
    ¬ LinkRedeemed tokenHash world := by
  rintro ⟨row, found, isRedeemed⟩
  rw [Option.some.inj (found.symm.trans redeemable.found),
    redeemable.unredeemed] at isRedeemed
  cases isRedeemed

/-- A redeemed link is not available. -/
theorem LinkRedeemed.not_active {world : World} {tokenHash : String}
    (redeemed : LinkRedeemed tokenHash world) {link : PayoutLink}
    (found : world.payoutLinks.find? tokenHash = some link) (now : Time) :
    ¬ LinkActive now link := by
  intro active
  obtain ⟨row, at_token, isRedeemed⟩ := redeemed
  rw [Option.some.inj (at_token.symm.trans found), active.1] at isRedeemed
  cases isRedeemed

/-- However the confirmations of a link interleave, fail or stop: at most one
commits a transaction, which is to get past the redemption; at most one payout
is created, for the link's amount, by a call that locked the row before the link
expired; and a redeemed link is never available again. -/
theorem link_pays_once (world : World) (tokenHash : String)
    (calls : Id → Confirmation) (schedule : List (Event Id AppError)) :
    let confirmed := confirming world tokenHash calls
    (∀ first ∈ confirmed.committers schedule,
      ∀ second ∈ confirmed.committers schedule, first = second) ∧
    (∀ id ∈ confirmed.committers schedule,
      LinkRedeemed tokenHash (confirmed.run schedule).state ∧
        ∃ link, Redeemable world tokenHash (calls id).times.locked link) ∧
    (∃ created,
      (confirmed.run schedule).state.payouts.rows =
      world.payouts.rows ++ created ∧ created.length ≤ 1 ∧
      ∀ payout ∈ created, ∃ id ∈ confirmed.committers schedule, ∃ link,
        Redeemable world tokenHash (calls id).times.locked link ∧
          payout.amount = link.amount.val ∧ payout.accountId = link.accountId) ∧
    (LinkRedeemed tokenHash (confirmed.run schedule).state → ∀ later,
      LinkRedeemed tokenHash (confirmed.run (schedule ++ later)).state ∧
        ∀ now link, (confirmed.run (schedule ++ later)).state.payoutLinks.find?
          tokenHash = some link → ¬ LinkActive now link) := by
  intro confirmed
  obtain ⟨held, ended, _, committed⟩ :=
    (confirming_sound world tokenHash calls).committers
    (fun kept kept' persists past => LinkKept.lasting kept kept' persists past)
      schedule
    (Config.asExpected_nil confirmed schedule)
  have kept := ended.1
  refine ⟨?_, ?_, ?_, ?_⟩
  · intro first firstCommits second secondCommits
    exact kept.single first second (committed first firstCommits)
      (committed second secondCommits)
  · intro id commits
    obtain ⟨created, stage⟩ := (committed id commits).redeemed
    obtain ⟨redeemed, _, link, redeemable, _⟩ := kept.winner id created stage
    exact ⟨redeemed, link, redeemable⟩
  · by_cases nobody : ∀ id, ¬ (held id).Past
    · refine ⟨[], ?_, Nat.zero_le 1, fun _ member => by cases member⟩
      rw [List.append_nil]
      exact (kept.untouched nobody).2
    · obtain ⟨id, past⟩ := not_forall_not.mp nobody
      obtain ⟨created, stage⟩ := past.redeemed
      obtain ⟨redeemed, rows, link, redeemable, paid⟩ :=
        kept.winner id created stage
      have commits : id ∈ confirmed.committers schedule := by
        cases all : confirmed.committers schedule with
        | nil =>
            exact absurd redeemed
              (unredeemed_of_no_commit world tokenHash calls schedule
              redeemable.not_redeemed all)
        | cons first rest =>
            have member : first ∈ confirmed.committers schedule := by
              rw [all]
              exact List.mem_cons_self
            rw [kept.single id first past (committed first member)]
            exact List.mem_cons_self
      exact ⟨created, rows, paid.once, fun payout member =>
        ⟨id, commits, link, redeemable,
        paid.amount payout member, paid.account payout member⟩⟩
  · intro redeemed later
    have still := redeemed_later world calls schedule redeemed later
    exact ⟨still, fun now link found => still.not_active found now⟩

end CloudStudio.Payouts
