import Mathlib.Data.List.Nodup
import Mathlib.Data.Nat.Bitwise
import CloudStudio.Data.JsonOrder
import CloudStudio.Data.PrefixCode
import CloudStudio.Payments.Checksum

/-!
# The canonical form

`canonicalize` sorts the members it keeps, at every level.  As the keys of an
object are distinct, the result depends on the members alone and not on their
order.
-/

namespace CloudStudio.Payments

open CloudStudio.Data

/-- The code units of one character. -/
def codeUnits (char : Char) : List ℕ :=
  if char.toNat < 0x10000 then [char.toNat]
  else
    let offset := char.toNat - 0x10000
    [0xD800 + offset / 0x400, 0xDC00 + offset % 0x400]

theorem not_surrogate (char : Char) :
    char.toNat < 0xD800 ∨ 0xDFFF < char.toNat := by
  rcases char.valid with low | ⟨high, _⟩
  · exact .inl low
  · exact .inr high

theorem below_planes (char : Char) : char.toNat < 0x110000 := by
  rcases char.valid with low | ⟨_, high⟩
  · exact Nat.lt_trans low (by decide)
  · exact high

theorem codeUnits_prefixFree :
    PrefixCode.PrefixFree codeUnits fun _ => True := by
  intro char other _ _ begins
  have surrogates := not_surrogate char
  have surrogates' := not_surrogate other
  have planes := below_planes other
  apply Char.ext
  apply UInt32.toNat.inj
  change char.toNat = other.toNat
  unfold codeUnits at begins
  split at begins <;> split at begins <;>
    simp only [List.cons_prefix_cons, List.nil_prefix, List.prefix_nil,
      and_true] at begins
  all_goals grind

theorem codeUnits_opens (char : Char) :
    ∃ unit tail, codeUnits char = unit :: tail ∧ unit ≠ 0x10000 := by
  have planes := below_planes char
  unfold codeUnits
  split
  · exact ⟨_, _, rfl, by omega⟩
  · exact ⟨_, _, rfl, by omega⟩

theorem utf16_injective : Function.Injective utf16 := by
  intro text other same
  apply String.ext
  exact PrefixCode.flatMap_injective codeUnits_prefixFree
    (fun char _ => codeUnits_opens char)
    (fun _ _ => trivial) (fun _ _ => trivial) same

/-- The members in the order in which the rebuilt object lists them. -/
def sorted (members : List (String × Json)) : List (String × Json) :=
  ownOrder (members.insertionSort fun left right =>
    utf16 left.1 ≤ utf16 right.1)

theorem ownOrder_perm (members : List (String × Json)) :
    (ownOrder members).Perm members := by
  have split : (members.filter fun member => (arrayIndex? member.1).isSome) ++
      (members.filter fun member => (arrayIndex? member.1).isNone) |>.Perm
        members := by
    simpa using List.filter_append_perm
      (fun member : String × Json => (arrayIndex? member.1).isSome) members
  exact ((List.perm_insertionSort _ _).append_right _).trans split

theorem sorted_perm (members : List (String × Json)) :
    (sorted members).Perm members :=
  (ownOrder_perm _).trans (List.perm_insertionSort _ _)

/-- A sort that looks at the keys only moves the values along. -/
theorem insertionSort_byKey (below : String → String → Prop)
    [DecidableRel below] (value : Json → Json)
    (members : List (String × Json)) :
    (members.map fun member => (member.1, value member.2)).insertionSort
        (fun left right => below left.1 right.1) =
      (members.insertionSort fun left right => below left.1 right.1).map
        fun member => (member.1, value member.2) :=
  (List.map_insertionSort (fun left right : String × Json =>
    below left.1 right.1)
    (fun left right : String × Json => below left.1 right.1)
    (fun member => (member.1, value member.2)) members
      fun _ _ _ _ => Iff.rfl).symm

theorem sorted_map (value : Json → Json) (members : List (String × Json)) :
    sorted (members.map fun member => (member.1, value member.2)) =
      (sorted members).map fun member => (member.1, value member.2) := by
  have byUnits :=
    insertionSort_byKey (fun left right => utf16 left ≤ utf16 right) value
    members
  have byIndex := insertionSort_byKey
    (fun left right => (arrayIndex? left).getD 0 ≤ (arrayIndex? right).getD 0)
      value
  unfold sorted
  rw [byUnits]
  unfold ownOrder
  rw [List.filter_map, List.filter_map, List.map_append, ← byIndex]
  rfl

theorem sorted_eq_of_perm {members others : List (String × Json)}
    (distinct : (members.map Prod.fst).Nodup) (same : members.Perm others) :
    sorted members = sorted others := by
  let below : String × Json → String × Json → Prop := fun left right =>
    utf16 left.1 ≤ utf16 right.1
  have total : Std.Total below := ⟨fun left right => le_total _ _⟩
  have transitive : IsTrans _ below :=
    ⟨fun _ _ _ first second => le_trans first second⟩
  have units : members.insertionSort below = others.insertionSort below := by
    refine @List.Perm.eq_of_pairwise _ below _ _ ?_ ?_ ?_ ?_
    · intro member other isMember isOther least greatest
      have listed := (List.mem_insertionSort below).mp isMember
      have listed' :=
        same.mem_iff.mpr ((List.mem_insertionSort below).mp isOther)
      exact List.inj_on_of_nodup_map distinct listed listed'
        (utf16_injective (le_antisymm least greatest))
    · exact List.pairwise_insertionSort _ _
    · exact List.pairwise_insertionSort _ _
    · exact ((List.perm_insertionSort _ _).trans same).trans
        (List.perm_insertionSort _ _).symm
  unfold sorted
  exact congrArg ownOrder units

/-- The members that stay at one level. -/
def kept (members : List (String × Json)) : List (String × Json) :=
  members.filter fun member => ¬ isLeftOut member.1

@[simp] theorem canonicalizeItems_eq (items : List Json) :
    canonicalizeItems items = items.map canonicalize := by
  induction items with
  | nil => rfl
  | cons item rest ih => rw [canonicalizeItems, ih, List.map_cons]

@[simp] theorem canonicalizeMembers_eq (members : List (String × Json)) :
    canonicalizeMembers members =
      (kept members).map fun member => (member.1, canonicalize member.2) := by
  induction members with
  | nil => rfl
  | cons member rest ih =>
      obtain ⟨key, value⟩ := member
      unfold kept at ih ⊢
      rw [canonicalizeMembers, ih]
      by_cases leftOut : isLeftOut key = true
      · simp [leftOut]
      · simp [leftOut]

theorem canonicalize_obj (members : List (String × Json)) :
    canonicalize (.obj members) =
      .obj ((sorted (kept members)).map fun member =>
        (member.1, canonicalize member.2)) := by
  rw [canonicalize, canonicalizeMembers_eq]
  exact congrArg Json.obj (sorted_map canonicalize (kept members))

theorem distinct_kept {members : List (String × Json)}
    (distinct : (members.map Prod.fst).Nodup) :
    ((kept members).map Prod.fst).Nodup :=
  distinct.sublist (List.filter_sublist.map _)

/-! ## Order-independence -/

/-- The canonical form does not depend on the order of keys, at any depth. -/
theorem canonicalize_of_reordered {first second : Json}
    (reordered : first.Reordered second) (proper : first.Proper) :
    canonicalize first = canonicalize second := by
  induction reordered with
  | refl => rfl
  | symm reordered ih => exact (ih (reordered.proper_iff.mpr proper)).symm
  | trans reordered _ ih ih' =>
      exact (ih proper).trans (ih' (reordered.proper_iff.mp proper))
  | item before after _ ih =>
      have items := proper.items
      simp only [List.forall_mem_append, List.forall_mem_cons] at items
      simp only [canonicalize, canonicalizeItems_eq, List.map_append,
        List.map_cons, ih items.2.1]
  | member before after key _ ih =>
      have members := proper.members
      simp only [List.forall_mem_append, List.forall_mem_cons] at members
      have same := ih members.2.1
      rw [canonicalize, canonicalize, canonicalizeMembers_eq,
        canonicalizeMembers_eq]
      unfold kept
      by_cases leftOut : isLeftOut key = true
      · simp [leftOut]
      · simp [leftOut, same]
  | perm same =>
      rw [canonicalize_obj, canonicalize_obj]
      have sortedSame :=
        sorted_eq_of_perm (distinct_kept proper.distinct) (same.filter _)
      unfold kept at sortedSame ⊢
      rw [sortedSame]

/-- A canonical form is its own. -/
theorem canonicalize_canonicalize {value : Json} (proper : value.Proper) :
    canonicalize (canonicalize value) = canonicalize value := by
  induction proper with
  | null => rfl
  | bool => rfl
  | num => rfl
  | str => rfl
  | @arr items _ ih =>
      simp only [canonicalize, canonicalizeItems_eq, List.map_map,
        Json.arr.injEq, List.map_inj_left, Function.comp_apply]
      exact ih
  | @obj members distinct _ ih =>
      let canonical : String × Json → String × Json := fun member =>
        (member.1, canonicalize member.2)
      have keys : ((kept members).map canonical).map Prod.fst =
        (kept members).map Prod.fst := by
        rw [List.map_map]
        rfl
      have again : sorted (kept (sorted ((kept members).map canonical))) =
          sorted ((kept members).map canonical) := by
        have all : kept (sorted ((kept members).map canonical)) =
            sorted ((kept members).map canonical) := by
          apply List.filter_eq_self.mpr
          intro member listed
          have inKept := (sorted_perm _).mem_iff.mp listed
          obtain ⟨old, isOld, rfl⟩ := List.mem_map.mp inKept
          exact (List.mem_filter.mp isOld).2
        rw [all]
        apply sorted_eq_of_perm _ (sorted_perm _)
        have permuted :=
          (sorted_perm ((kept members).map canonical)).map Prod.fst
        rw [permuted.nodup_iff, keys]
        exact distinct_kept distinct
      rw [canonicalize_obj, ← sorted_map, canonicalize_obj, again]
      rw [sorted_map, List.map_map]
      congr 1
      apply List.map_congr_left
      intro member listed
      have isMember :=
        List.mem_of_mem_filter ((sorted_perm _).mem_iff.mp listed)
      exact congrArg (Prod.mk member.1) (ih member isMember)

/-- The members without `checksum` and `checksumMethod`. -/
def unsigned (members : List (String × Json)) : List (String × Json) :=
  members.filter fun member => member.1 ∉ ["checksum", "checksumMethod"]

theorem kept_unsigned (members : List (String × Json)) :
    kept (unsigned members) = kept members := by
  unfold kept unsigned
  rw [List.filter_filter]
  apply List.filter_congr
  intro member _
  by_cases leftOut : isLeftOut member.1 = true
  · simp [leftOut]
  · simp only [isLeftOut, decide_eq_true_eq, List.mem_cons, List.not_mem_nil,
      or_false] at leftOut
    simp [isLeftOut, leftOut]
    tauto

theorem canonicalize_unsigned (members : List (String × Json)) :
    canonicalize (.obj (unsigned members)) = canonicalize (.obj members) := by
  rw [canonicalize_obj, canonicalize_obj, kept_unsigned]

theorem unsigned_withMember (value : Json) (members : List (String × Json)) :
    unsigned (withMember "checksum" value members) = unsigned members := by
  have replaced : unsigned (members.map fun member =>
      if member.1 = "checksum" then ("checksum", value) else member) =
        unsigned members := by
    induction members with
    | nil => rfl
    | cons member rest ih =>
        unfold unsigned at ih ⊢
        by_cases isChecksum : member.1 = "checksum"
        · simpa [isChecksum] using ih
        · simp only [List.map_cons, if_neg isChecksum, List.filter_cons, ih]
  unfold withMember
  split
  · exact replaced
  · simp [unsigned]

theorem get?_withMember (key : String) (value : Json)
    (members : List (String × Json)) :
    (Json.obj (withMember key value members)).get? key = some value := by
  have found : (withMember key value members).find?
    (fun member => member.1 == key) =
      some (key, value) := by
    unfold withMember
    split
    · rename_i present
      induction members with
      | nil => simp at present
      | cons member rest ih =>
          by_cases same : member.1 = key
          · simp [same]
          · simp only [List.any_cons, beq_eq_false_iff_ne.mpr same,
              Bool.false_or] at present
            simpa [same] using ih present
    · rename_i absent
      have fresh : members.find? (fun member => member.1 == key) = none := by
        rw [List.find?_eq_none]
        intro member listed same
        exact absent (List.any_eq_true.mpr ⟨member, listed, same⟩)
      simp [List.find?_append, fresh]
  change Option.map Prod.snd _ = _
  rw [found]
  rfl

theorem foldl_difference (pairs : List (ℕ × ℕ)) (diff : ℕ) :
    pairs.foldl (fun diff units => diff ||| (units.1 ^^^ units.2)) diff = 0 ↔
      diff = 0 ∧ ∀ units ∈ pairs, units.1 = units.2 := by
  induction pairs generalizing diff with
  | nil => simp
  | cons units rest ih =>
      rw [List.foldl_cons, ih, List.forall_mem_cons, Nat.or_eq_zero_iff,
        Nat.xor_eq_zero_iff, and_assoc]

/-- Texts of one length have no difference exactly when they are the same. -/
theorem difference_eq_zero_iff {expected provided : List ℕ}
    (length : expected.length = provided.length) :
    difference expected provided = 0 ↔ expected = provided := by
  unfold difference
  rw [foldl_difference]
  simp only [true_and]
  induction expected generalizing provided with
  | nil =>
      cases provided with
      | nil => simp
      | cons => cases length
  | cons unit rest ih =>
      cases provided with
      | nil => cases length
      | cons other others =>
          rw [List.zip_cons_cons, List.forall_mem_cons,
            ih (Nat.succ.inj length), List.cons.injEq]

/-- A text is accepted exactly when it is the checksum, and not empty. -/
theorem verifyPayloadChecksum_text {hmac : Hmac} {checksumKey text : String}
    {payload : Json} (provided : payload.get? "checksum" = some (.str text)) :
    verifyPayloadChecksum hmac checksumKey payload =
      .ok (decide
        (text ≠ "" ∧ text = createPayloadChecksum hmac checksumKey
        payload)) := by
  simp only [verifyPayloadChecksum, provided, Json.truthy, length?]
  by_cases empty : text = ""
  · simp [empty]
  · simp only [bne_iff_ne, ne_eq, empty, not_false_eq_true, if_true,
      Option.some.injEq, true_and]
    by_cases length : (utf16 text).length =
        (utf16 (createPayloadChecksum hmac checksumKey payload)).length
    · rw [if_neg (not_not.mpr length)]
      simp only [difference_eq_zero_iff length.symm, utf16_injective.eq_iff,
        eq_comm]
    · rw [if_pos length]
      have differs : text ≠ createPayloadChecksum hmac checksumKey payload := by
        intro same
        rw [← same] at length
        exact length rfl
      simp [differs]

theorem inHex_ne_empty (hash : String → String → Digest)
    (checksumKey text : String) : inHex hash checksumKey text ≠ "" := by
  intro empty
  have length := congrArg String.length empty
  simp [inHex, (hash checksumKey text).property] at length

/-- The members of an object as `JSON.parse` gives it. -/
abbrev Payload :=
  { members : List (String × Json) // (Json.obj members).Proper }

/-- The checksum does not depend on the order of keys, at any depth, nor on the
members `checksum` and `checksumMethod`; a canonical form is its own; and a
payload that carries its checksum is accepted. -/
theorem checksum_laws (checksumKey : String) (payload : Payload) :
    (∀ (hmac : Hmac) (other : Payload),
      (Json.obj (unsigned payload.val)).Reordered (.obj (unsigned other.val)) →
        createPayloadChecksum hmac checksumKey (.obj payload.val) =
          createPayloadChecksum hmac checksumKey (.obj other.val)) ∧
    canonicalize (canonicalize (.obj payload.val)) =
      canonicalize (.obj payload.val) ∧ ∀ hash : String → String → Digest,
      verifyPayloadChecksum (inHex hash) checksumKey
        (.obj (sign (inHex hash) checksumKey payload.val)) = .ok true := by
  have same {members others : List (String × Json)} (hmac : Hmac)
      (proper : (Json.obj (unsigned members)).Proper)
      (reordered : (Json.obj (unsigned members)).Reordered
        (.obj (unsigned others))) :
      createPayloadChecksum hmac checksumKey (.obj members) =
        createPayloadChecksum hmac checksumKey (.obj others) := by
    unfold createPayloadChecksum
    rw [← canonicalize_unsigned members, ← canonicalize_unsigned others,
      canonicalize_of_reordered reordered proper]
  have properUnsigned : (Json.obj (unsigned payload.val)).Proper := by
    apply Json.Proper.obj
    · exact payload.property.distinct.sublist (List.filter_sublist.map _)
    · exact fun member listed =>
        payload.property.members member (List.mem_of_mem_filter listed)
  refine ⟨fun hmac other => same hmac properUnsigned,
    canonicalize_canonicalize payload.property, ?_⟩
  intro hash
  have provided : (Json.obj (sign (inHex hash) checksumKey payload.val)).get?
    "checksum" =
      some (.str
        (createPayloadChecksum (inHex hash) checksumKey (.obj payload.val))) :=
    get?_withMember _ _ _
  rw [verifyPayloadChecksum_text provided]
  have checksum : createPayloadChecksum (inHex hash) checksumKey
    (.obj payload.val) =
      createPayloadChecksum (inHex hash) checksumKey
        (.obj (sign (inHex hash) checksumKey payload.val)) := by
    apply same _ properUnsigned
    unfold sign
    rw [unsigned_withMember]
    exact .refl _
  rw [← checksum]
  simp only [Except.ok.injEq, decide_eq_true_eq, and_true]
  exact inHex_ne_empty hash checksumKey _

end CloudStudio.Payments
