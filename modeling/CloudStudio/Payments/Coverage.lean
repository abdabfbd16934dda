import CloudStudio.Payments.Stringify

/-!
# What the checksum covers

The text that is signed shows a payload up to the order of keys, without the
members that are left out at each level, and with `null` in place of numbers
that are not finite.  It shows nothing less.
-/

namespace CloudStudio.Payments

open CloudStudio.Data

mutual
/-- What the signed text shows of a value. -/
def shown : Json → Json
  | .num text => if Json.isInfinite text then .null else .num text
  | .arr items => .arr (shownItems items)
  | .obj members => .obj (shownMembers members)
  | .null => .null
  | .bool value => .bool value
  | .str text => .str text

def shownItems : List Json → List Json
  | [] => []
  | item :: rest => shown item :: shownItems rest

def shownMembers : List (String × Json) → List (String × Json)
  | [] => []
  | (key, value) :: rest =>
      if isLeftOut key then shownMembers rest else (key, shown value) ::
        shownMembers rest
end

@[simp] theorem shownItems_eq (items : List Json) :
    shownItems items = items.map shown := by
  induction items with
  | nil => rfl
  | cons item rest ih => rw [shownItems, ih, List.map_cons]

@[simp] theorem shownMembers_eq (members : List (String × Json)) :
    shownMembers members = (kept members).map fun member =>
      (member.1, shown member.2) := by
  induction members with
  | nil => rfl
  | cons member rest ih =>
      obtain ⟨key, value⟩ := member
      unfold kept at ih ⊢
      rw [shownMembers, ih]
      by_cases leftOut : isLeftOut key = true
      · simp [leftOut]
      · simp [leftOut]

theorem kept_shown (members : List (String × Json)) :
    kept ((kept members).map fun member => (member.1, shown member.2)) =
      (kept members).map fun member => (member.1, shown member.2) := by
  apply List.filter_eq_self.mpr
  intro member listed
  obtain ⟨old, isOld, rfl⟩ := List.mem_map.mp listed
  exact (List.mem_filter.mp isOld).2

/-- The canonical form of what is shown of an object. -/
theorem canonicalize_shown_obj (members : List (String × Json)) :
    canonicalize (shown (.obj members)) =
      .obj ((sorted (kept members)).map fun member =>
        (member.1, canonicalize (shown member.2))) := by
  rw [shown, shownMembers_eq, canonicalize_obj, kept_shown,
    sorted_map, List.map_map]
  rfl

theorem mem_sorted_kept {members : List (String × Json)}
    {member : String × Json} (listed : member ∈ sorted (kept members)) :
    member ∈ members :=
  List.mem_of_mem_filter ((sorted_perm _).mem_iff.mp listed)

section Shown

variable {value : Json} (proper : value.Proper)

include proper

theorem proper_shown : (shown value).Proper := by
  induction proper with
  | null => exact .null
  | bool value => exact .bool value
  | @num text isNumber =>
      rw [shown]
      split
      · exact .null
      · exact .num isNumber
  | str text => exact .str text
  | @arr items _ ih =>
      rw [shown, shownItems_eq]
      apply Json.Proper.arr
      simpa using ih
  | @obj members distinct _ ih =>
      rw [shown, shownMembers_eq]
      apply Json.Proper.obj
      · rw [List.map_map]
        exact distinct_kept distinct
      · intro member listed
        obtain ⟨old, isOld, rfl⟩ := List.mem_map.mp listed
        exact ih old (List.mem_of_mem_filter isOld)

theorem finite_canonicalize_shown : (canonicalize (shown value)).Finite := by
  induction proper with
  | null => exact .null
  | bool value => exact .bool value
  | @num text isNumber =>
      rw [shown]
      split
      · exact .null
      · rename_i finite
        exact .num (isNumber.resolve_right finite)
  | str text => exact .str text
  | @arr items _ ih =>
      rw [shown, shownItems_eq, canonicalize, canonicalizeItems_eq]
      apply Json.Finite.arr
      simpa using ih
  | @obj members _ _ ih =>
      rw [canonicalize_shown_obj]
      apply Json.Finite.obj
      intro member listed
      obtain ⟨old, isOld, rfl⟩ := List.mem_map.mp listed
      exact ih old (mem_sorted_kept isOld)

/-- The signed text is that of what is shown. -/
theorem stringify_shown :
    stringify (canonicalize (shown value)) =
      stringify (canonicalize value) := by
  induction proper with
  | null => rfl
  | bool => rfl
  | @num text _ =>
      rw [shown]
      split
      · rename_i infinite
        simp only [canonicalize, stringify, infinite, if_true]
      · rfl
  | str => rfl
  | @arr items _ ih =>
      rw [shown, shownItems_eq, canonicalize, canonicalize,
        canonicalizeItems_eq,
        canonicalizeItems_eq, stringify, stringify, stringifyItems_eq,
          stringifyItems_eq]
      simp only [List.map_map]
      congr 3
      exact List.map_congr_left ih
  | @obj members _ _ ih =>
      rw [canonicalize_shown_obj, canonicalize_obj, stringify, stringify,
        stringifyMembers_eq, stringifyMembers_eq]
      simp only [List.map_map]
      congr 3
      apply List.map_congr_left
      intro member listed
      simp only [Function.comp_apply, memberText,
        ih member (mem_sorted_kept listed)]

/-- What is shown, in canonical order. -/
theorem reordered_shown :
    (shown value).Reordered (canonicalize (shown value)) := by
  induction proper with
  | null => exact .refl _
  | bool => exact .refl _
  | num =>
      rw [shown]
      split
      · exact .refl _
      · exact .refl _
  | str => exact .refl _
  | @arr items _ ih =>
      rw [shown, shownItems_eq, canonicalize, canonicalizeItems_eq,
        List.map_map]
      exact Json.Reordered.arr shown (canonicalize ∘ shown) items ih
  | @obj members _ _ ih =>
      rw [canonicalize_shown_obj, shown, shownMembers_eq]
      have permuted := (sorted_perm (kept members)).symm.map fun member =>
        (member.1, shown member.2)
      apply Json.Reordered.trans (.perm permuted)
      exact Json.Reordered.obj shown (canonicalize ∘ shown) _
        fun member listed =>
        ih member (mem_sorted_kept listed)

end Shown

/-- The signed texts of two values agree exactly when the same is shown of them,
up to the order of keys. -/
theorem signedText_eq_iff {value other : Json} (proper : value.Proper)
    (proper' : other.Proper) :
    stringify (canonicalize value) = stringify (canonicalize other) ↔
      (shown value).Reordered (shown other) := by
  rw [← stringify_shown proper, ← stringify_shown proper']
  constructor
  · intro same
    have texts : (stringify (canonicalize (shown value))).toList ++ [] =
        (stringify (canonicalize (shown other))).toList ++ [] := by
      rw [same]
    have equal := (stringify_reads (finite_canonicalize_shown proper) _ _ _
      (finite_canonicalize_shown proper') stops_end stops_end texts).1
    apply (reordered_shown proper).trans
    rw [equal]
    exact (reordered_shown proper').symm
  · intro reordered
    rw [canonicalize_of_reordered reordered (proper_shown proper)]

/-- A payload in which more than the order of keys, the members that are left
out and infinite numbers differs has another signed text; so, when no two texts
of a key have one HMAC, it is not accepted with the checksum of the first. -/
theorem checksum_covers (payload other : Payload) :
    ¬ (shown (.obj payload.val)).Reordered (shown (.obj other.val)) →
      stringify (canonicalize (.obj payload.val)) ≠
        stringify (canonicalize (.obj other.val)) ∧
      ∀ (hmac : Hmac) (checksumKey : String),
        Function.Injective (hmac checksumKey) →
        (Json.obj other.val).get? "checksum" =
          some (.str
            (createPayloadChecksum hmac checksumKey (.obj payload.val))) →
        verifyPayloadChecksum hmac checksumKey (.obj other.val) =
          .ok false := by
  intro differ
  have texts : stringify (canonicalize (.obj payload.val)) ≠
      stringify (canonicalize (.obj other.val)) :=
    fun same =>
      differ ((signedText_eq_iff payload.property other.property).mp same)
  refine ⟨texts, ?_⟩
  intro hmac checksumKey collisionFree provided
  rw [verifyPayloadChecksum_text provided]
  have forged : createPayloadChecksum hmac checksumKey (.obj payload.val) ≠
      createPayloadChecksum hmac checksumKey (.obj other.val) :=
    fun same => texts (collisionFree same)
  simp [forged]

/-- An object with one member. -/
def single (key : String) (value : Json) (proper : value.Proper) : Payload :=
  ⟨[(key, value)], .obj (List.nodup_singleton key) (by simpa using proper)⟩

theorem proper_num {text : String} (isNumber : text ∈ ["1", "2", "Infinity"]) :
    (Json.num text).Proper := by
  simp only [List.mem_cons, List.not_mem_nil, or_false] at isNumber
  apply Json.Proper.num
  rcases isNumber with rfl | rfl | rfl
  · exact .inl ⟨by decide, List.all_iff_forall_prop.mp (by decide)⟩
  · exact .inl ⟨by decide, List.all_iff_forall_prop.mp (by decide)⟩
  · exact .inr (by decide)

theorem checksum_covers_amount :
    stringify
      (canonicalize
      (.obj (single "amount" (.num "1") (proper_num (by decide))).val)) ≠
      stringify
        (canonicalize
        (.obj (single "amount" (.num "2") (proper_num (by decide))).val)) ∧
    ∀ (hmac : Hmac) (checksumKey : String),
      Function.Injective (hmac checksumKey) →
      (Json.obj (single "amount" (.num "2") (proper_num (by decide))).val).get?
        "checksum" = some (.str (createPayloadChecksum hmac checksumKey
          (.obj (single "amount" (.num "1") (proper_num (by decide))).val))) →
      verifyPayloadChecksum hmac checksumKey
        (.obj (single "amount" (.num "2") (proper_num (by decide))).val) =
          .ok false :=
  checksum_covers (single "amount" (.num "1") (proper_num (by decide)))
    (single "amount" (.num "2") (proper_num (by decide)))
    fun reordered => absurd reordered.numerals_perm (by decide)

/-- The signed text covers everything but the two members of the signature. -/
def CoversAll (members others : List (String × Json)) : Prop :=
  ¬ (Json.obj (unsigned members)).Reordered (.obj (unsigned others)) →
    stringify (canonicalize (.obj members)) ≠
      stringify (canonicalize (.obj others))

theorem not_coversAll {members others : Payload}
    (numbers : ¬ (Json.obj (unsigned members.val)).numerals.Perm
      (Json.obj (unsigned others.val)).numerals)
    (same : shown (.obj members.val) = shown (.obj others.val)) :
    ¬ CoversAll members.val others.val := by
  intro covers
  apply covers (fun reordered => numbers reordered.numerals_perm)
  apply (signedText_eq_iff members.property others.property).mpr
  rw [same]
  exact .refl _

/-- A payload with a checksum below the top level. -/
def nestedChecksum (text : String) (isNumber : text ∈ ["1", "2", "Infinity"]) :
    Payload :=
  single "data" (.obj [("checksum", .num text)])
    (single "checksum" _ (proper_num isNumber)).property

/-- A member of a member is left out by its name, a member `__proto__` is not
assigned, and a number too large for the language is written as `null`. -/
theorem nested_uncovered :
    ¬ CoversAll
      (nestedChecksum "1"
      (by decide)).val (nestedChecksum "2" (by decide)).val ∧
    ¬ CoversAll (single "__proto__" (.num "1") (proper_num (by decide))).val
      (single "__proto__" (.num "2") (proper_num (by decide))).val ∧
    ¬ CoversAll (single "amount" (.num "Infinity") (proper_num (by decide))).val
      (single "amount" .null .null).val := by
  refine ⟨?_, ?_, ?_⟩
  · exact not_coversAll (by decide) rfl
  · exact not_coversAll (by decide) rfl
  · exact not_coversAll (by decide) rfl

end CloudStudio.Payments
