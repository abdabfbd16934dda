import Mathlib.Data.List.Perm.Basic
import CloudStudio.Data.Json

/-!
# Values up to the order of their keys

What a parsed value looks like: an object has each of its keys once, and the
text of a number is made of the characters of numbers.  Two values are the same
up to the order of keys when one comes from the other by permuting the members
of objects, at any depth.
-/

namespace CloudStudio.Data.Json

def numberChars : List Char := "0123456789+-.e".toList

/-- What `String(n)` gives for a finite number. -/
def FiniteText (text : String) : Prop :=
  text ≠ "" ∧ ∀ char ∈ text.toList, char ∈ numberChars

/-- A value that `JSON.parse` can give. -/
inductive Proper : Json → Prop where
  | null : Proper .null
  | bool (value : Bool) : Proper (.bool value)
  | num {text : String} (isNumber : FiniteText text ∨ isInfinite text = true) :
      Proper (.num text)
  | str (text : String) : Proper (.str text)
  | arr {items : List Json} (proper : ∀ item ∈ items, Proper item) :
      Proper (.arr items)
  | obj {members : List (String × Json)}
      (distinct : (members.map Prod.fst).Nodup)
      (proper : ∀ member ∈ members, Proper member.2) : Proper (.obj members)

namespace Proper

theorem items {items : List Json} (proper : Proper (.arr items)) :
    ∀ item ∈ items, Proper item := by
  cases proper with
  | arr proper => exact proper

theorem distinct {members : List (String × Json)}
    (proper : Proper (.obj members)) : (members.map Prod.fst).Nodup := by
  cases proper with
  | obj distinct _ => exact distinct

theorem members {members : List (String × Json)}
    (proper : Proper (.obj members)) : ∀ member ∈ members, Proper member.2 := by
  cases proper with
  | obj _ proper => exact proper

end Proper

/-- The value, and every value in it, can be told from its text. -/
inductive Finite : Json → Prop where
  | null : Finite .null
  | bool (value : Bool) : Finite (.bool value)
  | num {text : String} (isFinite : FiniteText text) : Finite (.num text)
  | str (text : String) : Finite (.str text)
  | arr {items : List Json} (finite : ∀ item ∈ items, Finite item) :
      Finite (.arr items)
  | obj {members : List (String × Json)} (finite : ∀ member ∈ members,
      Finite member.2) : Finite (.obj members)

/-- The values are the same up to the order of keys. -/
inductive Reordered : Json → Json → Prop where
  | refl (value : Json) : Reordered value value
  | symm {first second : Json} : Reordered first second → Reordered second first
  | trans {first second third : Json} :
      Reordered first second → Reordered second third → Reordered first third
  | item (before after : List Json) {first second : Json} :
      Reordered first second →
        Reordered (.arr (before ++ first :: after))
          (.arr (before ++ second :: after))
  | member (before after : List (String × Json)) (key : String)
      {first second : Json} : Reordered first second →
        Reordered (.obj (before ++ (key, first) :: after))
          (.obj (before ++ (key, second) :: after))
  | perm {first second : List (String × Json)} :
      first.Perm second → Reordered (.obj first) (.obj second)

namespace Reordered

/-- Values in place of values, item by item. -/
theorem arr (first second : Json → Json) (items : List Json)
    (each : ∀ item ∈ items, Reordered (first item) (second item)) :
    Reordered (.arr (items.map first)) (.arr (items.map second)) := by
  have replaced (before : List Json) :
    Reordered (.arr (before ++ items.map first))
      (.arr (before ++ items.map second)) := by
    induction items generalizing before with
    | nil => exact .refl _
    | cons item rest ih =>
        rw [List.forall_mem_cons] at each
        apply Reordered.trans (.item before (rest.map first) each.1)
        have tail := ih each.2 (before ++ [second item])
        simpa using tail
  exact replaced []

theorem obj (first second : Json → Json) (members : List (String × Json))
    (each : ∀ member ∈ members, Reordered (first member.2) (second member.2)) :
    Reordered (.obj (members.map fun member => (member.1, first member.2)))
      (.obj (members.map fun member => (member.1, second member.2))) := by
  have replaced (before : List (String × Json)) :
      Reordered
        (.obj (before ++ members.map fun member => (member.1, first member.2)))
        (.obj (before ++ members.map fun member =>
          (member.1, second member.2))) := by
    induction members generalizing before with
    | nil => exact .refl _
    | cons member rest ih =>
        rw [List.forall_mem_cons] at each
        apply Reordered.trans (.member before _ member.1 each.1)
        have tail := ih each.2 (before ++ [(member.1, second member.2)])
        simpa using tail
  exact replaced []

theorem proper_item {before after : List Json} {first second : Json}
    (carries : Proper first → Proper second)
    (proper : Proper (.arr (before ++ first :: after))) :
    Proper (.arr (before ++ second :: after)) := by
  have items := proper.items
  simp only [List.forall_mem_append, List.forall_mem_cons] at items
  apply Proper.arr
  simp only [List.forall_mem_append, List.forall_mem_cons]
  exact ⟨items.1, carries items.2.1, items.2.2⟩

theorem proper_member {before after : List (String × Json)} {key : String}
    {first second : Json} (carries : Proper first → Proper second)
    (proper : Proper (.obj (before ++ (key, first) :: after))) :
    Proper (.obj (before ++ (key, second) :: after)) := by
  have distinct := proper.distinct
  have members := proper.members
  simp only [List.forall_mem_append, List.forall_mem_cons] at members
  apply Proper.obj
  · simpa using distinct
  · simp only [List.forall_mem_append, List.forall_mem_cons]
    exact ⟨members.1, carries members.2.1, members.2.2⟩

theorem proper_perm {first second : List (String × Json)}
    (same : first.Perm second) (proper : Proper (.obj first)) :
    Proper (.obj second) := by
  apply Proper.obj
  · exact (same.map Prod.fst).nodup_iff.mp proper.distinct
  · exact fun member listed => proper.members member (same.mem_iff.mpr listed)

/-- A reordering of a proper value is proper. -/
theorem proper_iff {first second : Json} (reordered : Reordered first second) :
    Proper first ↔ Proper second := by
  induction reordered with
  | refl => exact Iff.rfl
  | symm _ ih => exact ih.symm
  | trans _ _ ih ih' => exact ih.trans ih'
  | item before after _ ih => exact ⟨proper_item ih.mp, proper_item ih.mpr⟩
  | member before after key _ ih =>
      exact ⟨proper_member ih.mp, proper_member ih.mpr⟩
  | perm same => exact ⟨proper_perm same, proper_perm same.symm⟩

end Reordered

mutual
/-- The texts of all numbers, at any depth. -/
def numerals : Json → List String
  | .num text => [text]
  | .arr items => numeralsOfItems items
  | .obj members => numeralsOfMembers members
  | _ => []

def numeralsOfItems : List Json → List String
  | [] => []
  | item :: rest => item.numerals ++ numeralsOfItems rest

def numeralsOfMembers : List (String × Json) → List String
  | [] => []
  | (_, value) :: rest => value.numerals ++ numeralsOfMembers rest
end

theorem numeralsOfItems_eq (items : List Json) :
    numeralsOfItems items = items.flatMap numerals := by
  induction items with
  | nil => rfl
  | cons item rest ih => rw [numeralsOfItems, ih, List.flatMap_cons]

theorem numeralsOfMembers_eq (members : List (String × Json)) :
    numeralsOfMembers members = members.flatMap fun member =>
      member.2.numerals := by
  induction members with
  | nil => rfl
  | cons member rest ih => rw [numeralsOfMembers, ih, List.flatMap_cons]

/-- Reordering keys moves the numbers about, and changes none. -/
theorem Reordered.numerals_perm {first second : Json}
    (reordered : Reordered first second) :
    first.numerals.Perm second.numerals := by
  induction reordered with
  | refl => exact .refl _
  | symm _ ih => exact ih.symm
  | trans _ _ ih ih' => exact ih.trans ih'
  | item before after _ ih =>
      simp only [numerals, numeralsOfItems_eq, List.flatMap_append,
        List.flatMap_cons]
      exact (ih.append_right _).append_left _
  | member before after key _ ih =>
      simp only [numerals, numeralsOfMembers_eq, List.flatMap_append,
        List.flatMap_cons]
      exact (ih.append_right _).append_left _
  | perm same =>
      simp only [numerals, numeralsOfMembers_eq]
      exact same.flatMap_right _

end CloudStudio.Data.Json
