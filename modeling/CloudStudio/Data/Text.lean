import Mathlib.Data.List.Basic
import Mathlib.Data.List.TakeWhile
import Mathlib.Tactic.Tauto

/-!
# JavaScript strings

The string methods the services use, on lists of characters.  `toUpperCase` is
exact for every character whose upper case has an ASCII character in it; all
patterns, status names and event names the services compare with are ASCII.
-/

namespace CloudStudio.Data.Text

/-- The upper case of one character. -/
def upperChars (char : Char) : List Char :=
  match char with
  | 'ı' => ['I']
  | 'ſ' => ['S']
  | 'ß' => ['S', 'S']
  | 'ﬀ' => ['F', 'F']
  | 'ﬁ' => ['F', 'I']
  | 'ﬂ' => ['F', 'L']
  | 'ﬃ' => ['F', 'F', 'I']
  | 'ﬄ' => ['F', 'F', 'L']
  | 'ﬅ' => ['S', 'T']
  | 'ﬆ' => ['S', 'T']
  | 'ŉ' => ['\u02BC', 'N']
  | 'ǰ' => ['J', '\u030C']
  | 'ẖ' => ['H', '\u0331']
  | 'ẗ' => ['T', '\u0308']
  | 'ẘ' => ['W', '\u030A']
  | 'ẙ' => ['Y', '\u030A']
  | 'ẚ' => ['A', '\u02BE']
  | other => [other.toUpper]

/-- `text.toUpperCase()`. -/
def toUpperCase (text : String) : String :=
  String.ofList (text.toList.flatMap upperChars)

/-- `text.toLowerCase()`, exact for ASCII characters. -/
def toLowerCase (text : String) : String :=
  text.map Char.toLower

/-- What `trim` removes. -/
def isTrimmed (char : Char) : Bool :=
  char.val ∈ [0x9, 0xA, 0xB, 0xC, 0xD, 0x20, 0xA0, 0x1680, 0x2028,
    0x2029, 0x202F,
    0x205F, 0x3000, 0xFEFF] ∨ (0x2000 ≤ char.val ∧ char.val ≤ 0x200A)

/-- `text.trim()`. -/
def trim (text : String) : String :=
  String.ofList
    (((text.toList.dropWhile isTrimmed).reverse.dropWhile isTrimmed).reverse)

/-- `text.startsWith(head)`. -/
def startsWith (text head : String) : Bool :=
  head.toList.isPrefixOf text.toList

/-- `A-Z0-9`. -/
def isUpperAlphanumeric (char : Char) : Bool :=
  ('A' ≤ char ∧ char ≤ 'Z') ∨ ('0' ≤ char ∧ char ≤ '9')

/-- `trim` keeps every other character. -/
theorem mem_dropWhile_isTrimmed {char : Char} (kept : isTrimmed char = false)
    (chars : List Char) : char ∈ chars.dropWhile isTrimmed ↔ char ∈ chars := by
  constructor
  · exact fun member => (List.dropWhile_sublist isTrimmed).mem member
  · intro member
    rw [← List.takeWhile_append_dropWhile (p := isTrimmed) (l := chars),
      List.mem_append] at member
    rcases member with dropped | left
    · rw [List.mem_takeWhile_imp dropped] at kept
      cases kept
    · exact left

theorem mem_trim {char : Char} (kept : isTrimmed char = false) (text : String) :
    char ∈ (trim text).toList ↔ char ∈ text.toList := by
  rw [trim, String.toList_ofList, List.mem_reverse,
    mem_dropWhile_isTrimmed kept,
    List.mem_reverse, mem_dropWhile_isTrimmed kept]

/-- `a-z`. -/
def isLower (char : Char) : Prop := 'a'.val ≤ char.val ∧ char.val ≤ 'z'.val

theorem toUpper_of_not_lower {char : Char} (other : ¬ isLower char) :
    char.toUpper = char := by
  unfold Char.toUpper
  exact dif_neg other

theorem toUpper_val {char : Char} (lower : isLower char) :
    char.toUpper.val = char.val + ('A'.val - 'a'.val) := by
  have range : 'a'.val ≤ char.val ∧ char.val ≤ 'z'.val := lower
  unfold Char.toUpper
  rw [dif_pos range]

theorem toUpper_le {char : Char} (lower : isLower char) :
    char.toUpper.val ≤ 'Z'.val := by
  have moved := toUpper_val lower
  obtain ⟨least, greatest⟩ := lower
  simp only [moved, UInt32.le_iff_toNat_le, UInt32.toNat_add, Char.reduceVal,
    UInt32.reduceSub, UInt32.reduceToNat] at least greatest ⊢
  omega

theorem toUpper_toUpper (char : Char) :
    char.toUpper.toUpper = char.toUpper := by
  apply toUpper_of_not_lower
  intro still
  by_cases lower : isLower char
  · have impossible : 'a'.val ≤ 'Z'.val :=
      UInt32.le_trans still.1 (toUpper_le lower)
    exact absurd impossible (by decide)
  · rw [toUpper_of_not_lower lower] at still
    exact lower still

theorem toUpper_eq_nul_iff (char : Char) :
    char.toUpper = '\u0000' ↔ char = '\u0000' := by
  by_cases lower : isLower char
  · constructor
    · intro nul
      have moved := toUpper_val lower
      obtain ⟨least, greatest⟩ := lower
      rw [nul] at moved
      have numbers := congrArg UInt32.toNat moved
      simp only [UInt32.le_iff_toNat_le, UInt32.toNat_add, Char.reduceVal,
        UInt32.reduceSub, UInt32.reduceToNat] at least greatest numbers
      omega
    · rintro rfl
      rfl
  · rw [toUpper_of_not_lower lower]

theorem nul_mem_upperChars_iff (char : Char) :
    '\u0000' ∈ upperChars char ↔ char = '\u0000' := by
  unfold upperChars
  split
  case h_18 => rw [List.mem_singleton, eq_comm, toUpper_eq_nul_iff]
  all_goals decide

theorem nul_mem_toUpperCase (text : String) :
    '\u0000' ∈ (toUpperCase text).toList ↔ '\u0000' ∈ text.toList := by
  simp only [toUpperCase, String.toList_ofList, List.mem_flatMap,
    nul_mem_upperChars_iff, exists_eq_right]

/-- The characters that the others expand to. -/
def expansions : List Char :=
  ['A', 'F', 'H', 'I', 'J', 'L', 'N', 'S', 'T', 'W', 'Y', '\u02BC',
    '\u02BE', '\u0308',
    '\u030A', '\u030C', '\u0331']

theorem mem_expansions {chars : List Char}
    (all : chars.all expansions.contains = true) {upper : Char}
    (member : upper ∈ chars) : upper ∈ expansions :=
  List.contains_iff_mem.mp (List.all_eq_true.mp all upper member)

theorem upperChars_expansion {upper : Char} (member : upper ∈ expansions) :
    upperChars upper = [upper] := by
  have each : expansions.all (fun upper => upperChars upper == [upper]) =
    true := by decide
  exact eq_of_beq (List.all_eq_true.mp each upper member)

/-- An upper case character is its own upper case. -/
theorem upperChars_of_mem {char upper : Char}
    (member : upper ∈ upperChars char) : upperChars upper = [upper] := by
  unfold upperChars at member
  split at member
  case h_18 =>
    rw [List.mem_singleton] at member
    subst member
    by_cases lower : isLower char
    · have small := toUpper_le lower
      unfold upperChars
      split
      case h_18 => rw [toUpper_toUpper]
      all_goals
        rename_i special
        rw [special] at small
        exact absurd small (by decide)
    · rw [toUpper_of_not_lower lower]
      unfold upperChars
      split
      case h_18 => rw [toUpper_of_not_lower lower]
      all_goals contradiction
  all_goals
    exact upperChars_expansion (mem_expansions (by decide) member)

theorem flatMap_upperChars {chars : List Char}
    (upper : ∀ char ∈ chars, upperChars char = [char]) :
    chars.flatMap upperChars = chars := by
  induction chars with
  | nil => rfl
  | cons char rest ih =>
      rw [List.forall_mem_cons] at upper
      rw [List.flatMap_cons, upper.1, ih upper.2]
      rfl

/-- The upper case of a text is in upper case. -/
@[simp] theorem toUpperCase_toUpperCase (text : String) :
    toUpperCase (toUpperCase text) = toUpperCase text := by
  unfold toUpperCase
  rw [String.toList_ofList, flatMap_upperChars]
  intro upper member
  obtain ⟨char, _, isUpper⟩ := List.mem_flatMap.mp member
  exact upperChars_of_mem isUpper

end CloudStudio.Data.Text
