import Mathlib.Data.Bool.AllAny
import CloudStudio.Payments.Canonical

/-!
# Reading a text back

The text that `JSON.stringify` gives determines the value, as long as its
numbers are finite. Each value is read back before whatever may follow one:
nothing, a comma or a closing bracket.
-/

namespace CloudStudio.Payments

open CloudStudio.Data

/-- The characters that are not written as they are. -/
def specials : List Char := (List.range 32).map Char.ofNat ++ ['"', '\\']

theorem mem_specials_of_control {char : Char} (control : char.toNat < 32) :
    char ∈ specials := by
  apply List.mem_append_left
  rw [List.mem_map]
  exact ⟨char.toNat, List.mem_range.mpr control, Char.ofNat_toNat char⟩

theorem escapeChar_plain {char : Char} (plain : char ∉ specials) :
    escapeChar char = [char] := by
  have printable : ¬ char.toNat < 32 := fun control =>
    plain (mem_specials_of_control control)
  unfold escapeChar
  split
  case h_6 =>
    rw [if_neg (by omega), if_neg (by omega), if_neg printable]
  all_goals exact absurd (by decide) plain

/-- A special character is a backslash and more. -/
theorem escapeChar_special {char : Char} (special : char ∈ specials) :
    ∃ next tail, escapeChar char = '\\' :: next :: tail := by
  have escapes : ∀ char ∈ specials,
      (escapeChar char).head? = some '\\' ∧ 2 ≤ (escapeChar char).length :=
    List.all_iff_forall_prop.mp (by decide +kernel)
  obtain ⟨slash, more⟩ := escapes char special
  cases escaped : escapeChar char with
  | nil =>
      rw [escaped] at slash
      cases slash
  | cons symbol tail =>
      rw [escaped] at slash more
      cases Option.some.inj slash
      cases tail with
      | nil => exact absurd more (by simp)
      | cons next tail => exact ⟨next, tail, rfl⟩

theorem escapeChar_specials : ∀ char ∈ specials, ∀ other ∈ specials,
    escapeChar char <+: escapeChar other → char = other := by
  have pairs : (specials.all fun char => specials.all fun other =>
      decide (escapeChar char <+: escapeChar other → char = other)) = true := by
    decide +kernel
  intro char special other special'
  exact of_decide_eq_true
    (List.all_eq_true.mp (List.all_eq_true.mp pairs char special)
    other special')

theorem escapeChar_prefixFree :
    PrefixCode.PrefixFree escapeChar fun _ => True := by
  intro char other _ _ begins
  by_cases special : char ∈ specials
  · by_cases special' : other ∈ specials
    · exact escapeChar_specials char special other special' begins
    · obtain ⟨next, tail, escaped⟩ := escapeChar_special special
      rw [escaped, escapeChar_plain special'] at begins
      simp at begins
  · by_cases special' : other ∈ specials
    · obtain ⟨next, tail, escaped⟩ := escapeChar_special special'
      rw [escapeChar_plain special, escaped, List.cons_prefix_cons] at begins
      rw [begins.1] at special
      exact absurd (by decide) special
    · rw [escapeChar_plain special, escapeChar_plain special',
        List.cons_prefix_cons] at begins
      exact begins.1

theorem escapeChar_opens (char : Char) :
    ∃ symbol tail, escapeChar char = symbol :: tail ∧ symbol ≠ '"' := by
  by_cases special : char ∈ specials
  · obtain ⟨next, tail, escaped⟩ := escapeChar_special special
    exact ⟨_, _, escaped, by decide⟩
  · refine ⟨_, _, escapeChar_plain special, ?_⟩
    rintro rfl
    exact special (by decide)

/-- A quoted text is read back before any rest. -/
theorem quote_reads {text other : String} {rest rest' : List Char}
    (same : (quote text).toList ++ rest = (quote other).toList ++ rest') :
    text = other ∧ rest = rest' := by
  simp only [quote, String.toList_ofList, List.append_assoc, List.cons_append,
    List.nil_append, List.cons.injEq, true_and] at same
  obtain ⟨texts, rests⟩ := PrefixCode.flatMap_reads escapeChar_prefixFree
    (fun char _ => escapeChar_opens char) (fun _ _ => trivial)
      (fun _ _ => trivial) same
  exact ⟨String.ext texts, rests⟩

theorem stringifyItems_eq (items : List Json) :
    stringifyItems items = items.map stringify := by
  induction items with
  | nil => rfl
  | cons item rest ih => rw [stringifyItems, ih, List.map_cons]

/-- One member of an object. -/
def memberText (member : String × Json) : String :=
  quote member.1 ++ ":" ++ stringify member.2

theorem stringifyMembers_eq (members : List (String × Json)) :
    stringifyMembers members = members.map memberText := by
  induction members with
  | nil => rfl
  | cons member rest ih =>
      rw [stringifyMembers, ih, List.map_cons]
      rfl

/-- Joined texts, closed and followed by a rest. -/
theorem intercalate_separated {Value : Type} (text : Value → String)
    (close : Char) (values : List Value) (rest : List Char) :
    (String.intercalate "," (values.map text)).toList ++ close :: rest =
      PrefixCode.separated (fun value => (text value).toList) ',' close
        values rest := by
  cases values with
  | nil => simp [PrefixCode.separated]
  | cons value values =>
      induction values generalizing value with
      | nil => simp [PrefixCode.separated, PrefixCode.following]
      | cons other values ih =>
          have following := ih other
          simp only [List.map_cons, PrefixCode.separated] at following
          simp only [List.map_cons, String.intercalate_cons_cons,
            String.toList_append,
            List.append_assoc, following, PrefixCode.separated,
              PrefixCode.following]
          rfl

theorem stringify_arr (items : List Json) (rest : List Char) :
    (stringify (.arr items)).toList ++ rest =
      '[' :: PrefixCode.separated (fun item => (stringify item).toList) ',' ']'
        items rest := by
  rw [← intercalate_separated, stringify, stringifyItems_eq]
  simp

theorem stringify_obj (members : List (String × Json)) (rest : List Char) :
    (stringify (.obj members)).toList ++ rest = '\x7b' ::
      PrefixCode.separated (fun member => (memberText member).toList) ',' '\x7d'
        members rest := by
  rw [← intercalate_separated, stringify, stringifyMembers_eq]
  simp

/-- What may follow a value. -/
def Stops (rest : List Char) : Prop :=
  ∀ char ∈ rest.head?, char ∈ [',', ']', '\x7d']

theorem stops_number {rest : List Char} (stops : Stops rest) :
    ∀ char ∈ rest.head?, ¬ char ∈ Json.numberChars := by
  intro char first
  have delimiters : ∀ char ∈ [',', ']', '\x7d'], ¬ char ∈ Json.numberChars :=
    List.all_iff_forall_prop.mp (by decide)
  exact delimiters char (stops char first)

theorem isInfinite_of_finiteText {text : String}
    (finite : Json.FiniteText text) : Json.isInfinite text = false := by
  by_contra infinite
  have letter : 'I' ∈ text.toList := by
    simp only [Json.isInfinite, Bool.not_eq_false,
      decide_eq_true_eq] at infinite
    rcases infinite with rfl | rfl
    · decide
    · decide
  exact absurd (finite.2 'I' letter) (by decide)

/-- The kinds of values, and the kind that a first character announces. -/
inductive Kind where
  | null | yes | no | num | str | arr | obj | other
  deriving DecidableEq

def kindOf : Json → Kind
  | .null => .null
  | .bool true => .yes
  | .bool false => .no
  | .num _ => .num
  | .str _ => .str
  | .arr _ => .arr
  | .obj _ => .obj

def announced (char : Char) : Kind :=
  if char = 'n' then .null
  else if char = 't' then .yes
  else if char = 'f' then .no
  else if char = '"' then .str
  else if char = '[' then .arr
  else if char = '\x7b' then .obj
  else if char ∈ Json.numberChars then .num
  else .other

theorem announced_number : ∀ char ∈ Json.numberChars, announced char = .num :=
  List.all_iff_forall_prop.mp (by decide)

/-- The first character of a value announces its kind. -/
theorem stringify_opens {value : Json} (finite : value.Finite) :
    ∃ char tail, (stringify value).toList = char :: tail ∧
      announced char = kindOf value := by
  cases finite with
  | null => exact ⟨'n', ['u', 'l', 'l'], by decide, by decide⟩
  | bool value =>
      cases value with
      | true => exact ⟨'t', ['r', 'u', 'e'], by decide, by decide⟩
      | false => exact ⟨'f', ['a', 'l', 's', 'e'], by decide, by decide⟩
  | @num text isFinite =>
      rw [stringify, isInfinite_of_finiteText isFinite]
      cases chars : text.toList with
      | nil => exact absurd (String.toList_eq_nil_iff.mp chars) isFinite.1
      | cons char tail =>
          refine ⟨char, tail, chars, announced_number char (isFinite.2 char ?_)⟩
          rw [chars]
          exact List.mem_cons_self
  | str text =>
      exact ⟨'"', _, by rw [stringify, quote, String.toList_ofList]; rfl, rfl⟩
  | @arr items =>
      have text := stringify_arr items []
      rw [List.append_nil] at text
      exact ⟨_, _, text, rfl⟩
  | @obj members =>
      have text := stringify_obj members []
      rw [List.append_nil] at text
      exact ⟨_, _, text, rfl⟩

/-- No value begins with the bracket that closes an array. -/
theorem stringify_begins {value : Json} (finite : value.Finite) :
    ∃ char tail, (stringify value).toList = char :: tail ∧ char ≠ ']' := by
  obtain ⟨char, tail, text, announces⟩ := stringify_opens finite
  refine ⟨char, tail, text, ?_⟩
  rintro rfl
  have none : announced ']' = .other := by decide
  rw [none] at announces
  cases finite with
  | bool value => cases value <;> cases announces
  | _ => cases announces

/-- Values whose texts agree before two rests are of one kind. -/
theorem kindOf_eq {value other : Json} (finite : value.Finite)
    (finite' : other.Finite) {rest rest' : List Char}
    (same : (stringify value).toList ++ rest =
      (stringify other).toList ++ rest') : kindOf value = kindOf other := by
  obtain ⟨char, tail, text, announces⟩ := stringify_opens finite
  obtain ⟨char', tail', text', announces'⟩ := stringify_opens finite'
  rw [text, text', List.cons_append, List.cons_append, List.cons.injEq] at same
  rw [← announces, ← announces', same.1]

/-- A member is read back before what may follow a value, when its value is. -/
theorem memberText_reads {member : String × Json}
    (reads : PrefixCode.Reads (fun value => (stringify value).toList)
      Json.Finite Stops member.2) :
    PrefixCode.Reads (fun member => (memberText member).toList)
      (fun member => member.2.Finite) Stops member := by
  intro other rest rest' finite stops stops' same
  simp only [memberText, String.toList_append, List.append_assoc] at same
  obtain ⟨keys, values⟩ := quote_reads same
  have colon : ":".toList = [':'] := rfl
  rw [colon] at values
  obtain ⟨equal, rests⟩ :=
    reads other.2 _ _ finite stops stops' (List.append_cancel_left values)
  exact ⟨Prod.ext keys equal, rests⟩

theorem memberText_opens (member : String × Json) :
    ∃ char tail, (memberText member).toList = char :: tail ∧ char ≠ '\x7d' := by
  rw [memberText, String.toList_append, String.toList_append, quote,
    String.toList_ofList]
  exact ⟨'"', _, rfl, by decide⟩

theorem stops_end : Stops [] := by
  intro char first
  cases first

theorem stops_comma (rest : List Char) : Stops (',' :: rest) := by
  intro char first
  cases first
  decide

theorem stops_bracket (rest : List Char) : Stops (']' :: rest) := by
  intro char first
  cases first
  decide

theorem stops_brace (rest : List Char) : Stops ('\x7d' :: rest) := by
  intro char first
  cases first
  decide

/-- A value is read back before whatever may follow it. -/
theorem stringify_reads {value : Json} (finite : value.Finite) :
    PrefixCode.Reads (fun value => (stringify value).toList) Json.Finite
      Stops value := by
  induction finite with
  | null =>
      intro other rest rest' finite _ _ same
      have kind := kindOf_eq .null finite same
      cases finite with
      | null => exact ⟨rfl, List.append_cancel_left same⟩
      | bool value => cases value <;> cases kind
      | _ => cases kind
  | bool value =>
      intro other rest rest' finite _ _ same
      have kind := kindOf_eq (.bool value) finite same
      cases finite with
      | bool other =>
          have equal : value = other := by
            cases value <;> cases other <;> first | rfl | cases kind
          subst equal
          exact ⟨rfl, List.append_cancel_left same⟩
      | _ => cases value <;> cases kind
  | @num text isFinite =>
      intro other rest rest' finite stops stops' same
      have kind := kindOf_eq (.num isFinite) finite same
      cases finite with
      | @num text' isFinite' =>
          simp only [stringify, isInfinite_of_finiteText isFinite,
            isInfinite_of_finiteText isFinite', Bool.false_eq_true,
              if_false] at same
          obtain ⟨texts, rests⟩ :=
            PrefixCode.append_inj_of_stops isFinite.2 isFinite'.2
            (stops_number stops) (stops_number stops') same
          exact ⟨congrArg Json.num (String.ext texts), rests⟩
      | bool value => cases value <;> cases kind
      | _ => cases kind
  | str text =>
      intro other rest rest' finite _ _ same
      have kind := kindOf_eq (.str text) finite same
      cases finite with
      | str text' =>
          obtain ⟨texts, rests⟩ := quote_reads same
          exact ⟨congrArg Json.str texts, rests⟩
      | bool value => cases value <;> cases kind
      | _ => cases kind
  | @arr items finite ih =>
      intro other rest rest' finite' _ _ same
      have kind := kindOf_eq (.arr finite) finite' same
      cases finite' with
      | @arr others finite' =>
          simp only [stringify_arr, List.cons.injEq, true_and] at same
          obtain ⟨equal, rests⟩ :=
            PrefixCode.separated_reads (by decide) stops_comma
            stops_bracket (fun _ => stringify_begins) finite ih finite' same
          exact ⟨congrArg Json.arr equal, rests⟩
      | bool value => cases value <;> cases kind
      | _ => cases kind
  | @obj members finite ih =>
      intro other rest rest' finite' _ _ same
      have kind := kindOf_eq (.obj finite) finite' same
      cases finite' with
      | @obj others finite' =>
          simp only [stringify_obj, List.cons.injEq, true_and] at same
          obtain ⟨equal, rests⟩ :=
            PrefixCode.separated_reads (by decide) stops_comma
            stops_brace (fun member _ => memberText_opens member) finite
            (fun member listed => memberText_reads (ih member listed)) finite'
              same
          exact ⟨congrArg Json.obj equal, rests⟩
      | bool value => cases value <;> cases kind
      | _ => cases kind

end CloudStudio.Payments
