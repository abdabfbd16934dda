import CloudStudio.Platform.Reference

/-!
# The reference scheme

The random characters as draws from the alphabet, the source codes they make,
and what `buildReference` returns: the source code, the client's reference in
upper case, and random characters up to the fixed length.
-/

namespace CloudStudio.Platform

open CloudStudio.Data

def ALPHANUMERIC : List Char := "ABCDEFGHIJKLMNOPQRSTUVWXYZ0123456789".toList

/-- A value of `Math.floor(Math.random() * ALPHANUMERIC.length)`. -/
abbrev Draw := Fin ALPHANUMERIC.length

/-- The characters that the next draws select. -/
def drawn (draws : ℕ → Draw) (count : ℕ) : List Char :=
  (List.range count).map fun index => ALPHANUMERIC.get (draws index)

@[simp] theorem length_drawn (draws : ℕ → Draw) (count : ℕ) :
    (drawn draws count).length = count := by
  simp [drawn]

/-- Every character is one of `A-Z0-9`. -/
def Alphanumeric (chars : List Char) : Prop :=
  ∀ char ∈ chars, Text.isUpperAlphanumeric char = true

instance (chars : List Char) : Decidable (Alphanumeric chars) :=
  decidable_of_iff (chars.all Text.isUpperAlphanumeric = true) List.all_eq_true

theorem Alphanumeric.append {first second : List Char}
    (head : Alphanumeric first) (tail : Alphanumeric second) :
    Alphanumeric (first ++ second) := by
  intro char member
  rcases List.mem_append.mp member with inFirst | inSecond
  · exact head char inFirst
  · exact tail char inSecond

theorem alphanumeric_ALPHANUMERIC : Alphanumeric ALPHANUMERIC := by decide

theorem alphanumeric_drawn (draws : ℕ → Draw) (count : ℕ) :
    Alphanumeric (drawn draws count) := by
  intro char member
  obtain ⟨index, _, rfl⟩ := List.mem_map.mp member
  exact alphanumeric_ALPHANUMERIC _ (List.get_mem _ _)

/-- Five characters of `A-Z0-9`. -/
abbrev SourceCode :=
  { code : String // code.length = SOURCE_CODE_LENGTH ∧
    Alphanumeric code.toList }

/-- A code made of five draws. -/
def drawnCode (draws : ℕ → Draw) : SourceCode :=
  ⟨String.ofList (drawn draws SOURCE_CODE_LENGTH),
    by simp, by simpa using alphanumeric_drawn draws SOURCE_CODE_LENGTH⟩

/-- `generateSourceCode`: the first of 50 codes that does not exist yet. -/
def generateSourceCode (attempts : ℕ → ℕ → Draw) (existing : List String) :
    Except AppError SourceCode :=
  match ((List.range 50).map fun attempt => drawnCode (attempts attempt)).find?
    fun code =>
    code.val ∉ existing with
  | some code => .ok code
  | none => .error (.plain "Unable to generate a unique source code")

/-- A generated code is none of those that exist. -/
theorem generateSourceCode_fresh {attempts : ℕ → ℕ → Draw}
    {existing : List String} {code : SourceCode}
    (generated : generateSourceCode attempts existing = .ok code) :
    code.val ∉ existing := by
  unfold generateSourceCode at generated
  split at generated
  next found isFound =>
    cases generated
    simpa using List.find?_some isFound
  next => cases generated

/-- `String(raw).trim().toUpperCase()`, empty without a reference. -/
def clientText (raw : Option String) : String :=
  (raw.map fun raw => Text.toUpperCase (Text.trim raw)).getD ""

/-- One to 15 characters of `A-Z0-9`. -/
def ClientPart (text : String) : Prop :=
  1 ≤ text.length ∧ text.length ≤ CLIENT_REF_LENGTH ∧ Alphanumeric text.toList

theorem sanitizeClientReference_empty {raw : Option String}
    (empty : clientText raw = "") : sanitizeClientReference raw = .ok none := by
  cases raw with
  | none => rfl
  | some raw =>
      have none : Text.toUpperCase (Text.trim raw) = "" := empty
      simp [sanitizeClientReference, none]

theorem sanitizeClientReference_part {raw : Option String}
    (part : ClientPart (clientText raw)) :
    sanitizeClientReference raw = .ok (some (clientText raw)) := by
  obtain ⟨some, short, alphanumeric⟩ := part
  cases raw with
  | none => exact absurd some (by decide)
  | some raw =>
      change 1 ≤ (Text.toUpperCase (Text.trim raw)).length at some
      simp only [sanitizeClientReference, if_neg (Nat.ne_of_gt some)]
      rw [if_pos ⟨List.all_eq_true.mpr alphanumeric, short⟩]
      rfl

theorem sanitizeClientReference_refused {raw : Option String}
    (given : clientText raw ≠ "") (unusable : ¬ ClientPart (clientText raw)) :
    sanitizeClientReference raw =
      .error (.plain "INVALID_CLIENT_REFERENCE") := by
  cases raw with
  | none => exact absurd rfl given
  | some raw =>
      have some : (Text.toUpperCase (Text.trim raw)).length ≠ 0 :=
        fun zero => given (String.length_eq_zero_iff.mp zero)
      simp only [sanitizeClientReference, if_neg some]
      rw [if_neg]
      rintro ⟨alphanumeric, short⟩
      exact unusable ⟨Nat.pos_of_ne_zero some, short,
        List.all_eq_true.mp alphanumeric⟩

/-- A reference of the scheme: 20 characters of `A-Z0-9`, the first five the
source code and the next ones the client's. -/
structure WellFormedReference (code : SourceCode) (raw : Option String)
    (reference : Reference) : Prop where
  length : reference.length = REFERENCE_LENGTH
  alphanumeric : Alphanumeric reference.toList
  source : reference.toList.take SOURCE_CODE_LENGTH = code.val.toList
  client : (clientText raw).toList <+: reference.toList.drop SOURCE_CODE_LENGTH

/-- The 15 characters after the source code. -/
theorem wellFormedReference_of_padded (code : SourceCode) {raw : Option String}
    {padding : List Char} (alphanumeric : Alphanumeric (clientText raw).toList)
    (random : Alphanumeric padding)
    (length : (clientText raw).length + padding.length = CLIENT_REF_LENGTH) :
    WellFormedReference code raw
      (code.val ++ (clientText raw ++ String.ofList padding)) := by
  obtain ⟨code, five, codeAlphanumeric⟩ := code
  have source : code.toList.length = SOURCE_CODE_LENGTH := by
    rw [String.length_toList, five]
  constructor
  · simp only [String.length_append, String.length_ofList, five, length]
    rfl
  · simp only [String.toList_append, String.toList_ofList]
    exact codeAlphanumeric.append (alphanumeric.append random)
  · simp only [String.toList_append, ← source, List.take_left]
  · simp only [String.toList_append, ← source, List.drop_left]
    exact List.prefix_append _ _

section Built

variable (code : SourceCode) (draws : ℕ → Draw) {raw : Option String}

theorem randomChars_drawn {count total : ℕ} (within : count ≤ total) :
    randomChars (drawn draws total) count =
      String.ofList (drawn draws count) := by
  have taken : (List.range total).take count = List.range count := by
    rw [List.take_range, Nat.min_eq_left within]
  unfold randomChars drawn
  rw [← List.map_take, taken]

/-- What `buildReference` returns once the client's reference is sanitized. -/
theorem buildReference_of_sanitized
    (sanitized : sanitizeClientReference raw = .ok none ∧ clientText raw = "" ∨
      sanitizeClientReference raw = .ok (some (clientText raw)))
    (length : (clientText raw).length ≤ CLIENT_REF_LENGTH) :
    buildReference (drawn draws CLIENT_REF_LENGTH) code.val raw =
      .ok (code.val ++ (clientText raw ++ String.ofList
        (drawn draws (CLIENT_REF_LENGTH - (clientText raw).length)))) := by
  have five : ¬ code.val.length ≠ SOURCE_CODE_LENGTH :=
    not_not.mpr code.property.1
  have whole (padded : String) (fifteen : padded.length = CLIENT_REF_LENGTH) :
      ¬ (code.val ++ padded).length ≠ REFERENCE_LENGTH := by
    rw [String.length_append, code.property.1, fifteen]
    decide
  rcases sanitized with ⟨sanitized, empty⟩ | sanitized
  · simp only [buildReference, if_neg five, sanitized, empty]
    rw [randomChars_drawn draws le_rfl]
    have fifteen : (String.ofList (drawn draws CLIENT_REF_LENGTH)).length =
        CLIENT_REF_LENGTH := by simp
    rw [String.empty_append]
    exact if_neg (whole _ fifteen)
  · simp only [buildReference, if_neg five, sanitized]
    have fifteen : (clientText raw ++ String.ofList
        (drawn draws (CLIENT_REF_LENGTH - (clientText raw).length))).length =
          CLIENT_REF_LENGTH := by
      rw [String.length_append, String.length_ofList, length_drawn]
      omega
    rw [← randomChars_drawn draws
      (Nat.sub_le CLIENT_REF_LENGTH (clientText raw).length)] at fifteen ⊢
    exact if_neg (whole _ fifteen)

theorem buildReference_refused (given : clientText raw ≠ "")
    (unusable : ¬ ClientPart (clientText raw)) :
    buildReference (drawn draws CLIENT_REF_LENGTH) code.val raw =
      .error (.plain "INVALID_CLIENT_REFERENCE") := by
  have five : ¬ code.val.length ≠ SOURCE_CODE_LENGTH :=
    not_not.mpr code.property.1
  simp only [buildReference, if_neg five,
    sanitizeClientReference_refused given unusable]
  rfl

/-- Without a client's reference, or with a usable one, the reference is well
formed. -/
theorem buildReference_accepted
    (usable : clientText raw = "" ∨ ClientPart (clientText raw)) :
    ∃ reference,
      buildReference (drawn draws CLIENT_REF_LENGTH) code.val raw =
        .ok reference ∧ WellFormedReference code raw reference := by
  have sanitized : sanitizeClientReference raw = .ok none ∧
    clientText raw = "" ∨
      sanitizeClientReference raw = .ok (some (clientText raw)) := by
    rcases usable with empty | part
    · exact .inl ⟨sanitizeClientReference_empty empty, empty⟩
    · exact .inr (sanitizeClientReference_part part)
  have short : (clientText raw).length ≤ CLIENT_REF_LENGTH := by
    rcases usable with empty | part
    · rw [empty]
      decide
    · exact part.2.1
  have alphanumeric : Alphanumeric (clientText raw).toList := by
    rcases usable with empty | part
    · rw [empty]
      decide
    · exact part.2.2
  refine ⟨_, buildReference_of_sanitized code draws sanitized short, ?_⟩
  apply wellFormedReference_of_padded code alphanumeric (alphanumeric_drawn _ _)
  rw [length_drawn]
  omega

end Built

/-- The reference scheme.  A reference of the client is refused exactly when it
is not empty and does not fit; otherwise the result is well formed, and no other
account's. -/
theorem buildReference_scheme (code : SourceCode) (draws : ℕ → Draw)
    (raw : Option String) :
    (buildReference (drawn draws CLIENT_REF_LENGTH) code.val raw =
        .error (.plain "INVALID_CLIENT_REFERENCE") ↔
      clientText raw ≠ "" ∧ ¬ ClientPart (clientText raw)) ∧
    (¬ (clientText raw ≠ "" ∧ ¬ ClientPart (clientText raw)) →
      ∃ reference,
        buildReference (drawn draws CLIENT_REF_LENGTH) code.val raw =
          .ok reference ∧ WellFormedReference code raw reference) ∧
    ∀ (other : SourceCode) (draws' : ℕ → Draw) (raw' : Option String) reference,
      other ≠ code →
      buildReference (drawn draws CLIENT_REF_LENGTH) code.val raw =
        .ok reference →
        buildReference (drawn draws' CLIENT_REF_LENGTH) other.val raw' ≠
          .ok reference := by
  have accepted (code : SourceCode) (draws : ℕ → Draw) (raw : Option String)
      (usable : ¬ (clientText raw ≠ "" ∧ ¬ ClientPart (clientText raw))) :=
    buildReference_accepted code draws
      (show clientText raw = "" ∨ ClientPart (clientText raw) by tauto)
  have source (code : SourceCode) (draws : ℕ → Draw) (raw : Option String)
    (reference : Reference)
      (built : buildReference (drawn draws CLIENT_REF_LENGTH) code.val raw =
        .ok reference) :
      reference.toList.take SOURCE_CODE_LENGTH = code.val.toList := by
    by_cases refused : clientText raw ≠ "" ∧ ¬ ClientPart (clientText raw)
    · rw [buildReference_refused code draws refused.1 refused.2] at built
      cases built
    · obtain ⟨_, result, formed⟩ := accepted code draws raw refused
      rw [result] at built
      cases built
      exact formed.source
  refine ⟨⟨?_, ?_⟩, accepted code draws raw, ?_⟩
  · intro refused
    by_contra usable
    obtain ⟨reference, built, _⟩ := accepted code draws raw usable
    rw [built] at refused
    cases refused
  · rintro ⟨given, unusable⟩
    exact buildReference_refused code draws given unusable
  · intro other draws' raw' reference differs built same
    apply differs
    apply Subtype.ext
    apply String.ext
    rw [← source code draws raw reference built, ← source other draws' raw'
      reference same]

end CloudStudio.Platform
