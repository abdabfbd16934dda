import Mathlib.Algebra.Group.Nat.Defs
import Mathlib.Data.List.Lex
import Mathlib.Data.List.Sort
import CloudStudio.Data.Json

/-!
# The payload checksum

`common/utils/checksum.util.ts` and `verifyClickPesaWebhook`.  HMAC is an
arbitrary function of key and text.
-/

namespace CloudStudio.Payments

open CloudStudio.Data

/-- The UTF-16 code units of a text, by which `sort()` compares. -/
def utf16 (text : String) : List ℕ :=
  text.toList.flatMap fun char =>
    if char.toNat < 0x10000 then [char.toNat]
    else
      let offset := char.toNat - 0x10000
      [0xD800 + offset / 0x400, 0xDC00 + offset % 0x400]

/-- The number a key is when it is an array index. -/
def arrayIndex? (key : String) : Option ℕ :=
  match key.toNat? with
  | some index => if toString index = key ∧
      index < 2 ^ 32 - 1 then some index else none
  | none => none

/-- The order in which an object lists its members: array indices first,
ascending, then the other keys as they were assigned. -/
def ownOrder (members : List (String × Json)) : List (String × Json) :=
  (members.filter fun member => (arrayIndex? member.1).isSome).insertionSort
      (fun left right => (arrayIndex? left.1).getD 0 ≤
        (arrayIndex? right.1).getD 0) ++
    members.filter fun member => (arrayIndex? member.1).isNone

/-- The keys `canonicalize` leaves out: the two it names, and `__proto__`, which
an assignment does not make a member. -/
def isLeftOut (key : String) : Bool :=
  key ∈ ["checksum", "checksumMethod", "__proto__"]

mutual
def canonicalize : Json → Json
  | .arr items => .arr (canonicalizeItems items)
  | .obj members =>
      .obj (ownOrder ((canonicalizeMembers members).insertionSort
        fun left right => utf16 left.1 ≤ utf16 right.1))
  | .null => .null
  | .bool value => .bool value
  | .num text => .num text
  | .str text => .str text

def canonicalizeItems : List Json → List Json
  | [] => []
  | item :: rest => canonicalize item :: canonicalizeItems rest

def canonicalizeMembers : List (String × Json) → List (String × Json)
  | [] => []
  | (key, value) :: rest =>
      if isLeftOut key then canonicalizeMembers rest
      else (key, canonicalize value) :: canonicalizeMembers rest
end

def hexDigit (value : ℕ) : Char := (Nat.toDigits 16 value).getLastD '0'

/-- One character of a quoted text. -/
def escapeChar (char : Char) : List Char :=
  match char with
  | '"' => ['\\', '"']
  | '\\' => ['\\', '\\']
  | '\n' => ['\\', 'n']
  | '\r' => ['\\', 'r']
  | '\t' => ['\\', 't']
  | other =>
      if other.toNat = 8 then ['\\', 'b']
      else if other.toNat = 12 then ['\\', 'f']
      else if other.toNat < 32 then
        ['\\', 'u', '0', '0', hexDigit (other.toNat / 16),
          hexDigit (other.toNat % 16)]
      else [other]

def quote (text : String) : String :=
  String.ofList (['"'] ++ text.toList.flatMap escapeChar ++ ['"'])

mutual
def stringify : Json → String
  | .null => "null"
  | .bool true => "true"
  | .bool false => "false"
  | .num text => if Json.isInfinite text then "null" else text
  | .str text => quote text
  | .arr items => "[" ++ String.intercalate "," (stringifyItems items) ++ "]"
  | .obj members =>
      "\x7b" ++ String.intercalate "," (stringifyMembers members) ++ "\x7d"

def stringifyItems : List Json → List String
  | [] => []
  | item :: rest => stringify item :: stringifyItems rest

def stringifyMembers : List (String × Json) → List String
  | [] => []
  | (key, value) :: rest => (quote key ++ ":" ++ stringify value) ::
      stringifyMembers rest
end

/-- HMAC-SHA256 in hex, as a function of key and text. -/
abbrev Hmac := String → String → String

def createPayloadChecksum (hmac : Hmac) (checksumKey : String)
    (payload : Json) : String :=
  hmac checksumKey (stringify (canonicalize payload))

/-- SHA-256 yields 32 bytes. -/
abbrev Digest := { bytes : List (Fin 256) // bytes.length = 32 }

/-- `digest('hex')`. -/
def inHex (hash : String → String → Digest) : Hmac := fun key text =>
  String.ofList ((hash key text).val.flatMap fun byte =>
    [hexDigit (byte / 16), hexDigit (byte % 16)])

/-- `{ ...members, [key]: value }`. -/
def withMember (key : String) (value : Json) (members : List (String × Json)) :
    List (String × Json) :=
  if members.any fun member => member.1 == key then
    members.map fun member => if member.1 = key then (key, value) else member
  else members ++ [(key, value)]

/-- `ClickPesaClient.sign`, with signing enabled and a key. -/
def sign (hmac : Hmac) (checksumKey : String) (members : List (String × Json)) :
    List (String × Json) :=
  withMember "checksum"
    (.str (createPayloadChecksum hmac checksumKey (.obj members))) members

/-- `value.length`, where it is a number. -/
def length? : Json → Option ℕ
  | .str text => some (utf16 text).length
  | .arr items => some items.length
  | .obj members =>
      match (Json.obj members).get? "length" with
      | some (.num text) => text.toNat?
      | _ => none
  | _ => none

/-- The differences of two texts in all places, one upon another. -/
def difference (expected provided : List ℕ) : ℕ :=
  (expected.zip provided).foldl
    (fun diff units => diff ||| (units.1 ^^^ units.2)) 0

/-- Recomputes the checksum of a payload and compares it in constant time.  Only
a text has the character codes that the comparison asks for. -/
def verifyPayloadChecksum (hmac : Hmac) (checksumKey : String)
    (payload : Json) : Except String Bool :=
  match payload.get? "checksum" with
  | none => .ok false
  | some provided =>
      if provided.truthy then
        let expected := utf16 (createPayloadChecksum hmac checksumKey payload)
        if length? provided ≠ some expected.length then .ok false
        else
          match provided with
          | .str text => .ok (difference expected (utf16 text) = 0)
          | _ =>
              if expected = [] then .ok true
              else .error "provided.charCodeAt is not a function"
      else .ok false

/-- Verifies an incoming webhook by recomputing the checksum.  Without a
configured key, or without a `checksum` in the payload, verification is
skipped. -/
def verifyClickPesaWebhook (hmac : Hmac) (checksumKey : Option String)
    (payload : Json) : Bool :=
  match checksumKey with
  | none => true
  | some key =>
      if key = "" then true
      else
        match payload.get? "checksum" with
        | none => true
        | some provided =>
            if provided.truthy then
              provided.toText == createPayloadChecksum hmac key payload
            else true

end CloudStudio.Payments
