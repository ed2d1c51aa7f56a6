import OffloadFabric.BigEndian

/-!
Deterministic JSON. Objects keep their keys in byte order, a key is set at most
once, numbers are integers, and the rendering has no spaces and only printable
ASCII.
-/
namespace OffloadFabric

/-- The bytes of an ASCII text. -/
def ascii (text : String) : Bytes := text.toList.map fun c => UInt8.ofNat c.toNat

inductive JsonValue where
  | null
  | bool (value : Bool)
  | unsigned (value : UInt64)
  | signed (value : Int64)
  | text (value : Bytes)
  | array (elements : List JsonValue)
  | object (members : List (Bytes × JsonValue))
  deriving Inhabited

namespace JsonValue

/-- Byte order of keys. -/
def keyLt : Bytes → Bytes → Bool
  | [], [] => false
  | [], _ :: _ => true
  | _ :: _, [] => false
  | a :: as, b :: bs => if a == b then keyLt as bs else a.toNat < b.toNat

/-- Insertion into the members; a key already present is refused. -/
def setMember (key : Bytes) (value : JsonValue) :
    List (Bytes × JsonValue) → List (Bytes × JsonValue)
  | [] => [(key, value)]
  | (k, v) :: rest =>
    if keyLt key k then (key, value) :: (k, v) :: rest
    else if key == k then (k, v) :: rest
    else (k, v) :: setMember key value rest

/-- Set a member; a value that is not an object becomes an empty one first. -/
def set (json : JsonValue) (key : String) (value : JsonValue) : JsonValue :=
  match json with
  | object members => object (setMember (ascii key) value members)
  | _ => object (setMember (ascii key) value [])

def push (json : JsonValue) (value : JsonValue) : JsonValue :=
  match json with
  | array elements => array (elements ++ [value])
  | _ => array [value]

/-- Digits of `n` in base ten, most significant first. -/
def decimalDigits (n : Nat) : Bytes := (Nat.toDigits 10 n).map fun c => UInt8.ofNat c.toNat

def toDecimal (value : UInt64) : Bytes := decimalDigits value.toNat

def hexDigit (nibble : UInt8) : UInt8 := if nibble < 10 then 48 + nibble else 87 + nibble

def escapeByte (c : UInt8) : Bytes :=
  if c == 34 then [92, 34]
  else if c == 92 then [92, 92]
  else if c == 10 then [92, 110]
  else if c == 13 then [92, 114]
  else if c == 9 then [92, 116]
  else if c < 0x20 || 0x7F ≤ c then
    [92, 117, 48, 48, hexDigit ((c >>> 4) &&& 0x0F), hexDigit (c &&& 0x0F)]
  else [c]

def escaped (value : Bytes) : Bytes := [34] ++ value.flatMap escapeByte ++ [34]

mutual

/-- Compact rendering. -/
def dump : JsonValue → Bytes
  | null => ascii "null"
  | bool value => if value then ascii "true" else ascii "false"
  | unsigned value => toDecimal value
  | signed value =>
    if value < 0 then 45 :: decimalDigits value.toInt.natAbs else decimalDigits value.toInt.natAbs
  | text value => escaped value
  | array elements => [91] ++ dumpElements elements ++ [93]
  | object members => [123] ++ dumpMembers members ++ [125]

def dumpElements : List JsonValue → Bytes
  | [] => []
  | [element] => dump element
  | element :: rest => dump element ++ [44] ++ dumpElements rest

def dumpMembers : List (Bytes × JsonValue) → Bytes
  | [] => []
  | [(key, value)] => escaped key ++ [58] ++ dump value
  | (key, value) :: rest => escaped key ++ [58] ++ dump value ++ [44] ++ dumpMembers rest

end

end JsonValue

end OffloadFabric
