import Stencil.Convert.Json
import Stencil.Convert.Refusal
import Stencil.Numeric.Scientific

/-!
# Serializable data

Data in the terms of a serializer, which knows more shapes than JSON: options,
sequences of bytes, records, variants, maps whose keys are data themselves, and
data that refuses to be written.  Writing it as JSON goes from left to right and
stops at the first part that has no JSON form.  Only texts, truth values and
numbers can be keys; a floating-point key is written with a point or an exponent,
so that it is never the key of an integer.
-/

set_option autoImplicit false

namespace Stencil

open Numeric (Binary Binary32 Binary64 BinaryFormat PositionalSpan)

/-- Data that can be given to a serializer. -/
inductive Serial
  | unit
  | bool (truth : Bool)
  | int (number : Int)
  | single (number : Binary32)
  | double (number : Binary64)
  | char (character : Char)
  | string (text : String)
  | bytes (octets : List UInt8)
  | absent
  | present (content : Serial)
  | sequence (items : List Serial)
  | table (entries : List (Serial × Serial))
  | record (fields : List (String × Serial))
  | plainVariant (name : String)
  | variant (name : String) (content : Serial)
  /-- Data whose serialization fails with a text of its own. -/
  | refusing (reason : String)

/-- Why data could not be written as JSON. -/
inductive SerialError
  /-- An integer has more than 64 bits. -/
  | outOfRange
  /-- The key of a map has no text. -/
  | keyNotText
  /-- The key of a map is a floating-point number that is not finite. -/
  | keyNotFinite
  /-- The data refused. -/
  | refused (refusal : Refusal)
  deriving DecidableEq, Repr

/-- The text of the failure of a serialization. -/
def SerialError.message : SerialError → String
  | .outOfRange => "number out of range"
  | .keyNotText => "key must be a string"
  | .keyNotFinite => "float key must be finite (got NaN or +/-inf)"
  | .refused refusal => refusal.text

namespace Serial

instance : Inhabited Serial := ⟨.unit⟩

/-- Whether an integer fits into 64 bits with or without a sign. -/
def isWritable (number : Int) : Bool :=
  -9223372036854775808 ≤ number && number < 18446744073709551616

/-- The name that a floating-point key of a map is written as. -/
def floatKey {format : BinaryFormat} (span : PositionalSpan) (number : Binary format) :
    Except SerialError String :=
  match number.markedText? span with
  | some text => .ok (String.ofList text)
  | none => .error .keyNotFinite

/-- The name that a key of a map is written as. -/
def key : Serial → Except SerialError String
  | .string text => .ok text
  | .char character => .ok (String.singleton character)
  | .plainVariant name => .ok name
  | .int number => .ok (toString number)
  | .bool truth => .ok (if truth then "true" else "false")
  | .single number => floatKey .single number
  | .double number => floatKey .double number
  | .refusing reason => .error (.refused (.ofText reason))
  | _ => .error .keyNotText

mutual
/-- The JSON form of data. -/
def toJson : Serial → Except SerialError Json
  | .unit => .ok .null
  | .bool truth => .ok (.bool truth)
  | .int number => if isWritable number then .ok (.int number) else .error .outOfRange
  | .single number => .ok (.ofFloat number.widen)
  | .double number => .ok (.ofFloat number)
  | .char character => .ok (.string (String.singleton character))
  | .string text => .ok (.string text)
  | .bytes octets => .ok (.array (octets.map fun octet => .int octet.toNat))
  | .absent => .ok .null
  | .present content => toJson content
  | .sequence items => do return .array (← itemsToJson items)
  | .table entries => do return .ofMembers (← entriesToJson entries)
  | .record fields => do return .ofMembers (← fieldsToJson fields)
  | .plainVariant name => .ok (.string name)
  | .variant name content => do return .ofMembers [(name, ← toJson content)]
  | .refusing reason => .error (.refused (.ofText reason))

/-- The JSON forms of the items of a sequence. -/
def itemsToJson : List Serial → Except SerialError (List Json)
  | [] => .ok []
  | item :: items => do
    let first ← toJson item
    let rest ← itemsToJson items
    return first :: rest

/-- The members that the entries of a map are written as. -/
def entriesToJson : List (Serial × Serial) → Except SerialError (List (String × Json))
  | [] => .ok []
  | (entryKey, content) :: entries => do
    let name ← key entryKey
    let first ← toJson content
    let rest ← entriesToJson entries
    return (name, first) :: rest

/-- The members that the fields of a record are written as. -/
def fieldsToJson : List (String × Serial) → Except SerialError (List (String × Json))
  | [] => .ok []
  | (name, content) :: fields => do
    let first ← toJson content
    let rest ← fieldsToJson fields
    return (name, first) :: rest
end

end Serial

/-- The value of serializable data, by way of its JSON form. -/
def Value.ofSerial (data : Serial) : Except SerialError Value :=
  data.toJson.map .ofJson

end Stencil
