import ContextServer.Json.Writer
import ContextServer.Text.Quoted

/-!
# Faults of decoding

Why a JSON value does not decode as a record, by cause, and the one wording of
each cause (`Fault.message`).
-/

namespace ContextServer

/-- The kind of value that was found where another was expected, with the value
    itself if it is a scalar. -/
inductive Found where
  | null
  | boolean (b : Bool)
  | integer (n : Integer)
  | double (x : Double)
  | string (s : String)
  | sequence
  | map
deriving DecidableEq

namespace Found

/-- The kind of a value. -/
def ofJson : Json → Found
  | .null => .null
  | .bool b => .boolean b
  | .number (.integer n) => .integer n
  | .number (.double x) => .double x
  | .string s => .string s
  | .array _ => .sequence
  | .object _ => .map

/-- The words for what was found. -/
def text : Found → String
  | .null => "null"
  | .boolean b => "boolean `" ++ (if b then "true" else "false") ++ "`"
  | .integer n => "integer `" ++ String.ofList (Json.writeInt n.val) ++ "`"
  | .double x => "floating point `" ++ String.ofList x.text ++ "`"
  | .string s => "string " ++ Text.quoted s
  | .sequence => "sequence"
  | .map => "map"

end Found

/-- Why a value does not decode. -/
inductive Fault where
  /-- A value of another kind was expected. -/
  | wrongType (found : Found) (expected : String)
  /-- An integer out of the range of its type. -/
  | outOfRange (n : Integer) (expected : String)
  /-- An object that should name one variant has not one member. -/
  | notSingle
  /-- A field has neither a member nor a default. -/
  | missing (field : String)
  /-- A name that none of the variants has. -/
  | unknownVariant (name : String) (known : List String)
  /-- A list of fields ends before the required field at this place. -/
  | tooShort (place : Nat) (record : String) (fields : Nat)
  /-- A list of fields goes on after the last field. -/
  | tooLong (length : Nat)
  /-- The same, in a value that was taken apart before its type was known. -/
  | surplus (length fields : Nat)
  /-- None of the alternatives of a union decodes. -/
  | noVariant (union : String)
deriving DecidableEq

namespace Fault

/-- A number of things of a kind. -/
def counted (n : Nat) (noun : String) : String :=
  if n = 1 then "1 " ++ noun else toString n ++ " " ++ noun ++ "s"

/-- A name between backticks. -/
def ticked (name : String) : String := "`" ++ name ++ "`"

/-- The variants that a name could have been one of. -/
def oneOf : List String → String
  | [] => "there are no variants"
  | [a] => "expected " ++ ticked a
  | [a, b] => "expected " ++ ticked a ++ " or " ++ ticked b
  | names => "expected one of " ++ ", ".intercalate (names.map ticked)

/-- The wording of a fault. -/
def message : Fault → String
  | .wrongType found expected =>
    "invalid type: " ++ found.text ++ ", expected " ++ expected
  | .outOfRange n expected =>
    "invalid value: " ++ (Found.integer n).text ++ ", expected " ++ expected
  | .notSingle => "invalid value: map, expected map with a single key"
  | .missing field => "missing field " ++ ticked field
  | .unknownVariant name known => "unknown variant " ++ ticked name ++ ", " ++ oneOf known
  | .tooShort place record fields =>
    "invalid length " ++ toString place ++ ", expected struct " ++ record ++ " with " ++
      counted fields "element"
  | .tooLong length =>
    "invalid length " ++ toString length ++ ", expected fewer elements in array"
  | .surplus length fields =>
    "invalid length " ++ toString length ++ ", expected " ++ counted fields "element" ++
      " in sequence"
  | .noVariant union => "data did not match any variant of untagged enum " ++ union

end Fault

end ContextServer
