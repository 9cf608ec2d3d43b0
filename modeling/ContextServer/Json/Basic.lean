import ContextServer.Dict
import ContextServer.Number.Double

/-!
# JSON values

The values of the JSON data model, with two kinds of number: integers of 64
bits, signed or not, and binary doubles. The members of an object are a list of
entries; a value whose objects all keep their keys in strictly increasing order
is *canonical* (`Json.Canonical`). What the reader returns is canonical, and
canonical values are equal as soon as they have the same members.
-/

namespace ContextServer

/-- An integer that fits a signed or an unsigned word of 64 bits. -/
structure Integer where
  /-- The integer. -/
  val : Int
  /-- The range of both kinds of word together. -/
  inRange : -9223372036854775808 ≤ val ∧ val < 18446744073709551616
deriving DecidableEq

namespace Integer

/-- The integer, if it is in range. -/
def ofInt? (n : Int) : Option Integer :=
  if h : -9223372036854775808 ≤ n ∧ n < 18446744073709551616 then some ⟨n, h⟩ else none

/-- A signed word of 64 bits. -/
def ofInt64 (n : Int64) : Integer :=
  ⟨n.toInt, by have := n.le_toInt; have := n.toInt_lt; omega⟩

/-- A signed word of 32 bits. -/
def ofInt32 (n : Int32) : Integer :=
  ⟨n.toInt, by have := n.le_toInt; have := n.toInt_lt; omega⟩

/-- An unsigned word of 32 bits. -/
def ofUInt32 (n : UInt32) : Integer :=
  ⟨n.toNat, by have := n.toNat_lt; omega⟩

/-- The signed word of 64 bits, if the integer fits one. -/
def toInt64? (n : Integer) : Option Int64 :=
  if n.val < 9223372036854775808 then some (Int64.ofInt n.val) else none

end Integer

/-- A JSON number. -/
inductive Number where
  /-- A literal without fraction and exponent, in the range of 64 bits. -/
  | integer (n : Integer)
  /-- Any other literal. -/
  | double (x : Double)
deriving DecidableEq

/-- A JSON value. -/
inductive Json where
  | null
  | bool (b : Bool)
  | number (n : Number)
  | string (s : String)
  | array (items : List Json)
  | object (members : List (String × Json))
deriving Inhabited

namespace Json

/-! ## Equality -/

mutual

/-- Equality of values is decidable. -/
def decEq : (a b : Json) → Decidable (a = b)
  | .null, .null => isTrue rfl
  | .bool a, .bool b =>
    if h : a = b then isTrue (h ▸ rfl) else isFalse fun e => h (bool.inj e)
  | .number a, .number b =>
    if h : a = b then isTrue (h ▸ rfl) else isFalse fun e => h (number.inj e)
  | .string a, .string b =>
    if h : a = b then isTrue (h ▸ rfl) else isFalse fun e => h (string.inj e)
  | .array as, .array bs =>
    match decEqItems as bs with
    | isTrue h => isTrue (h ▸ rfl)
    | isFalse h => isFalse fun e => h (array.inj e)
  | .object as, .object bs =>
    match decEqMembers as bs with
    | isTrue h => isTrue (h ▸ rfl)
    | isFalse h => isFalse fun e => h (object.inj e)
  | .null, .bool _ | .null, .number _ | .null, .string _ | .null, .array _
  | .null, .object _ | .bool _, .null | .bool _, .number _ | .bool _, .string _
  | .bool _, .array _ | .bool _, .object _ | .number _, .null | .number _, .bool _
  | .number _, .string _ | .number _, .array _ | .number _, .object _
  | .string _, .null | .string _, .bool _ | .string _, .number _ | .string _, .array _
  | .string _, .object _ | .array _, .null | .array _, .bool _ | .array _, .number _
  | .array _, .string _ | .array _, .object _ | .object _, .null | .object _, .bool _
  | .object _, .number _ | .object _, .string _ | .object _, .array _ =>
    isFalse (by simp)

/-- Equality of items, one by one. -/
def decEqItems : (as bs : List Json) → Decidable (as = bs)
  | [], [] => isTrue rfl
  | [], _ :: _ | _ :: _, [] => isFalse (by simp)
  | a :: as, b :: bs =>
    match decEq a b with
    | isFalse h => isFalse fun e => h (List.cons.inj e).1
    | isTrue h =>
      match decEqItems as bs with
      | isFalse h' => isFalse fun e => h' (List.cons.inj e).2
      | isTrue h' => isTrue (h ▸ h' ▸ rfl)

/-- Equality of members, one by one. -/
def decEqMembers : (as bs : List (String × Json)) → Decidable (as = bs)
  | [], [] => isTrue rfl
  | [], _ :: _ | _ :: _, [] => isFalse (by simp)
  | (k, a) :: as, (l, b) :: bs =>
    if hk : k = l then
      match decEq a b with
      | isFalse h => isFalse fun e => h (Prod.mk.inj (List.cons.inj e).1).2
      | isTrue h =>
        match decEqMembers as bs with
        | isFalse h' => isFalse fun e => h' (List.cons.inj e).2
        | isTrue h' => isTrue (hk ▸ h ▸ h' ▸ rfl)
    else isFalse fun e => hk (Prod.mk.inj (List.cons.inj e).1).1

end

instance : DecidableEq Json := decEq

/-! ## Access -/

/-- The member of that name, of an object. -/
def member? (name : String) : Json → Option Json
  | .object ms => Entries.lookup name ms
  | _ => none

/-- The text, of a string. -/
def asString? : Json → Option String
  | .string s => some s
  | _ => none

/-- The word, of an integer that fits a signed word of 64 bits. -/
def asInt64? : Json → Option Int64
  | .number (.integer n) => n.toInt64?
  | _ => none

/-- The object of the given members in the order of their names; of two with
    one name the later counts. -/
def ofMembers (ms : List (String × Json)) : Json := .object (Entries.sort ms)

/-! ## Shape -/

mutual

/-- How many arrays and objects lie inside one another at most. -/
def depth : Json → Nat
  | .array items => itemsDepth items + 1
  | .object ms => membersDepth ms + 1
  | _ => 0

/-- The depth of the deepest item. -/
def itemsDepth : List Json → Nat
  | [] => 0
  | x :: xs => max (depth x) (itemsDepth xs)

/-- The depth of the deepest member. -/
def membersDepth : List (String × Json) → Nat
  | [] => 0
  | (_, v) :: ms => max (depth v) (membersDepth ms)

end

mutual

/-- Every object inside the value keeps its names in strictly increasing order. -/
def Canonical : Json → Prop
  | .array items => ItemsCanonical items
  | .object ms => Entries.Ascending ms ∧ MembersCanonical ms
  | _ => True

/-- Every item is canonical. -/
def ItemsCanonical : List Json → Prop
  | [] => True
  | x :: xs => Canonical x ∧ ItemsCanonical xs

/-- The value of every member is canonical. -/
def MembersCanonical : List (String × Json) → Prop
  | [] => True
  | (_, v) :: ms => Canonical v ∧ MembersCanonical ms

end

end Json

end ContextServer
