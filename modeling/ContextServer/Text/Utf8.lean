/-!
# UTF-8

Bytes as text. Bytes that are not UTF-8 have a first fault, which is told by its
place and by the number of bytes that belong to it (`Utf8.fault?`): those that
could still start a character, and at least one. A text that ends inside a
character has a fault of no length, as more bytes might mend it.
-/

namespace ContextServer

/-- Where bytes stop being UTF-8. -/
structure Utf8Fault where
  /-- The number of bytes before the fault. -/
  index : Nat
  /-- The number of bytes at fault; none if the text ends too early. -/
  length : Option Nat
deriving DecidableEq

/-- The wording of a fault. -/
def Utf8Fault.message (f : Utf8Fault) : String :=
  match f.length with
  | some n =>
    "invalid utf-8 sequence of " ++ n.repr ++ " bytes from index " ++ f.index.repr
  | none => "incomplete utf-8 byte sequence from index " ++ f.index.repr

namespace Utf8

/-- A byte that continues a character. -/
def continues (b : UInt8) : Bool := 0x80 ≤ b && b < 0xC0

/-- `b` can come second in a character that `a` starts: no character has a longer
    form than it needs, is a surrogate, or lies beyond the last code point. -/
def isSecond (a b : UInt8) : Bool :=
  if a = 0xE0 then 0xA0 ≤ b && b < 0xC0
  else if a = 0xED then 0x80 ≤ b && b < 0xA0
  else if a = 0xF0 then 0x90 ≤ b && b < 0xC0
  else if a = 0xF4 then 0x80 ≤ b && b < 0x90
  else continues b

/-- The first fault of bytes that come after `index` others. -/
def fault? (index : Nat) : List UInt8 → Option Utf8Fault
  | [] => none
  | a :: rest =>
    if a < 0x80 then fault? (index + 1) rest
    else if a < 0xC2 || 0xF4 < a then some ⟨index, some 1⟩
    else
      match rest with
      | [] => some ⟨index, none⟩
      | b :: rest =>
        if !isSecond a b then some ⟨index, some 1⟩
        else if a < 0xE0 then fault? (index + 2) rest
        else
          match rest with
          | [] => some ⟨index, none⟩
          | c :: rest =>
            if !continues c then some ⟨index, some 2⟩
            else if a < 0xF0 then fault? (index + 3) rest
            else
              match rest with
              | [] => some ⟨index, none⟩
              | d :: rest =>
                if !continues d then some ⟨index, some 3⟩ else fault? (index + 4) rest

/-- The text of bytes, or the first fault in them. -/
def decode (bytes : ByteArray) : Except Utf8Fault String :=
  match String.fromUTF8? bytes with
  | some text => .ok text
  | none => .error ((fault? 0 bytes.toList).getD ⟨bytes.size, none⟩)

example : fault? 0 [0x61, 0xE2, 0x82] = some ⟨1, none⟩ := by decide +kernel

example : fault? 0 [0x61, 0xE2, 0x28, 0xA1] = some ⟨1, some 1⟩ := by decide +kernel

end Utf8

end ContextServer
