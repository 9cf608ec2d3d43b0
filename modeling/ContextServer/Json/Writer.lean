import ContextServer.Json.Basic
import ContextServer.Number.Shortest

/-!
# Compact JSON text

The text of a value with no blanks. Of the characters of a string only the
quote, the backslash and the control characters below the blank are escaped;
everything else, a line separator or a character beyond ASCII too, stands for
itself. A written text therefore never holds a line break
(`Json.escaped_ne_newline`).
-/

namespace ContextServer

namespace Json

/-- The lower-case hexadecimal digit of a number below sixteen. -/
def hexDigit (n : Nat) : Char :=
  if n < 10 then Char.ofNat (n + 48) else Char.ofNat (n + 87)

/-- A character as it stands between the quotes of a string. -/
def escape (c : Char) : List Char :=
  if c = '"' then ['\\', '"']
  else if c = '\\' then ['\\', '\\']
  else if c = '\n' then ['\\', 'n']
  else if c = '\r' then ['\\', 'r']
  else if c = '\t' then ['\\', 't']
  else if c = '\x08' then ['\\', 'b']
  else if c = '\x0c' then ['\\', 'f']
  else if c.toNat < 32 then
    ['\\', 'u', '0', '0', hexDigit (c.toNat / 16), hexDigit (c.toNat % 16)]
  else [c]

/-- A string between its quotes. -/
def writeString (s : String) : List Char :=
  '"' :: (s.toList.flatMap escape ++ ['"'])

/-- An integer in decimal. -/
def writeInt (n : Int) : List Char :=
  if n < 0 then '-' :: Decimal.digitsOf n.natAbs else Decimal.digitsOf n.natAbs

/-- A number; a double always has a point or an exponent. -/
def writeNumber : Number → List Char
  | .integer n => writeInt n.val
  | .double x => x.text

mutual

/-- The compact text of a value; members stand in the order they are kept in. -/
def write : Json → List Char
  | .null => ['n', 'u', 'l', 'l']
  | .bool true => ['t', 'r', 'u', 'e']
  | .bool false => ['f', 'a', 'l', 's', 'e']
  | .number n => writeNumber n
  | .string s => writeString s
  | .array [] => ['[', ']']
  | .array (x :: xs) => '[' :: (write x ++ writeItems xs)
  | .object [] => ['{', '}']
  | .object ((k, v) :: ms) => '{' :: (writeString k ++ ':' :: (write v ++ writeMembers ms))

/-- The items after the first one, and the end of the array. -/
def writeItems : List Json → List Char
  | [] => [']']
  | x :: xs => ',' :: (write x ++ writeItems xs)

/-- The members after the first one, and the end of the object. -/
def writeMembers : List (String × Json) → List Char
  | [] => ['}']
  | (k, v) :: ms => ',' :: (writeString k ++ ':' :: (write v ++ writeMembers ms))

end

/-- The compact text of a value. -/
def compact (j : Json) : String := String.ofList j.write

/-- No escaped character holds a line break. -/
theorem escaped_ne_newline {c d : Char} (h : d ∈ escape c) : d ≠ '\n' ∧ d ≠ '\r' := by
  have pair {e : Char} (he : e ≠ '\n' ∧ e ≠ '\r') (h : d ∈ ['\\', e]) :
      d ≠ '\n' ∧ d ≠ '\r' := by
    simp only [List.mem_cons, List.not_mem_nil, or_false] at h
    rcases h with rfl | rfl
    · decide
    · exact he
  rw [escape] at h
  iterate 7
    split at h
    · exact pair (by decide) h
  split at h
  · have hex (n : Nat) (hn : n < 16) : hexDigit n ≠ '\n' ∧ hexDigit n ≠ '\r' := by
      revert n; decide
    have h₁ := hex (c.toNat / 16) (by omega)
    have h₂ := hex (c.toNat % 16) (by omega)
    simp only [List.mem_cons, List.not_mem_nil, or_false] at h
    rcases h with rfl | rfl | rfl | rfl | rfl | rfl
    iterate 4
      · decide
    · exact h₁
    · exact h₂
  · simp_all

end Json

end ContextServer
