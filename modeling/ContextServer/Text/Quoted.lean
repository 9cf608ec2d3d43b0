import ContextServer.Text.Printable

/-!
# Quoted text

The form in which an error message quotes a string: between quotes, with a
backslash before a quote or a backslash, and with characters that are not
printable spelled out, the commoner ones by a letter and the others by their code
point.
-/

namespace ContextServer

namespace Text

/-- A character by its code point. -/
def codePoint (c : Char) : List Char := ['\\', 'u', '{'] ++ Nat.toDigits 16 c.toNat ++ ['}']

/-- A character as it stands inside quoted text. -/
def quotedChar (c : Char) : List Char :=
  if c = '"' then ['\\', '"']
  else if c = '\\' then ['\\', '\\']
  else if c = '\n' then ['\\', 'n']
  else if c = '\r' then ['\\', 'r']
  else if c = '\t' then ['\\', 't']
  else if c.toNat = 0 then ['\\', '0']
  else if isPrintable c then [c]
  else codePoint c

/-- The quoted form of a string. -/
def quoted (s : String) : String :=
  String.ofList ('"' :: (s.toList.flatMap quotedChar ++ ['"']))

end Text

end ContextServer
