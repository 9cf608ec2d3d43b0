/-!
# Framing of lines

A message takes one line of its channel, so a line break inside its text is
replaced by a backslash and an `n`. The replacement is made in three passes, for
the pair CR LF, for LF and for CR, each a replacement of all the occurrences of
a pattern from left to right (`Text.replaceAll`). `Text.escapeBreaksOnce` does
the same in one pass with a look ahead.

`Text.trim` takes the white space off both ends of a line.
-/

namespace ContextServer

namespace Text

/-- The text with every occurrence of `pattern` replaced, the leftmost first;
    `skip` characters of the last occurrence are still to be passed over. -/
def replaceFrom (pattern by_ : List Char) : (skip : Nat) → List Char → List Char
  | _, [] => []
  | skip + 1, _ :: cs => replaceFrom pattern by_ skip cs
  | 0, c :: cs =>
    if pattern.isPrefixOf (c :: cs) then by_ ++ replaceFrom pattern by_ (pattern.length - 1) cs
    else c :: replaceFrom pattern by_ 0 cs

/-- The text with every occurrence of a nonempty pattern replaced. -/
def replaceAll (pattern by_ : List Char) (cs : List Char) : List Char :=
  replaceFrom pattern by_ 0 cs

/-- What stands for a line break. -/
def breakMark : List Char := ['\\', 'n']

/-- The text with its line breaks replaced, in three passes. -/
def escapeBreaks (cs : List Char) : List Char :=
  replaceAll ['\r'] breakMark (replaceAll ['\n'] breakMark (replaceAll ['\r', '\n'] breakMark cs))

/-- The text with its line breaks replaced, in one pass. -/
def escapeBreaksOnce : List Char → List Char
  | [] => []
  | '\r' :: '\n' :: cs => breakMark ++ escapeBreaksOnce cs
  | c :: cs =>
    if c = '\n' ∨ c = '\r' then breakMark ++ escapeBreaksOnce cs else c :: escapeBreaksOnce cs

/-- The text with its line breaks replaced. -/
def escapeNewlines (s : String) : String := String.ofList (escapeBreaks s.toList)

/-- A character with the property White_Space. -/
def isWhiteSpace (c : Char) : Bool :=
  let n := c.toNat
  (9 ≤ n && n ≤ 13) || n == 0x20 || n == 0x85 || n == 0xa0 || n == 0x1680 ||
    (0x2000 ≤ n && n ≤ 0x200a) || n == 0x2028 || n == 0x2029 || n == 0x202f || n == 0x205f ||
    n == 0x3000

/-- The characters without the white space at both ends. -/
def trimChars (cs : List Char) : List Char :=
  ((cs.dropWhile isWhiteSpace).reverse.dropWhile isWhiteSpace).reverse

/-- The text without the white space at both ends. -/
def trim (s : String) : String := String.ofList (trimChars s.toList)

end Text

end ContextServer
