import ContextServer.Json.Basic

/-!
# Reading JSON text

The reader takes the grammar of RFC 8259 as it stands: four blanks, no mark at
the start, no text after the value, no raw control character in a string and no
lone surrogate. Beyond the grammar it refuses a number that overflows a double,
and more than `maxDepth` arrays and objects inside one another. Of two members
with one name the later counts.

The reader works on what is left of the text. Each call spends one unit of a
supply that is twice the length of the text, which no text can use up.
-/

namespace ContextServer

namespace Json

/-- The greatest number of arrays and objects inside one another. -/
def maxDepth : Nat := 127

/-- A blank between tokens. -/
def isBlank (c : Char) : Bool := c == ' ' || c == '\n' || c == '\t' || c == '\r'

/-- The text after leading blanks. -/
def skipBlanks (cs : List Char) : List Char := cs.dropWhile isBlank

/-! ## Strings -/

/-- The value of a hexadecimal digit of either case. -/
def hexValue? (c : Char) : Option Nat :=
  if '0' ≤ c ∧ c ≤ '9' then some (c.toNat - 48)
  else if 'a' ≤ c ∧ c ≤ 'f' then some (c.toNat - 87)
  else if 'A' ≤ c ∧ c ≤ 'F' then some (c.toNat - 55)
  else none

/-- The value of four hexadecimal digits. -/
def hexValues? (a b c d : Char) : Option Nat := do
  some ((((← hexValue? a) * 16 + (← hexValue? b)) * 16 + (← hexValue? c)) * 16 + (← hexValue? d))

/-- The character that a backslash and this one stand for. -/
def unescape? (c : Char) : Option Char :=
  if c = '"' then some '"'
  else if c = '\\' then some '\\'
  else if c = '/' then some '/'
  else if c = 'b' then some '\x08'
  else if c = 'f' then some '\x0c'
  else if c = 'n' then some '\n'
  else if c = 'r' then some '\r'
  else if c = 't' then some '\t'
  else none

/-- The unit opens a pair of surrogates. -/
def isHighSurrogate (n : Nat) : Bool := 0xd800 ≤ n && n < 0xdc00

/-- The unit closes a pair of surrogates. -/
def isLowSurrogate (n : Nat) : Bool := 0xdc00 ≤ n && n < 0xe000

/-- The characters up to the closing quote, and the text after it. -/
def readString : List Char → Option (List Char × List Char)
  | [] => none
  | '\\' :: 'u' :: a :: b :: c :: d :: rest =>
    match hexValues? a b c d with
    | none => none
    | some n =>
      if isHighSurrogate n then
        match rest with
        | '\\' :: 'u' :: a' :: b' :: c' :: d' :: rest' =>
          match hexValues? a' b' c' d' with
          | none => none
          | some m =>
            if isLowSurrogate m then
              (readString rest').map fun (s, r) =>
                (Char.ofNat (0x10000 + (n - 0xd800) * 0x400 + (m - 0xdc00)) :: s, r)
            else none
        | _ => none
      else if isLowSurrogate n then none
      else (readString rest).map fun (s, r) => (Char.ofNat n :: s, r)
  | '\\' :: c :: rest =>
    match unescape? c with
    | none => none
    | some c' => (readString rest).map fun (s, r) => (c' :: s, r)
  | c :: rest =>
    if c = '"' then some ([], rest)
    else if c = '\\' ∨ c.toNat < 32 then none
    else (readString rest).map fun (s, r) => (c :: s, r)

/-! ## Numbers -/

/-- The number that the digits go on to spell after `n`, as far as it fits an
    unsigned word of 64 bits, and how many digits are left over. -/
def accumulate (n : Nat) : List Char → Nat × Nat
  | [] => (n, 0)
  | c :: cs =>
    let n' := n * 10 + (c.toNat - 48)
    if n' < 18446744073709551616 then accumulate n' cs else (n, cs.length + 1)

/-- The value of a literal of the given sign, whole digits, digits after the
    point and exponent.

    Without point and exponent it is an integer if it fits one, but `-0` is a
    double. Otherwise digits that no longer fit the significand are dropped; a
    dropped whole digit raises the exponent. -/
def numberOf? (negative : Bool) (whole : List Char) (fraction : Option (List Char))
    (exponent : Option Int) : Option Number :=
  let (n, dropped) := accumulate 0 whole
  match fraction, exponent with
  | none, none =>
    let literal : Int := if negative then -n else n
    match (if dropped = 0 ∧ ¬(negative ∧ n = 0) then Integer.ofInt? literal else none) with
    | some i => some (.integer i)
    | none => (Double.ofDecimal? negative n dropped).map .double
  | _, _ =>
    let digits := fraction.getD []
    let (m, dropped') := accumulate n digits
    let scale : Int := (dropped : Int) - ((digits.length - dropped' : Nat) : Int)
    (Double.ofDecimal? negative m (scale + exponent.getD 0)).map .double

/-- The digits at the start of a text, at least one, and what follows them. -/
def readDigits (cs : List Char) : Option (List Char × List Char) :=
  match cs.takeWhile Char.isDigit with
  | [] => none
  | ds => some (ds, cs.dropWhile Char.isDigit)

/-- The digits after a point, if there is a point. -/
def readFraction : List Char → Option (Option (List Char) × List Char)
  | '.' :: rest => (readDigits rest).map fun (ds, r) => (some ds, r)
  | cs => some (none, cs)

/-- The natural number that the digits spell. -/
def digitsValue (ds : List Char) : Nat := ds.foldl (fun n c => n * 10 + (c.toNat - 48)) 0

/-- The exponent, if there is one. -/
def readExponent : List Char → Option (Option Int × List Char)
  | c :: rest =>
    if c = 'e' ∨ c = 'E' then
      match rest with
      | '-' :: cs => (readDigits cs).map fun (ds, r) => (some (-(digitsValue ds : Int)), r)
      | '+' :: cs => (readDigits cs).map fun (ds, r) => (some (digitsValue ds : Int), r)
      | cs => (readDigits cs).map fun (ds, r) => (some (digitsValue ds : Int), r)
    else some (none, c :: rest)
  | [] => some (none, [])

/-- An unsigned literal after its sign; a zero at its start stands alone. -/
def readUnsigned (negative : Bool) (cs : List Char) : Option (Number × List Char) := do
  let (whole, rest) ← readDigits cs
  if whole.head? = some '0' ∧ whole ≠ ['0'] then none
  let (fraction, rest) ← readFraction rest
  let (exponent, rest) ← readExponent rest
  let n ← numberOf? negative whole fraction exponent
  some (n, rest)

/-- A number at the start of a text. -/
def readNumber : List Char → Option (Number × List Char)
  | '-' :: rest => readUnsigned true rest
  | cs => readUnsigned false cs

/-! ## Values -/

mutual

/-- A value at the start of a text, with at most `depth` containers inside one
    another, and the text after it. -/
def readValue : (supply depth : Nat) → List Char → Option (Json × List Char)
  | 0, _, _ => none
  | supply + 1, depth, cs =>
    match skipBlanks cs with
    | 'n' :: 'u' :: 'l' :: 'l' :: rest => some (.null, rest)
    | 't' :: 'r' :: 'u' :: 'e' :: rest => some (.bool true, rest)
    | 'f' :: 'a' :: 'l' :: 's' :: 'e' :: rest => some (.bool false, rest)
    | '"' :: rest => (readString rest).map fun (s, r) => (.string (String.ofList s), r)
    | '[' :: rest =>
      match depth with
      | 0 => none
      | depth + 1 =>
        match skipBlanks rest with
        | ']' :: rest => some (.array [], rest)
        | rest => (readItems supply depth rest).map fun (xs, r) => (.array xs, r)
    | '{' :: rest =>
      match depth with
      | 0 => none
      | depth + 1 =>
        match skipBlanks rest with
        | '}' :: rest => some (.object [], rest)
        | rest => (readMembers supply depth rest).map fun (ms, r) => (ofMembers ms, r)
    | cs => (readNumber cs).map fun (n, r) => (.number n, r)

/-- One or more items up to the end of the array. -/
def readItems : (supply depth : Nat) → List Char → Option (List Json × List Char)
  | 0, _, _ => none
  | supply + 1, depth, cs =>
    match readValue supply depth cs with
    | none => none
    | some (x, rest) =>
      match skipBlanks rest with
      | ',' :: rest => (readItems supply depth rest).map fun (xs, r) => (x :: xs, r)
      | ']' :: rest => some ([x], rest)
      | _ => none

/-- One or more members up to the end of the object. -/
def readMembers : (supply depth : Nat) → List Char → Option (List (String × Json) × List Char)
  | 0, _, _ => none
  | supply + 1, depth, cs =>
    match skipBlanks cs with
    | '"' :: rest =>
      match readString rest with
      | none => none
      | some (name, rest) =>
        match skipBlanks rest with
        | ':' :: rest =>
          match readValue supply depth rest with
          | none => none
          | some (v, rest) =>
            let k := String.ofList name
            match skipBlanks rest with
            | ',' :: rest => (readMembers supply depth rest).map fun (ms, r) => ((k, v) :: ms, r)
            | '}' :: rest => some ([(k, v)], rest)
            | _ => none
        | _ => none
    | _ => none

end

/-- The value that a text spells, with nothing but blanks around it. -/
def readText (cs : List Char) : Option Json :=
  match readValue (2 * cs.length + 2) maxDepth cs with
  | some (j, rest) => if skipBlanks rest = [] then some j else none
  | none => none

/-- The value that a text spells. -/
def parse? (text : String) : Option Json := readText text.toList

end Json

end ContextServer
