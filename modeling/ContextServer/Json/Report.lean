/-!
# Reports

A *report* says what is wrong with a JSON text, and in which line and column. A
report without a place has the line 0, and does not tell its place. A report that
is made of words alone (`Json.Report.ofText`) takes its place from them if they end
in one; the words of a report that tells its place end in it (`Json.Report.message`).
-/

namespace ContextServer

namespace Json

/-- What is wrong with a JSON text, and where. -/
structure Report where
  /-- What is wrong. -/
  text : String
  /-- The line, from 1; 0 if the place is not known. -/
  line : Nat := 0
  /-- The column. -/
  column : Nat := 0
deriving DecidableEq

namespace Report

/-- What stands before the number of a line. -/
def lineLabel : String := " at line "

/-- What stands before the number of a column. -/
def columnLabel : String := " column "

/-- The wording of a report. -/
def message (r : Report) : String :=
  if r.line = 0 then r.text
  else r.text ++ lineLabel ++ r.line.repr ++ columnLabel ++ r.column.repr

/-- A number at the end of a text, and the text before the label of the number. The
    text is read from its end; the number has at least one digit and fits a word. -/
def takeNumber? (label : String) (reversed : List Char) : Option (Nat × List Char) := do
  let (digits, rest) := reversed.span fun c => '0' ≤ c && c ≤ '9'
  let before ← label.toList.reverse.isPrefixOf? rest
  let n := Nat.ofDigitChars 10 digits.reverse 0
  if digits.isEmpty || 18446744073709551616 ≤ n then none else some (n, before)

/-- The place in which a text ends, and the text before it. -/
def takePlace? (text : String) : Option Report := do
  let (column, rest) ← takeNumber? columnLabel text.toList.reverse
  let (line, before) ← takeNumber? lineLabel rest
  return { text := String.ofList before.reverse, line, column }

/-- The report of these words. -/
def ofText (text : String) : Report := (takePlace? text).getD { text }

example : ofText "x at line 03 column 4" = { text := "x", line := 3, column := 4 } := by
  decide +kernel

example : (ofText "x at line 0 column 0").message = "x" := by decide +kernel

end Report

end Json

end ContextServer
