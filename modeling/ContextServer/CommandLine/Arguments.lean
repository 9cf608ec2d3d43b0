import ContextServer.CommandLine.Settings

/-!
# Arguments

The settings that a command line and an environment give (`Settings.ofArguments`).
Options are read from left to right. An option has its value in the same argument
after an equals sign, or in the next one, which must not start with a dash; it
takes effect when the next option is recognised or the line ends, and it can take
effect once. An argument that means nothing is refused before an option that
still waits is looked at, so of the two faults it is the one reported. A variable
of the environment counts if its option is not given.
-/

namespace ContextServer

/-- What was read of a command line. -/
structure Reading where
  /-- The settings so far. -/
  settings : Settings := {}
  /-- The settings that were given. -/
  given : List Setting := []
  /-- An option that waits for its effect, with its value if that was read. -/
  waiting : Option (Setting × Option String) := none
  /-- Two dashes have ended the options. -/
  isOver : Bool := false

namespace Reading

/-- An option takes effect. -/
def apply (r : Reading) (s : Setting) (value : Option String) : Except Refusal Reading :=
  match value with
  | none => .error (.invalidValue s)
  | some text =>
    if s ∈ r.given then .error (.repeated s)
    else do
      let settings ← r.settings.set s text
      return { r with settings, given := s :: r.given }

/-- The option that waits takes effect. -/
def resolve (r : Reading) : Except Refusal Reading :=
  match r.waiting with
  | some (s, value) => { r with waiting := none }.apply s value
  | none => .ok r

/-- The program is asked about itself, after an option that waited took effect. -/
def ask (r : Reading) (answer : Refusal) : Except Refusal Reading := do
  discard r.resolve
  throw answer

/-- An argument with two dashes in front: the text after them up to an equals sign,
    and the text after that if there is one. -/
def takeOption (r : Reading) (name : String) (attached : Option String) :
    Except Refusal Reading :=
  match Setting.ofOption? name, attached with
  | some s, some value => do (← r.resolve).apply s (some value)
  | some s, none => do return { ← r.resolve with waiting := some (s, none) }
  | none, _ =>
    let answer? : Option Refusal :=
      if name = "help" then some .help else if name = "version" then some .version else none
    match answer?, attached with
    | some answer, none => r.ask answer
    | some _, some _ => .error (.unwantedValue name)
    | none, _ => .error (.unknownArgument ("--" ++ name))

/-- The characters of an argument after its two dashes, cut at the first equals
    sign. -/
def splitAttached : List Char → List Char × Option (List Char)
  | [] => ([], none)
  | c :: cs =>
    if c = '=' then ([], some cs)
    else ((c :: (splitAttached cs).1), (splitAttached cs).2)

/-- One argument. -/
def take (r : Reading) (argument : String) : Except Refusal Reading :=
  if r.isOver then .error (.unknownArgument argument)
  else
    match argument.toList with
    | ['-', '-'] => .ok { r with isOver := true }
    | '-' :: '-' :: cs =>
      let (name, attached) := splitAttached cs
      r.takeOption (String.ofList name) (attached.map String.ofList)
    | '-' :: c :: _ =>
      if c = 'h' then r.ask .help
      else if c = 'V' then r.ask .version
      else .error (.unknownArgument argument)
    | _ =>
      match r.waiting with
      | some (s, none) => .ok { r with waiting := some (s, some argument) }
      | some (_, some _) | none => .error (.unknownArgument argument)

/-- A variable of the environment, for a setting that was not given. -/
def takeVariable (environment : String → Option String) (r : Reading) (s : Setting) :
    Except Refusal Reading :=
  if s ∈ r.given then .ok r
  else
    match environment s.environmentVariable with
    | some text => do return { r with settings := ← r.settings.set s text }
    | none => .ok r

end Reading

/-- The settings of a command line, without the name of the program, and of an
    environment. -/
def Settings.ofArguments (arguments : List String) (environment : String → Option String) :
    Except Refusal Settings := do
  let read ← (← arguments.foldlM Reading.take {}).resolve
  return (← Setting.all.foldlM (Reading.takeVariable environment) read).settings

end ContextServer
