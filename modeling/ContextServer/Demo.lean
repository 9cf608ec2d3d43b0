import ContextServer.Server.Registry

/-!
# Components to try a server with

A small set of components of all families: a calculator and an echo, a document,
a family of weather reports, and a greeting.
-/

namespace ContextServer

namespace Demo

/-! ## Tools -/

/-- An operand of the calculator. -/
def operand (arguments : Json) (name : String) : Except HandlerError Int64 :=
  match (arguments.member? name).bind Json.asInt64? with
  | some n => .ok n
  | none => .error (.invalidArguments ("'" ++ name ++ "' must be an integer"))

/-- An operation of the calculator on words of 64 bits. Sums, differences and
    products wrap around; the one quotient that is not a word is a crash. -/
def calculate (operation : String) (a b : Int64) : Outcome HandlerError Int64 :=
  if operation = "add" then .returned (a + b)
  else if operation = "subtract" then .returned (a - b)
  else if operation = "multiply" then .returned (a * b)
  else if operation = "divide" then
    if b = 0 then .failed (.application "Division by zero")
    else if a = Int64.minValue ∧ b = -1 then .crashed
    else .returned (a / b)
  else .failed (.invalidArguments ("Unknown operation: " ++ operation))

/-- The operation that arguments name; addition if they name none. -/
def operation (arguments : Json) : String :=
  ((arguments.member? "operation").bind Json.asString?).getD "add"

/-- What the calculator answers. -/
def compute (arguments : Json) : Outcome HandlerError String :=
  match operand arguments "a", operand arguments "b" with
  | .ok a, .ok b =>
    (calculate (operation arguments) a b).map fun n => String.ofList (Json.writeInt n.toInt)
  | .error e, _ | _, .error e => .failed e

/-- A tool that calculates with integers. -/
def calculator : ToolComponent where
  descriptor := Tool.ofSteps "calculator" [
    .description "Apply an arithmetic operation to two integers",
    .property "a" "integer" "Left operand" true,
    .property "b" "integer" "Right operand" true,
    .property "operation" "string" "add, subtract, multiply or divide" false]
  handler := .pure compute

/-- A tool that returns its arguments. -/
def echo : ToolComponent where
  descriptor := Tool.ofSteps "echo" [.description "Return the arguments as JSON"]
  handler := .pure fun arguments => .returned arguments.compact

/-! ## Resources -/

/-- A resource with one document. -/
def readme : ResourceComponent where
  descriptor :=
    ({ uri := "docs://readme", name := "README" : Resource }.withDescription
      "Project readme").withMimeType "text/markdown"
  handler := .pure fun uri =>
    .returned (.text
      { uri, mimeType := some "text/markdown", text := "# Tessera\nA server used in tests." })

/-- The weather of a city, always fine. -/
def report (city : String) : Json :=
  .ofMembers [("city", .string city), ("conditions", .string "sunny"),
    ("celsius", .number (.integer (.ofInt32 21)))]

/-- A family of resources with the weather of every city. -/
def weather : TemplateComponent where
  descriptor :=
    { uriTemplate := "weather://\x7bcity\x7d/current",
      name := "Current weather" : ResourceTemplate }.withMimeType "application/json"
  handler := .pure fun query =>
    .returned (.text
      { uri := query.uri, mimeType := some "application/json"
        text := (report ((query.bindings.get? "city").getD "")).compact })

/-! ## Prompts -/

/-- A greeting, formal or not. -/
def greet (arguments : Dict String) : String :=
  let name := (arguments.get? "name").getD ""
  if arguments.get? "style" = some "formal" then "Good day, " ++ name ++ "."
  else "Hi " ++ name ++ "!"

/-- A prompt that greets. -/
def greeting : PromptComponent where
  descriptor :=
    (({ name := "greeting" : Prompt }.withDescription "Greet someone by name").withArgument
      "name" "Who to greet" true).withArgument "style" "formal or casual" false
  handler := .pure fun arguments => .returned (greet arguments)

/-- All the components. -/
def components : List Component :=
  [.tool calculator, .tool echo, .resource readme, .template weather, .prompt greeting]

end Demo

end ContextServer
