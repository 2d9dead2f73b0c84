/-
Criteria in JSON. A tree node is an object whose one member names the kind
of node and holds its fields; a value is written the same way, by its kind.
Reading is the way back, from as many as 127 nested arrays and objects.
-/
import FilterCriteria.Criterion
import FilterCriteria.Json.Decode
import FilterCriteria.Json.Printer
import FilterCriteria.Json.Reader

namespace FilterCriteria

-- ============================================================== values

namespace Value

mutual

def toJson : Value → Json
  | .null => .ofString "Null"
  | .bool b => .tagged "Bool" (.bool b)
  | .char c => .tagged "Char" (.ofString c.toString)
  | .int n => .tagged "Int" (.ofInt n.toInt)
  | .long n => .tagged "Long" (.ofInt n.toInt)
  | .single x => .tagged "Float" (.ofSingle x)
  | .double x => .tagged "Double" (.ofDouble x)
  | .decimal x => .tagged "Decimal" (.ofDouble x)
  | .string s => .tagged "Str" (.ofString s)
  | .dateTime t => .tagged "DateTime" (.ofString t.iso)
  | .timeSpan t =>
    .tagged "TimeSpan" (.tagged "ticks" (.ofInt t.ticks.toInt))
  | .array items => .tagged "Array" (.array (itemsToJson items))
  | .object fields => .tagged "Object" (.object (fieldsToJson fields))
termination_by structural v => v

def itemsToJson : List Value → List Json
  | [] => []
  | v :: rest => v.toJson :: itemsToJson rest
termination_by structural vs => vs

def fieldsToJson : List (String × Value) → List (Option String × Json)
  | [] => []
  | (name, v) :: rest => (some name, v.toJson) :: fieldsToJson rest
termination_by structural vs => vs

end

/-- Reads the fields of an object; of several with one name the last
counts. -/
def fieldsOfJson? (read? : Json → Option Value)
    (members : List (Option String × Json)) :
    Option (List (String × Value)) :=
  let field? (m : Option String × Json) : Option (String × Value) := do
    pure (← m.1, ← read? m.2)
  (members.mapM field?).map Assoc.ofList

/-- Reads a value that is no array or object out of its payload. -/
def scalarOfJson? (kind : String) (j : Json) : Option Value :=
  match kind with
  | "Null" => if j.isNull then some .null else none
  | "Bool" => j.bool?.map .bool
  | "Char" => j.char?.map .char
  | "Int" => j.int32?.map .int
  | "Long" => j.int64?.map .long
  | "Float" => j.single?.map .single
  | "Double" => j.double?.map .double
  | "Decimal" => j.double?.map .decimal
  | "Str" => j.text?.map .string
  | "DateTime" => (j.text? >>= DateTime.ofIso?).map .dateTime
  | _ => none

/-- Reads a value with room for so many levels. -/
def ofJson? : (room : Nat) → Json → Option Value
  | room + 1, .object [(some kind, payload)] =>
    match room, kind, payload with
    | room + 1, "Array", .array items =>
      (items.mapM (ofJson? room)).map .array
    | room + 1, "Object", .object members =>
      (fieldsOfJson? (ofJson? room) members).map .object
    | _ + 1, "TimeSpan", payload => do
      let [some ticks] ← payload.fields? ["ticks"] | none
      pure (.timeSpan ⟨← ticks.int64?⟩)
    | _, kind, payload => scalarOfJson? kind payload
  | _, .string (some "Null") => some .null
  | _, _ => none

end Value

-- ============================================================ criteria

namespace Criterion

def Function.toJson : Function → Json
  | .builtin f => .tagged "Builtin" (.ofString f.name)
  | .custom name => .tagged "Custom" (.ofString name)

/-- A node of a kind, with its fields. -/
def node (kind : String) (fields : List (String × Json)) : Json :=
  .tagged kind (.ofMembers fields)

mutual

def toJson : Criterion → Json
  | .property path => node "Property" [("name", .ofString path)]
  | .literal v => node "Value" [("value", v.toJson)]
  | .binary op left right =>
    node "Binary" [("op", .ofString op.name), ("left", left.toJson),
      ("right", right.toJson)]
  | .unary op operand =>
    node "Unary" [("op", .ofString op.name), ("operand", operand.toJson)]
  | .function f operands =>
    node "Function" [("function", f.toJson),
      ("operands", .array (listToJson operands))]
  | .aggregate collection kind expression condition =>
    node "Aggregate" [("collection", .ofString collection),
      ("aggregate", .ofString kind.name),
      ("expression", optionToJson expression),
      ("condition", optionToJson condition)]
  | .within probe values =>
    node "In" [("probe", probe.toJson),
      ("values", .array (listToJson values))]
termination_by structural c => c

def listToJson : List Criterion → List Json
  | [] => []
  | c :: rest => c.toJson :: listToJson rest
termination_by structural cs => cs

def optionToJson : Option Criterion → Json
  | none => .null
  | some c => c.toJson
termination_by structural c => c

end

/-- The JSON text of a criterion. -/
def jsonText (c : Criterion) : String :=
  c.toJson.pretty

-- ============================================================= reading

/-- Reads a function with room for so many levels. -/
def Function.ofJson? : (room : Nat) → Json → Option Function
  | room + 1, .object [(some kind, payload)] =>
    match kind with
    | "Builtin" => (payload.named? Builtin.ofName? room).map .builtin
    | "Custom" => payload.text?.map .custom
    | _ => none
  | _, _ => none

/-- Reads an operand that may be absent or null. -/
def optionOfJson? (read? : Json → Option Criterion) :
    Option Json → Option (Option Criterion)
  | none | some .null => some none
  | some j => (read? j).map some

mutual

/-- Reads a criterion with room for so many levels, of which the node and
its fields take two. -/
def ofJson? : (room : Nat) → Json → Option Criterion
  | room + 2, .object [(some kind, payload)] =>
    match kind with
    | "Property" => do
      let [some name] ← payload.fields? ["name"] | none
      pure (.property (← name.text?))
    | "Value" => do
      let [some value] ← payload.fields? ["value"] | none
      pure (.literal (← Value.ofJson? room value))
    | "Binary" => do
      let [some op, some left, some right] ←
        payload.fields? ["op", "left", "right"] | none
      pure (.binary (← op.named? BinaryOp.ofName? room)
        (← ofJson? room left) (← ofJson? room right))
    | "Unary" => do
      let [some op, some operand] ← payload.fields? ["op", "operand"] | none
      pure (.unary (← op.named? UnaryOp.ofName? room)
        (← ofJson? room operand))
    | "Function" => do
      let [some f, some operands] ←
        payload.fields? ["function", "operands"] | none
      pure (.function (← Function.ofJson? room f)
        (← listOfJson? room operands))
    | "Aggregate" => do
      let [some collection, some kind, expression, condition] ←
        payload.fields?
          ["collection", "aggregate", "expression", "condition"] | none
      pure (.aggregate (← collection.text?)
        (← kind.named? Aggregate.ofName? room)
        (← optionOfJson? (ofJson? room) expression)
        (← optionOfJson? (ofJson? room) condition))
    | "In" => do
      let [some probe, some values] ← payload.fields? ["probe", "values"]
        | none
      pure (.within (← ofJson? room probe) (← listOfJson? room values))
    | _ => none
  | _, _ => none
termination_by structural room => room

/-- Reads an array of criteria, which takes a level itself. -/
def listOfJson? : (room : Nat) → Json → Option (List Criterion)
  | room + 1, .array items => items.mapM (ofJson? room)
  | _, _ => none
termination_by structural room => room

end

/-- The number of nested arrays and objects that are read. -/
def maxDepth : Nat := 127

/-- Reads the JSON text of a criterion. -/
def ofJsonText? (text : String) : Option Criterion :=
  Json.parse? text >>= ofJson? maxDepth

end Criterion

end FilterCriteria
