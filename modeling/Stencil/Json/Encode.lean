/-
The library's own JSON form of its values, nodes and rendered output. Values are written as
JSON with handlers as `null`; a node is `{"text": ...}` or `{"element": {...}}` with the fields
name, kind, attributes, children and key; rendered output is `"empty"` or an object named by its
constructor, whose element and component records have the fields name, key, attributes and
children. How a key is written is a parameter: the library writes `n_` and the number.
Reading goes the other way for values: a JSON document is a value, numbers as binary64
numbers and objects as maps.
-/
import Stencil.Json.Basic
import Stencil.Decimal.Nearest
import Stencil.Rendered
namespace Stencil

/-- Keys as the library writes them: `n_` followed by the number. -/
def keyText (k : Nat) : Json := .str ("n_" ++ toString k)

mutual
/-- The JSON form of a value. -/
def Value.toJson : Value → Json
  | .null | .handler _ => .null
  | .bool b => .bool b
  | .number x => .float x
  | .string s => .str s
  | .list items => .arr (Value.listToJson items)
  | .map entries => .obj (Value.entriesToJson entries)

/-- The JSON forms of list items. -/
def Value.listToJson : List Value → List Json
  | [] => []
  | v :: vs => v.toJson :: Value.listToJson vs

/-- The JSON forms of map entries. -/
def Value.entriesToJson : List (String × Value) → List (String × Json)
  | [] => []
  | (k, v) :: es => (k, v.toJson) :: Value.entriesToJson es
end

/-- The JSON form of attributes. -/
def attributesToJson (attrs : Attributes) : Json := .obj (Value.entriesToJson attrs)

mutual
/-- The JSON form of a node, keys written by `key`. -/
def Node.toJson (key : Nat → Json) : Node → Json
  | .text s => .obj [("text", .str s)]
  | .element ⟨name, kind, attributes, children, k⟩ =>
    .obj [("element", .obj [("name", .str name), ("kind", .str kind.label),
      ("attributes", attributesToJson attributes), ("children", .arr (Node.listToJson key children)),
      ("key", key k)])]

/-- The JSON forms of nodes. -/
def Node.listToJson (key : Nat → Json) : List Node → List Json
  | [] => []
  | n :: ns => Node.toJson key n :: Node.listToJson key ns
end

mutual
/-- The JSON form of rendered output, keys written by `key`. -/
def Rendered.toJson (key : Nat → Json) : Rendered → Json
  | .empty => .str "empty"
  | .text s => .obj [("text", .str s)]
  | .value v => .obj [("value", v.toJson)]
  | .element name k attributes children =>
    .obj [("element", .obj [("name", .str name), ("key", key k),
      ("attributes", attributesToJson attributes),
      ("children", .arr (Rendered.listToJson key children))])]
  | .component name k attributes children =>
    .obj [("component", .obj [("name", .str name), ("key", key k),
      ("attributes", attributesToJson attributes),
      ("children", .arr (Node.listToJson key children))])]
  | .fragment items => .obj [("fragment", .arr (Rendered.listToJson key items))]

/-- The JSON forms of rendered outputs. -/
def Rendered.listToJson (key : Nat → Json) : List Rendered → List Json
  | [] => []
  | r :: rs => Rendered.toJson key r :: Rendered.listToJson key rs
end

mutual
/-- The value a JSON document stands for; of an object's repeated names the last one wins. -/
def Value.ofJson : Json → Value
  | .null => .null
  | .bool b => .bool b
  | .int n =>
    let x := (Decimal.nearest n.natAbs 0).getD 0
    .number (if n < 0 then -x else x)
  | .float x => .number x
  | .str s => .string s
  | .arr items => .list (Value.listOfJson items)
  | .obj fields => .map (Keyed.ofList (Value.fieldsOfJson fields))

/-- The values of JSON array items. -/
def Value.listOfJson : List Json → List Value
  | [] => []
  | j :: js => Value.ofJson j :: Value.listOfJson js

/-- The entries of JSON object fields, in order. -/
def Value.fieldsOfJson : List (String × Json) → List (String × Value)
  | [] => []
  | (k, j) :: fs => (k, Value.ofJson j) :: Value.fieldsOfJson fs
end

end Stencil
