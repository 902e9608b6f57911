import Interpose.Value

/-!
# Type descriptors

Model of `TypeDesc` (`accepts`, `is_representable`) of `veneer_sdk::signature`.

What a signature says about a parameter or result as seen through the value boundary.

* `Desc.accepts` : the shapes that a type can decode. Ranges are left to decoding.
* `Desc.isRepresentable` : can values of the type cross the boundary at all?
-/

namespace Interpose

open Text

/-- The descriptor of a parameter or result. -/
inductive Desc where
  | unit
  | bool
  /-- A signed integer type, by name. -/
  | int (name : String)
  /-- An unsigned integer type, by name. -/
  | uint (name : String)
  /-- A floating-point type, by name. -/
  | float (name : String)
  | str
  | list (item : Desc)
  | optional (item : Desc)
  /-- An object of the named host type. -/
  | object (name : String)
  /-- Any value. -/
  | value
  /-- A type that cannot cross the boundary, as it is spelled. -/
  | unrepresentable (spelling : String)
  /-- A type that is never converted because its method is only called directly. -/
  | native (spelling : String)
deriving DecidableEq, Repr, Inhabited

namespace Desc

/-- Does the value have a shape that the type can decode? -/
def accepts : Desc → Value → Bool
  | .value, _ => true
  | .unit, .null => true
  | .bool, .bool _ => true
  | .int _, .int _ | .int _, .uint _ => true
  | .uint _, .uint _ | .uint _, .int _ => true
  | .float _, .float _ | .float _, .int _ | .float _, .uint _ => true
  | .str, .str _ => true
  | .list item, .list items => items.all item.accepts
  | .optional _, .null => true
  | .optional item, v => item.accepts v
  | .object name, .object h => h.type.name == name
  | _, _ => false

/-- Can values of the type cross the boundary? -/
def isRepresentable : Desc → Bool
  | .unrepresentable _ | .native _ => false
  | .list item | .optional item => item.isRepresentable
  | _ => true

/-- The type as signatures and messages spell it. -/
def text : Desc → String
  | .unit => "()"
  | .bool => "bool"
  | .int name | .uint name | .float name | .object name => name
  | .str => "String"
  | .list item => "Vec<" ++ item.text ++ ">"
  | .optional item => "Option<" ++ item.text ++ ">"
  | .value => "Value"
  | .unrepresentable spelling | .native spelling => spelling

/-- The reported form. -/
def layout : Desc → Layout
  | .unit => .leaf "Unit"
  | .bool => .leaf "Bool"
  | .int name => .tuple "Int" [.quoted name]
  | .uint name => .tuple "UInt" [.quoted name]
  | .float name => .tuple "Float" [.quoted name]
  | .str => .leaf "Str"
  | .list item => .tuple "List" [item.layout]
  | .optional item => .tuple "Optional" [item.layout]
  | .object name => .tuple "Object" [.quoted name]
  | .value => .leaf "Value"
  | .unrepresentable spelling => .tuple "Unrepresentable" [.quoted spelling]
  | .native spelling => .tuple "Native" [.quoted spelling]

end Desc

end Interpose
