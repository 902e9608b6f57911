import Interpose.Number.Integer
import Interpose.Number.Shortest
import Interpose.Text.Layout

/-!
# Values

Model of `veneer_sdk::value` (`Value`, `ObjectRef`).

The dynamically typed currency of intercepted calls: arguments and results cross the boundary
between callers, interceptors and original methods as values.

* `Value.same` : equality of values. Signed and unsigned carriers never agree, floats compare as
  numbers, objects by handle.
* `Value.asInt?`, `Value.asNat?`, `Value.asDouble?` : the numeric views, which accept every
  carrier that holds the number.
* `Value.layout` : the reported form.
-/

namespace Interpose

open Number Text

/-- Identity of a host type. The key tells types apart; the name is what signatures and messages
print. -/
structure Tag where
  /-- What tells the type apart from others. -/
  key : Nat
  /-- The full name of the type. -/
  name : String
deriving DecidableEq, Repr

/-- A shared handle to an object of the host. Two handles are the same allocation exactly when
they are equal; `serial` tells objects of one type and content apart. -/
structure Handle where
  /-- The type of the object. -/
  type : Tag
  /-- What the object holds. -/
  content : String
  /-- The allocation. -/
  serial : Nat
deriving DecidableEq, Repr

/-- A dynamically typed argument or result. -/
inductive Value where
  /-- Unit, an absent option, no value. -/
  | null
  | bool (b : Bool)
  /-- Any signed integer. -/
  | int (i : Int64)
  /-- Any unsigned integer. -/
  | uint (u : UInt64)
  /-- Any floating-point number. -/
  | float (x : Double)
  | str (s : String)
  | list (items : List Value)
  /-- A shared object of the host. -/
  | object (h : Handle)
deriving Inhabited, Repr

namespace Value

mutual

/-- Equality of values. A value that holds a NaN differs from itself. -/
def same : Value → Value → Bool
  | .null, .null => true
  | .bool a, .bool b => a == b
  | .int a, .int b => a == b
  | .uint a, .uint b => a == b
  | .float a, .float b => a.same b
  | .str a, .str b => a == b
  | .list as, .list bs => sameItems as bs
  | .object a, .object b => a == b
  | _, _ => false

/-- Equality of lists, item by item. -/
def sameItems : List Value → List Value → Bool
  | [], [] => true
  | a :: as, b :: bs => a.same b && sameItems as bs
  | _, _ => false

end

/-- Is the value null? -/
def isNull : Value → Bool
  | .null => true
  | _ => false

/-- The truth value, if it is one. -/
def asBool? : Value → Option Bool
  | .bool b => some b
  | _ => none

/-- The whole number that either integer carrier holds. -/
def asWhole? : Value → Option Int
  | .int i => some i.toInt
  | .uint u => some u.toNat
  | _ => none

/-- The signed 64-bit number; an unsigned carrier counts when its number fits. -/
def asInt? : Value → Option Int
  | .int i => some i.toInt
  | .uint u => if IntegerType.i64.holds u.toNat then some u.toNat else none
  | _ => none

/-- The unsigned 64-bit number; a signed carrier counts when its number is not negative. -/
def asNat? : Value → Option Int
  | .uint u => some u.toNat
  | .int i => if IntegerType.u64.holds i.toInt then some i.toInt else none
  | _ => none

/-- The floating-point number; integers are rounded to the nearest. -/
def asDouble? : Value → Option Double
  | .float x => some x
  | .int i => some (.ofInt i.toInt)
  | .uint u => some (.ofInt u.toNat)
  | _ => none

/-- The text, if it is one. -/
def asStr? : Value → Option String
  | .str s => some s
  | _ => none

/-- The items, if it is a list. -/
def asList? : Value → Option (List Value)
  | .list items => some items
  | _ => none

/-- The handle, if it is an object. -/
def asObject? : Value → Option Handle
  | .object h => some h
  | _ => none

/-- What the object holds, if the value is an object of the given type. -/
def content? (v : Value) (type : Tag) : Option String :=
  match v.asObject? with
  | some h => if h.type = type then some h.content else none
  | none => none

/-- The name of the value's type in messages. -/
def typeName : Value → String
  | .null => "null"
  | .bool _ => "bool"
  | .int _ => "int"
  | .uint _ => "uint"
  | .float _ => "float"
  | .str _ => "string"
  | .list _ => "list"
  | .object h => h.type.name

mutual

/-- The reported form. Only lists are nested; all else is a leaf. -/
def layout : Value → Layout
  | .null => .leaf "Null"
  | .bool b => .leaf (if b then "Bool(true)" else "Bool(false)")
  | .int i => .leaf s!"Int({i.toInt})"
  | .uint u => .leaf s!"UInt({u.toNat})"
  | .float x => .leaf ("Float(" ++ x.text ++ ")")
  | .str s => .leaf ("Str(" ++ quoteDebug s ++ ")")
  | .list items => .tuple "List" [.list (layouts items)]
  | .object h => .leaf ("Object<" ++ h.type.name ++ ">@ADDR")

/-- The reported forms of several values. -/
def layouts : List Value → List Layout
  | [] => []
  | v :: rest => v.layout :: layouts rest

end

/-- The reported form of an argument list. -/
def listLayout (args : List Value) : Layout := .list (layouts args)

/-- The type names of several values, as messages list them. -/
def typeNames (args : List Value) : String := ", ".intercalate (args.map typeName)

end Value

end Interpose
