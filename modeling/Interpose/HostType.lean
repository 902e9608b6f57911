import Interpose.Descriptor

/-!
# Types of the host and their value form

Model of `veneer_sdk::convert` (`ToValue::to_value`, `FromValue::from_value`,
`ValueType::type_desc`, `object_value!`) and of `ConversionError` of `veneer_sdk::error`.

`HostType` lists the host types that have a value form, closed under lists and options, and
`HostType.Carrier` gives each its values. A host value becomes a `Value` by `HostType.encode`,
which takes a fresh handle for every object, and is read back by `HostType.decode`. Objects are
compared by what they hold; a handle made by encoding never equals an older one.

* `HostType.desc` : the descriptor in signatures.
* `HostType.decode` : fails with the error of the leftmost innermost part that does not decode.
-/

namespace Interpose

open Number Text

/-- Why a value does not decode. -/
inductive ConversionError where
  /-- The value has another shape than the type. -/
  | mismatch (expected got : String)
  /-- A number outside the range of the type, with its decimal text. -/
  | outOfRange (target value : String)
deriving DecidableEq, Repr

namespace ConversionError

/-- The message. -/
def message : ConversionError → String
  | .mismatch expected got => s!"Type mismatch: expected {expected}, got {got}"
  | .outOfRange target value => s!"Value {value} is out of range for {target}"

/-- The reported form. -/
def layout : ConversionError → Layout
  | .mismatch expected got =>
    .closed "TypeMismatch" [("expected", .quoted expected), ("got", .quoted got)]
  | .outOfRange target value =>
    .closed "OutOfRange" [("target", .quoted target), ("value", .quoted value)]

end ConversionError

/-- A host type with a value form. -/
inductive HostType where
  | integer (t : IntegerType)
  | single
  | double
  | bool
  | unit
  | string
  /-- `Value` itself, which passes untouched. -/
  | value
  /-- A type whose objects are shared by handle. -/
  | object (type : Tag)
  | list (item : HostType)
  | option (item : HostType)
deriving DecidableEq, Repr

namespace HostType

/-- The host values of the type. An object is what it holds. -/
@[reducible] def Carrier : HostType → Type
  | .integer t => t.Element
  | .single => Single
  | .double => Double
  | .bool => Bool
  | .unit => Unit
  | .string => String
  | .value => Value
  | .object _ => String
  | .list item => List item.Carrier
  | .option item => Option item.Carrier

/-- The descriptor of the type in signatures. -/
def desc : HostType → Desc
  | .integer t => if t.isSigned then .int t.name else .uint t.name
  | .single => .float "f32"
  | .double => .float "f64"
  | .bool => .bool
  | .unit => .unit
  | .string => .str
  | .value => .value
  | .object type => .object type.name
  | .list item => .list item.desc
  | .option item => .optional item.desc

/-- The name by which a mismatch calls the type. -/
def expected : HostType → String
  | .integer t => t.name
  | .single => "f32"
  | .double => "f64"
  | .bool => "bool"
  | .unit => "()"
  | .string => "String"
  | .value => "Value"
  | .object type => type.name
  | .list _ => "Vec"
  | .option item => item.expected

/-- The error for a value of another shape. -/
def mismatch (t : HostType) (v : Value) : ConversionError := .mismatch t.expected v.typeName

/-- `some x` as a success, `none` as a mismatch. -/
def orMismatch {α : Type} (t : HostType) (v : Value) : Option α → Except ConversionError α
  | some x => .ok x
  | none => .error (t.mismatch v)

/-- Reads an integer of the type out of either integer carrier. -/
def decodeInteger (t : IntegerType) (v : Value) : Except ConversionError t.Element :=
  match v.asWhole? with
  | none => .error ((HostType.integer t).mismatch v)
  | some n => if h : t.holds n then .ok ⟨n, h⟩ else .error (.outOfRange t.name (toString n))

/-- Reads a host value of the type. -/
def decode : (t : HostType) → Value → Except ConversionError t.Carrier
  | .integer t, v => decodeInteger t v
  | .single, v => (orMismatch .single v v.asDouble?).map Single.ofDouble
  | .double, v => orMismatch .double v v.asDouble?
  | .bool, v => orMismatch .bool v v.asBool?
  | .unit, v => if v.isNull then .ok () else .error (mismatch .unit v)
  | .string, v => orMismatch .string v v.asStr?
  | .value, v => .ok v
  | .object type, v => orMismatch (.object type) v (v.content? type)
  | .list item, v =>
    match v.asList? with
    | some items => items.mapM item.decode
    | none => .error (mismatch (.list item) v)
  | .option item, v => if v.isNull then .ok none else (item.decode v).map some

/-- The next free serial number of a handle. -/
abbrev Supply := Nat

/-- Writes an integer with the carrier of its signedness. -/
def encodeInteger (t : IntegerType) (n : t.Element) : Value :=
  if t.isSigned then .int (Int64.ofInt n.val) else .uint (UInt64.ofNat n.val.toNat)

/-- Writes a host value, numbering new handles from the supply. -/
def encode : (t : HostType) → t.Carrier → StateM Supply Value
  | .integer t, n => pure (encodeInteger t n)
  | .single, x => pure (.float (.ofSingle x))
  | .double, x => pure (.float x)
  | .bool, b => pure (.bool b)
  | .unit, _ => pure .null
  | .string, s => pure (.str s)
  | .value, v => pure v
  | .object type, content => do
    let serial ← get
    set (serial + 1)
    pure (.object ⟨type, content, serial⟩)
  | .list item, xs => do
    let items ← xs.mapM item.encode
    pure (.list items)
  | .option _, none => pure .null
  | .option item, some x => item.encode x

/-- Reads a host value and writes it again. -/
def recode (t : HostType) (v : Value) (supply : Supply) :
    Except ConversionError (Value × Supply) :=
  (t.decode v).map fun x => (t.encode x).run supply

end HostType

end Interpose
