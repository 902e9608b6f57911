import Interpose.Event
import Interpose.Filter
import Interpose.ProxyError

/-!
# Declared surfaces and the methods that a proxy intercepts

Model of `veneer_engine::decl` (`TypeDecl`, `ConstructorDecl`, `MethodDecl`, `SuperFn`) and of
`veneer_engine::descriptor` (`is_overridable`, `describe`, `TargetType`, `MethodSlot`).

A `Surface` is what a type declares: its constructors and methods in order, each with the code
that runs it on values. `describe` selects the methods that a proxy under a filter intercepts.

The type of the target's states is a parameter throughout, and the code of a method is any
function on states and argument lists.

* `Surface.describe` : the selection, or why the type cannot be proxied.
-/

namespace Interpose

open Text

/-- The access that a call has to its target, or that a method needs. -/
inductive Access where
  | shared
  | exclusive
deriving DecidableEq, Repr

/-- The original implementation of a method. -/
structure Original (S : Type) where
  /-- The access that it needs. -/
  needs : Access
  /-- The reply and the state that the target is left in, also when the code fails or panics. -/
  run : S → List Value → Reply Value × S

/-- The reported form: the kind of access. -/
def Original.layout {S : Type} (t : Original S) : Layout :=
  match t.needs with
  | .shared => .leaf "SuperFn::Shared"
  | .exclusive => .leaf "SuperFn::Exclusive"

/-- A declared method. -/
structure Method (S : Type) where
  signature : Signature
  /-- Its implementation on values, if it has one. -/
  original : Option (Original S)

/-- A declared constructor. -/
structure Constructor (S : Type) where
  name : String
  params : List Param
  visibility : Visibility
  /-- Its implementation on values, if it has one. -/
  build : Option (List Value → Reply S)

/-- The declared surface of a type. -/
structure Surface (S : Type) where
  /-- The type that declares it. -/
  type : Tag
  /-- The name with its module. -/
  qualified : String
  /-- The name alone. -/
  simple : String
  /-- Is the type never proxied? -/
  isSealed : Bool
  constructors : List (Constructor S)
  methods : List (Method S)

variable {S : Type}

namespace Constructor

/-- The number of parameters. -/
def arity (c : Constructor S) : Nat := c.params.length

/-- Do the arguments fit the parameters? -/
def accepts (c : Constructor S) (args : List Value) : Bool := Param.accept c.params args

/-- The reported form. -/
def layout (c : Constructor S) : Layout :=
  .closed "ConstructorDecl"
    [("name", .quoted c.name),
     ("params", .list (c.params.map Param.layout)),
     ("visibility", c.visibility.layout),
     ("callable", .ofBool c.build.isSome)]

end Constructor

/-- The reported form. -/
def Method.layout (m : Method S) : Layout :=
  .closed "MethodDecl"
    [("signature", .quoted m.signature.text),
     ("super_fn", .ofOption (m.original.map Original.layout))]

/-- The reported form. -/
def Surface.layout (t : Surface S) : Layout :=
  .closed "TypeDecl"
    [("qualified_name", .quoted t.qualified),
     ("sealed", .ofBool t.isSealed),
     ("constructors", .list (t.constructors.map Constructor.layout)),
     ("methods", .list (t.methods.map Method.layout))]

/-- A method selected for interception. -/
structure Slot (S : Type) where
  /-- The position of the method in the surface. -/
  index : Nat
  method : Method S

namespace Slot

/-- The signature of the selected method. -/
def signature (s : Slot S) : Signature := s.method.signature

/-- The reported form. -/
def layout (s : Slot S) : Layout :=
  .closed "MethodSlot"
    [("decl_index", .ofNat s.index), ("signature", .quoted s.signature.text)]

end Slot

/-- A surface together with the methods that a proxy intercepts. -/
structure Target (S : Type) where
  surface : Surface S
  /-- The selected methods, in declaration order. -/
  slots : List (Slot S)

namespace Target

/-- Will no method be intercepted? -/
def nothingEligible (t : Target S) : Bool := t.slots.isEmpty

/-- The warning that a target without slots calls for. -/
def warnings (t : Target S) : List Event :=
  if t.nothingEligible then [.nothingEligible t.surface.qualified t.surface.methods.length] else []

/-- The reported form. -/
def layout (t : Target S) : Layout :=
  .closed "TargetType"
    [("qualified_name", .quoted t.surface.qualified),
     ("constructors", .ofNat t.surface.constructors.length),
     ("methods", .ofNat t.surface.methods.length),
     ("slots", .list (t.slots.map Slot.layout))]

end Target

namespace Surface

/-- The methods that are overridable and pass the filter, with their positions. -/
def select (t : Surface S) (f : Filter) : List (Slot S) :=
  (t.methods.zipIdx.filter fun mi =>
    mi.1.signature.isOverridable && f.admits mi.1.signature).map fun mi => ⟨mi.2, mi.1⟩

/-- Why no proxy of the type can be made, if none can. -/
def refusal? (t : Surface S) : Option ProxyError :=
  if t.isSealed then some (.notExtendable t.qualified "type is sealed")
  else if t.constructors.any fun c => c.visibility.isAccessible then none
  else some (.notExtendable t.qualified "no public or restricted constructor")

/-- The selection under a filter, or why the type cannot be proxied. -/
def describe (t : Surface S) (f : Filter) : Except ProxyError (Target S) :=
  match t.refusal? with
  | some e => .error e
  | none => .ok ⟨t, t.select f⟩

end Surface

end Interpose
