import Interpose.Signature

/-!
# Method filters and proxy options

Model of `veneer_engine::config` (`MethodFilter`, `ProxyOptions`) and of the settings of `Enhancer`
(`filter`, `only`, `skip`, `include_restricted`, `catch_panics`) of `veneer_engine::enhancer`.

A filter narrows which eligible methods are intercepted; the methods that it rejects still run,
directly. Filters and options are part of the identity of a generated type, so names are kept as
sets and two filters are equal exactly when they were given the same names and flag.

* `NameSet.insert` : the only way in; keeps the names in ascending order without repetition.
* `Filter.admits` : does an eligible method pass?
-/

namespace Interpose

open Text

/-- A set of names, in ascending order without repetition. -/
structure NameSet where
  /-- The names in ascending order. -/
  names : List String
deriving DecidableEq, Repr

namespace NameSet

/-- The set without names. -/
def empty : NameSet := ⟨[]⟩

/-- Puts a name in its place. -/
def place (name : String) : List String → List String
  | [] => [name]
  | n :: rest =>
    if name < n then name :: n :: rest
    else if name = n then n :: rest
    else n :: place name rest

/-- The set with one more name. -/
def insert (s : NameSet) (name : String) : NameSet := ⟨place name s.names⟩

/-- Is the name in the set? -/
def contains (s : NameSet) (name : String) : Bool := s.names.contains name

/-- The reported form. -/
def layout (s : NameSet) : Layout := .set (s.names.map .quoted)

end NameSet

/-- Which eligible methods are intercepted. -/
structure Filter where
  /-- If present, only these. -/
  only : Option NameSet
  /-- Never these. -/
  skip : NameSet
  /-- Are methods of restricted visibility intercepted? -/
  includeRestricted : Bool
deriving DecidableEq, Repr

namespace Filter

/-- The filter that admits every eligible method. -/
def all : Filter := ⟨none, .empty, true⟩

/-- Adds names to those that are intercepted exclusively. -/
def onlyNames (f : Filter) (names : List String) : Filter :=
  { f with only := some (names.foldl NameSet.insert (f.only.getD .empty)) }

/-- Adds a name to those that are never intercepted. -/
def skipName (f : Filter) (name : String) : Filter := { f with skip := f.skip.insert name }

/-- Decides on methods of restricted visibility. -/
def restricted (f : Filter) (allowed : Bool) : Filter := { f with includeRestricted := allowed }

/-- Does an eligible method pass the filter? -/
def admits (f : Filter) (s : Signature) : Bool :=
  (match f.only with
    | some names => names.contains s.name
    | none => true) &&
  !f.skip.contains s.name &&
  (f.includeRestricted || s.visibility ≠ .restricted)

/-- The reported form. -/
def layout (f : Filter) : Layout :=
  .closed "MethodFilter"
    [("only", .ofOption (f.only.map NameSet.layout)),
     ("skip", f.skip.layout),
     ("include_restricted", .ofBool f.includeRestricted)]

end Filter

/-- One step of building a filter. -/
inductive FilterStep where
  | only (names : List String)
  | skip (name : String)
  | restricted (allowed : Bool)
deriving DecidableEq, Repr

/-- Takes one step. -/
def Filter.step (f : Filter) : FilterStep → Filter
  | .only names => f.onlyNames names
  | .skip name => f.skipName name
  | .restricted allowed => f.restricted allowed

/-- The filter that the steps build, in order. -/
def Filter.ofSteps (steps : List FilterStep) : Filter := steps.foldl Filter.step .all

/-- The options of a proxy request. -/
structure Options where
  filter : Filter
  /-- Are panics of original methods captured as failures? -/
  catchPanics : Bool
deriving DecidableEq, Repr

namespace Options

/-- Every eligible method, panics captured. -/
def standard : Options := ⟨.all, true⟩

/-- The reported form. -/
def layout (o : Options) : Layout :=
  .closed "ProxyOptions"
    [("filter", o.filter.layout), ("catch_panics", .ofBool o.catchPanics)]

end Options

/-- One step of building options. -/
inductive OptionStep where
  /-- A step of the filter in place. -/
  | filter (step : FilterStep)
  /-- A new filter in its place. -/
  | replaceFilter (f : Filter)
  | catchPanics (captured : Bool)
deriving DecidableEq, Repr

/-- Takes one step. -/
def Options.step (o : Options) : OptionStep → Options
  | .filter s => { o with filter := o.filter.step s }
  | .replaceFilter f => { o with filter := f }
  | .catchPanics b => { o with catchPanics := b }

/-- The options that the steps build, in order. -/
def Options.ofSteps (steps : List OptionStep) : Options := steps.foldl Options.step .standard

end Interpose
