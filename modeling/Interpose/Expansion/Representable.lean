import Interpose.Source.Ty

/-!
# Types that can cross the value boundary

Model of `is_representable`, `mentions_self` and `is_self_type` of `veneer_macros::classify`.

A type can be converted to a value and back if its syntax says nothing against it: it is a path,
whose arguments can all be converted, or the unit type, perhaps in parentheses, and it does not
mention the implementing type. What the path names is not looked at.

* `Ty.isRepresentable` : can a value of the type be converted?
* `Ty.mentionsSelf` : does the word `Self` occur in the type?
-/

namespace Interpose.Source

/-- Does the type mention the implementing type? -/
def Ty.mentionsSelf (t : Ty) : Bool := mention "Self" t.tokens

mutual

/-- Can values of the type be converted? All types on the way are searched for the implementing
type, each for itself. -/
def Ty.isRepresentable (t : Ty) : Bool :=
  !t.mentionsSelf &&
    match t with
    | .path _ segments => segmentsRepresentable segments
    | .paren inner => inner.isRepresentable
    | .grouped inner => inner.isRepresentable
    | .tuple items _ => items.isEmpty
    | .member .. => false
    | .reference .. => false
    | .pointer .. => false
    | .slice _ => false
    | .array .. => false
    | .never => false
    | .inferred => false
    | .written .. => false

/-- Do all segments take types only that can be converted? -/
def segmentsRepresentable : List Segment → Bool
  | [] => true
  | s :: rest => s.isRepresentable && segmentsRepresentable rest

/-- Does the segment take types only that can be converted? -/
def Segment.isRepresentable : Segment → Bool
  | .plain _ => true
  | .applied _ _ args _ => argsRepresentable args
  | .called .. => false

/-- Are all arguments types that can be converted? -/
def argsRepresentable : List Arg → Bool
  | [] => true
  | a :: rest => a.isRepresentable && argsRepresentable rest

/-- Is the argument a type that can be converted? -/
def Arg.isRepresentable : Arg → Bool
  | .type t => t.isRepresentable
  | .lifetime _ => false
  | .value _ => false
  | .named _ => false

end

/-- Is it the implementing type, by its name or as `Self`, perhaps in parentheses? -/
def Ty.isImplementer (self : String) : Ty → Bool
  | .path false [.plain name] => name == "Self" || name == self
  | .paren inner => inner.isImplementer self
  | .grouped inner => inner.isImplementer self
  | _ => false

end Interpose.Source
