import Interpose.Proofs.Expansion.Lineup

/-!
# Types outside their functions

The declaration of a function stands outside the function, so a type in it must make sense there,
and a parameter of the function does not. A descriptor that spells its type is free of the type; one
that converts it is not. Which it is depends on the way in which the function can be reached and on
the type alone: nothing asks whether the function has parameters of its own. All that they change is
that the function has no code to be called through values.

* `Shape.isReached` : may a proxy ever call the function through values?
* `Conveys` : what the declaration of a function says about its types.

Results:
* `conveys_constructor`, `conveys_method`: the two kinds of declarations.
* **`types_conveyed`**: all declarations of an expansion.
* `put_escapes`: a method that takes an item of any type is not declared well.
-/

namespace Interpose.Expansion

open Source

/-- The type that the descriptor converts, if it does. -/
def TypeNote.converted? : TypeNote → Option Ty
  | .converted t => some t
  | _ => none

/-- The descriptors in the declaration of a constructor, in order. -/
def ConstructorCode.notes (c : ConstructorCode) : List TypeNote := c.params.map (·.type)

/-- The descriptors in the declaration of a method, in order. -/
def MethodCode.notes (m : MethodCode) : List TypeNote :=
  m.signature.params.map (·.type) ++ m.signature.returns.toList

/-- Can the function be reached through values? Internal functions cannot, nor can those that are
associated and build nothing, final, or consume their instance. -/
def Shape.isReached (s : Shape) : Bool :=
  s.visibility != .internal && (s.isConstructor || (s.takesReference && !s.isFinal))

/-- The types that the declaration of the function has descriptors of: those of the parameters, and
for a method the type of a successful result. -/
def Shape.notedTypes (s : Shape) : List Ty :=
  s.params.map (·.type) ++ if s.isConstructor then [] else s.output.types.head?.toList

/-- **What the declaration of a function says about its types**, by its descriptors. -/
structure Conveys (fn : Function) (s : Shape) (notes : List TypeNote) (hasCode : Bool) : Prop where
  /-- Each type has a descriptor: its conversion, if the function can be reached and the type can
  be converted, and its spelling otherwise. -/
  noted : notes = s.notedTypes.map (TypeNote.ofType s.isReached)
  /-- So it is all spellings for just those functions that cannot be reached or have no types that
  can be converted. -/
  spelled : (∀ note ∈ notes, note.converted? = none) ↔
    s.isReached = false ∨ ∀ t ∈ s.notedTypes, t.isRepresentable = false
  /-- A function with parameters of its own has no code. -/
  generic : fn.generics.items ≠ [] → hasCode = false

variable {settings : Settings} {block : Block} {e : Expansion} {fn : Function} {s : Shape}
  {simple : String}

/-! ## One declaration -/

/-- A type is converted where its function can be reached and values of it can be converted. -/
theorem converted?_ofType (reached : Bool) (t : Ty) :
    (TypeNote.ofType reached t).converted? = none ↔
      reached = false ∨ t.isRepresentable = false := by
  unfold TypeNote.ofType
  cases reached with
  | false => simp [TypeNote.converted?]
  | true => cases ht : t.isRepresentable <;> simp [TypeNote.converted?]

/-- A function with parameters of its own cannot be called through values. -/
theorem isRepresentable_of_generic (h : Shape.ofFunction? simple fn = .ok s)
    (hgeneric : fn.generics.items ≠ []) : s.isRepresentable = false := by
  obtain ⟨flags, rfl⟩ := ofFunction?_ok h
  simp [Shape.isRepresentable, Shape.ofFunction, hgeneric]

/-- The descriptors decide the rest. -/
theorem Conveys.of_noted {notes : List TypeNote} {hasCode : Bool}
    (h : Shape.ofFunction? simple fn = .ok s)
    (hnoted : notes = s.notedTypes.map (TypeNote.ofType s.isReached))
    (hcode : hasCode = true → s.isRepresentable = true) : Conveys fn s notes hasCode where
  noted := hnoted
  spelled := by
    rw [hnoted, List.forall_mem_map]
    simp only [converted?_ofType]
    by_cases hreached : s.isReached = false <;> simp [hreached]
  generic hgeneric := by
    rw [Bool.eq_false_iff]
    intro hsome
    rw [isRepresentable_of_generic h hgeneric] at hcode
    cases hcode hsome

theorem conveys_constructor (h : Shape.ofFunction? simple fn = .ok s)
    (hs : s.isConstructor = true) :
    Conveys fn s (ConstructorCode.ofShape s).notes (ConstructorCode.ofShape s).build.isSome := by
  refine .of_noted h ?_ fun hsome => ?_
  · simp [ConstructorCode.notes, ConstructorCode.ofShape, paramNotes, Shape.notedTypes,
      Shape.isReached, hs]
  · simp only [ConstructorCode.ofShape, Option.isSome_ite, Bool.and_eq_true] at hsome
    exact hsome.2

theorem conveys_method (h : Shape.ofFunction? simple fn = .ok s) (hs : s.isConstructor = false) :
    Conveys fn s (MethodCode.ofShape s).notes (MethodCode.ofShape s).thunk.isSome := by
  -- a function that takes its instance by reference is not an associated one
  have hreached : (s.isCandidate && s.takesReference) = s.isReached := by
    unfold Shape.isCandidate Shape.isReached Shape.takesReference
    rw [hs]
    cases s.receiver <;> cases s.visibility <;> cases s.isFinal <;> rfl
  refine .of_noted h ?_ fun hsome => ?_
  · simp [MethodCode.notes, MethodCode.ofShape, SignatureCode.ofShape, paramNotes,
      Shape.notedTypes, hreached, hs, Option.toList_map]
  · rw [thunk_ofShape, Option.isSome_ite, Bool.and_eq_true] at hsome
    exact hsome.2

/-- An error is spelled. -/
theorem spelled_failure {converted : Bool} {text : String}
    (h : (SignatureCode.ofShape converted s).failure = some text) :
    ∃ ok err, s.output = .fallible ok err ∧ text = err.spelling := by
  simp only [SignatureCode.ofShape] at h
  cases hout : s.output with
  | unit => simp [hout] at h
  | plain t => simp [hout] at h
  | fallible ok err =>
    rw [hout] at h
    exact ⟨ok, err, rfl, (Option.some.inj h).symm⟩

/-! ## All declarations -/

/-- **The types in the declarations** of any block that is expanded. Every function that is not left
out has one declaration, and that says about its types what the way to the function and the types
themselves decide. An error is only ever spelled. -/
theorem types_conveyed (he : expand settings block = .ok e) : ∃ cs ms, Inventory block e cs ms ∧
    List.Forall₂ (fun i c => ∃ fn s, block.functions[i]? = some fn ∧
      Shape.ofFunction? e.simple fn = .ok s ∧ s.isConstructor = true ∧
      Conveys fn s c.notes c.build.isSome) cs e.constructors ∧
    List.Forall₂ (fun i m => ∃ fn s, block.functions[i]? = some fn ∧
      Shape.ofFunction? e.simple fn = .ok s ∧ s.isConstructor = false ∧
      Conveys fn s m.notes m.thunk.isSome ∧
      ∀ text ∈ m.signature.failure, ∃ ok err, s.output = .fallible ok err ∧ text = err.spelling)
      ms e.methods := by
  obtain ⟨cs, ms, h⟩ := exists_inventory he
  refine ⟨cs, ms, h, h.constructors.each.imp fun i c hc => ?_, h.methods.each.imp fun i m hm => ?_⟩
  · obtain ⟨fn, s, hfn, hshape, hs, rfl⟩ := hc
    exact ⟨fn, s, hfn, hshape, hs, conveys_constructor hshape hs⟩
  · obtain ⟨fn, s, hfn, hshape, hs, rfl⟩ := hm
    exact ⟨fn, s, hfn, hshape, hs, conveys_method hshape hs,
      fun text htext => spelled_failure htext⟩

/-- `pub fn put<T>(&mut self, item: T)`. -/
def putMethod : Function :=
  { (default : Function) with
    visibility := .exported
    name := "put"
    generics := ⟨[(false, [.word "T"])], false⟩
    receiver := some ⟨[], .reference none true⟩
    parameters := [⟨[], [.word "item"], .named "T"⟩] }

/-- `fn swap<T>(&mut self, item: T)`, of the bag alone. -/
def swapMethod : Function := { putMethod with visibility := .inherited, name := "swap" }

/-- A bag with a constructor and both methods. -/
def bagBlock : Block :=
  { (default : Block) with
    selfType := .named "Bag"
    items := [
      .function { (default : Function) with
        visibility := .exported, name := "new", result := some (.named "Self") },
      .function putMethod, .function swapMethod] }

/-- The bag has two methods over a type of their own, of which one can be reached. -/
theorem types_conveyed_bag : ∃ e cs ms, expand .none bagBlock = .ok e ∧
    Inventory bagBlock e cs ms ∧
    List.Forall₂ (fun i m => ∃ fn s, bagBlock.functions[i]? = some fn ∧
      Shape.ofFunction? e.simple fn = .ok s ∧ s.isConstructor = false ∧
      Conveys fn s m.notes m.thunk.isSome ∧
      ∀ text ∈ m.signature.failure, ∃ ok err, s.output = .fallible ok err ∧ text = err.spelling)
      ms e.methods ∧
    e.methods.map MethodCode.notes = [[.converted (.named "T")], [.native "T"]] := by
  have he : expand .none bagBlock = .ok _ := rfl
  obtain ⟨cs, ms, h, -, hms⟩ := types_conveyed he
  exact ⟨_, cs, ms, he, h, hms, rfl⟩

/-- **Its type gets away**: outside of the method that it belongs to, the declaration converts the
type `T` that values to put are of. -/
theorem put_escapes : ∃ e m, expand .none bagBlock = .ok e ∧ putMethod ∈ bagBlock.functions ∧
    ¬ LeftOut putMethod ∧ putMethod.generics.items = [(false, [.word "T"])] ∧
    m ∈ e.methods ∧ m.signature.name = putMethod.name ∧ m.thunk.isNone = true ∧
    m.signature.params.map (·.type.tokens) =
      [asTrait (.named "T") "ValueType" ++ phrase ":: type_desc" ++ [parens []]] := by
  refine ⟨_, _, rfl, List.mem_cons_of_mem _ List.mem_cons_self, ?_, rfl, List.mem_cons_self, rfl,
    rfl, rfl⟩
  rintro ⟨flags, hflags, hskipped⟩
  cases hflags
  cases hskipped

end Interpose.Expansion
