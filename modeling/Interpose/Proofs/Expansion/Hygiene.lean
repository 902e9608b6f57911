import Interpose.Proofs.Expansion.Declared

/-!
# The variables of emitted code

A thunk decodes its arguments one after the other into variables and then passes the variables on,
by their names. A variable has the name that the pattern of its parameter binds, or one from the
position of the parameter. Nothing keeps these names apart from one another or from those of the
thunk's own variables, so that a later variable can take the place of an earlier one.

* `Content`, `Frame` : what the variables in scope stand for.
* `Line` : one line of a thunk, which decodes an argument into a variable.
* `constructorPasses`, `methodPasses` : what a thunk passes on.
* `Binds`, `Unnamed` : what the pattern of a parameter says of its name.
* `Apart` : no two parameters of a function get one variable.

Results:
* `decodeTokens_eq`: the lines are those that are emitted.
* `constructorPasses_iff`, `methodPasses_iff`: a thunk passes its arguments on in their order iff
  its variables have different names that hide none of its own too early.
* `identifiers_nodup_iff`: the variables have different names iff the parameters are apart.
* `apart_of_plain`: they are where no pattern binds a name that begins with two underscores.
* **`thunks_pass_iff`**: for every function, whether its thunk passes its arguments on in order.
* `new_confuses`: a thunk that passes one argument on twice.
-/

namespace Interpose.Expansion

open Source

/-! ## Running a thunk -/

/-- What a variable of a thunk stands for. -/
inductive Content where
  /-- All arguments of the call. -/
  | arguments
  | receiver
  /-- What the argument at the position is decoded to. -/
  | argument (index : Nat)
deriving DecidableEq, Repr

/-- The variables in scope. -/
abbrev Frame := String → Option Content

namespace Frame

/-- No variable. -/
def empty : Frame := fun _ => none

/-- What a name stands for. The sign of a raw one does not make another name. -/
def get? (ρ : Frame) (x : String) : Option Content := ρ (withoutSign x)

/-- A further variable, which hides one of its name. -/
def bind (ρ : Frame) (x : String) (c : Content) : Frame :=
  fun y => if y = withoutSign x then some c else ρ y

end Frame

/-- One line of a thunk: it decodes the argument at the index from the source into a variable. -/
structure Line where
  binder : String
  type : Ty
  source : String
  index : Nat

namespace Line

/-- The identifier of the variable. -/
def identifier (l : Line) : String := withoutSign l.binder

/-- The tokens of a line. -/
def tokens (l : Line) : List Token :=
  [.word "let", .word l.binder, .mark '=' false] ++ enginePath "glue :: arg ::" ++
    angles l.type.tokens ++
    [parens [.word l.source, .mark ',' false, indexLiteral l.index], .mark '?' false,
      .mark ';' false]

/-- The line in a frame. Nothing but the arguments of the call can be decoded. -/
def run (ρ : Frame) (l : Line) : Option Frame :=
  if ρ.get? l.source = some .arguments then some (ρ.bind l.binder (.argument l.index)) else none

end Line

/-- The lines for the parameters of a function. -/
def lines (params : List Binding) : List Line :=
  params.zipIdx.map fun (b, i) => ⟨b.binder, b.type, "__args", i⟩

/-- **The lines are those that are emitted.** -/
theorem decodeTokens_eq (params : List Binding) :
    decodeTokens params = (lines params).flatMap Line.tokens := by
  rw [lines, List.flatMap_map]
  rfl

/-- What variables of these names stand for behind the lines, if these can be run. -/
def passed? (ρ : Frame) (params : List Binding) (call : List String) :
    Option (List (Option Content)) :=
  ((lines params).foldlM Line.run ρ).map fun ρ => call.map ρ.get?

/-- The parameter of a constructor's thunk. -/
def Frame.ofConstructor : Frame := empty.bind "__args" .arguments

/-- The parameters of a method's thunk. -/
def Frame.ofMethod : Frame := (empty.bind "__this" .receiver).bind "__args" .arguments

/-- **What the thunk of a constructor passes on.** -/
def constructorPasses (params : List Binding) : Option (List (Option Content)) :=
  passed? .ofConstructor params (params.map (·.binder))

/-- **What the thunk of a method passes on.** -/
def methodPasses (params : List Binding) : Option (List (Option Content)) :=
  passed? .ofMethod params ("__this" :: params.map (·.binder))

/-- The arguments in their order. -/
def inOrder (params : List Binding) : List (Option Content) :=
  (List.range params.length).map fun i => some (.argument i)

/-- The identifiers of the variables. -/
def identifiers (params : List Binding) : List String :=
  params.map fun b => withoutSign b.binder

/-! ## Lines in turn -/

namespace Frame

variable {ρ : Frame} {x y : String} {c : Content} {l : Line} {ls : List Line}

theorem get?_bind_self (h : withoutSign y = withoutSign x) : (ρ.bind x c).get? y = some c :=
  if_pos h

theorem get?_bind_of_ne (h : withoutSign y ≠ withoutSign x) : (ρ.bind x c).get? y = ρ.get? y :=
  if_neg h

/-- The frame behind lines that can be run. -/
def after (ρ : Frame) (ls : List Line) : Frame :=
  ls.foldl (fun ρ l => ρ.bind l.binder (.argument l.index)) ρ

theorem after_cons : ρ.after (l :: ls) = (ρ.bind l.binder (.argument l.index)).after ls := rfl

/-- A name that no line binds stands for what it did before. -/
theorem get?_after_of_not_mem (h : withoutSign x ∉ ls.map Line.identifier) :
    (ρ.after ls).get? x = ρ.get? x := by
  induction ls generalizing ρ with
  | nil => rfl
  | cons l ls ih =>
    rw [List.map_cons, List.mem_cons, not_or] at h
    rw [after_cons, ih h.2, get?_bind_of_ne h.1]

/-- Where no two lines bind one name, all variables keep what they were bound to. -/
theorem get?_after_of_mem (hnames : (ls.map Line.identifier).Nodup) (hl : l ∈ ls) :
    (ρ.after ls).get? l.binder = some (.argument l.index) := by
  induction ls generalizing ρ with
  | nil => cases hl
  | cons l' ls ih =>
    obtain ⟨hfresh, hnames⟩ := List.nodup_cons.mp hnames
    rw [after_cons]
    cases hl with
    | head => rw [get?_after_of_not_mem hfresh, get?_bind_self rfl]
    | tail _ hl => exact ih hnames hl

/-- **All variables keep what they were bound to iff no two lines bind one name.** -/
theorem get?_after_iff (hindex : (ls.map Line.index).Nodup) :
    (∀ l ∈ ls, (ρ.after ls).get? l.binder = some (.argument l.index)) ↔
      (ls.map Line.identifier).Nodup := by
  refine ⟨fun h => ?_, fun h l => get?_after_of_mem h⟩
  -- what a variable stands for depends on its identifier alone, so that indices tell these apart
  have hmap : (ls.map Line.identifier).map (ρ.after ls) =
      (ls.map Line.index).map fun i => some (.argument i) := by
    rw [List.map_map, List.map_map]
    exact List.map_congr_left h
  refine List.Nodup.of_map (ρ.after ls) ?_
  rw [hmap]
  exact hindex.map fun i j hij => by simpa using hij

/-- **Lines can be run iff none but the last hides the arguments of the call.** -/
theorem foldlM_run (hsource : ∀ l ∈ ls, l.source = "__args")
    (hargs : ρ.get? "__args" = some .arguments) : ls.foldlM Line.run ρ =
      if "__args" ∈ (ls.map Line.identifier).dropLast then none else some (ρ.after ls) := by
  induction ls generalizing ρ with
  | nil => rfl
  | cons l ls ih =>
    obtain ⟨hl, hls⟩ := List.forall_mem_cons.mp hsource
    have hrun : l.run ρ = some (ρ.bind l.binder (.argument l.index)) := by
      rw [Line.run, hl, if_pos hargs]
    rw [List.foldlM_cons, hrun]
    cases ls with
    | nil => rfl
    | cons l' ls =>
      have hargs' : withoutSign "__args" = "__args" := rfl
      by_cases hhides : l.identifier = "__args"
      · have hstuck : l'.run (ρ.bind l.binder (.argument l.index)) = none := by
          rw [Line.run, (List.forall_mem_cons.mp hls).1, get?_bind_self (hargs'.trans hhides.symm)]
          rfl
        rw [if_pos (by simp [hhides])]
        simp [hstuck]
      · have hkept : (ρ.bind l.binder (.argument l.index)).get? "__args" = some .arguments :=
          (get?_bind_of_ne fun h => hhides (h.symm.trans hargs')).trans hargs
        refine (ih hls hkept).trans ?_
        simp [Ne.symm hhides, after_cons]

end Frame

/-! ## Thunks -/

section Thunks

variable (params : List Binding)

theorem lines_binder : (lines params).map (·.binder) = params.map (·.binder) := by
  conv_rhs => rw [← List.zipIdx_map_fst 0 params]
  rw [lines, List.map_map, List.map_map]
  rfl

theorem lines_identifier : (lines params).map Line.identifier = identifiers params := by
  have h := congrArg (List.map withoutSign) (lines_binder params)
  rwa [List.map_map, List.map_map] at h

theorem lines_index : (lines params).map Line.index = List.range params.length := by
  rw [lines, List.map_map, List.range_eq_range', ← List.zipIdx_map_snd 0 params]
  rfl

theorem lines_source : ∀ l ∈ lines params, l.source = "__args" := by
  intro l hl
  obtain ⟨_, -, rfl⟩ := List.mem_map.mp hl
  rfl

variable {params} {ρ : Frame}

theorem passed?_eq_some_iff {call : List String} {result : List (Option Content)}
    (hargs : ρ.get? "__args" = some .arguments) : passed? ρ params call = some result ↔
      "__args" ∉ (identifiers params).dropLast ∧
        call.map (ρ.after (lines params)).get? = result := by
  rw [passed?, Frame.foldlM_run (lines_source params) hargs, lines_identifier]
  split <;> simp [*]

/-- The variables of the parameters are passed on in order iff no two of them have one name. -/
theorem map_binder_eq_iff : (params.map (·.binder)).map (ρ.after (lines params)).get? =
    inOrder params ↔ (identifiers params).Nodup := by
  rw [← lines_identifier, ← Frame.get?_after_iff (lines_index params ▸ List.nodup_range),
    ← lines_binder, inOrder, ← lines_index, List.map_map, List.map_map, List.map_inj_left]
  rfl

/-- **A constructor's thunk** passes its arguments on in their order iff its variables have
different names and none but the last hides the arguments of the call. -/
theorem constructorPasses_iff : constructorPasses params = some (inOrder params) ↔
    (identifiers params).Nodup ∧ "__args" ∉ (identifiers params).dropLast := by
  rw [constructorPasses, passed?_eq_some_iff rfl, map_binder_eq_iff, and_comm]

/-- **A method's thunk** also has to pass the receiver on, which no variable may hide. -/
theorem methodPasses_iff : methodPasses params = some (some .receiver :: inOrder params) ↔
    (identifiers params).Nodup ∧ "__args" ∉ (identifiers params).dropLast ∧
      "__this" ∉ identifiers params := by
  rw [methodPasses, passed?_eq_some_iff rfl, List.map_cons, List.cons.injEq, map_binder_eq_iff]
  constructor
  · rintro ⟨hargs, hthis, hnames⟩
    refine ⟨hnames, hargs, fun hmem => ?_⟩
    rw [← lines_identifier, List.mem_map] at hmem
    obtain ⟨l, hl, hname⟩ := hmem
    have hown : (Frame.ofMethod.after (lines params)).get? l.binder = some (.argument l.index) :=
      Frame.get?_after_of_mem (lines_identifier params ▸ hnames) hl
    cases hthis.symm.trans ((congrArg (Frame.ofMethod.after (lines params)) hname).symm.trans hown)
  · rintro ⟨hnames, hargs, hthis⟩
    refine ⟨hargs, ?_, hnames⟩
    rw [Frame.get?_after_of_not_mem (lines_identifier params ▸ hthis)]
    rfl

end Thunks

/-! ## Names of parameters -/

/-- The pattern of the parameter at the position binds this identifier. -/
def Binds (ps : List Parameter) (i : Nat) (x : String) : Prop :=
  ∃ p name, ps[i]? = some p ∧ Binding.nameOfPattern? p.pattern = some name ∧ withoutSign name = x

/-- The pattern of the parameter at the position binds no single name. -/
def Unnamed (ps : List Parameter) (i : Nat) : Prop :=
  ∃ p, ps[i]? = some p ∧ Binding.nameOfPattern? p.pattern = none

/-- The name from a position. -/
def positional (i : Nat) : String := "__arg" ++ toString i

/-- **No two parameters get one variable**: no two patterns bind one name, as in any function that
is accepted, and none binds the name that another parameter has from its position. -/
structure Apart (ps : List Parameter) : Prop where
  named : ∀ i j x, Binds ps i x → Binds ps j x → i = j
  positional : ∀ i j, Unnamed ps i → ¬ Binds ps j (positional i)

theorem toList_positional (i : Nat) :
    (positional i).toList = "__arg".toList ++ Nat.toDigits 10 i := by
  rw [positional, String.toList_append, Nat.toString_eq_repr, Nat.toList_repr]

theorem positional_injective : Function.Injective positional := by
  intro i j h
  have hlist := (toList_positional i).symm.trans
    ((congrArg String.toList h).trans (toList_positional j))
  have hnumber := congrArg (fun ds => Nat.ofDigitChars 10 ds 0) (List.append_cancel_left hlist)
  simpa using hnumber

/-- A name from a position is none of the thunk's own. -/
theorem positional_ne (i : Nat) : positional i ≠ "__args" ∧ positional i ≠ "__this" := by
  constructor
  · intro h
    have hlist := (toList_positional i).symm.trans (congrArg String.toList h)
    have hdigits : Nat.toDigits 10 i = ['s'] := List.append_cancel_left hlist
    have hdigit := Nat.isDigit_of_mem_toDigits (by omega) (by omega)
      (hdigits ▸ List.mem_singleton_self 's')
    revert hdigit
    decide
  · intro h
    have hlist := (toList_positional i).symm.trans (congrArg String.toList h)
    have hthird := congrArg (List.take 3) hlist
    revert hthird
    simp

theorem withoutSign_positional (i : Nat) : withoutSign (positional i) = positional i := by
  refine (withoutSign_eq_iff ?_).mpr (.inl rfl)
  simp [positional]

variable {ps : List Parameter} {i : Nat} {x : String}

/-- **The variable of a parameter** has the name that its pattern binds or one from its position. -/
theorem getElem?_identifiers : (identifiers (ps.mapIdx Binding.ofParameter))[i]? = some x ↔
    Binds ps i x ∨ (Unnamed ps i ∧ positional i = x) := by
  rw [identifiers, List.getElem?_map, List.getElem?_mapIdx, Option.map_map,
    Option.map_eq_some_iff]
  constructor
  · rintro ⟨p, hp, hx⟩
    cases hname : Binding.nameOfPattern? p.pattern with
    | some name =>
      refine .inl ⟨p, name, hp, hname, ?_⟩
      simpa [Binding.ofParameter, hname] using hx
    | none =>
      refine .inr ⟨⟨p, hp, hname⟩, ?_⟩
      rw [← withoutSign_positional]
      simpa [Binding.ofParameter, hname, positional] using hx
  · rintro (⟨p, name, hp, hname, rfl⟩ | ⟨⟨p, hp, hname⟩, rfl⟩)
    · exact ⟨p, hp, by simp [Binding.ofParameter, hname]⟩
    · refine ⟨p, hp, ?_⟩
      rw [← withoutSign_positional]
      simp [Binding.ofParameter, hname, positional]

theorem Binds.not_unnamed (h : Binds ps i x) : ¬ Unnamed ps i := by
  obtain ⟨p, name, hp, hname, -⟩ := h
  rintro ⟨q, hq, hnone⟩
  cases hp.symm.trans hq
  cases hname.symm.trans hnone

/-- **The variables have different names iff the parameters are apart.** -/
theorem identifiers_nodup_iff :
    (identifiers (ps.mapIdx Binding.ofParameter)).Nodup ↔ Apart ps := by
  constructor
  · intro h
    have hinj (i j : Nat) (x : String)
        (hi : (identifiers (ps.mapIdx Binding.ofParameter))[i]? = some x)
        (hj : (identifiers (ps.mapIdx Binding.ofParameter))[j]? = some x) : i = j :=
      (List.getElem?_inj (List.getElem?_eq_some_iff.mp hi).1 h).mp (hi.trans hj.symm)
    constructor
    · intro i j x hi hj
      exact hinj i j x (getElem?_identifiers.mpr (.inl hi)) (getElem?_identifiers.mpr (.inl hj))
    · intro i j hi hj
      obtain rfl := hinj i j _ (getElem?_identifiers.mpr (.inr ⟨hi, rfl⟩))
        (getElem?_identifiers.mpr (.inl hj))
      exact hj.not_unnamed hi
  · intro h
    refine List.nodup_iff_getElem?_ne_getElem?.mpr fun i j hij hj hsame => ?_
    have hget := List.getElem?_eq_getElem hj
    rcases getElem?_identifiers.mp (hsame.trans hget) with hi | ⟨hi, hxi⟩ <;>
      rcases getElem?_identifiers.mp hget with hj' | ⟨hj', hxj⟩
    · exact hij.ne (h.named i j _ hi hj')
    · exact h.positional j i hj' (hxj ▸ hi)
    · exact h.positional i j hi (hxi ▸ hj')
    · exact hij.ne (positional_injective (hxi.trans hxj.symm))

/-- A name that is none from a position is that of a variable iff a pattern binds it. -/
theorem mem_identifiers_iff (hx : ∀ i, positional i ≠ x) :
    x ∈ identifiers (ps.mapIdx Binding.ofParameter) ↔ ∃ i, Binds ps i x := by
  simp only [List.mem_iff_getElem?, getElem?_identifiers, hx, and_false, or_false]

theorem mem_dropLast_identifiers_iff (hx : ∀ i, positional i ≠ x) :
    x ∈ (identifiers (ps.mapIdx Binding.ofParameter)).dropLast ↔
      ∃ i, i + 1 < ps.length ∧ Binds ps i x := by
  have hlength : (identifiers (ps.mapIdx Binding.ofParameter)).length = ps.length := by
    rw [identifiers, List.length_map, List.length_mapIdx]
  simp only [List.mem_iff_getElem?, List.getElem?_dropLast, hlength, Option.ite_none_right_eq_some,
    getElem?_identifiers, hx, and_false, or_false]
  exact exists_congr fun i => and_congr_left' (by omega)

/-- No parameter but the last is named like the arguments of the call. -/
def ArgumentsLast (ps : List Parameter) : Prop := ∀ i, Binds ps i "__args" → i + 1 = ps.length

theorem argumentsLast_iff :
    "__args" ∉ (identifiers (ps.mapIdx Binding.ofParameter)).dropLast ↔ ArgumentsLast ps := by
  rw [mem_dropLast_identifiers_iff fun i => (positional_ne i).1, not_exists]
  refine forall_congr' fun i => ⟨fun h hi => ?_, fun h hi => ?_⟩
  · have hnext : ¬ i + 1 < ps.length := fun hlt => h ⟨hlt, hi⟩
    obtain ⟨p, -, hp, -⟩ := hi
    have hlt := (List.getElem?_eq_some_iff.mp hp).1
    omega
  · exact hi.1.ne (h hi.2)

/-- **Two underscores are enough to tell names apart**: where no pattern binds a name that begins
with them, and no two patterns bind one name, every thunk passes its arguments on in order. -/
theorem apart_of_plain (hnamed : ∀ i j x, Binds ps i x → Binds ps j x → i = j)
    (hplain : ∀ i x, Binds ps i x → x.toList.take 2 ≠ ['_', '_']) :
    Apart ps ∧ ArgumentsLast ps ∧ ∀ i, ¬ Binds ps i "__this" := by
  refine ⟨⟨hnamed, fun i j _ hj => hplain j _ hj ?_⟩, fun i hi => ?_, fun i hi => ?_⟩
  · rw [toList_positional]
    rfl
  · exact absurd rfl (hplain i _ hi)
  · exact hplain i _ hi rfl

/-! ## Emitted code -/

variable {settings : Settings} {block : Block} {e : Expansion} {all : List Shape} {fn : Function}
  {s : Shape} {simple : String} {params : List Binding}

/-- **The variables of a function**: one for each parameter. -/
structure BoundFrom (fn : Function) (params : List Binding) : Prop where
  params_eq : params = fn.parameters.mapIdx Binding.ofParameter
  /-- They have different names iff the parameters are apart. -/
  distinct : (identifiers params).Nodup ↔ Apart fn.parameters
  /-- They have names that thunks use themselves iff the function does. -/
  own : ∀ x, x = "__args" ∨ x = "__this" →
    (x ∈ identifiers params ↔ ∃ i, Binds fn.parameters i x)

theorem boundFrom_of_shape (h : Shape.ofFunction? simple fn = .ok s) : BoundFrom fn s.params := by
  obtain ⟨flags, rfl⟩ := ofFunction?_ok h
  refine ⟨rfl, identifiers_nodup_iff, ?_⟩
  rintro x (rfl | rfl)
  · exact mem_identifiers_iff fun i => (positional_ne i).1
  · exact mem_identifiers_iff fun i => (positional_ne i).2

theorem BoundFrom.constructorPasses_iff (h : BoundFrom fn params) :
    constructorPasses params = some (inOrder params) ↔
      Apart fn.parameters ∧ ArgumentsLast fn.parameters := by
  rw [Expansion.constructorPasses_iff, h.distinct, h.params_eq, argumentsLast_iff]

theorem BoundFrom.methodPasses_iff (h : BoundFrom fn params) :
    methodPasses params = some (some .receiver :: inOrder params) ↔
      Apart fn.parameters ∧ ArgumentsLast fn.parameters ∧
        ∀ i, ¬ Binds fn.parameters i "__this" := by
  rw [Expansion.methodPasses_iff, h.distinct, h.own _ (.inr rfl), not_exists, h.params_eq,
    argumentsLast_iff]

/-- **Which thunks pass their arguments on in their order.** The variables of everything that is
emitted for a function are those of its parameters, whose names decide on it; a thunk binds them by
the emitted lines. -/
theorem thunks_pass_iff (he : expand settings block = .ok e) :
    (∀ c ∈ e.constructors, ∀ params fallible, c.build = some (params, fallible) →
      ∃ fn ∈ block.functions, fn.name = c.name ∧ BoundFrom fn params ∧
        decodeTokens params = (lines params).flatMap Line.tokens ∧
        (constructorPasses params = some (inOrder params) ↔
          Apart fn.parameters ∧ ArgumentsLast fn.parameters)) ∧
    (∀ m ∈ e.methods, ∀ t, m.thunk = some t →
      ∃ fn ∈ block.functions, fn.name = m.signature.name ∧ BoundFrom fn t.params ∧
        decodeTokens t.params = (lines t.params).flatMap Line.tokens ∧
        (methodPasses t.params = some (some .receiver :: inOrder t.params) ↔
          Apart fn.parameters ∧ ArgumentsLast fn.parameters ∧
            ∀ i, ¬ Binds fn.parameters i "__this")) ∧
    ∀ w ∈ e.wrappers, ∃ fn ∈ block.functions, fn.name = w.name ∧ BoundFrom fn w.params := by
  obtain ⟨all, hall, -, hconstructors, hd⟩ := expand_ok he
  refine ⟨fun c hc params fallible hbuild => ?_, fun m hm t ht => ?_, fun w hw => ?_⟩
  · rw [hconstructors] at hc
    obtain ⟨s, hs, rfl⟩ := List.mem_map.mp hc
    obtain ⟨fn, hfn, hshape⟩ := exists_function hall (mem_declaredConstructors.mp hs).1
    have hbound := boundFrom_of_shape hshape
    obtain rfl : s.params = params := by
      simp only [ConstructorCode.ofShape] at hbuild
      split at hbuild
      · exact (Prod.mk.inj (Option.some.inj hbuild)).1
      · cases hbuild
    exact ⟨fn, hfn, (shape_name hshape).symm, hbound, decodeTokens_eq _,
      hbound.constructorPasses_iff⟩
  · rw [hd.methods_eq] at hm
    obtain ⟨s, hs, rfl⟩ := List.mem_map.mp hm
    obtain ⟨fn, hfn, hshape⟩ := exists_function hall (mem_declaredMethods.mp hs).1
    have hbound := boundFrom_of_shape hshape
    obtain rfl := (thunk_eq_some ht).2.2
    exact ⟨fn, hfn, (shape_name hshape).symm, hbound, decodeTokens_eq _, hbound.methodPasses_iff⟩
  · obtain ⟨i, s, hs, -, rfl⟩ := hd.exists_of_wrapper hw
    obtain ⟨fn, hfn, hshape⟩ :=
      exists_function hall (mem_declaredMethods.mp (List.mem_of_getElem? hs)).1
    exact ⟨fn, hfn, (shape_name hshape).symm, boundFrom_of_shape hshape⟩

/-- `pub fn new(_: u8, __arg0: u8) -> Self`. -/
def newOfTwo : Function :=
  { (default : Function) with
    visibility := .exported
    name := "new"
    parameters := [⟨[], [.word "_"], .named "u8"⟩, ⟨[], [.word "__arg0"], .named "u8"⟩]
    result := some (.named "Self") }

/-- A bag with this constructor. -/
def pairBlock : Block :=
  { (default : Block) with selfType := .named "Bag", items := [.function newOfTwo] }

/-- The constructor's parameters are not apart. -/
theorem thunks_pass_pair : ∃ e c params fallible, expand .none pairBlock = .ok e ∧
    c ∈ e.constructors ∧ c.build = some (params, fallible) ∧
    constructorPasses params ≠ some (inOrder params) := by
  have he : expand .none pairBlock = .ok _ := rfl
  have hc : ConstructorCode.ofShape (.ofFunction "Bag" newOfTwo .none) ∈
      [ConstructorCode.ofShape (.ofFunction "Bag" newOfTwo .none)] := List.mem_cons_self
  obtain ⟨fn, hfn, -, -, -, hpasses⟩ := (thunks_pass_iff he).1 _ hc _ _ rfl
  refine ⟨_, _, _, _, he, hc, rfl, fun hpass => ?_⟩
  obtain rfl := List.mem_singleton.mp hfn
  -- the wildcard's variable is named from its position, which is the name of the other one
  exact (hpasses.mp hpass).1.positional 0 1 ⟨_, rfl, rfl⟩ ⟨_, "__arg0", rfl, rfl, rfl⟩

/-- **One argument is passed on twice**: the second variable takes the place of the first. -/
theorem new_confuses : ∃ e c params fallible, expand .none pairBlock = .ok e ∧
    c ∈ e.constructors ∧ c.build = some (params, fallible) ∧ ¬ (identifiers params).Nodup ∧
    constructorPasses params = some [some (.argument 1), some (.argument 1)] :=
  ⟨_, _, _, _, rfl, List.mem_cons_self, rfl, by decide, rfl⟩

end Interpose.Expansion
