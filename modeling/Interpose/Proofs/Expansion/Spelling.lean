import Interpose.Proofs.Expansion.Lineup

/-!
# The signatures of the wrapper

A method of the wrapper is written anew, from the shape of its function. The name and the types of
the parameters come through as they are written, and the receiver as far as it tells how the
instance is taken. The result is taken apart and put together again: what looks like a `Result` of
two types is written as the standard one, whatever led to its name and whatever other arguments
there were.

* `ResultWritten` has one rule per way in which a result is written.
* `Signed` : the signature of a method of the wrapper, from its function.

Results:
* `resultWritten_ofResult`: the rules cover all results.
* `outputTokens_kept_iff`: which results keep their spelling.
* **`wrapper_signed`**: all methods of the wrapper.
* `load_respelled`: a method whose result loses an argument on the way.
-/

namespace Interpose.Expansion

open Source

/-! ## Results -/

/-- The type looks like a `Result` of these two: it is a path that ends in that name, with these
types among its arguments and no others. -/
def LooksFallible (t ok err : Ty) : Prop :=
  ∃ turbofish args trailing, t.lastSegment? = some (.applied "Result" turbofish args trailing) ∧
    Output.typeArguments args = [ok, err]

/-- **How the result of a function is written** in the wrapper. -/
inductive ResultWritten : Option Ty → List Token → Prop
  | none : ResultWritten none []
  /-- The unit type is left out. -/
  | unit (trailing : Bool) : ResultWritten (some (.tuple [] trailing)) []
  /-- Any type that does not look like a `Result` is written as it is. -/
  | kept {t : Ty} (hunit : ∀ trailing, t ≠ .tuple [] trailing)
    (h : ∀ ok err, ¬ LooksFallible t ok err) :
    ResultWritten (some t) (operator "->" ++ t.tokens)
  /-- One that does is written as the standard one, with its two types as they are. -/
  | respelled {t ok err : Ty} (h : LooksFallible t ok err) :
    ResultWritten (some t) (operator "->" ++ resultType ok.tokens err.tokens)

theorem LooksFallible.ofType_eq {t ok err : Ty} (h : LooksFallible t ok err) :
    Output.ofType t = .fallible ok err := by
  obtain ⟨turbofish, args, trailing, hlast, htypes⟩ := h
  unfold Output.ofType
  split
  · cases hlast
  · simp only [hlast, htypes]

/-- **The rules cover all results**: the emitted tokens go by one of them. -/
theorem resultWritten_ofResult (result : Option Ty) :
    ResultWritten result (outputTokens (.ofResult result)) := by
  cases result with
  | none => exact .none
  | some t =>
    show ResultWritten (some t) (outputTokens (.ofType t))
    by_cases hfallible : ∃ ok err, LooksFallible t ok err
    · obtain ⟨ok, err, h⟩ := hfallible
      rw [h.ofType_eq]
      exact .respelled h
    · have hno (ok err : Ty) (h : LooksFallible t ok err) : False := hfallible ⟨ok, err, h⟩
      unfold Output.ofType
      split
      next => exact .unit _
      next hunit =>
        split
        next hlast =>
          split
          next htypes => exact (hno _ _ ⟨_, _, _, hlast, htypes⟩).elim
          next => exact .kept hunit hno
        next => exact .kept hunit hno

/-- **Which results keep their spelling**: all but the unit type and what looks like a `Result` and
is not spelled like the standard one. -/
theorem outputTokens_kept_iff (t : Ty) :
    outputTokens (.ofResult (some t)) = operator "->" ++ t.tokens ↔
      (∀ trailing, t ≠ .tuple [] trailing) ∧
        ∀ ok err, LooksFallible t ok err → t.tokens = resultType ok.tokens err.tokens := by
  have hwritten := resultWritten_ofResult (some t)
  generalize outputTokens (.ofResult (some t)) = tokens at hwritten
  cases hwritten with
  | unit trailing =>
    refine ⟨fun h => ?_, fun h => absurd rfl (h.1 trailing)⟩
    cases h
  | kept hunit h => simp [hunit, fun ok err hlooks => h ok err hlooks]
  | @respelled _ ok err h =>
    rw [List.append_right_inj]
    constructor
    · refine fun htokens => ⟨fun trailing ht => ?_, fun ok' err' h' => ?_⟩
      · subst ht
        obtain ⟨_, _, _, hlast, -⟩ := h
        cases hlast
      · obtain ⟨rfl, rfl⟩ := Output.fallible.inj (h.ofType_eq.symm.trans h'.ofType_eq)
        exact htokens.symm
    · exact fun hkept => (hkept.2 ok err h).symm

/-! ## Methods of the wrapper -/

/-- **The signature of a method of the wrapper**, from its function. -/
structure Signed (fn : Function) (w : WrapperCode) : Prop where
  /-- It takes the proxy as the function does its instance. A lifetime is not written. -/
  receiver : ∃ attributes lifetime, fn.receiver = some ⟨attributes, .reference lifetime w.exclusive⟩
  /-- It has the name of the function and the types of its parameters, in order, as they are
  written. -/
  tokens : w.signatureTokens = [.word "fn", .word fn.name, parens (
    .mark '&' false :: mutTokens w.exclusive ++ [.word "self", .mark ',' false] ++
      commaBetween (fn.parameters.mapIdx fun i q =>
        .word (Binding.ofParameter i q).binder :: .mark ':' false :: q.type.tokens))] ++
    outputTokens (.ofResult fn.result)
  result : ResultWritten fn.result (outputTokens (.ofResult fn.result))
  /-- So the spelling of the result is kept, but for the unit type and for what looks like a
  `Result` and is spelled in another way than the standard one. -/
  kept : ∀ t, fn.result = some t →
    (outputTokens (.ofResult fn.result) = operator "->" ++ t.tokens ↔
      (∀ trailing, t ≠ .tuple [] trailing) ∧
        ∀ ok err, LooksFallible t ok err → t.tokens = resultType ok.tokens err.tokens)

variable {settings : Settings} {block : Block} {e : Expansion} {fn : Function} {s : Shape}
  {simple : String}

theorem signed_ofShape (h : Shape.ofFunction? simple fn = .ok s) (hs : s.isWrappable = true)
    (i : Nat) : Signed fn (WrapperCode.ofShape i s) where
  receiver := receiver_of_takesReference h (takesReference_of_isWrappable hs)
  tokens := by
    obtain ⟨flags, rfl⟩ := ofFunction?_ok h
    have hparam (j : Nat) (q : Parameter) : (Binding.ofParameter j q).type = q.type := by
      unfold Binding.ofParameter
      split <;> rfl
    simp only [WrapperCode.signatureTokens, WrapperCode.ofShape, Shape.ofFunction,
      List.mapIdx_eq_zipIdx_map, List.map_map, Function.comp_def, hparam]
    rfl
  result := resultWritten_ofResult fn.result
  kept t ht := ht ▸ outputTokens_kept_iff t

/-- **The signatures of the wrapper**, for any block that is expanded: it has one method for every
function that is not left out and that the wrapper can have, in source order, signed like it. -/
theorem wrapper_signed (he : expand settings block = .ok e) : ∃ ps : List Nat,
    ps.Pairwise (· < ·) ∧
    List.Forall₂ (fun i w => ∃ fn, block.functions[i]? = some fn ∧ Signed fn w) ps e.wrappers ∧
    ∀ i, i ∈ ps ↔ ∃ fn s, block.functions[i]? = some fn ∧ ¬ LeftOut fn ∧
      Shape.ofFunction? e.simple fn = .ok s ∧ s.isWrappable = true := by
  obtain ⟨all, hall, hd⟩ := declares_of_expand he
  let offered (s : Shape) : Bool := s.isWrappable && (!s.isConstructor && !s.isSkipped)
  refine ⟨positions offered all, positions_pairwise .., ?_, fun i => ?_⟩
  · have hitems := positions_items offered all
    have hoffered : all.filter offered = (declaredMethods all).filter Shape.isWrappable := by
      simp only [declaredMethods, List.filter_filter, offered]
    rw [hoffered, filter_eq_map_fst, List.forall₂_map_right_iff] at hitems
    rw [hd.wrappers_eq, wrapperCodes, List.forall₂_map_right_iff]
    refine hitems.imp fun i m hm => ?_
    obtain ⟨fn, hfn, hshape⟩ := forall₂_getElem? (shapes_ok_iff.mp hall).flip hm.1
    exact ⟨fn, hfn, signed_ofShape hshape (Bool.and_eq_true_iff.mp hm.2).1 m.2⟩
  · rw [mem_positions]
    constructor
    · rintro ⟨s, hs, hq⟩
      obtain ⟨fn, hfn, hshape⟩ := forall₂_getElem? (shapes_ok_iff.mp hall).flip hs
      simp only [offered, Bool.and_eq_true, Bool.not_eq_true'] at hq
      refine ⟨fn, s, hfn, ?_, hshape, hq.1⟩
      rw [leftOut_iff hshape, hq.2.2]
      exact Bool.false_ne_true
    · rintro ⟨fn, s, hfn, hkept, hshape, hs⟩
      obtain ⟨s', hs', hown⟩ := forall₂_getElem? (shapes_ok_iff.mp hall) hfn
      cases hshape.symm.trans hown
      rw [leftOut_iff hshape, Bool.not_eq_true] at hkept
      have hconstructor := isConstructor_eq_false hshape
        (receiver_ne_static (takesReference_of_isWrappable hs))
      exact ⟨s, hs', by simp [offered, hs, hkept, hconstructor]⟩

/-- `pub fn load(&self) -> crate::Result<'static, String, LoadError>`. -/
def loadMethod : Function :=
  { (default : Function) with
    visibility := .exported
    name := "load"
    receiver := some ⟨[], .reference none false⟩
    result := some (.path false [.plain "crate", .applied "Result" false
      [.lifetime "static", .type (.named "String"), .type (.named "LoadError")] false]) }

/-- `pub fn save(&mut self, path: String) -> bool`. -/
def saveMethod : Function :=
  { (default : Function) with
    visibility := .exported
    name := "save"
    receiver := some ⟨[], .reference none true⟩
    parameters := [⟨[], [.word "path"], .named "String"⟩]
    result := some (.named "bool") }

/-- A store with a constructor and both methods. -/
def storeBlock : Block :=
  { (default : Block) with
    selfType := .named "Store"
    items := [
      .function { (default : Function) with
        visibility := .exported, name := "new", result := some (.named "Self") },
      .function saveMethod, .function loadMethod] }

/-- The wrapper of the store has both methods, and saving is signed as it is declared. -/
theorem wrapper_signed_store : ∃ e, expand .none storeBlock = .ok e ∧
    (∃ ps, List.Forall₂ (fun (i : Nat) w => ∃ fn, storeBlock.functions[i]? = some fn ∧ Signed fn w)
      ps e.wrappers) ∧
    e.wrappers.map (·.name) = ["save", "load"] ∧
    ∀ w, e.wrappers.head? = some w → w.signatureTokens = [.word "fn", .word "save", parens [
      .mark '&' false, .word "mut", .word "self", .mark ',' false,
      .word "path", .mark ':' false, .word "String"]] ++ operator "->" ++ [.word "bool"] := by
  have he : expand .none storeBlock = .ok _ := rfl
  obtain ⟨ps, -, hsigned, -⟩ := wrapper_signed he
  refine ⟨_, he, ⟨ps, hsigned⟩, rfl, ?_⟩
  rintro _ ⟨⟩
  rfl

/-- **It is respelled**: loading is in the wrapper with the standard `Result`, without the lifetime
that the declared one is applied to. -/
theorem load_respelled : ∃ e w t, expand .none storeBlock = .ok e ∧
    loadMethod ∈ storeBlock.functions ∧ ¬ LeftOut loadMethod ∧ loadMethod.result = some t ∧
    t.tokens = .word "crate" :: operator "::" ++ .word "Result" :: angles [
      .lifetime "static", .mark ',' false, .word "String", .mark ',' false, .word "LoadError"] ∧
    w ∈ e.wrappers ∧ w.name = loadMethod.name ∧
    outputTokens w.output = operator "->" ++ resultType [.word "String"] [.word "LoadError"] ∧
    outputTokens w.output ≠ operator "->" ++ t.tokens := by
  refine ⟨_, _, _, rfl, List.mem_cons_of_mem _ (List.mem_cons_of_mem _ List.mem_cons_self), ?_, rfl,
    rfl, List.mem_cons_of_mem _ List.mem_cons_self, rfl, rfl, ?_⟩
  · rintro ⟨flags, hflags, hskipped⟩
    cases hflags
    cases hskipped
  · -- both end in the two types, with another token before the first of them
    intro h
    have hends : phrase ":: std :: result :: Result" ++
          [.mark '<' false, .word "String", .mark ',' false, .word "LoadError", .mark '>' false] =
        (.word "crate" :: operator "::" ++
          [.word "Result", .mark '<' false, .lifetime "static"]) ++
          [.mark ',' false, .word "String", .mark ',' false, .word "LoadError", .mark '>' false] :=
      List.append_cancel_left h
    cases List.append_inj_right' hends rfl

end Interpose.Expansion
