import Interpose.Proofs.Dispatch.Guard
import Interpose.Proofs.Expansion.Lineup
import Interpose.Proofs.Synthesis.Generation

/-!
# Syntax and signatures agree on what is intercepted

What a proxy intercepts is decided twice. The expansion of a block looks at the syntax of its
functions, and leaves out the thunk of what it cannot call through values. Describing and
synthesizing looks at the declared signatures and thunks. Here the two are compared, under the
options that a request has by default.

* `Shape.isObstacle` : the function may be overridden, but cannot be called through values.
* `RowOf` : the row of a declared function, as the syntax of the function foretells it.

Results:
* `isOverridable_eq`, `isGenerable_eq`: the two analyses agree on a method.
* `firstFault?_obstacle`: they agree on the first method that stands in the way.
* `rows_of_generated`: the rows are as foretold.
* **`generated_agrees`**: what describing and synthesizing a block gives, read off its functions.
-/

namespace Interpose.Expansion

open Source

variable {S : Type} {settings : Settings} {block : Block} {e : Expansion}
  {all methods : List Shape} {s : Shape} {desc : Ty → Desc} {d : Surface S} {m : Method S}

/-! ## One method -/

/-- The notes of a signature: those on parameters, then that on the result. -/
def SignatureCode.notes (s : SignatureCode) : List TypeNote :=
  s.params.map (·.type) ++ s.returns.toList

/-- The types that are converted have descriptors that can cross the value boundary. -/
def Convertible (desc : Ty → Desc) (s : SignatureCode) : Prop :=
  ∀ t, .converted t ∈ s.notes → (desc t).isRepresentable = true

/-- The function may be overridden, but cannot be called through values. -/
def Shape.isObstacle (s : Shape) : Bool :=
  !s.isSkipped && !s.isConstructor && s.isCandidate && !s.isRepresentable

/-- **Overridable** by syntax and by signature. -/
theorem MethodOf.isOverridable_eq (h : MethodOf desc (.ofShape s) m) :
    m.signature.isOverridable = s.isCandidate := by
  have hvisibility : m.signature.visibility = s.visibility := by rw [h.signature]; rfl
  have hfinal : m.signature.isFinal = s.isFinal := by rw [h.signature]; rfl
  unfold Signature.isOverridable Signature.isStatic Visibility.isAccessible Shape.isCandidate
  rw [h.receiver, hvisibility, hfinal, Bool.and_assoc, Bool.and_comm, bne, bne]
  simp only [beq_eq_decide, ne_eq, decide_not]

/-- What may be overridden and can be called through values takes its instance by reference. -/
theorem takesReference_of_isCandidate (hc : s.isCandidate = true) (hr : s.isRepresentable = true) :
    s.takesReference = true := by
  simp only [Shape.isCandidate, Shape.isRepresentable, Bool.and_eq_true, bne_iff_ne] at hc hr
  cases hreceiver : s.receiver with
  | static => exact absurd hreceiver hc.1.1
  | owned => exact absurd hreceiver hr.1.1.2
  | shared | exclusive => simp [Shape.takesReference, hreceiver]

/-- The types of what may be overridden and can be called through values are all converted. -/
theorem notes_converted (hc : s.isCandidate = true) (hr : s.isRepresentable = true)
    (hkind : s.isConstructor = false) :
    (MethodCode.ofShape s).signature.notes =
      s.params.map (fun b => .converted b.type) ++ (s.output.types.head?.map .converted).toList := by
  have hconverted : (s.isCandidate && s.takesReference) = true := by
    rw [hc, takesReference_of_isCandidate hc hr]
    rfl
  have hreturns : s.output.types.head?.map (TypeNote.ofType true) =
      s.output.types.head?.map .converted := by
    have hout := output_isRepresentable hr hkind
    cases houtput : s.output with
    | unit => rfl
    | plain t => simp_all [Output.isRepresentable, Output.types, TypeNote.ofType]
    | fallible ok err => simp_all [Output.isRepresentable, Output.types, TypeNote.ofType]
  show (paramNotes (s.isCandidate && s.takesReference) s.params).map (·.type) ++
    (s.output.types.head?.map (TypeNote.ofType (s.isCandidate && s.takesReference))).toList = _
  rw [hconverted, hreturns, paramNotes_converted (params_isRepresentable hr), List.map_map]
  rfl

/-- A signature whose notes are all converted can be routed through values. -/
theorem MethodOf.reason_eq_none (h : MethodOf desc (.ofShape s) m) (hc : s.isCandidate = true)
    (hr : s.isRepresentable = true) (hkind : s.isConstructor = false)
    (hdesc : Convertible desc (MethodCode.ofShape s).signature) :
    m.signature.unrepresentableReason? = none := by
  have hnotes : ∀ n ∈ (MethodCode.ofShape s).signature.notes,
      (n.descWith desc).isRepresentable = true := by
    intro n hn
    have hn' := hn
    rw [notes_converted hc hr hkind] at hn'
    obtain ⟨t, rfl⟩ : ∃ t, n = .converted t := by
      simp only [List.mem_append, List.mem_map, Option.mem_toList,
        Option.map_eq_some_iff] at hn'
      rcases hn' with ⟨b, -, rfl⟩ | ⟨t, -, rfl⟩ <;> exact ⟨_, rfl⟩
    exact hdesc t hn
  rw [unrepresentableReason?_eq_none, h.signature]
  refine ⟨?_, ?_, ?_⟩
  · show s.receiver ≠ .owned
    intro howned
    simp [Shape.isRepresentable, howned] at hr
  · intro q hq
    obtain ⟨n, hn, rfl⟩ := List.mem_map.mp hq
    exact hnotes _ (List.mem_append_left _ (List.mem_map_of_mem hn))
  · show (((MethodCode.ofShape s).signature.returns.map _).getD Desc.unit).isRepresentable = true
    cases hreturns : (MethodCode.ofShape s).signature.returns with
    | none => rfl
    | some n =>
      refine hnotes n (List.mem_append_right _ ?_)
      simp [hreturns]

/-- **Generable** by signature and code, and representable by syntax. -/
theorem MethodOf.isGenerable_eq (h : MethodOf desc (.ofShape s) m) (hc : s.isCandidate = true)
    (hkind : s.isConstructor = false)
    (hdesc : Convertible desc (MethodCode.ofShape s).signature) :
    m.isGenerable = s.isRepresentable := by
  unfold Method.isGenerable
  rw [h.isSome_original, hc]
  cases hr : s.isRepresentable with
  | true =>
    rw [h.reason_eq_none hc hr hkind hdesc, takesReference_of_isCandidate hc hr]
    rfl
  | false => rw [Bool.and_false, Bool.and_false]

/-! ## The first method in the way -/

theorem admits_all (s : Signature) : Filter.all.admits s = true := rfl

/-- **The two analyses agree on the first method in the way**, by its name. -/
theorem SurfaceOf.firstFault?_obstacle (hd : SurfaceOf desc e d)
    (hdecl : Declares e (declaredMethods all))
    (hdesc : ∀ c ∈ e.methods, Convertible desc c.signature) :
    (d.firstFault? .all).map (·.signature.name) = (all.find? Shape.isObstacle).map (·.name) := by
  have hobstacle : all.find? Shape.isObstacle =
      (declaredMethods all).find? fun s => s.isCandidate && !s.isRepresentable := by
    rw [declaredMethods, List.find?_filter, List.find?_filter]
    congr 1
    funext s
    simp only [Shape.isObstacle]
    cases s.isSkipped <;> cases s.isConstructor <;> simp
  have heach : List.Forall₂ (fun s m => (s.isConstructor = false ∧
      Convertible desc (MethodCode.ofShape s).signature) ∧ MethodOf desc (.ofShape s) m)
      (declaredMethods all) d.methods := by
    refine (List.forall₂_and_left _ _).mpr ⟨fun s hs => ⟨hdecl.no_constructor s hs, ?_⟩,
      hd.methods_of hdecl⟩
    exact hdesc _ (hdecl.methods_eq ▸ List.mem_map_of_mem hs)
  rw [hobstacle]
  refine (find?_map_eq_of_forall₂ heach fun s m h => ?_).symm
  obtain ⟨⟨hkind, hconvertible⟩, hm⟩ := h
  refine ⟨hm.name.symm, ?_⟩
  rw [hm.isOverridable_eq, admits_all, Bool.and_true]
  cases hc : s.isCandidate with
  | true => rw [hm.isGenerable_eq hc hkind hconvertible]
  | false => rfl

/-! ## Constructors -/

/-- The function is a declared constructor that others may name. -/
def Shape.isEntrance (s : Shape) : Bool :=
  !s.isSkipped && s.isConstructor && s.visibility.isAccessible

/-- **The two analyses agree on who can make an instance.** -/
theorem SurfaceOf.isOpen_eq (hd : SurfaceOf desc e d)
    (hconstructors : e.constructors = (declaredConstructors all).map ConstructorCode.ofShape) :
    d.isOpen = all.any Shape.isEntrance := by
  have heach : List.Forall₂ (fun s => ConstructorOf desc (.ofShape s))
      (declaredConstructors all) d.constructors := by
    rw [← List.forall₂_map_left_iff, ← hconstructors]
    exact hd.constructors
  have hvisibility : (declaredConstructors all).map (·.visibility) =
      d.constructors.map (·.visibility) :=
    map_eq_of_forall₂ heach fun s k h => h.visibility.symm
  have hany : d.isOpen = (d.constructors.map (·.visibility)).any Visibility.isAccessible := by
    rw [List.any_map]
    rfl
  rw [hany, ← hvisibility, List.any_map, declaredConstructors, List.any_filter, List.any_filter]
  congr 1
  funext s
  simp [Shape.isEntrance, Bool.and_assoc]

/-! ## Rows -/

/-- **The row of a declared function**: intercepted if the function may be overridden, and not
callable at all otherwise. -/
structure RowOf (s : Shape) (row : Interpose.Entry S) : Prop where
  name : row.signature.name = s.name
  intercepted : s.isCandidate = true → row.route.isIntercept = true
  unavailable : s.isCandidate = false → row.route = .unavailable

variable {H : Type} {t : Target S} {p : ProxyType S}

theorem rowOf_entry (hp : Generated d .all t p) {i : Nat} (hm : d.methods[i]? = some m)
    (h : MethodOf desc (.ofShape s) m) {row : Interpose.Entry S} (hrow : p.entries[i]? = some row) :
    RowOf s row := by
  have hselects : Filter.all.Selects m.signature ↔ s.isCandidate = true := by
    rw [Filter.selects_iff, admits_all, Bool.and_true, h.isOverridable_eq]
  rcases entry_cases hp hm with ⟨hsel, k, slot, -, -, -, he⟩ | ⟨hsel, he⟩
  · cases hrow.symm.trans he
    refine ⟨h.name, fun _ => rfl, fun hc => ?_⟩
    rw [hselects.mp hsel] at hc
    cases hc
  · cases hrow.symm.trans he
    refine ⟨h.name, fun hc => absurd (hselects.mpr hc) hsel, fun hc => ?_⟩
    have hcode : m.original.isSome = false := by rw [h.isSome_original, hc]; rfl
    exact (ownRoute_unavailable_iff m).mpr fun hcallable => by simp [hcode] at hcallable

/-- **The rows are as foretold**, one for each declared function. -/
theorem SurfaceOf.rows_of_generated (hd : SurfaceOf desc e d)
    (hdecl : Declares e (declaredMethods all)) (hp : Generated d .all t p) :
    List.Forall₂ RowOf (declaredMethods all) p.entries := by
  have hmethods := hd.methods_of hdecl
  have hlength : (declaredMethods all).length = p.entries.length := by
    rw [entries_length hp, hmethods.length_eq]
  refine List.forall₂_iff_get.mpr ⟨hlength, fun i hi hi' => ?_⟩
  obtain ⟨m, hm, hmethod⟩ := forall₂_getElem? hmethods (List.getElem?_eq_getElem hi)
  exact rowOf_entry hp hm hmethod (List.getElem?_eq_getElem hi')

/-- No method can be called by the name of a declared function that may not be overridden. -/
theorem SurfaceOf.callable?_eq_none (hd : SurfaceOf desc e d)
    (hdecl : Declares e (declaredMethods all)) (hnames : ((declaredMethods all).map (·.name)).Nodup)
    (hs : s ∈ declaredMethods all) (hc : s.isCandidate = false) : d.callable? s.name = none := by
  rw [Interpose.callable?_eq_none]
  rintro m hm hname ⟨-, hcode⟩
  obtain ⟨i, hi⟩ := List.getElem?_of_mem hm
  obtain ⟨s', hs', hmethod⟩ := forall₂_getElem? (hd.methods_of hdecl).flip hi
  -- the only function of the name is the one that may not be overridden
  have hsame : s'.name = s.name := hmethod.name.symm.trans hname
  obtain rfl := List.inj_on_of_nodup_map hnames (List.mem_of_getElem? hs') hs hsame
  rw [hmethod.isSome_original, hc] at hcode
  cases hcode

/-! ## The whole -/

/-- **Syntax and signatures agree.** For a block of functions with different names that is expanded
without being sealed, and descriptors of converted types that can cross the value boundary: what
describing and synthesizing the declared surface gives by default is read off the functions. It is
refused as a whole iff no declared constructor may be named by others; else it fails iff some
declared method may be overridden but not called through values, and names the first of them; else
exactly the methods that may be overridden are intercepted, and no other one can be called. -/
theorem generated_agrees (he : expand settings block = .ok e) (hsealed : settings.isSealed = false)
    (hnames : (block.functions.map (·.name)).Nodup) (hall : shapes e.simple block = .ok all)
    (hd : SurfaceOf desc e d) (hdesc : ∀ c ∈ e.methods, Convertible desc c.signature)
    (interceptor : Tag) (serial : Nat) :
    let answer := Request.generated ⟨d, interceptor, .standard⟩ serial
    ((∃ type reason, answer = .error (.notExtendable type reason)) ↔
      ¬ ∃ s ∈ all, s.isEntrance = true) ∧
    ((∃ s ∈ all, s.isEntrance = true) →
      ((∃ type name reason, answer = .error (.generation type name reason)) ↔
        ∃ s ∈ all, s.isObstacle = true) ∧
      (∀ s, all.find? Shape.isObstacle = some s →
        ∃ reason, answer = .error (.generation d.qualified s.name reason)) ∧
      ((¬ ∃ s ∈ all, s.isObstacle = true) → ∃ p, answer = .ok p ∧
        List.Forall₂ RowOf (declaredMethods all) p.entries ∧
        ∀ s ∈ declaredMethods all, s.isCandidate = false →
          ∀ (icp : Interceptor H S) (args : List Value) (state : S) (hooks : H),
            Instance.invoke ⟨p, state⟩ icp s.name args hooks =
              .error (.noSuchMethod d.qualified s.name))) := by
  intro answer
  obtain ⟨all', hall', hsealed', hconstructors, hdecl⟩ := expand_ok he
  cases hall.symm.trans hall'
  have hmethods := names_nodup hall hnames
  have hsurface : (d.methods.map (·.signature.name)).Nodup := by
    have hsame : (declaredMethods all).map (·.name) = d.methods.map (·.signature.name) :=
      map_eq_of_forall₂ (hd.methods_of hdecl) fun s m h => h.name.symm
    rw [← hsame]
    exact hmethods
  have hentrance : (∃ s ∈ all, s.isEntrance = true) ↔ d.isOpen = true := by
    rw [hd.isOpen_eq hconstructors, List.any_eq_true]
  have hobstacle := hd.firstFault?_obstacle hdecl hdesc
  have hcases : Generation d .all answer := generated_cases hsurface interceptor .standard serial
  generalize answer = answered at hcases
  rw [hentrance]
  cases hcases with
  | isSealed hd' =>
    rw [hd.isSealed, hsealed', hsealed] at hd'
    cases hd'
  | closed _ hopen => simp [hopen]
  | @fault m reason _ hopen hm =>
    obtain ⟨s, hs, hname⟩ : ∃ s, all.find? Shape.isObstacle = some s ∧
        s.name = m.signature.name := by
      rw [hm, Option.map_some] at hobstacle
      exact Option.map_eq_some_iff.mp hobstacle.symm
    have hin : ∃ s ∈ all, s.isObstacle = true :=
      ⟨s, List.mem_of_find?_eq_some hs, List.find?_some hs⟩
    refine ⟨by simp [hopen], fun _ => ⟨by simp [hin], fun s' hs' => ?_, fun hno => absurd hin hno⟩⟩
    cases hs.symm.trans hs'
    exact ⟨reason, by rw [hname]⟩
  | @made t p _ hopen hnone hp =>
    have hfree : all.find? Shape.isObstacle = none := by
      rw [hnone, Option.map_none] at hobstacle
      exact Option.map_eq_none_iff.mp hobstacle.symm
    have hno : ¬ ∃ s ∈ all, s.isObstacle = true := by
      rintro ⟨s, hs, hsome⟩
      exact List.find?_eq_none.mp hfree s hs hsome
    refine ⟨by simp [hopen], fun _ => ⟨by simp [hno], fun s hs => ?_, fun _ =>
      ⟨p, rfl, hd.rows_of_generated hdecl hp, fun s hs hc icp args state hooks => ?_⟩⟩⟩
    · cases hfree.symm.trans hs
    · exact invoke_of_callable?_eq_none hp (hd.callable?_eq_none hdecl hmethods hs hc)

/-- Host types with a value form have descriptors that can cross the value boundary, by induction on
the type. -/
theorem desc_isRepresentable (t : HostType) : t.desc.isRepresentable = true := by
  induction t with
  | integer k => cases k <;> rfl
  | list item ih | option item ih => exact ih
  | _ => rfl

/-- `fn reset(&mut self)`, of the counter alone. -/
def resetMethod : Function :=
  { (default : Function) with name := "reset", receiver := some ⟨[], .reference none true⟩ }

/-- `pub fn into_total(self) -> u8`. -/
def intoTotalMethod : Function :=
  { (default : Function) with
    visibility := .exported
    name := "into_total"
    receiver := some ⟨[], .value false⟩
    result := some (.named "u8") }

/-- The counter with one more method. -/
def counterWith (fn : Function) : Block :=
  { counterBlock with items := counterBlock.items ++ [.function fn] }

/-- An internal method of the counter cannot be called through a proxy; with a method that consumes
the counter there is no proxy. -/
theorem generated_agrees_counter :
    let request (e : Expansion) : Request (World Nat) :=
      ⟨e.surface counterScope counterLibrary, ⟨0, "tests::Noop"⟩, .standard⟩
    (∃ e p, expand .none (counterWith resetMethod) = .ok e ∧ (request e).generated 0 = .ok p ∧
      Instance.invoke ⟨p, ⟨0, 0⟩⟩ (.passThrough : Interceptor Unit (World Nat)) "reset" [] () =
        .error (.noSuchMethod "tests::Counter" "reset")) ∧
    ∃ e reason, expand .none (counterWith intoTotalMethod) = .ok e ∧
      (request e).generated 0 = .error (.generation "tests::Counter" "into_total" reason) := by
  intro request
  have hagrees (fn : Function) (e : Expansion) (all : List Shape)
      (he : expand .none (counterWith fn) = .ok e) (hself : e.simple = "Counter")
      (hnames : ((counterWith fn).functions.map (·.name)).Nodup)
      (hall : shapes "Counter" (counterWith fn) = .ok all) :=
    generated_agrees (H := Unit) he rfl hnames (hself ▸ hall)
      (surfaceOf_surface counterScope counterLibrary e)
      (fun _ _ t _ => desc_isRepresentable _) ⟨0, "tests::Noop"⟩ 0
  constructor
  · obtain ⟨e, he, hself⟩ : ∃ e, expand .none (counterWith resetMethod) = .ok e ∧
        e.simple = "Counter" := ⟨_, rfl, rfl⟩
    obtain ⟨-, hopen⟩ := hagrees resetMethod e _ he hself (by decide) rfl
    obtain ⟨-, -, hmade⟩ := hopen ⟨_, List.mem_cons_self, rfl⟩
    obtain ⟨p, hp, -, hnot⟩ := hmade (by decide)
    exact ⟨e, p, he, hp,
      hnot (counterShape resetMethod) (List.mem_of_getElem? (i := 2) rfl) rfl _ _ _ _⟩
  · obtain ⟨e, he, hself⟩ : ∃ e, expand .none (counterWith intoTotalMethod) = .ok e ∧
        e.simple = "Counter" := ⟨_, rfl, rfl⟩
    obtain ⟨-, hopen⟩ := hagrees intoTotalMethod e _ he hself (by decide) rfl
    obtain ⟨-, hfirst, -⟩ := hopen ⟨_, List.mem_cons_self, rfl⟩
    obtain ⟨reason, hreason⟩ := hfirst (counterShape intoTotalMethod) rfl
    exact ⟨e, reason, he, hreason⟩

end Interpose.Expansion
