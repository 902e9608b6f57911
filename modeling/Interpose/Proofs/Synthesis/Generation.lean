import Interpose.Proofs.Synthesis.Assignment

/-!
# What generating gives

Describing a surface and synthesizing, taken together. Where the methods of a surface have different
names no two of them can be in conflict, and all that can stand in the way of a generated type is
the surface as a whole or a single method.

* `Method.isGenerable` : the method has the types and the code that a slot is generated from.
* `Surface.firstFault?` : the first selected method that has not.
* `Generation` has one rule per answer.

Results:
* `firstFault?_eq`: the first slot that cannot be generated is that of this method.
* `firstFault?_of_error`: a pass over the slots that fails has met it.
* **`generated_cases`**: the rules cover every surface whose methods have different names.
-/

namespace Interpose

variable {S : Type} {d : Surface S} {f : Filter}

/-! ## Methods that cannot be generated -/

/-- Has the method the types and the code that a slot is generated from? -/
def Method.isGenerable (m : Method S) : Bool :=
  m.signature.unrepresentableReason?.isNone && m.original.isSome

theorem Slot.generable_iff (s : Slot S) : s.Generable ↔ s.method.isGenerable = true := by
  simp [Slot.Generable, Method.isGenerable, Slot.signature]

/-- Calls can be routed through values unless the receiver is consumed or a type cannot cross. -/
theorem unrepresentableReason?_eq_none (s : Signature) : s.unrepresentableReason? = none ↔
    s.receiver ≠ .owned ∧ (∀ q ∈ s.params, q.type.isRepresentable = true) ∧
      s.returns.isRepresentable = true := by
  unfold Signature.unrepresentableReason?
  by_cases howned : s.receiver = .owned
  · simp [howned]
  · cases hfind : s.params.find? fun q => !q.type.isRepresentable with
    | some q =>
      have hq := List.find?_some hfind
      have hmem := List.mem_of_find?_eq_some hfind
      simp only [howned, if_false, reduceCtorEq, ne_eq, not_false_eq_true, true_and, false_iff]
      rintro ⟨hall, -⟩
      rw [hall q hmem] at hq
      cases hq
    | none =>
      have hall : ∀ q ∈ s.params, q.type.isRepresentable = true := by
        simpa using List.find?_eq_none.mp hfind
      by_cases hreturns : s.returns.isRepresentable = true
      · simpa [howned, hreturns] using hall
      · simp [howned, hreturns]

/-- The first method that is selected but cannot be generated. -/
def Surface.firstFault? (d : Surface S) (f : Filter) : Option (Method S) :=
  d.methods.find? fun m =>
    m.signature.isOverridable && f.admits m.signature && !m.isGenerable

/-- The first slot that cannot be generated is that of the first such method. -/
theorem firstFault?_eq (d : Surface S) (f : Filter) :
    d.firstFault? f = ((d.select f).find? fun s => !s.method.isGenerable).map (·.method) := by
  have hmap : ((d.select f).find? fun s => !s.method.isGenerable).map (·.method) =
      ((d.select f).map (·.method)).find? fun m => !m.isGenerable := by
    rw [List.find?_map]
    rfl
  rw [hmap, select_methods, List.find?_filter]
  simp only [Surface.firstFault?, Bool.decide_and, Bool.decide_eq_true]

/-- A generated type shows that no selected method is in the way. -/
theorem firstFault?_eq_none {t : Target S} {p : ProxyType S} (hp : Generated d f t p) :
    d.firstFault? f = none := by
  obtain ⟨rfl, a, hsettled, -⟩ := settled_of_synthesize hp
  rw [firstFault?_eq, Option.map_eq_none_iff, List.find?_eq_none]
  intro s hmem
  simpa using (Slot.generable_iff s).mp (hsettled.sound s hmem).1

/-- **A pass that fails has met the first method in the way**, where methods have different names. -/
theorem firstFault?_of_error {e : ProxyError} (hnames : (d.methods.map (·.signature.name)).Nodup)
    (h : Target.assignAll ⟨d, d.select f⟩ (d.select f) 0 (Target.start ⟨d, d.select f⟩) =
      .error e) :
    ∃ m reason, d.firstFault? f = some m ∧
      e = .generation d.qualified m.signature.name reason := by
  obtain ⟨before, s, after, reason, hsplit, hbefore, hfault, rfl⟩ :=
    first_fault (select_names_nodup hnames f) h
  refine ⟨s.method, reason, ?_, rfl⟩
  have hfirst : (d.select f).find? (fun s => !s.method.isGenerable) = some s := by
    refine List.find?_eq_some_iff_append.mpr ⟨?_, before, after, hsplit, fun r hr => ?_⟩
    · simpa [Slot.generable_iff] using hfault
    · simpa using (Slot.generable_iff r).mp (hbefore r hr)
  rw [firstFault?_eq, hfirst]
  rfl

/-! ## Generating -/

/-- Somebody besides the module that declares the type can make an instance. -/
def Surface.isOpen (d : Surface S) : Bool := d.constructors.any fun c => c.visibility.isAccessible

/-- **What generating gives.** -/
inductive Generation (d : Surface S) (f : Filter) : Except ProxyError (ProxyType S) → Prop
  | isSealed (hsealed : d.isSealed = true) :
    Generation d f (.error (.notExtendable d.qualified "type is sealed"))
  | closed (hsealed : d.isSealed = false) (hopen : d.isOpen = false) :
    Generation d f (.error (.notExtendable d.qualified "no public or restricted constructor"))
  /-- The first method in the way is named. -/
  | fault {m : Method S} {reason : String} (hsealed : d.isSealed = false) (hopen : d.isOpen = true)
    (hm : d.firstFault? f = some m) :
    Generation d f (.error (.generation d.qualified m.signature.name reason))
  | made {t : Target S} {p : ProxyType S} (hsealed : d.isSealed = false) (hopen : d.isOpen = true)
    (hnone : d.firstFault? f = none) (hp : Generated d f t p) : Generation d f (.ok p)

theorem synthesize_eq_error {t : Target S} {interceptor : Tag} {options : Options} {serial : Nat}
    {e : ProxyError} (h : t.synthesize interceptor options serial = .error e) :
    t.assignAll t.slots 0 t.start = .error e := by
  unfold Target.synthesize at h
  cases hpass : t.assignAll t.slots 0 t.start with
  | ok a =>
    rw [hpass] at h
    cases h
  | error e' =>
    rw [hpass] at h
    cases h
    rfl

/-- **The rules cover every surface whose methods have different names.** -/
theorem generated_cases (hnames : (d.methods.map (·.signature.name)).Nodup) (interceptor : Tag)
    (options : Options) (serial : Nat) :
    Generation d options.filter (Request.generated ⟨d, interceptor, options⟩ serial) := by
  unfold Request.generated
  cases hsealed : d.isSealed with
  | true =>
    have hdescribe : d.describe options.filter =
        .error (.notExtendable d.qualified "type is sealed") := by
      simp [Surface.describe, Surface.refusal?, hsealed]
    simp only [hdescribe]
    exact .isSealed hsealed
  | false =>
    cases hopen : d.isOpen with
    | false =>
      have hdescribe : d.describe options.filter =
          .error (.notExtendable d.qualified "no public or restricted constructor") := by
        have hnone := hopen
        unfold Surface.isOpen at hnone
        simp [Surface.describe, Surface.refusal?, hsealed, hnone]
      simp only [hdescribe]
      exact .closed hsealed hopen
    | true =>
      have hdescribe : d.describe options.filter = .ok ⟨d, d.select options.filter⟩ := by
        have hsome := hopen
        unfold Surface.isOpen at hsome
        simp [Surface.describe, Surface.refusal?, hsealed, hsome]
      simp only [hdescribe]
      show Generation d options.filter
        (Target.synthesize ⟨d, d.select options.filter⟩ interceptor options serial)
      cases hs : Target.synthesize ⟨d, d.select options.filter⟩ interceptor options serial with
      | ok p =>
        have hp : Generated d options.filter _ p :=
          ⟨hdescribe, interceptor, options, serial, hs⟩
        exact .made hsealed hopen (firstFault?_eq_none hp) hp
      | error e =>
        obtain ⟨m, reason, hm, rfl⟩ := firstFault?_of_error hnames (synthesize_eq_error hs)
        exact .fault hsealed hopen hm

end Interpose
