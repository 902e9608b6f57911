import Interpose.Proofs.Cache.Answer
import Interpose.Proofs.Dispatch.Capture

/-!
# Wrapped interceptors

An interceptor may be put behind a handle, and the handle behind another one; or its hooks may be
handed over to an interceptor that is made of separate hooks, both of them or only one. Every layer
is an interceptor of a type of its own, with generated types of its own, and passes on what reaches
it. So layers of any number and kind come to the question which of the hooks are still asked.

* `Wrapping` : layers around an interceptor.
* `Interceptor.keeping` : the interceptor with one hook, or both, replaced by what stands for a hook
  that is left out.
* `Interceptor.recorded` : the interceptor with a note of every call of its own hooks, whatever is
  wrapped around it.
* `Interceptor.Refines` : the interceptor does what another one does, with more state.

Results:
* `Wrapping.around_eq`: what all layers together come to.
* `exists_generated_variant`: what is generated for another type of interceptor.
* `dispatch_mapHooks`: a call under an interceptor with more state.
-/

namespace Interpose

variable {H H' S ρ : Type}

/-! ## Layers -/

/-- **Layers around an interceptor.** -/
inductive Wrapping where
  | bare
  /-- A handle that owns what it holds. -/
  | boxed (inner : Wrapping)
  /-- A handle that shares what it holds. -/
  | shared (inner : Wrapping)
  /-- Separate hooks that ask those inside; a hook may be left out. -/
  | hooked (before after : Bool) (inner : Wrapping)
deriving DecidableEq, Repr

namespace Wrapping

/-- The interceptor with the layers around it. -/
def around : Wrapping → Interceptor H S → Interceptor H S
  | bare, icp => icp
  | boxed inner, icp | shared inner, icp => (inner.around icp).boxed
  | hooked before after inner, icp =>
    .hooks (if before then some (inner.around icp).before else none)
      (if after then some (inner.around icp).after else none)

/-- Is the hook before still asked? -/
def keepsBefore : Wrapping → Bool
  | bare => true
  | boxed inner | shared inner => inner.keepsBefore
  | hooked before _ inner => before && inner.keepsBefore

/-- Is the hook after still asked? -/
def keepsAfter : Wrapping → Bool
  | bare => true
  | boxed inner | shared inner => inner.keepsAfter
  | hooked _ after inner => after && inner.keepsAfter

end Wrapping

namespace Interceptor

/-- The interceptor with the hooks that are to be kept. In the place of the others, one proceeds and
one resumes. -/
def keeping (before after : Bool) (icp : Interceptor H S) : Interceptor H S :=
  ⟨if before then icp.before else proceed, if after then icp.after else resume⟩

/-- The interceptor, with a note of every call of its hooks. -/
def recorded (note : Step S → ρ) (icp : Interceptor H S) : Interceptor (H × List ρ) S where
  before call h :=
    let (answer, left) := icp.before call h.1
    (answer, left, h.2 ++ [note (.before call answer)])
  after call outcome h :=
    let (answer, left) := icp.after call outcome h.1
    (answer, left, h.2 ++ [note (.after call outcome answer)])

/-- **The second interceptor does what the first does**, with more state, of which `proj` is the
first one's. -/
structure Refines (proj : H' → H) (icp : Interceptor H S) (icp' : Interceptor H' S) : Prop where
  before : ∀ call h, icp.before call (proj h) = Prod.map id proj (icp'.before call h)
  after : ∀ call outcome h, icp.after call outcome (proj h) =
    Prod.map id proj (icp'.after call outcome h)

end Interceptor

/-- Layers that leave no hook out. -/
def Wrapping.isWhole (w : Wrapping) : Bool := w.keepsBefore && w.keepsAfter

/-- The interceptor with the hooks that the layers keep. -/
def Wrapping.kept (w : Wrapping) (icp : Interceptor H S) : Interceptor H S :=
  icp.keeping w.keepsBefore w.keepsAfter

section Layers

variable {icp : Interceptor H S}

@[simp]
theorem Interceptor.keeping_keeping (before after before' after' : Bool) :
    (icp.keeping before after).keeping before' after' =
      icp.keeping (before' && before) (after' && after) := by
  cases before' <;> cases after' <;> rfl

/-- Separate hooks keep the hooks that are not left out. -/
theorem Interceptor.hooks_eq_keeping (before after : Bool) :
    .hooks (if before then some icp.before else none) (if after then some icp.after else none) =
      icp.keeping before after := by
  cases before <;> cases after <;> rfl

/-- **What layers come to**, however many there are. -/
theorem Wrapping.around_eq (w : Wrapping) (icp : Interceptor H S) : w.around icp = w.kept icp := by
  induction w with
  | bare => rfl
  | boxed inner ih => exact (congrArg Interceptor.boxed ih).trans rfl
  | shared inner ih => exact (congrArg Interceptor.boxed ih).trans rfl
  | hooked before after inner ih =>
    rw [around, Interceptor.hooks_eq_keeping, ih]
    exact Interceptor.keeping_keeping ..

/-- Layers that leave no hook out come to nothing. -/
theorem Wrapping.kept_of_isWhole {w : Wrapping} (h : w.isWhole = true) : w.kept icp = icp := by
  obtain ⟨hbefore, hafter⟩ := Bool.and_eq_true_iff.mp h
  unfold Wrapping.kept
  rw [hbefore, hafter]
  rfl

end Layers

/-! ## Names -/

section Names

variable {icp : Interceptor H S} {same : H → H → Prop} {name name' : String}

/-- Leaving a hook out does not bring names in. -/
theorem Interceptor.Confuses.keeping (h : icp.Confuses same name name') (before after : Bool) :
    (icp.keeping before after).Confuses same name name' where
  before call h₁ h₂ answer left hsame hb := by
    cases before with
    | true => exact h.before call h₁ h₂ answer left hsame hb
    | false =>
      cases hb
      exact ⟨h₂, rfl, hsame⟩
  after call outcome h₁ h₂ answer left hsame ha := by
    cases after with
    | true => exact h.after call outcome h₁ h₂ answer left hsame ha
    | false =>
      cases ha
      exact ⟨h₂, rfl, hsame⟩

theorem Interceptor.recorded_before {note : Step S → ρ} {call : Invocation S} {h left : H}
    {notes : List ρ} {answer : Reply Bool} (hb : icp.before call h = (answer, left)) :
    (icp.recorded note).before call (h, notes) =
      (answer, left, notes ++ [note (.before call answer)]) := by
  simp only [recorded, hb]

theorem Interceptor.recorded_after {note : Step S → ρ} {call : Invocation S} {outcome : Outcome}
    {h left : H} {notes : List ρ} {answer : Reply Value}
    (ha : icp.after call outcome h = (answer, left)) :
    (icp.recorded note).after call outcome (h, notes) =
      (answer, left, notes ++ [note (.after call outcome answer)]) := by
  simp only [recorded, ha]

/-- Nor does taking notes, if the names in them are left open. -/
theorem Interceptor.Confuses.recorded (h : icp.Confuses same name name') {note : Step S → ρ}
    (blur : ρ → ρ) (hblur : ∀ step, blur (note step) = note step.unnamed) :
    (icp.recorded note).Confuses (fun a b => same a.1 b.1 ∧ b.2.map blur = a.2.map blur)
      name name' where
  before := by
    rintro call ⟨h₁, notes₁⟩ ⟨h₂, notes₂⟩ answer left ⟨hsame, hnotes⟩ hrecorded
    cases hb : icp.before { call with proxy := name } h₁ with
    | mk answer₁ left₁ =>
      obtain ⟨left₂, hb₂, hsame₂⟩ := h.before call h₁ h₂ _ _ hsame hb
      rw [recorded_before hb] at hrecorded
      cases hrecorded
      refine ⟨_, recorded_before hb₂, hsame₂, ?_⟩
      simp only [List.map_append, List.map_cons, hblur, hnotes]
      rfl
  after := by
    rintro call outcome ⟨h₁, notes₁⟩ ⟨h₂, notes₂⟩ answer left ⟨hsame, hnotes⟩ hrecorded
    cases ha : icp.after { call with proxy := name } outcome h₁ with
    | mk answer₁ left₁ =>
      obtain ⟨left₂, ha₂, hsame₂⟩ := h.after call outcome h₁ h₂ _ _ hsame ha
      rw [recorded_after ha] at hrecorded
      cases hrecorded
      refine ⟨_, recorded_after ha₂, hsame₂, ?_⟩
      simp only [List.map_append, List.map_cons, hblur, hnotes]
      rfl

end Names

/-- **What is generated for another type of interceptor**, under another number, is a variant with
the same setting. -/
theorem exists_generated_variant {r : Request S} {n : Nat} {p : ProxyType S}
    (hp : r.generated n = .ok p) (tag : Tag) (k : Nat) :
    ∃ q, { r with interceptor := tag }.generated k = .ok q ∧ p.Varies q ∧
      q.options.catchPanics = p.options.catchPanics := by
  rw [Request.generated_eq] at hp ⊢
  cases ht : r.surface.describe r.options.filter with
  | error e =>
    rw [ht] at hp
    cases hp
  | ok t =>
    simp only [ht, Except.bind] at hp ⊢
    cases ha : t.assignAll t.slots 0 t.start with
    | error e =>
      rw [ha] at hp
      cases hp
    | ok a =>
      rw [ha] at hp
      cases hp
      exact ⟨_, rfl, ⟨k, _, tag, _, rfl⟩, rfl⟩

/-! ## More state -/

/-- How a call ends, with the state of the interceptor projected. -/
def Ending.mapHooks (proj : H' → H) (ending : Ending H' S) : Ending H S :=
  { ending with hooks := proj ending.hooks }

section Refined

variable {proj : H' → H} {icp : Interceptor H S} {icp' : Interceptor H' S}

/-- Taking notes adds state and changes nothing. -/
theorem Interceptor.refines_recorded (note : Step S → ρ) (icp : Interceptor H S) :
    icp.Refines Prod.fst (icp.recorded note) :=
  ⟨fun _ _ => rfl, fun _ _ _ => rfl⟩

theorem Interceptor.Refines.keeping (h : icp.Refines proj icp') (before after : Bool) :
    (icp.keeping before after).Refines proj (icp'.keeping before after) where
  before call hooks := by
    cases before with
    | true => exact h.before call hooks
    | false => rfl
  after call outcome hooks := by
    cases after with
    | true => exact h.after call outcome hooks
    | false => rfl

theorem conclude_mapHooks (h : icp.Refines proj icp') (call : Invocation S) (outcome : Outcome)
    (hooks : H') (steps : List (Step S)) :
    conclude icp call outcome (proj hooks) steps =
      (conclude icp' call outcome hooks steps).mapHooks proj := by
  unfold conclude
  rw [h.after]
  rfl

theorem intercept_mapHooks (h : icp.Refines proj icp') (p : ProxyType S) (s : Signature)
    (t : Original S) (access : Access) (args : List Value) (state : S) (hooks : H') :
    intercept p icp s t access args state (proj hooks) =
      (intercept p icp' s t access args state hooks).mapHooks proj := by
  unfold intercept
  cases hb : icp'.before ⟨state, s, args, p.name⟩ hooks with
  | mk answer left =>
    have hb' : icp.before ⟨state, s, args, p.name⟩ (proj hooks) = (answer, proj left) := by
      rw [h.before, hb]
      rfl
    simp only [hb, hb']
    cases answer with
    | failed f => rfl
    | panicked payload => rfl
    | ok proceed =>
      cases proceed with
      | false => exact conclude_mapHooks h ..
      | true =>
        generalize t.call access s.name state args = called
        simp only [if_true]
        cases (if p.options.catchPanics then called.1.captured else called.1) with
        | ok v => exact conclude_mapHooks h ..
        | failed f => exact conclude_mapHooks h ..
        | panicked payload => rfl

/-- **A call under an interceptor with more state** ends as under the one it refines. -/
theorem dispatch_mapHooks (h : icp.Refines proj icp') (p : ProxyType S) (access : Access)
    (index : Nat) (args : List Value) (state : S) (hooks : H') :
    dispatch p icp access index args state (proj hooks) =
      (dispatch p icp' access index args state hooks).mapHooks proj := by
  unfold dispatch
  cases p.entries[index]? with
  | none => rfl
  | some e =>
    obtain ⟨signature, original, route⟩ := e
    cases original with
    | none => cases route <;> rfl
    | some t =>
      cases route with
      | unavailable => rfl
      | direct => rfl
      | intercept k => exact intercept_mapHooks h ..

end Refined

end Interpose
