import Interpose.Proofs.Expansion.Lineup

/-!
# Wrapper methods in the shadow of a proxy's own

Every proxy has methods of its own, and a call on a proxy looks at them before it looks at those of
the wrapper. A method of the wrapper that would be in their way is refused by its name as it is
written. A raw name is written with a sign but means the same without it, so that a method with such
a name can still end up in their shadow.

* `OwnMethod` : the methods that every proxy has.
* `Callee` : what a call on a proxy may come to.
* `callee?` : what a call of a name on a proxy comes to.

Results:
* `mem_instanceMethods`: the names that are refused are those of the proxy's own methods.
* `callee?_of_mem`: what calls of the names of wrapper methods come to.
* **`wrapper_called_iff`**: which methods of the wrapper can be called.
* `target_shadowed`: a method that is accepted and cannot be called.
-/

namespace Interpose.Expansion

open Source

/-! ## The methods of a proxy -/

/-- A method that every proxy has. -/
inductive OwnMethod where
  | target
  | targetMut
  | interceptor
  | setInterceptor
  | invoke
  | proxyType
  | newInstance
  | intoTarget
  | callRef
  | callMut
  | fromParts
deriving DecidableEq, Repr

namespace OwnMethod

/-- All of them. -/
def all : List OwnMethod :=
  [.target, .targetMut, .interceptor, .setInterceptor, .invoke, .proxyType, .newInstance,
    .intoTarget, .callRef, .callMut, .fromParts]

/-- The name. -/
def name : OwnMethod → String
  | .target => "target"
  | .targetMut => "target_mut"
  | .interceptor => "interceptor"
  | .setInterceptor => "set_interceptor"
  | .invoke => "invoke"
  | .proxyType => "proxy_type"
  | .newInstance => "new_instance"
  | .intoTarget => "into_target"
  | .callRef => "call_ref"
  | .callMut => "call_mut"
  | .fromParts => "from_parts"

/-- How it takes the proxy. -/
def receiver : OwnMethod → Receiver
  | .target => .shared
  | .targetMut => .exclusive
  | .interceptor => .shared
  | .setInterceptor => .exclusive
  | .invoke => .exclusive
  | .proxyType => .shared
  | .newInstance => .shared
  | .intoTarget => .owned
  | .callRef => .shared
  | .callMut => .exclusive
  | .fromParts => .static

theorem mem_all (o : OwnMethod) : o ∈ all := by
  cases o <;> decide

theorem names_nodup : (all.map name).Nodup := by decide

/-- The names of the proxy's own methods are without a sign. -/
theorem take_name (o : OwnMethod) : o.name.toList.take 2 ≠ ['r', '#'] := by
  cases o <;> decide

end OwnMethod

/-- **The names that are refused** are those of the proxy's own methods. -/
theorem mem_instanceMethods {x : String} : x ∈ instanceMethods ↔ ∃ o : OwnMethod, o.name = x := by
  have hnames : ∀ y, y ∈ instanceMethods ↔ y ∈ OwnMethod.all.map OwnMethod.name := by
    refine fun y => List.Perm.mem_iff ?_
    decide
  rw [hnames, List.mem_map]
  exact ⟨fun ⟨o, _, ho⟩ => ⟨o, ho⟩, fun ⟨o, ho⟩ => ⟨o, o.mem_all, ho⟩⟩

/-! ## Calls on a proxy -/

/-- How a method of the wrapper takes the proxy. -/
def WrapperCode.receiver (w : WrapperCode) : Receiver := if w.exclusive then .exclusive else .shared

/-- What a call on a proxy may come to. -/
inductive Callee where
  | own (o : OwnMethod)
  | wrapper (w : WrapperCode)

namespace Callee

/-- Its name. The sign of a raw one does not make another name. -/
def identifier : Callee → String
  | .own o => o.name
  | .wrapper w => withoutSign w.name

/-- How it takes the proxy. -/
def receiver : Callee → Receiver
  | .own o => o.receiver
  | .wrapper w => w.receiver

end Callee

/-- The first method of that name which takes the proxy in that way. Its own methods go first. -/
def calleeBy? (wrappers : List WrapperCode) (x : String) (r : Receiver) : Option Callee :=
  (OwnMethod.all.map Callee.own ++ wrappers.map Callee.wrapper).find? fun c =>
    c.identifier == x && c.receiver == r

/-- **What a call of that name on a proxy comes to.** The proxy is offered by value, then by shared
and last by exclusive reference. Associated functions are not called in this way. -/
def callee? (wrappers : List WrapperCode) (x : String) : Option Callee :=
  [Receiver.owned, .shared, .exclusive].findSome? (calleeBy? wrappers x)

/-- The place of a receiver in this order; associated functions go behind all others. -/
def rank : Receiver → Nat
  | .owned => 0
  | .shared => 1
  | .exclusive => 2
  | .static => 3

/-- Where no two items have one key, an item is found by its key if it passes the test. -/
theorem find?_key {α κ : Type} [DecidableEq κ] {key : α → κ} {l : List α}
    (h : (l.map key).Nodup) {a : α} (ha : a ∈ l) (q : α → Bool) :
    l.find? (fun b => key b == key a && q b) = if q a then some a else none := by
  have hown (b : α) (hb : b ∈ l) (htest : (key b == key a && q b) = true) : b = a ∧ q b = true := by
    rw [Bool.and_eq_true, beq_iff_eq] at htest
    exact ⟨List.inj_on_of_nodup_map h hb ha htest.1, htest.2⟩
  cases hfind : l.find? (fun b => key b == key a && q b) with
  | some b =>
    have htest := List.find?_some (p := fun b => key b == key a && q b) hfind
    obtain ⟨rfl, hq⟩ := hown b (List.mem_of_find?_eq_some hfind) htest
    rw [if_pos hq]
  | none =>
    have hq : ¬ q a = true := by simpa using List.find?_eq_none.mp hfind a ha
    rw [if_neg hq]

variable {wrappers : List WrapperCode} {w : WrapperCode} {o : OwnMethod}

/-- What takes the proxy in one way under the name of a wrapper method. -/
theorem calleeBy?_of_mem (hnames : (wrappers.map fun w => withoutSign w.name).Nodup)
    (hw : w ∈ wrappers) (r : Receiver) : calleeBy? wrappers (withoutSign w.name) r =
      ((OwnMethod.all.find? fun o => o.name == withoutSign w.name && o.receiver == r).map .own).or
        (if w.receiver = r then some (.wrapper w) else none) := by
  have hwrapper : wrappers.find? (fun v => withoutSign v.name == withoutSign w.name &&
      v.receiver == r) = if w.receiver = r then some w else none := by
    rw [find?_key hnames hw fun v => v.receiver == r]
    simp only [beq_iff_eq]
  rw [calleeBy?, List.find?_append, List.find?_map, List.find?_map]
  congr 1
  refine (congrArg _ hwrapper).trans ?_
  split <;> rfl

/-- **What a call of the name of a wrapper method comes to.** A method of the proxy with that name
goes first unless it takes the proxy in a way that is tried later. -/
theorem callee?_of_mem (hnames : (wrappers.map fun w => withoutSign w.name).Nodup)
    (hw : w ∈ wrappers) : callee? wrappers (withoutSign w.name) = some (.wrapper w) ↔
      ∀ o : OwnMethod, o.name = withoutSign w.name → rank w.receiver < rank o.receiver := by
  have hreceiver : w.receiver = .shared ∨ w.receiver = .exclusive := by
    cases hexclusive : w.exclusive <;> simp [WrapperCode.receiver, hexclusive]
  simp only [callee?, List.findSome?, calleeBy?_of_mem hnames hw]
  by_cases hown : ∃ o : OwnMethod, o.name = withoutSign w.name
  · obtain ⟨o, ho⟩ := hown
    have honly (o' : OwnMethod) (ho' : o'.name = withoutSign w.name) : o' = o :=
      List.inj_on_of_nodup_map OwnMethod.names_nodup o'.mem_all o.mem_all (ho'.trans ho.symm)
    have hfind (r : Receiver) : OwnMethod.all.find? (fun o => o.name == withoutSign w.name &&
        o.receiver == r) = if o.receiver = r then some o else none := by
      rw [← ho, find?_key OwnMethod.names_nodup o.mem_all fun o => o.receiver == r]
      simp only [beq_iff_eq]
    have hrank : (∀ o' : OwnMethod, o'.name = withoutSign w.name →
        rank w.receiver < rank o'.receiver) ↔ rank w.receiver < rank o.receiver :=
      ⟨fun h => h o ho, fun h o' ho' => honly o' ho' ▸ h⟩
    rw [hrank]
    simp only [hfind]
    rcases hreceiver with hw | hw <;> cases ho' : o.receiver <;> simp [hw, rank]
  · have hnone (r : Receiver) : OwnMethod.all.find? (fun o => o.name == withoutSign w.name &&
        o.receiver == r) = none := by
      refine List.find?_eq_none.mpr fun o _ h => hown ⟨o, ?_⟩
      exact beq_iff_eq.mp (Bool.and_eq_true_iff.mp h).1
    simp only [hnone]
    refine iff_of_true ?_ fun o ho => absurd ⟨o, ho⟩ hown
    rcases hreceiver with hw | hw <;> simp [hw]

/-! ## The wrapper of an expansion -/

variable {settings : Settings} {block : Block} {e : Expansion}

/-- The names of the wrapper methods are names of declared methods, in their order. -/
theorem wrapper_names_sublist (methods : List Shape) :
    ((wrapperCodes methods).map (·.name)).Sublist (methods.map (·.name)) := by
  have hfilter : (wrapperCodes methods).map (·.name) =
      (methods.filter (·.isWrappable)).map (·.name) := by
    rw [filter_eq_map_fst (·.isWrappable) methods, wrapperCodes, List.map_map, List.map_map]
    rfl
  rw [hfilter]
  exact List.filter_sublist.map _

/-- **Which methods of the wrapper can be called.** None has the name of a method that every proxy
has as it is written. One has such a name all the same where its name is raw, and it is called under
that name only if the method of the proxy takes the proxy in a way that is tried later. -/
theorem wrapper_called_iff (he : expand settings block = .ok e)
    (hnames : (block.functions.map fun f => withoutSign f.name).Nodup) :
    ∀ w ∈ e.wrappers, w.name ∉ instanceMethods ∧
      (∀ o : OwnMethod, o.name = withoutSign w.name ↔ w.name = "r#" ++ o.name) ∧
      (callee? e.wrappers (withoutSign w.name) = some (.wrapper w) ↔
        ∀ o : OwnMethod, w.name = "r#" ++ o.name → rank w.receiver < rank o.receiver) := by
  obtain ⟨simple, all, hall, rfl, hreserved⟩ := ofShapes_of_expand he
  have hwrappers :
      ((wrapperCodes (declaredMethods all)).map fun w => withoutSign w.name).Nodup := by
    have hsub := ((wrapper_names_sublist _).trans (names_sublist hall)).map withoutSign
    simp only [List.map_map] at hsub
    exact hsub.nodup hnames
  intro w hw
  have hname : w.name ∉ instanceMethods := by
    obtain ⟨i, s, hs, hwrappable, rfl⟩ :=
      (declares_ofShapes settings block simple all).exists_of_wrapper hw
    exact hreserved s (List.mem_of_getElem? hs) hwrappable
  have hraw (o : OwnMethod) : o.name = withoutSign w.name ↔ w.name = "r#" ++ o.name := by
    rw [eq_comm, withoutSign_eq_iff o.take_name, or_iff_right]
    exact fun h => hname (mem_instanceMethods.mpr ⟨o, h.symm⟩)
  refine ⟨hname, hraw, (callee?_of_mem hwrappers hw).trans ?_⟩
  simp only [hraw]

/-- `pub fn r#target(&self) -> String`. -/
def rawTarget : Function :=
  { (default : Function) with
    visibility := .exported
    name := "r#target"
    receiver := some ⟨[], .reference none false⟩
    result := some (.named "String") }

/-- `pub fn r#target_mut(&self) -> String`, by shared reference unlike the method of the proxy. -/
def rawTargetMut : Function := { rawTarget with name := "r#target_mut" }

/-- A node with a constructor and methods. -/
def rawNode (methods : List Function) : Block :=
  { (default : Block) with
    selfType := .named "Node"
    items := .function { (default : Function) with
      visibility := .exported, name := "new", result := some (.named "Self") } ::
        methods.map .function }

/-- The node's method with the name `target_mut` can be called: the proxy's own asks for more. -/
theorem wrapper_called_target_mut : ∃ e w,
    expand .none (rawNode [rawTarget, rawTargetMut]) = .ok e ∧ w ∈ e.wrappers ∧
    w.name = "r#target_mut" ∧ callee? e.wrappers (withoutSign w.name) = some (.wrapper w) := by
  have he : expand .none (rawNode [rawTarget, rawTargetMut]) = .ok _ := rfl
  have hw : WrapperCode.ofShape 1 (.ofFunction "Node" rawTargetMut .none) ∈
      wrapperCodes [.ofFunction "Node" rawTarget .none, .ofFunction "Node" rawTargetMut .none] :=
    List.mem_cons_of_mem _ List.mem_cons_self
  obtain ⟨-, -, hcalled⟩ := wrapper_called_iff he (by decide) _ hw
  refine ⟨_, _, he, hw, rfl, hcalled.mpr fun o ho => ?_⟩
  cases o with
  | targetMut => decide
  | _ => exact absurd ho (by decide)

/-- **A method that no call reaches**: a raw name passes, and a call of it gets the target of the
proxy. -/
theorem target_shadowed : ∃ e w, expand .none (rawNode [rawTarget]) = .ok e ∧ w ∈ e.wrappers ∧
    withoutSign w.name = OwnMethod.target.name ∧
    callee? e.wrappers (withoutSign w.name) = some (.own .target) :=
  ⟨_, _, rfl, List.mem_cons_self, rfl, rfl⟩

end Interpose.Expansion
