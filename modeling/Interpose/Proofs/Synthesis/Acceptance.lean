import Interpose.Proofs.Synthesis.Generation
import Interpose.Proofs.Synthesis.RouteTable

/-!
# What synthesis accepts

The pass over the slots looks at one slot at a time: at its types, at its code, and at the first
slot of its name. Here what it comes to is read off the slots as a whole, without the pass.

* `Signature.Routable`, `Signature.Alike` : what the pass asks of one signature and of two. A type
  that is only spelled stands in the way at any depth of lists and options (`Desc.Spelled`).
* `Target.Fits` : a slot can be generated among the others, and `Target.fault?` says why not.
* Alike is an equivalence, so to be alike with the first slot of a name is to be alike with all.

Results:
* `slotFault?_eq`: what the pass finds wrong with a slot does not depend on where it stands.
* `fits_all_iff`: slots fit one by one iff each is routable and any two of one name are alike.
* `assignAll_eq_error_iff`: the pass ends at the first slot that does not fit.
* **`acceptance_of_describe`**: when synthesis succeeds, and what it leaves when it fails.
-/

namespace Interpose

variable {S : Type}

/-! ## One signature and two -/

/-- The type is only spelled, or some item of it is. -/
inductive Desc.Spelled : Desc → Prop
  | unrepresentable (spelling : String) : Spelled (.unrepresentable spelling)
  | native (spelling : String) : Spelled (.native spelling)
  | list {item : Desc} (h : Spelled item) : Spelled (.list item)
  | optional {item : Desc} (h : Spelled item) : Spelled (.optional item)

theorem Desc.isRepresentable_iff (t : Desc) : t.isRepresentable = true ↔ ¬ t.Spelled := by
  induction t with
  | unrepresentable spelling =>
    simp only [isRepresentable, Bool.false_eq_true, false_iff, not_not]
    exact .unrepresentable spelling
  | native spelling =>
    simp only [isRepresentable, Bool.false_eq_true, false_iff, not_not]
    exact .native spelling
  | list item ih =>
    rw [isRepresentable, ih, not_iff_not]
    exact ⟨.list, fun h => by cases h; assumption⟩
  | optional item ih =>
    rw [isRepresentable, ih, not_iff_not]
    exact ⟨.optional, fun h => by cases h; assumption⟩
  | _ => exact ⟨nofun, fun _ => rfl⟩

namespace Signature

/-- Calls of the method can be routed through values. -/
structure Routable (s : Signature) : Prop where
  /-- The instance is not consumed. -/
  receiver : s.receiver ≠ .owned
  params : ∀ q ∈ s.params, ¬ q.type.Spelled
  returns : ¬ s.returns.Spelled

theorem routable_iff (s : Signature) : s.Routable ↔ s.unrepresentableReason? = none := by
  rw [unrepresentableReason?_eq_none]
  simp only [Desc.isRepresentable_iff]
  exact ⟨fun h => ⟨h.receiver, h.params, h.returns⟩, fun ⟨h, hp, hr⟩ => ⟨h, hp, hr⟩⟩

/-- The signatures differ at most in their names and flags. -/
structure Alike (a b : Signature) : Prop where
  /-- The parameters have the same types in order. -/
  params : a.params.map (·.type) = b.params.map (·.type)
  returns : a.returns = b.returns
  failure : a.failure = b.failure
  receiver : a.receiver = b.receiver

variable {a b c : Signature}

theorem sameShape_iff : a.sameShape b = true ↔ a.Alike b := by
  simp only [sameShape, Bool.and_eq_true, decide_eq_true_eq]
  constructor
  · rintro ⟨⟨⟨hparams, hreturns⟩, hfailure⟩, hreceiver⟩
    exact ⟨hparams, hreturns, hfailure, hreceiver⟩
  · intro h
    exact ⟨⟨⟨h.params, h.returns⟩, h.failure⟩, h.receiver⟩

theorem Alike.symm (h : a.Alike b) : b.Alike a :=
  ⟨h.params.symm, h.returns.symm, h.failure.symm, h.receiver.symm⟩

theorem Alike.trans (h : a.Alike b) (h' : b.Alike c) : a.Alike c :=
  ⟨h.params.trans h'.params, h.returns.trans h'.returns, h.failure.trans h'.failure,
    h.receiver.trans h'.receiver⟩

end Signature

/-! ## A slot among the others -/

namespace Target

variable {t : Target S} {s : Slot S} {a : Assignment} {before after : List (Slot S)}

/-- Why the slot cannot be generated among those of the target, if it cannot. -/
def fault? (t : Target S) (s : Slot S) : Option String :=
  match s.signature.unrepresentableReason? with
  | some reason => some reason
  | none =>
    if s.method.original.isNone then some "no original method registered"
    else (t.slotOf? s.signature.name).bind fun first => t.conflict? first s

/-- The slot can be generated among those of the target. -/
structure Fits (t : Target S) (s : Slot S) : Prop where
  routable : s.signature.Routable
  code : s.method.original.isSome = true
  /-- The first slot of its name is alike. -/
  first : ∀ k r, t.slotOf? s.signature.name = some k → t.slots[k]? = some r →
    r.signature.Alike s.signature

theorem conflict?_eq_none {k : Nat} :
    t.conflict? k s = none ↔ ∀ r, t.slots[k]? = some r → r.signature.Alike s.signature := by
  unfold conflict?
  cases t.slots[k]? with
  | none => simp
  | some r => simp [Signature.sameShape_iff]

theorem fault?_eq_none : t.fault? s = none ↔ t.Fits s := by
  unfold fault?
  cases hreason : s.signature.unrepresentableReason? with
  | some reason =>
    refine ⟨nofun, fun h => ?_⟩
    rw [(Signature.routable_iff _).mp h.routable] at hreason
    cases hreason
  | none =>
    have hroutable := (Signature.routable_iff _).mpr hreason
    cases hcode : s.method.original.isSome with
    | false =>
      simp only [← Option.not_isSome, hcode, Bool.not_false, if_true, reduceCtorEq, false_iff]
      intro h
      rw [h.code] at hcode
      cases hcode
    | true =>
      simp only [← Option.not_isSome, hcode, Bool.not_true, Bool.false_eq_true, if_false,
        Option.bind_eq_none_iff, conflict?_eq_none]
      exact ⟨fun h => ⟨hroutable, hcode, fun k r hk => h k hk r⟩, fun h k hk r => h.first k r hk⟩

/-- The first slot of a name that slots passed before have. -/
theorem slotOf?_append (hsplit : t.slots = before ++ after) (name : String) :
    t.slotOf? name = (before.findIdx? fun r => r.signature.name = name).or
      ((after.findIdx? fun r => r.signature.name = name).map (· + before.length)) := by
  unfold slotOf?
  rw [hsplit, List.findIdx?_append]

/-- **The pass finds the same wrong with a slot wherever it stands**: of the slots that are still to
come none is the first of the name, unless it is the slot itself, which agrees with itself. -/
theorem slotFault?_eq (hsplit : t.slots = before ++ s :: after) (h : Settled t before a) :
    t.slotFault? a s = t.fault? s := by
  have hself : t.slots[before.length]? = some s := by simp [hsplit]
  have hfirst : (a.firsts.get? s.signature.name).bind (t.conflict? · s) =
      (t.slotOf? s.signature.name).bind (t.conflict? · s) := by
    rw [h.firsts, slotOf?_append hsplit]
    cases before.findIdx? fun r => r.signature.name = s.signature.name with
    | some k => rfl
    | none =>
      have hnone : t.conflict? before.length s = none := by
        rw [conflict?_eq_none, hself]
        rintro r ⟨⟩
        exact Signature.sameShape_iff.mp (Signature.sameShape_refl _)
      simp [List.findIdx?_cons, hnone]
  unfold slotFault? fault?
  cases s.signature.unrepresentableReason? with
  | some reason => rfl
  | none => simp only [hfirst]

/-- What the pass has settled fits. -/
theorem fits_of_settled (hsplit : t.slots = before ++ after) (h : Settled t before a) :
    ∀ r ∈ before, t.Fits r := by
  intro r hr
  obtain ⟨⟨hreason, hcode⟩, hconflict⟩ := h.sound r hr
  obtain ⟨k, hk, -⟩ := h.taken r hr
  refine ⟨(Signature.routable_iff _).mpr hreason, hcode, fun j q hj => ?_⟩
  rw [slotOf?_append hsplit, hk] at hj
  obtain rfl : k = j := Option.some.inj hj
  exact conflict?_eq_none.mp (hconflict k hk) q

/-- **One by one and two by two.** All slots fit iff each can be generated by itself and any two of
one name are alike. -/
theorem fits_all_iff : (∀ s ∈ t.slots, t.Fits s) ↔
    (∀ s ∈ t.slots, s.signature.Routable ∧ s.method.original.isSome = true) ∧
      ∀ r ∈ t.slots, ∀ s ∈ t.slots, r.signature.name = s.signature.name →
        r.signature.Alike s.signature := by
  constructor
  · intro h
    refine ⟨fun s hs => ⟨(h s hs).routable, (h s hs).code⟩, fun r hr s hs hname => ?_⟩
    -- both are compared with the first slot of the name that they share
    obtain ⟨k, hk⟩ := slotOf?_of_mem (List.mem_map.mpr ⟨r, hr, rfl⟩)
    obtain ⟨q, hq, -⟩ := slotOf?_spec hk
    exact ((h r hr).first k q hk hq).symm.trans ((h s hs).first k q (hname ▸ hk) hq)
  · rintro ⟨halone, hpairs⟩ s hs
    refine ⟨(halone s hs).1, (halone s hs).2, fun k r hk hr => ?_⟩
    obtain ⟨r', hr', hname⟩ := slotOf?_spec hk
    obtain rfl : r = r' := Option.some.inj (hr.symm.trans hr')
    exact hpairs r (List.mem_of_getElem? hr) s hs hname

end Target

/-! ## The pass -/

section Pass

variable {d : Surface S} {f : Filter} {e : ProxyError}

/-- **Where the pass ends when it fails**: at the first slot that does not fit. -/
theorem fault_of_assignAll
    (h : Target.assignAll ⟨d, d.select f⟩ (d.select f) 0 (Target.start ⟨d, d.select f⟩) =
      .error e) :
    ∃ before s after reason, d.select f = before ++ s :: after ∧
      (∀ r ∈ before, Target.Fits ⟨d, d.select f⟩ r) ∧
      Target.fault? ⟨d, d.select f⟩ s = some reason ∧
      e = .generation d.qualified s.signature.name reason := by
  obtain ⟨before, s, after, a, reason, hsplit, hpass, hfault, rfl⟩ := assignAll_eq_error h
  have hsettled := settled_before hsplit hpass
  refine ⟨before, s, after, reason, hsplit, Target.fits_of_settled hsplit hsettled, ?_, rfl⟩
  rw [← Target.slotFault?_eq hsplit hsettled]
  exact hfault

/-- The pass comes through iff all slots fit. -/
theorem assignAll_isOk_iff :
    (∃ a, Target.assignAll ⟨d, d.select f⟩ (d.select f) 0 (Target.start ⟨d, d.select f⟩) =
      .ok a) ↔ ∀ s ∈ d.select f, Target.Fits ⟨d, d.select f⟩ s := by
  constructor
  · rintro ⟨a, ha⟩
    have hsettled := Settled.assignAll (ordered_select d f) (d.select f) [] [] _ a
      (List.append_nil _) (Settled.start _) ha
    have hsplit : Target.slots ⟨d, d.select f⟩ = d.select f ++ [] := (List.append_nil _).symm
    exact Target.fits_of_settled hsplit hsettled
  · intro hfits
    cases h : Target.assignAll ⟨d, d.select f⟩ (d.select f) 0 (Target.start ⟨d, d.select f⟩) with
    | ok a => exact ⟨a, rfl⟩
    | error e =>
      obtain ⟨before, s, after, reason, hsplit, -, hfault, -⟩ := fault_of_assignAll h
      rw [Target.fault?_eq_none.mpr (hfits s (by simp [hsplit]))] at hfault
      cases hfault

/-- There is one first slot that does not fit, and the pass names it and what is wrong with it. -/
theorem assignAll_eq_error_iff :
    Target.assignAll ⟨d, d.select f⟩ (d.select f) 0 (Target.start ⟨d, d.select f⟩) = .error e ↔
    ∃ before s after reason, d.select f = before ++ s :: after ∧
      (∀ r ∈ before, Target.Fits ⟨d, d.select f⟩ r) ∧
      Target.fault? ⟨d, d.select f⟩ s = some reason ∧
      e = .generation d.qualified s.signature.name reason := by
  refine ⟨fault_of_assignAll, ?_⟩
  rintro ⟨before, s, after, reason, hsplit, hbefore, hfault, rfl⟩
  have hfirst {before after : List (Slot S)} {s : Slot S} {reason : String}
      (hsplit : d.select f = before ++ s :: after)
      (hbefore : ∀ r ∈ before, Target.Fits ⟨d, d.select f⟩ r)
      (hfault : Target.fault? ⟨d, d.select f⟩ s = some reason) :
      (d.select f).find? (fun r => (Target.fault? ⟨d, d.select f⟩ r).isSome) = some s :=
    List.find?_eq_some_iff_append.mpr ⟨by simp [hfault], before, after, hsplit, fun r hr => by
      simp [Target.fault?_eq_none.mpr (hbefore r hr)]⟩
  cases h : Target.assignAll ⟨d, d.select f⟩ (d.select f) 0 (Target.start ⟨d, d.select f⟩) with
  | ok a =>
    rw [Target.fault?_eq_none.mpr (assignAll_isOk_iff.mp ⟨a, h⟩ s (by simp [hsplit]))] at hfault
    cases hfault
  | error e =>
    obtain ⟨before', s', after', reason', hsplit', hbefore', hfault', rfl⟩ := fault_of_assignAll h
    obtain rfl : s = s' := Option.some.inj
      ((hfirst hsplit hbefore hfault).symm.trans (hfirst hsplit' hbefore' hfault'))
    obtain rfl : reason = reason' := Option.some.inj (hfault.symm.trans hfault')
    rfl

end Pass

/-! ## Synthesis -/

section Synthesis

variable {d : Surface S} {f : Filter} {t : Target S}

/-- **What synthesis accepts** of the targets that surfaces are described by. -/
structure Acceptance (d : Surface S) (t : Target S) : Prop where
  /-- The slots stand in declaration order. -/
  ordered : t.slots.Pairwise fun r s => r.index < s.index
  /-- Synthesis succeeds iff every slot can be generated by itself and any two slots of one name are
  alike. -/
  succeeds_iff : ∀ interceptor options serial,
    (∃ p, t.synthesize interceptor options serial = .ok p) ↔
      (∀ s ∈ t.slots, s.signature.Routable ∧ s.method.original.isSome = true) ∧
        ∀ r ∈ t.slots, ∀ s ∈ t.slots, r.signature.name = s.signature.name →
          r.signature.Alike s.signature
  /-- It fails with an error that names the first slot that cannot be routed, has no code or is in
  conflict with the first slot of its name. -/
  fails_iff : ∀ interceptor options serial e,
    t.synthesize interceptor options serial = .error e ↔
      ∃ before s after reason, t.slots = before ++ s :: after ∧ (∀ r ∈ before, t.Fits r) ∧
        ¬ t.Fits s ∧ t.fault? s = some reason ∧
        e = .generation d.qualified s.signature.name reason
  /-- Whoever generates from the target is then left with the number that was next, and nothing is
  logged. -/
  quiet : ∀ (r : Request S) (m : Mint) e, r.surface.describe r.options.filter = .ok t →
    t.synthesize r.interceptor r.options m.next = .error e →
      r.generate m = (.ok (.error e), ⟨m.next, r.target :: m.asked⟩, [])

theorem synthesize_eq_error_iff {interceptor : Tag} {options : Options} {serial : Nat}
    {e : ProxyError} : t.synthesize interceptor options serial = .error e ↔
      t.assignAll t.slots 0 t.start = .error e := by
  refine ⟨synthesize_eq_error, fun h => ?_⟩
  unfold Target.synthesize
  rw [h]
  rfl

theorem synthesize_isOk_iff {interceptor : Tag} {options : Options} {serial : Nat} :
    (∃ p, t.synthesize interceptor options serial = .ok p) ↔
      ∃ a, t.assignAll t.slots 0 t.start = .ok a := by
  unfold Target.synthesize
  cases t.assignAll t.slots 0 t.start with
  | ok a => exact ⟨fun _ => ⟨a, rfl⟩, fun _ => ⟨_, rfl⟩⟩
  | error e => exact ⟨nofun, nofun⟩

/-- A target with a slot that does not fit has a slot, so there is nothing to warn of. -/
theorem quiet_of_error {r : Request S} {m : Mint} {e : ProxyError}
    (hd : r.surface.describe r.options.filter = .ok t)
    (he : t.synthesize r.interceptor r.options m.next = .error e) :
    r.generate m = (.ok (.error e), ⟨m.next, r.target :: m.asked⟩, []) := by
  have hslots : t.slots.isEmpty = false := by
    cases hempty : t.slots with
    | nil =>
      have hpass := synthesize_eq_error he
      rw [hempty] at hpass
      cases hpass
    | cons s rest => rfl
  have hevents : r.generationEvents m.next = [] := by
    simp only [Request.generationEvents, hd, he, Target.warnings, Target.nothingEligible, hslots,
      Bool.false_eq_true, if_false, List.append_nil]
  have hgenerated : r.generated m.next = .error e := by
    unfold Request.generated
    rw [hd]
    exact he
  simp only [Request.generate, hgenerated, hevents]

/-- **Every described target is accepted or refused so**, for any interceptor, options and
number. -/
theorem acceptance_of_describe (hd : d.describe f = .ok t) : Acceptance d t := by
  obtain rfl := describe_ok hd
  refine ⟨select_sorted d f, fun interceptor options serial => ?_,
    fun interceptor options serial e => ?_, fun r m e => quiet_of_error⟩
  · rw [synthesize_isOk_iff, assignAll_isOk_iff]
    exact Target.fits_all_iff (t := ⟨d, d.select f⟩)
  · rw [synthesize_eq_error_iff, assignAll_eq_error_iff]
    have hfault {s : Slot S} {reason : String}
        (h : Target.fault? ⟨d, d.select f⟩ s = some reason) :
        ¬ Target.Fits ⟨d, d.select f⟩ s := by
      rw [← Target.fault?_eq_none, h]
      exact nofun
    constructor
    · rintro ⟨before, s, after, reason, hsplit, hbefore, h, he⟩
      exact ⟨before, s, after, reason, hsplit, hbefore, hfault h, h, he⟩
    · rintro ⟨before, s, after, reason, hsplit, hbefore, -, h, he⟩
      exact ⟨before, s, after, reason, hsplit, hbefore, h, he⟩

end Synthesis

/-- A shelf that declares its name twice, with different results, and a search whose parameter
cannot cross the boundary. The final method has no code, which nothing asks for. -/
def mixedShelf : Surface String :=
  { shelf with
    methods :=
      [⟨{ Signature.reading "label" .shared with isFinal := true }, none⟩,
       ⟨.reading "name" .shared, some ⟨.shared, fun s _ => (.ok (.str s), s)⟩⟩,
       ⟨{ Signature.reading "name" .shared with returns := .int "i32" },
        some ⟨.shared, fun s _ => (.ok (.int 0), s)⟩⟩,
       ⟨{ Signature.reading "find" .shared with
          params := [⟨"keys", .list (.unrepresentable "&str")⟩] }, none⟩] }

/-- The second name is in the way; without the names it is the search, and without the search
too nothing is. -/
theorem acceptance_mixedShelf :
    let outcome (f : Filter) := (mixedShelf.describe f).bind fun t =>
      t.synthesize ⟨0, "tests::Noop"⟩ .standard 7
    (∀ f ∈ [Filter.all, Filter.all.skipName "name", (Filter.all.skipName "name").skipName "find"],
      ∃ t, mixedShelf.describe f = .ok t ∧ Acceptance mixedShelf t) ∧
    (∃ reason, outcome .all = .error (.generation "tests::Shelf" "name" reason)) ∧
    (∃ reason, outcome (Filter.all.skipName "name") =
      .error (.generation "tests::Shelf" "find" reason)) ∧
    ∃ p, outcome ((Filter.all.skipName "name").skipName "find") = .ok p := by
  intro outcome
  refine ⟨fun f _ => ⟨_, rfl, acceptance_of_describe rfl⟩, ⟨_, rfl⟩, ⟨_, rfl⟩, ⟨_, rfl⟩⟩

end Interpose
