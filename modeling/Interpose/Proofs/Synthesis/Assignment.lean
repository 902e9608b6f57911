import Interpose.Request
import Mathlib.Data.Finset.Card

/-!
# The pass over the slots

`Target.assignAll` walks the slots of a target once and keeps a route per declared method, the
first slot of every name, and a count. `Settled done a` says what `a` holds when the slots in
`done` have been passed; it is kept by one step (`Settled.assign`) and so by the whole pass
(`Settled.assignAll`).

Results:
* `settled_before`, `assignAll_eq_error`: the pass on its way, and where it ends when it fails.
* `settled_of_synthesize`: a synthesis that succeeds has settled all slots, and its generated type
  is read off what the pass left.
* `Settled.taken`, `Settled.free`: a method whose slot was passed goes to the first slot of its
  name, any other method keeps its own route.
* `Settled.sound`: every passed slot can be generated and has the shape of the first slot of its
  name.
* `mem_select`, `select_methods`, `select_sorted`, `select_index_inj`: which methods `Surface.select`
  makes slots of, in order and one slot each.
* `first_fault`: where the pass ends when it fails and methods have different names.
-/

namespace Interpose

variable {S : Type}

/-! ## Tables of names -/

@[simp] theorem NameTable.get?_empty (name : String) : NameTable.empty.get? name = none := rfl

/-- A name that has a position keeps it. -/
theorem NameTable.get?_offer (t : NameTable) (name : String) (k : Nat) (other : String) :
    (t.offer name k).get? other =
      (t.get? other).or (if name = other then some k else none) := by
  unfold NameTable.offer
  split
  · rename_i h
    by_cases e : name = other
    · subst e
      obtain ⟨j, hj⟩ := Option.isSome_iff_exists.mp h
      simp [hj]
    · simp [e]
  · unfold NameTable.get?
    rw [List.lookup_append, List.lookup_cons]
    by_cases e : name = other
    · simp [e]
    · have : (other == name) = false := by simpa using fun h => e h.symm
      simp [e, this]

/-! ## Selection -/

/-- The position of the first slot with the name. -/
def Target.slotOf? (t : Target S) (name : String) : Option Nat :=
  t.slots.findIdx? fun s => s.signature.name = name

/-- A method is intercepted under the filter: it is neither final nor static nor private, and the
filter admits it. -/
def Filter.Selects (f : Filter) (s : Signature) : Prop :=
  s.isFinal = false ∧ s.receiver ≠ .static ∧ s.visibility ≠ .internal ∧ f.admits s = true

theorem Filter.selects_iff (f : Filter) (s : Signature) :
    f.Selects s ↔ (s.isOverridable && f.admits s) = true := by
  unfold Filter.Selects Signature.isOverridable Signature.isStatic Visibility.isAccessible
  simp [and_assoc]

/-- The slots of a selection are the selected methods, each with its position. -/
theorem mem_select {d : Surface S} {f : Filter} {s : Slot S} :
    s ∈ d.select f ↔ d.methods[s.index]? = some s.method ∧ f.Selects s.signature := by
  unfold Surface.select
  simp only [List.mem_map, List.mem_filter, List.mem_zipIdx_iff_getElem?, ← Filter.selects_iff]
  constructor
  · rintro ⟨⟨m, i⟩, h, rfl⟩
    exact h
  · intro h
    exact ⟨(s.method, s.index), h, rfl⟩

/-- Slots stand in declaration order. -/
theorem select_sorted (d : Surface S) (f : Filter) :
    (d.select f).Pairwise fun a b => a.index < b.index := by
  unfold Surface.select
  rw [List.pairwise_map]
  apply List.Pairwise.filter
  have h : (d.methods.zipIdx.map Prod.snd).Pairwise (· < ·) := by
    rw [List.zipIdx_map_snd]
    exact List.pairwise_lt_range'
  rw [List.pairwise_map] at h
  exact h

/-- No method has two slots. -/
theorem select_index_inj (d : Surface S) (f : Filter) :
    (d.select f).Pairwise fun a b => a.index ≠ b.index :=
  (select_sorted d f).imp Nat.ne_of_lt

/-- The slots hold the selected methods, in declaration order. -/
theorem select_methods (d : Surface S) (f : Filter) :
    (d.select f).map (·.method) =
      d.methods.filter fun m => m.signature.isOverridable && f.admits m.signature := by
  unfold Surface.select
  rw [List.map_map]
  have hm : d.methods = d.methods.zipIdx.map Prod.fst := by rw [List.zipIdx_map_fst]
  conv_rhs => rw [hm]
  rw [List.filter_map]
  rfl

theorem describe_ok {d : Surface S} {f : Filter} {t : Target S} (h : d.describe f = .ok t) :
    t = ⟨d, d.select f⟩ := by
  unfold Surface.describe at h
  split at h
  · cases h
  · exact (Except.ok.inj h).symm

/-! ## One step -/

theorem Signature.sameShape_refl (s : Signature) : s.sameShape s = true := by
  simp [Signature.sameShape]

/-- The slot has types and an implementation to be generated from. -/
def Slot.Generable (s : Slot S) : Prop :=
  s.signature.unrepresentableReason? = none ∧ s.method.original.isSome = true

/-- What the pass has settled after the slots in `done`. -/
structure Settled (t : Target S) (done : List (Slot S)) (a : Assignment) : Prop where
  /-- One route per method. -/
  length : a.routes.length = t.surface.methods.length
  /-- The table has the first passed slot of every name. -/
  firsts : ∀ name, a.firsts.get? name = done.findIdx? fun s => s.signature.name = name
  /-- The method of a passed slot goes to the first slot of its name. -/
  taken : ∀ s ∈ done, ∃ k, (done.findIdx? fun r => r.signature.name = s.signature.name) = some k ∧
    a.routes[s.index]? = some (.intercept k)
  /-- Any other method keeps its own route. -/
  free : ∀ i, (∀ s ∈ done, s.index ≠ i) →
    a.routes[i]? = t.surface.methods[i]?.map Method.ownRoute
  /-- The count is that of the names. -/
  count : a.count = (done.map fun s => s.signature.name).toFinset.card
  /-- Every passed slot can be generated, in the shape of the first slot of its name. -/
  sound : ∀ s ∈ done, s.Generable ∧
    ∀ k, (done.findIdx? fun r => r.signature.name = s.signature.name) = some k →
      t.conflict? k s = none

theorem slotFault?_eq_none {t : Target S} {a : Assignment} {s : Slot S}
    (h : t.slotFault? a s = none) :
    s.Generable ∧ ∀ k, a.firsts.get? s.signature.name = some k → t.conflict? k s = none := by
  unfold Target.slotFault? at h
  split at h
  · cases h
  · rename_i hr
    split at h
    · cases h
    · rename_i ho
      refine ⟨⟨hr, ?_⟩, fun k hk => ?_⟩
      · simpa [Option.isSome_iff_ne_none] using ho
      · rw [hk] at h
        exact h

/-- All that one step does: the slot is without fault, its method goes to the first slot of its
name, and a new name enters the table and is counted. -/
theorem assign_ok {t : Target S} {a a' : Assignment} {k : Nat} {s : Slot S}
    (h : t.assign a k s = .ok a') :
    t.slotFault? a s = none ∧
      a'.routes = a.routes.set s.index (.intercept ((a.firsts.get? s.signature.name).getD k)) ∧
      a'.firsts = a.firsts.offer s.signature.name k ∧
      a'.count = if (a.firsts.get? s.signature.name).isSome then a.count else a.count + 1 := by
  unfold Target.assign at h
  split at h
  · cases h
  · rename_i hf
    refine ⟨hf, ?_⟩
    split at h
    · rename_i first hfirst
      cases Except.ok.inj h
      simp [hfirst, NameTable.offer]
    · rename_i hfirst
      cases Except.ok.inj h
      simp [hfirst]

theorem Settled.start (t : Target S) : Settled t [] t.start where
  length := by simp [Target.start]
  firsts := fun _ => rfl
  taken := fun _ h => absurd h List.not_mem_nil
  free := fun i _ => by simp [Target.start]
  count := rfl
  sound := fun _ h => absurd h List.not_mem_nil

/-- A position that a shorter list of slots has for a name stays. -/
theorem findIdx?_snoc {done : List (Slot S)} {name : String} {k : Nat}
    (h : (done.findIdx? fun r => r.signature.name = name) = some k) (s : Slot S) :
    ((done ++ [s]).findIdx? fun r => r.signature.name = name) = some k := by
  rw [List.findIdx?_append, h]
  rfl

/-- The first slot of the name of a slot that has just been passed. -/
theorem findIdx?_last (done : List (Slot S)) (s : Slot S) :
    ((done ++ [s]).findIdx? fun r => r.signature.name = s.signature.name) =
      some ((done.findIdx? fun r => r.signature.name = s.signature.name).getD done.length) := by
  rw [List.findIdx?_append]
  cases done.findIdx? fun r => r.signature.name = s.signature.name with
  | none => simp [List.findIdx?_cons]
  | some k => rfl

/-- **One step keeps what is settled**, for the next slot if its method exists and no passed slot
has it. -/
theorem Settled.assign {t : Target S} {done : List (Slot S)} {a a' : Assignment} {s : Slot S}
    (h : Settled t done a) (hs : t.assign a done.length s = .ok a')
    (hat : t.slots[done.length]? = some s) (hlt : s.index < t.surface.methods.length)
    (hnew : ∀ r ∈ done, r.index ≠ s.index) :
    Settled t (done ++ [s]) a' := by
  obtain ⟨hfault, hroutes, hfirsts, hcount⟩ := assign_ok hs
  obtain ⟨hgen, hconf⟩ := slotFault?_eq_none hfault
  rw [h.firsts] at hroutes hcount
  have hself : a'.routes[s.index]? = some (.intercept
      ((done.findIdx? fun r => r.signature.name = s.signature.name).getD done.length)) := by
    rw [hroutes, List.getElem?_set_self (by rw [h.length]; exact hlt)]
  have hother : ∀ i, s.index ≠ i → a'.routes[i]? = a.routes[i]? := by
    intro i hi
    rw [hroutes, List.getElem?_set_ne hi]
  refine ⟨?_, fun name => ?_, fun r hr => ?_, fun i hi => ?_, ?_, fun r hr => ?_⟩
  · rw [hroutes, List.length_set, h.length]
  · rw [hfirsts, NameTable.get?_offer, h.firsts, List.findIdx?_append]
    congr 1
    by_cases e : s.signature.name = name
    · simp [e, List.findIdx?_cons]
    · simp [e, List.findIdx?_cons]
  · rcases List.mem_append.mp hr with hr | hr
    · obtain ⟨k, hk, hrk⟩ := h.taken r hr
      exact ⟨k, findIdx?_snoc hk s, by rw [hother _ (hnew r hr).symm]; exact hrk⟩
    · obtain rfl := List.mem_singleton.mp hr
      exact ⟨_, findIdx?_last done r, hself⟩
  · rw [hother i (hi s (by simp))]
    exact h.free i fun r hr => hi r (List.mem_append_left _ hr)
  · rw [hcount, h.count, List.map_append, List.map_singleton, List.toFinset_append]
    have hin : (done.findIdx? fun r => r.signature.name = s.signature.name).isSome = true ↔
        s.signature.name ∈ (done.map fun r => r.signature.name).toFinset := by
      rw [List.findIdx?_isSome, List.any_eq_true]
      simp
    have hunion : (done.map fun r => r.signature.name).toFinset ∪ [s.signature.name].toFinset =
        insert s.signature.name (done.map fun r => r.signature.name).toFinset := by
      ext n
      simp
    rw [hunion]
    split
    · rename_i hsome
      rw [Finset.insert_eq_of_mem (hin.mp hsome)]
    · rename_i hnone
      rw [Finset.card_insert_of_notMem fun hm => hnone (hin.mpr hm)]
  · rcases List.mem_append.mp hr with hr | hr
    · obtain ⟨hg, hc⟩ := h.sound r hr
      refine ⟨hg, fun k hk => hc k ?_⟩
      obtain ⟨j, hj, -⟩ := h.taken r hr
      rw [findIdx?_snoc hj s] at hk
      rw [hj, hk]
    · obtain rfl := List.mem_singleton.mp hr
      refine ⟨hgen, fun k hk => ?_⟩
      rw [findIdx?_last] at hk
      cases hd : done.findIdx? fun q => q.signature.name = r.signature.name with
      | some j =>
        rw [hd] at hk
        exact hconf k (by rw [h.firsts, hd]; exact hk)
      | none =>
        -- the first slot of a name has only itself to agree with
        rw [hd] at hk
        obtain rfl : done.length = k := Option.some.inj hk
        unfold Target.conflict?
        rw [hat]
        simp [Signature.sameShape_refl]

/-! ## The whole pass -/

/-- A target whose slots are methods of its surface, one slot each. -/
structure Target.Ordered (t : Target S) : Prop where
  inRange : ∀ s ∈ t.slots, s.index < t.surface.methods.length
  distinct : t.slots.Pairwise fun a b => a.index ≠ b.index

theorem ordered_select (d : Surface S) (f : Filter) : Target.Ordered ⟨d, d.select f⟩ where
  inRange := fun _ hs => (List.getElem?_eq_some_iff.mp (mem_select.mp hs).1).1
  distinct := select_index_inj d f

/-- **The pass settles the slots that it goes through**, by induction on those that are next. -/
theorem Settled.assignAll {t : Target S} (ht : t.Ordered) :
    ∀ (next done rest : List (Slot S)) (a a' : Assignment), done ++ next ++ rest = t.slots →
      Settled t done a → t.assignAll next done.length a = .ok a' → Settled t (done ++ next) a'
  | [], done, rest, a, a', _, h, hok => by
    cases Except.ok.inj hok
    rw [List.append_nil]
    exact h
  | s :: next, done, rest, a, a', hsplit, h, hok => by
    have hmem : s ∈ t.slots := by simp [← hsplit]
    have hat : t.slots[done.length]? = some s := by simp [← hsplit]
    have hnew : ∀ r ∈ done, r.index ≠ s.index := by
      have hd := ht.distinct
      rw [← hsplit, List.append_assoc, List.pairwise_append] at hd
      exact fun r hr => hd.2.2 r hr s (by simp)
    unfold Target.assignAll at hok
    cases hs : t.assign a done.length s with
    | error e =>
      rw [hs] at hok
      cases hok
    | ok b =>
      rw [hs] at hok
      have hnext := assignAll ht next (done ++ [s]) rest b a' (by simp [← hsplit])
        (h.assign hs hat (ht.inRange s hmem) hnew) (by
          rw [List.length_append, List.length_singleton]
          exact hok)
      rw [List.append_cons]
      exact hnext

/-- The pass up to some slot settles the slots before it. -/
theorem settled_before {d : Surface S} {f : Filter} {before after : List (Slot S)} {s : Slot S}
    {a : Assignment} (hsplit : d.select f = before ++ s :: after)
    (hpass : Target.assignAll ⟨d, d.select f⟩ before 0 (Target.start ⟨d, d.select f⟩) = .ok a) :
    Settled ⟨d, d.select f⟩ before a :=
  Settled.assignAll (ordered_select d f) before [] (s :: after) _ a hsplit.symm (Settled.start _)
    hpass

/-- A pass that fails has come to a slot with a fault, and names it. -/
theorem assignAll_eq_error {t : Target S} {e : ProxyError} :
    ∀ {slots : List (Slot S)} {k : Nat} {a : Assignment}, t.assignAll slots k a = .error e →
      ∃ before s after a' reason, slots = before ++ s :: after ∧
        t.assignAll before k a = .ok a' ∧ t.slotFault? a' s = some reason ∧
        e = .generation t.surface.qualified s.signature.name reason
  | [], _, _, h => by cases h
  | s :: rest, k, a, h => by
    unfold Target.assignAll at h
    cases ha : t.assign a k s with
    | ok b =>
      rw [ha] at h
      obtain ⟨before, s', after, a', reason, rfl, hpass, hreason, rfl⟩ := assignAll_eq_error h
      refine ⟨s :: before, s', after, a', reason, rfl, ?_, hreason, rfl⟩
      rw [Target.assignAll, ha]
      exact hpass
    | error e' =>
      rw [ha] at h
      obtain rfl := Except.error.inj h
      unfold Target.assign at ha
      split at ha
      · rename_i reason hreason
        exact ⟨[], s, rest, a, reason, rfl, rfl, hreason, (Except.error.inj ha).symm⟩
      · split at ha <;> cases ha

/-- Where methods have different names, slots have. -/
theorem select_names_nodup {d : Surface S} (hnames : (d.methods.map (·.signature.name)).Nodup)
    (f : Filter) : ((d.select f).map (·.signature.name)).Nodup := by
  have hslots : (d.select f).map (·.signature.name) =
      ((d.select f).map (·.method)).map (·.signature.name) := by
    rw [List.map_map]
    rfl
  rw [hslots, select_methods]
  exact (List.filter_sublist.map _).nodup hnames

/-- **Where slots have different names, a pass fails at the first slot that has no types or no
implementation to be generated from**: no two slots can be in conflict. -/
theorem first_fault {d : Surface S} {f : Filter} {e : ProxyError}
    (hnames : ((d.select f).map (·.signature.name)).Nodup)
    (h : Target.assignAll ⟨d, d.select f⟩ (d.select f) 0 (Target.start ⟨d, d.select f⟩) =
      .error e) :
    ∃ before s after reason, d.select f = before ++ s :: after ∧ (∀ r ∈ before, r.Generable) ∧
      ¬ s.Generable ∧ e = .generation d.qualified s.signature.name reason := by
  obtain ⟨before, s, after, a, reason, hsplit, hpass, hfault, rfl⟩ := assignAll_eq_error h
  have hsettled := settled_before hsplit hpass
  refine ⟨before, s, after, reason, hsplit, fun r hr => (hsettled.sound r hr).1, ?_, rfl⟩
  rintro ⟨htypes, hcode⟩
  have hfirst : a.firsts.get? s.signature.name = none := by
    rw [hsplit, List.map_append, List.map_cons, List.nodup_append] at hnames
    rw [hsettled.firsts, List.findIdx?_eq_none_iff]
    intro r hr
    have hne := hnames.2.2 _ (List.mem_map_of_mem hr) _ List.mem_cons_self
    simpa using hne
  have hsome : s.method.original.isNone = false := by
    rw [← Option.not_isSome, hcode]
    rfl
  unfold Target.slotFault? at hfault
  simp only [htypes, hsome, hfirst, Bool.false_eq_true, if_false, Option.bind_none] at hfault
  cases hfault

/-- A generated proxy type: it comes out of describing a surface and synthesizing. -/
structure Generated (d : Surface S) (f : Filter) (t : Target S) (p : ProxyType S) : Prop where
  described : d.describe f = .ok t
  synthesized : ∃ interceptor options serial, t.synthesize interceptor options serial = .ok p

/-- What a synthesis that succeeds generates, given what the pass has left. -/
theorem synthesize_eq_ok {t : Target S} {interceptor : Tag} {options : Options} {serial : Nat}
    {p : ProxyType S} (h : t.synthesize interceptor options serial = .ok p) :
    ∃ a, t.assignAll t.slots 0 t.start = .ok a ∧
      p = ⟨serial, s!"{t.surface.simple}$$Proxy$${serial}", t.surface.type, t.surface.qualified,
        interceptor, t.surface.constructors, t.entries a.routes,
        Entry.positions (t.entries a.routes), a.count, options⟩ := by
  unfold Target.synthesize at h
  cases ha : t.assignAll t.slots 0 t.start with
  | error e =>
    rw [ha] at h
    cases h
  | ok a =>
    rw [ha] at h
    exact ⟨a, rfl, (Except.ok.inj h).symm⟩

/-- **What a synthesis that succeeds has done**: all slots are settled, and the type holds what the
pass left. -/
theorem settled_of_synthesize {d : Surface S} {f : Filter} {t : Target S} {p : ProxyType S}
    (h : Generated d f t p) :
    t = ⟨d, d.select f⟩ ∧ ∃ a, Settled t t.slots a ∧ p.entries = t.entries a.routes ∧
      p.positions = Entry.positions p.entries ∧ p.slotCount = a.count := by
  obtain ⟨hd, interceptor, options, serial, hs⟩ := h
  obtain rfl := describe_ok hd
  obtain ⟨a, ha, rfl⟩ := synthesize_eq_ok hs
  exact ⟨rfl, a, Settled.assignAll (ordered_select d f) (d.select f) [] [] _ a (List.append_nil _)
    (Settled.start _) ha, rfl, rfl, rfl⟩

end Interpose
