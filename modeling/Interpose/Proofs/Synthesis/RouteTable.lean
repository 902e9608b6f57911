import Interpose.Proofs.Synthesis.Assignment
import Mathlib.Data.Finset.Image

/-!
# The route table of a generated type

What a generated type holds, read against the surface that it was generated from. `entry_cases` is
the one statement about a single entry: the method is selected and goes to the first slot of its
name, or it is not and keeps its own route and code. Everything else here follows from it, or from
the scan that builds the table of names (`enlist_get?`).

Results:
* `entry_cases`: the entry of a declared method.
* `callable_iff`: an entry can be called iff its method is an instance method with an
  implementation; the filter plays no part.
* `original_of_route`: an entry that can be called has an implementation.
* `code_of_entry`, `code_of_callable`: whose implementation it is.
* `method?_eq_find?`: the view by name is the first callable entry of the name.
* **`routeTable_of_synthesize`**: the route table as a whole.
-/

namespace Interpose

variable {S : Type} {d : Surface S} {f : Filter} {t : Target S} {p : ProxyType S}

/-! ## One entry -/

theorem entries_getElem? (t : Target S) (routes : List Route) (i : Nat) :
    (t.entries routes)[i]? =
      (t.surface.methods[i]?).bind fun m => (routes[i]?).map fun r => t.entry m r := by
  unfold Target.entries
  rw [List.getElem?_map, List.zip_eq_zipWith, List.getElem?_zipWith]
  cases t.surface.methods[i]? <;> cases routes[i]? <;> rfl

/-- The slot at the position of a name has that name, and no slot before it has. -/
theorem slotOf?_spec {name : String} {k : Nat} (h : t.slotOf? name = some k) :
    ∃ s, t.slots[k]? = some s ∧ s.signature.name = name := by
  unfold Target.slotOf? at h
  obtain ⟨hk, hn, -⟩ := List.findIdx?_eq_some_iff_getElem.mp h
  exact ⟨t.slots[k], List.getElem?_eq_getElem hk, by simpa using hn⟩

theorem ownRoute_ne_intercept (m : Method S) (k : Nat) : m.ownRoute ≠ .intercept k := by
  unfold Method.ownRoute
  split <;> exact nofun

/-- On its own route a method runs its own code. -/
theorem entry_ownRoute (t : Target S) (m : Method S) :
    t.entry m m.ownRoute = ⟨m.signature, m.original, m.ownRoute⟩ := by
  unfold Target.entry
  split
  · rename_i k hk
    exact absurd hk (ownRoute_ne_intercept m k)
  · rfl

/-- **The entry of a declared method.** Either the method is selected, and the entry runs the code
of the first slot of its name, or it is not, and the entry is the method's own. -/
theorem entry_cases (h : Generated d f t p) {i : Nat} {m : Method S} (hm : d.methods[i]? = some m) :
    (f.Selects m.signature ∧ ∃ k s, t.slotOf? m.signature.name = some k ∧ t.slots[k]? = some s ∧
      s.method.original.isSome = true ∧
      p.entries[i]? = some ⟨m.signature, s.method.original, .intercept k⟩) ∨
    (¬ f.Selects m.signature ∧ p.entries[i]? = some ⟨m.signature, m.original, m.ownRoute⟩) := by
  obtain ⟨rfl, a, ha, hentries, -, -⟩ := settled_of_synthesize h
  rw [hentries, entries_getElem?, hm, Option.bind_some]
  by_cases hsel : f.Selects m.signature
  · refine Or.inl ⟨hsel, ?_⟩
    obtain ⟨k, hk, hroute⟩ := ha.taken ⟨i, m⟩ (mem_select.mpr ⟨hm, hsel⟩)
    obtain ⟨s, hs, -⟩ := slotOf?_spec (t := ⟨d, d.select f⟩) hk
    refine ⟨k, s, hk, hs, (ha.sound s (List.mem_of_getElem? hs)).1.2, ?_⟩
    simp only [hroute, Option.map_some, Target.entry, hs, Option.bind_some]
  · refine Or.inr ⟨hsel, ?_⟩
    have hfree := ha.free i fun s hs he => hsel (by
      obtain ⟨hms, hss⟩ := mem_select.mp hs
      rw [he, hm] at hms
      cases hms
      exact hss)
    rw [hfree]
    simp only [hm, Option.map_some, entry_ownRoute]

theorem entries_length (h : Generated d f t p) : p.entries.length = d.methods.length := by
  obtain ⟨rfl, a, ha, hentries, -, -⟩ := settled_of_synthesize h
  rw [hentries, Target.entries, List.length_map, List.length_zip, ha.length, Nat.min_self]

/-- Every entry is that of a declared method. -/
theorem method_of_entry (h : Generated d f t p) {i : Nat} {e : Entry S}
    (he : p.entries[i]? = some e) : ∃ m, d.methods[i]? = some m := by
  have hi := (List.getElem?_eq_some_iff.mp he).1
  rw [entries_length h] at hi
  exact ⟨d.methods[i], List.getElem?_eq_getElem hi⟩

theorem ownRoute_direct_iff (m : Method S) :
    m.ownRoute = .direct ↔ m.signature.receiver ≠ .static ∧ m.original.isSome = true := by
  unfold Method.ownRoute Signature.isStatic
  cases m.original.isSome <;> simp

theorem ownRoute_unavailable_iff (m : Method S) :
    m.ownRoute = .unavailable ↔
      ¬ (m.signature.receiver ≠ .static ∧ m.original.isSome = true) := by
  unfold Method.ownRoute Signature.isStatic
  cases m.original.isSome <;> simp

/-- A selected method of a generated type has an implementation of its own. -/
theorem original_of_selects (h : Generated d f t p) {i : Nat} {m : Method S}
    (hm : d.methods[i]? = some m) (hsel : f.Selects m.signature) : m.original.isSome = true := by
  obtain ⟨rfl, a, ha, -⟩ := settled_of_synthesize h
  exact (ha.sound ⟨i, m⟩ (mem_select.mpr ⟨hm, hsel⟩)).1.2

/-- **Which entries can be called does not depend on the filter**: those of instance methods with
an implementation. -/
theorem callable_iff (h : Generated d f t p) {i : Nat} {m : Method S} {e : Entry S}
    (hm : d.methods[i]? = some m) (he : p.entries[i]? = some e) :
    e.route ≠ .unavailable ↔ m.signature.receiver ≠ .static ∧ m.original.isSome = true := by
  rcases entry_cases h hm with ⟨hsel, k, s, -, -, -, he'⟩ | ⟨-, he'⟩
  · rw [he] at he'
    cases he'
    simp only [ne_eq, reduceCtorEq, not_false_eq_true, true_iff]
    exact ⟨hsel.2.1, original_of_selects h hm hsel⟩
  · rw [he] at he'
    cases he'
    rw [ne_eq, ownRoute_unavailable_iff, not_not]

/-- An entry that can be called has an implementation. -/
theorem original_of_route (h : Generated d f t p) {i : Nat} {e : Entry S}
    (he : p.entries[i]? = some e) (hr : e.route ≠ .unavailable) : ∃ o, e.original = some o := by
  obtain ⟨m, hm⟩ := method_of_entry h he
  have hc := ((callable_iff h hm he).mp hr).2
  rcases entry_cases h hm with ⟨-, k, s, -, -, ho, he'⟩ | ⟨-, he'⟩
  · rw [he] at he'
    cases he'
    exact Option.isSome_iff_exists.mp ho
  · rw [he] at he'
    cases he'
    exact Option.isSome_iff_exists.mp hc

/-- **The code of an entry** is that of a declared method of the same name and shape: its own, or
that of the method whose slot it was taken to. -/
theorem code_of_entry (h : Generated d f t p) {i : Nat} {m : Method S} {e : Entry S}
    {o : Original S} (hm : d.methods[i]? = some m) (he : p.entries[i]? = some e)
    (ho : e.original = some o) :
    ∃ source ∈ d.methods, source.original = some o ∧
      source.signature.name = m.signature.name ∧
      source.signature.sameShape m.signature = true := by
  rcases entry_cases h hm with ⟨hsel, k, s, hk, hs, -, he'⟩ | ⟨-, he'⟩
  · cases he.symm.trans he'
    obtain ⟨rfl, a, ha, -⟩ := settled_of_synthesize h
    have hconflict := (ha.sound ⟨i, m⟩ (mem_select.mpr ⟨hm, hsel⟩)).2 k hk
    obtain ⟨s', hs', hname⟩ := slotOf?_spec hk
    cases hs.symm.trans hs'
    refine ⟨s.method, List.mem_of_getElem? (mem_select.mp (List.mem_of_getElem? hs)).1, ho, hname,
      ?_⟩
    unfold Target.conflict? at hconflict
    simp only [hs, ite_eq_left_iff, reduceCtorEq, imp_false, Bool.not_eq_true,
      Bool.not_eq_false] at hconflict
    exact hconflict
  · cases he.symm.trans he'
    exact ⟨m, List.mem_of_getElem? hm, ho, rfl, Signature.sameShape_refl _⟩

/-- An instance method with an implementation has an entry that can be called, with the code of a
method of the same name and shape. -/
theorem code_of_callable (h : Generated d f t p) {i : Nat} {m : Method S}
    (hm : d.methods[i]? = some m) (hreceiver : m.signature.receiver ≠ .static)
    (hcode : m.original.isSome = true) :
    ∃ e o, p.entries[i]? = some e ∧ e.route ≠ .unavailable ∧ e.original = some o ∧
      ∃ source ∈ d.methods, source.original = some o ∧
        source.signature.name = m.signature.name ∧
        source.signature.sameShape m.signature = true := by
  have hlt : i < p.entries.length := by
    rw [entries_length h]
    exact (List.getElem?_eq_some_iff.mp hm).1
  have he : p.entries[i]? = some p.entries[i] := List.getElem?_eq_getElem hlt
  have hroute := (callable_iff h hm he).mpr ⟨hreceiver, hcode⟩
  obtain ⟨o, ho⟩ := original_of_route h he hroute
  exact ⟨_, o, he, hroute, ho, code_of_entry h hm he ho⟩

/-! ## The view by name -/

/-- Can the entry be called by the name? -/
def Entry.answers (name : String) (e : Entry S) : Bool :=
  e.signature.name = name && e.route ≠ .unavailable

/-- The scan keeps the first position, by induction on the entries that are left. -/
theorem enlist_get? (name : String) : ∀ (entries : List (Entry S)) (k : Nat) (names : NameTable),
    ((entries.zipIdx k).foldl Entry.enlist names).get? name =
      (names.get? name).or ((entries.findIdx? (Entry.answers name)).map (· + k))
  | [], k, names => by simp
  | e :: rest, k, names => by
    rw [List.zipIdx_cons, List.foldl_cons, enlist_get? name rest (k + 1), List.findIdx?_cons]
    have hshift : (rest.findIdx? (Entry.answers name)).map (· + (k + 1)) =
        ((rest.findIdx? (Entry.answers name)).map (· + 1)).map (· + k) := by
      rw [Option.map_map]
      congr 1
      funext i
      simp only [Function.comp]
      omega
    unfold Entry.enlist
    by_cases hr : e.route = .unavailable
    · rw [if_pos hr, if_neg (by simp [Entry.answers, hr]), hshift]
    · rw [if_neg hr, NameTable.get?_offer]
      by_cases hn : e.signature.name = name
      · rw [if_pos hn, if_pos (by simp [Entry.answers, hr, hn])]
        cases names.get? name <;> simp
      · rw [if_neg hn, if_neg (by simp [Entry.answers, hn]), Option.or_none, hshift]

/-- A name stands for the first entry that can be called by it. -/
theorem indexOf?_eq_findIdx? (h : Generated d f t p) (name : String) :
    p.indexOf? name = p.entries.findIdx? (Entry.answers name) := by
  obtain ⟨-, a, -, -, hpos, -⟩ := settled_of_synthesize h
  unfold ProxyType.indexOf?
  rw [hpos, Entry.positions, enlist_get?]
  simp

theorem method?_eq_find? (h : Generated d f t p) (name : String) :
    p.method? name = (p.entries.find? (Entry.answers name)).map (·.signature) := by
  unfold ProxyType.method?
  rw [indexOf?_eq_findIdx? h, List.find?_eq_bind_findIdx?_getElem?, Option.map_bind]
  rfl

/-! ## Slots and counts -/

/-- Signatures and interception, method by method. -/
theorem entries_selection (h : Generated d f t p) :
    p.entries.map (fun e => (e.signature, e.route.isIntercept)) =
      d.methods.map fun m =>
        (m.signature, m.signature.isOverridable && f.admits m.signature) := by
  apply List.ext_getElem?
  intro i
  rw [List.getElem?_map, List.getElem?_map]
  cases hm : d.methods[i]? with
  | none =>
    have hlen : d.methods.length ≤ i := List.getElem?_eq_none_iff.mp hm
    rw [List.getElem?_eq_none (by rw [entries_length h]; exact hlen)]
    rfl
  | some m =>
    rcases entry_cases h hm with ⟨hsel, k, s, -, -, -, he⟩ | ⟨hsel, he⟩
    · rw [he, Option.map_some, Option.map_some, (Filter.selects_iff f _).mp hsel]
      rfl
    · rw [he, Option.map_some, Option.map_some]
      rw [Filter.selects_iff, Bool.not_eq_true] at hsel
      rw [hsel]
      cases hr : m.ownRoute with
      | intercept k => exact absurd hr (ownRoute_ne_intercept m k)
      | direct => rfl
      | unavailable => rfl

theorem filter_map_pair {α β : Type} (g : α → β) (q : α → Bool) (l : List α) :
    (l.filter q).map g = ((l.map fun x => (g x, q x)).filter Prod.snd).map Prod.fst := by
  rw [List.filter_map, List.map_map]
  rfl

/-- The slots are the selected methods, in declaration order. -/
theorem slots_methods (h : Generated d f t p) :
    t.slots.map (·.method) =
      d.methods.filter fun m => m.signature.isOverridable && f.admits m.signature := by
  obtain ⟨rfl, -⟩ := settled_of_synthesize h
  exact select_methods d f

theorem intercepted_eq_slots (h : Generated d f t p) :
    p.intercepted = t.slots.map (·.signature) := by
  have hs : t.slots.map (·.signature) = (t.slots.map (·.method)).map (·.signature) := by
    rw [List.map_map]
    rfl
  unfold ProxyType.intercepted
  rw [hs, slots_methods h, filter_map_pair, entries_selection h, ← filter_map_pair]

theorem slotCount_eq_card (h : Generated d f t p) :
    p.slotCount = (t.slots.map fun s => s.signature.name).toFinset.card := by
  obtain ⟨-, a, ha, -, -, hcount⟩ := settled_of_synthesize h
  rw [hcount, ha.count]

/-- The slots that entries are routed to are the first slots of the names. -/
theorem mem_routed_iff (h : Generated d f t p) (k : Nat) :
    k ∈ p.entries.filterMap (·.route.slot?) ↔
      ∃ n ∈ t.slots.map (fun s => s.signature.name), t.slotOf? n = some k := by
  rw [List.mem_filterMap]
  constructor
  · rintro ⟨e, he, hk⟩
    obtain ⟨i, hi⟩ := List.mem_iff_getElem?.mp he
    obtain ⟨m, hm⟩ := method_of_entry h hi
    rcases entry_cases h hm with ⟨-, j, s, hj, hs, -, he'⟩ | ⟨-, he'⟩
    · rw [hi] at he'
      cases he'
      obtain rfl : j = k := Option.some.inj hk
      obtain ⟨s', hs', hn⟩ := slotOf?_spec hj
      exact ⟨m.signature.name, List.mem_map.mpr ⟨s', List.mem_of_getElem? hs', hn⟩, hj⟩
    · rw [hi] at he'
      cases he'
      cases hr : m.ownRoute with
      | intercept j => exact absurd hr (ownRoute_ne_intercept m j)
      | direct => simp [hr, Route.slot?] at hk
      | unavailable => simp [hr, Route.slot?] at hk
  · rintro ⟨n, hn, hk⟩
    obtain ⟨s, hs, rfl⟩ := List.mem_map.mp hn
    obtain ⟨rfl, -⟩ := settled_of_synthesize h
    obtain ⟨hm, hsel⟩ := mem_select.mp hs
    rcases entry_cases h hm with ⟨-, j, s', hj, -, -, he⟩ | ⟨hno, -⟩
    · refine ⟨_, List.mem_of_getElem? he, ?_⟩
      have hjk : some j = some k := hj.symm.trans hk
      exact hjk
    · exact absurd hsel hno

/-- Different names have different first slots. -/
theorem slotOf?_inj {n n' : String} {k : Nat} (h : t.slotOf? n = some k)
    (h' : t.slotOf? n' = some k) : n = n' := by
  obtain ⟨s, hs, hn⟩ := slotOf?_spec h
  obtain ⟨s', hs', hn'⟩ := slotOf?_spec h'
  rw [hs] at hs'
  cases hs'
  exact hn.symm.trans hn'

/-- Every name among the slots has a first slot. -/
theorem slotOf?_of_mem {n : String} (h : n ∈ t.slots.map fun s => s.signature.name) :
    ∃ k, t.slotOf? n = some k := by
  obtain ⟨s, hs, hn⟩ := List.mem_map.mp h
  apply Option.isSome_iff_exists.mp
  unfold Target.slotOf?
  rw [List.findIdx?_isSome, List.any_eq_true]
  exact ⟨s, hs, by simpa using hn⟩

/-- There are as many slots routed to as there are names among the slots: a name is taken to its
first slot. -/
theorem routed_card (h : Generated d f t p) :
    (p.entries.filterMap (·.route.slot?)).toFinset.card =
      (t.slots.map fun s => s.signature.name).toFinset.card := by
  have himage : (p.entries.filterMap (·.route.slot?)).toFinset =
      (t.slots.map fun s => s.signature.name).toFinset.image fun n => (t.slotOf? n).getD 0 := by
    ext k
    rw [List.mem_toFinset, mem_routed_iff h, Finset.mem_image]
    constructor
    · rintro ⟨n, hn, hk⟩
      exact ⟨n, List.mem_toFinset.mpr hn, by rw [hk]; rfl⟩
    · rintro ⟨n, hn, hk⟩
      obtain ⟨j, hj⟩ := slotOf?_of_mem (List.mem_toFinset.mp hn)
      rw [hj] at hk
      obtain rfl : j = k := hk
      exact ⟨n, List.mem_toFinset.mp hn, hj⟩
  rw [himage]
  refine Finset.card_image_of_injOn fun n hn n' hn' heq => ?_
  obtain ⟨j, hj⟩ := slotOf?_of_mem (List.mem_toFinset.mp hn)
  obtain ⟨j', hj'⟩ := slotOf?_of_mem (List.mem_toFinset.mp hn')
  simp only [hj, hj', Option.getD_some] at heq
  exact slotOf?_inj hj (heq ▸ hj')

/-! ## The table as a whole -/

/-- `e` is the entry of the declared method `m` under the filter `f`, with the slots of `t`. -/
structure EntryOf (f : Filter) (t : Target S) (m : Method S) (e : Entry S) : Prop where
  /-- The entry has the declared signature. -/
  signature : e.signature = m.signature
  /-- A method is intercepted iff it is selected, and then by the first slot of its name. -/
  intercept_iff : ∀ k, e.route = .intercept k ↔
    f.Selects m.signature ∧ t.slotOf? m.signature.name = some k
  /-- Any other method is called directly iff it is an instance method with an implementation. -/
  direct_iff : e.route = .direct ↔
    ¬ f.Selects m.signature ∧ m.signature.receiver ≠ .static ∧ m.original.isSome = true
  /-- The rest cannot be called. -/
  unavailable_iff : e.route = .unavailable ↔
    ¬ f.Selects m.signature ∧ ¬ (m.signature.receiver ≠ .static ∧ m.original.isSome = true)
  /-- An intercepted entry runs the code of the first slot of its name. -/
  intercepted_runs : ∀ k, e.route = .intercept k →
    ∃ s, t.slots[k]? = some s ∧ s.method.original.isSome = true ∧ e.original = s.method.original
  /-- Every other entry runs its own code. -/
  others_run : e.route.isIntercept = false → e.original = m.original

/-- **The route table** of a type generated from the surface `d` under the filter `f`, with the
slots of the target `t`. -/
structure RouteTable (d : Surface S) (f : Filter) (t : Target S) (p : ProxyType S) : Prop where
  /-- One entry per declared method, in declaration order. -/
  entries : List.Forall₂ (EntryOf f t) d.methods p.entries
  /-- The slots are the selected methods in declaration order, and the intercepted signatures are
  theirs. -/
  slots : t.slots.map (·.method) =
    d.methods.filter fun m => m.signature.isOverridable && f.admits m.signature
  intercepted : p.intercepted = t.slots.map (·.signature)
  /-- The slots are counted by name, and so are the slots that entries are routed to. -/
  slotCount : p.slotCount = (t.slots.map fun s => s.signature.name).toFinset.card
  routed : p.slotCount = (p.entries.filterMap (·.route.slot?)).toFinset.card
  /-- A name stands for the first entry of that name that can be called. -/
  method? : ∀ name, p.method? name =
    (p.entries.find? fun e => e.signature.name = name && e.route ≠ .unavailable).map (·.signature)

theorem entryOf_getElem (h : Generated d f t p) {i : Nat} {m : Method S} {e : Entry S}
    (hm : d.methods[i]? = some m) (he : p.entries[i]? = some e) : EntryOf f t m e := by
  rcases entry_cases h hm with ⟨hsel, k, s, hk, hs, ho, he'⟩ | ⟨hsel, he'⟩
  · rw [he] at he'
    cases he'
    refine ⟨rfl, fun j => ?_, ?_, ?_, fun j hj => ?_, nofun⟩
    · simp [hsel, hk]
    · simp [hsel]
    · simp [hsel]
    · cases hj
      exact ⟨s, hs, ho, rfl⟩
  · rw [he] at he'
    cases he'
    refine ⟨rfl, fun j => ?_, ?_, ?_, fun j hj => ?_, fun _ => rfl⟩
    · simp [hsel, ownRoute_ne_intercept]
    · simp [hsel, ownRoute_direct_iff]
    · simp only [hsel, not_false_eq_true, true_and, ownRoute_unavailable_iff]
    · exact absurd hj (ownRoute_ne_intercept m j)

/-- **Describing and synthesizing give the route table of the surface**, whatever the filter and
the options. -/
theorem routeTable_of_synthesize {d : Surface S} {f : Filter} {t : Target S} {p : ProxyType S}
    {interceptor : Tag} {options : Options} {serial : Nat} (hd : d.describe f = .ok t)
    (hs : t.synthesize interceptor options serial = .ok p) : RouteTable d f t p := by
  have h : Generated d f t p := ⟨hd, interceptor, options, serial, hs⟩
  refine ⟨?_, slots_methods h, intercepted_eq_slots h, slotCount_eq_card h, ?_, method?_eq_find? h⟩
  · rw [List.forall₂_iff_get]
    refine ⟨(entries_length h).symm, fun i hi hi' => ?_⟩
    exact entryOf_getElem h (List.getElem?_eq_getElem hi) (List.getElem?_eq_getElem hi')
  · rw [slotCount_eq_card h, routed_card h]

/-- A signature without parameters whose result is a text. -/
def Signature.reading (name : String) (receiver : Receiver) : Signature :=
  ⟨name, [], .str, none, receiver, .exported, false⟩

/-- A shelf with a text on it: the name is declared twice, with different code, the label is final
and the capacity is static. Dropping the shelf loses the text and panics. -/
def shelf : Surface String where
  type := ⟨0, "tests::Shelf"⟩
  qualified := "tests::Shelf"
  simple := "Shelf"
  isSealed := false
  constructors := [⟨"new", [], .exported, some fun _ => .ok ""⟩]
  methods :=
    [⟨.reading "name" .shared, some ⟨.shared, fun s _ => (.ok (.str s), s)⟩⟩,
     ⟨.reading "clear" .exclusive, some ⟨.exclusive, fun s _ => (.ok (.str s), "")⟩⟩,
     ⟨.reading "name" .shared, some ⟨.shared, fun s _ => (.ok (.str (s ++ s)), s)⟩⟩,
     ⟨{ Signature.reading "label" .shared with isFinal := true },
      some ⟨.shared, fun s _ => (.ok (.str s), s)⟩⟩,
     ⟨.reading "capacity" .static, none⟩,
     ⟨.reading "drop" .exclusive,
      some ⟨.exclusive, fun _ _ => (.panicked (.literal "dropped"), "")⟩⟩]

/-- With a filter that skips one method, the duplicates share the first slot. -/
theorem routeTable_shelf : ∃ t p, shelf.describe (Filter.all.skipName "clear") = .ok t ∧
    t.synthesize ⟨0, "tests::Noop"⟩ .standard 0 = .ok p ∧
    p.entries.map (·.route) =
      [.intercept 0, .direct, .intercept 0, .direct, .unavailable, .intercept 2] ∧
    RouteTable shelf (Filter.all.skipName "clear") t p :=
  ⟨_, _, rfl, rfl, rfl, routeTable_of_synthesize rfl rfl⟩

end Interpose
