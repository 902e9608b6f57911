import Interpose.Proofs.Cache.Usage
import Interpose.Proofs.Synthesis.RouteTable
import Mathlib.Data.List.Sort
import Mathlib.Data.String.Basic

/-!
# What builder steps come to

A filter is built by steps that add names to what is intercepted exclusively, add a name to what is
never intercepted, or decide on restricted methods. Names accumulate and decisions replace each
other. So a filter shows of its steps only what they come to, and that is what it admits by and what
the key of a request has of it.

* `Limited`, `Listed`, `Skipped`, `allowed` : what steps come to.
* `Agree` : two lists of steps come to the same.
* `Built` : a filter is what steps come to.

Results:
* `NameSet.Is.eq_iff`: sets of names are equal iff the same names are in them.
* `Built.step`, `built_ofSteps`: one step, and all steps by induction.
* **`filters_built_by_steps`**: admission, equality, keys and generated types.
-/

namespace Interpose

variable {S : Type}

/-! ## Sets of names -/

namespace NameSet

/-- The set is that of the names with the property, in ascending order without repetition. -/
structure Is (s : NameSet) (P : String → Prop) : Prop where
  ordered : s.names.Pairwise (· < ·)
  mem : ∀ name, name ∈ s.names ↔ P name

theorem mem_place {name other : String} {names : List String} :
    other ∈ place name names ↔ other = name ∨ other ∈ names := by
  induction names with
  | nil => simp [place]
  | cons n rest ih =>
    unfold place
    split_ifs with hlt heq
    · exact List.mem_cons
    · subst heq
      simp
    · simp only [List.mem_cons, ih]
      exact or_left_comm

theorem pairwise_place {names : List String} (h : names.Pairwise (· < ·)) (name : String) :
    (place name names).Pairwise (· < ·) := by
  induction names with
  | nil => exact List.pairwise_singleton ..
  | cons n rest ih =>
    obtain ⟨hn, hrest⟩ := List.pairwise_cons.mp h
    unfold place
    split_ifs with hlt heq
    · refine List.pairwise_cons.mpr ⟨fun other hother => ?_, h⟩
      rcases List.mem_cons.mp hother with rfl | hother
      · exact hlt
      · exact hlt.trans (hn other hother)
    · exact h
    · refine List.pairwise_cons.mpr ⟨fun other hother => ?_, ih hrest⟩
      rcases mem_place.mp hother with rfl | hother
      · exact lt_of_le_of_ne (not_lt.mp hlt) (Ne.symm heq)
      · exact hn other hother

namespace Is

variable {s t : NameSet} {P Q : String → Prop}

theorem empty : NameSet.empty.Is fun _ => False := ⟨.nil, fun _ => List.mem_nil_iff _⟩

theorem congr (h : s.Is P) (hPQ : ∀ name, P name ↔ Q name) : s.Is Q :=
  ⟨h.ordered, fun name => (h.mem name).trans (hPQ name)⟩

theorem insert (h : s.Is P) (name : String) : (s.insert name).Is fun n => n = name ∨ P n :=
  ⟨pairwise_place h.ordered name, fun n => mem_place.trans (or_congr Iff.rfl (h.mem n))⟩

theorem insertAll (names : List String) :
    ∀ {s : NameSet} {P : String → Prop}, s.Is P →
      (names.foldl NameSet.insert s).Is fun n => n ∈ names ∨ P n := by
  induction names with
  | nil => exact fun h => h.congr fun n => by simp
  | cons name rest ih =>
    intro s P h
    refine (ih (h.insert name)).congr fun n => ?_
    rw [List.mem_cons, or_assoc]
    exact or_left_comm

/-- **Sets of names are equal** iff the same names are in them. -/
theorem eq_iff (hs : s.Is P) (ht : t.Is Q) : s = t ↔ ∀ name, P name ↔ Q name := by
  constructor
  · rintro rfl name
    exact (hs.mem name).symm.trans (ht.mem name)
  · intro h
    have hnames : s.names = t.names := hs.ordered.eq_of_mem_iff ht.ordered fun name =>
      (hs.mem name).trans ((h name).trans (ht.mem name).symm)
    exact congrArg NameSet.mk hnames

theorem contains_iff (h : s.Is P) (name : String) : s.contains name = true ↔ P name :=
  List.contains_iff_mem.trans (h.mem name)

end Is

end NameSet

/-! ## What steps come to -/

/-- The flag of a step that decides on restricted methods. -/
def FilterStep.allowed? : FilterStep → Option Bool
  | restricted allowed => some allowed
  | _ => none

namespace FilterSteps

/-- A step has limited what is intercepted to some names, perhaps to none. -/
def Limited (steps : List FilterStep) : Prop := ∃ names, .only names ∈ steps

/-- The name is one of those that the steps have limited this to. -/
def Listed (steps : List FilterStep) (name : String) : Prop :=
  ∃ names, .only names ∈ steps ∧ name ∈ names

/-- A step has taken the name out. -/
def Skipped (steps : List FilterStep) (name : String) : Prop := .skip name ∈ steps

/-- The last decision on restricted methods, which are intercepted if there was none. -/
def allowed (steps : List FilterStep) : Bool :=
  (steps.filterMap FilterStep.allowed?).getLast?.getD true

/-- **The steps come to the same.** -/
structure Agree (xs ys : List FilterStep) : Prop where
  limited : Limited xs ↔ Limited ys
  listed : ∀ name, Listed xs name ↔ Listed ys name
  skipped : ∀ name, Skipped xs name ↔ Skipped ys name
  allowed : allowed xs = allowed ys

/-- **The filter is what the steps come to.** -/
structure Built (f : Filter) (steps : List FilterStep) : Prop where
  limited : f.only.isSome = true ↔ Limited steps
  listed : ∀ names, f.only = some names → names.Is (Listed steps)
  skipped : f.skip.Is (Skipped steps)
  allowed : f.includeRestricted = allowed steps

variable {f g : Filter} {xs ys steps : List FilterStep}

/-! ## Steps, one after the other -/

theorem limited_snoc {s : FilterStep} (hs : ∀ names, s ≠ .only names) :
    Limited (steps ++ [s]) ↔ Limited steps := by
  simp [Limited, fun names => (hs names).symm]

theorem listed_snoc {s : FilterStep} (hs : ∀ names, s ≠ .only names) (name : String) :
    Listed (steps ++ [s]) name ↔ Listed steps name := by
  simp [Listed, fun names => (hs names).symm]

theorem skipped_snoc {s : FilterStep} (hs : ∀ name, s ≠ .skip name) (name : String) :
    Skipped (steps ++ [s]) name ↔ Skipped steps name := by
  simp [Skipped, (hs name).symm]

theorem allowed_snoc (s : FilterStep) :
    allowed (steps ++ [s]) = s.allowed?.getD (allowed steps) := by
  unfold allowed
  rw [List.filterMap_append]
  cases hs : s.allowed? <;> simp [hs]

namespace Built

theorem all : Built .all [] where
  limited := by simp [Filter.all, Limited]
  listed := nofun
  skipped := NameSet.Is.empty.congr fun name => by simp [Skipped]
  allowed := rfl

/-- A step that does not limit leaves what the others limit to. -/
theorem only_snoc (h : Built f steps) {s : FilterStep} (hs : ∀ names, s ≠ .only names) :
    (f.only.isSome = true ↔ Limited (steps ++ [s])) ∧
      ∀ names, f.only = some names → names.Is (Listed (steps ++ [s])) := by
  refine ⟨h.limited.trans (limited_snoc hs).symm, fun names hnames => ?_⟩
  exact (h.listed names hnames).congr fun name => (listed_snoc hs name).symm

/-- Every step adds what it comes to. -/
theorem step (h : Built f steps) (s : FilterStep) : Built (f.step s) (steps ++ [s]) := by
  cases s with
  | only names =>
    -- before the first step of this kind the set is empty, as no name is listed
    have hbefore : (f.only.getD .empty).Is (Listed steps) := by
      cases honly : f.only with
      | none =>
        have hnot : ¬ Limited steps := by rw [← h.limited, honly]; simp
        exact NameSet.Is.empty.congr fun name =>
          ⟨False.elim, fun ⟨names, hmem, _⟩ => hnot ⟨names, hmem⟩⟩
      | some before => exact h.listed before honly
    refine ⟨?_, ?_, ?_, ?_⟩
    · simp [Filter.step, Filter.onlyNames, Limited]
    · intro after hafter
      obtain rfl := Option.some.inj hafter
      refine (hbefore.insertAll names).congr fun name => ?_
      simp [Listed, or_and_right, exists_or, or_comm]
    · exact h.skipped.congr fun name => (skipped_snoc (by simp) name).symm
    · rw [allowed_snoc]
      exact h.allowed
  | skip name =>
    obtain ⟨hlimited, hlisted⟩ := h.only_snoc (s := .skip name) (by simp)
    refine ⟨hlimited, hlisted, ?_, ?_⟩
    · exact (h.skipped.insert name).congr fun n => by simp [Skipped, or_comm]
    · rw [allowed_snoc]
      exact h.allowed
  | restricted allowed =>
    obtain ⟨hlimited, hlisted⟩ := h.only_snoc (s := .restricted allowed) (by simp)
    refine ⟨hlimited, hlisted, ?_, ?_⟩
    · exact h.skipped.congr fun n => (skipped_snoc (by simp) n).symm
    · rw [allowed_snoc]
      rfl

theorem foldl (more : List FilterStep) :
    ∀ {f : Filter} {steps : List FilterStep}, Built f steps →
      Built (more.foldl Filter.step f) (steps ++ more) := by
  induction more with
  | nil =>
    intro f steps h
    rwa [List.append_nil]
  | cons s rest ih =>
    intro f steps h
    rw [List.append_cons]
    exact ih (h.step s)

end Built

theorem built_ofSteps (steps : List FilterStep) : Built (.ofSteps steps) steps :=
  Built.all.foldl steps

/-! ## What a filter shows of its steps -/

/-- **Filters are equal** iff their steps come to the same. -/
theorem Built.eq_iff (hf : Built f xs) (hg : Built g ys) : f = g ↔ Agree xs ys := by
  constructor
  · rintro rfl
    refine ⟨hf.limited.symm.trans hg.limited, ?_, (hf.skipped.eq_iff hg.skipped).mp rfl,
      hf.allowed.symm.trans hg.allowed⟩
    cases honly : f.only with
    | some names => exact ((hf.listed names honly).eq_iff (hg.listed names honly)).mp rfl
    | none =>
      have hx : ¬ Limited xs := by rw [← hf.limited, honly]; simp
      have hy : ¬ Limited ys := by rw [← hg.limited, honly]; simp
      exact fun name => ⟨fun ⟨names, hmem, _⟩ => absurd ⟨names, hmem⟩ hx,
        fun ⟨names, hmem, _⟩ => absurd ⟨names, hmem⟩ hy⟩
  · intro h
    obtain ⟨only, skip, includeRestricted⟩ := f
    obtain ⟨only', skip', includeRestricted'⟩ := g
    have hskip : skip = skip' := (hf.skipped.eq_iff hg.skipped).mpr h.skipped
    have hflag : includeRestricted = includeRestricted' :=
      hf.allowed.trans (h.allowed.trans hg.allowed.symm)
    have hsome : only.isSome = true ↔ only'.isSome = true :=
      hf.limited.trans (h.limited.trans hg.limited.symm)
    have honly : only = only' := by
      match only, only', hsome, hf.listed, hg.listed with
      | none, none, _, _, _ => rfl
      | some names, some names', _, hx, hy =>
        exact congrArg some (((hx names rfl).eq_iff (hy names' rfl)).mpr h.listed)
      | none, some _, hsome, _, _ => simp at hsome
      | some _, none, hsome, _, _ => simp at hsome
    rw [hskip, hflag, honly]

/-- **What a filter admits.** -/
theorem Built.admits_iff (h : Built f steps) (s : Signature) :
    f.admits s = true ↔ (¬ Limited steps ∨ Listed steps s.name) ∧ ¬ Skipped steps s.name ∧
      (s.visibility ≠ .restricted ∨ FilterSteps.allowed steps = true) := by
  have hskip : (!f.skip.contains s.name) = true ↔ ¬ Skipped steps s.name := by
    rw [Bool.not_eq_true', ← Bool.not_eq_true, h.skipped.contains_iff]
  have hflag : (f.includeRestricted || decide (s.visibility ≠ .restricted)) = true ↔
      s.visibility ≠ .restricted ∨ FilterSteps.allowed steps = true := by
    rw [h.allowed, Bool.or_eq_true, decide_eq_true_iff, or_comm]
  unfold Filter.admits
  rw [Bool.and_eq_true, Bool.and_eq_true, hskip, hflag, and_assoc]
  refine and_congr ?_ Iff.rfl
  rw [← h.limited]
  cases honly : f.only with
  | none => simp
  | some names => simpa using (h.listed names honly).contains_iff s.name

/-- Steps that add names may be reordered and repeated. -/
theorem Agree.of_rearranged (hmem : ∀ s : FilterStep, s.allowed? = none → (s ∈ xs ↔ s ∈ ys))
    (hallowed : FilterSteps.allowed xs = FilterSteps.allowed ys) : Agree xs ys where
  limited := exists_congr fun names => hmem (.only names) rfl
  listed := fun _ => exists_congr fun names => and_congr_left' (hmem (.only names) rfl)
  skipped := fun name => hmem (.skip name) rfl
  allowed := hallowed

/-! ## The key and the generated type -/

/-- Steps of a builder of options act on its filter. -/
theorem options_ofSteps (steps : List FilterStep) :
    Options.ofSteps (steps.map .filter) = ⟨.ofSteps steps, true⟩ := by
  have hfold (o : Options) : (steps.map OptionStep.filter).foldl Options.step o =
      { o with filter := steps.foldl Filter.step o.filter } := by
    induction steps generalizing o with
    | nil => rfl
    | cons s rest ih => exact ih _
  exact hfold .standard

variable {surface : Surface S} {interceptor : Tag} {captured : Bool}

/-- A request for the generated type under a filter. -/
def request (surface : Surface S) (interceptor : Tag) (captured : Bool) (f : Filter) : Request S :=
  ⟨surface, interceptor, ⟨f, captured⟩⟩

theorem key_eq_iff : (request surface interceptor captured f).key =
    (request surface interceptor captured g).key ↔ f = g := by
  simp [request, Request.key, Request.target]

/-- Requests under two filters, one after the other, are given one type iff the filters are
equal. -/
theorem shared_iff {u : Usage S} (h : u.Sound) {p : ProxyType S}
    (hp : ((request surface interceptor captured f).proxyType u.cache u.mint).result = .ok p) :
    let next := u.ask (request surface interceptor captured f)
    ((request surface interceptor captured g).proxyType next.cache next.mint).result = .ok p ↔
      f = g := by
  intro next
  constructor
  · intro hp'
    have hf := (h.suits_of_result hp).options
    have hg := ((h.ask _).suits_of_result hp').options
    exact congrArg Options.filter (hf.symm.trans hg)
  · rintro rfl
    show (Request.proxyType _ (u.ask _).cache _).result = _
    rw [Usage.cache_ask, Request.proxyType_again hp]

/-- **What filters are built of.** For all steps, a filter admits a method iff its name is among
those that the steps limit to, if any does, no step skips it, and it is not restricted or the last
decision lets restricted methods pass. A builder of options takes the same steps. Steps that come
to the same, and only these, give equal filters, equal keys, and one generated type after any use of
the cache. Reordering and repeating steps that add names changes none of this. -/
theorem filters_built_by_steps (S : Type) :
    (∀ steps s, (Filter.ofSteps steps).admits s = true ↔
      (¬ Limited steps ∨ Listed steps s.name) ∧ ¬ Skipped steps s.name ∧
        (s.visibility ≠ .restricted ∨ allowed steps = true)) ∧
    (∀ steps, Options.ofSteps (steps.map .filter) = ⟨.ofSteps steps, true⟩) ∧
    (∀ xs ys, Filter.ofSteps xs = .ofSteps ys ↔ Agree xs ys) ∧
    (∀ (surface : Surface S) interceptor captured xs ys,
      let asked steps := request surface interceptor captured (.ofSteps steps)
      ((asked xs).key = (asked ys).key ↔ Agree xs ys) ∧
      ∀ m acts p,
        let u := (Usage.start m).run acts
        let next := u.ask (asked xs)
        ((asked xs).proxyType u.cache u.mint).result = .ok p →
          (((asked ys).proxyType next.cache next.mint).result = .ok p ↔ Agree xs ys)) ∧
    ∀ xs ys, (∀ s : FilterStep, s.allowed? = none → (s ∈ xs ↔ s ∈ ys)) →
      allowed xs = allowed ys → Filter.ofSteps xs = .ofSteps ys := by
  have heq (xs ys : List FilterStep) : Filter.ofSteps xs = .ofSteps ys ↔ Agree xs ys :=
    (built_ofSteps xs).eq_iff (built_ofSteps ys)
  refine ⟨fun steps s => (built_ofSteps steps).admits_iff s, options_ofSteps, heq, ?_, ?_⟩
  · intro surface interceptor captured xs ys asked
    refine ⟨key_eq_iff.trans (heq xs ys), ?_⟩
    intro m acts p u next hp
    have h : u.Sound := Usage.Sound.run acts (Usage.Sound.start m)
    exact (shared_iff h hp).trans (heq xs ys)
  · exact fun xs ys hmem hallowed => (heq xs ys).mpr (.of_rearranged hmem hallowed)

/-- A limit to nothing adds nothing to another limit, so the type of a shelf is shared; another last
decision gives another type. -/
theorem filters_built_by_steps_shelf :
    let xs : List FilterStep := [.only ["name"], .restricted true, .skip "clear", .restricted false]
    let ys : List FilterStep :=
      [.restricted false, .only [], .skip "clear", .only ["name"], .skip "clear"]
    let zs : List FilterStep := [.skip "clear", .restricted false, .only ["name"], .restricted true]
    let asked steps := request shelf ⟨0, "tests::Noop"⟩ true (.ofSteps steps)
    let u : Usage String := (Usage.start ⟨0, []⟩).run [.request (asked []), .clear]
    let next := u.ask (asked xs)
    ∃ p, ((asked xs).proxyType u.cache u.mint).result = .ok p ∧ p.serial = 1 ∧
      ((asked ys).proxyType next.cache next.mint).result = .ok p ∧
      ((asked zs).proxyType next.cache next.mint).result ≠ .ok p ∧
      Filter.ofSteps (xs ++ zs) = .ofSteps (zs ++ xs ++ zs) := by
  intro xs ys zs asked u next
  obtain ⟨-, -, heq, htypes, hrearranged⟩ := filters_built_by_steps String
  obtain ⟨p, hp, hserial⟩ : ∃ p, ((asked xs).proxyType u.cache u.mint).result = .ok p ∧
      p.serial = 1 := ⟨_, rfl, rfl⟩
  have hxy : Agree xs ys := (heq xs ys).mp (by decide +kernel)
  have hxz : ¬ Agree xs zs := fun h => absurd ((heq xs zs).mpr h) (by decide +kernel)
  have htype (steps : List FilterStep) :=
    (htypes shelf ⟨0, "tests::Noop"⟩ true xs steps).2 ⟨0, []⟩ [.request (asked []), .clear] p hp
  refine ⟨p, hp, hserial, (htype ys).mpr hxy, fun h => hxz ((htype zs).mp h), ?_⟩
  refine hrearranged _ _ (fun s _ => ?_) (by decide +kernel)
  simp only [List.mem_append]
  tauto

end FilterSteps

end Interpose
