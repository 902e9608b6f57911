import Interpose.Proofs.Dispatch.Guard

/-!
# Construction

An instance is made by the first constructor that takes the arguments. Being first is final: what
its code gives is what the construction comes to, also when the code fails or panics and a later
constructor would have done better.

* `Constructor.Takes` : the constructor is accessible, has code, and the arguments fit.
* `FirstTaker` : the first constructor that takes the arguments, at its position.
* `Constructed` has one rule per way in which a construction can go.

Results:
* `FirstTaker.unique`, `selectConstructor?_eq_some_iff`, `selectConstructor?_eq_none_iff`: what is
  selected.
* `constructed_iff`: a construction follows one of the rules, and they leave nothing open.
* **`construction_by_first_taker`**: what runs, what comes of it, and what plays no part.
-/

namespace Interpose

variable {S : Type}

/-- The constructor takes the arguments, and this is its code. -/
structure Constructor.Takes (c : Constructor S) (args : List Value)
    (build : List Value → Reply S) : Prop where
  accessible : c.visibility ≠ .internal
  code : c.build = some build
  fit : Param.Fit c.params args

/-- **The first constructor that takes the arguments**, at its position, and its code. -/
structure FirstTaker (constructors : List (Constructor S)) (args : List Value) (i : Nat)
    (c : Constructor S) (build : List Value → Reply S) : Prop where
  declared : constructors[i]? = some c
  takes : c.Takes args build
  first : ∀ j b, j < i → constructors[j]? = some b → ∀ code, ¬ b.Takes args code

/-- **How a construction goes**, for a target of this name with these constructors. -/
inductive Constructed (target : String) (constructors : List (Constructor S))
    (args : List Value) : Construction S → Prop
  /-- Nothing runs where no constructor takes the arguments. -/
  | unfit (h : ∀ c ∈ constructors, ∀ code, ¬ c.Takes args code) :
    Constructed target constructors args
      ⟨.error (.construction target
        ("no accessible constructor accepts (" ++ Value.typeNames args ++ ")")), []⟩
  | built {i : Nat} {c : Constructor S} {build : List Value → Reply S} {state : S}
    (h : FirstTaker constructors args i c build) (hrun : build args = .ok state) :
    Constructed target constructors args ⟨.ok state, [⟨i, args, .ok state⟩]⟩
  | failed {i : Nat} {c : Constructor S} {build : List Value → Reply S} {f : Failure}
    (h : FirstTaker constructors args i c build) (hrun : build args = .failed f) :
    Constructed target constructors args
      ⟨.error (.construction target (s!"constructor '{c.name}' failed: " ++ f.text)),
        [⟨i, args, .failed f⟩]⟩
  | panicked {i : Nat} {c : Constructor S} {build : List Value → Reply S} {payload : Payload}
    (h : FirstTaker constructors args i c build) (hrun : build args = .panicked payload) :
    Constructed target constructors args
      ⟨.error (.construction target
        (s!"constructor '{c.name}' " ++ (Failure.panicked payload).text)),
        [⟨i, args, .panicked payload⟩]⟩

/-- The constructors with other code: `recode` says which code a position gets for its own. -/
def recoded (recode : Nat → (List Value → Reply S) → List Value → Reply S)
    (constructors : List (Constructor S)) : List (Constructor S) :=
  constructors.mapIdx fun i c => { c with build := c.build.map (recode i) }

section Selection

variable {constructors : List (Constructor S)} {args : List Value} {i j : Nat}
  {c c' : Constructor S} {build build' : List Value → Reply S} {selected : Selection S}

/-! ## The first that takes the arguments -/

/-- There is one first. -/
theorem FirstTaker.unique (h : FirstTaker constructors args i c build)
    (h' : FirstTaker constructors args j c' build') : i = j ∧ c = c' ∧ build = build' := by
  have hij : i = j := by
    rcases Nat.lt_trichotomy i j with hlt | heq | hlt
    · exact absurd h.takes (h'.first i c hlt h.declared build)
    · exact heq
    · exact absurd h'.takes (h.first j c' hlt h'.declared build')
  subst hij
  cases Option.some.inj (h.declared.symm.trans h'.declared)
  exact ⟨rfl, rfl, Option.some.inj (h.takes.code.symm.trans h'.takes.code)⟩

/-- A constructor offers its code iff it takes the arguments. -/
theorem offer_eq_some_iff :
    (if c.visibility.isAccessible && c.accepts args then
      c.build.map fun build => (⟨i, c.name, build⟩ : Selection S) else none) = some selected ↔
      ∃ build, c.Takes args build ∧ selected = ⟨i, c.name, build⟩ := by
  constructor
  · intro h
    split at h
    · rename_i hfit
      obtain ⟨build, hcode, rfl⟩ := Option.map_eq_some_iff.mp h
      simp only [Bool.and_eq_true, Visibility.isAccessible, decide_eq_true_eq] at hfit
      exact ⟨build, ⟨hfit.1, hcode, Param.accept_iff.mp hfit.2⟩, rfl⟩
    · cases h
  · rintro ⟨build, ⟨haccessible, hcode, hfit⟩, rfl⟩
    have haccepts : c.accepts args = true := Param.accept_iff.mpr hfit
    simp [Visibility.isAccessible, haccessible, haccepts, hcode]

/-- **Nothing is selected** iff no constructor takes the arguments. -/
theorem selectConstructor?_eq_none_iff :
    selectConstructor? constructors args = none ↔
      ∀ c ∈ constructors, ∀ code, ¬ c.Takes args code := by
  unfold selectConstructor?
  rw [List.findSome?_eq_none_iff]
  constructor
  · intro h c hc code htakes
    obtain ⟨i, hi⟩ := List.mem_iff_getElem?.mp hc
    have hnone := h (c, i) (List.mk_mem_zipIdx_iff_getElem?.mpr hi)
    have hsome := (offer_eq_some_iff (i := i)).mpr ⟨code, htakes, rfl⟩
    cases hnone.symm.trans hsome
  · rintro h ⟨c, i⟩ hmem
    refine Option.eq_none_iff_forall_ne_some.mpr fun selected hsome => ?_
    obtain ⟨code, htakes, -⟩ := offer_eq_some_iff.mp hsome
    exact h c (List.mem_of_getElem? (List.mk_mem_zipIdx_iff_getElem?.mp hmem)) code htakes

/-- What is selected is the first that takes the arguments. -/
theorem firstTaker_of_select (h : selectConstructor? constructors args = some selected) :
    ∃ c, FirstTaker constructors args selected.position c selected.build ∧
      selected.name = c.name := by
  obtain ⟨before, ⟨c, i⟩, after, hsplit, hoffer, hbefore⟩ := List.findSome?_eq_some_iff.mp h
  obtain ⟨build, htakes, rfl⟩ := offer_eq_some_iff.mp hoffer
  have hat (j : Nat) : constructors.zipIdx[j]? = constructors[j]?.map fun c => (c, j) := by
    simp [List.getElem?_zipIdx]
  -- the constructor stands behind those that offered nothing, so their number is its position
  have hhere : constructors.zipIdx[before.length]? = some (c, i) := by rw [hsplit]; simp
  obtain ⟨_, hc, heq⟩ := Option.map_eq_some_iff.mp ((hat _).symm.trans hhere)
  obtain ⟨rfl, rfl⟩ := Prod.mk.inj heq
  refine ⟨_, ⟨hc, htakes, fun j b hj hb code htakes' => ?_⟩, rfl⟩
  have hmem : before[j]? = some (b, j) := by
    have hj' := hat j
    rwa [hsplit, List.getElem?_append_left hj, hb] at hj'
  cases (hbefore _ (List.mem_of_getElem? hmem)).symm.trans
    (offer_eq_some_iff.mpr ⟨code, htakes', rfl⟩)

/-- **A constructor is selected** iff it is the first that takes the arguments. -/
theorem selectConstructor?_eq_some_iff :
    selectConstructor? constructors args = some selected ↔
      ∃ c, FirstTaker constructors args selected.position c selected.build ∧
        selected.name = c.name := by
  refine ⟨firstTaker_of_select, ?_⟩
  rintro ⟨c, hfirst, hname⟩
  cases h : selectConstructor? constructors args with
  | none =>
    have hmem := List.mem_of_getElem? hfirst.declared
    exact absurd hfirst.takes (selectConstructor?_eq_none_iff.mp h c hmem _)
  | some other =>
    obtain ⟨c', hfirst', hname'⟩ := firstTaker_of_select h
    obtain ⟨hposition, rfl, hbuild⟩ := hfirst'.unique hfirst
    obtain ⟨_, _, _⟩ := selected
    obtain ⟨_, _, _⟩ := other
    simp_all

/-! ## Other code -/

theorem recoded_getElem? (recode : Nat → (List Value → Reply S) → List Value → Reply S) (i : Nat) :
    (recoded recode constructors)[i]? =
      constructors[i]?.map fun c => { c with build := c.build.map (recode i) } := by
  simp [recoded, List.getElem?_mapIdx]

/-- A constructor takes no more with other code. -/
theorem takes_of_recoded {recode : (List Value → Reply S) → List Value → Reply S}
    {code : List Value → Reply S}
    (h : Constructor.Takes { c with build := c.build.map recode } args code) :
    ∃ build, c.Takes args build := by
  obtain ⟨build, hbuild, -⟩ := Option.map_eq_some_iff.mp h.code
  exact ⟨build, h.accessible, hbuild, h.fit⟩

/-- The first constructor that takes the arguments stays the first if it keeps its code, whatever
code the others get. -/
theorem FirstTaker.recoded (h : FirstTaker constructors args i c build)
    {recode : Nat → (List Value → Reply S) → List Value → Reply S} (hkeeps : recode i = id) :
    FirstTaker (recoded recode constructors) args i c build where
  declared := by
    rw [recoded_getElem?, h.declared, hkeeps]
    simp
  takes := h.takes
  first := by
    intro j b hj hb code htakes
    rw [recoded_getElem?] at hb
    obtain ⟨b', hb', rfl⟩ := Option.map_eq_some_iff.mp hb
    obtain ⟨build', htakes'⟩ := takes_of_recoded htakes
    exact h.first j b' hj hb' build' htakes'

end Selection

/-! ## The construction -/

variable (p : ProxyType S) (args : List Value)

/-- A construction follows the rules. -/
theorem constructed_construction :
    Constructed p.target p.constructors args (p.construction args) := by
  unfold ProxyType.construction
  cases h : selectConstructor? p.constructors args with
  | none => exact .unfit (selectConstructor?_eq_none_iff.mp h)
  | some selected =>
    obtain ⟨c, hfirst, hname⟩ := selectConstructor?_eq_some_iff.mp h
    simp only [hname]
    cases hrun : selected.build args with
    | ok state => exact .built hfirst hrun
    | failed f => exact .failed hfirst hrun
    | panicked payload => exact .panicked hfirst hrun

/-- **The rules leave nothing open.** -/
theorem constructed_iff (made : Construction S) :
    Constructed p.target p.constructors args made ↔ made = p.construction args := by
  refine ⟨fun h => ?_, fun h => h ▸ constructed_construction p args⟩
  have hselected {i : Nat} {c : Constructor S} {build : List Value → Reply S}
      (hfirst : FirstTaker p.constructors args i c build) :
      selectConstructor? p.constructors args = some ⟨i, c.name, build⟩ :=
    selectConstructor?_eq_some_iff.mpr ⟨c, hfirst, rfl⟩
  unfold ProxyType.construction
  cases h with
  | unfit h => rw [selectConstructor?_eq_none_iff.mpr h]
  | built hfirst hrun | failed hfirst hrun | panicked hfirst hrun =>
    rw [hselected hfirst]
    simp only [hrun]
    rfl

/-- Code that a construction has not run plays no part in it. -/
theorem construction_recoded (recode : Nat → (List Value → Reply S) → List Value → Reply S)
    (h : ∀ b ∈ (p.construction args).builds, recode b.position = id) :
    ProxyType.construction { p with constructors := recoded recode p.constructors } args =
      p.construction args := by
  symm
  rw [← constructed_iff]
  have hmade := constructed_construction p args
  generalize p.construction args = made at h hmade
  cases hmade with
  | unfit hunfit =>
    refine .unfit fun c hc code htakes => ?_
    obtain ⟨i, hi⟩ := List.mem_iff_getElem?.mp hc
    obtain ⟨c', hc', rfl⟩ := Option.map_eq_some_iff.mp ((recoded_getElem? recode i).symm.trans hi)
    obtain ⟨build, htakes'⟩ := takes_of_recoded htakes
    exact hunfit c' (List.mem_of_getElem? hc') build htakes'
  | built hfirst hrun => exact .built (hfirst.recoded (h _ (List.mem_singleton_self _))) hrun
  | failed hfirst hrun => exact .failed (hfirst.recoded (h _ (List.mem_singleton_self _))) hrun
  | panicked hfirst hrun => exact .panicked (hfirst.recoded (h _ (List.mem_singleton_self _))) hrun

/-- **Constructor selection**, for any constructors, arguments and code. A construction goes by the
rules: it runs the code of the first constructor that takes the arguments and nothing else, ends
with the state that the code gives, and is an error of construction where the code fails or panics,
or where no constructor takes the arguments. It never panics, whatever the options of the type are:
they play no part, and neither does any code that has not run. What has run is code of a constructor
that is accessible. -/
theorem construction_by_first_taker :
    (∀ made, Constructed p.target p.constructors args made ↔ made = p.construction args) ∧
    construct p args = (p.construction args).result ∧
    (∀ options, construct { p with options } args = construct p args) ∧
    (∀ recode, (∀ b ∈ (p.construction args).builds, recode b.position = id) →
      ProxyType.construction { p with constructors := recoded recode p.constructors } args =
        p.construction args) ∧
    ∀ b ∈ (p.construction args).builds, ∃ c build, p.constructors[b.position]? = some c ∧
      c.visibility ≠ .internal ∧ c.build = some build ∧ b.args = args ∧ b.reply = build args := by
  refine ⟨constructed_iff p args, rfl, fun _ => rfl, construction_recoded p args, fun b hb => ?_⟩
  have hmade := constructed_construction p args
  generalize p.construction args = made at hb hmade
  cases hmade with
  | unfit h => cases hb
  | built hfirst hrun | failed hfirst hrun | panicked hfirst hrun =>
    obtain rfl := List.mem_singleton.mp hb
    exact ⟨_, _, hfirst.declared, hfirst.takes.accessible, hfirst.takes.code, rfl, hrun.symm⟩

/-- Ways to make a lamp of some brightness: a private one, one without code, one that fails, and one
that would do. -/
def lampConstructors : List (Constructor Nat) :=
  [⟨"hidden", [⟨"lumen", .uint "u16"⟩], .internal, some fun _ => .ok 0⟩,
   ⟨"borrowed", [⟨"lumen", .uint "u16"⟩], .exported, none⟩,
   ⟨"dark", [], .exported, some fun _ => .ok 0⟩,
   ⟨"dimmed", [⟨"lumen", .uint "u16"⟩], .restricted, some fun _ => .failed (.ofMessage "no power")⟩,
   ⟨"bright", [⟨"lumen", .uint "u16"⟩], .exported, some fun _ => .ok 300⟩]

example (p : ProxyType Nat) (h : p.constructors = lampConstructors) :
    p.construction [.uint 300] =
      ⟨.error (.construction p.target "constructor 'dimmed' failed: no power"),
        [⟨3, [.uint 300], .failed (.ofMessage "no power")⟩]⟩ := by
  unfold ProxyType.construction
  rw [h]
  rfl

end Interpose
