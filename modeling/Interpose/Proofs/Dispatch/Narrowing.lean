import Interpose.Proofs.Dispatch.Guard
import Interpose.Proofs.Synthesis.Acceptance

/-!
# Narrowing a filter

Two filters are compared on one surface, where the second selects no method that the first does not
select. Fewer slots are fewer requirements on slots, so what can be generated under the first filter
can be generated under the second; and a method that loses its slot has shown, by having had one,
that it can be called directly.

Results:
* `acceptance_narrows`: synthesis succeeds under the narrower filter if it does under the wider.
* `resolve_eq`: the filter plays no part in what a call by name comes to.
* **`narrowed_of_synthesize`**: the two route tables, method by method, and the calls by name.
-/

namespace Interpose

variable {S : Type} {d : Surface S} {f g : Filter} {t t' : Target S} {p q : ProxyType S}

/-- The second filter admits no overridable method of the surface that the first does not admit. -/
def Filter.Narrows (d : Surface S) (f g : Filter) : Prop :=
  ∀ m ∈ d.methods, m.signature.isOverridable = true → g.admits m.signature = true →
    f.admits m.signature = true

/-- What the narrower filter selects, the wider does. -/
theorem Filter.Narrows.selects (h : Filter.Narrows d f g) {m : Method S} (hm : m ∈ d.methods)
    (hg : g.Selects m.signature) : f.Selects m.signature := by
  rw [Filter.selects_iff, Bool.and_eq_true] at hg ⊢
  exact ⟨hg.1, h m hm hg.1 hg.2⟩

theorem Filter.Narrows.select_subset (h : Filter.Narrows d f g) : d.select g ⊆ d.select f := by
  intro s hs
  obtain ⟨hm, hg⟩ := mem_select.mp hs
  exact mem_select.mpr ⟨hm, h.selects (List.mem_of_getElem? hm) hg⟩

/-! ## Synthesis -/

/-- The filter plays no part in whether a surface can be described. -/
theorem describe_isOk {f : Filter} (hd : d.describe f = .ok t) (g : Filter) :
    d.describe g = .ok ⟨d, d.select g⟩ := by
  unfold Surface.describe at hd ⊢
  cases hrefusal : d.refusal? with
  | some e =>
    rw [hrefusal] at hd
    cases hd
  | none => rfl

/-- **Fewer slots can be generated where more can**: what is asked of every slot, and of any two,
is asked of fewer. -/
theorem acceptance_narrows (hle : Filter.Narrows d f g) (hp : Generated d f t p)
    (interceptor : Tag) (options : Options) (serial : Nat) :
    ∃ q, Target.synthesize ⟨d, d.select g⟩ interceptor options serial = .ok q := by
  obtain ⟨hd, interceptor', options', serial', hs⟩ := hp
  obtain rfl := describe_ok hd
  obtain ⟨halone, hpairs⟩ := ((acceptance_of_describe hd).succeeds_iff _ _ _).mp ⟨p, hs⟩
  have hg := acceptance_of_describe (describe_isOk hd g)
  refine (hg.succeeds_iff interceptor options serial).mpr ⟨fun s hs => ?_, fun r hr s hs => ?_⟩
  · exact halone s (hle.select_subset hs)
  · exact hpairs r (hle.select_subset hr) s (hle.select_subset hs)

/-! ## Calls by name -/

/-- What a call by name comes to is settled by the surface alone. -/
theorem resolve_eq (hp : Generated d f t p) (hq : Generated d g t' q) (name : String)
    (args : List Value) : p.resolve name args = q.resolve name args := by
  unfold ProxyType.resolve
  rw [target_of_generated hp, target_of_generated hq]
  rcases callable?_cases hp name with ⟨hnone, hi⟩ | ⟨i, m, hm, -, hi, hsig⟩
  · rcases callable?_cases hq name with ⟨-, hj⟩ | ⟨_, _, hsome, -⟩
    · rw [hi, hj]
    · cases hnone.symm.trans hsome
  · rcases callable?_cases hq name with ⟨hnone, -⟩ | ⟨j, m', hm', -, hj, hsig'⟩
    · cases hnone.symm.trans hm
    · obtain rfl : m = m' := Option.some.inj (hm.symm.trans hm')
      have hij : q.indexOf? name = p.indexOf? name :=
        (indexOf?_eq_methods hq name).trans (indexOf?_eq_methods hp name).symm
      rw [hij, hi, hsig, hsig']

/-! ## The two route tables -/

/-- The route of the method at the position. -/
def ProxyType.routeAt? (p : ProxyType S) (i : Nat) : Option Route := p.entries[i]?.map (·.route)

theorem routeAt?_of_selects (hp : Generated d f t p) {i : Nat} {m : Method S}
    (hm : d.methods[i]? = some m) (hsel : f.Selects m.signature) :
    ∃ k, p.routeAt? i = some (.intercept k) := by
  rcases entry_cases hp hm with ⟨-, k, s, -, -, -, he⟩ | ⟨hno, -⟩
  · exact ⟨k, by rw [ProxyType.routeAt?, he]; rfl⟩
  · exact absurd hsel hno

/-- A method that is not selected keeps its own entry. -/
theorem entry_of_not_selects (hp : Generated d f t p) {i : Nat} {m : Method S}
    (hm : d.methods[i]? = some m) (hsel : ¬ f.Selects m.signature) :
    p.entries[i]? = some ⟨m.signature, m.original, m.ownRoute⟩ := by
  rcases entry_cases hp hm with ⟨h, -⟩ | ⟨-, he⟩
  · exact absurd h hsel
  · exact he

/-- A method that has a slot under some filter is called directly where it has none. -/
theorem ownRoute_of_selects (hp : Generated d f t p) {i : Nat} {m : Method S}
    (hm : d.methods[i]? = some m) (hsel : f.Selects m.signature) : m.ownRoute = .direct :=
  (ownRoute_direct_iff m).mpr ⟨hsel.2.1, original_of_selects hp hm hsel⟩

/-- **The types `p` and `q`**, generated from one surface under the wider filter `f` and under the
narrower `g`. -/
structure Narrowed (d : Surface S) (f g : Filter) (p q : ProxyType S) : Prop where
  /-- A method that both filters select is intercepted in both. -/
  kept : ∀ i m, d.methods[i]? = some m → f.Selects m.signature → g.Selects m.signature →
    (∃ k, p.routeAt? i = some (.intercept k)) ∧ ∃ k, q.routeAt? i = some (.intercept k)
  /-- A method that only the wider filter selects is called directly under the narrower. -/
  released : ∀ i m, d.methods[i]? = some m → f.Selects m.signature → ¬ g.Selects m.signature →
    (∃ k, p.routeAt? i = some (.intercept k)) ∧ q.routeAt? i = some .direct
  /-- Any other method has the same entry in both, and so the same route. -/
  others : ∀ i m, d.methods[i]? = some m → ¬ f.Selects m.signature →
    p.entries[i]? = q.entries[i]? ∧ p.routeAt? i = q.routeAt? i
  /-- Calls by name find the same names, in the same places. -/
  found : ∀ name, p.indexOf? name = q.indexOf? name
  /-- They are refused alike, and come to the same method. -/
  resolved : ∀ name args, p.resolve name args = q.resolve name args

/-- **A filter can be narrowed safely**: if describing and synthesizing succeed under the wider
filter they do under the narrower, and the two types compare so. -/
theorem narrowed_of_synthesize (hle : Filter.Narrows d f g) {interceptor : Tag} {options : Options}
    {serial : Nat} (hd : d.describe f = .ok t)
    (hs : t.synthesize interceptor options serial = .ok p) (interceptor' : Tag)
    (options' : Options) (serial' : Nat) :
    ∃ t' q, d.describe g = .ok t' ∧ t'.synthesize interceptor' options' serial' = .ok q ∧
      Narrowed d f g p q := by
  have hp : Generated d f t p := ⟨hd, interceptor, options, serial, hs⟩
  obtain ⟨q, hs'⟩ := acceptance_narrows hle hp interceptor' options' serial'
  have hd' := describe_isOk hd g
  have hq : Generated d g _ q := ⟨hd', interceptor', options', serial', hs'⟩
  refine ⟨_, q, hd', hs', fun i m hm hf hg => ?_, fun i m hm hf hg => ?_, fun i m hm hf => ?_,
    fun name => ?_, resolve_eq hp hq⟩
  · exact ⟨routeAt?_of_selects hp hm hf, routeAt?_of_selects hq hm hg⟩
  · refine ⟨routeAt?_of_selects hp hm hf, ?_⟩
    rw [ProxyType.routeAt?, entry_of_not_selects hq hm hg, ← ownRoute_of_selects hp hm hf]
    rfl
  · have hg : ¬ g.Selects m.signature := fun hg => hf (hle.selects (List.mem_of_getElem? hm) hg)
    have he : p.entries[i]? = q.entries[i]? :=
      (entry_of_not_selects hp hm hf).trans (entry_of_not_selects hq hm hg).symm
    exact ⟨he, by rw [ProxyType.routeAt?, ProxyType.routeAt?, he]⟩
  · rw [indexOf?_eq_methods hp, indexOf?_eq_methods hq]

/-- On the shelf, skipping the name releases both of its methods and moves the other slots up. -/
theorem narrowed_shelf :
    Filter.Narrows shelf .all (Filter.all.skipName "name") ∧
    ∃ t p, shelf.describe .all = .ok t ∧ t.synthesize ⟨0, "tests::Noop"⟩ .standard 0 = .ok p ∧
    ∃ t' q, shelf.describe (Filter.all.skipName "name") = .ok t' ∧
      t'.synthesize ⟨0, "tests::Noop"⟩ .standard 1 = .ok q ∧
      Narrowed shelf .all (Filter.all.skipName "name") p q ∧
      (p.routeAt? 0, p.routeAt? 1, p.routeAt? 2) =
        (some (.intercept 0), some (.intercept 1), some (.intercept 0)) ∧
      (q.routeAt? 0, q.routeAt? 1, q.routeAt? 2) =
        (some .direct, some (.intercept 0), some .direct) := by
  have hle : Filter.Narrows shelf .all (Filter.all.skipName "name") := fun _ _ _ _ => rfl
  obtain ⟨t', q, hd', hs', hnarrowed⟩ :=
    narrowed_of_synthesize hle (d := shelf) rfl rfl ⟨0, "tests::Noop"⟩ .standard 1
  refine ⟨hle, _, _, rfl, rfl, t', q, hd', hs', hnarrowed, rfl, ?_⟩
  cases hd'
  cases hs'
  rfl

end Interpose
