import Interpose.Proofs.Cache.Cells
import Interpose.Proofs.Synthesis.Assignment

/-!
# The answer to a request

A request is answered from the cell of its key or by describing and synthesizing, and what the two
give is taken apart here: the type, or the reason why there is none.

Results:
* `Request.generated_renumber`, `Request.generated_eq_ok`: what a generated type has from its
  request. Only its number and name it has not.
* `Request.generated_ne_unexpectedShape`: generating gives no error about the content of a cell.
* **`Request.served`**: what a request can do, to the cache and to the numbers.
* `Request.proxyType_again`: what a request gave, the next one for the key gives.
-/

namespace Interpose

variable {S : Type}

/-! ## Generating -/

namespace Request

variable {r : Request S} {n : Nat} {p : ProxyType S} {e : ProxyError}

/-- The generated type of what the pass over the slots has left. -/
theorem generated_eq (r : Request S) (n : Nat) :
    r.generated n = (r.surface.describe r.options.filter).bind fun t =>
      (t.assignAll t.slots 0 t.start).map fun a =>
        let entries := t.entries a.routes
        ⟨n, s!"{r.surface.simple}$$Proxy$${n}", r.target, r.surface.qualified, r.interceptor,
          r.surface.constructors, entries, Entry.positions entries, a.count, r.options⟩ := by
  unfold generated
  cases hd : r.surface.describe r.options.filter with
  | error e => rfl
  | ok t =>
    obtain rfl := describe_ok hd
    rfl

/-- Every number gives the same type up to the number and the name that shows it. -/
theorem generated_renumber (r : Request S) (n k : Nat) :
    r.generated k = (r.generated n).map fun p =>
      { p with serial := k, name := s!"{r.surface.simple}$$Proxy$${k}" } := by
  rw [generated_eq, generated_eq]
  cases r.surface.describe r.options.filter with
  | error e => rfl
  | ok t =>
    simp only [Except.bind]
    cases t.assignAll t.slots 0 t.start <;> rfl

/-- The type is one for the target, the type of interceptor and the options of the request. -/
structure Suits (r : Request S) (p : ProxyType S) : Prop where
  type : p.type = r.target
  interceptor : p.interceptor = r.interceptor
  options : p.options = r.options

theorem generated_eq_ok (h : r.generated n = .ok p) : p.serial = n ∧ r.Suits p := by
  rw [generated_eq] at h
  cases hd : r.surface.describe r.options.filter with
  | error e =>
    rw [hd] at h
    cases h
  | ok t =>
    simp only [hd, Except.bind] at h
    cases ha : t.assignAll t.slots 0 t.start with
    | error e =>
      rw [ha] at h
      cases h
    | ok a =>
      rw [ha] at h
      cases h
      exact ⟨rfl, rfl, rfl, rfl⟩

end Request

/-! ## What is wrong with a surface -/

/-- The reasons that a slot cannot be generated for. -/
theorem slotFault?_cases {t : Target S} {a : Assignment} {s : Slot S} {reason : String}
    (h : t.slotFault? a s = some reason) :
    reason = "consuming receiver cannot be shared with the proxy" ∨
    (∃ rest, reason = "parameter `" ++ rest) ∨
    (∃ rest, reason = "unrepresentable return type `" ++ rest) ∨
    reason = "no original method registered" ∨
    ∃ rest, reason = "conflicting signatures `" ++ rest := by
  unfold Target.slotFault? at h
  split at h
  · rename_i hreason
    obtain rfl := Option.some.inj h
    unfold Signature.unrepresentableReason? at hreason
    split at hreason
    · exact .inl (Option.some.inj hreason).symm
    · split at hreason
      · rename_i p _
        refine .inr (.inl ⟨p.name ++ ("` has unrepresentable type `" ++ p.type.text ++ "`"), ?_⟩)
        rw [← Option.some.inj hreason]
        simp only [String.append_assoc]
      · split at hreason
        · cases hreason
        · refine .inr (.inr (.inl ⟨s.signature.returns.text ++ "`", ?_⟩))
          rw [← Option.some.inj hreason]
          simp only [String.append_assoc]
  · split at h
    · exact .inr (.inr (.inr (.inl (Option.some.inj h).symm)))
    · obtain ⟨first, -, hconflict⟩ := Option.bind_eq_some_iff.mp h
      unfold Target.conflict? at hconflict
      split at hconflict
      · split at hconflict
        · cases hconflict
        · rename_i first' _ _
          refine .inr (.inr (.inr (.inr
            ⟨first'.signature.text ++ ("` and `" ++ s.signature.text ++ "`"), ?_⟩)))
          rw [← Option.some.inj hconflict]
          simp only [String.append_assoc]
      · cases hconflict

/-- **A request that cannot be generated** never ends with the error for a cell of unexpected
content. -/
theorem Request.generated_ne_unexpectedShape {r r' : Request S} {n : Nat} :
    r.generated n ≠ .error r'.unexpectedShape := by
  intro h
  rw [generated_eq] at h
  cases hd : r.surface.describe r.options.filter with
  | error e =>
    rw [hd] at h
    obtain rfl := Except.error.inj h
    unfold Surface.describe Surface.refusal? at hd
    split at hd
    · rename_i hrefusal
      obtain rfl := Except.error.inj hd
      split at hrefusal
      · cases hrefusal
      · split at hrefusal <;> cases hrefusal
    · cases hd
  | ok t =>
    simp only [hd, Except.bind] at h
    cases ha : t.assignAll t.slots 0 t.start with
    | ok a =>
      rw [ha] at h
      cases h
    | error e =>
      rw [ha] at h
      obtain rfl := Except.error.inj h
      obtain ⟨_, s, _, a', reason, -, -, hreason, he⟩ := assignAll_eq_error ha
      obtain ⟨-, -, rfl⟩ := ProxyError.generation.inj he
      -- no reason for a slot begins like the one for a cell
      rcases slotFault?_cases hreason with h | ⟨rest, h⟩ | ⟨rest, h⟩ | h | ⟨rest, h⟩ <;>
        simpa using congrArg String.toList h

/-! ## A request -/

namespace Request

/-- **What a request can do**: find a type that fits, find something else, or find nothing and
generate. -/
inductive Served (r : Request S) (c : Cache S) (m : Mint) : Request.Answer S → Prop
  | hit {stored : Stored S} {p : ProxyType S} (hfound : c.find? r.key = some stored)
    (hp : stored.proxy? r.target r.interceptor = some p) :
    Served r c m ⟨.ok p, { c with hits := c.hits + 1 }, m, [.cacheHit r.target.name]⟩
  | misshapen {stored : Stored S} (hfound : c.find? r.key = some stored)
    (hp : stored.proxy? r.target r.interceptor = none) :
    Served r c m
      ⟨.error r.unexpectedShape, { c with hits := c.hits + 1 }, m, [.cacheHit r.target.name]⟩
  | made {p : ProxyType S} (hnone : c.find? r.key = none) (hp : r.generated m.next = .ok p) :
    Served r c m
      ⟨.ok p, { (c.reserve r.key).fill r.key (.proxy p) with syntheses := c.syntheses + 1 },
        ⟨m.next + 1, r.target :: m.asked⟩,
        .cacheMiss r.target.name :: r.generationEvents m.next⟩
  | failed {e : ProxyError} (hnone : c.find? r.key = none) (he : r.generated m.next = .error e) :
    Served r c m
      ⟨.error e, { c.reserve r.key with failures := c.failures + 1 },
        ⟨m.next, r.target :: m.asked⟩,
        .cacheMiss r.target.name :: r.generationEvents m.next⟩

theorem proxy?_proxy {r : Request S} {p : ProxyType S} (h : r.Suits p) :
    (Stored.proxy p).proxy? r.target r.interceptor = some p := by
  simp [Stored.proxy?, h.type, h.interceptor]

theorem proxy?_eq_some {target interceptor : Tag} {stored : Stored S} {p : ProxyType S}
    (h : stored.proxy? target interceptor = some p) : stored = .proxy p := by
  cases stored with
  | proxy q =>
    obtain ⟨-, hq⟩ := (Option.ite_none_right_eq_some ..).mp h
    rw [Option.some.inj hq]
  | foreign n => cases h

theorem type_of_proxy? {target interceptor : Tag} {stored : Stored S} {p : ProxyType S}
    (h : stored.proxy? target interceptor = some p) :
    p.type = target ∧ p.interceptor = interceptor := by
  cases stored with
  | proxy q =>
    obtain ⟨hq, heq⟩ := (Option.ite_none_right_eq_some ..).mp h
    obtain rfl := Option.some.inj heq
    simpa using hq
  | foreign n => cases h

theorem generate_of_ok {r : Request S} {m : Mint} {p : ProxyType S}
    (h : r.generated m.next = .ok p) :
    r.generate m = (.ok (.ok (.proxy p)), ⟨m.next + 1, r.target :: m.asked⟩,
      r.generationEvents m.next) := by
  simp only [generate, h]

theorem generate_of_error {r : Request S} {m : Mint} {e : ProxyError}
    (h : r.generated m.next = .error e) :
    r.generate m = (.ok (.error e), ⟨m.next, r.target :: m.asked⟩, r.generationEvents m.next) := by
  simp only [generate, h]

section Ways

variable {r : Request S} {c : Cache S} {m : Mint} {p : ProxyType S}

/-- A request that finds its type is a hit, and draws on nothing. -/
theorem proxyType_of_found {stored : Stored S} (hfound : c.find? r.key = some stored)
    (hp : stored.proxy? r.target r.interceptor = some p) (m : Mint) :
    r.proxyType c m =
      ⟨.ok p, { c with hits := c.hits + 1 }, m, [.cacheHit r.target.name]⟩ := by
  simp only [proxyType, Cache.lookupOrMake_found hfound, hp]
  rfl

/-- A request that finds something else is a hit too. -/
theorem proxyType_of_misshapen {stored : Stored S} (hfound : c.find? r.key = some stored)
    (hp : stored.proxy? r.target r.interceptor = none) (m : Mint) :
    r.proxyType c m = ⟨.error r.unexpectedShape, { c with hits := c.hits + 1 }, m,
      [.cacheHit r.target.name]⟩ := by
  simp only [proxyType, Cache.lookupOrMake_found hfound, hp]
  rfl

theorem proxyType_of_made (hnone : c.find? r.key = none) (hp : r.generated m.next = .ok p) :
    r.proxyType c m =
      ⟨.ok p, { (c.reserve r.key).fill r.key (.proxy p) with syntheses := c.syntheses + 1 },
        ⟨m.next + 1, r.target :: m.asked⟩,
        .cacheMiss r.target.name :: r.generationEvents m.next⟩ := by
  simp only [proxyType, Cache.lookupOrMake_made hnone (generate_of_ok hp),
    proxy?_proxy (generated_eq_ok hp).2]
  rfl

theorem proxyType_of_refused {e : ProxyError} (hnone : c.find? r.key = none)
    (he : r.generated m.next = .error e) :
    r.proxyType c m =
      ⟨.error e, { c.reserve r.key with failures := c.failures + 1 },
        ⟨m.next, r.target :: m.asked⟩,
        .cacheMiss r.target.name :: r.generationEvents m.next⟩ := by
  simp only [proxyType, Cache.lookupOrMake_refused hnone (generate_of_error he)]
  rfl

end Ways

theorem served (r : Request S) (c : Cache S) (m : Mint) : r.Served c m (r.proxyType c m) := by
  cases hfound : c.find? r.key with
  | some stored =>
    cases hp : stored.proxy? r.target r.interceptor with
    | some p => exact proxyType_of_found hfound hp m ▸ .hit hfound hp
    | none => exact proxyType_of_misshapen hfound hp m ▸ .misshapen hfound hp
  | none =>
    cases hgen : r.generated m.next with
    | ok p => exact proxyType_of_made hfound hgen ▸ .made hfound hgen
    | error e => exact proxyType_of_refused hfound hgen ▸ .failed hfound hgen

/-! ## The next request -/

section Again

variable {r : Request S} {c : Cache S} {p : ProxyType S}

/-- What a request gave is what its key holds from then on, and the request takes it. -/
theorem find?_of_result {m : Mint} (h : (r.proxyType c m).result = .ok p) :
    (r.proxyType c m).cache.find? r.key = some (.proxy p) ∧
      (Stored.proxy p).proxy? r.target r.interceptor = some p := by
  have hserved := r.served c m
  generalize r.proxyType c m = a at h hserved
  cases hserved with
  | hit hfound hp =>
    obtain rfl := proxy?_eq_some hp
    obtain rfl := Except.ok.inj h
    exact ⟨hfound, hp⟩
  | made hnone hp =>
    obtain rfl := Except.ok.inj h
    exact ⟨(c.find?_fill_reserve ..).trans (if_pos rfl), proxy?_proxy (generated_eq_ok hp).2⟩
  | misshapen => cases h
  | failed => cases h

/-- **A request that gave a type** gives it again, as a hit, whatever happened to the numbers. -/
theorem proxyType_again {m : Mint} (h : (r.proxyType c m).result = .ok p) (m' : Mint) :
    r.proxyType (r.proxyType c m).cache m' =
      ⟨.ok p, { (r.proxyType c m).cache with hits := (r.proxyType c m).cache.hits + 1 }, m',
        [.cacheHit r.target.name]⟩ :=
  proxyType_of_found (find?_of_result h).1 (find?_of_result h).2 m'

end Again

end Request

end Interpose
