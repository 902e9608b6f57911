import Interpose.Proofs.Process.Store

/-!
# The names of generated types

All caches of a process, and whoever generates without a cache, draw numbers from one counter. A
request that is answered from a cell, or that is refused, leaves the counter alone, so the numbers
that were used are consecutive in the order of the syntheses; and since a name ends with its number,
no two syntheses give one name, whatever the simple names of the targets are.

* A request carries the surface that its type declared when it was asked, so a type may declare
  different surfaces at different times.
* Cells may also be filled by hand, with anything but a generated type.

Results:
* `numberedName_inj`: simple name and number can be told from the name.
* `Ledger.Sound.step`: what every errand keeps true of the log and of the cells.
* **`Ledger.run_numbering`**: numbers and names after any run.
-/

namespace Interpose

variable {κ S : Type}

/-! ## Names -/

/-- The name of the type with the number, for a target with the simple name. -/
def numberedName (simple : String) (n : Nat) : String := simple ++ "$$Proxy$$" ++ toString n

/-- A mark that stands in neither suffix separates them from what is before. -/
theorem append_cons_inj {α : Type} {xs ys ds es : List α} {c : α} (hd : c ∉ ds) (he : c ∉ es)
    (h : xs ++ c :: ds = ys ++ c :: es) : xs = ys ∧ ds = es := by
  rcases List.append_eq_append_iff.mp h with ⟨as, rfl, has⟩ | ⟨as, rfl, has⟩
  · cases as with
    | nil => simpa using has
    | cons a as =>
      -- the mark of the right-hand side would stand in the suffix of the left-hand side
      obtain ⟨-, rfl⟩ := List.cons.inj has
      simp at hd
  · cases as with
    | nil => simpa using has.symm
    | cons a as =>
      obtain ⟨-, rfl⟩ := List.cons.inj has
      simp at he

theorem dollar_not_mem_digits (n : Nat) : '$' ∉ Nat.toDigits 10 n := by
  intro h
  have hdigit := Nat.isDigit_of_mem_toDigits (by omega) (by omega) h
  revert hdigit
  decide

/-- **Simple name and number can be told from the name**, also when the simple name itself looks
like a numbered one: the last mark is the one before the number, since digits are no marks. -/
theorem numberedName_inj {simple simple' : String} {n n' : Nat}
    (h : numberedName simple n = numberedName simple' n') : simple = simple' ∧ n = n' := by
  have hlist (s : String) (k : Nat) : (numberedName s k).toList =
      (s.toList ++ "$$Proxy$".toList) ++ '$' :: Nat.toDigits 10 k := by
    simp [numberedName, Nat.toString_eq_repr, Nat.toList_repr]
  obtain ⟨hsimple, hdigits⟩ := append_cons_inj (dollar_not_mem_digits n) (dollar_not_mem_digits n')
    ((hlist simple n).symm.trans ((congrArg String.toList h).trans (hlist simple' n')))
  refine ⟨String.toList_inj.mp (List.append_cancel_right hsimple), ?_⟩
  have hnumber := congrArg (fun ds => Nat.ofDigitChars 10 ds 0) hdigits
  simpa using hnumber

/-- A target may itself be called like a generated type. -/
example : numberedName "Shelf" 10 ≠ numberedName "Shelf$$Proxy$$1" 0 := by decide

theorem name_of_generated {r : Request S} {n : Nat} {p : ProxyType S}
    (h : r.generated n = .ok p) : p.name = numberedName r.surface.simple n := by
  have hp := r.generated_renumber n n
  rw [h] at hp
  exact congrArg (·.name) (Except.ok.inj hp)

/-! ## The system -/

/-- What can happen to the caches of a process and to the counter. -/
inductive Errand (κ S : Type) where
  /-- A cache is asked for a generated type. -/
  | request (c : κ) (r : Request S)
  /-- A type is described and synthesized without a cache. -/
  | generate (r : Request S)
  /-- A cache is asked with a maker of one's own, that may also fail or panic. -/
  | supply (c : κ) (key : Key) (made : Reply (Except ProxyError Nat))
  /-- A cache is purged, while types with the numbers are in use. -/
  | purge (c : κ) (live : List Nat)
  | clear (c : κ)

/-- The request for a generated type, if it is one. -/
def Errand.request? : Errand κ S → Option (Request S)
  | request _ r => some r
  | generate r => some r
  | _ => none

/-- A request, as it was answered. -/
structure Inquiry (S : Type) where
  request : Request S
  /-- Was the cell of its key filled? -/
  found : Bool
  /-- The number that the counter showed before. -/
  before : Nat
  /-- The number that the counter showed after. -/
  after : Nat
  result : Except ProxyError (ProxyType S)

/-- The type that was synthesized for it, if one was: requests that found a filled cell synthesize
nothing, and neither do those that were refused. -/
def Inquiry.made? (x : Inquiry S) : Option (ProxyType S) :=
  if x.found then none else x.result.toOption

/-- The caches of a process, with its requests in order. -/
structure Ledger (κ S : Type) where
  store : Store κ S
  log : List (Inquiry S)

namespace Ledger

/-- Nothing was requested. -/
def start (m : Mint) : Ledger κ S := ⟨.start m, []⟩

/-- The generated types, in the order of their syntheses. -/
def made (w : Ledger κ S) : List (ProxyType S) := w.log.filterMap Inquiry.made?

/-- The number of the next generated type. -/
def next (w : Ledger κ S) : Nat := w.store.mint.next

/-- The reply of a maker, as content for a cell. -/
def byHand (made : Reply (Except ProxyError Nat)) : Reply (Except ProxyError (Stored S)) :=
  match made with
  | .ok content => .ok (content.map .foreign)
  | .failed f => .failed f
  | .panicked p => .panicked p

/-- A request was answered, and the caches go on. -/
def answer (w : Ledger κ S) (r : Request S) (found : Bool)
    (result : Except ProxyError (ProxyType S)) (store : Store κ S) : Ledger κ S :=
  ⟨store, w.log ++ [⟨r, found, w.next, store.mint.next, result⟩]⟩

/-- Asks a cache for a generated type. -/
def ask [DecidableEq κ] (w : Ledger κ S) (c : κ) (r : Request S) : Ledger κ S :=
  let a := r.proxyType (w.store.caches c) w.store.mint
  w.answer r ((w.store.caches c).contains r.key) a.result (w.store.put c a.cache a.mint)

/-- Describes and synthesizes. -/
def generate (w : Ledger κ S) (r : Request S) : Ledger κ S :=
  w.answer r false (r.generated w.next) ⟨w.store.caches, (r.generate w.store.mint).2.1⟩

/-- Runs one errand. -/
def step [DecidableEq κ] (w : Ledger κ S) : Errand κ S → Ledger κ S
  | .request c r => w.ask c r
  | .generate r => w.generate r
  | .supply c key made =>
    let found := (w.store.caches c).lookupOrMake key (fun m => (byHand made, m, [])) w.store.mint
    { w with store := w.store.put c found.cache found.world }
  | .purge c live => { w with store := w.store.purge c live }
  | .clear c => { w with store := w.store.clear c }

/-- Runs errands in order. -/
def run [DecidableEq κ] (w : Ledger κ S) (errands : List (Errand κ S)) : Ledger κ S :=
  errands.foldl step w

/-! ## What stays true -/

/-- One request has moved the counter by what it has synthesized. -/
structure Inquiry.Settled (x : Inquiry S) : Prop where
  spent : ∀ p, x.made? = some p → x.request.generated x.before = .ok p ∧ x.after = x.before + 1
  unspent : x.made? = none → x.after = x.before

/-- The content is by hand, or it is one of the types. -/
def Known (types : List (ProxyType S)) (_ : Key) (stored : Stored S) : Prop :=
  ∀ p, stored = .proxy p → p ∈ types

/-- What every run keeps true, if it has started with the number `first`. -/
structure Sound (first : Nat) (w : Ledger κ S) : Prop where
  serials : w.made.map (·.serial) = List.range' first w.made.length
  next : w.next = first + w.made.length
  settled : ∀ x ∈ w.log, Inquiry.Settled x
  given : ∀ x ∈ w.log, ∀ p, x.result = .ok p → p ∈ w.made
  held : w.store.Holds (Known w.made)

variable {w : Ledger κ S} {first : Nat}

theorem Known.mono {types types' : List (ProxyType S)} (hsub : types ⊆ types') (key : Key)
    (stored : Stored S) (h : Known types key stored) : Known types' key stored :=
  fun p hp => hsub (h p hp)

namespace Sound

theorem start (m : Mint) : (Ledger.start m : Ledger κ S).Sound m.next where
  serials := rfl
  next := rfl
  settled := fun _ hx => absurd hx List.not_mem_nil
  given := fun _ hx => absurd hx List.not_mem_nil
  held := .start m

/-- The caches change and the counter does not. -/
theorem restore (h : w.Sound first) {store : Store κ S} (hnext : store.mint.next = w.next)
    (hheld : store.Holds (Known w.made)) : Sound first { w with store } :=
  ⟨h.serials, hnext.trans h.next, h.settled, h.given, hheld⟩

/-- A request is answered, and `new` are the types that were synthesized for it. -/
theorem answer (h : w.Sound first) {r : Request S} {found : Bool}
    {result : Except ProxyError (ProxyType S)} {store : Store κ S} (new : List (ProxyType S))
    (hnew : (Inquiry.made? ⟨r, found, w.next, store.mint.next, result⟩).toList = new)
    (hserials : new.map (·.serial) = List.range' w.next new.length)
    (hnext : store.mint.next = w.next + new.length)
    (hsettled : Inquiry.Settled ⟨r, found, w.next, store.mint.next, result⟩)
    (hgiven : ∀ p, result = .ok p → p ∈ w.made ++ new)
    (hheld : store.Holds (Known (w.made ++ new))) :
    (w.answer r found result store).Sound first := by
  have hmade : (w.answer r found result store).made = w.made ++ new := by
    rw [← hnew]
    unfold Ledger.answer made
    rw [List.filterMap_append, List.filterMap_cons]
    cases Inquiry.made? ⟨r, found, w.next, store.mint.next, result⟩ <;> rfl
  refine ⟨?_, ?_, fun y hy => ?_, fun y hy p hp => ?_, ?_⟩
  · rw [hmade, List.map_append, h.serials, hserials, h.next, List.range'_append_1,
      List.length_append]
  · rw [hmade, List.length_append, ← Nat.add_assoc, ← h.next]
    exact hnext
  · rcases List.mem_append.mp hy with hy | hy
    · exact h.settled y hy
    · rwa [List.mem_singleton.mp hy]
  · rw [hmade]
    rcases List.mem_append.mp hy with hy | hy
    · exact List.mem_append_left _ (h.given y hy p hp)
    · rw [List.mem_singleton.mp hy] at hp
      exact hgiven p hp
  · rw [hmade]
    exact hheld

/-- A type is synthesized and takes the next number. -/
theorem synthesized (h : w.Sound first) {r : Request S} {p : ProxyType S}
    (hp : r.generated w.next = .ok p) {store : Store κ S} (hnext : store.mint.next = w.next + 1)
    (hheld : store.Holds (Known (w.made ++ [p]))) :
    (w.answer r false (.ok p) store).Sound first := by
  refine h.answer [p] rfl ?_ hnext ⟨?_, nofun⟩ ?_ hheld
  · simp [(Request.generated_eq_ok hp).1]
  · rintro q ⟨⟩
    exact ⟨hp, hnext⟩
  · rintro q ⟨⟩
    simp

/-- A type that was synthesized before is given again. -/
theorem shared (h : w.Sound first) {r : Request S} {p : ProxyType S} (hp : p ∈ w.made)
    {store : Store κ S} (hnext : store.mint.next = w.next) (hheld : store.Holds (Known w.made)) :
    (w.answer r true (.ok p) store).Sound first := by
  refine h.answer [] rfl rfl hnext ⟨nofun, fun _ => hnext⟩ ?_ ?_
  · rintro q ⟨⟩
    exact List.mem_append_left _ hp
  · rwa [List.append_nil]

/-- A request is refused. -/
theorem refused (h : w.Sound first) {r : Request S} {found : Bool} {e : ProxyError}
    {store : Store κ S} (hnext : store.mint.next = w.next) (hheld : store.Holds (Known w.made)) :
    (w.answer r found (.error e) store).Sound first := by
  have hnone : Inquiry.made? ⟨r, found, w.next, store.mint.next, .error e⟩ = none := by
    cases found <;> rfl
  refine h.answer [] (by rw [hnone]; rfl) rfl hnext ⟨?_, fun _ => hnext⟩ nofun ?_
  · intro p hp
    rw [hnone] at hp
    cases hp
  · rwa [List.append_nil]

/-- A type is generated without a cache. -/
theorem generate (h : w.Sound first) (r : Request S) : (w.generate r).Sound first := by
  unfold Ledger.generate
  cases hp : r.generated w.next with
  | ok p =>
    rw [Request.generate_of_ok hp]
    exact h.synthesized hp rfl (h.held.mono (Known.mono (List.subset_append_left _ _)))
  | error e =>
    rw [Request.generate_of_error hp]
    exact h.refused rfl h.held

variable [DecidableEq κ]

/-- A cache is asked: it has the type, or holds something else, or the type is generated for it, or
cannot be. -/
theorem ask (h : w.Sound first) (c : κ) (r : Request S) : (w.ask c r).Sound first := by
  have hserved := r.served (w.store.caches c) w.store.mint
  have hput {types : List (ProxyType S)} (hsub : w.made ⊆ types) (m : Mint)
      (hnew : (w.store.caches c).find? r.key = none →
        ∀ p, r.generated w.next = .ok p → p ∈ types) :
      (w.store.put c (r.proxyType (w.store.caches c) w.store.mint).cache m).Holds
        (Known types) := by
    have hcaches := h.held.mono (Known.mono hsub)
    refine hcaches.put ((hcaches c).proxyType fun hnone p hp q hq => ?_) m
    exact Stored.proxy.inj hq ▸ hnew hnone p hp
  unfold Ledger.ask Cache.contains
  revert hserved hput
  generalize r.proxyType (w.store.caches c) w.store.mint = a
  intro hserved hput
  cases hserved with
  | hit hfound hp =>
    rw [hfound]
    refine h.shared ((h.held c).find? hfound _ (Request.proxy?_eq_some hp)) rfl
      (hput (List.Subset.refl _) _ fun hnone => ?_)
    cases hfound.symm.trans hnone
  | misshapen hfound hp =>
    refine h.refused rfl (hput (List.Subset.refl _) _ fun hnone => ?_)
    cases hfound.symm.trans hnone
  | @made p hnone hp =>
    rw [hnone]
    refine h.synthesized hp rfl (hput (List.subset_append_left _ _) _ fun _ q hq => ?_)
    obtain rfl := Except.ok.inj (hp.symm.trans hq)
    simp
  | failed hnone he =>
    refine h.refused rfl (hput (List.Subset.refl _) _ fun _ q hq => ?_)
    cases he.symm.trans hq

/-- Whoever fills a cell by hand takes no number. -/
theorem supply (h : w.Sound first) (c : κ) (key : Key) (made : Reply (Except ProxyError Nat)) :
    (w.step (.supply c key made)).Sound first := by
  have hworld : ((w.store.caches c).lookupOrMake key (fun m => (byHand made, m, []))
      w.store.mint).world = w.store.mint := by
    unfold Cache.lookupOrMake
    dsimp only
    split
    · rfl
    · split <;> rfl
  refine h.restore (congrArg Mint.next hworld) (h.held.put ((h.held c).lookupOrMake ?_) _)
  rintro - stored hstored p rfl
  -- what is made by hand is no generated type
  match made, hstored with
  | .ok (.ok n), hstored => cases hstored

/-- Every step keeps it. -/
theorem step (h : w.Sound first) (errand : Errand κ S) : (w.step errand).Sound first := by
  cases errand with
  | request c r => exact h.ask c r
  | generate r => exact h.generate r
  | supply c key made => exact h.supply c key made
  | purge c live => exact h.restore rfl (h.held.purge live)
  | clear c => exact h.restore rfl h.held.clear

theorem run (errands : List (Errand κ S)) : ∀ {w : Ledger κ S}, w.Sound first →
    (w.run errands).Sound first := by
  induction errands with
  | nil => exact id
  | cons errand rest ih => exact fun h => ih (h.step errand)

end Sound

/-! ## What a run adds up to -/

/-- The log has the requests of the run, in order. -/
theorem requests_run [DecidableEq κ] (errands : List (Errand κ S)) : ∀ w : Ledger κ S,
    (w.run errands).log.map (·.request) =
      w.log.map (·.request) ++ errands.filterMap Errand.request? := by
  induction errands with
  | nil => simp [run]
  | cons errand rest ih =>
    intro w
    have hstep : (w.step errand).log.map (·.request) =
        w.log.map (·.request) ++ errand.request?.toList := by
      cases errand <;> simp [step, ask, generate, answer, Errand.request?]
    show ((w.step errand).run rest).log.map _ = _
    rw [ih, hstep, List.filterMap_cons]
    cases errand.request? <;> simp

/-- The name of a type shows the number that it took. -/
theorem Sound.name_of_made (h : w.Sound first) {p : ProxyType S} (hp : p ∈ w.made) :
    ∃ simple, p.name = numberedName simple p.serial := by
  obtain ⟨x, hx, hmade⟩ := List.mem_filterMap.mp hp
  have hgenerated := ((h.settled x hx).spent p hmade).1
  refine ⟨x.request.surface.simple, ?_⟩
  rw [name_of_generated hgenerated, (Request.generated_eq_ok hgenerated).1]

/-- Types with one name have one number. -/
theorem Sound.serial_eq (h : w.Sound first) {p q : ProxyType S} (hp : p ∈ w.made)
    (hq : q ∈ w.made) (hname : p.name = q.name) : p.serial = q.serial := by
  obtain ⟨simple, hsimple⟩ := h.name_of_made hp
  obtain ⟨simple', hsimple'⟩ := h.name_of_made hq
  exact (numberedName_inj (hsimple.symm.trans (hname.trans hsimple'))).2

/-- **What is true of numbers and names** after the requests, if the counter has started with
`first`. -/
structure Numbering (w : Ledger κ S) (first : Nat) (requests : List (Request S)) : Prop where
  /-- Every request was answered, in order. -/
  answered : w.log.map (·.request) = requests
  /-- The numbers are consecutive, in the order of the syntheses. -/
  consecutive : w.made.map (·.serial) = List.range' first w.made.length
  /-- The counter shows the one that follows. -/
  next : w.next = first + w.made.length
  /-- A synthesis takes the number that the counter shows, and the name of the type is made of the
  simple name and the number. -/
  spent : ∀ x ∈ w.log, ∀ p, x.made? = some p → p.serial = x.before ∧ x.after = x.before + 1 ∧
    p.name = x.request.surface.simple ++ "$$Proxy$$" ++ toString x.before
  /-- A request that finds its cell filled, or is refused, takes none. -/
  unspent : ∀ x ∈ w.log, (x.found = true ∨ ∃ e, x.result = .error e) → x.after = x.before
  /-- Every type that a request gave was synthesized, for it or before. -/
  given : ∀ x ∈ w.log, ∀ p, x.result = .ok p → p ∈ w.made
  /-- No two syntheses give one name. -/
  unique : w.made.Pairwise fun p q => p.name ≠ q.name
  /-- So types with one name are one type, whichever requests gave them. -/
  identified : ∀ p ∈ w.made, ∀ q ∈ w.made, p.name = q.name → p = q
  /-- A counter of 64 bits goes round only after so many syntheses. -/
  bounded : first + w.made.length ≤ UInt64.size → ∀ p ∈ w.made, p.serial < UInt64.size

/-- **Every run over any caches can be described so**, whatever its requests are for and however
they are answered. -/
theorem run_numbering [DecidableEq κ] (m : Mint) (errands : List (Errand κ S)) :
    ((start m).run errands).Numbering m.next (errands.filterMap Errand.request?) := by
  have h : ((start m : Ledger κ S).run errands).Sound m.next := (Sound.start m).run errands
  have hnodup : (((start m).run errands).made.map (·.serial)).Nodup :=
    h.serials ▸ List.nodup_range'
  refine ⟨requests_run errands _, h.serials, h.next, fun x hx p hp => ?_, fun x hx hno => ?_,
    h.given, ?_, fun p hp q hq hname => ?_, fun hbound p hp => ?_⟩
  · obtain ⟨hgenerated, hafter⟩ := (h.settled x hx).spent p hp
    exact ⟨(Request.generated_eq_ok hgenerated).1, hafter, name_of_generated hgenerated⟩
  · refine (h.settled x hx).unspent ?_
    unfold Inquiry.made?
    rcases hno with hfound | ⟨e, he⟩
    · rw [if_pos hfound]
    · rw [he, ite_eq_left_iff]
      exact fun _ => rfl
  · refine (List.pairwise_map.mp hnodup).imp_of_mem fun hp hq hne hname => ?_
    exact hne (h.serial_eq hp hq hname)
  · exact List.inj_on_of_nodup_map hnodup hp hq (h.serial_eq hp hq hname)
  · have hmem : p.serial ∈ List.range' m.next ((start m).run errands).made.length :=
      h.serials ▸ List.mem_map_of_mem hp
    have hlt := (List.mem_range'_1.mp hmem).2
    exact lt_of_lt_of_le hlt hbound

end Ledger

end Interpose
