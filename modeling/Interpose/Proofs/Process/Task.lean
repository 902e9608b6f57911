import Interpose.Proofs.Dispatch.Renaming
import Interpose.Proofs.Process.Store

/-!
# What is done with proxies

A process holds generated types in caches, in handles and in instances. Generated types are obtained
from a cache, a handle or an instance; instances are made of them in every mode, called, bound to
other interceptors and dropped; caches are purged and cleared. A run is a list of such tasks.

* A type always declares one surface (`Environment`). One type of states serves all targets; it may
  be the sum of theirs.
* Hooks are functions of an invocation and a state that all interceptors share.
* A purge sees the types that handles and instances use.
* `Process.blank` is a process without what maintenance changes: caches, and the numbers and names
  of generated types.

Results:
* `Process.Sound.perform`: what caches hold was generated for their keys, after any task.
* `Process.perform_blank`: what a task gives and leaves, up to names, follows from the blank
  process.
-/

namespace Interpose

variable {κ ι H S : Type}

/-! ## The system -/

/-- What proxies are made of. -/
structure Environment (ι H S : Type) where
  /-- What a type declares. -/
  surface : Tag → Surface S
  declares : ∀ type, (surface type).type = type
  /-- The state of a type without a construction. -/
  initial : Tag → S
  /-- The interceptors by handle. -/
  interceptors : ι → Interceptor H S

/-- Where a caller has a generated type from. -/
inductive Origin (κ : Type) where
  /-- A cache, by key. -/
  | cache (c : κ) (key : Key)
  /-- A type that is held. -/
  | handle (position : Nat)
  /-- An instance of the type. -/
  | sibling (position : Nat)

/-- Where the state of a new instance comes from. -/
inductive Mode (S : Type) where
  /-- A declared constructor. -/
  | construct (args : List Value)
  /-- The caller. -/
  | decorate (state : S)
  /-- No construction at all. -/
  | bypass

/-- What is done with proxies, and with the caches. -/
inductive Task (κ ι S : Type) where
  | hold (origin : Origin κ)
  | release (position : Nat)
  | make (origin : Origin κ) (mode : Mode S) (binding : ι)
  | operate (position : Nat) (op : Operation ι)
  | drop (position : Nat)
  | purge (c : κ)
  | clear (c : κ)

/-- Is it done with a cache only? -/
def Task.isMaintenance : Task κ ι S → Bool
  | purge _ | clear _ => true
  | _ => false

/-- A process that uses proxies. -/
structure Process (κ ι H S : Type) where
  store : Store κ S
  /-- The generated types that are held. -/
  handles : List (ProxyType S)
  instances : List (Bound ι S)
  /-- The state of all interceptors. -/
  hooks : H

/-- What a task gives. There is nothing to give where a position is not taken. -/
inductive Receipt (ι H S : Type) where
  | held (result : Option (Except ProxyError (ProxyType S)))
  | released (type : Option (ProxyType S))
  | made (result : Option (Except ProxyError (Instance S)))
  | operated (result : Option (Applied ι H S))
  | dropped (inst : Option (Bound ι S))
  | purged (count : Nat)
  | cleared

/-- What a task gives and leaves. -/
structure Done (κ ι H S : Type) where
  process : Process κ ι H S
  receipt : Receipt ι H S
  /-- The log events of caches and of generating. Those of calls are among the steps that an
  operation gives. -/
  events : List Event

/-- The answer to a question for a generated type. -/
structure Obtained (κ S : Type) where
  result : Option (Except ProxyError (ProxyType S))
  store : Store κ S
  events : List Event

/-- What came of a question, if anything did. -/
def gained {ε α : Type} (result : Option (Except ε α)) : List α :=
  (result.bind Except.toOption).toList

namespace Environment

/-- The request for a key. -/
def request (env : Environment ι H S) (key : Key) : Request S :=
  ⟨env.surface key.target, key.interceptor, key.options⟩

/-- Makes an instance of a generated type. -/
def make (env : Environment ι H S) (mode : Mode S) (p : ProxyType S) :
    Except ProxyError (Instance S) :=
  match mode with
  | .construct args => instantiate p args
  | .decorate state => .ok (decorate p state)
  | .bypass => .ok (decorate p (env.initial p.type))

end Environment

namespace Process

/-- Nothing was done. -/
def start (m : Mint) (hooks : H) : Process κ ι H S := ⟨.start m, [], [], hooks⟩

/-- The numbers of the generated types in use. -/
def live (w : Process κ ι H S) : List Nat :=
  w.handles.map (·.serial) ++ w.instances.map (·.inst.proxyType.serial)

/-- Asks for a generated type. -/
def acquire [DecidableEq κ] (env : Environment ι H S) (w : Process κ ι H S) :
    Origin κ → Obtained κ S
  | .cache c key =>
    let a := (env.request key).proxyType (w.store.caches c) w.store.mint
    ⟨some a.result, w.store.put c a.cache a.mint, a.events⟩
  | .handle i => ⟨w.handles[i]?.map .ok, w.store, []⟩
  | .sibling i => ⟨w.instances[i]?.map fun b => .ok b.inst.proxyType, w.store, []⟩

/-- Carries out an operation on an instance. -/
def operate (env : Environment ι H S) (w : Process κ ι H S) (i : Nat) (op : Operation ι) :
    Done κ ι H S :=
  match w.instances[i]? with
  | none => ⟨w, .operated none, []⟩
  | some b =>
    let a := b.apply (env.interceptors b.binding) w.hooks op
    ⟨{ w with instances := w.instances.set i a.bound, hooks := a.hooks }, .operated (some a), []⟩

/-- Does one task. -/
def perform [DecidableEq κ] (env : Environment ι H S) (w : Process κ ι H S) :
    Task κ ι S → Done κ ι H S
  | .hold origin =>
    let found := w.acquire env origin
    ⟨{ w with store := found.store, handles := w.handles ++ gained found.result },
      .held found.result, found.events⟩
  | .release i => ⟨{ w with handles := w.handles.eraseIdx i }, .released w.handles[i]?, []⟩
  | .make origin mode binding =>
    let found := w.acquire env origin
    let made := found.result.map fun result => result.bind (env.make mode)
    ⟨{ w with
        store := found.store
        instances := w.instances ++ (gained made).map fun inst => ⟨inst, binding⟩ },
      .made made, found.events⟩
  | .operate i op => w.operate env i op
  | .drop i => ⟨{ w with instances := w.instances.eraseIdx i }, .dropped w.instances[i]?, []⟩
  | .purge c =>
    let purged := (w.store.caches c).purge w.live
    ⟨{ w with store := w.store.purge c w.live }, .purged purged.1, purged.2.2⟩
  | .clear c => ⟨{ w with store := w.store.clear c }, .cleared, []⟩

end Process

/-! ## What caches hold -/

namespace Environment

variable {env : Environment ι H S}

theorem request_key (env : Environment ι H S) (key : Key) : (env.request key).key = key := by
  obtain ⟨target, interceptor, options⟩ := key
  simp [request, Request.key, Request.target, env.declares]

/-- The content is a type that was generated for the key. -/
def Generated (env : Environment ι H S) (key : Key) (stored : Stored S) : Prop :=
  ∃ p n, stored = .proxy p ∧ (env.request key).generated n = .ok p

/-- All numbers give the same type, once number and name are taken away. -/
theorem generated_unnamed (r : Request S) (n k : Nat) :
    (r.generated n).map ProxyType.unnamed = (r.generated k).map ProxyType.unnamed := by
  rw [r.generated_renumber n k]
  cases r.generated n <;> rfl

/-- **Whatever a cache holds**, a request gets what generating gives, up to number and name. -/
theorem result_unnamed {c : Cache S} (h : c.Holds env.Generated) (m : Mint) (key : Key) (n : Nat) :
    ((env.request key).proxyType c m).result.map ProxyType.unnamed =
      ((env.request key).generated n).map ProxyType.unnamed := by
  have hserved := (env.request key).served c m
  have hfilled {stored : Stored S} (hfound : c.find? (env.request key).key = some stored) :
      ∃ p k, stored = .proxy p ∧ (env.request key).generated k = .ok p := by
    rw [env.request_key] at hfound
    exact h.find? hfound
  revert hserved
  generalize (env.request key).proxyType c m = a
  intro hserved
  cases hserved with
  | hit hfound hp =>
    obtain ⟨p, k, rfl, hgen⟩ := hfilled hfound
    rw [Request.proxy?_proxy (Request.generated_eq_ok hgen).2] at hp
    obtain rfl := Option.some.inj hp
    rw [generated_unnamed _ n k, hgen]
  | misshapen hfound hp =>
    obtain ⟨p, k, rfl, hgen⟩ := hfilled hfound
    rw [Request.proxy?_proxy (Request.generated_eq_ok hgen).2] at hp
    cases hp
  | made hnone hp => rw [generated_unnamed _ n m.next, hp]
  | failed hnone he => rw [generated_unnamed _ n m.next, he]

end Environment

namespace Process

variable [DecidableEq κ] {env : Environment ι H S} {w : Process κ ι H S}

/-- What caches hold was generated for its key. -/
def Sound (env : Environment ι H S) (w : Process κ ι H S) : Prop := w.store.Holds env.Generated

theorem Sound.obtained (h : w.Sound env) (origin : Origin κ) :
    (w.acquire env origin).store.Holds env.Generated := by
  cases origin with
  | cache c key =>
    refine Store.Holds.put h ((h c).proxyType fun _ p hp => ?_) _
    rw [env.request_key]
    exact ⟨p, _, rfl, hp⟩
  | handle i => exact h
  | sibling i => exact h

/-- Every task keeps it. -/
theorem Sound.perform (h : w.Sound env) (task : Task κ ι S) :
    (w.perform env task).process.Sound env := by
  cases task with
  | hold origin => exact h.obtained origin
  | make origin mode binding => exact h.obtained origin
  | operate i op =>
    show (w.operate env i op).process.Sound env
    unfold operate
    cases w.instances[i]? <;> exact h
  | release i => exact h
  | drop i => exact h
  | purge c => exact Store.Holds.purge h w.live
  | clear c => exact Store.Holds.clear h

omit [DecidableEq κ] in
theorem Sound.start (m : Mint) (hooks : H) : (Process.start m hooks : Process κ ι H S).Sound env :=
  Store.Holds.start m

end Process

/-! ## Up to names -/

theorem gained_map {ε α β : Type} (f : α → β) (result : Option (Except ε α)) :
    (gained result).map f = gained (result.map fun r => r.map f) := by
  match result with
  | none => rfl
  | some (.error e) => rfl
  | some (.ok a) => rfl

/-- What a task gives, with all types unnamed. -/
def Receipt.unnamed : Receipt ι H S → Receipt ι H S
  | held result => held (result.map fun r => r.map ProxyType.unnamed)
  | released type => released (type.map ProxyType.unnamed)
  | made result => made (result.map fun r => r.map Instance.unnamed)
  | operated result => operated (result.map Applied.unnamed)
  | dropped inst => dropped (inst.map Bound.unnamed)
  | purged count => purged count
  | cleared => cleared

/-- The process with all types unnamed, and with caches that were never used. -/
def Process.blank (w : Process κ ι H S) : Process κ ι H S :=
  ⟨.start ⟨0, []⟩, w.handles.map ProxyType.unnamed, w.instances.map Bound.unnamed, w.hooks⟩

/-- What a task gives and leaves, up to names. -/
def Done.shape (d : Done κ ι H S) : Receipt ι H S × Process κ ι H S :=
  (d.receipt.unnamed, d.process.blank)

namespace Process

variable {env : Environment ι H S} {w : Process κ ι H S}

theorem blank_blank (w : Process κ ι H S) : w.blank.blank = w.blank := by
  unfold blank
  simp only [List.map_map]
  rfl

theorem make_unnamed (env : Environment ι H S) (mode : Mode S) (p : ProxyType S) :
    env.make mode p.unnamed = (env.make mode p).map Instance.unnamed := by
  cases mode with
  | construct args => exact instantiate_unnamed p args
  | decorate state => rfl
  | bypass => rfl

/-- The instances of a type are, up to names, those of the unnamed type. -/
theorem made_unnamed (env : Environment ι H S) (mode : Mode S)
    (result : Option (Except ProxyError (ProxyType S))) :
    (result.map fun r => r.bind (env.make mode)).map (fun r => r.map Instance.unnamed) =
      (result.map fun r => r.map ProxyType.unnamed).map fun r => r.bind (env.make mode) := by
  match result with
  | none => rfl
  | some (.error e) => rfl
  | some (.ok p) => exact congrArg some (make_unnamed env mode p).symm

/-- An operation commutes with taking names away. -/
theorem shape_operate (hblind : ∀ i, (env.interceptors i).NameBlind) (w : Process κ ι H S) (i : Nat)
    (op : Operation ι) :
    (w.operate env i op).shape =
      ((w.blank.operate env i op).receipt, (w.blank.operate env i op).process) := by
  have hinst : w.blank.instances[i]? = w.instances[i]?.map Bound.unnamed := List.getElem?_map ..
  unfold operate
  rw [hinst]
  cases w.instances[i]? with
  | none => rfl
  | some b =>
    have happly : b.unnamed.apply (env.interceptors b.unnamed.binding) w.hooks op =
        (b.apply (env.interceptors b.binding) w.hooks op).unnamed :=
      (Bound.apply_unnamed (hblind b.binding) b w.hooks op).symm
    simp only [Option.map_some, Done.shape, blank, Receipt.unnamed, List.map_set, happly]
    rfl

variable [DecidableEq κ]

/-- The type that a caller gets, up to number and name, follows from the blank process. -/
theorem acquire_blank (h : w.Sound env) (origin : Origin κ) :
    (w.acquire env origin).result.map (fun r => r.map ProxyType.unnamed) =
      (w.blank.acquire env origin).result.map fun r => r.map ProxyType.unnamed := by
  cases origin with
  | cache c key =>
    have hempty : (Cache.empty : Cache S).Holds env.Generated := .empty
    have hfull := Environment.result_unnamed (h c) w.store.mint key 0
    have hblank := Environment.result_unnamed hempty ⟨0, []⟩ key 0
    exact congrArg some (hfull.trans hblank.symm)
  | handle i =>
    show (w.handles[i]?.map _).map _ = ((w.handles.map ProxyType.unnamed)[i]?.map _).map _
    rw [List.getElem?_map]
    cases w.handles[i]? <;> rfl
  | sibling i =>
    show (w.instances[i]?.map _).map _ = ((w.instances.map Bound.unnamed)[i]?.map _).map _
    rw [List.getElem?_map]
    cases w.instances[i]? <;> rfl

/-- What is held follows, up to names, from the type that is obtained. -/
theorem shape_hold (env : Environment ι H S) (w : Process κ ι H S) (origin : Origin κ) :
    let result := (w.acquire env origin).result.map fun r => r.map ProxyType.unnamed
    (w.perform env (.hold origin)).shape =
      (.held result, { w.blank with handles := w.blank.handles ++ gained result }) := by
  intro result
  simp only [Done.shape, perform, blank, Receipt.unnamed, List.map_append, gained_map]
  rfl

/-- So does what is made. -/
theorem shape_make (env : Environment ι H S) (w : Process κ ι H S) (origin : Origin κ)
    (mode : Mode S) (binding : ι) :
    let made := ((w.acquire env origin).result.map fun r => r.map ProxyType.unnamed).map
      fun r => r.bind (env.make mode)
    (w.perform env (.make origin mode binding)).shape =
      (.made made, { w.blank with
        instances := w.blank.instances ++ (gained made).map fun inst => ⟨inst, binding⟩ }) := by
  intro made
  have hbound (insts : List (Instance S)) :
      (insts.map fun inst => (⟨inst, binding⟩ : Bound ι S)).map Bound.unnamed =
        (insts.map Instance.unnamed).map fun inst => ⟨inst, binding⟩ := by
    rw [List.map_map, List.map_map]
    rfl
  simp only [Done.shape, perform, blank, Receipt.unnamed, List.map_append]
  rw [hbound, gained_map, made_unnamed]

/-- **What a task gives and leaves**, up to names, follows from the blank process. -/
theorem perform_blank (hblind : ∀ i, (env.interceptors i).NameBlind) (h : w.Sound env)
    {task : Task κ ι S} (htask : task.isMaintenance = false) :
    (w.perform env task).shape = (w.blank.perform env task).shape := by
  cases task with
  | hold origin => rw [shape_hold, shape_hold, acquire_blank h, blank_blank]
  | make origin mode binding => rw [shape_make, shape_make, acquire_blank h, blank_blank]
  | operate i op =>
    show (w.operate env i op).shape = (w.blank.operate env i op).shape
    rw [shape_operate hblind, shape_operate hblind, blank_blank]
  | release i =>
    simp only [Done.shape, perform, blank, Receipt.unnamed, List.getElem?_map, List.eraseIdx_map,
      List.map_map, Option.map_map]
    rfl
  | drop i =>
    simp only [Done.shape, perform, blank, Receipt.unnamed, List.getElem?_map, List.eraseIdx_map,
      List.map_map, Option.map_map]
    rfl
  | purge c => cases htask
  | clear c => cases htask

/-- Maintenance changes nothing but caches. -/
theorem blank_of_isMaintenance {task : Task κ ι S} (htask : task.isMaintenance = true) :
    (w.perform env task).process.blank = w.blank := by
  cases task with
  | purge c => rfl
  | clear c => rfl
  | _ => cases htask

end Process

end Interpose
