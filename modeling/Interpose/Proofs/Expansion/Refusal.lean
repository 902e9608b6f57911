import Interpose.Proofs.Expansion.Marking

/-!
# Which blocks are refused

A block is refused as a whole for what it implements, for a flag that cannot be read anywhere in it,
or for a method of the wrapper that no call could reach. What is reported is the first cause in this
order, and of one kind the first in source order; the settings have no say in it.

* `PlainPath` : the type is a path without arguments at its end.
* `Admissible` : the block is one of the type itself, not generic, and of a plain path.
* `Blocked` : the function would be a method of the wrapper that no call could reach.
* `Refused` : what is reported of a block, one rule for each cause.
* `Flawed` : the block has one of the causes.
* `Unmarked` : a block is another one less the attributes for flags of its functions.

Results:
* `shapes_eq_error_iff`: the first function whose flags cannot be read.
* `find?_blocked`: the first function that is blocked.
* `expand_eq_error_iff`: what is reported of a block.
* **`expand_refuses`**: which blocks are refused and how, and the block that is emitted.
-/

namespace Interpose.Expansion

open Source

variable {settings : Settings} {block : Block} {e : Expansion} {all : List Shape} {s : Shape}
  {fn : Function} {simple : String} {err : ExpandError}

/-! ## Blocks -/

/-- The type is a path that ends in this name, without arguments there. -/
inductive PlainPath : Ty → String → Prop
  | path (rooted : Bool) (before : List Segment) (name : String) :
    PlainPath (.path rooted (before ++ [.plain name])) name

theorem implementerName?_eq_some_iff {t : Ty} {name : String} :
    implementerName? t = some name ↔ PlainPath t name := by
  constructor
  · intro h
    unfold implementerName? at h
    split at h
    · split at h
      next hlast =>
        cases h
        obtain ⟨before, rfl⟩ := List.getLast?_eq_some_iff.mp hlast
        exact .path _ before name
      · cases h
    · cases h
  · rintro ⟨rooted, before, name⟩
    simp [implementerName?]

/-- The block is one of the type itself, without generic parameters, and the type is a path that
ends in this name. -/
structure Admissible (block : Block) (simple : String) : Prop where
  trait : block.trait = none
  generics : block.generics.items = []
  type : PlainPath block.selfType simple

/-- What is left to test of an admissible block. -/
theorem Admissible.expand_eq (h : Admissible block simple) : expand settings block =
    (shapes simple block).bind fun all =>
      match (declaredMethods all).find? fun m =>
          m.isWrappable && instanceMethods.contains m.name with
      | some m => .error (.shadowed m.name)
      | none => .ok (.ofShapes settings block simple all) := by
  rw [Expansion.expand_eq, h.trait, h.generics, implementerName?_eq_some_iff.mpr h.type]
  rfl

/-! ## Functions -/

/-- The function would be a method of the wrapper that no call could reach: it is not left out, no
constructor, and the wrapper can have it, but every proxy has a method of its name. -/
structure Blocked (simple : String) (fn : Function) : Prop where
  kept : ¬ Marked fn .skip
  method : (Shape.ofFunction simple fn .none).isConstructor = false
  wrappable : (Shape.ofFunction simple fn .none).isWrappable = true
  reserved : fn.name ∈ instanceMethods

/-- What is asked of a shape does not depend on its flags, except whether it is left out. -/
theorem blocked_iff (h : Shape.ofFunction? simple fn = .ok s) : Blocked simple fn ↔
    (s.isSkipped = false ∧ s.isConstructor = false) ∧
      (s.isWrappable && instanceMethods.contains s.name) = true := by
  obtain ⟨flags, hflags, rfl⟩ := ofFunction?_eq_ok_iff.mp h
  have hskip : flags.isSkipped = false ↔ ¬ Marked fn .skip := by
    rw [← (ofAttributes_eq_ok_iff.mp hflags).2 .skip, Bool.not_eq_true]
    rfl
  rw [Bool.and_eq_true, List.contains_iff_mem]
  constructor
  · rintro ⟨hkept, hmethod, hwrappable, hreserved⟩
    exact ⟨⟨hskip.mpr hkept, hmethod⟩, hwrappable, hreserved⟩
  · rintro ⟨⟨hkept, hmethod⟩, hwrappable, hreserved⟩
    exact ⟨hskip.mp hkept, hmethod, hwrappable, hreserved⟩

/-- **The first function that is blocked** is the first declared method with a name that every proxy
has. -/
theorem find?_blocked [DecidablePred (Blocked simple)] (hall : shapes simple block = .ok all) :
    ((declaredMethods all).find? fun m =>
      m.isWrappable && instanceMethods.contains m.name).map (·.name) =
      (block.functions.find? fun fn => decide (Blocked simple fn)).map (·.name) := by
  rw [declaredMethods, List.find?_filter, List.find?_filter]
  refine (find?_map_eq_of_forall₂ (shapes_ok_iff.mp hall) fun fn s h => ?_).symm
  refine ⟨(shape_name h).symm, ?_⟩
  rw [Bool.eq_iff_iff, decide_eq_true_iff, blocked_iff h]
  simp [and_assoc]

theorem exists_ofFunction?_iff :
    (∃ s, Shape.ofFunction? simple fn = .ok s) ↔ WellMarked fn := by
  rw [← exists_flags_iff]
  simp only [ofFunction?_eq_ok_iff]
  constructor
  · rintro ⟨_, flags, hflags, -⟩
    exact ⟨flags, hflags⟩
  · rintro ⟨flags, hflags⟩
    exact ⟨_, flags, hflags, rfl⟩

theorem ofFunction?_eq_error_iff {e : ArgumentError} :
    Shape.ofFunction? simple fn = .error e ↔ FirstMisread fn e := by
  rw [← ofAttributes_eq_error_iff, Shape.ofFunction?]
  cases Flags.ofAttributes fn.attributes <;> simp [bind, Except.bind, pure, Except.pure]

theorem exists_shapes_iff :
    (∃ all, shapes simple block = .ok all) ↔ ∀ f ∈ block.functions, WellMarked f := by
  simp only [shapes_ok_iff, exists_forall₂_iff, exists_ofFunction?_iff]

/-- **The first function whose flags cannot be read.** -/
theorem shapes_eq_error_iff : shapes simple block = .error err ↔
    ∃ before fn after e, block.functions = before ++ fn :: after ∧
      (∀ f ∈ before, WellMarked f) ∧ FirstMisread fn e ∧ err = .argument e := by
  have hshapes : shapes simple block = .error err ↔
      ∃ e, block.functions.mapM (Shape.ofFunction? simple) = .error e ∧ err = .argument e := by
    unfold shapes
    cases block.functions.mapM (Shape.ofFunction? simple) <;> simp [Except.mapError, eq_comm]
  simp only [hshapes, mapM_eq_error_iff, exists_ofFunction?_iff, ofFunction?_eq_error_iff]
  constructor
  · rintro ⟨e, ⟨before, fn, after, hsplit, hbefore, hfn⟩, rfl⟩
    exact ⟨before, fn, after, e, hsplit, hbefore, hfn, rfl⟩
  · rintro ⟨before, fn, after, e, hsplit, hbefore, hfn, rfl⟩
    exact ⟨e, ⟨before, fn, after, hsplit, hbefore, hfn⟩, rfl⟩

/-! ## What is reported -/

/-- What passes a test at all, passes it first somewhere. -/
theorem exists_first_iff {α : Type} {p : α → Prop} {l : List α} :
    (∃ before a after, l = before ++ a :: after ∧ (∀ b ∈ before, ¬ p b) ∧ p a) ↔
      ∃ a ∈ l, p a := by
  constructor
  · rintro ⟨before, a, after, rfl, -, ha⟩
    exact ⟨a, by simp, ha⟩
  · classical
    rintro ⟨a, ha, hp⟩
    have hsome : (l.find? fun a => decide (p a)).isSome = true :=
      List.find?_isSome.mpr ⟨a, ha, decide_eq_true hp⟩
    obtain ⟨b, hb⟩ := Option.isSome_iff_exists.mp hsome
    obtain ⟨hpb, before, after, rfl, hbefore⟩ := List.find?_eq_some_iff_append.mp hb
    exact ⟨before, b, after, rfl, fun c hc => by simpa using hbefore c hc, of_decide_eq_true hpb⟩

/-- **What is reported of a block.** Each rule asks that no rule before it applies. -/
inductive Refused (block : Block) : ExpandError → Prop
  | trait (h : block.trait ≠ none) : Refused block .traitBlock
  | generics (htrait : block.trait = none) (h : block.generics.items ≠ []) :
    Refused block .genericBlock
  | implementer (htrait : block.trait = none) (hgenerics : block.generics.items = [])
    (h : ∀ simple, ¬ PlainPath block.selfType simple) : Refused block .implementer
  | flags {simple : String} {before after : List Function} {fn : Function} {e : ArgumentError}
    (hblock : Admissible block simple) (hsplit : block.functions = before ++ fn :: after)
    (hbefore : ∀ f ∈ before, WellMarked f) (h : FirstMisread fn e) : Refused block (.argument e)
  | shadowed {simple : String} {before after : List Function} {fn : Function}
    (hblock : Admissible block simple) (hmarked : ∀ f ∈ block.functions, WellMarked f)
    (hsplit : block.functions = before ++ fn :: after)
    (hbefore : ∀ f ∈ before, ¬ Blocked simple f) (h : Blocked simple fn) :
    Refused block (.shadowed fn.name)

/-- What is reported of an admissible block. -/
theorem Admissible.expand_eq_error_iff (hblock : Admissible block simple) :
    expand settings block = .error err ↔
      (∃ before fn after e, block.functions = before ++ fn :: after ∧
        (∀ f ∈ before, WellMarked f) ∧ FirstMisread fn e ∧ err = .argument e) ∨
      ((∀ f ∈ block.functions, WellMarked f) ∧
        ∃ before fn after, block.functions = before ++ fn :: after ∧
          (∀ f ∈ before, ¬ Blocked simple f) ∧ Blocked simple fn ∧ err = .shadowed fn.name) := by
  classical
  rw [hblock.expand_eq, bind_eq_error_iff, shapes_eq_error_iff, ← exists_shapes_iff]
  refine or_congr Iff.rfl ?_
  constructor
  · rintro ⟨all, hall, h⟩
    refine ⟨⟨all, hall⟩, ?_⟩
    have hfirst := find?_blocked hall
    split at h
    next m hm =>
      rw [hm, Option.map_some, eq_comm, Option.map_eq_some_iff] at hfirst
      obtain ⟨fn, hfn, hname⟩ := hfirst
      obtain ⟨hblocked, before, after, hsplit, hbefore⟩ := List.find?_eq_some_iff_append.mp hfn
      refine ⟨before, fn, after, hsplit, fun f hf => by simpa using hbefore f hf,
        of_decide_eq_true hblocked, ?_⟩
      rw [hname]
      exact (Except.error.inj h).symm
    next => cases h
  · rintro ⟨⟨all, hall⟩, before, fn, after, hsplit, hbefore, hblocked, rfl⟩
    refine ⟨all, hall, ?_⟩
    have hfn : block.functions.find? (fun fn => decide (Blocked simple fn)) = some fn :=
      List.find?_eq_some_iff_append.mpr ⟨decide_eq_true hblocked, before, after, hsplit,
        fun f hf => by simpa using hbefore f hf⟩
    have hfirst := find?_blocked hall
    rw [hfn, Option.map_some, Option.map_eq_some_iff] at hfirst
    obtain ⟨m, hm, hname⟩ := hfirst
    simp only [hm, hname]

/-- **What is reported of a block**, whatever the settings are. -/
theorem expand_eq_error_iff : expand settings block = .error err ↔ Refused block err := by
  constructor
  · intro h
    have hexpand := h
    rw [expand_eq] at h
    split at h
    next htrait =>
      cases h
      exact .trait (Option.isSome_iff_ne_none.mp htrait)
    next htrait =>
      rw [Bool.not_eq_true, Option.isSome_eq_false_iff, Option.isNone_iff_eq_none] at htrait
      split at h
      next hgenerics =>
        cases h
        exact .generics htrait (by simpa using hgenerics)
      next hgenerics =>
        rw [Bool.not_eq_true, Bool.not_eq_false', List.isEmpty_iff] at hgenerics
        split at h
        next hself =>
          cases h
          refine .implementer htrait hgenerics fun simple hplain => ?_
          cases hself.symm.trans (implementerName?_eq_some_iff.mpr hplain)
        next simple hself =>
          have hblock : Admissible block simple :=
            ⟨htrait, hgenerics, implementerName?_eq_some_iff.mp hself⟩
          rcases hblock.expand_eq_error_iff.mp hexpand with
            ⟨_, _, _, _, hsplit, hbefore, hfn, rfl⟩ | ⟨hmarked, _, _, _, hsplit, hbefore, hfn, rfl⟩
          · exact .flags hblock hsplit hbefore hfn
          · exact .shadowed hblock hmarked hsplit hbefore hfn
  · rintro (h | ⟨htrait, h⟩ | ⟨htrait, hgenerics, h⟩ | ⟨hblock, hsplit, hbefore, hfn⟩ |
      ⟨hblock, hmarked, hsplit, hbefore, hfn⟩)
    · rw [expand_eq, if_pos (Option.isSome_iff_ne_none.mpr h)]
    · simp [expand_eq, htrait, h]
    · have hself : implementerName? block.selfType = none := by
        rw [Option.eq_none_iff_forall_ne_some]
        exact fun simple hself => h simple (implementerName?_eq_some_iff.mp hself)
      simp [expand_eq, htrait, hgenerics, hself]
    · exact hblock.expand_eq_error_iff.mpr (.inl ⟨_, _, _, _, hsplit, hbefore, hfn, rfl⟩)
    · exact hblock.expand_eq_error_iff.mpr (.inr ⟨hmarked, _, _, _, hsplit, hbefore, hfn, rfl⟩)

/-! ## Blocks that are refused at all -/

/-- The block has one of the causes to be refused. -/
inductive Flawed (block : Block) : Prop
  | trait (h : block.trait ≠ none)
  | generics (h : block.generics.items ≠ [])
  | implementer (h : ¬ ∃ simple, PlainPath block.selfType simple)
  | flags {fn : Function} {a : Attribute} (hfn : fn ∈ block.functions) (ha : a ∈ fn.attributes)
    (hfor : ForFlags a) (h : ¬ ∃ ws, Flagged a ws)
  | shadowed {simple : String} {fn : Function} (hself : PlainPath block.selfType simple)
    (hfn : fn ∈ block.functions) (h : Blocked simple fn)

/-- **Of every flaw something is reported**, of the same or of another one. -/
theorem exists_refused_iff : (∃ err, Refused block err) ↔ Flawed block := by
  constructor
  · rintro ⟨_, h | ⟨-, h⟩ | ⟨-, -, h⟩ | ⟨-, hsplit, -, before, a, after, hattributes, -, hfor, ha⟩ |
      ⟨hblock, -, hsplit, -, hfn⟩⟩
    · exact .trait h
    · exact .generics h
    · exact .implementer (not_exists.mpr h)
    · have hmem : _ ∈ block.functions := hsplit ▸ List.mem_append_cons_self
      exact .flags hmem (hattributes ▸ List.mem_append_cons_self) hfor
        (exists_misread_iff.mp ⟨_, ha⟩)
    · exact .shadowed hblock.type (hsplit ▸ List.mem_append_cons_self) hfn
  · intro hflawed
    by_contra hno
    rw [not_exists] at hno
    -- Nothing is reported, so every test is passed up to the one that the flaw is about.
    have htrait : block.trait = none := by_contra fun h => hno _ (.trait h)
    have hgenerics : block.generics.items = [] := by_contra fun h => hno _ (.generics htrait h)
    obtain ⟨simple, hself⟩ : ∃ simple, PlainPath block.selfType simple :=
      by_contra fun h => hno _ (.implementer htrait hgenerics (not_exists.mp h))
    have hblock : Admissible block simple := ⟨htrait, hgenerics, hself⟩
    have hmarked : ∀ f ∈ block.functions, WellMarked f := by
      by_contra hmarked
      simp only [not_forall, exists_prop] at hmarked
      obtain ⟨before, fn, after, hsplit, hbefore, hfn⟩ := exists_first_iff.mpr hmarked
      obtain ⟨e, he⟩ := exists_firstMisread_iff.mpr hfn
      exact hno _ (.flags hblock hsplit (fun f hf => not_not.mp (hbefore f hf)) he)
    cases hflawed with
    | trait h => exact h htrait
    | generics h => exact h hgenerics
    | implementer h => exact h ⟨simple, hself⟩
    | flags hfn ha hfor h => exact h (hmarked _ hfn _ ha hfor)
    | @shadowed simple' fn hself' hfn h =>
      obtain ⟨before, fn, after, hsplit, hbefore, hfn⟩ := exists_first_iff.mpr ⟨fn, hfn, h⟩
      exact hno _ (.shadowed ⟨htrait, hgenerics, hself'⟩ hmarked hsplit hbefore hfn)

/-! ## The block that is emitted -/

/-- The item is another one less the attributes for flags, if that is a function. -/
inductive Stripped : Item → Item → Prop
  | function {fn stripped : Function}
    (kept : stripped.attributes = fn.attributes.filter (¬ ForFlags ·))
    (rest : { stripped with attributes := fn.attributes } = fn) :
    Stripped (.function fn) (.function stripped)
  | other (code : List Token) : Stripped (.other code) (.other code)

/-- **The block is another one less the attributes for flags of its functions**, and the same in
everything else. -/
structure Unmarked (block emitted : Block) : Prop where
  items : List.Forall₂ Stripped block.items emitted.items
  rest : { emitted with items := block.items } = block

theorem stripped_without (item : Item) : Stripped item (item.without flagAttribute) := by
  cases item with
  | function fn => exact .function (by simp [Function.without, ForFlags]) rfl
  | other code => exact .other code

theorem unmarked_without (block : Block) : Unmarked block (block.without flagAttribute) where
  items := List.forall₂_map_right_iff.mpr
    (List.forall₂_same.mpr fun item _ => stripped_without item)
  rest := rfl

/-- **Which blocks are refused, and how**: whatever the settings are, what is reported is the first
cause, and the block of an expansion is the one that was read less the attributes for flags. -/
theorem expand_refuses (settings : Settings) (block : Block) :
    (∀ err, expand settings block = .error err ↔ Refused block err) ∧
      ((∃ err, expand settings block = .error err) ↔ Flawed block) ∧
      ∀ e, expand settings block = .ok e →
        Unmarked block e.block ∧ e.block.tokens <+: e.tokens := by
  refine ⟨fun err => expand_eq_error_iff, ?_, fun e he => ⟨?_, ?_⟩⟩
  · simp only [expand_eq_error_iff, exists_refused_iff]
  · obtain ⟨simple, all, -, rfl, -⟩ := ofShapes_of_expand he
    exact unmarked_without block
  · simp only [Expansion.tokens, List.append_assoc, List.prefix_append]

/-- `#[proxy(skip)] pub fn target(&self)`, by the name of a method that every proxy has. -/
def skippedTarget : Function :=
  { (default : Function) with
    attributes := [⟨false, false, [flagAttribute], .list .paren [.word "skip"]⟩]
    visibility := .exported
    name := "target"
    receiver := some ⟨[], .reference none false⟩ }

/-- A node with that method. -/
def nodeBlock : Block :=
  { (default : Block) with selfType := .named "Node", items := [.function skippedTarget] }

/-- The node is expanded because of the flag, and refused without it. -/
theorem expand_refuses_node : (∃ e, expand .none nodeBlock = .ok e ∧ Unmarked nodeBlock e.block) ∧
    ¬ Flawed nodeBlock ∧ Refused (nodeBlock.without flagAttribute) (.shadowed "target") := by
  obtain ⟨-, hflawed, hblock⟩ := expand_refuses .none nodeBlock
  have he : expand .none nodeBlock = .ok _ := rfl
  refine ⟨⟨_, he, (hblock _ he).1⟩, fun h => ?_, ?_⟩
  · obtain ⟨err, herr⟩ := hflawed.mpr h
    cases herr
  · exact ((expand_refuses .none (nodeBlock.without flagAttribute)).1 _).mp rfl

end Interpose.Expansion
