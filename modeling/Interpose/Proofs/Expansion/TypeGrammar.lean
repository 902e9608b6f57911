import Interpose.Expansion.Representable
import Mathlib.Logic.Relation

/-!
# The types that can be converted, as a grammar

Whether a type can be converted is found level by level: the word `Self` is searched for in all of
its tokens, then its form is looked at, then each of its arguments is treated alike, so that what
lies deep is searched again and again. Here this is compared with a closed grammar and one search of
the whole.

* `Occurs` : a word stands among tokens, at any depth.
* `Piece` : a type, a segment of a path or an argument. `Piece.pieces` are those that it is made of,
  and `Piece.Holds` relates it to all that lies in it.
* `Piece.Built` : the grammar, one rule for each form that it has.
* `Piece.Barred` : the forms that it has not.

Results:
* `mention_iff_occurs`: the search finds a word iff it occurs.
* `Piece.induction`: induction on types, segments and arguments at once.
* `Piece.mention_tokens`, `Piece.mention_iff_holds`: the words of a piece of the grammar are the
  names of the segments in it.
* `Piece.isRepresentable_iff`: one level, as it is decided.
* `Piece.built_iff_holds`, `isRepresentable_iff_holds`: the grammar and what can be converted, read
  off all that lies in a type.
* **`representable_grammar`**: what can be converted is the grammar without the word `Self`.
-/

namespace Interpose.Source

variable {w : String} {t : Ty}

/-! ## Words among tokens -/

/-- **The word occurs among the tokens**, in brackets or not. -/
inductive Occurs (w : String) : List Token → Prop
  | word {ts : List Token} (h : .word w ∈ ts) : Occurs w ts
  /-- A lifetime is a word behind its sign. -/
  | lifetime {ts : List Token} (h : .lifetime w ∈ ts) : Occurs w ts
  | inside {ts body : List Token} {d : Delimiter} (h : .group d body ∈ ts)
    (hbody : Occurs w body) : Occurs w ts

theorem mention_eq_any (w : String) (ts : List Token) : mention w ts = ts.any (·.mentions w) := by
  induction ts with
  | nil => rfl
  | cons t ts ih => rw [mention, List.any_cons, ih]

mutual

-- the search goes down the list, and what it finds stands among all tokens that it started with
theorem Token.occurs_of_mentions : ∀ {t : Token}, t.mentions w = true →
    ∀ {ts : List Token}, t ∈ ts → Occurs w ts
  | .word _, h, _, ht => .word (beq_iff_eq.mp h ▸ ht)
  | .lifetime _, h, _, ht => .lifetime (beq_iff_eq.mp h ▸ ht)
  | .group _ body, h, _, ht => .inside ht (occurs_of_mention body h fun _ => id)

theorem occurs_of_mention : ∀ (ts : List Token), mention w ts = true →
    ∀ {all : List Token}, (∀ t ∈ ts, t ∈ all) → Occurs w all
  | t :: rest, h, _, hall => by
    obtain ⟨ht, hrest⟩ := List.forall_mem_cons.mp hall
    rcases Bool.or_eq_true_iff.mp h with h | h
    · exact t.occurs_of_mentions h ht
    · exact occurs_of_mention rest h hrest

end

/-- **The search finds a word iff it occurs.** -/
theorem mention_iff_occurs {ts : List Token} : mention w ts = true ↔ Occurs w ts := by
  constructor
  · exact fun h => occurs_of_mention ts h fun _ => id
  · intro h
    induction h with
    | word h | lifetime h =>
      rw [mention_eq_any, List.any_eq_true]
      exact ⟨_, h, beq_self_eq_true w⟩
    | inside h _ ih =>
      rw [mention_eq_any, List.any_eq_true]
      exact ⟨_, h, ih⟩

/-! ## Words of syntax -/

theorem mention_joinMarks (w : String) : ∀ cs : List Char, mention w (joinMarks cs) = false
  | [] => rfl
  | [_] => rfl
  | _ :: d :: rest => mention_joinMarks w (d :: rest)

theorem mention_rootTokens (w : String) (rooted : Bool) :
    mention w (rootTokens rooted) = false := by
  unfold rootTokens
  split
  · exact mention_joinMarks w _
  · rfl

theorem mention_commaBetween (w : String) : ∀ items : List (List Token),
    mention w (commaBetween items) = items.any (mention w)
  | [] => rfl
  | [x] => (Bool.or_false _).symm
  | x :: y :: rest => by
    rw [commaBetween, mention_append, List.any_cons, ← mention_commaBetween w (y :: rest)]
    rfl

/-- A word occurs in the same arguments, in whichever order they are written. -/
theorem mention_lifetimesFirst (w : String) (items : List (Bool × List Token)) (trailing : Bool) :
    mention w (lifetimesFirst items trailing) = items.any fun item => mention w item.2 := by
  have hcomma (more : Bool) : mention w (if more then [.mark ',' false] else []) = false := by
    cases more <;> rfl
  unfold lifetimesFirst
  rw [mention_append, hcomma, Bool.or_false, mention_commaBetween, List.any_map, List.any_append,
    Bool.eq_iff_iff]
  simp only [Bool.or_eq_true, List.any_eq_true, List.mem_filter, Function.comp_apply]
  constructor
  · rintro (⟨item, ⟨hitem, -⟩, h⟩ | ⟨item, ⟨hitem, -⟩, h⟩) <;> exact ⟨item, hitem, h⟩
  · rintro ⟨item, hitem, h⟩
    cases hlifetime : item.1 with
    | true => exact .inl ⟨item, ⟨hitem, hlifetime⟩, h⟩
    | false => exact .inr ⟨item, ⟨hitem, by rw [hlifetime]; rfl⟩, h⟩

theorem argTokens_eq_map (args : List Arg) : argTokens args = args.map Arg.tokens := by
  induction args with
  | nil => rfl
  | cons a args ih => rw [argTokens, List.map_cons, ih]

theorem mention_pathTokens (w : String) (segments : List Segment) :
    mention w (pathTokens segments) = segments.any fun s => mention w s.tokens := by
  induction segments with
  | nil => rfl
  | cons s rest ih =>
    have hsign : mention w (if rest.isEmpty then [] else operator "::") = false := by
      split
      · rfl
      · exact mention_joinMarks w _
    rw [pathTokens, mention_append, mention_append, hsign, Bool.or_false, ih, List.any_cons]

/-! ## Pieces of types -/

/-- A type, or something that types are made of. -/
inductive Piece where
  | type (t : Ty)
  | segment (s : Segment)
  | arg (a : Arg)

namespace Piece

variable {p q r : Piece}

/-- The pieces that a piece is made of. What is kept as it is written has none. -/
def pieces : Piece → List Piece
  | .type (.path _ segments) => segments.map .segment
  | .type (.member self _ trait rest) => .type self :: (trait ++ rest).map .segment
  | .type (.paren inner) => [.type inner]
  | .type (.grouped inner) => [.type inner]
  | .type (.tuple items _) => items.map .type
  | .type (.reference _ _ target) => [.type target]
  | .type (.pointer _ target) => [.type target]
  | .type (.slice item) => [.type item]
  | .type (.array item _) => [.type item]
  | .type .never => []
  | .type .inferred => []
  | .type (.written ..) => []
  | .segment (.plain _) => []
  | .segment (.applied _ _ args _) => args.map .arg
  | .segment (.called ..) => []
  | .arg (.type t) => [.type t]
  | .arg _ => []

/-- **What lies in a piece**, at any depth, and the piece itself. -/
def Holds (p q : Piece) : Prop := Relation.ReflTransGen (fun p q => q ∈ p.pieces) p q

/-- The tokens of a piece. -/
def tokens : Piece → List Token
  | .type t => t.tokens
  | .segment s => s.tokens
  | .arg a => a.tokens.2

/-- The name that a segment has. -/
def name? : Piece → Option String
  | .segment s => some s.name
  | _ => none

/-- The test of types, of segments and of arguments. -/
def isRepresentable : Piece → Bool
  | .type t => t.isRepresentable
  | .segment s => s.isRepresentable
  | .arg a => a.isRepresentable

/-! ## Induction on pieces -/

/-- It holds of any piece when it holds of all that the piece is made of. -/
def Hereditary (P : Piece → Prop) : Prop := ∀ p, (∀ q ∈ p.pieces, P q) → P p

mutual

theorem type_induction {P : Piece → Prop} (step : Hereditary P) : ∀ t : Ty, P (.type t)
  | .path _ segments => step _ (List.forall_mem_map.mpr (segments_induction step segments))
  | .member self _ trait rest =>
    step _ (List.forall_mem_cons.mpr ⟨type_induction step self,
      List.forall_mem_map.mpr (List.forall_mem_append.mpr
        ⟨segments_induction step trait, segments_induction step rest⟩)⟩)
  | .paren inner => step _ (List.forall_mem_singleton.mpr (type_induction step inner))
  | .grouped inner => step _ (List.forall_mem_singleton.mpr (type_induction step inner))
  | .tuple items _ => step _ (List.forall_mem_map.mpr (types_induction step items))
  | .reference _ _ target => step _ (List.forall_mem_singleton.mpr (type_induction step target))
  | .pointer _ target => step _ (List.forall_mem_singleton.mpr (type_induction step target))
  | .slice item => step _ (List.forall_mem_singleton.mpr (type_induction step item))
  | .array item _ => step _ (List.forall_mem_singleton.mpr (type_induction step item))
  | .never => step _ nofun
  | .inferred => step _ nofun
  | .written .. => step _ nofun

theorem types_induction {P : Piece → Prop} (step : Hereditary P) :
    ∀ (items : List Ty), ∀ t ∈ items, P (.type t)
  | [] => nofun
  | t :: rest => List.forall_mem_cons.mpr ⟨type_induction step t, types_induction step rest⟩

theorem segments_induction {P : Piece → Prop} (step : Hereditary P) :
    ∀ (segments : List Segment), ∀ s ∈ segments, P (.segment s)
  | [] => nofun
  | s :: rest => List.forall_mem_cons.mpr ⟨segment_induction step s, segments_induction step rest⟩

theorem segment_induction {P : Piece → Prop} (step : Hereditary P) :
    ∀ s : Segment, P (.segment s)
  | .plain _ => step _ nofun
  | .applied _ _ args _ => step _ (List.forall_mem_map.mpr (args_induction step args))
  | .called .. => step _ nofun

theorem args_induction {P : Piece → Prop} (step : Hereditary P) :
    ∀ (args : List Arg), ∀ a ∈ args, P (.arg a)
  | [] => nofun
  | a :: rest => List.forall_mem_cons.mpr ⟨arg_induction step a, args_induction step rest⟩

theorem arg_induction {P : Piece → Prop} (step : Hereditary P) : ∀ a : Arg, P (.arg a)
  | .type t => step _ (List.forall_mem_singleton.mpr (type_induction step t))
  | .lifetime _ => step _ nofun
  | .value _ => step _ nofun
  | .named _ => step _ nofun

end

/-- **Induction on pieces**: what holds of a piece when it holds of all that the piece is made of,
holds of every piece. -/
theorem induction {P : Piece → Prop} (step : ∀ p, (∀ q ∈ p.pieces, P q) → P p) :
    ∀ p, P p
  | .type t => type_induction step t
  | .segment s => segment_induction step s
  | .arg a => arg_induction step a

/-! ## The grammar -/

/-- **The grammar**: the types that are built from names, arguments that are types, brackets and the
unit type. -/
inductive Built : Piece → Prop
  | unit {trailing : Bool} : Built (.type (.tuple [] trailing))
  | paren {inner : Ty} (h : Built (.type inner)) : Built (.type (.paren inner))
  | grouped {inner : Ty} (h : Built (.type inner)) : Built (.type (.grouped inner))
  | path {rooted : Bool} {segments : List Segment} (h : ∀ s ∈ segments, Built (.segment s)) :
    Built (.type (.path rooted segments))
  | plain {name : String} : Built (.segment (.plain name))
  | applied {name : String} {turbofish trailing : Bool} {args : List Arg}
    (h : ∀ a ∈ args, Built (.arg a)) : Built (.segment (.applied name turbofish args trailing))
  | argument {t : Ty} (h : Built (.type t)) : Built (.arg (.type t))

/-- **The forms that the grammar has not.** -/
inductive Barred : Piece → Prop
  | member {self : Ty} {rooted : Bool} {trait rest : List Segment} :
    Barred (.type (.member self rooted trait rest))
  | tuple {items : List Ty} {trailing : Bool} (h : items ≠ []) :
    Barred (.type (.tuple items trailing))
  | reference {lifetime : Option String} {exclusive : Bool} {target : Ty} :
    Barred (.type (.reference lifetime exclusive target))
  | pointer {writable : Bool} {target : Ty} : Barred (.type (.pointer writable target))
  | slice {item : Ty} : Barred (.type (.slice item))
  | array {item : Ty} {length : List Token} : Barred (.type (.array item length))
  | never : Barred (.type .never)
  | inferred : Barred (.type .inferred)
  /-- A function pointer, a trait object, an anonymous implementer, an invocation that generates a
  type, or what is not taken apart. -/
  | written {form : TyForm} {text : List Token} : Barred (.type (.written form text))
  /-- Parameters in parentheses. -/
  | called {name : String} {text : List Token} : Barred (.segment (.called name text))
  | lifetime {name : String} : Barred (.arg (.lifetime name))
  | value {text : List Token} : Barred (.arg (.value text))
  /-- An associated type or constant, or bounds on one. -/
  | named {text : List Token} : Barred (.arg (.named text))

/-- **One level of the grammar.** -/
theorem built_iff : p.Built ↔ ¬ p.Barred ∧ ∀ q ∈ p.pieces, q.Built := by
  constructor
  · intro h
    cases h with
    | unit => exact ⟨by rintro (_ | h); exact h rfl, nofun⟩
    | plain => exact ⟨nofun, nofun⟩
    | paren h | grouped h | argument h => exact ⟨nofun, List.forall_mem_singleton.mpr h⟩
    | path h | applied h => exact ⟨nofun, List.forall_mem_map.mpr h⟩
  · rintro ⟨hbarred, h⟩
    cases p with
    | type t =>
      cases t with
      | path => exact .path (List.forall_mem_map.mp h)
      | paren => exact .paren (List.forall_mem_singleton.mp h)
      | grouped => exact .grouped (List.forall_mem_singleton.mp h)
      | tuple items =>
        cases items with
        | nil => exact .unit
        | cons => exact absurd (.tuple (List.cons_ne_nil _ _)) hbarred
      | _ => exact absurd (by constructor) hbarred
    | segment s =>
      cases s with
      | plain => exact .plain
      | applied => exact .applied (List.forall_mem_map.mp h)
      | called => exact absurd .called hbarred
    | arg a =>
      cases a with
      | type => exact .argument (List.forall_mem_singleton.mp h)
      | _ => exact absurd (by constructor) hbarred

/-! ## Words of pieces -/

/-- **The words of a piece** of the grammar are its own name and the words of what it is made of. -/
theorem mention_tokens (w : String) (h : p.Built) :
    mention w p.tokens = (p.name? == some w || p.pieces.any fun q => mention w q.tokens) := by
  cases h with
  | @unit trailing => cases trailing <;> rfl
  | paren | grouped => rfl
  | @path rooted segments =>
    show mention w (rootTokens rooted ++ pathTokens segments) =
      (segments.map segment).any fun q => mention w q.tokens
    rw [mention_append, mention_rootTokens, mention_pathTokens, List.any_map]
    rfl
  | plain => rfl
  | @applied name turbofish trailing args =>
    show mention w (.word name :: rootTokens turbofish ++ .mark '<' false ::
      lifetimesFirst (argTokens args) trailing ++ [.mark '>' false]) =
        (name == w || (args.map arg).any fun q => mention w q.tokens)
    simp only [List.cons_append, mention, Token.mentions, mention_append, mention_rootTokens,
      mention_lifetimesFirst, argTokens_eq_map, List.any_map, Bool.or_false, Bool.false_or]
    rfl
  | argument => exact (Bool.or_false _).symm

/-- A word of something that a piece is made of is a word of the piece. -/
theorem mention_of_mem (h : p.Built) (hq : q ∈ p.pieces) (hw : mention w q.tokens = true) :
    mention w p.tokens = true := by
  rw [mention_tokens w h, Bool.or_eq_true, List.any_eq_true]
  exact .inr ⟨q, hq, hw⟩

/-! ## All that lies in a piece -/

/-- The grammar is closed: it holds of all that lies in what it holds of. -/
theorem built_of_holds (h : p.Holds q) (hp : p.Built) : q.Built := by
  induction h with
  | refl => exact hp
  | tail _ hq ih => exact (built_iff.mp ih).2 _ hq

/-- **The grammar by what lies in a piece**: nothing of a form that it has not. -/
theorem built_iff_holds : p.Built ↔ ∀ q, p.Holds q → ¬ q.Barred := by
  constructor
  · exact fun hp q h => (built_iff.mp (built_of_holds h hp)).1
  · induction p using induction with
    | step p ih =>
      exact fun h => built_iff.mpr ⟨h p .refl, fun q hq => ih q hq fun r hr => h r (.head hq hr)⟩

/-- **The words of a piece of the grammar** are the names of the segments in it. -/
theorem mention_iff_holds (hp : p.Built) :
    mention w p.tokens = true ↔ ∃ q, p.Holds q ∧ q.name? = some w := by
  induction p using induction with
  | step p ih =>
    obtain ⟨-, hpieces⟩ := built_iff.mp hp
    rw [mention_tokens w hp, Bool.or_eq_true, beq_iff_eq, List.any_eq_true]
    constructor
    · rintro (h | ⟨q, hq, h⟩)
      · exact ⟨p, .refl, h⟩
      · obtain ⟨r, hr, hname⟩ := (ih q hq (hpieces q hq)).mp h
        exact ⟨r, .head hq hr, hname⟩
    · rintro ⟨r, hr, hname⟩
      rcases Relation.ReflTransGen.cases_head hr with rfl | ⟨q, hq, hr⟩
      · exact .inl hname
      · exact .inr ⟨q, hq, (ih q hq (hpieces q hq)).mpr ⟨r, hr, hname⟩⟩

/-! ## What can be converted -/

theorem segmentsRepresentable_iff (segments : List Segment) :
    segmentsRepresentable segments = true ↔ ∀ s ∈ segments, s.isRepresentable = true := by
  induction segments with
  | nil => exact ⟨fun _ => nofun, fun _ => rfl⟩
  | cons s rest ih => rw [segmentsRepresentable, Bool.and_eq_true, ih, List.forall_mem_cons]

theorem argsRepresentable_iff (args : List Arg) :
    argsRepresentable args = true ↔ ∀ a ∈ args, a.isRepresentable = true := by
  induction args with
  | nil => exact ⟨fun _ => nofun, fun _ => rfl⟩
  | cons a rest ih => rw [argsRepresentable, Bool.and_eq_true, ih, List.forall_mem_cons]

/-- **One level, as it is decided.** A type is searched for the word as a whole. -/
theorem isRepresentable_iff : p.isRepresentable = true ↔
    (∀ t, p = .type t → t.mentionsSelf = false) ∧ ¬ p.Barred ∧
      ∀ q ∈ p.pieces, q.isRepresentable = true := by
  cases p with
  | type t =>
    have hself : (∀ u, Piece.type t = .type u → u.mentionsSelf = false) ↔ t.mentionsSelf = false :=
      ⟨fun h => h t rfl, fun h u hu => by cases hu; exact h⟩
    rw [hself, isRepresentable, Ty.isRepresentable.eq_def, Bool.and_eq_true, Bool.not_eq_true']
    refine and_congr_right fun _ => ?_
    -- the forms that are not named are barred, and the test refuses them whatever they hold
    cases t with
    | path _ segments =>
      rw [and_iff_right (by nofun), pieces, List.forall_mem_map]
      exact segmentsRepresentable_iff segments
    | paren inner | grouped inner =>
      rw [and_iff_right (by nofun), pieces, List.forall_mem_singleton]
      rfl
    | tuple items _ =>
      cases items with
      | nil => exact iff_of_true rfl (built_iff.mp .unit |>.imp_right fun _ => nofun)
      | cons => exact iff_of_false Bool.false_ne_true fun h => h.1 (.tuple (List.cons_ne_nil _ _))
    | _ => exact iff_of_false Bool.false_ne_true fun h => h.1 (by constructor)
  | segment s =>
    rw [and_iff_right (by nofun)]
    cases s with
    | plain => exact iff_of_true rfl ⟨nofun, nofun⟩
    | applied _ _ args _ =>
      rw [and_iff_right (by nofun), pieces, List.forall_mem_map]
      exact argsRepresentable_iff args
    | called => exact iff_of_false Bool.false_ne_true fun h => h.1 .called
  | arg a =>
    rw [and_iff_right (by nofun)]
    cases a with
    | type t =>
      rw [and_iff_right (by nofun), pieces, List.forall_mem_singleton]
      rfl
    | _ => exact iff_of_false Bool.false_ne_true fun h => h.1 (by constructor)

/-- What can be converted is built by the rules, by induction on it. -/
theorem built_of_isRepresentable : ∀ p : Piece, p.isRepresentable = true → p.Built :=
  induction fun p ih h => by
    obtain ⟨-, hbarred, hpieces⟩ := isRepresentable_iff.mp h
    exact built_iff.mpr ⟨hbarred, fun q hq => ih q hq (hpieces q hq)⟩

/-- Where the word is not found in the whole, it is not found at any level, as the words of each
level are words of the one above. -/
theorem isRepresentable_of_built : ∀ p : Piece, mention "Self" p.tokens = false → p.Built →
    p.isRepresentable = true :=
  induction fun p ih hself hp => by
    obtain ⟨hbarred, hpieces⟩ := built_iff.mp hp
    refine isRepresentable_iff.mpr ⟨?_, hbarred, fun q hq => ih q hq ?_ (hpieces q hq)⟩
    · rintro t rfl
      exact hself
    · rw [Bool.eq_false_iff] at hself ⊢
      exact fun hw => hself (mention_of_mem hp hq hw)

/-- **All that lies in what can be converted can be converted.** -/
theorem isRepresentable_of_holds (h : p.Holds q) (hp : p.isRepresentable = true) :
    q.isRepresentable = true := by
  induction h with
  | refl => exact hp
  | tail _ hq ih => exact (isRepresentable_iff.mp ih).2.2 _ hq

end Piece

/-! ## The whole -/

/-- What can be converted: the types of the grammar in which the word is not found. -/
theorem isRepresentable_iff_built :
    t.isRepresentable = true ↔ ¬ mention "Self" t.tokens = true ∧ (Piece.type t).Built := by
  rw [Bool.not_eq_true]
  constructor
  · intro (h : (Piece.type t).isRepresentable = true)
    exact ⟨(Piece.isRepresentable_iff.mp h).1 t rfl, Piece.built_of_isRepresentable _ h⟩
  · rintro ⟨hself, h⟩
    exact Piece.isRepresentable_of_built (.type t) hself h

/-- What can be converted, by what lies in it. -/
theorem isRepresentable_iff_holds : t.isRepresentable = true ↔
    ∀ q, (Piece.type t).Holds q → ¬ q.Barred ∧ q.name? ≠ some "Self" := by
  have hwords (h : (Piece.type t).Built) : mention "Self" t.tokens = true ↔
    ∃ q, (Piece.type t).Holds q ∧ q.name? = some "Self" := Piece.mention_iff_holds h
  rw [isRepresentable_iff_built]
  constructor
  · rintro ⟨hself, h⟩ q hq
    exact ⟨Piece.built_iff_holds.mp h q hq, fun hname => hself ((hwords h).mpr ⟨q, hq, hname⟩)⟩
  · intro h
    have hbuilt : (Piece.type t).Built := Piece.built_iff_holds.mpr fun q hq => (h q hq).1
    refine ⟨fun hself => ?_, hbuilt⟩
    obtain ⟨q, hq, hname⟩ := (hwords hbuilt).mp hself
    exact (h q hq).2 hname

/-- **What can be converted is a closed grammar.** A type can be converted iff the word `Self` does
not occur in it and it is built by the rules of the grammar. This comes to the same as that nothing
that lies in it, at any depth, is of a form that the grammar has not or is named by that word. All
types that lie in it can then be converted, too. -/
theorem representable_grammar (t : Ty) :
    (t.isRepresentable = true ↔ ¬ Occurs "Self" t.tokens ∧ (Piece.type t).Built) ∧
    (t.isRepresentable = true ↔
      ∀ q, (Piece.type t).Holds q → ¬ q.Barred ∧ q.name? ≠ some "Self") ∧
    (t.isRepresentable = true →
      ∀ u, (Piece.type t).Holds (.type u) → u.isRepresentable = true) := by
  refine ⟨?_, isRepresentable_iff_holds, fun h u hu => ?_⟩
  · rw [isRepresentable_iff_built, mention_iff_occurs]
  · exact Piece.isRepresentable_of_holds hu h

/-- `Vec<item>`. -/
def listOf (item : Ty) : Ty := .path false [.applied "Vec" false [.type item] false]

theorem holds_listOf (item : Ty) : (Piece.type (listOf item)).Holds (.type item) :=
  .head (List.mem_singleton_self _) (.head (List.mem_singleton_self _)
    (.single (List.mem_singleton_self _)))

/-- A list of lists can be converted, so its items can; a list of references cannot. -/
theorem representable_grammar_lists :
    (listOf (listOf (.named "u8"))).isRepresentable = true ∧
    (listOf (.named "u8")).isRepresentable = true ∧
    ¬ (listOf (.reference none false (.named "str"))).isRepresentable = true := by
  have hlists : (listOf (listOf (.named "u8"))).isRepresentable = true := by decide
  obtain ⟨-, -, hitems⟩ := representable_grammar (listOf (listOf (.named "u8")))
  obtain ⟨-, hforms, -⟩ := representable_grammar (listOf (.reference none false (.named "str")))
  exact ⟨hlists, hitems hlists _ (holds_listOf _),
    fun h => (hforms.mp h _ (holds_listOf _)).1 .reference⟩

end Interpose.Source
