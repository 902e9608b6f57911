import Interpose.Proofs.Expansion.Declared

/-!
# The flags of a function

The attributes of a function mark it as final or as left out. Each of them must hold a list of
flags; what is read of one does not depend on what the others say, so the first that is no such list
decides what is reported.

* `FlagList` : the tokens that are a list of flags.
* `Flagged` : an attribute holds a list of these flags.
* `Marked` : an attribute of the function lists the flag.
* `WellMarked` : every attribute for flags holds a list of them.
* `Misread` : what is reported of an attribute that holds none; `FirstMisread` : of a function.

Results:
* `Reads.foldlM`, `Reads.foldlM_eq_error_iff`: readings that only add flags, one after the other.
* `reads_entry`, `reads_attribute`: entries and attributes are read in this way.
* `misread_iff`: which attributes are misread, and how.
* `ofAttributes_eq_ok_iff`, `ofAttributes_eq_error_iff`: the flags of a function, or what is
  reported of it.
-/

namespace Interpose.Expansion

open Source

/-! ## Readings that add flags -/

/-- A flag. -/
inductive FlagWord where
  /-- Never intercepted. -/
  | final
  /-- Left out of the declared surface. -/
  | skip
deriving DecidableEq, Repr

/-- The word for the flag. -/
def FlagWord.text : FlagWord → String
  | .final => "final"
  | .skip => "skip"

/-- Is the flag set? -/
def Flags.has (f : Flags) : FlagWord → Bool
  | .final => f.isFinal
  | .skip => f.isSkipped

theorem Flags.ext_has {f g : Flags} (h : ∀ w, f.has w = g.has w) : f = g :=
  (Flags.mk.injEq ..).mpr ⟨h .final, h .skip⟩

/-- The flags with further ones set. -/
def Flags.marked (f : Flags) (ws : List FlagWord) : Flags :=
  ⟨f.isFinal || ws.contains .final, f.isSkipped || ws.contains .skip⟩

@[simp] theorem Flags.marked_nil (f : Flags) : f.marked [] = f := by
  simp [marked]

theorem Flags.marked_append (f : Flags) (ws us : List FlagWord) :
    f.marked (ws ++ us) = (f.marked ws).marked us := by
  simp [marked, Bool.or_assoc]

@[simp] theorem Flags.has_marked_none (ws : List FlagWord) (w : FlagWord) :
    (none.marked ws).has w = ws.contains w := by
  cases w <;> simp [marked, has, none]

/-- The reading adds the flags that are listed, and fails in the same way whatever is set before. -/
structure Reads {α : Type} (read : Flags → α → Except ArgumentError Flags)
    (lists : α → List FlagWord → Prop) : Prop where
  ok_iff : ∀ f a f', read f a = .ok f' ↔ ∃ ws, lists a ws ∧ f' = f.marked ws
  error_iff : ∀ f a e, read f a = .error e ↔ read .none a = .error e

namespace Reads

variable {α : Type} {read : Flags → α → Except ArgumentError Flags}
  {lists : α → List FlagWord → Prop} {l : List α} {f f' : Flags} {e : ArgumentError}

/-- Readings in turn succeed with all that is listed. -/
theorem foldlM_eq_ok_iff (h : Reads read lists) : l.foldlM read f = .ok f' ↔
    ∃ wss, List.Forall₂ lists l wss ∧ f' = f.marked wss.flatten := by
  induction l generalizing f with
  | nil => simp [pure, Except.pure, eq_comm]
  | cons a l ih =>
    rw [List.foldlM_cons]
    refine bind_eq_ok_iff.trans ?_
    simp only [h.ok_iff, ih, List.forall₂_cons_left_iff]
    constructor
    · rintro ⟨_, ⟨ws, hws, rfl⟩, wss, hwss, rfl⟩
      exact ⟨ws :: wss, ⟨ws, wss, hws, hwss, rfl⟩, (f.marked_append ws wss.flatten).symm⟩
    · rintro ⟨_, ⟨ws, wss, hws, hwss, rfl⟩, rfl⟩
      exact ⟨_, ⟨ws, hws, rfl⟩, wss, hwss, f.marked_append ws wss.flatten⟩

/-- Readings in turn fail as the first that fails. -/
theorem foldlM_eq_error_iff (h : Reads read lists) : l.foldlM read f = .error e ↔
    ∃ before a after, l = before ++ a :: after ∧ (∀ b ∈ before, ∃ ws, lists b ws) ∧
      read .none a = .error e := by
  induction l generalizing f with
  | nil => simp [pure, Except.pure]
  | cons a l ih =>
    rw [List.foldlM_cons]
    refine bind_eq_error_iff.trans ?_
    simp only [h.ok_iff, h.error_iff f, ih]
    constructor
    · rintro (ha | ⟨_, ⟨ws, hws, -⟩, before, b, after, rfl, hbefore, hb⟩)
      · exact ⟨[], a, l, rfl, nofun, ha⟩
      · exact ⟨a :: before, b, after, rfl, List.forall_mem_cons.mpr ⟨⟨ws, hws⟩, hbefore⟩, hb⟩
    · rintro ⟨before, b, after, hl, hbefore, hb⟩
      cases before with
      | nil =>
        obtain ⟨rfl, rfl⟩ := List.cons.inj hl
        exact .inl hb
      | cons c before =>
        obtain ⟨rfl, rfl⟩ := List.cons.inj hl
        obtain ⟨⟨ws, hws⟩, hbefore⟩ := List.forall_mem_cons.mp hbefore
        exact .inr ⟨_, ⟨ws, hws, rfl⟩, before, b, after, rfl, hbefore, hb⟩

/-- Readings in turn are a reading. -/
theorem foldlM (h : Reads read lists) : Reads (fun f l => List.foldlM read f l)
    fun l ws => ∃ wss, List.Forall₂ lists l wss ∧ ws = wss.flatten where
  ok_iff f l f' := by
    rw [h.foldlM_eq_ok_iff]
    constructor
    · rintro ⟨wss, hwss, rfl⟩
      exact ⟨_, ⟨wss, hwss, rfl⟩, rfl⟩
    · rintro ⟨_, ⟨wss, hwss, rfl⟩, rfl⟩
      exact ⟨wss, hwss, rfl⟩
  error_iff f l e := h.foldlM_eq_error_iff.trans h.foldlM_eq_error_iff.symm

/-- What lists flags is read. -/
theorem isOk_iff (h : Reads read lists) (f : Flags) (a : α) :
    (∃ ws, lists a ws) ↔ ∀ e, read f a ≠ .error e := by
  constructor
  · rintro ⟨ws, hws⟩ e he
    cases he.symm.trans ((h.ok_iff f a _).mpr ⟨ws, hws, rfl⟩)
  · intro hno
    cases hread : read f a with
    | error e => exact absurd hread (hno e)
    | ok f' =>
      obtain ⟨ws, hws, -⟩ := (h.ok_iff f a f').mp hread
      exact ⟨ws, hws⟩

/-- Nothing lists flags in two ways that set different ones. -/
theorem marked_eq (h : Reads read lists) {a : α} {ws us : List FlagWord} (hws : lists a ws)
    (hus : lists a us) (f : Flags) : f.marked ws = f.marked us :=
  Except.ok.inj (((h.ok_iff f a _).mpr ⟨ws, hws, rfl⟩).symm.trans
    ((h.ok_iff f a _).mpr ⟨us, hus, rfl⟩))

end Reads

/-! ## One entry of a list -/

/-- The entry is the word for the flag, and nothing else. -/
def IsWord (x : Entry) (w : FlagWord) : Prop := x.tokens = [.word w.text]

/-- Reads one entry. -/
def readFlag (f : Flags) (x : Entry) : Except ArgumentError Flags := do
  let (path, rest) ← propertyPath x
  let (f, rest) ← Flags.step f path x.closed rest
  if rest.isEmpty then return f else .error .missingComma

/-- The list is read entry by entry. -/
theorem readEntries_eq_foldlM : ∀ (f : Flags) (xs : List Entry),
    readEntries Flags.step f xs = xs.foldlM readFlag f
  | _, [] => rfl
  | f, x :: xs => by
    rw [List.foldlM_cons, readEntries, readFlag]
    cases propertyPath x with
    | error e => rfl
    | ok read =>
      obtain ⟨path, rest⟩ := read
      simp only [bind, Except.bind]
      cases Flags.step f path x.closed rest with
      | error e => rfl
      | ok read =>
        obtain ⟨f', rest'⟩ := read
        cases rest' with
        | nil => exact readEntries_eq_foldlM f' xs
        | cons => rfl

theorem moreSegments_eq_nil {closed : Bool} {ts rest : List Token}
    (h : moreSegments closed ts = .ok ([], rest)) : rest = ts := by
  unfold moreSegments at h
  split at h
  · rename_i s more
    cases hmore : moreSegments closed more <;>
      simp [hmore, bind, Except.bind, pure, Except.pure] at h
  · cases h
  · cases h
    rfl

/-- A path that is one bare name stands alone at the head of its entry. -/
theorem propertyPath_isNamed {x : Entry} {path : PropertyPath} {rest : List Token} {name : String}
    (h : propertyPath x = .ok (path, rest)) (hname : path.isNamed name = true) :
    x.tokens = .word name :: rest := by
  obtain ⟨rooted, names⟩ := path
  simp only [PropertyPath.isNamed, Bool.and_eq_true, Bool.not_eq_true', beq_iff_eq] at hname
  obtain ⟨rfl, rfl⟩ := hname
  have hfirst {rooted' : Bool} {ts : List Token}
      (h : propertyPath.first x rooted' ts = .ok (⟨false, [name]⟩, rest)) :
      rooted' = false ∧ ts = .word name :: rest := by
    unfold propertyPath.first at h
    split at h
    · rename_i s more
      cases hmore : moreSegments x.closed more with
      | error e => simp [hmore, bind, Except.bind] at h
      | ok read =>
        obtain ⟨names, left⟩ := read
        simp only [hmore, bind, Except.bind, pure, Except.pure, Except.ok.injEq, Prod.mk.injEq,
          PropertyPath.mk.injEq, List.cons.injEq] at h
        obtain ⟨⟨rfl, rfl, rfl⟩, rfl⟩ := h
        rw [moreSegments_eq_nil hmore]
        exact ⟨rfl, rfl⟩
    · cases h
    · split at h <;> cases h
    · split at h <;> cases h
    · cases h
  unfold propertyPath at h
  split at h
  · cases (hfirst h).1
  · exact (hfirst h).2

/-- **An entry is read iff it is one of the two words.** -/
theorem reads_entry : Reads readFlag fun x ws => ∃ w, IsWord x w ∧ ws = [w] where
  ok_iff f x f' := by
    constructor
    · intro h
      unfold readFlag at h
      cases hpath : propertyPath x with
      | error e => simp [hpath, bind, Except.bind] at h
      | ok read =>
        obtain ⟨path, rest⟩ := read
        simp only [hpath, bind, Except.bind, Flags.step] at h
        by_cases hfinal : path.isNamed "final" = true
        · cases rest with
          | nil =>
            rw [if_pos hfinal] at h
            cases h
            exact ⟨_, ⟨.final, propertyPath_isNamed hpath hfinal, rfl⟩, by simp [Flags.marked]⟩
          | cons => simp [hfinal] at h
        · by_cases hskip : path.isNamed "skip" = true
          · cases rest with
            | nil =>
              rw [if_neg hfinal, if_pos hskip] at h
              cases h
              exact ⟨_, ⟨.skip, propertyPath_isNamed hpath hskip, rfl⟩, by simp [Flags.marked]⟩
            | cons => simp [hfinal, hskip] at h
          · simp [hfinal, hskip] at h
    · rintro ⟨_, ⟨w, hx, rfl⟩, rfl⟩
      obtain ⟨tokens, closed⟩ := x
      cases hx
      cases w <;> simp [Flags.marked] <;> rfl
  error_iff f x e := by
    unfold readFlag
    cases propertyPath x with
    | error e' => rfl
    | ok read =>
      obtain ⟨path, rest⟩ := read
      simp only [bind, Except.bind, Flags.step]
      cases path.isNamed "final" <;> cases path.isNamed "skip" <;> cases rest <;>
        simp [pure, Except.pure]

/-! ## Lists -/

/-- A list of flags: the two words in any number and order with a comma between any two of them, and
perhaps one behind the last. -/
inductive FlagList : List Token → List FlagWord → Prop
  | nil : FlagList [] []
  | last (w : FlagWord) : FlagList [.word w.text] [w]
  | cons (w : FlagWord) (joined : Bool) {rest : List Token} {ws : List FlagWord}
    (h : FlagList rest ws) : FlagList (.word w.text :: .mark ',' joined :: rest) (w :: ws)

/-- The entries of a list are its words. -/
theorem FlagList.entries {body : List Token} {ws : List FlagWord} (h : FlagList body ws) :
    List.Forall₂ IsWord (entries body) ws := by
  induction h with
  | nil => exact .nil
  | last w => exact .cons rfl .nil
  | cons w joined _ ih => exact .cons rfl ih

/-- Where all entries are words there is a list of them. An entry without tokens at the head has its
comma there, by induction on the tokens. -/
theorem flagList_of_entries (body : List Token) :
    (∀ ws, List.Forall₂ IsWord (entries body) ws → FlagList body ws) ∧
    ∀ x xs ws, entries body = x :: xs → x.tokens = [] → List.Forall₂ IsWord xs ws →
      ∃ joined rest, body = .mark ',' joined :: rest ∧ FlagList rest ws := by
  fun_induction entries body with
  | case1 =>
    refine ⟨fun ws h => ?_, nofun⟩
    cases h
    exact .nil
  | case2 joined rest ih =>
    refine ⟨fun ws h => ?_, fun x xs ws hx _ h => ?_⟩
    · cases h with
      | cons hx _ => cases hx
    · cases hx
      exact ⟨joined, rest, rfl, ih.1 ws h⟩
  | case3 t rest _ hrest ih =>
    obtain rfl : rest = [] := by
      cases rest with
      | nil => rfl
      | cons u rest =>
        unfold entries at hrest
        split at hrest
        · assumption
        · cases hrest
        · split at hrest <;> cases hrest
    refine ⟨fun ws h => ?_, fun x xs ws hx htokens _ => ?_⟩
    · cases h with
      | cons hx h =>
        cases h
        cases hx
        exact .last _
    · cases hx
      cases htokens
  | case4 t rest _ x more hrest ih =>
    refine ⟨fun ws h => ?_, fun x' xs ws hx htokens _ => ?_⟩
    · cases h with
      | cons hx h =>
        obtain ⟨rfl, htokens⟩ := List.cons.inj hx
        obtain ⟨joined, rest, rfl, hlist⟩ := ih.2 x more _ hrest htokens h
        exact .cons _ joined hlist
    · cases hx
      cases htokens

theorem flagList_iff {body : List Token} {ws : List FlagWord} :
    FlagList body ws ↔ List.Forall₂ IsWord (entries body) ws :=
  ⟨FlagList.entries, (flagList_of_entries body).1 ws⟩

/-- One word for each entry. -/
theorem words_flatten {xs : List Entry} {wss : List (List FlagWord)}
    (h : List.Forall₂ (fun x ws => ∃ w, IsWord x w ∧ ws = [w]) xs wss) :
    List.Forall₂ IsWord xs wss.flatten := by
  induction h with
  | nil => exact .nil
  | cons hx _ ih =>
    obtain ⟨w, hx, rfl⟩ := hx
    exact .cons hx ih

/-! ## Attributes -/

/-- The attribute holds a list of these flags, in brackets of any kind. -/
inductive Flagged (a : Attribute) : List FlagWord → Prop
  | list {d : Delimiter} {body : List Token} {ws : List FlagWord} (hinput : a.input = .list d body)
    (h : FlagList body ws) : Flagged a ws

/-- **What is reported of an attribute** that holds no list of flags: that it holds no list, or what
is wrong with the first entry that is none of the words. -/
inductive Misread (a : Attribute) : ArgumentError → Prop
  | nothing (h : a.input = .nothing) : Misread a (.listMissing a.inner)
  | value {code : List Token} (h : a.input = .value code) : Misread a (.valueForList a.inner)
  | entry {d : Delimiter} {body : List Token} {before after : List Entry} {x : Entry}
    {e : ArgumentError} (hinput : a.input = .list d body)
    (hentries : entries body = before ++ x :: after)
    (hbefore : ∀ b ∈ before, ∃ w, IsWord b w)
    (h : readFlag .none x = .error e) : Misread a e

/-- **Attributes are read as lists of flags**, each on its own. -/
theorem reads_attribute : Reads Flags.add Flagged where
  ok_iff f a f' := by
    cases hinput : a.input with
    | list d body =>
      have hlist (ws : List FlagWord) : Flagged a ws ↔ FlagList body ws := by
        refine ⟨fun h => ?_, .list hinput⟩
        obtain ⟨hinput', h⟩ := h
        cases hinput.symm.trans hinput'
        exact h
      simp only [Flags.add, hinput, readEntries_eq_foldlM, reads_entry.foldlM_eq_ok_iff, hlist,
        flagList_iff]
      constructor
      · rintro ⟨wss, hwss, rfl⟩
        exact ⟨wss.flatten, words_flatten hwss, rfl⟩
      · rintro ⟨ws, hws, rfl⟩
        refine ⟨ws.map fun w => [w], ?_, by rw [← List.flatMap_def, List.flatMap_singleton']⟩
        exact List.forall₂_map_right_iff.mpr (hws.imp fun x w hx => ⟨w, hx, rfl⟩)
    | nothing | value =>
      simp only [Flags.add, hinput]
      refine ⟨nofun, ?_⟩
      rintro ⟨ws, ⟨hinput', -⟩, -⟩
      cases hinput.symm.trans hinput'
  error_iff f a e := by
    unfold Flags.add
    cases a.input with
    | list d body =>
      simp only [readEntries_eq_foldlM]
      exact reads_entry.foldlM.error_iff f _ e
    | nothing => rfl
    | value code => rfl

/-- **Which attributes are misread, and how.** -/
theorem misread_iff {a : Attribute} {e : ArgumentError} :
    Flags.add .none a = .error e ↔ Misread a e := by
  have hentry {d : Delimiter} {body : List Token} (hinput : a.input = .list d body) :
      Flags.add .none a = .error e ↔ ∃ before x after, entries body = before ++ x :: after ∧
        (∀ b ∈ before, ∃ w, IsWord b w) ∧
        readFlag .none x = .error e := by
    simp only [Flags.add, hinput, readEntries_eq_foldlM]
    refine reads_entry.foldlM_eq_error_iff.trans ?_
    simp only [exists_comm (α := List FlagWord), exists_and_left, exists_eq, and_true]
  constructor
  · intro h
    cases hinput : a.input with
    | list d body =>
      obtain ⟨before, x, after, hentries, hbefore, hx⟩ := (hentry hinput).mp h
      exact .entry hinput hentries hbefore hx
    | nothing =>
      simp only [Flags.add, hinput, Except.error.injEq] at h
      exact h ▸ .nothing hinput
    | value code =>
      simp only [Flags.add, hinput, Except.error.injEq] at h
      exact h ▸ .value hinput
  · rintro (hinput | hinput | ⟨hinput, hentries, hbefore, hx⟩)
    · simp [Flags.add, hinput]
    · simp [Flags.add, hinput]
    · exact (hentry hinput).mpr ⟨_, _, _, hentries, hbefore, hx⟩

/-! ## Functions -/

/-- The attribute is for flags. -/
def ForFlags (a : Attribute) : Prop := a.isNamed flagAttribute = true

instance : DecidablePred ForFlags := fun _ => inferInstanceAs (Decidable (_ = true))

/-- An attribute of the function lists the flag. -/
def Marked (fn : Function) (w : FlagWord) : Prop :=
  ∃ a ∈ fn.attributes, ForFlags a ∧ ∃ ws, Flagged a ws ∧ w ∈ ws

/-- Every attribute for flags holds a list of them. -/
def WellMarked (fn : Function) : Prop :=
  ∀ a ∈ fn.attributes, ForFlags a → ∃ ws, Flagged a ws

/-- **What is reported of a function**: of its first attribute for flags that holds no list. -/
def FirstMisread (fn : Function) (e : ArgumentError) : Prop :=
  ∃ before a after, fn.attributes = before ++ a :: after ∧
    (∀ b ∈ before, ForFlags b → ∃ ws, Flagged b ws) ∧ ForFlags a ∧ Misread a e

/-- Attributes for other tools list nothing. -/
theorem reads_forFlags :
    Reads (fun f a => if a.isNamed flagAttribute then Flags.add f a else pure f)
      fun a ws => (ForFlags a → Flagged a ws) ∧ (¬ ForFlags a → ws = []) where
  ok_iff f a f' := by
    by_cases h : a.isNamed flagAttribute = true
    · simp [ForFlags, h, reads_attribute.ok_iff]
    · simp [ForFlags, h, pure, Except.pure, eq_comm]
  error_iff f a e := by
    split
    · exact reads_attribute.error_iff f a e
    · exact iff_of_false nofun nofun

variable {fn : Function} {flags : Flags} {e : ArgumentError}

theorem ofAttributes_eq_foldlM (attributes : List Attribute) : Flags.ofAttributes attributes =
    attributes.foldlM (fun f a => if a.isNamed flagAttribute then Flags.add f a else pure f)
      .none :=
  List.foldlM_filter

theorem forFlags_iff (a : Attribute) :
    (∃ ws, (ForFlags a → Flagged a ws) ∧ (¬ ForFlags a → ws = [])) ↔
      (ForFlags a → ∃ ws, Flagged a ws) := by
  by_cases h : ForFlags a <;> simp [h]

/-- **What is reported of a function.** -/
theorem ofAttributes_eq_error_iff :
    Flags.ofAttributes fn.attributes = .error e ↔ FirstMisread fn e := by
  rw [ofAttributes_eq_foldlM]
  refine reads_forFlags.foldlM_eq_error_iff.trans ?_
  have hown (a : Attribute) :
      (if a.isNamed flagAttribute then Flags.add .none a else pure .none) = .error e ↔
        ForFlags a ∧ Misread a e := by
    by_cases h : a.isNamed flagAttribute = true
    · simp [ForFlags, h, misread_iff]
    · simp [ForFlags, h, pure, Except.pure]
  simp only [forFlags_iff, hown, FirstMisread]

/-- An attribute is misread iff it holds no list. -/
theorem exists_misread_iff {a : Attribute} : (∃ e, Misread a e) ↔ ¬ ∃ ws, Flagged a ws := by
  simp only [reads_attribute.isOk_iff .none a, ne_eq, misread_iff, not_forall, not_not]

/-- The flags of a function can be read iff all of its attributes for flags hold lists. -/
theorem exists_flags_iff :
    (∃ flags, Flags.ofAttributes fn.attributes = .ok flags) ↔ WellMarked fn := by
  have hlists : (∃ flags, Flags.ofAttributes fn.attributes = .ok flags) ↔
      ∃ wss, List.Forall₂ (fun a ws => (ForFlags a → Flagged a ws) ∧ (¬ ForFlags a → ws = []))
        fn.attributes wss := by
    simp only [ofAttributes_eq_foldlM, reads_forFlags.foldlM_eq_ok_iff]
    exact ⟨fun ⟨_, wss, hwss, _⟩ => ⟨wss, hwss⟩, fun ⟨wss, hwss⟩ => ⟨_, wss, hwss, rfl⟩⟩
  rw [hlists, exists_forall₂_iff]
  simp only [forFlags_iff, WellMarked]

/-- Something is reported of a function iff not all of its attributes for flags hold lists. -/
theorem exists_firstMisread_iff : (∃ e, FirstMisread fn e) ↔ ¬ WellMarked fn := by
  rw [← exists_flags_iff]
  simp only [← ofAttributes_eq_error_iff]
  cases Flags.ofAttributes fn.attributes <;> simp

/-- Of all flags that are read, a flag is set where an attribute for flags lists it. -/
theorem has_flatten_iff {wss : List (List FlagWord)} (h : List.Forall₂ (fun a ws =>
    (ForFlags a → Flagged a ws) ∧ (¬ ForFlags a → ws = [])) fn.attributes wss) (w : FlagWord) :
    (Flags.none.marked wss.flatten).has w = true ↔ Marked fn w := by
  rw [Flags.has_marked_none, List.contains_iff_mem, List.mem_flatten]
  constructor
  · rintro ⟨ws, hws, hw⟩
    obtain ⟨i, hi⟩ := List.getElem?_of_mem hws
    obtain ⟨a, ha, hlists⟩ := forall₂_getElem? h.flip hi
    have hfor : ForFlags a := by
      by_contra hfor
      cases hlists.2 hfor ▸ hw
    exact ⟨a, List.mem_of_getElem? ha, hfor, ws, hlists.1 hfor, hw⟩
  · rintro ⟨a, ha, hfor, ws, hws, hw⟩
    obtain ⟨i, hi⟩ := List.getElem?_of_mem ha
    obtain ⟨us, hus, hlists⟩ := forall₂_getElem? h hi
    have hflags := reads_attribute.marked_eq hws (hlists.1 hfor) .none
    exact ⟨us, List.mem_of_getElem? hus, by simpa [hw] using congrArg (Flags.has · w) hflags⟩

/-- **The flags of a function**: those that its attributes list, if all of them hold lists. -/
theorem ofAttributes_eq_ok_iff : Flags.ofAttributes fn.attributes = .ok flags ↔
    WellMarked fn ∧ ∀ w, flags.has w = true ↔ Marked fn w := by
  rw [ofAttributes_eq_foldlM]
  refine reads_forFlags.foldlM_eq_ok_iff.trans ?_
  constructor
  · rintro ⟨wss, hwss, rfl⟩
    refine ⟨fun a ha => ?_, has_flatten_iff hwss⟩
    obtain ⟨i, hi⟩ := List.getElem?_of_mem ha
    obtain ⟨ws, -, hlists⟩ := forall₂_getElem? hwss hi
    exact (forFlags_iff a).mp ⟨ws, hlists⟩
  · rintro ⟨hwell, hflags⟩
    obtain ⟨read, hread⟩ := exists_flags_iff.mpr hwell
    rw [ofAttributes_eq_foldlM] at hread
    obtain ⟨wss, hwss, rfl⟩ := reads_forFlags.foldlM_eq_ok_iff.mp hread
    refine ⟨wss, hwss, Flags.ext_has fun w => Bool.eq_iff_iff.mpr ?_⟩
    rw [hflags w, has_flatten_iff hwss w]

end Interpose.Expansion
