import Interpose.Completion
import Interpose.Surface

/-!
# Scripted target types

A small language for the methods and constructors of target types. A scripted object is a list
of cells; a body is a list of instructions that read the arguments and the cells, may change the
cells where they may be changed, and end with a result, a failure or a panic.

The types declare their surfaces by the builders that `Interpose.Surface` models (`TypeDecl`,
`ConstructorDecl`, `MethodDecl` of `veneer_engine::decl`).

* `TypeScript.surface` : the declared surface that a type script stands for.
-/

namespace Interpose.Session

open Interpose

/-- The state of a scripted object. -/
structure Scripted where
  cells : List Value
  /-- Serial number of the next handle that the object makes. -/
  supply : HostType.Supply

/-- An object with the given cells that has made no handle yet. Handles that come from outside
have serial number zero. -/
def Scripted.ofCells (cells : List Value) : Scripted := ⟨cells, 1⟩

/-- The object of the default state. -/
def Scripted.initial : Scripted := .ofCells []

/-- An expression over arguments and cells. -/
inductive Expr where
  | literal (v : Value)
  /-- The argument at an index; its absence is a failure. -/
  | argument (index : Nat)
  /-- All arguments as a list. -/
  | arguments
  /-- The number of cells. -/
  | size
  /-- The cells as a list. -/
  | cells
  /-- The last cell, or null. -/
  | last
  /-- The cell at an index, or null. -/
  | cell (index : Nat)
  /-- Does a cell equal the value? -/
  | contains (e : Expr)
  | equal (a b : Expr)
  /-- The value read as a host value and written again. -/
  | recode (t : HostType) (e : Expr)

/-- A value, and the supply that is left, or a failure. -/
abbrev Evaluated := Except Failure (Value × HostType.Supply)

/-- The value of an expression. -/
def Expr.eval (args cells : List Value) : Expr → HostType.Supply → Evaluated
  | .literal v, supply => .ok (v, supply)
  | .argument index, supply => (Interpose.argument .value args index).map (·, supply)
  | .arguments, supply => .ok (.list args, supply)
  | .size, supply => .ok (.uint (UInt64.ofNat cells.length), supply)
  | .cells, supply => .ok (.list cells, supply)
  | .last, supply => .ok (cells.getLast?.getD .null, supply)
  | .cell index, supply => .ok (cells[index]?.getD .null, supply)
  | .contains e, supply =>
    (e.eval args cells supply).map fun (v, supply) => (.bool (cells.any fun c => c.same v), supply)
  | .equal a b, supply =>
    match a.eval args cells supply with
    | .error f => .error f
    | .ok (x, supply) =>
      (b.eval args cells supply).map fun (y, supply) => (.bool (x.same y), supply)
  | .recode t e, supply =>
    match e.eval args cells supply with
    | .error f => .error f
    | .ok (v, supply) => (t.recode v supply).mapError fun e => .raised (.conversion e)

/-- An instruction of a body. -/
inductive Instr where
  /-- Removes all cells. -/
  | clear
  /-- Removes the last cell. -/
  | pop
  /-- Adds a cell. -/
  | push (e : Expr)
  /-- Ends the body with a result. -/
  | give (e : Expr)
  /-- Ends the body with a failure. -/
  | fail (f : Failure)
  /-- Ends the body with a panic. -/
  | panic (p : Payload)
  /-- Reads the arguments as host values, for the failures alone. -/
  | decode (types : List HostType)
  /-- Takes the first branch when the value is `true`, the second otherwise. -/
  | branch (condition : Expr) (yes no : List Instr)

/-- Where a body stands after an instruction. -/
inductive Flow where
  | next
  | done (v : Value)
  | failed (f : Failure)
  | panicked (p : Payload)

/-- The first failure of reading arguments as host values, from the given index on. -/
def decodeFailure? (args : List Value) : List HostType → Nat → Option Failure
  | [], _ => none
  | t :: rest, index =>
    match argument t args index with
    | .ok _ => decodeFailure? args rest (index + 1)
    | .error f => some f

/-- Replaces the cells if they may be changed. -/
def Scripted.change (o : Scripted) (mayChange : Bool) (cells : List Value) : Scripted :=
  if mayChange then { o with cells } else o

mutual

/-- Runs one instruction. -/
def Instr.run (mayChange : Bool) (args : List Value) : Instr → Scripted → Flow × Scripted
  | .clear, o => (.next, o.change mayChange [])
  | .pop, o => (.next, o.change mayChange o.cells.dropLast)
  | .push e, o =>
    match e.eval args o.cells o.supply with
    | .ok (v, supply) => (.next, { o with supply }.change mayChange (o.cells ++ [v]))
    | .error f => (.failed f, o)
  | .give e, o =>
    match e.eval args o.cells o.supply with
    | .ok (v, supply) => (.done v, { o with supply })
    | .error f => (.failed f, o)
  | .fail f, o => (.failed f, o)
  | .panic p, o => (.panicked p, o)
  | .decode types, o =>
    match decodeFailure? args types 0 with
    | some f => (.failed f, o)
    | none => (.next, o)
  | .branch condition yes no, o =>
    match condition.eval args o.cells o.supply with
    | .ok (v, supply) =>
      if v.same (.bool true) then Instr.runAll mayChange args yes { o with supply }
      else Instr.runAll mayChange args no { o with supply }
    | .error f => (.failed f, o)

/-- Runs instructions in order until one ends the body. -/
def Instr.runAll (mayChange : Bool) (args : List Value) : List Instr → Scripted → Flow × Scripted
  | [], o => (.next, o)
  | i :: rest, o =>
    match i.run mayChange args o with
    | (.next, o) => Instr.runAll mayChange args rest o
    | ended => ended

end

/-- The reply of a method's body: without a result it is null. -/
def Flow.reply : Flow → Reply Value
  | .next => .ok .null
  | .done v => .ok v
  | .failed f => .failed f
  | .panicked p => .panicked p

/-- The implementation that a body stands for. Only exclusive access changes cells. -/
def bodyOriginal (needs : Access) (body : List Instr) : Original Scripted :=
  { needs
    run := fun o args =>
      let (flow, o) := Instr.runAll (needs = .exclusive) args body o
      (flow.reply, o) }

/-- The constructor that a body stands for: it starts without cells and its result is not used. -/
def bodyBuild (body : List Instr) (args : List Value) : Reply Scripted :=
  match Instr.runAll true args body .initial with
  | (.next, o) | (.done _, o) => .ok o
  | (.failed f, _) => .failed f
  | (.panicked p, _) => .panicked p

/-- A scripted constructor. -/
structure ConstructorScript where
  name : String
  params : List Param
  visibility : Visibility
  /-- Is it without an implementation on values? -/
  isHidden : Bool
  body : List Instr

/-- A scripted method. -/
structure MethodScript where
  signature : Signature
  /-- The access that the implementation needs, if there is one. -/
  needs : Option Access
  body : List Instr

/-- A scripted target type. -/
structure TypeScript where
  qualified : String
  simple : String
  isSealed : Bool
  constructors : List ConstructorScript
  methods : List MethodScript

/-- The declared surface of a scripted type. -/
def TypeScript.surface (t : TypeScript) (type : Tag) : Surface Scripted :=
  { type
    qualified := t.qualified
    simple := t.simple
    isSealed := t.isSealed
    constructors := t.constructors.map fun c =>
      ⟨c.name, c.params, c.visibility, if c.isHidden then none else some (bodyBuild c.body)⟩
    methods := t.methods.map fun m =>
      ⟨m.signature, m.needs.map fun needs => bodyOriginal needs m.body⟩ }

end Interpose.Session
