/-!
# Registers

What a session keeps by name: at most one thing per name, in the order of first use.
-/

namespace Interpose.Session

/-- Things kept by name. -/
structure Register (κ α : Type) where
  rows : List (κ × α)

namespace Register

variable {κ α : Type} [BEq κ]

/-- The register without rows. -/
def empty : Register κ α := ⟨[]⟩

/-- What is kept under the name. -/
def get? (r : Register κ α) (name : κ) : Option α := r.rows.lookup name

/-- Keeps `a` under the name, in place of what was kept there. -/
def put (r : Register κ α) (name : κ) (a : α) : Register κ α :=
  if (r.get? name).isSome then
    ⟨r.rows.map fun row => if row.1 == name then (name, a) else row⟩
  else ⟨r.rows ++ [(name, a)]⟩

/-- Keeps `a` if a name is given. -/
def keep (r : Register κ α) (name : Option κ) (a : α) : Register κ α :=
  match name with
  | some name => r.put name a
  | none => r

/-- Drops what is kept under the name. -/
def remove (r : Register κ α) (name : κ) : Register κ α :=
  ⟨r.rows.filter fun row => !(row.1 == name)⟩

/-- Everything that is kept. -/
def values (r : Register κ α) : List α := r.rows.map Prod.snd

end Register

end Interpose.Session
