import Groundplan.Naming.Template
import Groundplan.Text.Lowercase

/-!
# Naming constraints

The limits that a type of resource puts on names. They shape what a template produces; a name that
the user has chosen while the convention is off is left alone.
-/

namespace Groundplan

/-- The limits on the names of a type of resource. -/
structure NamingConstraints where
  lowercase : Bool := false
  noHyphens : Bool := false
  maxLength : Option Nat := none
deriving DecidableEq, Repr, Inhabited

namespace NamingConstraints

def lower (c : NamingConstraints) (name : String) : String :=
  if c.lowercase then Text.lowercase name else name

def dropHyphens (c : NamingConstraints) (name : String) : String :=
  if c.noHyphens then String.ofList (name.toList.filter (· != '-')) else name

/-- The name cut off after the greatest number of characters. -/
def truncate (c : NamingConstraints) (name : String) : String :=
  match c.maxLength with
  | some length => String.ofList (name.toList.take length)
  | none => name

/-- The name in lowercase, then without hyphens, then cut off, as far as each is asked for. -/
def apply (c : NamingConstraints) (name : String) : String :=
  c.truncate (c.dropHyphens (c.lower name))

theorem length_truncate_le {c : NamingConstraints} {length : Nat} (h : c.maxLength = some length)
    (name : String) : (c.truncate name).toList.length ≤ length := by
  simp only [truncate, h, String.toList_ofList]
  exact List.length_take_le length name.toList

end NamingConstraints

namespace Naming

def resolve (n : Naming) (constraints : Option NamingConstraints) (name : String) : String :=
  if n.enabled then
    match constraints with
    | some c => c.apply (n.expand name)
    | none => n.expand name
  else name

end Naming

end Groundplan
