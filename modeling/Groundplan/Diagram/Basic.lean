import Groundplan.Diagram.Resource

/-!
# Diagrams

A diagram as it is handed to the compiler: its resources in the order of their creation, the edges
between them, the naming convention and the settings of the project. A diagram is consistent if no
two resources share an id and every edge ends at resources that exist.
-/

namespace Groundplan

/-- How the names of resources are formed. The template holds tokens in braces; a token whose field
is absent stands for itself. -/
structure Naming where
  enabled : Bool := false
  template : String := "\x7bname\x7d"
  env : Option String := none
  region : Option String := none
  org : Option String := none
deriving DecidableEq, Repr, Inhabited

/-- Where the state of the infrastructure is kept. -/
structure Backend where
  type : String
  config : Dictionary String := .empty
deriving DecidableEq, Inhabited

structure Project where
  /-- The user's settings of each provider. -/
  providerConfigs : Dictionary (Dictionary Property) := .empty
  /-- The tags that every resource carries. -/
  commonTags : Dictionary String := .empty
  terraformVersion : String := ">= 1.0"
  backend : Option Backend := none
  variableValues : Dictionary String := .empty
deriving DecidableEq, Inhabited

namespace Project

def addTag (p : Project) (key value : String) : Project :=
  { p with commonTags := p.commonTags.insert key value }

def addVariableValue (p : Project) (name value : String) : Project :=
  { p with variableValues := p.variableValues.insert name value }

def addProviderSetting (p : Project) (provider key : String) (value : Property) : Project :=
  let settings := (p.providerConfigs.get? provider).getD .empty
  { p with providerConfigs := p.providerConfigs.insert provider (settings.insert key value) }

end Project

structure Diagram where
  nodes : List Resource := []
  edges : List Edge := []
  naming : Naming := {}
  project : Project := {}
deriving DecidableEq, Inhabited

/-- Why a diagram cannot be compiled at all. -/
inductive Inconsistency where
  | duplicateNode (id : String)
  | danglingEdge (edge node : String)
deriving DecidableEq, Repr

def Inconsistency.message : Inconsistency → String
  | .duplicateNode id => "Invalid diagram snapshot: duplicate node id '" ++ id ++ "'"
  | .danglingEdge edge node =>
    "Invalid diagram snapshot: edge '" ++ edge ++ "' references non-existent node '" ++ node ++ "'"

namespace Diagram

def node? (d : Diagram) (id : String) : Option Resource := d.nodes.find? (·.id == id)

/-- The first id that stands a second time in the list. -/
def firstRepeated (seen : List String) : List String → Option String
  | [] => none
  | id :: ids => if seen.contains id then some id else firstRepeated (id :: seen) ids

/-- The end of an edge at which there is no resource, the source before the target. -/
def danglingEnd (ids : List String) (edge : Edge) : Option String :=
  [edge.source, edge.target].find? fun node => !ids.contains node

/-- The first fault of a diagram: ids are looked at before edges. -/
def check (d : Diagram) : Except Inconsistency Unit :=
  let ids := d.nodes.map (·.id)
  match firstRepeated [] ids with
  | some id => .error (.duplicateNode id)
  | none =>
    match d.edges.findSome? fun edge => (danglingEnd ids edge).map (edge.id, ·) with
    | some (edge, node) => .error (.danglingEdge edge node)
    | none => .ok ()

theorem firstRepeated_eq_none_iff {seen ids : List String} :
    firstRepeated seen ids = none ↔ ids.Nodup ∧ ∀ id ∈ ids, id ∉ seen := by
  induction ids generalizing seen with
  | nil => simp [firstRepeated]
  | cons id ids ih =>
    by_cases h : id ∈ seen
    · simp [firstRepeated, h]
    · simp only [firstRepeated, List.contains_eq_mem, h, decide_false, Bool.false_eq_true, if_false,
        ih, List.nodup_cons, List.mem_cons, not_or, forall_eq_or_imp, not_false_eq_true, true_and]
      constructor
      · rintro ⟨hids, hseen⟩
        exact ⟨⟨fun hid => (hseen id hid).1 rfl, hids⟩, fun other hother => (hseen other hother).2⟩
      · rintro ⟨⟨hid, hids⟩, hseen⟩
        exact ⟨hids, fun other hother => ⟨fun heq => hid (heq ▸ hother), hseen other hother⟩⟩

end Diagram

end Groundplan
