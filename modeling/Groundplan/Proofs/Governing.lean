import Groundplan.Proofs.Dictionaries
import Groundplan.Proofs.WorkingCopies
import Mathlib.Data.List.Forall2
import Mathlib.Data.List.Induction

/-!
# Governed properties

After connecting, a property belongs to the last edge that governs it, and holds what the identity of
the node at the other end gives; everything else is as it was in the diagram. So the order of edges
matters only among those that govern one property.
-/

namespace Groundplan

theorem Member.ext_property? {a b : Member} (hbare : a.bare = b.bare)
    (h : ∀ key, a.resource.property? key = b.resource.property? key) : a = b := by
  obtain ⟨r, identity⟩ := a
  obtain ⟨s, otherIdentity⟩ := b
  obtain ⟨hresource, rfl⟩ := Member.mk.inj hbare
  obtain ⟨hid, htype, hname, _, hmodes⟩ := Resource.mk.inj hresource
  have hproperties : r.properties = s.properties := Dictionary.ext_get? h
  cases r
  cases s
  simp_all

namespace Diagram

variable (d : Diagram) (catalog : Catalog)

/-- The rule that is registered first for the types and handles at the ends of an edge. -/
def governingRule? (edge : Edge) : Option Rule := do
  let source ← d.node? edge.source
  let target ← d.node? edge.target
  catalog.rules.find? (·.endpoints ==
    ⟨source.typeId, edge.sourceHandle, target.typeId, edge.targetHandle⟩)

def identity? (id : String) : Option Identity :=
  (Member.find? (d.members catalog.types) id).map (·.identity)

/-- What an edge puts where if its governing rule creates a reference: a reference to the other end,
or the name of the other end if that has no block. -/
def injection? (edge : Edge) : Option Writing := do
  let rule ← d.governingRule? catalog edge
  let directive ← rule.reference
  let (receiver, other) := match directive.side with
    | .source => (edge.source, edge.target)
    | .target => (edge.target, edge.source)
  let identity ← d.identity? catalog other
  return {
    receiver
    key := directive.key
    value := match identity.terraformType with
      | some type => .reference
          (type ++ "." ++ identity.label ++ "." ++ directive.attributeName.getD "id")
      | none => .string identity.resolvedName }

/-- Those of some edges that govern a property of a node, in order. -/
def governing (edges : List Edge) (id key : String) : List Edge :=
  edges.filter fun edge => (d.injection? catalog edge).any fun w => w.receiver == id && w.key == key

end Diagram

theorem Identity.reference_eq (i : Identity) (name : String) :
    i.reference name = match i.terraformType with
      | some type => .reference (type ++ "." ++ i.label ++ "." ++ name)
      | none => .string i.resolvedName := by
  unfold reference address?
  cases i.terraformType <;> rfl

theorem Rule.rule?_resolve_eq_find? (rules : List Rule) (e : Endpoints) :
    (Rule.resolve rules e).rule? = rules.find? (·.endpoints == e) := by
  rw [Rule.rule?_resolve, List.head?_filter]
  rfl

namespace Diagram

variable (d : Diagram) (catalog : Catalog)

theorem map_resource_find? (id : String) :
    (Member.find? (d.members catalog.types) id).map (·.resource) = d.node? id := by
  have hnodes := map_resource_assignIdentities catalog.types d.naming [] d.nodes
  rw [node?, ← hnodes, List.find?_map]
  rfl

theorem injection?_eq_writing? (edge : Edge) :
    d.injection? catalog edge = edge.writing? catalog.rules (d.members catalog.types) := by
  unfold injection? governingRule? identity? Edge.writing?
  rw [← map_resource_find? d catalog, ← map_resource_find? d catalog]
  cases hsource : Member.find? (d.members catalog.types) edge.source with
  | none => rfl
  | some source =>
    cases htarget : Member.find? (d.members catalog.types) edge.target with
    | none => rfl
    | some target =>
      have hid : ∀ id member, Member.find? (d.members catalog.types) id = some member →
          member.resource.id = id := by
        intro id member hfound
        simpa using List.find?_some hfound
      have hsourceId := hid _ _ hsource
      have htargetId := hid _ _ htarget
      simp only [Option.map_some, Option.bind_eq_bind, Option.bind_some, ← Rule.rule?_resolve_eq_find?,
        Edge.endpoints]
      cases (Rule.resolve catalog.rules _).rule? with
      | none => rfl
      | some rule =>
        cases hreference : rule.reference with
        | none => simp [hreference]
        | some directive =>
          cases hside : directive.side with
          | source =>
            simp [hreference, ReferenceDirective.writing, hside, htarget, hsourceId,
              Identity.reference_eq]
            rfl
          | target =>
            simp [hreference, ReferenceDirective.writing, hside, hsource, htargetId,
              Identity.reference_eq]
            rfl

end Diagram

/-- Of the writings of some edges the last one to a property is that of the last edge that writes
there. -/
theorem lastWriting?_filterMap (writing? : Edge → Option Writing) (edges : List Edge)
    (id key : String) : lastWriting? (edges.filterMap writing?) id key =
      (edges.filter fun edge => (writing? edge).any fun w =>
        w.receiver == id && w.key == key).getLast?.bind writing? := by
  induction edges using List.reverseRecOn with
  | nil => rfl
  | append_singleton edges edge ih =>
    rw [lastWriting?] at ih
    rw [lastWriting?, List.filterMap_append, List.reverse_append, List.find?_append, ih,
      List.filter_append]
    cases hwriting : writing? edge with
    | none => simp [hwriting]
    | some w =>
      by_cases hplace : (w.receiver == id && w.key == key) = true
      · simp [hwriting, hplace]
      · simp [hwriting, hplace]

namespace Diagram

variable {d : Diagram} {catalog : Catalog}

theorem members_connected (hcheck : d.check = .ok ()) :
    (d.connected catalog).members = (d.members catalog.types).map fun member =>
      (d.writings catalog).foldl Member.receive member :=
  members_connectAll catalog.rules (nodup_id_members catalog hcheck) d.edges

theorem lastWriting?_writings (d : Diagram) (catalog : Catalog) (id key : String) :
    lastWriting? (d.writings catalog) id key =
      (d.governing catalog d.edges id key).getLast?.bind (d.injection? catalog) := by
  have hwritings : d.writings catalog = d.edges.filterMap (d.injection? catalog) := by
    rw [writings]
    exact congrArg (d.edges.filterMap ·) (funext fun edge => (d.injection?_eq_writing? catalog edge).symm)
  rw [hwritings, lastWriting?_filterMap]
  rfl

/-- What a member of a diagram has become after all edges: the properties that edges govern hold what
the last of them puts there, and nothing else has changed. -/
structure Connected (d : Diagram) (catalog : Catalog) (node : Resource) (member : Member) : Prop where
  id_eq : member.resource.id = node.id
  typeId_eq : member.resource.typeId = node.typeId
  name_eq : member.resource.name = node.name
  modes_eq : member.resource.modes = node.modes
  governed : ∀ key edge, (d.governing catalog d.edges node.id key).getLast? = some edge →
    ∃ w, d.injection? catalog edge = some w ∧ w.receiver = node.id ∧ w.key = key ∧
      member.resource.property? key = some w.value
  kept : ∀ key, d.governing catalog d.edges node.id key = [] →
    member.resource.property? key = node.property? key

theorem connected_foldl_receive (d : Diagram) (catalog : Catalog) (member : Member) :
    d.Connected catalog member.resource ((d.writings catalog).foldl Member.receive member) := by
  have hbare := Member.bare_foldl_receive (d.writings catalog) member
  have hproperty := Member.property?_foldl_receive (d.writings catalog) member
  constructor
  · exact Member.id_eq_of_bare hbare
  · exact Member.typeId_eq_of_bare hbare
  · exact congrArg (·.resource.name) hbare
  · exact congrArg (·.resource.modes) hbare
  · intro key edge hlast
    have hgoverns := (List.mem_filter.mp (List.mem_of_getLast? hlast)).2
    cases hw : d.injection? catalog edge with
    | none =>
      rw [hw] at hgoverns
      cases hgoverns
    | some w =>
      have hplace : w.receiver = member.resource.id ∧ w.key = key := by simpa [hw] using hgoverns
      refine ⟨w, rfl, hplace.1, hplace.2, ?_⟩
      rw [hproperty, lastWriting?_writings, hlast, Option.bind_some, hw]
      rfl
  · intro key hnone
    rw [hproperty, lastWriting?_writings, hnone]
    rfl

theorem check_of_subset {edges : List Edge} (hcheck : d.check = .ok ()) (hsubset : edges ⊆ d.edges) :
    { d with edges }.check = .ok () := by
  obtain ⟨hnodes, hends⟩ := check_eq_ok_iff.mp hcheck
  exact check_eq_ok_iff.mpr ⟨hnodes, fun edge hedge => hends edge (hsubset hedge)⟩

theorem check_of_perm {edges : List Edge} (hcheck : d.check = .ok ()) (hperm : edges.Perm d.edges) :
    { d with edges }.check = .ok () :=
  check_of_subset hcheck hperm.subset

/-- Edges that keep the order among those that govern one property leave the same behind. -/
theorem members_connected_of_governing_eq (hcheck : d.check = .ok ()) {edges : List Edge}
    (hperm : edges.Perm d.edges)
    (horder : ∀ id key, d.governing catalog edges id key = d.governing catalog d.edges id key) :
    ({ d with edges }.connected catalog).members = (d.connected catalog).members := by
  rw [members_connected (check_of_perm hcheck hperm), members_connected hcheck]
  apply List.map_congr_left
  intro member _
  apply Member.ext_property?
  · rw [Member.bare_foldl_receive, Member.bare_foldl_receive]
  · intro key
    have hlast : lastWriting? ({ d with edges }.writings catalog) member.resource.id key =
        lastWriting? (d.writings catalog) member.resource.id key := by
      rw [lastWriting?_writings, lastWriting?_writings, ← horder]
      rfl
    rw [Member.property?_foldl_receive, Member.property?_foldl_receive, hlast]

/-- The configuration depends on the edges through what they leave behind, its findings apart. -/
theorem compileConsistent_of_members_eq {edges : List Edge}
    (h : ({ d with edges }.connected catalog).members = (d.connected catalog).members) :
    { d with edges }.compileConsistent catalog = { d.compileConsistent catalog with
      findings := ({ d with edges }.compileConsistent catalog).findings } := by
  have hfilled : ({ d with edges }.connected catalog).filled catalog.types =
      (d.connected catalog).filled catalog.types := by
    rw [Connecting.filled, h]
    rfl
  unfold compileConsistent
  dsimp only
  rw [hfilled]
  rfl

end Diagram

/-- After connecting, the last edge that governs a property has its way and everything else is as in
the diagram; the other edges may come in any order. -/
theorem compile_follows_last_edges (d : Diagram) (catalog : Catalog) (hcheck : d.check = .ok ()) :
    List.Forall₂ (d.Connected catalog) d.nodes (d.connected catalog).members ∧
      ∀ edges : List Edge, edges.Perm d.edges →
        (∀ id key, d.governing catalog edges id key = d.governing catalog d.edges id key) →
        ({ d with edges }.connected catalog).members = (d.connected catalog).members ∧
          ∃ c other, d.compile catalog = .ok c ∧ { d with edges }.compile catalog = .ok other ∧
            other = { c with findings := other.findings } ∧ other.document = c.document := by
  constructor
  · have hnodes : d.nodes = (d.members catalog.types).map (·.resource) :=
      (map_resource_assignIdentities catalog.types d.naming [] d.nodes).symm
    rw [Diagram.members_connected hcheck, hnodes, List.forall₂_map_left_iff,
      List.forall₂_map_right_iff, List.forall₂_same]
    intro member _
    exact d.connected_foldl_receive catalog member
  · intro edges hperm horder
    have hmembers := Diagram.members_connected_of_governing_eq hcheck hperm horder
    have hcompiled := Diagram.compileConsistent_of_members_eq hmembers
    refine ⟨hmembers, _, _, Diagram.compile_eq_ok_iff.mpr ⟨hcheck, rfl⟩,
      Diagram.compile_eq_ok_iff.mpr ⟨Diagram.check_of_perm hcheck hperm, rfl⟩, hcompiled, ?_⟩
    rw [hcompiled]
    rfl

def pumpType : ResourceType where
  typeId := "plant/pump"
  provider := "plant"
  terraformType := some "plant_pump"

/-- Two rules for one kind of edge, of which the first governs, and one for tanks, which emit no
block. -/
def pumpCatalog : Catalog where
  types := Registry.register .empty pumpType
  rules :=
    [{ endpoints := ⟨"plant/pump", "out", "plant/pump", "in"⟩, reference := some ⟨.target, "feed", none⟩ },
     { endpoints := ⟨"plant/pump", "out", "plant/pump", "in"⟩, reference := some ⟨.source, "drain", none⟩ },
     { endpoints := ⟨"plant/tank", "out", "plant/pump", "in"⟩, reference := some ⟨.target, "feed", none⟩ }]

def pumpEdge (source target : String) : Edge := ⟨"pipe", source, "out", target, "in"⟩

/-- A pump that feeds itself until another pump does. -/
def fedPump : Resource where
  id := "a"
  typeId := "plant/pump"
  name := "main"
  properties := Dictionary.empty.insert "feed" (.string "well")

/-- Two pumps of one name and a tank that feeds the second one; all edges share an id. -/
def pumpDiagram : Diagram where
  nodes :=
    [fedPump, { id := "b", typeId := "plant/pump", name := "main" },
     { id := "t", typeId := "plant/tank", name := "tank" }]
  edges := [pumpEdge "a" "a", pumpEdge "b" "a", pumpEdge "t" "b"]

theorem compile_follows_last_edges_pumps :
    pumpDiagram.check = .ok () ∧
    (∃ member ∈ (pumpDiagram.connected pumpCatalog).members, member.resource.id = "a" ∧
      member.resource.property? "feed" = some (.reference "plant_pump.main_2.id")) ∧
    ∃ c other, pumpDiagram.compile pumpCatalog = .ok c ∧
      { pumpDiagram with edges := [pumpEdge "t" "b", pumpEdge "a" "a", pumpEdge "b" "a"] }.compile
        pumpCatalog = .ok other ∧ other.document = c.document := by
  have hcheck : pumpDiagram.check = .ok () := by decide
  have hloop : pumpDiagram.injection? pumpCatalog (pumpEdge "a" "a") =
      some ⟨"a", "feed", .reference "plant_pump.main.id"⟩ := rfl
  have hpump : pumpDiagram.injection? pumpCatalog (pumpEdge "b" "a") =
      some ⟨"a", "feed", .reference "plant_pump.main_2.id"⟩ := rfl
  have htank : pumpDiagram.injection? pumpCatalog (pumpEdge "t" "b") =
      some ⟨"b", "feed", .string "tank"⟩ := rfl
  have hedges : pumpDiagram.edges = [pumpEdge "a" "a", pumpEdge "b" "a", pumpEdge "t" "b"] := rfl
  obtain ⟨hall, horder⟩ := compile_follows_last_edges pumpDiagram pumpCatalog hcheck
  refine ⟨hcheck, ?_, ?_⟩
  · obtain ⟨member, hmember, hconnected⟩ : ∃ member ∈ (pumpDiagram.connected pumpCatalog).members,
        pumpDiagram.Connected pumpCatalog fedPump member := by
      cases hall with
      | cons h _ => exact ⟨_, List.mem_cons_self, h⟩
    obtain ⟨w, hw, _, _, hvalue⟩ := hconnected.governed "feed" (pumpEdge "b" "a") rfl
    rw [hpump] at hw
    cases hw
    exact ⟨member, hmember, hconnected.id_eq, hvalue⟩
  · have hgoverning : ∀ id key, pumpDiagram.governing pumpCatalog
        [pumpEdge "t" "b", pumpEdge "a" "a", pumpEdge "b" "a"] id key =
          pumpDiagram.governing pumpCatalog pumpDiagram.edges id key := by
      intro id key
      rw [hedges]
      by_cases hid : "b" = id
      · subst hid
        simp [Diagram.governing, List.filter_cons, hloop, hpump, htank]
      · simp [Diagram.governing, List.filter_cons, hloop, hpump, htank, hid]
    obtain ⟨_, c, other, hc, hother, _, hdocument⟩ := horder _ (by decide) hgoverning
    exact ⟨c, other, hc, hother, hdocument⟩

end Groundplan
