import Groundplan.Proofs.Agreement
import Groundplan.Proofs.Composition
import Groundplan.Proofs.Course
import Groundplan.Proofs.Providing

/-!
# Conservative extensions

Two catalogs give the same configuration if they agree on what a diagram asks of them: the types of
its nodes, the rules that govern its edges, and the definitions of the providers it needs. A plugin
that brings none of these leaves the configuration as it is, and what it may add to the findings is
that a rule or a definition is no longer the only one.
-/

namespace Groundplan

/-- The findings that are not about a choice among several rules or several values. -/
def Finding.undisputed (findings : List Finding) : List Finding :=
  findings.filter fun f => f.kind != .ambiguousRule && f.kind != .duplicateProvider

@[simp] theorem Finding.undisputed_append (first second : List Finding) :
    undisputed (first ++ second) = undisputed first ++ undisputed second :=
  List.filter_append first second

theorem Finding.OfKinds.undisputed_eq_nil {kinds : List FindingKind} {findings : List Finding}
    (h : OfKinds kinds findings) (hkinds : kinds ⊆ [.ambiguousRule, .duplicateProvider]) :
    undisputed findings = [] := by
  rw [undisputed, List.filter_eq_nil_iff]
  intro f hf
  have hkind := hkinds (h f hf).1
  simp only [List.mem_cons, List.not_mem_nil, or_false] at hkind
  rcases hkind with hkind | hkind <;> simp [hkind]

theorem Resolution.undisputed_findings_eq {r s : Resolution} (h : r.rule? = s.rule?) (edge : Edge)
    (endpoints : Endpoints) : Finding.undisputed (r.findings edge endpoints) =
      Finding.undisputed (s.findings edge endpoints) := by
  cases r <;> cases s <;> first | rfl | cases h

theorem undisputed_courseFindings_eq (start : Values) {resolution other : Edge → List Finding}
    {inject? otherInject? : Edge → Option Writing} {edges : List Edge} (before : List Writing)
    (hresolution : ∀ edge ∈ edges,
      Finding.undisputed (other edge) = Finding.undisputed (resolution edge))
    (hinject : ∀ edge ∈ edges, otherInject? edge = inject? edge) :
    Finding.undisputed (courseFindings start other otherInject? before edges) =
      Finding.undisputed (courseFindings start resolution inject? before edges) := by
  induction edges generalizing before with
  | nil => rfl
  | cons edge edges ih =>
    simp only [courseFindings, Finding.undisputed_append]
    rw [hresolution edge List.mem_cons_self, hinject edge List.mem_cons_self,
      ih _ (fun e he => hresolution e (List.mem_cons_of_mem _ he))
        fun e he => hinject e (List.mem_cons_of_mem _ he)]

/-- Whether two catalogs agree on all that a diagram asks of them. -/
structure Catalog.AgreesOn (catalog other : Catalog) (d : Diagram) : Prop where
  type_eq : ∀ node ∈ d.nodes, other.types.get? node.typeId = catalog.types.get? node.typeId
  rule_eq : ∀ edge ∈ d.edges, ∀ source ∈ d.nodes, ∀ target ∈ d.nodes, source.id = edge.source →
    target.id = edge.target → (Rule.resolve other.rules (edge.endpoints source target)).rule? =
      (Rule.resolve catalog.rules (edge.endpoints source target)).rule?
  needed_eq : ∀ node ∈ d.nodes, other.needed? node = catalog.needed? node

theorem assignIdentities_congr {types other : Registry} {nodes : List Resource}
    (h : ∀ node ∈ nodes, other.get? node.typeId = types.get? node.typeId) (naming : Naming)
    (taken : List String) :
    assignIdentities other naming taken nodes = assignIdentities types naming taken nodes := by
  induction nodes generalizing taken with
  | nil => rfl
  | cons node nodes ih =>
    simp only [assignIdentities, h node List.mem_cons_self,
      ih fun n hn => h n (List.mem_cons_of_mem _ hn)]

namespace Catalog.AgreesOn

variable {catalog other : Catalog} {d : Diagram} (h : catalog.AgreesOn other d)

include h

theorem members_eq : d.members other.types = d.members catalog.types :=
  assignIdentities_congr h.type_eq d.naming []

/-- The governing rule of an edge between two members of the diagram is the same. -/
theorem rule?_resolve_eq {edge : Edge} (hedge : edge ∈ d.edges) {source target : Member}
    (hs : Member.find? (d.members catalog.types) edge.source = some source)
    (ht : Member.find? (d.members catalog.types) edge.target = some target) :
    (Rule.resolve other.rules (edge.endpoints source.resource target.resource)).rule? =
      (Rule.resolve catalog.rules (edge.endpoints source.resource target.resource)).rule? :=
  h.rule_eq edge hedge _ (Diagram.mem_nodes_of_mem_members (List.mem_of_find?_eq_some hs))
    _ (Diagram.mem_nodes_of_mem_members (List.mem_of_find?_eq_some ht))
    (by simpa using List.find?_some hs) (by simpa using List.find?_some ht)

theorem writing?_eq {edge : Edge} (hedge : edge ∈ d.edges) :
    edge.writing? other.rules (d.members catalog.types) =
      edge.writing? catalog.rules (d.members catalog.types) := by
  unfold Edge.writing?
  split
  · rename_i source target hs ht
    rw [h.rule?_resolve_eq hedge hs ht]
  · rfl

theorem undisputed_resolutionFindings_eq {edge : Edge} (hedge : edge ∈ d.edges) :
    Finding.undisputed (edge.resolutionFindings other.rules (d.members catalog.types)) =
      Finding.undisputed (edge.resolutionFindings catalog.rules (d.members catalog.types)) := by
  unfold Edge.resolutionFindings
  split
  · rename_i source target hs ht
    exact Resolution.undisputed_findings_eq (h.rule?_resolve_eq hedge hs ht) edge _
  · rfl

theorem writings_eq : d.writings other = d.writings catalog := by
  rw [Diagram.writings, Diagram.writings, h.members_eq]
  exact List.filterMap_congr fun edge hedge => h.writing?_eq hedge

theorem filled_eq (hcheck : d.check = .ok ()) :
    (d.connected other).filled other.types = (d.connected catalog).filled catalog.types := by
  rw [Connecting.filled, Connecting.filled, Diagram.members_connected hcheck,
    Diagram.members_connected hcheck, h.members_eq, h.writings_eq, List.map_map, List.map_map]
  apply List.map_congr_left
  intro member hmember
  have htype := h.type_eq _ (Diagram.mem_nodes_of_mem_members hmember)
  have hid := Member.typeId_eq_of_bare (Member.bare_foldl_receive (d.writings catalog) member)
  rw [← hid] at htype
  rw [Function.comp_apply, Function.comp_apply, Member.withDefaults, Member.withDefaults, htype]

theorem working_eq (hcheck : d.check = .ok ()) : d.working other = d.working catalog := by
  rw [Diagram.working, Diagram.working, h.filled_eq hcheck]

end Catalog.AgreesOn

theorem Diagram.exists_node_of_mem_working {d : Diagram} {catalog : Catalog}
    (hcheck : d.check = .ok ()) {m : Member} (hm : m ∈ d.working catalog) :
    ∃ node ∈ d.nodes, m.resource.typeId = node.typeId := by
  rw [Diagram.working_eq catalog hcheck] at hm
  obtain ⟨member, hmember, rfl⟩ := List.mem_map.mp hm
  exact ⟨member.resource, mem_nodes_of_mem_members hmember, d.typeId_workingCopy catalog member⟩

namespace Catalog.AgreesOn

variable {catalog other : Catalog} {d : Diagram} (h : catalog.AgreesOn other d)
  (hcheck : d.check = .ok ())

include h hcheck

theorem type_eq_working {m : Member} (hm : m ∈ d.working catalog) :
    other.types.get? m.resource.typeId = catalog.types.get? m.resource.typeId := by
  obtain ⟨node, hnode, htype⟩ := Diagram.exists_node_of_mem_working hcheck hm
  rw [htype, h.type_eq node hnode]

theorem needed_eq_working {m : Member} (hm : m ∈ d.working catalog) :
    other.needed? m.resource = catalog.needed? m.resource := by
  obtain ⟨node, hnode, htype⟩ := Diagram.exists_node_of_mem_working hcheck hm
  have hneeded := h.needed_eq node hnode
  rwa [needed?, needed?, ← htype] at hneeded

theorem generation_eq {m : Member} (hm : m ∈ d.working catalog) :
    d.generation other m = d.generation catalog m := by
  simp only [Diagram.generation, Member.generation, Registry.resolve, h.type_eq_working hcheck hm,
    h.working_eq hcheck]

theorem failure?_eq {m : Member} (hm : m ∈ d.working catalog) :
    m.failure? other.types d (d.working catalog) =
      m.failure? catalog.types d (d.working catalog) := by
  simp only [Member.failure?, Member.generation, Registry.resolve, h.type_eq_working hcheck hm]

theorem successes_eq : d.successes other = d.successes catalog := by
  rw [Diagram.successes, Diagram.successes, h.working_eq hcheck]
  exact List.filter_congr fun m hm => by rw [h.generation_eq hcheck hm]

theorem build_fst_eq :
    (ProviderBlocks.build other d.project ((d.working catalog).map (·.resource))).1 =
      (ProviderBlocks.build catalog d.project ((d.working catalog).map (·.resource))).1 := by
  have hactive : other.active ((d.working catalog).map (·.resource)) =
      catalog.active ((d.working catalog).map (·.resource)) := by
    rw [active, active, List.filterMap_map, List.filterMap_map]
    exact congrArg _ (List.filterMap_congr fun m hm => h.needed_eq_working hcheck hm)
  have hsettled : other.settled d.project ((d.working catalog).map (·.resource)) =
      catalog.settled d.project ((d.working catalog).map (·.resource)) := by
    rw [settled, settled, hactive, List.foldl_map, List.foldl_map]
    apply List.foldl_ext
    intro state m hm
    rw [Settling.supplyAll, Settling.supplyAll, h.type_eq_working hcheck hm]
  rw [ProviderBlocks.build_fst, ProviderBlocks.build_fst, hactive, hsettled]

/-- Catalogs that agree on a diagram give the same configuration. -/
theorem writtenAlike : (d.compileConsistent catalog).WrittenAlike (d.compileConsistent other) := by
  have hsuccess : ∀ m ∈ d.successes catalog, d.generation other m = d.generation catalog m :=
    fun m hm => h.generation_eq hcheck (List.mem_filter.mp hm).1
  apply Diagram.writtenAlike_of_successes (φ := id) rfl
  · rw [h.working_eq hcheck, h.build_fst_eq hcheck]
  · rw [h.successes_eq hcheck, List.map_id]
  · exact fun m hm => congrArg (·.declared) (hsuccess m hm)
  · exact fun m hm => congrArg (·.results) (hsuccess m hm)

theorem undisputed_findings_eq : Finding.undisputed (d.compileConsistent other).findings =
    Finding.undisputed (d.compileConsistent catalog).findings := by
  have hn := Diagram.nodup_id_members catalog hcheck
  have hconnected : Finding.undisputed (d.connected other).findings =
      Finding.undisputed (d.connected catalog).findings := by
    rw [Diagram.connected, Diagram.connected, h.members_eq, findings_connectAll _ hn,
      findings_connectAll _ hn]
    exact undisputed_courseFindings_eq _ []
      (fun edge hedge => h.undisputed_resolutionFindings_eq hedge)
      fun edge hedge => h.writing?_eq hedge
  have hproviders : ∀ c : Catalog, ∀ resources, Finding.undisputed
      (ProviderBlocks.build c d.project resources).2 = [] := fun c resources =>
    (ProviderBlocks.ofKinds_build c d.project resources).undisputed_eq_nil (by simp)
  have hfailures : (d.working catalog).filterMap
      (·.failure? other.types d (d.working catalog)) =
        (d.working catalog).filterMap (·.failure? catalog.types d (d.working catalog)) :=
    List.filterMap_congr fun m hm => h.failure?_eq hcheck hm
  rw [Diagram.findings_compileConsistent, Diagram.findings_compileConsistent,
    h.filled_eq hcheck, h.working_eq hcheck, hfailures]
  simp only [Finding.undisputed_append, hconnected, hproviders]

end Catalog.AgreesOn

/-- Whether a plugin that comes after others brings nothing that a diagram needs: no type of its
nodes, no rule for an edge that has none yet, and no definition of a provider that is in use and not
defined yet. -/
structure Plugin.Unneeded (q : Plugin) (plugins : List Plugin) (d : Diagram) : Prop where
  types_unused : ∀ type ∈ q.ownTypes, ∀ node ∈ d.nodes, node.typeId ≠ type.typeId
  rules_known : ∀ edge ∈ d.edges, ∀ source ∈ d.nodes, ∀ target ∈ d.nodes, source.id = edge.source →
    target.id = edge.target → ∀ rule ∈ q.rules, rule.allows (edge.endpoints source target) = true →
      ∃ p ∈ plugins, ∃ first ∈ p.rules, first.allows (edge.endpoints source target) = true
  provider_known : ∀ definition, q.ownProvider? = some definition →
    (∃ p ∈ plugins, ∃ first, p.ownProvider? = some first ∧ first.id = definition.id) ∨
      ∀ node ∈ d.nodes, ∀ type, (Catalog.ofPlugins plugins).types.get? node.typeId = some type →
        type.provider ≠ definition.id

namespace Plugin.Unneeded

variable {q : Plugin} {plugins : List Plugin} {d : Diagram} (h : q.Unneeded plugins d)

include h

theorem type_eq {node : Resource} (hnode : node ∈ d.nodes) :
    (Catalog.ofPlugins (plugins ++ [q])).types.get? node.typeId =
      (Catalog.ofPlugins plugins).types.get? node.typeId := by
  have hunused : q.ownTypes.reverse.find? (·.typeId == node.typeId) = none := by
    rw [List.find?_eq_none]
    intro type htype
    simpa using Ne.symm (h.types_unused type (List.mem_reverse.mp htype) node hnode)
  rw [Catalog.get?_types_ofPlugins, Catalog.get?_types_ofPlugins, List.flatMap_append,
    List.flatMap_singleton, List.reverse_append, List.find?_append, hunused, Option.none_or]

theorem rule_eq {edge : Edge} (hedge : edge ∈ d.edges) {source target : Resource}
    (hs : source ∈ d.nodes) (ht : target ∈ d.nodes) (hsource : source.id = edge.source)
    (htarget : target.id = edge.target) :
    (Rule.resolve (Catalog.ofPlugins (plugins ++ [q])).rules (edge.endpoints source target)).rule? =
      (Rule.resolve (Catalog.ofPlugins plugins).rules (edge.endpoints source target)).rule? := by
  rw [Rule.rule?_resolve_eq_find?, Rule.rule?_resolve_eq_find?, Catalog.rules_ofPlugins,
    Catalog.rules_ofPlugins, List.flatMap_append, List.flatMap_singleton, List.find?_append]
  cases hold : (plugins.flatMap (·.rules)).find? (·.endpoints == edge.endpoints source target) with
  | some rule => rfl
  | none =>
    rw [Option.none_or, List.find?_eq_none]
    intro rule hrule hallows
    obtain ⟨p, hp, first, hfirst, hfirstAllows⟩ :=
      h.rules_known edge hedge source hs target ht hsource htarget rule hrule hallows
    exact List.find?_eq_none.mp hold first (List.mem_flatMap.mpr ⟨p, hp, hfirst⟩) hfirstAllows

theorem needed_eq {node : Resource} (hnode : node ∈ d.nodes) :
    (Catalog.ofPlugins (plugins ++ [q])).needed? node = (Catalog.ofPlugins plugins).needed? node := by
  rw [Catalog.needed?, Catalog.needed?, h.type_eq hnode]
  apply Option.bind_congr
  intro type htype
  rw [Provider.find?, Provider.find?, Catalog.providers_ofPlugins, Catalog.providers_ofPlugins,
    List.flatMap_append, List.flatMap_singleton, List.find?_append]
  cases hold : (plugins.flatMap fun p => p.ownProvider?.toList).find? (·.id == type.provider) with
  | some first => rfl
  | none =>
    rw [Option.none_or, List.find?_eq_none]
    intro definition hdefinition hid
    have hown : q.ownProvider? = some definition := Option.mem_toList.mp hdefinition
    have hprovider : definition.id = type.provider := beq_iff_eq.mp hid
    rcases h.provider_known definition hown with ⟨p, hp, first, hfirst, hsame⟩ | hunneeded
    · refine List.find?_eq_none.mp hold first ?_ (beq_iff_eq.mpr (hsame.trans hprovider))
      exact List.mem_flatMap.mpr ⟨p, hp, Option.mem_toList.mpr hfirst⟩
    · exact hunneeded node hnode type htype hprovider.symm

theorem agreesOn :
    (Catalog.ofPlugins plugins).AgreesOn (Catalog.ofPlugins (plugins ++ [q])) d where
  type_eq _ hnode := h.type_eq hnode
  rule_eq _ hedge _ hs _ ht hsource htarget := h.rule_eq hedge hs ht hsource htarget
  needed_eq _ hnode := h.needed_eq hnode

end Plugin.Unneeded

/-- A plugin that brings nothing that a diagram needs leaves its configuration as it is, and its
findings but for those about choices. -/
theorem compile_conservative_extension (plugins : List Plugin) (q : Plugin) (d : Diagram)
    (hcheck : d.check = .ok ()) (h : q.Unneeded plugins d) :
    ∃ c extended, d.compile (Catalog.ofPlugins plugins) = .ok c ∧
      d.compile (Catalog.ofPlugins (plugins ++ [q])) = .ok extended ∧ c.WrittenAlike extended ∧
      Finding.undisputed extended.findings = Finding.undisputed c.findings :=
  ⟨_, _, Diagram.compile_eq_ok_iff.mpr ⟨hcheck, rfl⟩, Diagram.compile_eq_ok_iff.mpr ⟨hcheck, rfl⟩,
    h.agreesOn.writtenAlike hcheck, h.agreesOn.undisputed_findings_eq hcheck⟩

/-- A definition of a provider for plants, in the given version. -/
def plantProvider (version : String) : Provider where
  id := "plant"
  displayName := "Plant"
  source := "works/plant"
  version := version
  block := fun _ => Block.ofType "provider" ["plant"]

def pumpPlugin : Plugin where
  id := "plant/pumps"
  providerId := "plant"
  provider := some (plantProvider "1.0")
  types := [pumpType]
  rules := [{ endpoints := ⟨"plant/pump", "out", "plant/pump", "in"⟩
              reference := some ⟨.target, "feed", none⟩ }]

/-- Gauges, with another rule for pumps and another definition of the provider. -/
def gaugePlugin : Plugin where
  id := "plant/gauges"
  providerId := "plant"
  provider := some (plantProvider "2.0")
  types := [{ typeId := "plant/gauge", provider := "plant", terraformType := some "plant_gauge" }]
  rules := [{ endpoints := ⟨"plant/pump", "out", "plant/pump", "in"⟩
              reference := some ⟨.source, "drain", none⟩ }]

def twoPumpDiagram : Diagram where
  nodes := [fedPump, { id := "b", typeId := "plant/pump", name := "main" }]
  edges := [pumpEdge "b" "a"]

theorem compile_conservative_extension_gauges :
    twoPumpDiagram.check = .ok () ∧ gaugePlugin.Unneeded [pumpPlugin] twoPumpDiagram ∧
    ∃ c extended, twoPumpDiagram.compile (Catalog.ofPlugins [pumpPlugin]) = .ok c ∧
      twoPumpDiagram.compile (Catalog.ofPlugins [pumpPlugin, gaugePlugin]) = .ok extended ∧
      c.WrittenAlike extended ∧
      (Finding.undisputed extended.findings).map (·.kind) = [.referenceOverwroteValue] ∧
      extended.findings.map (·.kind) =
        [.ambiguousRule, .referenceOverwroteValue, .duplicateProvider] := by
  have hcheck : twoPumpDiagram.check = .ok () := by decide
  have hunneeded : gaugePlugin.Unneeded [pumpPlugin] twoPumpDiagram := by
    refine ⟨by decide, by decide, ?_⟩
    intro definition hdefinition
    obtain rfl : plantProvider "2.0" = definition := Option.some.inj hdefinition
    exact .inl ⟨pumpPlugin, List.mem_cons_self, plantProvider "1.0", rfl, rfl⟩
  obtain ⟨c, extended, hc, hextended, halike, hfindings⟩ :=
    compile_conservative_extension [pumpPlugin] gaugePlugin twoPumpDiagram hcheck hunneeded
  refine ⟨hcheck, hunneeded, c, extended, hc, hextended, halike, ?_, ?_⟩
  · rw [hfindings, ← (Diagram.compile_eq_ok_iff.mp hc).2]
    rfl
  · rw [← (Diagram.compile_eq_ok_iff.mp hextended).2]
    rfl

end Groundplan
