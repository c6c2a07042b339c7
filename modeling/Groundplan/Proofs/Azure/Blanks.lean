import Groundplan.Proofs.Azure.Alike
import Groundplan.Proofs.Azure.Generators
import Groundplan.Proofs.Blanks
import Groundplan.Proofs.References

/-!
# Blank values in Azure diagrams

A blank value counts as unset wherever a compilation with the Azure catalog looks at it, but for one
place: a key vault copies the days that it keeps deleted objects as they are given. So taking out the
blank values changes nothing, unless a vault has a blank one there.
-/

namespace Groundplan.Azure

/-- The property that vaults copy as it is given. -/
def retentionKey : String := "soft_delete_retention_days"

section Generators

variable {r s : Resource} {c e : Context} {declared : List Declaration} {blocks : List Block}

theorem mem_attributes_generateKeyVault (h : generateKeyVault r c = ⟨declared, .ok blocks⟩) :
    retentionKey ∈ (blocks.flatMap (·.attributes)).map (·.1) ↔
      (r.property? retentionKey).isSome := by
  obtain ⟨group, place, _, _, _, client, vault, rfl, hclient, hvault⟩ := generateKeyVault_eq_ok h
  rw [List.flatMap_cons, List.flatMap_singleton, hclient.attributes_eq, hvault.attributes_eq]
  simp [retentionKey, placement, settingAttribute, tagging]

theorem alike_generateKeyVault (hr : r.Alike s) (hc : c.Alike s.id e) :
    (generateKeyVault r c).Alike (generateKeyVault s e) := by
  unfold generateKeyVault
  rw [locatedBlock_eq_of_alike hr hc, settingValue_eq_of_alike hr hc]
  cases hlocated : locatedBlock "azurerm_key_vault" s e with
  | error error =>
    rw [Generation.bind_of_error _ rfl, Generation.bind_of_error _ rfl]
    exact ⟨rfl, rfl⟩
  | ok located =>
    simp only [settingValue, Context.propertyValue_eq, vaultOutputs, hc.label_eq,
      hc.resolvedName_eq]
    exact ⟨rfl, rfl⟩

/-- Of whatever type of the catalog resources are that look alike, as much is generated for them. -/
theorem alike_generate {type : ResourceType} (htype : type ∈ resourceTypes) (hr : r.Alike s)
    (hc : c.Alike s.id e)
    (hsku : type = publicIpType → r.stringOr "sku" "Standard" = s.stringOr "sku" "Standard") :
    (type.generate r c).Alike (type.generate s e) := by
  by_cases hvault : type = keyVaultType
  · rw [hvault]
    exact alike_generateKeyVault hr hc
  · rw [generate_eq_of_alike hr hc htype hsku fun h => absurd h hvault]
    exact .refl _

end Generators

section Diagrams

variable {d : Diagram}

theorem isSome_sku {m : Member} (hm : m ∈ d.working catalog)
    (htype : catalog.types.get? m.resource.typeId = some publicIpType) :
    (m.resource.present? "sku").isSome := by
  obtain ⟨s, hs, hkey, hdefault⟩ : ∃ s ∈ publicIpType.schema, s.key = "sku" ∧
      s.default = some (.string "Standard") :=
    ⟨_, List.mem_cons_of_mem _ List.mem_cons_self, rfl, rfl⟩
  have hset : (Property.string "Standard").isBlank = false := by decide
  exact hkey ▸ Diagram.isSome_present?_working catalog hm htype hs hdefault hset

theorem isBlank_retention {m : Member} (hcheck : d.withoutBlanks.check = .ok ())
    (hm : m ∈ d.withoutBlanks.working catalog) {value : Property}
    (h : m.resource.property? retentionKey = some value) : value.isBlank = false := by
  rw [Diagram.working_eq catalog hcheck] at hm
  obtain ⟨member, hmember, rfl⟩ := List.mem_map.mp hm
  rcases Diagram.property?_workingCopy catalog h with ⟨w, hw, _, hkey, _⟩ | h | ⟨type, htype, s, hs,
    hkey, hdefault⟩
  · obtain ⟨edge, _, hwriting⟩ := List.mem_filterMap.mp hw
    obtain ⟨source, _, target, _, rule, hrule, directive, _, _, _, hdirective, rfl⟩ :=
      Edge.writing?_eq_some hwriting
    have hconnected := (refers_of_mem_rules hrule directive hdirective).2.2.1
    have hnone : ∀ entry ∈ connectedKeys, entry.2 ≠ retentionKey := by decide
    have hwritten : directive.key = retentionKey := by
      rw [← hkey, ReferenceDirective.writing]
      cases directive.side <;> rfl
    exact absurd hwritten (hnone _ hconnected)
  · have hnodes := map_resource_assignIdentities catalog.types d.naming [] d.withoutBlanks.nodes
    have hnode : member.resource ∈ d.withoutBlanks.nodes :=
      hnodes ▸ List.mem_map_of_mem hmember
    obtain ⟨node, _, hnode⟩ := List.mem_map.mp hnode
    rw [← hnode, Resource.property?_withoutBlanks] at h
    simpa using (Option.filter_eq_some_iff.mp h).2
  · have hnone : ∀ type ∈ resourceTypes, ∀ s ∈ type.schema, s.key = retentionKey →
        s.default = none := by decide
    rw [hnone type (get?_types_catalog.mp htype).1 s hs hkey] at hdefault
    cases hdefault

theorem generation_withoutBlanks {a b : Member} (ha : a ∈ d.working catalog) (hab : a.Alike b) :
    (d.generation catalog a).Alike (d.withoutBlanks.generation catalog b) ∧
      ((a.resource.typeId = TypeId.keyVault →
          a.resource.property? retentionKey = b.resource.property? retentionKey) →
        d.generation catalog a = d.withoutBlanks.generation catalog b) := by
  cases htype : catalog.types.get? a.resource.typeId with
  | none =>
    have hother : catalog.types.get? b.resource.typeId = none := hab.resource.typeId_eq ▸ htype
    rw [d.generation_eq_fail catalog htype, d.withoutBlanks.generation_eq_fail catalog hother,
      hab.resource.typeId_eq]
    exact ⟨.refl _, fun _ => rfl⟩
  | some type =>
    have hother : catalog.types.get? b.resource.typeId = some type :=
      hab.resource.typeId_eq ▸ htype
    obtain ⟨hregistered, htypeId⟩ := get?_types_catalog.mp htype
    have hcontext := d.alike_context catalog hab
    have hsku : type = publicIpType →
        a.resource.stringOr "sku" "Standard" = b.resource.stringOr "sku" "Standard" := by
      rintro rfl
      exact hab.resource.stringOr_eq (isSome_sku ha htype) _
    rw [d.generation_eq_generate catalog htype,
      d.withoutBlanks.generation_eq_generate catalog hother]
    refine ⟨alike_generate hregistered hab.resource hcontext hsku, fun hdays => ?_⟩
    apply generate_eq_of_alike hab.resource hcontext hregistered hsku
    rintro rfl
    exact hdays htypeId.symm

theorem retention_eq {a b : Member} (hcheck : d.withoutBlanks.check = .ok ())
    (hb : b ∈ d.withoutBlanks.working catalog) (hab : a.Alike b)
    (hset : ∀ value, a.resource.property? retentionKey = some value → value.isBlank = false) :
    a.resource.property? retentionKey = b.resource.property? retentionKey := by
  have hpresent : ∀ r : Resource, (∀ value, r.property? retentionKey = some value →
      value.isBlank = false) → r.present? retentionKey = r.property? retentionKey := by
    intro r hr
    unfold Resource.present?
    cases h : r.property? retentionKey with
    | none => rfl
    | some value => rw [Option.filter_some, if_pos (by simpa using hr value h)]
  rw [← hpresent _ hset, ← hpresent _ fun _ => isBlank_retention hcheck hb,
    hab.resource.present?_eq]

theorem eq_keyVaultType {typeId : String} {type : ResourceType}
    (htype : catalog.types.get? typeId = some type) (h : typeId = TypeId.keyVault) :
    type = keyVaultType := by
  obtain ⟨hregistered, hid⟩ := get?_types_catalog.mp htype
  exact eq_of_typeId_eq hregistered (by simp [resourceTypes]) (hid.trans h)

/-- The same blocks come of a resource and of its copy without blank values, unless it is a vault
that succeeds and copies a blank number of days. -/
theorem results_withoutBlanks_iff {a b : Member} (hcheck : d.withoutBlanks.check = .ok ())
    (ha : a ∈ d.working catalog) (hb : b ∈ d.withoutBlanks.working catalog) (hab : a.Alike b) :
    (d.generation catalog a).results = (d.withoutBlanks.generation catalog b).results ↔
      ((d.generation catalog a).succeeds = true → a.resource.typeId = TypeId.keyVault →
        ∀ value, a.resource.property? retentionKey = some value → value.isBlank = false) := by
  obtain ⟨halike, hequal⟩ := generation_withoutBlanks ha hab
  constructor
  · intro hresults hsucceeds htypeId value hvalue
    obtain ⟨type, htype, hgenerated⟩ := d.exists_generate_eq catalog hsucceeds
    obtain ⟨other, hother, hregenerated⟩ :=
      d.withoutBlanks.exists_generate_eq catalog (halike.succeeds_eq ▸ hsucceeds)
    obtain rfl := eq_keyVaultType htype htypeId
    obtain rfl := eq_keyVaultType hother (hab.resource.typeId_eq ▸ htypeId)
    have hmem := (mem_attributes_generateKeyVault hgenerated).mpr (hvalue ▸ rfl)
    rw [hresults] at hmem
    obtain ⟨kept, hkept⟩ := Option.isSome_iff_exists.mp
      ((mem_attributes_generateKeyVault hregenerated).mp hmem)
    have hpresent : a.resource.present? retentionKey = some kept := by
      rw [hab.resource.present?_eq, Resource.present?, hkept, Option.filter_some,
        if_pos (by simpa using isBlank_retention hcheck hb hkept)]
    obtain ⟨hproperty, hset⟩ := Option.filter_eq_some_iff.mp hpresent
    obtain rfl := Option.some.inj (hvalue.symm.trans hproperty)
    simpa using hset
  · intro hset
    by_cases hsucceeds : (d.generation catalog a).succeeds = true
    · rw [hequal fun htypeId => retention_eq hcheck hb hab (hset hsucceeds htypeId)]
    · have hfails := Bool.eq_false_iff.mpr hsucceeds
      rw [Generation.results_of_not_succeeds hfails,
        Generation.results_of_not_succeeds (halike.succeeds_eq ▸ hfails)]

end Diagrams

/-- Taking the blank values out of a diagram leaves everything but the blocks of resources as it is,
and those as well unless a vault copies a blank number of days. -/
theorem compile_ignores_blanks (d : Diagram) (hcheck : d.check = .ok ()) :
    ∃ c other, d.compile catalog = .ok c ∧ d.withoutBlanks.compile catalog = .ok other ∧
      other = { c with blocks := other.blocks } ∧
      (other = c ↔ ∀ m ∈ d.successes catalog, m.resource.typeId = TypeId.keyVault →
        ∀ value, m.resource.property? "soft_delete_retention_days" = some value →
          value.isBlank = false) := by
  have hother : d.withoutBlanks.check = .ok () := d.check_withoutBlanks.trans hcheck
  have hpairs := forall₂_and_mem (d.alike_working catalog)
  have hgenerations : List.Forall₂ (fun a b => a.Alike b ∧
      (d.generation catalog a).Alike (d.withoutBlanks.generation catalog b)) (d.working catalog)
        (d.withoutBlanks.working catalog) :=
    hpairs.imp fun a b h => ⟨h.1, (generation_withoutBlanks h.2.1 h.1).1⟩
  have hcompiled := Diagram.compileConsistent_withoutBlanks hgenerations
  have hblocks : d.withoutBlanks.compileConsistent catalog = d.compileConsistent catalog ↔
      (d.withoutBlanks.compileConsistent catalog).blocks =
        (d.compileConsistent catalog).blocks := by
    constructor
    · exact fun heq => congrArg (·.blocks) heq
    · intro heq
      rw [hcompiled, heq]
  have hresults : List.Forall₂ (fun a b => (d.generation catalog a).results =
      (d.withoutBlanks.generation catalog b).results) (d.working catalog)
        (d.withoutBlanks.working catalog) ↔ ∀ m ∈ d.working catalog,
      (d.generation catalog m).succeeds = true → m.resource.typeId = TypeId.keyVault →
        ∀ value, m.resource.property? retentionKey = some value → value.isBlank = false :=
    forall₂_iff_forall
      (hpairs.imp fun a b h => results_withoutBlanks_iff hother h.2.1 h.2.2 h.1)
  refine ⟨_, _, Diagram.compile_eq_ok_iff.mpr ⟨hcheck, rfl⟩,
    Diagram.compile_eq_ok_iff.mpr ⟨hother, rfl⟩, hcompiled, ?_⟩
  rw [hblocks, Diagram.blocks_withoutBlanks_iff hgenerations, hresults]
  simp only [Diagram.successes, List.mem_filter, and_imp]
  rfl

def blankNode (id typeId : String) (blankKeys : List String) : Resource where
  id := id
  typeId := typeId
  name := "main"
  properties := Dictionary.ofList ([("location", .string "westeurope"),
    ("resource_group_name", .string "rg")] ++ blankKeys.map (·, .string ""))

/-- An account with a blank tier, which takes the default, and a blank access tier. -/
def blankAccountDiagram : Diagram where
  nodes := [blankNode "account" TypeId.storageAccount ["account_tier", "access_tier"]]

theorem compile_ignores_blanks_account : blankAccountDiagram.check = .ok () ∧
    blankAccountDiagram.withoutBlanks ≠ blankAccountDiagram ∧
    ∃ c, blankAccountDiagram.compile catalog = .ok c ∧
      blankAccountDiagram.withoutBlanks.compile catalog = .ok c := by
  have hcheck : blankAccountDiagram.check = .ok () := by decide
  have hvaults : ∀ m ∈ blankAccountDiagram.working catalog, m.resource.typeId ≠ TypeId.keyVault := by
    decide +kernel
  obtain ⟨c, other, hc, hother, _, hequal⟩ := compile_ignores_blanks blankAccountDiagram hcheck
  obtain rfl := hequal.mpr fun m hm htypeId =>
    absurd htypeId (hvaults m (List.mem_filter.mp hm).1)
  exact ⟨hcheck, by decide +kernel, other, hc, hother⟩

/-- A vault with a blank number of days. -/
def blankVaultDiagram : Diagram where
  nodes := [blankNode "vault" TypeId.keyVault ["soft_delete_retention_days"]]

/-- The vault keeps a blank number of days as an attribute, so the documents differ. -/
theorem blank_retention_of_vault : ∃ c other, blankVaultDiagram.compile catalog = .ok c ∧
    blankVaultDiagram.withoutBlanks.compile catalog = .ok other ∧
      c.document ≠ other.document := by
  exact ⟨_, _, rfl, rfl, by decide +kernel⟩

end Groundplan.Azure
