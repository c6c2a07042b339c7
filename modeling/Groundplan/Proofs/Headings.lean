import Groundplan.Proofs.Expressions
import Groundplan.Proofs.Generating
import Groundplan.Proofs.Labels
import Groundplan.Proofs.WorkingCopies
import Mathlib.Data.List.Nodup

/-!
# Headings

The heading of a block is its type with its labels: no configuration may declare the same one twice.
Sections of a document whose blocks are of different types are put together without a repetition,
and the blocks of a resource belong to it by their label.
-/

namespace Groundplan

def Block.heading (b : Block) : String × List String := (b.type, b.labels)

theorem Block.Declares.heading_eq {b : Block} {type : String} {labels : List String}
    {attributes : List (String × Value)} (h : b.Declares type labels attributes) :
    b.heading = (type, labels) := by
  rw [Block.heading, h.type_eq, h.labels_eq]

@[simp] theorem Block.heading_set? (b : Block) (key : String) (value : Option Value) :
    (b.set? key value).heading = b.heading := by
  cases value <;> rfl

theorem Block.heading_foldl {α : Type} {f : Block → α → Block}
    (hf : ∀ b item, (f b item).heading = b.heading) (b : Block) (items : List α) :
    (items.foldl f b).heading = b.heading := by
  induction items generalizing b with
  | nil => rfl
  | cons item items ih => exact (ih (f b item)).trans (hf b item)

/-- Whether some blocks are of the given types, and no two of them have the same heading. -/
structure Section (types : List String) (blocks : List Block) : Prop where
  types : ∀ b ∈ blocks, b.type ∈ types
  nodup : (blocks.map Block.heading).Nodup

namespace Section

variable {types others : List String} {blocks more : List Block}

theorem append (h : Section types blocks) (hmore : Section others more)
    (hapart : ∀ type ∈ types, type ∉ others) : Section (types ++ others) (blocks ++ more) where
  types := by
    intro b hb
    rcases List.mem_append.mp hb with hb | hb
    · exact List.mem_append_left _ (h.types b hb)
    · exact List.mem_append_right _ (hmore.types b hb)
  nodup := by
    rw [List.map_append, List.nodup_append]
    refine ⟨h.nodup, hmore.nodup, ?_⟩
    intro first hfirst second hsecond heq
    obtain ⟨b, hb, rfl⟩ := List.mem_map.mp hfirst
    obtain ⟨c, hc, rfl⟩ := List.mem_map.mp hsecond
    have htype : b.type = c.type := congrArg (·.1) heq
    exact hapart b.type (h.types b hb) (htype ▸ hmore.types c hc)

theorem optional {type : String} {b : Option Block} (h : ∀ block ∈ b, block.type = type) :
    Section [type] b.toList := by
  cases b with
  | none => exact ⟨fun b hb => absurd hb List.not_mem_nil, List.nodup_nil⟩
  | some block =>
    refine ⟨?_, List.nodup_singleton _⟩
    intro b hb
    rw [List.mem_singleton.mp hb, h block rfl]
    exact List.mem_singleton_self type

theorem named {α : Type} {name : α → String} {toBlock : α → Block} {type : String}
    {items : List α} (hblock : ∀ a ∈ items, (toBlock a).heading = (type, [name a]))
    (hn : (items.map name).Nodup) : Section [type] (items.map toBlock) where
  types := by
    intro b hb
    obtain ⟨a, ha, rfl⟩ := List.mem_map.mp hb
    have htype : (toBlock a).type = type := congrArg (·.1) (hblock a ha)
    rw [htype]
    exact List.mem_singleton_self type
  nodup := by
    have hheadings : (items.map toBlock).map Block.heading =
        (items.map name).map fun name => (type, [name]) := by
      rw [List.map_map, List.map_map]
      exact List.map_congr_left hblock
    rw [hheadings]
    apply hn.map
    intro first second heq
    exact (List.cons.inj (Prod.mk.inj heq).2).1

end Section

theorem ProviderBlocks.heading_terraformBlock (p : ProviderBlocks) (project : Project) :
    (p.terraformBlock project).heading = ("terraform", []) := by
  unfold terraformBlock
  dsimp only
  split <;> split <;> rfl

theorem Project.type_localsBlock? {p : Project} {b : Block} (h : p.localsBlock? = some b) :
    b.type = "locals" := by
  unfold localsBlock? at h
  split at h
  · cases h
  · cases h
    rfl

theorem Provider.nodup_id_used (types : Registry) (providers : List Provider)
    {active : List Provider} (hactive : (active.map (·.id)).Nodup) (resources : List Resource) :
    ((used types providers active resources).map (·.id)).Nodup := by
  induction resources generalizing active with
  | nil => exact hactive
  | cons r rest ih =>
    unfold used
    split
    · rename_i p _
      by_cases htaken : active.any (·.id == p.id) = true
      · rw [if_pos htaken]
        exact ih hactive
      · rw [if_neg htaken]
        apply ih
        rw [List.map_append, List.nodup_append]
        refine ⟨hactive, List.nodup_singleton _, ?_⟩
        intro id hid other hother heq
        obtain ⟨q, hq, rfl⟩ := List.mem_map.mp hid
        rw [List.mem_singleton.mp hother] at heq
        exact htaken (List.any_eq_true.mpr ⟨q, hq, by simpa using heq⟩)
    · exact ih hactive

theorem nodup_flatMap_of_owner {α β : Type} {items : List α} {f : α → List β} (hn : items.Nodup)
    (hown : ∀ a ∈ items, (f a).Nodup)
    (howner : ∀ a ∈ items, ∀ b ∈ items, ∀ x ∈ f a, x ∈ f b → a = b) : (items.flatMap f).Nodup := by
  rw [List.nodup_flatMap]
  refine ⟨hown, hn.imp_of_mem ?_⟩
  intro a b ha hb hne x hxa hxb
  exact hne (howner a ha b hb x hxa hxb)

theorem firstNamed_of_nodup {α : Type} (name : α → String) {items : List α}
    (hn : (items.map name).Nodup) : firstNamed name items = items := by
  induction items with
  | nil => rfl
  | cons item items ih =>
    obtain ⟨hitem, hitems⟩ := List.nodup_cons.mp hn
    rw [firstNamed, ih hitems, List.filter_eq_self.mpr]
    intro other hother
    have hne : name other ≠ name item := fun heq => hitem (heq ▸ List.mem_map_of_mem hother)
    simpa using hne

namespace Diagram

variable {d : Diagram} {catalog : Catalog}

/-- Of the resources of one type that emits blocks, no two have the same label. -/
theorem eq_of_label_eq (hcheck : d.check = .ok ()) {m other : Member} (hm : m ∈ d.working catalog)
    (ho : other ∈ d.working catalog) {type : ResourceType}
    (htype : catalog.types.get? m.resource.typeId = some type)
    (hblock : type.terraformType.isSome = true)
    (hsame : m.resource.typeId = other.resource.typeId)
    (hlabel : m.identity.label = other.identity.label) : m = other := by
  obtain ⟨terraformType, hsome⟩ := Option.isSome_iff_exists.mp hblock
  have haddress : ∀ own ∈ d.members catalog.types, own.resource.typeId = m.resource.typeId →
      own.identity.address? = some (terraformType ++ "." ++ own.identity.label) := by
    intro own hown hequal
    rw [Identity.address?, terraformType_of_mem_members hown, hequal, htype, Option.bind_some, hsome]
    rfl
  rw [working_eq catalog hcheck] at hm ho
  obtain ⟨a, ha, rfl⟩ := List.mem_map.mp hm
  obtain ⟨b, hb, rfl⟩ := List.mem_map.mp ho
  simp only [identity_workingCopy, typeId_workingCopy] at haddress hsame hlabel
  have hequal : a = b := d.eq_of_address_eq catalog.types ha hb (haddress a ha rfl)
    (hlabel ▸ haddress b hb hsame.symm)
  rw [hequal]

theorem nodup_successes (hcheck : d.check = .ok ()) : (d.successes catalog).Nodup := by
  apply List.Nodup.filter
  apply List.Nodup.of_map (·.resource.id)
  exact nodup_id_working catalog hcheck

theorem section_variables (d : Diagram) (catalog : Catalog) : Section ["variable"]
    ((d.compileConsistent catalog).variables.map (·.toBlock)) := by
  refine .named (fun v _ => v.declares_toBlock.heading_eq) ?_
  rw [variables_compileConsistent]
  exact nodup_map_firstNamed _ _

theorem section_outputs (d : Diagram) (catalog : Catalog) : Section ["output"]
    ((d.compileConsistent catalog).outputs.map (·.toBlock)) := by
  refine .named (fun o _ => o.declares_toBlock.heading_eq) ?_
  rw [outputs_compileConsistent]
  exact nodup_map_firstNamed _ _

/-- A document repeats no heading if neither its providers nor its resources do. -/
theorem nodup_headings_documentBlocks
    (hproviders : Section ["provider"] (d.compileConsistent catalog).providers)
    (hblocks : Section ["resource", "data"] (d.compileConsistent catalog).blocks) :
    ((d.compileConsistent catalog).documentBlocks.map Block.heading).Nodup := by
  have hterraform : Section ["terraform"] [(d.compileConsistent catalog).terraform] := by
    refine .optional (b := some _) ?_
    intro b hb
    rw [← Option.mem_some.mp hb, terraform_compileConsistent]
    exact congrArg (·.1) (ProviderBlocks.heading_terraformBlock _ _)
  have hlocals : Section ["locals"] (d.compileConsistent catalog).locals.toList :=
    .optional fun b hb => Project.type_localsBlock? hb
  have hdeclared := (hproviders.append hlocals (by decide)).append (section_variables d catalog)
    (by decide)
  have hrest := (hdeclared.append hblocks (by decide)).append (section_outputs d catalog) (by decide)
  exact (hterraform.append hrest (by decide)).nodup

end Diagram

end Groundplan
