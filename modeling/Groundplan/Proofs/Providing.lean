import Groundplan.Compile.Providers
import Groundplan.Proofs.Collecting
import Mathlib.Data.List.Basic

/-!
# Active providers

The providers of a configuration are those that its resources need, in the order in which they are
needed first. Of the definitions for an id only the first one matters, and of the resources only those
whose type has a provider.
-/

namespace Groundplan

namespace Provider

theorem find?_distinct (seen : List String) (providers : List Provider) (id : String) :
    find? (distinct seen providers).1 id =
      if id ∈ seen then none else find? providers id := by
  induction providers generalizing seen with
  | nil => simp [distinct, find?]
  | cons p rest ih =>
    rw [find?] at ih
    rw [find?, find?, distinct, List.find?_cons]
    by_cases hseen : p.id ∈ seen
    · rw [if_pos (List.contains_iff_mem.mpr hseen)]
      refine (ih seen).trans ?_
      by_cases hid : id ∈ seen
      · rw [if_pos hid, if_pos hid]
      · have hne : (p.id == id) = false := beq_false_of_ne fun heq => hid (heq ▸ hseen)
        rw [if_neg hid, if_neg hid, hne]
    · rw [if_neg (by simpa using hseen), List.find?_cons]
      by_cases heq : p.id = id
      · rw [if_neg (heq ▸ hseen), beq_iff_eq.mpr heq]
      · rw [beq_false_of_ne heq]
        refine (ih (p.id :: seen)).trans ?_
        simp [Ne.symm heq]

theorem used_eq_foldl (types : Registry) (providers active : List Provider)
    (resources : List Resource) : used types providers active resources =
      (resources.filterMap fun r =>
        (types.get? r.typeId).bind fun type => find? providers type.provider).foldl
          (addNamed (·.id)) active := by
  induction resources generalizing active with
  | nil => rfl
  | cons r rest ih =>
    rw [used]
    split
    · rename_i p hneeded
      simp only [List.filterMap_cons, hneeded, List.foldl_cons, ih]
      rfl
    · rename_i hneeded
      simp only [List.filterMap_cons, hneeded, ih]

end Provider

namespace Catalog

variable (catalog : Catalog)

/-- The definition that counts for the provider of a resource's type. -/
def needed? (r : Resource) : Option Provider :=
  (catalog.types.get? r.typeId).bind fun type => Provider.find? catalog.providers type.provider

/-- The providers that resources need, in the order of first need. -/
def active (resources : List Resource) : List Provider :=
  firstNamed (·.id) (resources.filterMap catalog.needed?)

/-- The settings of the active providers when all resources have supplied theirs. -/
def settled (project : Project) (resources : List Resource) : Settling :=
  resources.foldl (Settling.supplyAll catalog.types)
    { settings := Dictionary.ofList
        ((catalog.active resources).map fun p => (p.id, p.baseSettings project)) }

theorem used_distinct (resources : List Resource) :
    Provider.used catalog.types (Provider.distinct [] catalog.providers).1 [] resources =
      catalog.active resources := by
  rw [Provider.used_eq_foldl, foldl_addNamed_nil, active]
  simp only [Provider.find?_distinct, List.not_mem_nil, if_false]
  rfl

end Catalog

namespace ProviderBlocks

variable (catalog : Catalog) (project : Project) (resources : List Resource)

theorem build_fst : (build catalog project resources).1 =
    { required := (catalog.active resources).map (·.requirement)
      blocks := (catalog.active resources).map fun p =>
        p.block (((catalog.settled project resources).settings.get? p.id).getD .empty) } := by
  simp only [build, Catalog.used_distinct]
  rfl

theorem build_snd : (build catalog project resources).2 =
    (Provider.distinct [] catalog.providers).2 ++ (catalog.settled project resources).findings := by
  simp only [build, Catalog.used_distinct]
  rfl

/-- Resources whose type is not registered neither need a provider nor supply settings. -/
theorem build_filter {keep : Resource → Bool} (h : ∀ r ∈ resources, keep r = false →
    catalog.types.get? r.typeId = none) :
    build catalog project (resources.filter keep) = build catalog project resources := by
  have hactive : catalog.active (resources.filter keep) = catalog.active resources := by
    rw [Catalog.active, List.filterMap_filter, Catalog.active]
    refine congrArg _ (List.filterMap_congr fun r hr => ?_)
    cases hkeep : keep r with
    | true => rfl
    | false => simp [Catalog.needed?, h r hr hkeep]
  have hsettled : catalog.settled project (resources.filter keep) =
      catalog.settled project resources := by
    rw [Catalog.settled, Catalog.settled, hactive, List.foldl_filter]
    apply List.foldl_ext
    intro state r hr
    cases hkeep : keep r with
    | true => rfl
    | false => simp [Settling.supplyAll, h r hr hkeep]
  apply Prod.ext
  · rw [build_fst, build_fst, hactive, hsettled]
  · rw [build_snd, build_snd, hsettled]

end ProviderBlocks

end Groundplan
