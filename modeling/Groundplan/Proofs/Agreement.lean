import Groundplan.Compile.Files
import Groundplan.Proofs.Generating
import Mathlib.Data.List.Basic

/-!
# Configurations written alike

Two compilations write the same document and the same files if their providers are the same and the
resources that succeed bring the same, one by one. What has been found on the way may differ.
-/

namespace Groundplan

/-- Whether two configurations come out the same, their findings apart. -/
structure Compiled.WrittenAlike (c other : Compiled) : Prop where
  document_eq : other.document = c.document
  files_eq : other.files = c.files
  variables_eq : other.variables = c.variables
  outputs_eq : other.outputs = c.outputs
  valueFile_eq : other.valueFile = c.valueFile

theorem Compiled.writtenAlike_of_eq {c other : Compiled}
    (h : other = { c with findings := other.findings }) : c.WrittenAlike other where
  document_eq := by rw [h]; rfl
  files_eq := by rw [h]; rfl
  variables_eq := by rw [h]
  outputs_eq := by rw [h]
  valueFile_eq := by rw [h]

namespace Diagram

variable {d e : Diagram} {catalog other : Catalog}

/-- Whatever is collected from the resources that succeed, it is the same if they are the same ones,
up to a renaming of members, and bring the same. -/
theorem flatMap_successes_eq {φ : Member → Member}
    (hsuccesses : e.successes other = (d.successes catalog).map φ) {α : Type}
    (collect : Generation (List Block) → List α)
    (hcollect : ∀ m ∈ d.successes catalog,
      collect (e.generation other (φ m)) = collect (d.generation catalog m)) :
    (e.successes other).flatMap (fun m => collect (e.generation other m)) =
      (d.successes catalog).flatMap fun m => collect (d.generation catalog m) := by
  rw [hsuccesses, List.flatMap_map]
  exact List.flatMap_congr hcollect

theorem writtenAlike_of_successes {φ : Member → Member} (hproject : e.project = d.project)
    (hproviders :
      (ProviderBlocks.build other d.project ((e.working other).map (·.resource))).1 =
        (ProviderBlocks.build catalog d.project ((d.working catalog).map (·.resource))).1)
    (hsuccesses : e.successes other = (d.successes catalog).map φ)
    (hdeclared : ∀ m ∈ d.successes catalog,
      (e.generation other (φ m)).declared = (d.generation catalog m).declared)
    (hresults : ∀ m ∈ d.successes catalog,
      (e.generation other (φ m)).results = (d.generation catalog m).results) :
    (d.compileConsistent catalog).WrittenAlike (e.compileConsistent other) := by
  have hblocks : (e.compileConsistent other).blocks = (d.compileConsistent catalog).blocks := by
    rw [blocks_compileConsistent, blocks_compileConsistent]
    exact flatMap_successes_eq hsuccesses (·.results) hresults
  have hvariables : (e.compileConsistent other).variables =
      (d.compileConsistent catalog).variables := by
    rw [variables_compileConsistent, variables_compileConsistent]
    exact congrArg _ (flatMap_successes_eq hsuccesses (·.declared.filterMap (·.toVariable?))
      fun m hm => by rw [hdeclared m hm])
  have houtputs : (e.compileConsistent other).outputs = (d.compileConsistent catalog).outputs := by
    rw [outputs_compileConsistent, outputs_compileConsistent]
    exact congrArg _ (flatMap_successes_eq hsuccesses (·.declared.filterMap (·.toOutput?))
      fun m hm => by rw [hdeclared m hm])
  have hterraform : (e.compileConsistent other).terraform =
      (d.compileConsistent catalog).terraform := by
    rw [terraform_compileConsistent, terraform_compileConsistent, hproject, hproviders]
  have hblocksOf : (e.compileConsistent other).providers =
      (d.compileConsistent catalog).providers := by
    rw [providers_compileConsistent, providers_compileConsistent, hproject, hproviders]
  have hlocals : (e.compileConsistent other).locals = (d.compileConsistent catalog).locals := by
    rw [locals_compileConsistent, locals_compileConsistent, hproject]
  have hvalues : (e.compileConsistent other).valueFile =
      (d.compileConsistent catalog).valueFile := by
    show Variable.valueFile? (e.compileConsistent other).variables e.project.variableValues =
      Variable.valueFile? (d.compileConsistent catalog).variables d.project.variableValues
    rw [hvariables, hproject]
  apply Compiled.writtenAlike_of_eq
  rw [← hterraform, ← hblocksOf, ← hlocals, ← hblocks, ← hvariables, ← houtputs, ← hvalues]

end Diagram

end Groundplan
