import Groundplan.Compile.Files
import Groundplan.Proofs.Dictionaries
import Groundplan.Proofs.WorkingCopies

/-!
# The layout of files

The files of a configuration share out its document: every block of the document belongs to one file,
and stands there in the order of the document. This holds whatever the types of the blocks are that
generators return.
-/

namespace Groundplan

/-- Items sorted into groups, one group for each possible name, are the same items in another order. -/
theorem perm_flatMap_filter {α : Type} (name : α → String) {names : List String}
    (hn : names.Nodup) {items : List α} (hall : ∀ a ∈ items, name a ∈ names) :
    (names.flatMap fun key => items.filter (name · == key)).Perm items := by
  induction names generalizing items with
  | nil =>
    obtain rfl : items = [] := List.eq_nil_iff_forall_not_mem.mpr fun a ha =>
      absurd (hall a ha) List.not_mem_nil
    exact .nil
  | cons key names ih =>
    obtain ⟨hkey, hnames⟩ := List.nodup_cons.mp hn
    let others := items.filter fun a => !(name a == key)
    have hsame : (names.flatMap fun other => items.filter (name · == other)) =
        names.flatMap fun other => others.filter (name · == other) := by
      apply List.flatMap_congr
      intro other hother
      have hne : other ≠ key := fun heq => hkey (heq ▸ hother)
      rw [List.filter_filter]
      apply List.filter_congr
      intro a _
      by_cases h : name a = other
      · simp [h, hne]
      · simp [h]
    have hothers : ∀ a ∈ others, name a ∈ names := by
      intro a ha
      obtain ⟨hmem, hne⟩ := List.mem_filter.mp ha
      exact (List.mem_cons.mp (hall a hmem)).resolve_left (by simpa using hne)
    rw [List.flatMap_cons, hsame]
    exact ((ih hnames hothers).append_left _).trans (List.filter_append_perm _ items)

theorem Block.fileName_eq (b : Block) : b.fileName = "variables.tf" ∨ b.fileName = "outputs.tf" ∨
    b.fileName = "main.tf" := by
  unfold Block.fileName
  split <;> simp

namespace Compiled

/-- The blocks of the document in their order, each with the file to which it belongs. -/
def placed (c : Compiled) : List (String × Block) :=
  [("terraform.tf", c.terraform)] ++ (c.providers.map ("providers.tf", ·)
    ++ c.locals.toList.map ("locals.tf", ·)
    ++ c.variables.map (fun v => ("variables.tf", v.toBlock))
    ++ c.blocks.map (fun b => (b.fileName, b))
    ++ c.outputs.map fun o => ("outputs.tf", o.toBlock))

/-- The blocks of the document that belong to a file, in their order. -/
def placedIn (c : Compiled) (file : String) : List Block :=
  (c.placed.filter (·.1 == file)).map (·.2)

/-- The files other than that of variable values. -/
def blockFiles (c : Compiled) : List String := c.files.keys.filter (· != "terraform.tfvars")

/-- The files in which blocks may stand. -/
def fileNames : List String :=
  ["terraform.tf", "providers.tf", "locals.tf", "main.tf", "variables.tf", "outputs.tf"]

variable (c : Compiled)

theorem map_snd_placed : c.placed.map (·.2) = c.documentBlocks := by
  simp [placed, documentBlocks, Function.comp_def]

theorem placedIn_sublist (file : String) : (c.placedIn file).Sublist c.documentBlocks := by
  rw [← map_snd_placed]
  exact List.filter_sublist.map _

theorem mem_fileNames_of_mem_placed {entry : String × Block} (h : entry ∈ c.placed) :
    entry.1 ∈ fileNames := by
  simp only [placed, List.mem_singleton, List.mem_append, List.mem_map] at h
  rcases h with rfl | ((((⟨_, _, rfl⟩ | ⟨_, _, rfl⟩) | ⟨_, _, rfl⟩) | ⟨b, _, rfl⟩) | ⟨_, _, rfl⟩)
  · simp [fileNames]
  · simp [fileNames]
  · simp [fileNames]
  · simp [fileNames]
  · rcases Block.fileName_eq b with h | h | h <;> simp [fileNames, h]
  · simp [fileNames]

theorem mem_fileNames_of_placedIn_ne_nil {file : String} (h : c.placedIn file ≠ []) :
    file ∈ fileNames := by
  obtain ⟨b, hb⟩ := List.exists_mem_of_ne_nil _ h
  obtain ⟨entry, hentry, rfl⟩ := List.mem_map.mp hb
  obtain ⟨hplaced, hfile⟩ := List.mem_filter.mp hentry
  exact beq_iff_eq.mp hfile ▸ c.mem_fileNames_of_mem_placed hplaced

theorem blocksIn_eq_nil {file : String}
    (h : file ∉ ["variables.tf", "outputs.tf", "main.tf"]) : c.blocksIn file = [] := by
  rw [blocksIn, List.filter_eq_nil_iff]
  intro b _ hb
  apply h
  rw [← beq_iff_eq.mp hb]
  rcases b.fileName_eq with h | h | h <;> simp [h]

theorem filter_section {α : Type} (items : List α) (toBlock : α → Block) (name file : String) :
    ((items.map fun item => (name, toBlock item)).filter (·.1 == file)).map (·.2) =
      if name = file then items.map toBlock else [] := by
  by_cases h : name = file <;> simp [h, List.filter_map, Function.comp_def]

theorem filter_returned (file : String) :
    ((c.blocks.map fun b => (b.fileName, b)).filter (·.1 == file)).map (·.2) = c.blocksIn file := by
  simp [blocksIn, List.filter_map, Function.comp_def]

theorem placedIn_eq (file : String) : c.placedIn file =
    (if "terraform.tf" = file then [c.terraform] else []) ++
      ((if "providers.tf" = file then c.providers else [])
        ++ (if "locals.tf" = file then c.locals.toList else [])
        ++ (if "variables.tf" = file then c.variables.map (·.toBlock) else [])
        ++ c.blocksIn file
        ++ if "outputs.tf" = file then c.outputs.map (·.toBlock) else []) := by
  have hfirst := filter_section [c.terraform] id "terraform.tf" file
  have hproviders := filter_section c.providers id "providers.tf" file
  have hlocals := filter_section c.locals.toList id "locals.tf" file
  simp only [List.map_id, id_eq, List.map_singleton] at hfirst hproviders hlocals
  simp only [placedIn, placed, List.filter_append, List.map_append, filter_section, filter_returned,
    hfirst, hproviders, hlocals]

/-- What is rendered into a file is what belongs to it. -/
theorem fileBlocks_eq : c.fileBlocks = fileNames.map fun file => (file, c.placedIn file) := by
  simp [fileBlocks, fileNames, placedIn_eq, blocksIn_eq_nil]

theorem notMem_fileNames : "terraform.tfvars" ∉ fileNames := by decide

theorem files_eq : c.files = Dictionary.ofList
    (((fileNames.filter fun file => !(c.placedIn file).isEmpty).map fun file =>
      (file, Block.renderAll (c.placedIn file))) ++
        c.valueFile.toList.map fun text => ("terraform.tfvars", text)) := by
  unfold files
  rw [fileBlocks_eq, List.filter_map, List.map_map]
  rfl

theorem get?_files {file text : String} : c.files.get? file = some text ↔
    c.placedIn file ≠ [] ∧ Block.renderAll (c.placedIn file) = text ∨
      file = "terraform.tfvars" ∧ c.valueFile = some text := by
  have hn : ((((fileNames.filter fun file => !(c.placedIn file).isEmpty).map fun file =>
      (file, Block.renderAll (c.placedIn file))) ++
        c.valueFile.toList.map fun text => ("terraform.tfvars", text)).map (·.1)).Nodup := by
    have hnames : fileNames.Nodup := by decide
    rw [List.map_append, List.map_map, List.map_map, List.nodup_append]
    refine ⟨?_, ?_, ?_⟩
    · simpa [Function.comp_def] using hnames.filter _
    · cases c.valueFile <;> simp
    · intro name hname other hother heq
      simp only [Function.comp_def, List.map_id', List.mem_filter, List.mem_map] at hname hother
      obtain ⟨_, _, rfl⟩ := hother
      exact notMem_fileNames (heq ▸ hname.1)
  rw [files_eq, Dictionary.get?_ofList_eq_some_iff hn, List.mem_append, List.mem_map, List.mem_map]
  constructor
  · rintro (⟨name, hname, heq⟩ | ⟨value, hvalue, heq⟩)
    · cases heq
      exact .inl ⟨by simpa using (List.mem_filter.mp hname).2, rfl⟩
    · cases heq
      exact .inr ⟨rfl, Option.mem_toList.mp hvalue⟩
  · rintro (⟨hne, rfl⟩ | ⟨rfl, hvalue⟩)
    · exact .inl ⟨file, List.mem_filter.mpr
        ⟨c.mem_fileNames_of_placedIn_ne_nil hne, by simpa using hne⟩, rfl⟩
    · exact .inr ⟨text, Option.mem_toList.mpr hvalue, rfl⟩

theorem placedIn_values : c.placedIn "terraform.tfvars" = [] := Classical.byContradiction fun h =>
  notMem_fileNames (c.mem_fileNames_of_placedIn_ne_nil h)

theorem mem_blockFiles_iff {file : String} : file ∈ c.blockFiles ↔ c.placedIn file ≠ [] := by
  rw [blockFiles, List.mem_filter, Dictionary.mem_keys_iff, Option.isSome_iff_exists, bne_iff_ne]
  constructor
  · rintro ⟨⟨text, htext⟩, hne⟩
    exact (c.get?_files.mp htext).elim (·.1) fun h => absurd h.1 hne
  · intro hne
    exact ⟨⟨_, c.get?_files.mpr (.inl ⟨hne, rfl⟩)⟩, fun heq => hne (heq ▸ c.placedIn_values)⟩

/-- The files share out the document. -/
theorem perm_flatMap_placedIn : (c.blockFiles.flatMap c.placedIn).Perm c.documentBlocks := by
  have hfiles : ∀ entry ∈ c.placed, entry.1 ∈ c.blockFiles := fun entry hentry =>
    c.mem_blockFiles_iff.mpr
      (List.ne_nil_of_mem (List.mem_map_of_mem (List.mem_filter.mpr ⟨hentry, BEq.rfl⟩)))
  have hgroups := (perm_flatMap_filter Prod.fst (c.files.nodup_keys.filter _) hfiles).map Prod.snd
  rw [List.map_flatMap, map_snd_placed] at hgroups
  exact hgroups

end Compiled

/-- A configuration writes the blocks of its document into files, each block into one of them and in
the order of the document, and besides those only the values of variables. -/
theorem compile_shares_out_document (d : Diagram) (catalog : Catalog) (hcheck : d.check = .ok ()) :
    ∃ c, d.compile catalog = .ok c ∧ c.document = Block.renderAll c.documentBlocks ∧
      c.placed.map (·.2) = c.documentBlocks ∧
      (c.blockFiles.flatMap c.placedIn).Perm c.documentBlocks ∧
      (∀ file ∈ c.blockFiles, c.placedIn file ≠ [] ∧
        (c.placedIn file).Sublist c.documentBlocks ∧
        c.files.get? file = some (Block.renderAll (c.placedIn file))) ∧
      c.files.get? "terraform.tfvars" = c.valueFile := by
  refine ⟨_, Diagram.compile_eq_ok_iff.mpr ⟨hcheck, rfl⟩, rfl, ?_⟩
  generalize d.compileConsistent catalog = c
  refine ⟨c.map_snd_placed, c.perm_flatMap_placedIn, fun file hfile => ?_, Option.ext fun text => ?_⟩
  · have hne := c.mem_blockFiles_iff.mp hfile
    exact ⟨hne, c.placedIn_sublist file, c.get?_files.mpr (.inl ⟨hne, rfl⟩)⟩
  · simp [c.get?_files, c.placedIn_values]

/-- A module brings a variable, a provider and an output of its own, out of order. -/
def moduleType : ResourceType where
  typeId := "plant/module"
  provider := "plant"
  terraformType := some "plant_module"
  generate := fun _ c => do
    Generation.declareVariable { name := "size", type := "string", description := "size" }
    return [Block.ofType "output" ["level"], Block.resource "plant_module" c.label,
      Block.ofType "variable" ["depth"], Block.ofType "provider" ["plant"]]

def moduleCatalog : Catalog := { types := Registry.register .empty moduleType }

def moduleDiagram : Diagram where
  nodes := [{ id := "a", typeId := "plant/module", name := "main" }]
  project := Project.addVariableValue {} "size" "large"

theorem compile_shares_out_document_modules :
    moduleDiagram.check = .ok () ∧ ∃ c, moduleDiagram.compile moduleCatalog = .ok c ∧
      (c.blockFiles.flatMap c.placedIn).Perm c.documentBlocks ∧
      ((c.placedIn "main.tf").map (·.type) = ["resource", "provider"] ∧
        (c.placedIn "variables.tf").map (·.labels) = [["size"], ["depth"]]) ∧
      c.files.get? "main.tf" = some (Block.renderAll (c.placedIn "main.tf")) ∧
      c.files.get? "terraform.tfvars" = some "size = \"large\"\n" := by
  have hcheck : moduleDiagram.check = .ok () := by decide
  obtain ⟨c, hc, _, _, hperm, hfiles, hvalues⟩ :=
    compile_shares_out_document moduleDiagram moduleCatalog hcheck
  obtain rfl := (Diagram.compile_eq_ok_iff.mp hc).2
  have hmain : ((moduleDiagram.compileConsistent moduleCatalog).placedIn "main.tf").map (·.type) =
      ["resource", "provider"] := by decide +kernel
  have hmem : "main.tf" ∈ (moduleDiagram.compileConsistent moduleCatalog).blockFiles := by
    rw [Compiled.mem_blockFiles_iff]
    rintro heq
    rw [heq] at hmain
    cases hmain
  refine ⟨hcheck, _, hc, hperm, ⟨hmain, by decide +kernel⟩, (hfiles _ hmem).2.2, ?_⟩
  rw [hvalues]
  decide +kernel

end Groundplan
