import Groundplan.Compile.Basic

/-!
# Generated files

The conventional layout of a configuration: each kind of declaration has a file of its own, and a
file without declarations is left out.
-/

namespace Groundplan

/-- The file to which a block belongs that a generator has returned. -/
def Block.fileName (b : Block) : String :=
  match b.type with
  | "variable" => "variables.tf"
  | "output" => "outputs.tf"
  | _ => "main.tf"

namespace Compiled

/-- The returned blocks that belong to the given file. -/
def blocksIn (c : Compiled) (file : String) : List Block := c.blocks.filter (·.fileName == file)

def fileBlocks (c : Compiled) : List (String × List Block) :=
  [("terraform.tf", [c.terraform]),
   ("providers.tf", c.providers),
   ("locals.tf", c.locals.toList),
   ("main.tf", c.blocksIn "main.tf"),
   ("variables.tf", c.variables.map (·.toBlock) ++ c.blocksIn "variables.tf"),
   ("outputs.tf", c.blocksIn "outputs.tf" ++ c.outputs.map (·.toBlock))]

def files (c : Compiled) : Dictionary String :=
  let blockFiles := (c.fileBlocks.filter (!·.2.isEmpty)).map fun file =>
    (file.1, Block.renderAll file.2)
  let valueFiles := c.valueFile.toList.map fun text => ("terraform.tfvars", text)
  Dictionary.ofList (blockFiles ++ valueFiles)

end Compiled

end Groundplan
