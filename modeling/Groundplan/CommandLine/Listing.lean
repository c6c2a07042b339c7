import Groundplan.Catalog.Basic
import Groundplan.CommandLine.Arguments
import Groundplan.CommandLine.Failure
import Groundplan.Stored.Catalog

/-!
# Listings

What a catalog holds, for people and for programs.
-/

namespace Groundplan

/-- Lines of text, each with its line break. -/
def unlines (lines : List String) : String := String.join (lines.map (· ++ "\n"))

/-- Text filled up with blanks to a number of characters. -/
def padTo (width : Nat) (text : String) : String :=
  text ++ String.ofList (List.replicate (width - text.length) ' ')

namespace ResourceType

def listingLine (t : ResourceType) : String :=
  "   " ++ padTo 45 t.typeId ++ " " ++ t.terraformType.getD "(virtual)"

def listingJson (t : ResourceType) : Json :=
  .object [("type_id", .string t.typeId), ("provider", .string t.provider),
    ("terraform_type", .ofOption (t.terraformType.map .string)),
    ("required", .ofStrings t.requiredKeys)]

def listed (types : Registry) (provider : Option String) : List ResourceType :=
  types.values.filter fun t => provider.all (t.provider == ·)

end ResourceType

namespace Rule

/-- What a rule writes: the end and the property, and the attribute of the other end. -/
def referenceText (r : Rule) : String :=
  r.reference.elim "" fun d =>
    "  (" ++ d.side.name ++ "." ++ d.key ++ " <- ." ++ d.attributeOrId ++ ")"

def listingLine (r : Rule) : String := "   " ++ r.endpoints.text ++ r.referenceText

/-- The rules in a listing, for all types or for those with the given one at an end. -/
def listed (rules : List Rule) (source target : Option String) : List Rule :=
  rules.filter fun r =>
    source.all (r.endpoints.sourceType == ·) && target.all (r.endpoints.targetType == ·)

end Rule

namespace Catalog

def listTypes (n : Notations) (c : Catalog) (provider : Option String) (format : Format) :
    Except Failure String :=
  let types := ResourceType.listed c.types provider
  match format with
  | .json => n.printLine "Failed to serialize types" (.array (types.map (·.listingJson)))
  | .text => .ok <|
    unlines (("📦 Resource types (" ++ toString types.length ++ "):") :: types.map (·.listingLine))

def listRules (n : Notations) (c : Catalog) (source target : Option String) (format : Format) :
    Except Failure String :=
  let rules := Rule.listed c.rules source target
  match format with
  | .json => n.printLine "Failed to serialize rules" (.array (rules.map (·.toJson)))
  | .text => .ok <|
    unlines (("🔗 Connection rules (" ++ toString rules.length ++ "):") :: rules.map (·.listingLine))

end Catalog

end Groundplan
