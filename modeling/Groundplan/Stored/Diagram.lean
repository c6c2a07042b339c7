import Groundplan.Diagram.Basic
import Groundplan.Markup.Reading

/-!
# The stored form of diagrams

How diagrams and their parts are written as JSON values and read from markup trees. A property value
is told by its kind alone: a reference is a record with a `ref` field, everything else stands for
itself, and there is no value for null.
-/

namespace Groundplan

def Dictionary.toJson {α : Type} (value : α → Json) (d : Dictionary α) : Json :=
  .object (d.entries.map fun entry => (entry.1, value entry.2))

namespace Property

mutual

def toJson : Property → Json
  | .bool b => .bool b
  | .number n => .number n
  | .string s => .string s
  | .list items => .array (toJsonItems items)
  | .reference expression => .object [("ref", .string expression)]

def toJsonItems : List Property → List Json
  | [] => []
  | item :: items => toJson item :: toJsonItems items

end

/-- Whether a key can name a field: a string can, and so can the position of the field. -/
def namesField : Markup → Bool
  | .scalar (.text _) _ => true
  | .scalar (.number (.integer n)) _ => 0 ≤ n
  | _ => false

/-- Whether a key names the only field of a reference. -/
def namesReference : Markup → Bool
  | .scalar (.text s) _ => s == "ref"
  | .scalar (.number (.integer n)) _ => n == 0
  | _ => false

/-- The reference that a record stands for: it names its expression once. -/
def referenceOf? (fields : List (Markup × Markup)) : Option Property :=
  if fields.all fun field => namesField field.1 then
    match fields.filter fun field => namesReference field.1 with
    | [(_, .scalar (.text expression) _)] => some (.reference expression)
    | _ => none
  else none

mutual

/-- The value that a usable tree stands for. -/
def ofMarkup? : Markup → Option Property
  | .scalar (.bool b) _ => some (.bool b)
  | .scalar (.number n) _ => some (.number n)
  | .scalar (.text s) _ => some (.string s)
  | .list _ items => (ofMarkupItems? items).map .list
  | .record fields => referenceOf? fields
  | _ => none

def ofMarkupItems? : List Markup → Option (List Property)
  | [] => some []
  | item :: items =>
    match ofMarkup? item, ofMarkupItems? items with
    | some value, some values => some (value :: values)
    | _, _ => none

end

/-- Reads a property value. The whole of it is taken in before its kind is looked at. -/
def read : Reader Property := fun markup =>
  if markup.usable then
    match ofMarkup? markup with
    | some value => .ok value
    | none => .error .unfit
  else .error .malformed

end Property

namespace Mode

def name : Mode → String
  | .literal => "literal"
  | .exposed => "variable"

def read : Reader Mode := Markup.choice [("literal", .literal), ("variable", .exposed)]

end Mode

namespace Resource

/-- A resource; its modes are left out when there are none. -/
def toJson (r : Resource) : Json :=
  let modes := r.modes.toJson fun mode => .string mode.name
  .object ([("id", .string r.id), ("type_id", .string r.typeId), ("name", .string r.name),
    ("properties", r.properties.toJson (·.toJson))]
    ++ Json.optional "variable_overrides" (if r.modes.isEmpty then none else some modes))

def fields : List (Field Resource) :=
  [.required "id" Markup.text fun v r => { r with id := v },
   .required "type_id" Markup.text fun v r => { r with typeId := v },
   .required "name" Markup.text fun v r => { r with name := v },
   .optional "properties" (Markup.dictionary Property.read) fun v r => { r with properties := v },
   .optional "variable_overrides" (Markup.dictionary Mode.read) fun v r => { r with modes := v }]

def read : Reader Resource := Markup.readRecord fields { id := "", typeId := "", name := "" }

end Resource

namespace Edge

def toJson (e : Edge) : Json :=
  .object [("id", .string e.id), ("source_node_id", .string e.source),
    ("source_handle", .string e.sourceHandle), ("target_node_id", .string e.target),
    ("target_handle", .string e.targetHandle)]

def fields : List (Field Edge) :=
  [.required "id" Markup.text fun v e => { e with id := v },
   .required "source_node_id" Markup.text fun v e => { e with source := v },
   .required "source_handle" Markup.text fun v e => { e with sourceHandle := v },
   .required "target_node_id" Markup.text fun v e => { e with target := v },
   .required "target_handle" Markup.text fun v e => { e with targetHandle := v }]

def read : Reader Edge := Markup.readRecord fields ⟨"", "", "", "", ""⟩

end Edge

namespace Naming

def toJson (n : Naming) : Json :=
  .object ([("enabled", .bool n.enabled), ("template", .string n.template)]
    ++ Json.optional "env" (n.env.map .string)
    ++ Json.optional "region" (n.region.map .string)
    ++ Json.optional "org" (n.org.map .string))

def fields : List (Field Naming) :=
  [.optional "enabled" Markup.flag fun v n => { n with enabled := v },
   .optional "template" Markup.text fun v n => { n with template := v },
   .optional "env" (Markup.nullable Markup.text) fun v n => { n with env := v },
   .optional "region" (Markup.nullable Markup.text) fun v n => { n with region := v },
   .optional "org" (Markup.nullable Markup.text) fun v n => { n with org := v }]

def read : Reader Naming := Markup.readRecord fields {}

end Naming

namespace Backend

def toJson (b : Backend) : Json :=
  .object [("type", .string b.type), ("config", b.config.toJson .string)]

def fields : List (Field Backend) :=
  [.required "type" Markup.text fun v b => { b with type := v },
   .optional "config" (Markup.dictionary Markup.text) fun v b => { b with config := v }]

def read : Reader Backend := Markup.readRecord fields { type := "" }

end Backend

namespace Project

def toJson (p : Project) : Json :=
  .object ([("provider_configs", p.providerConfigs.toJson (·.toJson (·.toJson))),
    ("common_tags", p.commonTags.toJson .string),
    ("terraform_version", .string p.terraformVersion)]
    ++ Json.optional "backend" (p.backend.map (·.toJson))
    ++ [("variable_values", p.variableValues.toJson .string)])

def fields : List (Field Project) :=
  [.optional "provider_configs" (Markup.dictionary (Markup.dictionary Property.read))
     fun v p => { p with providerConfigs := v },
   .optional "common_tags" (Markup.dictionary Markup.text) fun v p => { p with commonTags := v },
   .optional "terraform_version" Markup.text fun v p => { p with terraformVersion := v },
   .optional "backend" (Markup.nullable Backend.read) fun v p => { p with backend := v },
   .optional "variable_values" (Markup.dictionary Markup.text)
     fun v p => { p with variableValues := v }]

def read : Reader Project := Markup.readRecord fields {}

end Project

namespace Diagram

def toJson (d : Diagram) : Json :=
  .object [("nodes", .array (d.nodes.map (·.toJson))), ("edges", .array (d.edges.map (·.toJson))),
    ("naming", d.naming.toJson), ("project", d.project.toJson)]

def fields : List (Field Diagram) :=
  [.optional "nodes" (Markup.items Resource.read) fun v d => { d with nodes := v },
   .optional "edges" (Markup.items Edge.read) fun v d => { d with edges := v },
   .optional "naming" Naming.read fun v d => { d with naming := v },
   .optional "project" Project.read fun v d => { d with project := v }]

def read : Reader Diagram := Markup.readRecord fields {}

end Diagram

end Groundplan
