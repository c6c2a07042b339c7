import Groundplan.Catalog.Basic
import Groundplan.Stored.Diagram

/-!
# The stored form of catalogs

How schemas, rules and naming constraints are written as JSON values and read from markup trees.
-/

namespace Groundplan

namespace FieldKind

def all : List FieldKind :=
  [.string, .number, .boolean, .select, .cidr, .tags, .array, .reference]

def read : Reader FieldKind := Markup.choice (all.map fun kind => (kind.name, kind))

end FieldKind

namespace Validation

def toJson (v : Validation) : Json :=
  .object (Json.optional "min_length" (v.minLength.map Json.ofNat)
    ++ Json.optional "max_length" (v.maxLength.map Json.ofNat)
    ++ Json.optional "min" (v.min.map fun x => .number (.float x))
    ++ Json.optional "max" (v.max.map fun x => .number (.float x))
    ++ Json.optional "pattern" (v.pattern.map .string)
    ++ Json.optional "custom_validator" (v.custom.map .string))

def fields : List (Field Validation) :=
  [.optional "min_length" (Markup.nullable Markup.natural) fun x v => { v with minLength := x },
   .optional "max_length" (Markup.nullable Markup.natural) fun x v => { v with maxLength := x },
   .optional "min" (Markup.nullable Markup.real) fun x v => { v with min := x },
   .optional "max" (Markup.nullable Markup.real) fun x v => { v with max := x },
   .optional "pattern" (Markup.nullable Markup.text) fun x v => { v with pattern := x },
   .optional "custom_validator" (Markup.nullable Markup.text) fun x v => { v with custom := x }]

def read : Reader Validation := Markup.readRecord fields {}

end Validation

namespace PropertySchema

def toJson (s : PropertySchema) : Json :=
  .object ([("key", .string s.key), ("label", .string s.label), ("field_type", .string s.kind.name),
    ("required", .bool s.required)]
    ++ Json.optional "default_value" (s.default.map (·.toJson))
    ++ Json.optional "validation" (s.validation.map (·.toJson)))

def fields : List (Field PropertySchema) :=
  [.required "key" Markup.text fun v s => { s with key := v },
   .required "label" Markup.text fun v s => { s with label := v },
   .required "field_type" FieldKind.read fun v s => { s with kind := v },
   .required "required" Markup.flag fun v s => { s with required := v },
   .optional "default_value" (Markup.nullable Property.read) fun v s => { s with default := v },
   .optional "validation" (Markup.nullable Validation.read) fun v s => { s with validation := v }]

def read : Reader PropertySchema :=
  Markup.readRecord fields { key := "", label := "", kind := .string }

end PropertySchema

namespace NamingConstraints

def toJson (c : NamingConstraints) : Json :=
  .object ([("lowercase", .bool c.lowercase), ("no_hyphens", .bool c.noHyphens)]
    ++ Json.optional "max_length" (c.maxLength.map Json.ofNat))

def fields : List (Field NamingConstraints) :=
  [.optional "lowercase" Markup.flag fun v c => { c with lowercase := v },
   .optional "no_hyphens" Markup.flag fun v c => { c with noHyphens := v },
   .optional "max_length" (Markup.nullable Markup.natural) fun v c => { c with maxLength := v }]

def read : Reader NamingConstraints := Markup.readRecord fields {}

end NamingConstraints

namespace ReferenceDirective

def toJson (d : ReferenceDirective) : Json :=
  .object ([("side", .string d.side.name), ("property_key", .string d.key)]
    ++ Json.optional "attribute" (d.attributeName.map .string))

def fields : List (Field ReferenceDirective) :=
  [.required "side" (Markup.choice [("source", .source), ("target", .target)])
     fun v d => { d with side := v },
   .required "property_key" Markup.text fun v d => { d with key := v },
   .optional "attribute" (Markup.nullable Markup.text) fun v d => { d with attributeName := v }]

def read : Reader ReferenceDirective := Markup.readRecord fields ⟨.source, "", none⟩

end ReferenceDirective

namespace Rule

def toJson (r : Rule) : Json :=
  .object ([("source_type", .string r.endpoints.sourceType),
    ("source_handle", .string r.endpoints.sourceHandle),
    ("target_type", .string r.endpoints.targetType),
    ("target_handle", .string r.endpoints.targetHandle)]
    ++ Json.optional "creates_reference" (r.reference.map (·.toJson))
    ++ Json.optional "label" (r.label.map .string))

def fields : List (Field Rule) :=
  [.required "source_type" Markup.text
     fun v r => { r with endpoints := { r.endpoints with sourceType := v } },
   .required "source_handle" Markup.text
     fun v r => { r with endpoints := { r.endpoints with sourceHandle := v } },
   .required "target_type" Markup.text
     fun v r => { r with endpoints := { r.endpoints with targetType := v } },
   .required "target_handle" Markup.text
     fun v r => { r with endpoints := { r.endpoints with targetHandle := v } },
   .optional "creates_reference" (Markup.nullable ReferenceDirective.read)
     fun v r => { r with reference := v },
   .optional "label" (Markup.nullable Markup.text) fun v r => { r with label := v }]

def read : Reader Rule := Markup.readRecord fields { endpoints := ⟨"", "", "", ""⟩ }

end Rule

end Groundplan
