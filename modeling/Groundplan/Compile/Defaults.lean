import Groundplan.Catalog.Basic
import Groundplan.Finding

/-!
# Defaults

Properties that are unset get the default of their schema. A required property that has none and
stays unset is reported.
-/

namespace Groundplan

/-- The report of a required property without a value. -/
def Resource.missingFinding (r : Resource) (key : String) : Finding where
  kind := .missingProperty
  message := "'" ++ r.name ++ "' is missing required property '" ++ key ++ "'"
  node := some r.id

def PropertySchema.fill (s : PropertySchema) (r : Resource) : Resource × List Finding :=
  match r.present? s.key, s.default with
  | some _, _ => (r, [])
  | none, some value => (r.setProperty s.key value, [])
  | none, none => (r, if s.required then [r.missingFinding s.key] else [])

/-- Applies the entries of a schema one after the other. -/
def fillDefaults : List PropertySchema → Resource → Resource × List Finding
  | [], r => (r, [])
  | s :: schema, r =>
    let (filled, found) := s.fill r
    let (result, rest) := fillDefaults schema filled
    (result, found ++ rest)

/-- The member with the defaults of its type, and what came up. -/
def Member.withDefaults (types : Registry) (member : Member) : Member × List Finding :=
  match types.get? member.resource.typeId with
  | none => (member, [])
  | some type =>
    let (resource, findings) := fillDefaults type.schema member.resource
    ({ member with resource }, findings)

end Groundplan
