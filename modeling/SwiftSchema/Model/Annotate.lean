import SwiftSchema.Model.Map
import SwiftSchema.Naming.Context

/-! # Template annotations

Before templates see a model, its properties are flagged: an **optional scalar** is a scalar
property written as an optional type, an **escaped name** is a Swift name that differs from the
raw one. A model with any escaped name in any of its lists is flagged too. Flags are only ever
set, so annotating twice changes nothing more.

* `Property.annotate`, `Model.annotate`, `ModelMap.annotate` — the annotations.
-/

namespace SwiftSchema

open SwiftSchema.Naming

/-- A property with its flags set: optional scalar when it is a scalar written optional under
the context, escaped name when its name differs from its raw name. -/
def Property.annotate (ctx : NamingContext) (p : Property) : Property :=
  let ext := if ctx.isOptional p.required && p.scalar.isSome then
    { p.extensions with optionalScalar := true } else p.extensions
  let ext := if p.isEscaped then { ext with escapedName := true } else ext
  { p with extensions := ext }

/-- A model with every property of its three lists annotated, and flagged as having escaped
names when one of them is escaped. -/
def Model.annotate (ctx : NamingContext) (m : Model) : Model :=
  let escaped := (m.vars ++ m.allVars ++ m.parentVars).any Property.isEscaped
  { m with
    vars := m.vars.map (·.annotate ctx)
    allVars := m.allVars.map (·.annotate ctx)
    parentVars := m.parentVars.map (·.annotate ctx)
    extensions := if escaped then { m.extensions with hasEscapedNames := true } else m.extensions }

/-- Every model annotated. -/
def ModelMap.annotate (ctx : NamingContext) (ms : ModelMap) : ModelMap := ms.mapModels (·.annotate ctx)

end SwiftSchema
