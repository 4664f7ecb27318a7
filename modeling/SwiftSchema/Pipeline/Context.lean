import SwiftSchema.Pipeline.Diagnostic
import SwiftSchema.Manifest.Basic
import SwiftSchema.Schema.Fold
import SwiftSchema.Naming.Namer

/-! # The generation context

Normalization works on one **context**: the manifest, the models by raw name, the operations,
and the diagnostics reported so far, in the order they were reported. When the phases are done
the models and operations are handed out as the **normalized** result, unless an error was
reported; then the failure lists every error.

* `Context` — the state of a run; `Context.namer` names by the manifest's options.
* `Context.output` — the normalized result, or the failure message.
* `Normalized.toValue` — the written result: models keyed by raw name, then operations.
-/

namespace SwiftSchema

open SwiftSchema.Naming

/-- The **generation context** of a run. -/
structure Context where
  manifest : Manifest := {}
  models : ModelMap := {}
  operations : List Operation := []
  diagnostics : List Diagnostic := []
  deriving Repr

/-- The **normalized** models and operations. -/
structure Normalized where
  models : ModelMap
  operations : List Operation
  deriving Repr

namespace Context

/-- The context of a schema document under a manifest, with no diagnostics yet. -/
def new (doc : SchemaDocument) (manifest : Manifest) : Context :=
  ⟨manifest, doc.models, doc.operations, []⟩

/-- The namer of a run: the Swift convention with the manifest's naming options and reserved
words. -/
def namer (c : Context) : Namer := { context := c.manifest.naming, reserved := c.manifest.reservedTable }

/-- The errors reported so far. -/
def errors (c : Context) : List Diagnostic := c.diagnostics.filter Diagnostic.isError

/-- The warnings reported so far. -/
def warnings (c : Context) : List Diagnostic := c.diagnostics.filter Diagnostic.isWarning

/-- Whether an error was reported. -/
def hasErrors (c : Context) : Bool := c.diagnostics.any Diagnostic.isError

/-- Whether a warning was reported. -/
def hasWarnings (c : Context) : Bool := c.diagnostics.any Diagnostic.isWarning

/-- The number of errors reported. -/
def errorCount (c : Context) : Nat := c.errors.length

/-- The number of warnings reported. -/
def warningCount (c : Context) : Nat := c.warnings.length

/-- The context with one more diagnostic. -/
def report (c : Context) (d : Diagnostic) : Context := { c with diagnostics := c.diagnostics ++ [d] }

/-- The context with one more error of a phase. -/
def addError (c : Context) (phase message : String) : Context := c.report (.error phase message)

/-- The context with one more warning of a phase. -/
def addWarning (c : Context) (phase message : String) : Context := c.report (.warning phase message)

/-- The context with one more info of a phase. -/
def addInfo (c : Context) (phase message : String) : Context := c.report (.info phase message)

/-- The **normalized result**, or, when errors were reported, the failure naming each. -/
def output (c : Context) : Except String Normalized :=
  if c.hasErrors then
    let errors := c.errors.map Diagnostic.display
    .error (s!"Normalization failed with {errors.length} error(s):\n" ++ "\n".intercalate errors)
  else .ok ⟨c.models, c.operations⟩

end Context

/-- The written form of a normalized result: models keyed by raw name, then operations. -/
def Normalized.toValue (n : Normalized) : Json.Value :=
  .object [("models", .object (n.models.entries.map fun (k, m) => (k, m.toValue))),
    ("operations", .array (n.operations.map Operation.toValue))]

/-- The indented text of a normalized result. -/
def Normalized.text (n : Normalized) : String := n.toValue.pretty 0

end SwiftSchema
