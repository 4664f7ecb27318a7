import SwiftSchema.Pipeline.Lower
import SwiftSchema.Pipeline.Lint
import SwiftSchema.Model.Inheritance
import SwiftSchema.Model.Annotate

/-! # Phases and the pipeline

Normalization runs **phases** on one context: validate (the lints, failing when any error has
been reported), lower, reconcile (inherited properties leave the own lists) and post-process
(template annotations), then any phases added after them. **Plugins** are called before and
after every phase, in the order they were added; a plugin or a phase that fails stops the run
with its message.

The pipeline works in any monad that can fail with a message, so that extensions may keep
state of their own beside the context.

* `Pass` — a built-in phase: the context after it, and its failure if it fails.
* `validatePass`, `lowerPass`, `reconcilePass`, `postProcessPass`.
* `Phase`, `Plugin`, `Pipeline` — phases, hooks and their order; `Pipeline.run`.
* `normalize` — the built-in pipeline, then the normalized result.
-/

namespace SwiftSchema

/-- A **built-in phase**: its name, its description, and what it does to a context — the context
after it, and the message it fails with, if it fails. -/
structure Pass where
  name : String
  description : String
  apply : Context → Context × Option String

/-- The **validate** phase with its lints: their reports added, then a failure when any error
has been reported so far. -/
def validatePass (lints : List Lint) : Pass where
  name := "validate"
  description := "Check schema integrity and collect diagnostics"
  apply c :=
    let c := { c with diagnostics := c.diagnostics ++ lints.flatMap (·.check c.models) }
    (c, if c.hasErrors then some s!"Validation failed with {c.errorCount} error(s)" else none)

/-- The **lower** phase. -/
def lowerPass : Pass := ⟨"lower", "Resolve Swift names and types", fun c => (c.lower, none)⟩

/-- The **reconcile** phase. -/
def reconcilePass : Pass :=
  ⟨"reconcile", "Reconcile properties along inheritance chains",
    fun c => ({ c with models := c.models.reconcileAll.1 }, none)⟩

/-- The **post-process** phase. -/
def postProcessPass : Pass :=
  ⟨"post-process", "Annotate escaped names and optional scalars",
    fun c => ({ c with models := c.models.annotate c.manifest.naming }, none)⟩

/-- The built-in phases in their order. -/
def builtinPasses : List Pass := [validatePass defaultLints, lowerPass, reconcilePass, postProcessPass]

/-- A **phase** run in a monad. -/
structure Phase (m : Type → Type) where
  name : String
  description : String
  run : Context → m Context

/-- A built-in phase as a phase that fails with its message. -/
def Pass.toPhase [Monad m] [MonadExcept String m] (p : Pass) : Phase m where
  name := p.name
  description := p.description
  run c :=
    match p.apply c with
    | (_, some e) => throw e
    | (c, none) => pure c

/-- A **plugin**: hooks called with the phase's name before and after each phase. -/
structure Plugin (m : Type → Type) where
  name : String
  beforePhase : String → Context → m Context
  afterPhase : String → Context → m Context

/-- A plugin whose hooks do nothing. -/
def Plugin.quiet [Pure m] (name : String) : Plugin m := ⟨name, fun _ c => pure c, fun _ c => pure c⟩

/-- A **pipeline**: plugins, and phases to run after the built-in ones, each in order. -/
structure Pipeline (m : Type → Type) where
  plugins : List (Plugin m) := []
  phases : List (Phase m) := []

namespace Pipeline

/-- The pipeline with one more plugin. -/
def plugin (p : Pipeline m) (pl : Plugin m) : Pipeline m := { p with plugins := p.plugins ++ [pl] }

/-- The pipeline with one more phase. -/
def phase (p : Pipeline m) (ph : Phase m) : Pipeline m := { p with phases := p.phases ++ [ph] }

/-- One phase with the plugins' hooks around it. -/
def runPhase [Monad m] (p : Pipeline m) (ph : Phase m) (c : Context) : m Context := do
  let c ← p.plugins.foldlM (fun c pl => pl.beforePhase ph.name c) c
  let c ← ph.run c
  p.plugins.foldlM (fun c pl => pl.afterPhase ph.name c) c

/-- **Run** the built-in phases and then the added ones on the context of a document. -/
def run [Monad m] [MonadExcept String m] (p : Pipeline m) (doc : SchemaDocument) (manifest : Manifest) :
    m Context :=
  (builtinPasses.map Pass.toPhase ++ p.phases).foldlM (fun c ph => p.runPhase ph c) (Context.new doc manifest)

end Pipeline

/-- **Normalize** a document under a manifest: the built-in pipeline, then the result. -/
def normalize (doc : SchemaDocument) (manifest : Manifest) : Except String Normalized := do
  let c ← ({} : Pipeline (Except String)).run doc manifest
  c.output

end SwiftSchema
