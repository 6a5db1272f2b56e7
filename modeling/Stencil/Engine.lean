import Stencil.Helper.Builtin
import Stencil.Render.Evaluation
import Stencil.Report

/-!
# Engines

An engine is a registry of helpers together with the rendering of templates.  Rendering never
changes the engine.
-/

namespace Stencil

/-- A registry of helpers that templates are rendered with. -/
structure Engine where
  /-- The helpers. -/
  registry : Registry := .builtin

namespace Engine

/-- Add a helper, in place of one of the same name. -/
def register (engine : Engine) (name : Text) (helper : Helper) : Engine :=
  { engine with registry := Dictionary.insert name helper engine.registry }

/-- Add several helpers, the later ones in place of the earlier ones. -/
def registerAll (engine : Engine) (helpers : Registry) : Engine :=
  { engine with registry := Dictionary.insertAll engine.registry helpers }

/-- What stays the same throughout a rendering with the given settings. -/
def environment (engine : Engine) (options : Options) : Environment :=
  ⟨options, ⟨options.overrides, engine.registry⟩⟩

/-- The run of a rendering, its output trimmed if the settings say so. -/
def run (engine : Engine) (template : Text) (data : Value) (options : Options) : Run Text := do
  let output ← (engine.environment options).evaluateTemplate template data
  return if options.trims then Text.trim output else output

/-- Render a template against data. -/
def process
    (engine : Engine)
    (template : Text)
    (data : Value)
    (options : Options) : Report :=
  Report.ofRun template (engine.run template data options)

end Engine

/-- Render a template against data with the built-in helpers only. -/
def process (template : Text) (data : Value) (options : Options) : Report :=
  ({} : Engine).process template data options

end Stencil
