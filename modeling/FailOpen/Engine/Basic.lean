import FailOpen.Loader.Basic

/-!
# Engines

What the bridge can forward to.  The inert engine stands in whenever there is nothing else: it never
starts, never blocks and drops every trace.  A custom engine is supplied by the host under a name.
A native engine forwards to three entry points, which belong either to code linked into the process
or to a mapped library; in the second case the engine holds the module that they came from.
-/

namespace FailOpen

open Text

/-- Code with entry points: a unit linked into the process, or a mapped file. -/
inductive Code where
  | linked (unit : String)
  | image (file : String)
  deriving DecidableEq, Repr

/-- An engine over entry points. -/
structure Engine.Native where
  code : Code
  /-- Keeps the library mapped while the engine can be called. -/
  module : Option Loader.Module := none
  deriving DecidableEq, Repr

inductive Engine where
  | inert
  | custom (name : String)
  | native (engine : Engine.Native)
  deriving DecidableEq, Repr

/-- Whether a module is held, shown for debugging. -/
def shownModule (module : Option Loader.Module) : String :=
  Shape.optional (module.map Loader.Module.shown)

namespace Engine

/-- The name under which events mention an engine. -/
def name : Engine → String
  | .inert => "inert"
  | .custom name => name
  | .native _ => "native"

/-- The module that an engine holds. -/
def module? : Engine → Option Loader.Module
  | .native engine => engine.module
  | _ => none

/-- An engine shown for debugging; a custom engine shows its name. -/
def shown : Engine → String
  | .inert => "InertEngine"
  | .custom name => name
  | .native engine => Shape.record "NativeEngine" [("module", shownModule engine.module)]

end Engine
end FailOpen
