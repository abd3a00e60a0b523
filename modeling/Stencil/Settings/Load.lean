import Stencil.Document.Folder
import Stencil.Settings.Override
import Stencil.Settings.Validator

set_option autoImplicit false

/-!
Loading settings: the bundled layer, the documents of a project over it, the environment over both,
and then a check against the schema.
-/

namespace Stencil.Settings
open Text

/-- What settings and templates are loaded with: a reader of documents and a validator. -/
structure Loader where
  read : String → Except Fault Document
  check : Validator

/-- The bundled settings, below all others. -/
def bundled : Tree := .ofValue 0 [] (.map defaults)

/-- The layers of documents, before the environment. -/
def layers (loader : Loader) (project : Option Folder) : Except Fault Tree :=
  match project with
  | none => .ok bundled
  | some folder =>
      (folder.merge loader.read bundled).mapError fun fault =>
        match fault with
        | .malformedDocument => .unusableSettings fault.message true
        | _ => .unusableSettings fault.message false

structure LoadOptions where
  validated : Bool
  strict : Bool
  deriving DecidableEq, Repr

def LoadOptions.standard : LoadOptions := ⟨true, false⟩

def load (loader : Loader) (options : LoadOptions) (project : Option Folder)
    (environment : Environment) : Except Fault Tree := do
  let settings ← layers loader project
  let applied := applyEnvironment options.strict settings environment
  match applied.fault with
  | some fault => throw fault
  | none =>
      if options.validated then
        validate loader.check true settingsSchemaName applied.settings.value
      return applied.settings

/-- The setting at a dotted path of keys, or the default. -/
def lookup (settings : Value) (key : String) (otherwise : Value) : Value :=
  (get? settings ((splitAt "." key).map .key)).getD otherwise

end Stencil.Settings
