import Stencil.Node.Build
import Stencil.Settings.Load

set_option autoImplicit false

/-!
The written form of templates. A text is fixed text, a list a sequence, and a map one of

    literal: TEXT
    placeholder: PATH, escape: FLAG
    section: PATH, invert: FLAG, body: LIST

where the flags may be left out. A validator sees to it first that there is nothing besides; without
that check, the first of these keys decides and flags may be any values.
-/

namespace Stencil.Node

def flagOf (key : String) (entries : List (Value × Value)) : Value :=
  .bool ((Value.entry? key entries).any Value.truth)

/-- The node that a map describes, given what its body describes. -/
def ofEntries (kind : String) (entries : List (Value × Value))
    (body : Except Fault (List Node)) : Except Fault Node :=
  match Value.entry? "literal" entries, Value.entry? "placeholder" entries,
    Value.entry? "section" entries with
  | some text, _, _ => makeLiteral text
  | none, some path, _ => makePlaceholder path (flagOf "escape" entries)
  | none, none, some path => do
      makeBlock path (flagOf "invert" entries) (.node (.sequence (← body)))
  | none, none, none => .error (.template (.unrecognized kind))

mutual

/-- The template that a value describes, whether or not it keeps to the grammar. -/
def build : Value → Except Fault Node
  | .text s => .ok (.literal s)
  | .list items => do return .sequence (← buildAll items)
  | .map entries => ofEntries "dict" entries (buildBody entries)
  | .object profile _ (.mapping entries) => ofEntries profile.type entries (buildBody entries)
  | other => .error (.template (.unrecognized other.kindName))

def buildAll : List Value → Except Fault (List Node)
  | [] => .ok []
  | value :: rest => do
      let node ← build value
      return node :: (← buildAll rest)

def buildBody : List (Value × Value) → Except Fault (List Node)
  | [] => .error (.template (.listExpected "NoneType"))
  | (key, value) :: rest => if key.isText "body" then buildList value else buildBody rest

def buildList : Value → Except Fault (List Node)
  | .list items => buildAll items
  | other => .error (.template (.listExpected other.kindName))

end

/-- The template that a value describes, if a validator has nothing against the value. -/
def ofValue (validator : Settings.Validator) (value : Value) : Except Fault Node := do
  match ← validator .template value with
  | none => build value
  | some violation => throw (.template (.grammar violation.reason violation.pathText))

/-- The template that a document describes. -/
def ofDocument (loader : Settings.Loader) (file : String) : Option String → Except Fault Node
  | none => .error (.noFile ("[Errno 2] No such file or directory: '" ++ file ++ "'"))
  | some text =>
      match loader.read text with
      | .ok document => ofValue loader.check document.value
      | .error .malformedDocument => .error (.template (.unreadable file))
      | .error fault => .error fault

mutual

/-- The written form of a template. Custom nodes have none. -/
def toValue : Node → Except Fault Value
  | .literal s => .ok (.ofFields [("literal", .text s)])
  | .placeholder path escape =>
      .ok (.ofFields (("placeholder", .text path.text) ::
        (if escape.truth then [("escape", .bool true)] else [])))
  | .block path invert body => do
      let items ← toValues body
      return .ofFields [("section", .text path.text), ("invert", invert), ("body", .list items)]
  | .sequence children => do return .list (← toValues children)
  | .custom label => .error (.template (.unwritable (Node.custom label).name))

def toValues : List Node → Except Fault (List Value)
  | [] => .ok []
  | node :: rest => do
      let value ← toValue node
      return value :: (← toValues rest)

end

end Stencil.Node
