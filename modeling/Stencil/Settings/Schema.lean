import Stencil.Settings.Path
import Stencil.Value.Canonical

set_option autoImplicit false

/-!
Schemas of settings, and what there is to object to in a value under a schema, with the path to each
part that is objected to. Of several objections the one with the shortest path is reported, then the
one with the greatest, then the first; but all are put into words before.
-/

namespace Stencil.Settings

inductive Schema where
  | text (nonempty : Bool)
  | choice (options : List String)
  | textOrNull
  | flag
  | list (items : Schema)
  | map (properties : List (String × Schema)) (required : List String) (closed : Bool)

structure Violation where
  path : Path
  reason : String
  deriving DecidableEq, Repr

/-- An objection to what stands at a path. There are no words for it if they show a value that has
no text. -/
structure Objection where
  path : Path
  reason : Except Fault String

def Objection.violation (objection : Objection) : Except Fault Violation :=
  objection.reason.map fun reason => ⟨objection.path, reason⟩

/-- Words that show some values. -/
def spoken (shown : List Value) (words : String) : Except Fault String :=
  if shown.all Value.hasText then .ok words else .error (.numeral .unwritable)

namespace Schema

def typeReason (value : Value) (types : List String) : Except Fault String :=
  spoken [value] (value.nestedText ++ " is not of type " ++ Value.joined (types.map Text.quoted))

def textListText (texts : List String) : String :=
  "[" ++ Value.joined (texts.map Text.quoted) ++ "]"

/-- Keys beside the properties, in the order of their texts. -/
def extraKeys (properties : List String) (entries : List (Value × Value)) : List Value :=
  ((entries.map (·.1)).filter fun key => !properties.any fun name => key.isText name).mergeSort
    fun a b => decide (a.toText ≤ b.toText)

def extraReason (extras : List Value) : Except Fault String :=
  spoken extras ("Additional properties are not allowed (" ++
    Value.joined (extras.map Value.nestedText) ++
    (if extras.length = 1 then " was" else " were") ++ " unexpected)")

def missingReason (name : String) : Except Fault String :=
  .ok (Text.quoted name ++ " is a required property")

def choiceReason (value : Value) (options : List String) : Except Fault String :=
  spoken [value] (value.nestedText ++ " is not one of " ++ textListText options)

def choiceObjections (path : Path) (options : List String) (value : Value) : List Objection :=
  let kinds :=
    match value with
    | .text _ => []
    | _ => [⟨path, typeReason value ["string"]⟩]
  if options.any fun option => value.isText option then kinds
  else kinds ++ [⟨path, choiceReason value options⟩]

/-- Required names that are missing, and extra keys of a closed map. -/
def entryObjections (path : Path) (names required : List String) (closed : Bool)
    (entries : List (Value × Value)) : List Objection :=
  let missing := required.filter fun name => (Value.entry? name entries).isNone
  let extras := extraKeys names entries
  (missing.map fun name => ⟨path, missingReason name⟩) ++
    (if closed && !extras.isEmpty then [⟨path, extraReason extras⟩] else [])

mutual

/-- All objections at or below a path, in the order in which they are met. -/
def objections (path : Path) : Schema → Value → List Objection
  | .text nonempty, value =>
      match value with
      | .text s =>
          if nonempty && s.isEmpty then [⟨path, .ok "'' should be non-empty"⟩] else []
      | _ => [⟨path, typeReason value ["string"]⟩]
  | .choice options, value => choiceObjections path options value
  | .textOrNull, value =>
      match value with
      | .text _ | .null => []
      | _ => [⟨path, typeReason value ["string", "null"]⟩]
  | .flag, value =>
      match value with
      | .bool _ => []
      | _ => [⟨path, typeReason value ["boolean"]⟩]
  | .list items, value =>
      match value with
      | .list values =>
          (values.zipIdx.map fun (item, position) =>
            objections (path ++ [.index position]) items item).flatten
      | _ => [⟨path, typeReason value ["array"]⟩]
  | .map properties required closed, value =>
      match value with
      | .map entries =>
          propertyObjections path entries properties ++
            entryObjections path (properties.map (·.1)) required closed entries
      | _ => [⟨path, typeReason value ["object"]⟩]

def propertyObjections (path : Path) (entries : List (Value × Value)) :
    List (String × Schema) → List Objection
  | [] => []
  | (name, schema) :: rest =>
      ((entries.filter fun entry => entry.1.isText name).flatMap fun entry =>
        objections (path ++ [.key name]) schema entry.2) ++ propertyObjections path entries rest

end

end Schema

namespace Step

def toText : Step → String
  | key name => name
  | index position => Value.numberText position

/-- Keys go by their texts and positions by their numbers. -/
def isGreater : Step → Step → Bool
  | key a, key b => decide (b < a)
  | index m, index n => decide (n < m)
  | _, _ => false

end Step

namespace Violation

def pathText (violation : Violation) : String :=
  String.intercalate "." (violation.path.map Step.toText)

/-- At the first difference the greater step decides. -/
def isGreater : Path → Path → Bool
  | s :: rest, t :: others => if s = t then isGreater rest others else s.isGreater t
  | _, _ => false

/-- Whether the second violation is reported rather than the first. -/
def isOutranked (first second : Violation) : Bool :=
  decide (second.path.length < first.path.length) ||
    (second.path.length == first.path.length && isGreater second.path first.path)

/-- The violation to report. -/
def choose? : List Violation → Option Violation
  | [] => none
  | first :: rest =>
      some (rest.foldl (fun best other => if isOutranked best other then other else best) first)

end Violation
end Stencil.Settings
