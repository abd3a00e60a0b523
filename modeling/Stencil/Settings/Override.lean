import Stencil.Document.Notation
import Stencil.Log
import Stencil.Settings.Tree
import Stencil.Text.Letter
import Stencil.Text.Split
import Stencil.Value.Canonical

set_option autoImplicit false

/-!
Settings from the environment. The name of a variable gives a path, and its text a value: a truth
value, a number, a document in brackets or braces, null, or else the text itself without the blanks
around it. Variables are applied in the order of their names.
-/

namespace Stencil.Settings
open Text

structure Variable where
  name : String
  text : String
  deriving DecidableEq, Repr

abbrev Environment := List Variable

/-- The names of all variables that set something begin with this. -/
def variableMark : String := "WHISKER_"

/-- The part of a name after the mark. -/
def Variable.path? (v : Variable) : Option String :=
  if variableMark.toList.isPrefixOf v.name.toList then
    some (String.ofList (v.name.toList.drop variableMark.length))
  else none

def readTruth? (text : String) : Option Bool :=
  let word := lower (strip text)
  if word == "true" then some true else if word == "false" then some false else none

/-- Digits with a sign or without. -/
def isIntNotation (text : String) : Bool :=
  let (_, digits) := Binary64.takeSign (strip text).toList
  !digits.isEmpty && digits.all isDecimal

/-- Digits with one point before, after or among them, and with a sign or without. -/
def isFloatNotation (text : String) : Bool :=
  let (_, unsigned) := Binary64.takeSign (strip text).toList
  let whole := unsigned.takeWhile isDecimal
  match unsigned.drop whole.length with
  | '.' :: fraction => fraction.all isDecimal && !(whole.isEmpty && fraction.isEmpty)
  | _ => false

/-- Brackets or braces at both ends. -/
def isEnclosed (text : String) : Bool :=
  let cs := (strip text).toList
  (cs.head? == some '\x7b' && cs.getLast? == some '\x7d') ||
    (cs.head? == some '[' && cs.getLast? == some ']')

def isNullNotation (text : String) : Bool := lower (strip text) == "null"

/-- A document, unless it is malformed. -/
def readEnclosed (text : String) : Except Fault (Option Value) :=
  match Document.readNotation (strip text).toList with
  | .ok value => .ok (some value)
  | .error .malformed => .ok none
  | .error (.longNumeral fault) => .error (.numeral fault)

def readPlain (text : String) : Value :=
  if isNullNotation text then .null else .text (strip text)

/-- The value that a text stands for. -/
def coerce (text : String) : Except Fault Value :=
  match readTruth? text with
  | some b => .ok (.bool b)
  | none =>
      if isIntNotation text then ((readInt text).map Value.int).mapError .numeral
      else if isFloatNotation text then
        .ok ((Binary64.readText? (strip text)).elim (readPlain text) .float)
      else if isEnclosed text then do return (← readEnclosed text).getD (readPlain text)
      else .ok (readPlain text)

/-- Double underscores separate the segments if there are any, and single ones otherwise. -/
def segments (name : String) : List String :=
  match splitAt "__" name with
  | [_] => splitAt "_" name
  | several => several

def readStep (segment : String) : Except Fault Step :=
  if segment.toList.all isDigit then
    ((readInt segment).map fun n => Step.index n.toNat).mapError .numeral
  else .ok (.key (lower segment))

/-- The path of a name. An empty segment is a fault if `strict` and spoils the name otherwise. -/
def readSegments (strict : Bool) (name : String) : List String → Except Fault Path
  | [] => .ok []
  | segment :: rest =>
      if segment.isEmpty then if strict then .error (.malformedVariable name) else .ok []
      else do
        let step ← readStep segment
        match ← readSegments strict name rest, rest with
        | [], _ :: _ => return []
        | path, _ => return step :: path

def readPath (strict : Bool) (name : String) : Except Fault Path :=
  if name.isEmpty then .ok [] else readSegments strict name (segments name)

/-- What a variable asks for. -/
structure Override where
  name : String
  path : Path
  value : Value

/-- The override of a variable, if it makes one. -/
def Variable.override? (strict : Bool) (v : Variable) : Except Fault (Option Override) :=
  match v.path? with
  | none => .ok none
  | some name => do
      match ← readPath strict name with
      | [] => return none
      | path => return some ⟨name, path, ← coerce v.text⟩

def Environment.ordered (environment : Environment) : Environment :=
  environment.mergeSort fun a b => decide (a.name ≤ b.name)

def Override.record (override : Override) : LogRecord :=
  ⟨"manager", LogRecord.debugLevel, "Applying env override " ++ variableMark ++ override.name⟩

/-- Settings after some variables, the records of those applied, and the fault that stopped it. -/
structure Applied where
  settings : Tree
  records : List LogRecord
  fault : Option Fault

def applyOverride (settings : Tree) (override : Override) : Applied :=
  let (settings, fault) := settings.assign override.value override.path
  ⟨settings, [override.record], fault.map .assignment⟩

def applyVariables (strict : Bool) : Tree → List Variable → Applied
  | settings, [] => ⟨settings, [], none⟩
  | settings, v :: rest =>
      match v.override? strict with
      | .error fault => ⟨settings, [], some fault⟩
      | .ok none => applyVariables strict settings rest
      | .ok (some override) =>
          let step := applyOverride settings override
          match step.fault with
          | some fault => ⟨step.settings, step.records, some fault⟩
          | none =>
              let others := applyVariables strict step.settings rest
              ⟨others.settings, step.records ++ others.records, others.fault⟩

def applyEnvironment (strict : Bool) (settings : Tree) (environment : Environment) : Applied :=
  applyVariables strict settings environment.ordered

end Stencil.Settings
