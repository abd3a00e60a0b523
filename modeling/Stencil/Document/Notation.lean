import Stencil.Fault
import Stencil.Text.Digit

set_option autoImplicit false

/-!
A notation of values: lists in brackets, maps in braces, quoted texts, numerals and a few words.
-/

namespace Stencil

inductive DocumentFault where
  | malformed
  | longNumeral (fault : Text.NumeralFault)

namespace DocumentFault

def fault : DocumentFault → Fault
  | malformed => .malformedDocument
  | longNumeral f => .numeral f

end DocumentFault

namespace Document
open Text

/-- A reader takes what it reads off the front. -/
abbrev Reader (α : Type) := List Char → Except DocumentFault (α × List Char)

def isGap (c : Char) : Bool := c == ' ' || c == '\t' || c == '\n' || c == '\r'

def skipGap (cs : List Char) : List Char := cs.dropWhile isGap

def hexValue? (digits : List Char) : Option Nat :=
  digits.foldl (fun n c => do pure ((← n) * 16 + (← hexDigit? c))) (some 0)

/-- The code unit of a numbered escape. -/
def takeUnit : Reader Nat := fun cs =>
  match cs with
  | a :: b :: c :: d :: rest =>
      match hexValue? [a, b, c, d] with
      | some n => .ok (n, rest)
      | none => .error .malformed
  | _ => .error .malformed

def isHighUnit (n : Nat) : Bool := 0xD800 ≤ n && n < 0xDC00

def isLowUnit (n : Nat) : Bool := 0xDC00 ≤ n && n < 0xE000

/-- What stands for half of a pair that lacks the other half. -/
def replacement : Char := Char.ofNat 0xFFFD

def charOfUnit (n : Nat) : Char := if isHighUnit n || isLowUnit n then replacement else Char.ofNat n

/-- The character of a numbered escape, two of which may make up one character. -/
def takeNumbered : Reader Char := fun cs => do
  let (first, rest) ← takeUnit cs
  match rest with
  | '\\' :: 'u' :: more =>
      if isHighUnit first then
        match takeUnit more with
        | .ok (second, after) =>
            if isLowUnit second then
              pure (Char.ofNat (0x10000 + (first - 0xD800) * 0x400 + (second - 0xDC00)), after)
            else pure (replacement, rest)
        | .error _ => pure (replacement, rest)
      else pure (charOfUnit first, rest)
  | _ => pure (charOfUnit first, rest)

def plainEscape? : Char → Option Char
  | '"' => some '"'
  | '\\' => some '\\'
  | '/' => some '/'
  | 'b' => some '\x08'
  | 'f' => some '\x0c'
  | 'n' => some '\n'
  | 'r' => some '\r'
  | 't' => some '\t'
  | _ => none

/-- The rest of a quoted text, up to its closing quote. Control characters have to be escaped. -/
def takeQuoted : Nat → Reader (List Char)
  | 0, _ => .error .malformed
  | fuel + 1, cs =>
      match cs with
      | '"' :: rest => .ok ([], rest)
      | '\\' :: 'u' :: rest => do
          let (c, rest) ← takeNumbered rest
          let (more, rest) ← takeQuoted fuel rest
          pure (c :: more, rest)
      | '\\' :: mark :: rest =>
          match plainEscape? mark with
          | none => .error .malformed
          | some c => do
              let (more, rest) ← takeQuoted fuel rest
              pure (c :: more, rest)
      | c :: rest =>
          if c.toNat < 32 || c == '\\' then .error .malformed
          else do
            let (more, rest) ← takeQuoted fuel rest
            pure (c :: more, rest)
      | [] => .error .malformed

def takeText (cs : List Char) : Except DocumentFault (String × List Char) := do
  let (text, rest) ← takeQuoted (cs.length + 1) cs
  pure (String.ofList text, rest)

def isPlainDigit (c : Char) : Bool := '0' ≤ c && c ≤ '9'

/-- Digits of a whole part: a zero stands alone. -/
def takeWhole (cs : List Char) : List Char × List Char :=
  match cs with
  | '0' :: rest => (['0'], rest)
  | _ => (cs.takeWhile isPlainDigit, cs.dropWhile isPlainDigit)

/-- A fraction is a point with digits after it. -/
def takeFraction (cs : List Char) : List Char × List Char :=
  match cs with
  | '.' :: rest =>
      let digits := rest.takeWhile isPlainDigit
      if digits.isEmpty then ([], cs) else ('.' :: digits, rest.drop digits.length)
  | _ => ([], cs)

def takeExponent (cs : List Char) : List Char × List Char :=
  match cs with
  | mark :: rest =>
      if mark == 'e' || mark == 'E' then
        let sign := rest.takeWhile fun c => c == '+' || c == '-'
        let digits := (rest.drop sign.length).takeWhile isPlainDigit
        if sign.length ≤ 1 && !digits.isEmpty then
          (mark :: sign ++ digits, rest.drop (sign.length + digits.length))
        else ([], cs)
      else ([], cs)
  | [] => ([], cs)

/-- A numeral without a fraction or an exponent is a whole number. -/
def takeNumber (negative : Bool) : Reader Value := fun cs => do
  let (whole, rest) := takeWhole cs
  if whole.isEmpty then throw .malformed
  let (fraction, rest) := takeFraction rest
  let (exponent, rest) := takeExponent rest
  if fraction.isEmpty && exponent.isEmpty then
    if numeralLimit < whole.length then throw (.longNumeral (.tooLong whole.length))
    let n : Int := numeralValue whole
    pure (.int (if negative then -n else n), rest)
  else
    match Binary64.readUnsigned? negative (whole ++ fraction ++ exponent) with
    | some x => pure (.float x, rest)
    | none => throw .malformed

def words : List (String × Value) :=
  [("null", .null), ("true", .bool true), ("false", .bool false), ("NaN", .float .nan),
    ("Infinity", .float (.infinite false)), ("-Infinity", .float (.infinite true))]

def takeWord? (cs : List Char) : Option (Value × List Char) :=
  (words.find? fun word => word.1.toList.isPrefixOf cs).map fun word =>
    (word.2, cs.drop word.1.length)

/-- Texts, numbers and words. -/
def takeScalar : Reader Value := fun cs =>
  match takeWord? cs with
  | some result => .ok result
  | none =>
      match cs with
      | '"' :: rest => do
          let (text, rest) ← takeText rest
          pure (.text text, rest)
      | '-' :: rest => takeNumber true rest
      | _ => takeNumber false cs

mutual

def takeValue : Nat → Reader Value
  | 0, _ => .error .malformed
  | fuel + 1, cs =>
      match cs with
      | '[' :: rest =>
          match skipGap rest with
          | ']' :: after => .ok (.list [], after)
          | _ => do
              let (items, rest) ← takeItems fuel (skipGap rest)
              pure (.list items, rest)
      | '\x7b' :: rest =>
          match skipGap rest with
          | '\x7d' :: after => .ok (.map [], after)
          | _ => do
              let (entries, rest) ← takeEntries fuel [] (skipGap rest)
              pure (.map entries, rest)
      | _ => takeScalar cs

/-- The items of a list up to its closing bracket. -/
def takeItems : Nat → Reader (List Value)
  | 0, _ => .error .malformed
  | fuel + 1, cs => do
      let (item, rest) ← takeValue fuel cs
      match skipGap rest with
      | ']' :: after => pure ([item], after)
      | ',' :: more => do
          let (items, rest) ← takeItems fuel (skipGap more)
          pure (item :: items, rest)
      | _ => throw .malformed

/-- The entries of a map up to its closing brace. A key that comes again takes the later value. -/
def takeEntries : Nat → List (Value × Value) → Reader (List (Value × Value))
  | 0, _, _ => .error .malformed
  | fuel + 1, entries, cs =>
      match cs with
      | '"' :: rest => do
          let (key, rest) ← takeText rest
          match skipGap rest with
          | ':' :: more => do
              let (value, rest) ← takeValue fuel (skipGap more)
              let entries := Value.putEntry key value entries
              match skipGap rest with
              | '\x7d' :: after => pure (entries, after)
              | ',' :: more => takeEntries fuel entries (skipGap more)
              | _ => throw .malformed
          | _ => throw .malformed
      | _ => .error .malformed

end

/-- A value with nothing but gaps around it. -/
def readNotation (cs : List Char) : Except DocumentFault Value := do
  let (value, rest) ← takeValue (cs.length + 1) (skipGap cs)
  if (skipGap rest).isEmpty then pure value else throw .malformed

end Document
end Stencil
