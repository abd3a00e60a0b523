import Stencil.Text.Split

set_option autoImplicit false

/-!
Character properties as tables. A property is a list of ascending code point ranges; a case
mapping is a list of runs, each of which shifts every first, or every second, code point of a
range by the same distance. Tables are written as rows of hexadecimal words, so that a table
stays close to the data it records.
-/

namespace Stencil.Text

def hexDigit? (c : Char) : Option Nat :=
  if '0' ≤ c ∧ c ≤ '9' then some (c.toNat - '0'.toNat)
  else if 'a' ≤ c ∧ c ≤ 'f' then some (c.toNat - 'a'.toNat + 10)
  else if 'A' ≤ c ∧ c ≤ 'F' then some (c.toNat - 'A'.toNat + 10)
  else none

/-- The hexadecimal numbers of a word; every other character separates two of them. -/
def hexNumbers : Option Nat → List Char → List Nat
  | none, [] => []
  | some n, [] => [n]
  | pending, c :: rest =>
      match hexDigit? c with
      | some d => hexNumbers (some (pending.getD 0 * 16 + d)) rest
      | none =>
          match pending with
          | some n => n :: hexNumbers none rest
          | none => hexNumbers none rest

def tableWords (rows : List String) : List (List Nat) :=
  rows.flatMap fun row => (splitAt " " row).map fun word => hexNumbers none word.toList

/-- Code point ranges, both ends included. -/
abbrev Ranges := List (Nat × Nat)

/-- A word of the table is one code point or the two ends of a range. -/
def Ranges.ofRows (rows : List String) : Ranges :=
  (tableWords rows).filterMap fun
    | [one] => some (one, one)
    | [first, last] => some (first, last)
    | _ => none

def Ranges.holds (ranges : Ranges) (c : Char) : Bool :=
  ranges.any fun (first, last) => first ≤ c.toNat && c.toNat ≤ last

/-- A run of characters whose images lie at one distance from them. -/
structure CaseRun where
  first : Nat
  last : Nat
  step : Nat
  image : Nat

def CaseRun.ofRows (rows : List String) : List CaseRun :=
  (tableWords rows).filterMap fun
    | [first, last, step, image] => some ⟨first, last, step, image⟩
    | _ => none

def CaseRun.image? (run : CaseRun) (code : Nat) : Option Char :=
  if run.first ≤ code ∧ code ≤ run.last ∧ (code - run.first) % run.step = 0 then
    some (Char.ofNat (run.image + (code - run.first)))
  else none

/-- Characters whose image has more than one character. -/
def expansionsOfRows (rows : List String) : List (Nat × List Char) :=
  (tableWords rows).filterMap fun
    | code :: images => some (code, images.map Char.ofNat)
    | _ => none

end Stencil.Text
