import Stencil.Value.Canonical

set_option autoImplicit false

/-!
The order of values. Numbers of all kinds compare by size, texts and byte strings by their first
difference, dates and moments by time, sets by inclusion, each among themselves; tuples compare at
the first place where they are not equal. Objects have an order of their own, and all other pairs
have none. A binary number that is none comes neither before nor after a number; where one of two
numbers is a decimal and one is none, the comparison is undefined.
-/

namespace Stencil.Value

/-- A number's place on the line, or that it has none. -/
inductive Size where
  | least
  | finite (q : Rat)
  | greatest
  | nowhere
  deriving DecidableEq, Repr

def Size.less : Size → Size → Bool
  | .nowhere, _ | _, .nowhere => false
  | .greatest, _ | _, .least => false
  | .least, _ | _, .greatest => true
  | .finite p, .finite q => p < q

def binarySize (x : Binary64) : Size :=
  match x, x.toRat? with
  | .infinite negative, _ => if negative then .least else .greatest
  | _, some q => .finite q
  | _, none => .nowhere

def decimalSize (x : Decimal) : Size :=
  match x, x.toRat? with
  | .infinite negative, _ => if negative then .least else .greatest
  | _, some q => .finite q
  | _, none => .nowhere

def size? : Value → Option Size
  | .bool b => some (.finite (if b then 1 else 0))
  | .int n => some (.finite n)
  | .float x => some (binarySize x)
  | .decimal x => some (decimalSize x)
  | _ => none

def isDecimal : Value → Bool
  | .decimal _ => true
  | _ => false

/-- Numbers by size. Decimals do not compare with what is none. -/
def numberLess (a b : Value) (x y : Size) : Except Disorder Bool :=
  if (a.isDecimal || b.isDecimal) && (x == .nowhere || y == .nowhere) then .error .undefined
  else .ok (x.less y)

/-- Whether all elements of a set are in another one; each is given by its canonical text, if it has
one. -/
def includes (keys others : List (Option String)) : Bool :=
  others.all fun key => key.isSome && keys.contains key

/-- A set is less than those that hold its elements and more. -/
def setLess (keys others : List (Option String)) : Bool :=
  includes others keys && !includes keys others

def dateFields (day : Date) : List Nat := [day.year, day.month, day.day]

/-- The items of a tuple, with or without names. -/
def tupleItems? : Value → Option (List Value)
  | .tuple items => some items
  | .record _ fields => some (fields.map (·.2))
  | _ => none

def profile? : Value → Option Profile
  | .object profile _ _ => some profile
  | _ => none

/-- What a list of answers says of a value. -/
def answerOn? (answers : List (String × Except Disorder Bool)) (value : Value) :
    Option (Except Disorder Bool) := do
  let key ← value.canonical?
  return (← answers.find? (·.1 == key)).2

/-- The first value is asked, then the second. Only objects have something to say. -/
def ownLess (a b : Value) : Except Disorder Bool :=
  ((a.profile?.bind fun profile => answerOn? profile.below b).or
    (b.profile?.bind fun profile => answerOn? profile.above a)).getD (.error .kinds)

/-- Values that are not two tuples. -/
def singleLess (a b : Value) : Except Disorder Bool :=
  match size? a, size? b, a, b with
  | some x, some y, _, _ => numberLess a b x y
  | _, _, .text s, .text t => .ok (s < t)
  | _, _, .bytes _ s, .bytes _ t => .ok (s < t)
  | _, _, .set _ s, .set _ t => .ok (setLess (s.map canonical?) (t.map canonical?))
  | _, _, .date d, .date e => .ok (dateFields d < dateFields e)
  | _, _, .moment d, .moment e =>
      if d.zone.isSome = e.zone.isSome then .ok (d.instant < e.instant) else .error .kinds
  | _, _, _, _ => ownLess a b

mutual

/-- Whether one value is less than another, or why that cannot be told. -/
def less : Value → Value → Except Disorder Bool
  | .tuple items, b =>
      match tupleItems? b with
      | some others => itemsLess items others
      | none => singleLess (.tuple items) b
  | .record kind fields, b =>
      match tupleItems? b with
      | some others => fieldsLess fields others
      | none => singleLess (.record kind fields) b
  | a, b => singleLess a b

def itemsLess : List Value → List Value → Except Disorder Bool
  | [], others => .ok (!others.isEmpty)
  | _ :: _, [] => .ok false
  | a :: rest, b :: others => if a.equals b then itemsLess rest others else less a b

def fieldsLess : List (String × Value) → List Value → Except Disorder Bool
  | [], others => .ok (!others.isEmpty)
  | _ :: _, [] => .ok false
  | (_, a) :: rest, b :: others => if a.equals b then fieldsLess rest others else less a b

end

/-- Compares the items at two positions. -/
def lessAt (items : List Value) : Less := fun i j =>
  match items[i]?, items[j]? with
  | some a, some b => less a b
  | _, _ => .ok false

/-- The elements of a set in ascending order, or why they cannot be sorted. -/
def sort (sorting : Sorting) (items : List Value) : Except Disorder (List Value) := do
  let order ← sorting.arrange (lessAt items) items.length
  return order.filterMap fun position => items[position]?

end Stencil.Value
