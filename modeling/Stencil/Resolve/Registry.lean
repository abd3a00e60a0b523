import Stencil.Resolve.Member

set_option autoImplicit false

/-!
Resolvers, each for one shape of data, and registries of them. The first resolver that claims a
segment on a value owns it, and its answer is final. Null resolves nothing.
-/

namespace Stencil

structure Resolver where
  id : Nat
  name : String
  claims : Value → String → Bool
  resolve : Value → String → Except Fault (Option Value)

namespace Resolver

/-- Positions of ordered collections, checked against their length. An object that claims more
items than it has may be asked for one that is not there. -/
def atPosition (value : Value) (segment : String) : Except Fault (Option Value) := do
  let position ← (Text.readDigits segment segment.toList).mapError .numeral
  let length := value.collectionLength?.getD 0
  if Value.lengthLimit ≤ length then throw value.lengthFault
  if length ≤ position then return none
  match value.item? position with
  | some item => return some item
  | none => throw .positionRange

def ofSequence (id : Nat) : Resolver where
  id
  name := "SequenceResolver"
  claims value segment := value.isIndexable && isIndexSegment segment
  resolve := atPosition

def mappingEntries? : Value → Option (List (Value × Value))
  | .map entries | .object _ _ (.mapping entries) => some entries
  | _ => none

def ofMapping (id : Nat) : Resolver where
  id
  name := "MappingResolver"
  claims value _ := (mappingEntries? value).isSome
  resolve value segment := .ok ((mappingEntries? value).bind (Value.entry? segment))

def ofMember (id : Nat) : Resolver where
  id
  name := "AttributeResolver"
  claims _ _ := true
  resolve value segment := value.shownMember? segment

end Resolver

abbrev Registry := List Resolver

namespace Registry

def standard : Registry := [.ofSequence 0, .ofMapping 1, .ofMember 2]

/-- Positions count from the end when negative; beyond either end they mean that end. -/
def place (size : Nat) (index : Int) : Nat :=
  if index < 0 then (size + index).toNat else min index.toNat size

def register (registry : Registry) (resolver : Resolver) (index : Option Int) : Registry :=
  match index with
  | none => registry ++ [resolver]
  | some i =>
      let spot := place registry.length i
      registry.take spot ++ resolver :: registry.drop spot

def unregister (registry : Registry) (id : Nat) : Registry := registry.filter (·.id != id)

def names (registry : Registry) : List String := registry.map (·.name)

def resolve (registry : Registry) (value : Value) (segment : String) :
    Except Fault (Option Value) :=
  match value with
  | .null => .ok none
  | _ =>
      match registry.find? fun resolver => resolver.claims value segment with
      | some resolver => resolver.resolve value segment
      | none => .ok none

end Registry
end Stencil
