set_option autoImplicit false

/-!
Markup escapes: the five characters with a meaning in markup are written as entities, so that
escaped text holds none of them and an ampersand only at the head of an entity.
-/

namespace Stencil.Text

def markupEntity (c : Char) : List Char :=
  if c == '&' then "&amp;".toList
  else if c == '<' then "&lt;".toList
  else if c == '>' then "&gt;".toList
  else if c == '"' then "&quot;".toList
  else if c == '\'' then "&#x27;".toList
  else [c]

def escapeMarkup (s : String) : String := String.ofList (s.toList.flatMap markupEntity)

end Stencil.Text
