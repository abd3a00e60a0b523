import Stencil.Text.Printable

set_option autoImplicit false

/-!
Quoted texts and byte strings, as they stand inside a printed value. Single quotes enclose a
text, unless it has a single quote and no double one. Line breaks, tabs, backslashes, the
enclosing quote and everything not printable are escaped.
-/

namespace Stencil.Text

def hexChar (n : Nat) : Char :=
  if n < 10 then Char.ofNat (48 + n) else Char.ofNat (87 + n)

/-- The last `width` hexadecimal digits of a number. -/
def hexPadded : Nat → Nat → List Char
  | 0, _ => []
  | width + 1, n => hexPadded width (n / 16) ++ [hexChar (n % 16)]

/-- Escapes by number: two, four or eight digits, whichever suffices. -/
def escapeByNumber (c : Char) : List Char :=
  if c.toNat < 256 then '\\' :: 'x' :: hexPadded 2 c.toNat
  else if c.toNat < 65536 then '\\' :: 'u' :: hexPadded 4 c.toNat
  else '\\' :: 'U' :: hexPadded 8 c.toNat

def quotedChar (mark : Char) (c : Char) : List Char :=
  if c == mark || c == '\\' then ['\\', c]
  else if c == '\n' then ['\\', 'n']
  else if c == '\r' then ['\\', 'r']
  else if c == '\t' then ['\\', 't']
  else if isPrintable c then [c]
  else escapeByNumber c

def quoteMark (cs : List Char) : Char :=
  if cs.contains '\'' && !cs.contains '"' then '"' else '\''

def quotedChars (cs : List Char) : List Char :=
  let mark := quoteMark cs
  mark :: (cs.flatMap (quotedChar mark) ++ [mark])

def quoted (s : String) : String := String.ofList (quotedChars s.toList)

/-- Only the printable part of ASCII stands for itself in a byte string. -/
def quotedByte (mark : Char) (byte : UInt8) : List Char :=
  let c := Char.ofNat byte.toNat
  if byte.toNat < 128 then quotedChar mark c else escapeByNumber c

/-- A changeable byte string escapes the single quote, whichever quote encloses it. -/
def quotedBytes (changeable : Bool) (bytes : List UInt8) : String :=
  let mark := quoteMark (bytes.map fun byte => Char.ofNat byte.toNat)
  let escaped := if changeable then '\'' else mark
  String.ofList ('b' :: mark :: (bytes.flatMap (quotedByte escaped) ++ [mark]))

end Stencil.Text
