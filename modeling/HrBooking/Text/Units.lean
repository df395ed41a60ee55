import Mathlib.Data.Bool.AllAny
import Mathlib.Tactic.Common

/-!
# Texts as code units

A text is a list of 16-bit code units, whether or not its surrogates come in pairs.  A Unicode
string becomes such a list by its UTF-16 form.

* `unit`, `units` : the code unit of a basic character, and those of a string.
-/

namespace HrBooking

/-- A 16-bit code unit. -/
abbrev CodeUnit := UInt16

/-- The code unit of a character of the basic plane. -/
def unit (c : Char) : CodeUnit := c.toNat.toUInt16

/-- The code units of a character: itself, or a pair of surrogates. -/
def unitsOfChar (c : Char) : List CodeUnit :=
  if c.toNat < 0x10000 then [unit c]
  else
    let n := c.toNat - 0x10000
    [(0xD800 + n / 0x400).toUInt16, (0xDC00 + n % 0x400).toUInt16]

/-- The code units of a string. -/
def units (s : String) : List CodeUnit := s.toList.flatMap unitsOfChar

end HrBooking
