/-!
# Single-Precision Numbers

Coordinates are binary floating-point numbers with 24 significant binary digits. Every finite one is
a whole multiple of `2^-149`, the smallest positive number of the format, so a magnitude is kept as
that multiple and all arithmetic on it is arithmetic on natural numbers.

## Main definitions

- `Single.Magnitude`: a multiple of `2^-149` that the format can hold
- `Single`: signed magnitudes, the infinities and the number that is none
- `Single.agrees`: the comparison of the format, for which the two zeros are equal
- `Single.wholeNumber?`: the natural number that a coordinate stands for
-/

namespace TileLevel

namespace Single

/-- Parts of one: a magnitude counts multiples of `2^-149`. -/
def unitsPerOne : Nat := Nat.pow 2 149

/-- The first magnitude, in units, that is too large for the format: `2^128`. -/
def unitsLimit : Nat := Nat.pow 2 128 * unitsPerOne

theorem unitsLimit_pos : 0 < unitsLimit :=
  Nat.mul_pos (Nat.two_pow_pos 128) (Nat.two_pow_pos 149)

/-- The exponent of the spacing of the format around a magnitude, in units. -/
def spacing (units : Nat) : Nat :=
  units.log2 - 23

/-- Magnitudes of the format: below the limit, with at most 24 significant binary digits. -/
def Representable (units : Nat) : Prop :=
  units < unitsLimit ∧ Nat.pow 2 (spacing units) ∣ units

instance (units : Nat) : Decidable (Representable units) :=
  inferInstanceAs (Decidable (_ ∧ _))

/-- A magnitude of the format, in units of `2^-149`. -/
structure Magnitude where
  units : Nat
  representable : Representable units
deriving DecidableEq, Repr

end Single

/-- A number of the format. Zero has two signs. -/
inductive Single where
  | finite (negative : Bool) (magnitude : Single.Magnitude)
  | infinite (negative : Bool)
  | nan
deriving DecidableEq, Repr

namespace Single

def zero : Single :=
  .finite false ⟨0, unitsLimit_pos, Nat.dvd_zero _⟩

instance : Inhabited Single := ⟨zero⟩

def half : Single :=
  .finite false ⟨Nat.pow 2 148, by decide +kernel⟩

/-- The number with the other sign. -/
def neg : Single → Single
  | .finite negative magnitude => .finite (!negative) magnitude
  | .infinite negative => .infinite (!negative)
  | .nan => .nan

/-- The comparison of the format: the two zeros agree, and `nan` agrees with nothing. -/
def agrees : Single → Single → Bool
  | .finite a m, .finite b n => m.units == n.units && (a == b || m.units == 0)
  | .infinite a, .infinite b => a == b
  | _, _ => false

/-- The natural number that is meant, if one is. Negative zero means zero. -/
def wholeNumber? : Single → Option Nat
  | .finite negative m =>
    if unitsPerOne ∣ m.units ∧ (negative = false ∨ m.units = 0) then
      some (m.units / unitsPerOne)
    else none
  | _ => none

end Single

end TileLevel
