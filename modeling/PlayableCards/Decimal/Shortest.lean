/-!
# The shortest decimal that reads back

A finite double is `mantissa · 2 ^ exponent`. Every real number closer to it than to any other
double reads back as it; the ends of that interval do so too when the mantissa is even. Of the
decimals in the interval the search takes one with the fewest digits, of those the nearest, and
of two equally near ones the even one.
-/

namespace PlayableCards
namespace Decimal

structure Binary where
  mantissa : Nat
  exponent : Int
  /-- The double below is only half as far away as the one above. -/
  narrowBelow : Bool

structure Scientific where
  digits : Nat
  exponent : Int
  deriving DecidableEq, Repr

namespace Binary

def ofBits (bits : UInt64) : Binary :=
  let fraction : Nat := bits.toNat % 0x10000000000000
  let power : Nat := bits.toNat / 0x10000000000000 % 0x800
  if power = 0 then ⟨fraction, -1074, false⟩
  else ⟨0x10000000000000 + fraction, (power : Int) - 1075, fraction == 0 && power != 1⟩

/-- Four times the mantissa: in quarters of its last place both midpoints are whole. -/
def quarters (v : Binary) : Nat := 4 * v.mantissa

def low (v : Binary) : Nat := if v.narrowBelow then v.quarters - 1 else v.quarters - 2

def high (v : Binary) : Nat := v.quarters + 2

/-- A common measure for quarters of `v` and multiples of `10 ^ place`: one quarter is the first
number of units, one step of the decimal grid the second. -/
def units (v : Binary) (place : Int) : Nat × Nat :=
  let twos := v.exponent - 2
  (Nat.pow 10 (-place).toNat * Nat.pow 2 twos.toNat,
    Nat.pow 10 place.toNat * Nat.pow 2 (-twos).toNat)

def covers (v : Binary) (quarter step n : Nat) : Bool :=
  let below := v.low * quarter
  let above := v.high * quarter
  if v.mantissa % 2 = 0 then below ≤ n * step && n * step ≤ above
  else below < n * step && n * step < above

/-- The multiple of `10 ^ place` that reads back as `v`, if one does: the nearest of the two
neighbours of `v`, and the even one of a tie. -/
def onGrid? (v : Binary) (place : Int) : Option Nat :=
  let (quarter, step) := v.units place
  let value := v.quarters * quarter
  let below := value / step
  let nearBelow := value - below * step
  let nearAbove := (below + 1) * step - value
  match v.covers quarter step below, v.covers quarter step (below + 1) with
  | true, true =>
    if nearBelow < nearAbove || nearBelow = nearAbove && below % 2 = 0 then some below
    else some (below + 1)
  | true, false => some below
  | false, true => some (below + 1)
  | false, false => none

def leadingPlace (v : Binary) : Int :=
  let (quarter, step) := v.units 0
  let value := v.quarters * quarter
  if step ≤ value then (Nat.toDigits 10 (value / step)).length - 1
  else -(Nat.toDigits 10 ((step - 1) / value)).length

/-- Searches ever finer grids, `grids` of them, and settles for the point below on the last. A
multiple of ten is found on the first grid only, as its second point: all others have been seen on
a coarser one. -/
def search (v : Binary) : Nat → Int → Scientific
  | 0, place =>
    let (quarter, step) := v.units place
    ⟨v.quarters * quarter / step, place⟩
  | grids + 1, place =>
    match v.onGrid? place with
    | some n => if n % 10 = 0 then ⟨n / 10, place + 1⟩ else ⟨n, place⟩
    | none => search v grids (place - 1)

/-- Seventeen digits always suffice. -/
def shortest (v : Binary) : Scientific :=
  if v.mantissa = 0 then ⟨0, 0⟩ else v.search 17 v.leadingPlace

end Binary

end Decimal
end PlayableCards
