/-!
# Shortest decimals

A finite binary number is a fraction of which many decimals are near enough to
read back as the same number.  The shortest such decimal is the one with the
fewest digits; among those of equal length it is the nearest, and of two equally
near ones the one with an even last digit.

* `Binary` is a number `mantissa * 2 ^ exponent` with the neighbourhood that
  reads back as it.
* `Binary.readsBack` tells whether a decimal lies in that neighbourhood.
* `Binary.shortest` searches the grids of one, two, … seventeen digits.
-/

namespace Wiretap
namespace Decimal

/-- A positive binary number. -/
structure Binary where
  /-- The mantissa, below `2 ^ 53`. -/
  mantissa : Nat
  /-- The exponent. -/
  exponent : Int
  /-- Whether the next smaller number is nearer than the next greater one. -/
  atPowerOfTwo : Bool

/-- A decimal `digits * 10 ^ exponent`. -/
structure Scaled where
  /-- The digits as a number. -/
  digits : Nat
  /-- The power of ten. -/
  exponent : Int

namespace Binary

/-- The binary number of the lower 63 bits of a double. -/
def ofBits (bits : Nat) : Binary :=
  let fraction : Nat := bits % Nat.pow 2 52
  let field : Nat := bits / Nat.pow 2 52 % 2048
  if field = 0 then ⟨fraction, -1074, false⟩
  else ⟨Nat.pow 2 52 + fraction, (field : Int) - 1075, fraction == 0 && 1 < field⟩

/-- The factor that turns a decimal with the given power of ten into a common unit. -/
def decimalUnit (x : Binary) (power : Int) : Nat :=
  Nat.pow 10 power.toNat * Nat.pow 2 (2 - x.exponent).toNat

/-- The factor that turns a quarter of the last binary place into the common unit. -/
def binaryUnit (x : Binary) (power : Int) : Nat :=
  Nat.pow 2 (x.exponent - 2).toNat * Nat.pow 10 (-power).toNat

/-- Whether a decimal reads back as the number: it lies between the midpoints to the two
neighbours, which belong to the number if its mantissa is even. -/
def readsBack (x : Binary) (d : Scaled) : Bool :=
  let value := d.digits * x.decimalUnit d.exponent
  let unit := x.binaryUnit d.exponent
  let low := (4 * x.mantissa - (if x.atPowerOfTwo then 1 else 2)) * unit
  let high := (4 * x.mantissa + 2) * unit
  if x.mantissa % 2 = 0 then low ≤ value && value ≤ high else low < value && value < high

/-- The exponent of the leading decimal digit. -/
def leading (x : Binary) : Int :=
  let low := (((x.mantissa.log2 : Int) + x.exponent) * 30103) / 100000
  let power := low + 1
  if x.decimalUnit power ≤ 4 * x.mantissa * x.binaryUnit power then power else low

/-- The better of the two decimals around the number on the grid of a power of ten. -/
def onGrid? (x : Binary) (power : Int) : Option Scaled :=
  let unit := x.decimalUnit power
  let exact := 4 * x.mantissa * x.binaryUnit power
  let below := exact / unit
  let down : Scaled := ⟨below, power⟩
  let up : Scaled := ⟨below + 1, power⟩
  let rest := exact % unit
  let preferDown := 2 * rest < unit || (2 * rest == unit && below % 2 == 0)
  match x.readsBack down, x.readsBack up with
  | true, true => if preferDown then some down else some up
  | true, false => some down
  | false, true => some up
  | false, false => none

/-- The shortest decimal that reads back as the number. -/
def shortest (x : Binary) : Scaled :=
  let grids := (List.range 17).map fun (n : Nat) => x.leading - (n : Int)
  match grids.findSome? x.onGrid? with
  | some d => d
  | none => ⟨x.mantissa, 0⟩

end Binary

/-- Drops the zeros at the end of the digits. -/
def Scaled.stripped (fuel : Nat) (d : Scaled) : Scaled :=
  match fuel with
  | 0 => d
  | fuel + 1 =>
    if d.digits ≠ 0 ∧ d.digits % 10 = 0 then
      Scaled.stripped fuel ⟨d.digits / 10, d.exponent + 1⟩
    else d

end Decimal
end Wiretap
