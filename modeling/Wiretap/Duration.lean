/-!
# Durations

A length of time, exact to the nanosecond.

* `Duration.text` shows a duration in the greatest unit of which it holds at
  least one, with as many decimals as it needs and no more.
-/

namespace Wiretap

/-- A length of time. -/
structure Duration where
  /-- The number of nanoseconds. -/
  nanos : Nat
deriving DecidableEq

namespace Duration

/-- A duration in microseconds. -/
def ofMicros (n : Nat) : Duration := ⟨n * 1000⟩

/-- A duration in seconds. -/
def ofSeconds (n : Nat) : Duration := ⟨n * 1000000000⟩

/-- A duration that bounds something, unless it is zero. -/
def bound? (d : Duration) : Option Duration :=
  if d.nanos = 0 then none else some d

/-- A number with leading zeros up to a width. -/
def padded (width n : Nat) : List Char :=
  let digits := Nat.toDigits 10 n
  List.replicate (width - digits.length) '0' ++ digits

/-- The decimals of a fraction of `10 ^ width`, without zeros at the end. -/
def decimals (width fraction : Nat) : List Char :=
  ((padded width fraction).reverse.dropWhile (· == '0')).reverse

/-- A count of units of `10 ^ width` nanoseconds. -/
def inUnits (nanos width : Nat) : String :=
  let whole := toString (nanos / Nat.pow 10 width)
  let fraction := nanos % Nat.pow 10 width
  if fraction = 0 then whole else whole ++ "." ++ String.ofList (decimals width fraction)

/-- The duration as text. -/
def text (d : Duration) : String :=
  if 1000000000 ≤ d.nanos then inUnits d.nanos 9 ++ "s"
  else if 1000000 ≤ d.nanos then inUnits d.nanos 6 ++ "ms"
  else if 1000 ≤ d.nanos then inUnits d.nanos 3 ++ "µs"
  else toString d.nanos ++ "ns"

end Duration
end Wiretap
