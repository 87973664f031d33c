/-!
Floats as decimals.

`shortest` finds the fewest digits that read back as the same float, in exact integer arithmetic.
`Float.digits` lays them out: positional near one, with an exponent elsewhere. `scaled?` is the
reading of an integer times a power of ten.
-/

namespace InvocationBridge.Decimal

/-- A positive float as `mantissa * 2 ^ exponent`. `lowest` says that the next float below is only
half as far away as the one above. -/
structure Binary where
  mantissa : Nat
  exponent : Int
  lowest : Bool

/-- The bit above the stored fraction, which all but the smallest floats have. -/
def implicitBit : Nat := 0x10000000000000

/-- The parts of a finite float, without its sign. -/
def Binary.ofFloat (x : Float) : Binary :=
  let bits := x.toBits.toNat
  let exponent := bits / implicitBit % 0x800
  let fraction := bits % implicitBit
  if exponent = 0 then ⟨fraction, -1074, false⟩
  else ⟨implicitBit + fraction, (exponent : Int) - 1075, fraction == 0 && decide (1 < exponent)⟩

/-- The numerator and denominator of `n * base ^ e`. -/
def ratio (n : Nat) (base : Nat) (e : Int) : Nat × Nat :=
  if 0 ≤ e then (n * Nat.pow base e.toNat, 1) else (n, Nat.pow base (-e).toNat)

/-- Whether the decimal `digits * 10 ^ power` reads back as the float: it lies between the midpoints
to the neighbouring floats, and may be a midpoint if the mantissa is even. All is compared in
quarters of the last binary place. -/
def readsBack (b : Binary) (digits : Nat) (power : Int) : Bool :=
  let (dn, dd) := ratio digits 10 power
  let (bn, bd) := ratio 1 2 b.exponent
  let decimal := 4 * dn * bd
  let low := (4 * b.mantissa - (if b.lowest then 1 else 2)) * bn * dd
  let high := (4 * b.mantissa + 2) * bn * dd
  if b.mantissa % 2 = 0 then decide (low ≤ decimal) && decide (decimal ≤ high)
  else decide (low < decimal) && decide (decimal < high)

/-- The decimal exponent of the first digit of `num / den`: the search goes down from `start`. -/
def firstExponent (num den : Nat) : Nat → Int → Int
  | 0, e => e
  | fuel + 1, e =>
    let (pn, pd) := ratio 1 10 e
    if pn * den ≤ num * pd then e else firstExponent num den fuel (e - 1)

/-- Of the two neighbours of the float on the grid of multiples of `10 ^ power`, the nearer one that
reads back; from the middle the even one. -/
def onGrid (b : Binary) (power : Int) : Option Nat :=
  let (bn, bd) := ratio b.mantissa 2 b.exponent
  let (pn, pd) := ratio 1 10 power
  let num := bn * pd
  let den := bd * pn
  let low := num / den
  let twice := 2 * (num % den)
  let lowFirst := decide (twice < den) || (twice == den && low % 2 == 0)
  let candidates := if lowFirst then [low, low + 1] else [low + 1, low]
  candidates.find? fun d => readsBack b d power

/-- The first grid with a decimal that reads back, of grids with ever smaller steps. -/
def search (b : Binary) : Nat → Int → Nat × Int
  | 0, power => (0, power)
  | fuel + 1, power =>
    match onGrid b power with
    | some d => (d, power)
    | none => search b fuel (power - 1)

/-- Digits and power of the shortest decimal of a positive float. -/
def shortest (b : Binary) : Nat × Int :=
  let (bn, bd) := ratio b.mantissa 2 b.exponent
  search b 18 (firstExponent bn bd 640 309)

/-- The digits of a number without the zeros at their end, and how many digits there were. -/
def significant (n : Nat) : List Char × Nat :=
  let digits := Nat.toDigits 10 n
  ((digits.reverse.dropWhile (· == '0')).reverse, digits.length)

/-- The digits `ds` times a power of ten such that the first digit stands for `10 ^ e`: positional
for exponents from -5 to 15, with at least one digit after the point, else with an exponent. -/
def layOut (ds : List Char) (e : Int) : List Char :=
  if -5 ≤ e ∧ e ≤ 15 then
    if e < 0 then
      ['0', '.'] ++ List.replicate (-e - 1).toNat '0' ++ ds
    else
      let whole := ds.take (e.toNat + 1) ++ List.replicate (e.toNat + 1 - ds.length) '0'
      let fraction := ds.drop (e.toNat + 1)
      whole ++ '.' :: (if fraction.isEmpty then ['0'] else fraction)
  else
    let mantissa := match ds with
      | [] => ['0']
      | [d] => [d]
      | d :: more => d :: '.' :: more
    let sign := if e < 0 then '-' else '+'
    mantissa ++ 'e' :: sign :: Nat.toDigits 10 e.natAbs

/-- The text of a finite float. -/
def ofFloat (x : Float) : List Char :=
  let sign := if x.toBits < 0x8000000000000000 then [] else ['-']
  let b := Binary.ofFloat x
  if b.mantissa = 0 then sign ++ ['0', '.', '0']
  else
    let (digits, power) := shortest b
    let (ds, count) := significant digits
    sign ++ layOut ds (power + (count : Int) - 1)

/-- The float nearest to `10 ^ e`. -/
def tenTo (e : Nat) : Float := Float.ofScientific 1 false e

/-- `x / 10 ^ k`, by divisions that are in range one after the other. -/
def shrink (x : Float) (k : Nat) : Float :=
  if k ≤ 308 then x / tenTo k
  else if x == 0 then x
  else shrink (x / tenTo 308) (k - 308)
termination_by k

/-- The float for `significand * 10 ^ e`, if it is in range. The significand becomes a float first,
so large ones are rounded twice. -/
def scaled? (significand : Nat) (e : Int) : Option Float :=
  let x := significand.toUInt64.toFloat
  if e < 0 then some (shrink x (-e).toNat)
  else if e ≤ 308 then
    let y := x * tenTo e.toNat
    if y.isInf then none else some y
  else if significand = 0 then some x
  else none

end InvocationBridge.Decimal
