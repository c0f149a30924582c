/-! Decimal text of binary floating-point numbers: the nearest number to a decimal, and the fewest
digits that read back. -/
namespace SchemaWrappers.Decimal

/-- The number nearest to `digits * 10 ^ exponent`, where `digits` was written with `width`
digits. Exponents beyond every finite number are settled by their size alone. -/
def nearest (negative : Bool) (digits width : Nat) (exponent : Int) : Float :=
  let size := exponent + width
  let x :=
    if digits == 0 || size < -400 then 0.0
    else if size > 400 then 1.0 / 0.0
    else Float.ofScientific digits (exponent < 0) exponent.natAbs
  if negative then -x else x

/-- Digits and decimal exponent: `0.d₁d₂… * 10 ^ exponent`, without trailing zeros. -/
structure Digits where
  digits : List Char
  exponent : Int

/-- A positive number `mantissa * 2 ^ power`; `narrow` tells that the gap below it is half the gap
above. -/
structure Binary where
  mantissa : Nat
  power : Int
  narrow : Bool

def Binary.ofBits (bits : UInt64) : Binary :=
  let fraction := (bits &&& 0xfffffffffffff).toNat
  let exponent := ((bits >>> 52) &&& 0x7ff).toNat
  if exponent == 0 then ⟨fraction, -1074, false⟩
  else ⟨fraction + 1 <<< 52, (exponent : Int) - 1075, fraction == 0 && exponent > 1⟩

/-- `n * 2 ^ p * 10 ^ (-k)` as numerator and denominator. -/
def scaled (n : Nat) (p k : Int) : Nat × Nat :=
  let up (b : Nat) (e : Int) : Nat := Nat.pow b e.toNat
  (n * up 2 p * up 10 (-k), up 2 (-p) * up 10 k)

/-- The grid point of `10 ^ k` that reads back as `b` and is nearest to it, if one does; of two
equally near ones the even one. -/
def Binary.onGrid (b : Binary) (k : Int) : Option Nat :=
  -- everything in quarters of the gap above, so that both half-way points are whole
  let (value, unit) := scaled (4 * b.mantissa) (b.power - 2) k
  let (low, _) := scaled (4 * b.mantissa - if b.narrow then 1 else 2) (b.power - 2) k
  let (high, _) := scaled (4 * b.mantissa + 2) (b.power - 2) k
  let ends := b.mantissa % 2 == 0
  let inside (c : Nat) : Bool :=
    if ends then low ≤ c * unit && c * unit ≤ high else low < c * unit && c * unit < high
  let c := value / unit
  let below := value - c * unit
  let above := (c + 1) * unit - value
  match inside c && c > 0, inside (c + 1) with
  | true, true => some (if below < above || (below == above && c % 2 == 0) then c else c + 1)
  | true, false => some c
  | false, true => some (c + 1)
  | false, false => none

/-- The decimal exponent `e` with `10 ^ (e - 1) ≤ b < 10 ^ e`, searched downwards from `e`. -/
def Binary.magnitude (b : Binary) : Nat → Int → Int
  | 0, e => e
  | fuel + 1, e =>
    let (value, unit) := scaled b.mantissa b.power (e - 1)
    if value < unit then b.magnitude fuel (e - 1) else e

/-- The first of the grids from `width` digits on that holds a point reading back as `b`. -/
def Binary.shortestFrom (b : Binary) (e : Int) : Nat → Nat → Nat × Int
  | 0, width => (b.mantissa, e - width)
  | fuel + 1, width =>
    match b.onGrid (e - width) with
    | some c => (c, e - width)
    | none => b.shortestFrom e fuel (width + 1)

def Binary.digits (b : Binary) : Digits :=
  let e := b.magnitude 640 310
  let (c, k) := b.shortestFrom e 17 1
  let digits := Nat.toDigits 10 c
  ⟨(digits.reverse.dropWhile (· == '0')).reverse, k + digits.length⟩

/-- Digits and exponent as text: positional from `10 ^ -4` up to `10 ^ 16`, and with a fraction
always; scientific outside, with at least two digits of exponent. -/
def Digits.text (d : Digits) : List Char :=
  let n := d.digits.length
  if -4 < d.exponent && d.exponent ≤ 16 then
    if d.exponent ≤ 0 then
      '0' :: '.' :: List.replicate (-d.exponent).toNat '0' ++ d.digits
    else
      let whole := d.exponent.toNat
      d.digits.take whole ++ List.replicate (whole - n) '0' ++ '.' ::
        (if n ≤ whole then ['0'] else d.digits.drop whole)
  else
    let power := d.exponent - 1
    let exponent := Nat.toDigits 10 power.natAbs
    d.digits.take 1 ++ (if n ≤ 1 then [] else '.' :: d.digits.drop 1) ++
      'e' :: (if power < 0 then '-' else '+') :: List.replicate (2 - exponent.length) '0' ++ exponent

def text (x : Float) : String :=
  let bits := x.toBits
  let sign := if bits >>> 63 == 1 then ['-'] else []
  if x.isNaN then "nan"
  else if x.isInf then String.ofList (sign ++ "inf".toList)
  else if x == 0.0 then String.ofList (sign ++ "0.0".toList)
  else String.ofList (sign ++ (Binary.ofBits (bits &&& 0x7fffffffffffffff)).digits.text)

/-- The whole part of a finite number. -/
def truncate (x : Float) : Int :=
  let b := Binary.ofBits (x.toBits &&& 0x7fffffffffffffff)
  let n := if 0 ≤ b.power then b.mantissa <<< b.power.toNat else b.mantissa >>> (-b.power).toNat
  if x < 0.0 then -n else n

end SchemaWrappers.Decimal
