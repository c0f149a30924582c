import SchemaWrappers.Decimal

/-! Arithmetic on binary floating-point numbers that is worked out exactly and rounded once. -/
namespace SchemaWrappers.Decimal

/-- A finite number as `m * 2 ^ p`. -/
def exact (x : Float) : Int × Int :=
  let b := Binary.ofBits (x.toBits &&& 0x7fffffffffffffff)
  (if x < 0.0 then -(b.mantissa : Int) else b.mantissa, b.power)

/-- A half goes to the even neighbour. -/
def roundHalf (n d : Nat) : Nat :=
  let q := n / d
  let r := 2 * (n % d)
  if r < d || r == d && q % 2 == 0 then q else q + 1

/-- The number nearest to a little more than `q * 2 ^ p`, or to just that if `more` is false; there
is none if it is too large. -/
def ofBinary? (q : Nat) (p : Int) (more : Bool) : Option Float :=
  if q == 0 then some 0.0
  else
    let bits : Int := q.log2 + 1
    let cut := max (bits - 53) (-1074 - p)
    let (m, e) :=
      if cut ≤ 0 then (q, p)
      else
        let m := q >>> cut.toNat
        let rest := q - (m <<< cut.toNat)
        let half := 1 <<< (cut.toNat - 1)
        let up := half < rest || rest == half && (more || m % 2 == 1)
        (if up then m + 1 else m, p + cut)
    if 1024 < (m.log2 : Int) + 1 + e then none else some (Float.scaleB (Float.ofNat m) e)

/-- The number nearest to a fraction. -/
def ratio? (n d : Nat) : Option Float :=
  if n == 0 then some 0.0
  else
    let shift : Int := 56 - ((n.log2 : Int) - d.log2)
    let (n, d) := if 0 ≤ shift then (n <<< shift.toNat, d) else (n, d <<< (-shift).toNat)
    ofBinary? (n / d) (-shift) (n % d != 0)

def ofWhole? (n : Int) : Option Float :=
  (ofBinary? n.natAbs 0 false).map fun x => if n < 0 then -x else x

/-- What is left of a finite number by a division by another one, which is not nought; it has the
sign of the first. -/
def leftOver (x y : Float) : Float :=
  if y.isInf then x
  else
    let (m, p) := exact x
    let (n, q) := exact y
    let e := min p q
    let r := (m.natAbs <<< (p - e).toNat) % (n.natAbs <<< (q - e).toNat)
    let z := (ofBinary? r e false).getD 0.0
    if x < 0.0 then -z else z

def noughtLike (x : Float) : Float := if x.toBits >>> 63 == 1 then -0.0 else 0.0

def remainder (x y : Float) : Float :=
  if x.isNaN || y.isNaN || x.isInf then 0.0 / 0.0
  else
    let r := leftOver x y
    if r == 0.0 then noughtLike y
    else if (y < 0.0) != (r < 0.0) then r + y
    else r

def quotient (x y : Float) : Float :=
  if x.isNaN || y.isNaN || x.isInf then 0.0 / 0.0
  else
    let r := leftOver x y
    let d := (x - r) / y
    let d := if r != 0.0 && (y < 0.0) != (r < 0.0) then d - 1.0 else d
    if d == 0.0 then noughtLike (x / y)
    else
      let f := d.floor
      if d - f > 0.5 then f + 1.0 else f

/-- A positive number times `10 ^ d`, rounded to a whole one. -/
def scaledUp (x : Float) (d : Int) : Nat :=
  let (m, p) := exact x
  let (n, unit) := scaled m.natAbs p (-d)
  roundHalf n unit

def roundTo (x : Float) (d : Int) : Float :=
  if x.isNaN || x.isInf || x == 0.0 || 323 < d then x
  else if d < -308 then noughtLike x
  else
    let n := scaledUp x d
    nearest (x.toBits >>> 63 == 1) n (Nat.toDigits 10 n).length (-d)

/-- The nearest whole number, an even one of two. -/
def rounded (x : Float) : Int :=
  let n : Int := scaledUp x 0
  if x < 0.0 then -n else n

/-- The whole number next above. -/
def ceiling (x : Float) : Int :=
  let n := truncate x
  let (m, p) := exact x
  if 0 < m && p < 0 && (m.natAbs % (1 <<< (-p).toNat)) != 0 then n + 1 else n

/-- The whole number next below. -/
def floor (x : Float) : Int := -(ceiling (-x))

end SchemaWrappers.Decimal
