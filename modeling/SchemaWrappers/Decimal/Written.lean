import SchemaWrappers.Decimal.Exact

/-! Numbers written with a given number of places or digits. -/
namespace SchemaWrappers.Decimal

/-- Digits with a point before the last `d` of them. -/
def withPoint (n d : Nat) (keepPoint : Bool) : List Char :=
  let ds := Nat.toDigits 10 n
  let ds := List.replicate (d + 1 - ds.length) '0' ++ ds
  let front := ds.take (ds.length - d)
  if d == 0 then front ++ (if keepPoint then ['.'] else []) else front ++ '.' :: ds.drop (ds.length - d)

/-- A number that is not negative with `d` places. -/
def fixed (x : Float) (d : Nat) (keepPoint : Bool) : List Char :=
  withPoint (if x == 0.0 then 0 else scaledUp x d) d keepPoint

/-- The digits of a number in scientific notation, one before the point and `d` behind it, and its
exponent. -/
def scientificDigits (x : Float) (d : Nat) : Nat × Int :=
  if x == 0.0 then (0, 0)
  else
    let e := (Binary.ofBits x.toBits).magnitude 640 310 - 1
    let n := scaledUp x (d - e)
    if n == Nat.pow 10 (d + 1) then (n / 10, e + 1) else (n, e)

def exponentText (e : Int) : List Char :=
  let ds := Nat.toDigits 10 e.natAbs
  'e' :: (if e < 0 then '-' else '+') :: List.replicate (2 - ds.length) '0' ++ ds

def scientific (x : Float) (d : Nat) (keepPoint : Bool) : List Char :=
  let (n, e) := scientificDigits x d
  withPoint n d keepPoint ++ exponentText e

def withoutNoughts (cs : List Char) : List Char :=
  if cs.contains '.' then
    ((cs.reverse.dropWhile (· == '0')).dropWhile (· == '.')).reverse
  else cs

/-- A number with `d` digits, in scientific notation if it is very small or needs more digits. -/
def general (x : Float) (d : Nat) (keepNoughts : Bool) : List Char :=
  let d := max d 1
  let (n, e) := scientificDigits x (d - 1)
  if -4 ≤ e && e < d then
    let cs := fixed x ((d : Int) - 1 - e).toNat keepNoughts
    if keepNoughts then cs else withoutNoughts cs
  else
    let cs := withPoint n (d - 1) keepNoughts
    (if keepNoughts then cs else withoutNoughts cs) ++ exponentText e

end SchemaWrappers.Decimal
