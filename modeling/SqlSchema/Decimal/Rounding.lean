/-!
# Floats and decimals

A `Float` as a sign and an exact number `mantissa * 2 ^ exponent`, the shortest of the
decimals that lie in the interval of reals which round to it, and the float nearest to a
decimal, the one with the even mantissa of two equally near.
-/

namespace SqlSchema.Decimal

/-! ## Binary floating point, taken apart -/

/-- What a float stands for. A finite one is `mantissa * 2 ^ exponent`, negated if
`negative`; the mantissa is below `2 ^ 53` and the exponent at least `-1074`. -/
inductive Binary
  | nan
  | infinite (negative : Bool)
  | finite (negative : Bool) (mantissa : Nat) (exponent : Int)

def signBit : Nat := 0x8000000000000000

/-- The weight of the lowest bit of the exponent field, `2 ^ 52`: the mantissa has that many
values for each exponent, and a normal one has this bit on top. -/
def hiddenBit : Nat := 0x10000000000000

/-- The exponent field with all its bits set, which marks what is not finite. -/
def topField : Nat := 2047

def Binary.ofBits (bits : Nat) : Binary :=
  let negative := decide (signBit ≤ bits)
  let field : Nat := bits / hiddenBit % (topField + 1)
  let low : Nat := bits % hiddenBit
  if field = topField then
    if low = 0 then .infinite negative else .nan
  else if field = 0 then .finite negative low (-1074)
  else .finite negative (hiddenBit + low) ((field : Int) - 1075)

def Binary.ofFloat (x : Float) : Binary := .ofBits x.toBits.toNat

structure Fraction where
  num : Nat
  den : Nat

def Fraction.scale (r : Fraction) (base : Nat) (e : Int) : Fraction :=
  if 0 ≤ e then ⟨r.num * base.pow e.toNat, r.den⟩ else ⟨r.num, r.den * base.pow (-e).toNat⟩

def Fraction.floor (r : Fraction) : Nat := r.num / r.den

/-- The sign of twice the fractional part less one: which side of the midpoint
between two whole numbers the fraction lies on. -/
def Fraction.side (r : Fraction) : Ordering :=
  compare (2 * (r.num % r.den)) r.den

/-! ## The shortest decimal that reads back -/

/-- A positive decimal `digits * 10 ^ exponent`. -/
structure Scaled where
  digits : Nat
  exponent : Int

inductive Tie
  | up
  | even

/-- The reals that round to a float, as numerators over the denominator of `value`.
The ends belong to it when `closed`. -/
structure Interval where
  low : Nat
  value : Fraction
  high : Nat
  closed : Bool

/-- The interval of `mantissa * 2 ^ exponent`. Below a power of two the next float
is half as far away as above it. -/
def Interval.ofBinary (mantissa : Nat) (exponent : Int) : Interval :=
  let below := if mantissa = hiddenBit ∧ -1074 < exponent then 1 else 2
  let scaled (n : Nat) := Fraction.scale ⟨n, 1⟩ 2 (exponent - 2)
  ⟨(scaled (4 * mantissa - below)).num, scaled (4 * mantissa), (scaled (4 * mantissa + 2)).num,
    mantissa % 2 = 0⟩

def Interval.holds (i : Interval) (n : Nat) (e : Int) : Bool :=
  let point := Fraction.scale ⟨n, 1⟩ 10 e
  let here := point.num * i.value.den
  let low := i.low * point.den
  let high := i.high * point.den
  if i.closed then low ≤ here && here ≤ high else low < here && here < high

def digitCount (n : Nat) : Nat := if n = 0 then 0 else (Nat.toDigits 10 n).length

/-- How many times a fraction below one can be multiplied by ten and stay below one
tenth of one, up to a bound. -/
def leadingZeros (den : Nat) : Nat → Nat → Nat
  | 0, _ => 0
  | bound + 1, num => if 10 * num < den then leadingZeros den bound (10 * num) + 1 else 0

/-- The exponent `e` with `10 ^ (e - 1) ≤ r < 10 ^ e`, for a fraction of floats. -/
def magnitude (r : Fraction) : Int :=
  if r.den ≤ r.num then digitCount r.floor else -(leadingZeros r.den 400 r.num : Int)

def Scaled.strip : Nat → Scaled → Scaled
  | 0, d => d
  | bound + 1, d =>
    if d.digits ≠ 0 ∧ d.digits % 10 = 0 then strip bound ⟨d.digits / 10, d.exponent + 1⟩ else d

/-- The nearer of the two grid points around the value among those in the interval. -/
def Interval.onGrid (i : Interval) (tie : Tie) (e : Int) : Option Scaled :=
  let r := i.value.scale 10 (-e)
  let n := r.floor
  match i.holds n e && n ≠ 0, i.holds (n + 1) e with
  | false, false => none
  | true, false => some ⟨n, e⟩
  | false, true => some ⟨n + 1, e⟩
  | true, true =>
    let up :=
      match r.side, tie with
      | .lt, _ => false
      | .gt, _ => true
      | .eq, .up => true
      | .eq, .even => n % 2 = 1
    some ⟨if up then n + 1 else n, e⟩

/-- The shortest decimal that reads back as `mantissa * 2 ^ exponent`, for a mantissa
other than zero. Seventeen digits always do. -/
def shortest (tie : Tie) (mantissa : Nat) (exponent : Int) : Scaled :=
  let i := Interval.ofBinary mantissa exponent
  let top := magnitude i.value
  let found := (List.range 17).findSome? fun k => i.onGrid tie (top - (k + 1 : Nat))
  (found.getD ⟨mantissa, 0⟩).strip 400

/-! ## The float nearest to a decimal -/

/-- The bits of the float nearest to a positive fraction; infinity from
`2 ^ 1024 - 2 ^ 970` up. -/
def Fraction.nearestBits (r : Fraction) : Nat :=
  let spread : Int := r.num.log2 - r.den.log2
  let first := max (spread - 53) (-1074)
  let exponent := if 2 * hiddenBit ≤ (r.scale 2 (-first)).floor then first + 1 else first
  let s := r.scale 2 (-exponent)
  let mantissa :=
    match s.side with
    | .lt => s.floor
    | .gt => s.floor + 1
    | .eq => if s.floor % 2 = 0 then s.floor else s.floor + 1
  let bits := if mantissa < hiddenBit then mantissa
    else (exponent + 1075).toNat * hiddenBit + (mantissa - hiddenBit)
  min bits (topField * hiddenBit)

/-- The float nearest to `digits * 10 ^ exponent`, negated if `negative`. A decimal
beyond every float is an infinity, one too small for any is a zero. -/
def nearest (negative : Bool) (digits : Nat) (exponent : Int) : Float :=
  let size := digitCount digits + exponent
  let bits :=
    if digits = 0 ∨ size < -330 then 0
    else if 330 < size then topField * hiddenBit
    else Fraction.nearestBits (Fraction.scale ⟨digits, 1⟩ 10 exponent)
  Float.ofBits (.ofNat (bits + if negative then signBit else 0))

end SqlSchema.Decimal
