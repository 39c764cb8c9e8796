import SqlSchema.Decimal.Rounding

/-!
# Writing floats

The shortest digits of a float laid out in one of two ways: positional at any
size, for SQL text, or as a JSON number with an exponent at the far ends.
-/

namespace SqlSchema.Decimal

/-- Positional notation: no exponent and, for a whole number, no point. -/
def Scaled.positional (d : Scaled) : List Char :=
  let ds := Nat.toDigits 10 d.digits
  if 0 ≤ d.exponent then ds ++ List.replicate d.exponent.toNat '0'
  else
    let places := (-d.exponent).toNat
    if places < ds.length then
      ds.take (ds.length - places) ++ '.' :: ds.drop (ds.length - places)
    else '0' :: '.' :: List.replicate (places - ds.length) '0' ++ ds

/-- A JSON number: positional from `1e-5` up to `1e16` with at least one place, else
one digit before the point and an exponent, which has a sign. -/
def Scaled.jsonNumber (d : Scaled) : List Char :=
  let ds := Nat.toDigits 10 d.digits
  let point := ds.length + d.exponent
  if 0 ≤ d.exponent ∧ point ≤ 16 then d.positional ++ ['.', '0']
  else if -5 < point ∧ point ≤ 16 then d.positional
  else
    let exponent := point - 1
    let mark := 'e' :: (if exponent < 0 then '-' else '+') :: Nat.toDigits 10 exponent.natAbs
    match ds with
    | [c] => c :: mark
    | c :: r => c :: '.' :: r ++ mark
    | [] => mark

structure Layout where
  tie : Tie
  write : Scaled → List Char
  zero : List Char
  nan : List Char
  infinity : Bool → List Char

/-- Positional text, a tie going up, with words for what is not finite. -/
def Layout.sql : Layout where
  tie := .up
  write := Scaled.positional
  zero := ['0']
  nan := "NaN".toList
  infinity negative := if negative then "-inf".toList else "inf".toList

/-- JSON text, a tie going to the even digit, `null` for what is not finite. -/
def Layout.json : Layout where
  tie := .even
  write := Scaled.jsonNumber
  zero := "0.0".toList
  nan := "null".toList
  infinity _ := "null".toList

/-- The text of a float in a layout. A negative zero keeps its sign. -/
def Layout.render (l : Layout) (x : Float) : String :=
  match Binary.ofFloat x with
  | .nan => String.ofList l.nan
  | .infinite negative => String.ofList (l.infinity negative)
  | .finite negative m e =>
    let body := if m = 0 then l.zero else l.write (shortest l.tie m e)
    String.ofList (if negative then '-' :: body else body)

end SqlSchema.Decimal
