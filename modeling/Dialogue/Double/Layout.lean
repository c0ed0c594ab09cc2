import Dialogue.Double.Shortest

namespace Dialogue.Double

/-- The choices of a notation: numbers whose decimal point stands above `lowPoint` and up to
`highPoint` places after the first digit are written positionally, the others with an exponent. -/
structure Layout where
  lowPoint : Int
  highPoint : Int
  exponentPlus : Bool
deriving DecidableEq

def digitsOf (n : Nat) : List Char := Nat.toDigits 10 n

def intChars (n : Int) : List Char :=
  if n < 0 then '-' :: digitsOf n.natAbs else digitsOf n.natAbs

/-- A decimal magnitude in a notation: positional numbers keep a digit on both sides of the point,
others have one digit before it and no point if that is all. -/
def Layout.decimal (layout : Layout) (d : Decimal) : List Char :=
  let ds := digitsOf d.digits
  let point : Int := ds.length + d.exponent
  if layout.lowPoint < point ∧ point ≤ layout.highPoint then
    if 0 ≤ d.exponent then ds ++ List.replicate d.exponent.toNat '0' ++ ['.', '0']
    else if 0 < point then ds.take point.toNat ++ '.' :: ds.drop point.toNat
    else '0' :: '.' :: List.replicate (-point).toNat '0' ++ ds
  else
    let mantissa := match ds with
      | [] => []
      | [c] => [c]
      | c :: rest => c :: '.' :: rest
    let sign := if layout.exponentPlus ∧ 0 < point then ['+'] else []
    mantissa ++ 'e' :: sign ++ intChars (point - 1)

def Layout.chars (layout : Layout) (d : Double) : List Char :=
  let magnitude := if d.code = 0 then ['0', '.', '0'] else layout.decimal (shortest d.code)
  if d.negative then '-' :: magnitude else magnitude

end Dialogue.Double
