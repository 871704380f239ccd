import ComponentLoader.Text.Basic

namespace ComponentLoader

inductive Double where
  | nan
  | infinite (negative : Bool)
  -- The number `digits * 10 ^ exponent`, with no zero at the end of the digits.
  | finite (negative : Bool) (digits : Nat) (exponent : Int)
  deriving DecidableEq, Inhabited

namespace Double

-- A positive number of the binary grid: `mantissa * 2 ^ exponent`, the mantissa below `2 ^ 53`.
structure Binary where
  mantissa : Nat
  exponent : Int

def scale (num den base : Nat) (exponent : Int) : Nat × Nat :=
  if 0 ≤ exponent then (num * base.pow exponent.toNat, den)
  else (num, den * base.pow (-exponent).toNat)

-- The grid point nearest to a positive fraction, of two the even one; none beyond the largest.
def round? (num den : Nat) : Option Binary :=
  if num = 0 then some ⟨0, -1074⟩
  else
    let guess : Int := (Nat.log2 num : Int) - Nat.log2 den - 53
    let first := scale num den 2 (-guess)
    let exponent := max (if first.1 / first.2 < Nat.pow 2 53 then guess else guess + 1) (-1074)
    let (n, d) := scale num den 2 (-exponent)
    let q := n / d
    let r := n % d
    let q := if 2 * r > d || (2 * r == d && q % 2 == 1) then q + 1 else q
    let (q, exponent) := if q = Nat.pow 2 53 then (Nat.pow 2 52, exponent + 1) else (q, exponent)
    if exponent > 971 then none else some ⟨q, exponent⟩

def magnitude (num den : Nat) (low : Int) : Nat → Int
  | 0 => low
  | fuel + 1 =>
    let (n, d) := scale num den 10 (-low)
    if n < d then low else magnitude num den (low + 1) fuel

def dropZeros (exponent : Int) (digits : Nat) : Nat → Nat × Int
  | 0 => (digits, exponent)
  | fuel + 1 =>
    if digits ≠ 0 ∧ digits % 10 = 0 then dropZeros (exponent + 1) (digits / 10) fuel
    else (digits, exponent)

-- Of the decimals that round to the grid point, one with the fewest digits, and of those the
-- nearest.
def shortest (b : Binary) : Nat × Int :=
  if b.mantissa = 0 then (0, 0)
  else
    let below := if b.mantissa = Nat.pow 2 52 ∧ b.exponent > -1074 then 1 else 2
    let (value, den) := scale (4 * b.mantissa) 1 2 (b.exponent - 2)
    let (low, _) := scale (4 * b.mantissa - below) 1 2 (b.exponent - 2)
    let (high, _) := scale (4 * b.mantissa + 2) 1 2 (b.exponent - 2)
    let inside (n d : Nat) : Bool :=
      if b.mantissa % 2 = 0 then low * d ≤ n * den && n * den ≤ high * d
      else low * d < n * den && n * den < high * d
    let start : Int := ((Nat.log2 value : Int) - Nat.log2 den) * 3 / 10 - 3
    let places := magnitude value den start 700
    let candidate (count : Nat) : Option (Nat × Int) :=
      let unit := places - count
      let (n, d) := scale value den 10 (-unit)
      let c := n / d
      let fits (c : Nat) : Bool := let (x, y) := scale c 1 10 unit; inside x y
      let nearLow := 2 * (n % d) < d || (2 * (n % d) == d && c % 2 == 0)
      match fits c, fits (c + 1) with
      | true, true => some (if nearLow then c else c + 1, unit)
      | true, false => some (c, unit)
      | false, true => some (c + 1, unit)
      | false, false => none
    match (List.range 17).findSome? fun i => candidate (i + 1) with
    | some (c, unit) => dropZeros unit c 20
    | none => (b.mantissa, 0)

def ofBinary (negative : Bool) : Option Binary → Double
  | none => infinite negative
  | some b => let (digits, exponent) := shortest b; finite negative digits exponent

def ofDecimal (negative : Bool) (digits : Nat) (exponent : Int) : Double :=
  -- Far outside the range the answer does not depend on the digits.
  let size : Int := (Text.ofNat digits).length + exponent
  if digits = 0 then finite negative 0 0
  else if size > 400 then infinite negative
  else if size < -400 then finite negative 0 0
  else
    let (n, d) := scale digits 1 10 exponent
    ofBinary negative (round? n d)

def render (plus : Bool) : Double → Text
  | nan => "NaN".toList
  | infinite negative => (if negative then ['-'] else []) ++ "inf".toList
  | finite negative digits exponent =>
    let sign : Text := if negative then ['-'] else []
    let ds := Text.ofNat digits
    let point : Int := ds.length + exponent
    let body : Text :=
      if digits = 0 then "0.0".toList
      else if 0 ≤ exponent ∧ point ≤ 16 then
        ds ++ List.replicate exponent.toNat '0' ++ ".0".toList
      else if 0 < point ∧ point ≤ 16 then ds.take point.toNat ++ '.' :: ds.drop point.toNat
      else if -5 < point ∧ point ≤ 0 then "0.".toList ++ List.replicate (-point).toNat '0' ++ ds
      else
        let power := point - 1
        let powerSign : Text := if power < 0 then ['-'] else if plus then ['+'] else []
        let power : Text := powerSign ++ Text.ofNat power.natAbs
        match ds with
        | [d] => d :: 'e' :: power
        | d :: rest => d :: '.' :: rest ++ 'e' :: power
        | [] => []
    sign ++ body

end Double
end ComponentLoader
