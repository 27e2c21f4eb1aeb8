import AccountAdmin.Number.Double
import AccountAdmin.Text.Digits

/-!
# Shortest decimal text of a double

A double is written with the fewest significant digits that read back as the same double, and
among those with the digits nearest to its exact value.  The digits are searched for directly: the
reals that round to the double form an interval, and for one digit, two digits and so on the two
neighbours of the exact value on that decimal grid are tested for membership.  Seventeen digits
always suffice.

* `Double.shortest`: the digits as a number, and the power of ten they are multiplied by.
* `Double.text`: the text.  Positional notation is used from `0.00001` up to sixteen digits before
  the point, and it always has a point; beyond that the exponent is written with its sign.
-/

namespace AccountAdmin.Double

open AccountAdmin.Text

/-- The exponent of the leading decimal digit of `num / den`. -/
def decimalExponent (num den : Nat) : Int :=
  if den ≤ num then ((decimal (num / den)).length : Int) - 1
  else
    let n := (decimal (den / num)).length
    if den ≤ num * Nat.pow 10 (n - 1) then -((n - 1 : Nat) : Int) else -(n : Int)

/-- The reals that round to the double of a given magnitude, in units of a quarter of its last
place: the lower end, the exact value, the upper end, and whether the ends belong to it. -/
structure Neighbourhood where
  low : Nat
  exact : Nat
  high : Nat
  closed : Bool

/-- The neighbourhood of a magnitude.  Below a power of two the doubles lie twice as dense. -/
def neighbourhood (magnitude : Nat) : Neighbourhood :=
  let m := significand magnitude
  let denser := m == leadingBit && 0 < exponent magnitude
  { low := if denser then 4 * m - 1 else 4 * m - 2
    exact := 4 * m
    high := 4 * m + 2
    closed := m % 2 == 0 }

/-- Whether `x / unit` lies in the neighbourhood. -/
def Neighbourhood.contains (r : Neighbourhood) (x unit : Nat) : Bool :=
  if r.closed then r.low * unit ≤ x && x ≤ r.high * unit
  else r.low * unit < x && x < r.high * unit

/-- The multiple of `10 ^ k` in the neighbourhood of the magnitude that is nearest to its exact
value, a tie going to the even multiple.  Only the two multiples next to the exact value can be. -/
def onGrid? (magnitude : Nat) (k : Int) : Option Nat :=
  let r := neighbourhood magnitude
  -- quarters of the last place count `2 ^ exponent / 2 ^ 1076`
  let gridNum := Nat.pow 10 k.toNat * Nat.pow 2 1076
  let unit := Nat.pow 2 (exponent magnitude) * Nat.pow 10 (-k).toNat
  let c := r.exact * unit / gridNum
  let below := r.contains (c * gridNum) unit
  let above := r.contains ((c + 1) * gridNum) unit
  if below && above then
    let down := r.exact * unit - c * gridNum
    let up := (c + 1) * gridNum - r.exact * unit
    if down < up ∨ (down = up ∧ c % 2 = 0) then some c else some (c + 1)
  else if below then some c
  else if above then some (c + 1)
  else none

/-- Tries grids of `count` digits and more, `fuel` of them, for a number whose leading digit has
exponent `lead`. -/
def searchGrids (magnitude : Nat) (lead : Int) : (fuel count : Nat) → Nat × Int
  | 0, count => ((onGrid? magnitude (lead - count)).getD 0, lead - count)
  | fuel + 1, count =>
    match onGrid? magnitude (lead - count) with
    | some c => (c, lead - count)
    | none => searchGrids magnitude lead fuel (count + 1)

/-- Moves the zeros at the end of `c` into the power of ten; `fuel` bounds their number. -/
def dropZeros : (fuel c : Nat) → (k : Int) → Nat × Int
  | 0, c, k => (c, k)
  | fuel + 1, c, k => if c % 10 = 0 then dropZeros fuel (c / 10) (k + 1) else (c, k)

/-- The fewest digits that read back as the magnitude, and their power of ten. -/
def shortest (magnitude : Nat) : Nat × Int :=
  let v := ratio magnitude
  let (c, k) := searchGrids magnitude (decimalExponent v.1 v.2) 17 0
  dropZeros 20 c k

/-- Lays out digits with a power of ten. -/
def layout (ds : List Char) (k : Int) : List Char :=
  let point : Int := ds.length + k
  if 0 ≤ k ∧ point ≤ 16 then ds ++ List.replicate k.toNat '0' ++ ['.', '0']
  else if 0 < point ∧ point ≤ 16 then ds.take point.toNat ++ '.' :: ds.drop point.toNat
  else if -5 < point ∧ point ≤ 0 then '0' :: '.' :: (List.replicate (-point).toNat '0' ++ ds)
  else
    let fraction := match ds.drop 1 with
      | [] => []
      | rest => '.' :: rest
    let sign := if 0 < point then '+' else '-'
    ds.take 1 ++ fraction ++ 'e' :: sign :: decimal (point - 1).natAbs

/-- The shortest text of a finite double. -/
def text (d : Double) : List Char :=
  let body :=
    if d.magnitude = 0 then ['0', '.', '0']
    else
      let (c, k) := shortest d.magnitude
      layout (decimal c) k
  if d.isNegative then '-' :: body else body

end AccountAdmin.Double
