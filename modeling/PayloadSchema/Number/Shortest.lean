import PayloadSchema.Number.Numeral

/-!
The shortest decimal form of a binary64 number: the coarsest power-of-ten grid that has a point
rounding to the number, and on it the point nearest to the number.
-/
namespace PayloadSchema.Binary64

/-- A comparison of `u` quarter units in the last place with `c` steps of the grid `10 ^ e`,
brought to a common integer scale: `u * unit` against `c * step`. -/
structure Grid where
  unit : Nat
  step : Nat

def Grid.of (x : Binary64) (e : Int) : Grid where
  unit := pow2 (x.exponent - 2).toNat * pow10 (-e).toNat
  step := pow2 (2 - x.exponent).toNat * pow10 e.toNat

/-- Half the gap to the next number below, in quarter units; the gap is halved below a power of
two. -/
def gapBelow (x : Binary64) : Nat :=
  if x.significand = pow2 52 ∧ -1074 < x.exponent then 1 else 2

/-- Whether `c` steps of the grid round to `x`; the ends of the interval do if the significand
is even. -/
def Grid.rounds (g : Grid) (x : Binary64) (c : Nat) : Bool :=
  let low := (4 * x.significand - x.gapBelow) * g.unit
  let high := (4 * x.significand + 2) * g.unit
  let point := c * g.step
  if x.significand % 2 = 0 then decide (low ≤ point) && decide (point ≤ high)
  else decide (low < point) && decide (point < high)

/-- The grid point that rounds to `x`, the nearer of two, and the even one of two equally near. -/
def Grid.nearest? (g : Grid) (x : Binary64) : Option Nat :=
  let target := 4 * x.significand * g.unit
  let c := target / g.step
  let below := decide (0 < c) && g.rounds x c
  let above := g.rounds x (c + 1)
  if below && above then
    match Ord.compare (2 * target) ((2 * c + 1) * g.step) with
    | .lt => some c
    | .gt => some (c + 1)
    | .eq => some (if c % 2 = 0 then c else c + 1)
  else if below then some c
  else if above then some (c + 1)
  else none

def coarsest (x : Binary64) : Nat → Int → Nat × Int
  | 0, e => (4 * x.significand * (Grid.of x e).unit / (Grid.of x e).step, e)
  | n + 1, e =>
    match (Grid.of x e).nearest? x with
    | some c => (c, e)
    | none => coarsest x n (e - 1)

/-- The shortest coefficient and its power of ten, for a number other than zero. Grids finer
than seventeen digits are never reached. -/
def shortest (x : Binary64) : Nat × Int :=
  coarsest x 20 ((((Nat.log2 x.significand : Int) + x.exponent) * 30103).fdiv 100000 + 2)

/-- The digits without an exponent; a whole number has no point. -/
def toPlainNumeral (x : Binary64) : Numeral :=
  if x.isZero then ⟨x.negative, [Digit.zero], [], none⟩
  else
    let (c, e) := x.shortest
    let ds := Digits.ofNat c
    if 0 ≤ e then ⟨x.negative, ds ++ List.replicate e.toNat Digit.zero, [], none⟩
    else
      let places := (-e).toNat
      let ds := List.replicate (places + 1 - ds.length) Digit.zero ++ ds
      ⟨x.negative, ds.take (ds.length - places), ds.drop (ds.length - places), none⟩

/-- The text form of floats: plain with at least one fraction digit if the leading digit stands
for `10 ^ -5` up to `10 ^ 15`, with an exponent otherwise. -/
def toNumeral (x : Binary64) : Numeral :=
  if x.isZero then ⟨x.negative, [Digit.zero], [Digit.zero], none⟩
  else
    let (c, e) := x.shortest
    let ds := Digits.ofNat c
    let lead := e + (ds.length : Int) - 1
    if -5 ≤ lead ∧ lead < 16 then
      let plain := x.toPlainNumeral
      if plain.fraction.isEmpty then { plain with fraction := [Digit.zero] } else plain
    else
      ⟨x.negative, ds.take 1, ds.drop 1, some ⟨decide (lead < 0), Digits.ofNat lead.natAbs⟩⟩

end PayloadSchema.Binary64
