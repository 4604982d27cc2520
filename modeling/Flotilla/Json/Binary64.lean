import Flotilla.Text.Digits

/-!
# Finite binary floating-point numbers

A finite double is a sign and a mantissa below `2 ^ 53`, scaled by a power of two
between `-1074` and `971`. All arithmetic is exact on natural numbers and rounded
once: to the nearest double, ties to the even mantissa.

A decimal numeral with many digits is not read exactly. Its leading digits, as
many as fit into 64 bits, are rounded to a double, which is then multiplied or
divided by a rounded power of ten. `Binary64.ofDecimal?` is that rule. In the
other direction `Binary64.render` writes the fewest digits that single the double
out among its neighbours, and of these the nearest.
-/

namespace Flotilla

/-- A finite double: `mantissa * 2 ^ exponent` with a sign, zero included. -/
structure Binary64 where
  negative : Bool
  mantissa : Nat
  exponent : Int
  deriving DecidableEq

namespace Binary64

/-- The least exponent, at which mantissas may be short. -/
def minExponent : Int := -1074

/-- The greatest exponent of a finite double. -/
def maxExponent : Int := 971

/-- The quotient rounded to the nearest natural number, a half to the even one. -/
def roundQuotient (num den : Nat) : Nat :=
  let floor := num / den
  let twice := 2 * (num % den)
  if twice < den then floor
  else if den < twice then floor + 1
  else floor + floor % 2

/-- `num / den` divided by `2 ^ e` and rounded. -/
def scaleDown (num den : Nat) (e : Int) : Nat :=
  if 0 ≤ e then roundQuotient num (den * Nat.pow 2 e.toNat)
  else roundQuotient (num * Nat.pow 2 (-e).toNat) den

/-- The exponent at which `num / den` has a mantissa of 53 bits, or the least one. -/
def exponentFor (num den : Nat) : Int :=
  let guess : Int := (num.log2 : Int) - (den.log2 : Int) - 52
  let tooSmall :=
    if 0 ≤ guess then num < den * Nat.pow 2 (52 + guess.toNat)
    else num * Nat.pow 2 (-guess).toNat < den * Nat.pow 2 52
  max minExponent (if tooSmall then guess - 1 else guess)

/-- The nearest double to `num / den`, or `none` beyond the greatest one. -/
def ofQuotient? (num den : Nat) : Option (Nat × Int) :=
  if num = 0 then some (0, minExponent)
  else
    let e := exponentFor num den
    let m := scaleDown num den e
    let (m, e) := if m = Nat.pow 2 53 then (Nat.pow 2 52, e + 1) else (m, e)
    if maxExponent < e then none else some (m, e)

/-- The numerator and denominator of `m * 2 ^ e`. -/
def quotient (m : Nat) (e : Int) : Nat × Nat :=
  if 0 ≤ e then (m * Nat.pow 2 e.toNat, 1) else (m, Nat.pow 2 (-e).toNat)

/-- The double nearest to `10 ^ k`, for `k` up to 308. -/
def powerOfTen (k : Nat) : Nat × Int :=
  (ofQuotient? (Nat.pow 10 k) 1).getD (0, minExponent)

/-- The rounded product of two doubles. -/
def mul? (x y : Nat × Int) : Option (Nat × Int) :=
  let (a, b) := quotient x.1 x.2
  let (c, d) := quotient y.1 y.2
  ofQuotient? (a * c) (b * d)

/-- The rounded quotient of two doubles, the second not zero. -/
def div? (x y : Nat × Int) : Option (Nat × Int) :=
  let (a, b) := quotient x.1 x.2
  let (c, d) := quotient y.1 y.2
  ofQuotient? (a * d) (b * c)

/-- `x * 10 ^ k` for the double `x` of a 64-bit significand. Powers up to 308 take
one rounded step; a smaller power down to `-616` takes a second one, after the
division by `10 ^ 308`. Below that nothing is left, and a product beyond the
greatest double has no value. -/
def scaleByTen? (x : Nat × Int) (k : Int) : Option (Nat × Int) :=
  if x.1 = 0 then some x
  else if 308 < k then none
  else if 0 ≤ k then mul? x (powerOfTen k.toNat)
  else if -308 ≤ k then div? x (powerOfTen (-k).toNat)
  else if -616 ≤ k then
    (div? x (powerOfTen 308)).bind fun y => div? y (powerOfTen (-k - 308).toNat)
  else some (0, minExponent)

/-- The double written by a sign, a 64-bit significand and a power of ten. -/
def ofDecimal? (negative : Bool) (significand : Nat) (k : Int) : Option Binary64 :=
  match ofQuotient? significand 1 with
  | none => none
  | some x => (scaleByTen? x k).map fun y => ⟨negative, y.1, y.2⟩

/-- The double nearest to a natural number below `2 ^ 1024`. -/
def ofNat (n : Nat) : Binary64 :=
  let x := (ofQuotient? n 1).getD (0, minExponent)
  ⟨false, x.1, x.2⟩

/-- Whether the decimal `d * 10 ^ k` rounds to the double `m * 2 ^ e`. The ends of
the rounding interval belong to it when the mantissa is even; below a power of
two the interval is half as wide. -/
def roundsTo (m : Nat) (e : Int) (d : Nat) (k : Int) : Bool :=
  let narrow := m = Nat.pow 2 52 ∧ minExponent < e
  let low := if narrow then 4 * m - 1 else 4 * m - 2
  let high := 4 * m + 2
  let (num, den) := if 0 ≤ k then (d * Nat.pow 10 k.toNat, 1) else (d, Nat.pow 10 (-k).toNat)
  let (num, den) :=
    if 0 ≤ e then (4 * num, den * Nat.pow 2 e.toNat) else (4 * num * Nat.pow 2 (-e).toNat, den)
  if m % 2 = 0 then low * den ≤ num ∧ num ≤ high * den
  else low * den < num ∧ num < high * den

/-- The greatest `d` with `d * 10 ^ k ≤ m * 2 ^ e`, and whether the next one is nearer. -/
def floorAt (m : Nat) (e k : Int) : Nat × Bool :=
  let (num, den) := quotient m e
  let (num, den) :=
    if 0 ≤ k then (num, den * Nat.pow 10 k.toNat) else (num * Nat.pow 10 (-k).toNat, den)
  let rest := 2 * (num % den)
  (num / den, den < rest || (rest = den && (num / den) % 2 = 1))

/-- The number of decimal digits before the point in `m * 2 ^ e`, which is not
positive for small numbers: the least `p` with `m * 2 ^ e < 10 ^ p`. -/
def pointPosition (m : Nat) (e : Int) : Int :=
  let (num, den) := quotient m e
  let whole := num / den
  if whole ≠ 0 then (Digits.render whole).length
  else
    let inverse := den / num
    let zeros := (Digits.render inverse).length
    if den < num * Nat.pow 10 zeros then 1 - (zeros : Int) else -(zeros : Int)

/-- The shortest decimal that rounds to `m * 2 ^ e`, as digits and a power of ten.
The decimals of each length next to the double are tried, shorter lengths first;
of two that round to it the nearer one is taken. -/
def shortest (m : Nat) (e : Int) : Nat × Int :=
  let point := pointPosition m e
  let shortest? (length : Nat) : Option (Nat × Int) :=
    let k := point - length
    let (d, up) := floorAt m e k
    let below := roundsTo m e d k
    let above := roundsTo m e (d + 1) k
    if below && above then some (if up then d + 1 else d, k)
    else if below then some (d, k)
    else if above then some (d + 1, k)
    else none
  ((List.range 18).findSome? shortest?).getD (floorAt m e (point - 18) |>.1, point - 18)

/-- Digits without trailing zeros, which move into the power of ten. -/
def stripZeros (digits : List Char) (k : Int) : List Char × Int :=
  let zeros := (digits.reverse.takeWhile (· = '0')).length
  (digits.take (digits.length - zeros), k + zeros)

/-- The layout of digits: positional from `0.00001` up to sixteen digits before the
point, and with an exponent outside that range. A number never ends at its point. -/
def layout (digits : List Char) (k : Int) : List Char :=
  let point : Int := digits.length + k
  if 0 ≤ k ∧ point ≤ 16 then
    digits ++ List.replicate k.toNat '0' ++ ['.', '0']
  else if 0 < point ∧ point ≤ 16 then
    digits.take point.toNat ++ '.' :: digits.drop point.toNat
  else if -5 < point ∧ point ≤ 0 then
    '0' :: '.' :: (List.replicate (-point).toNat '0' ++ digits)
  else
    let power := point - 1
    let tail := 'e' :: ((if power < 0 then ['-'] else []) ++ Digits.render power.natAbs)
    match digits with
    | [] => tail
    | [d] => d :: tail
    | d :: rest => d :: '.' :: (rest ++ tail)

/-- The text of a double. -/
def render (x : Binary64) : List Char :=
  let body :=
    if x.mantissa = 0 then ['0', '.', '0']
    else
      let (d, k) := shortest x.mantissa x.exponent
      let (digits, k) := stripZeros (Digits.render d) k
      layout digits k
  if x.negative then '-' :: body else body

end Binary64

end Flotilla
