/-!
# Double-precision numbers

The finite numbers of IEEE 754 binary64, read from decimals and written with the
fewest digits that read back. All is done in whole numbers.

* `Double.ofRatio`: the double nearest to a fraction, halves going to the even
  neighbour;
* `Double.read`: a decimal, by two roundings: of its digits, and of their product
  with a rounded power of ten;
* `Double.shortest`: the fewest digits that lie nearer to a double than to any
  other, and of those the nearest.
-/

namespace Wordbook

/-- The number `± mantissa * 2 ^ exponent`. The mantissa is below 2⁵³, and at least 2⁵² unless the
exponent is the least one, -1074. -/
structure Double where
  negative : Bool
  mantissa : Nat
  exponent : Int
  deriving DecidableEq, Repr

namespace Double

def zero (negative : Bool) : Double := ⟨negative, 0, -1074⟩

def isZero (d : Double) : Bool := d.mantissa == 0

/-- A fraction times a power of `base`, as numerator and denominator. -/
def scale (base : Nat) (num den : Nat) (e : Int) : Nat × Nat :=
  if 0 ≤ e then (num * base.pow e.toNat, den) else (num, den * base.pow (-e).toNat)

/-- The whole number nearest to a fraction; a half goes to the even one. -/
def roundRatio (num den : Nat) : Nat :=
  let q := num / den
  let twice := 2 * (num % den)
  if twice < den || (twice == den && q % 2 == 0) then q else q + 1

/-- The double nearest to a fraction. There is none beyond the greatest double. -/
def ofRatio (negative : Bool) (num den : Nat) : Option Double :=
  if num = 0 then some (zero negative)
  else
    let guess : Int := num.log2 - den.log2 - 53
    let (n, d) := scale 2 num den (-guess)
    let e := max (-1074) (if Nat.pow 2 53 * d ≤ n then guess + 1 else guess)
    let (n, d) := scale 2 num den (-e)
    let m := roundRatio n d
    let (m, e) := if m = Nat.pow 2 53 then (Nat.pow 2 52, e + 1) else (m, e)
    if 971 < e then none else some ⟨negative, m, e⟩

/-- The size of a double, as a fraction. -/
def ratio (d : Double) : Nat × Nat := scale 2 d.mantissa 1 d.exponent

/-- The double nearest to a power of ten, as a fraction. -/
def powerOfTen (k : Nat) : Nat × Nat :=
  match ofRatio false (Nat.pow 10 k) 1 with
  | some d => d.ratio
  | none => (Nat.pow 10 k, 1)

/-- The greatest power of ten that is a double. -/
def maxPower : Nat := 308

/-- A double divided by a power of ten that is not beyond the greatest one. -/
def divide (d : Double) (k : Nat) : Double :=
  let (n, m) := d.ratio
  let (tn, td) := powerOfTen k
  (ofRatio d.negative (n * td) (m * tn)).getD (zero d.negative)

/-- A double divided some times by the greatest power of ten. -/
def divideOften (d : Double) : Nat → Double
  | 0 => d
  | times + 1 => if d.isZero then d else (d.divide maxPower).divideOften times

/-- A double divided by a power of ten, in steps that stay within the powers of ten. -/
def shrink (d : Double) (k : Nat) : Double :=
  let times := (k - 1) / maxPower
  (d.divideOften times).divide (k - maxPower * times)

/-- The number `± digits * 10 ^ exponent`, unless it is beyond the greatest double. -/
def read (negative : Bool) (digits : Nat) (exponent : Int) : Option Double := do
  let d ← ofRatio negative digits 1
  if exponent < 0 then return d.shrink (-exponent).toNat
  if d.isZero then return d
  if maxPower < exponent.toNat then none
  let (n, m) := d.ratio
  let (tn, td) := powerOfTen exponent.toNat
  ofRatio negative (n * tn) (m * td)

/-- The value of a double as a fraction, with the sign in the numerator. -/
def value (d : Double) : Int × Nat :=
  let (n, m) := d.ratio
  (if d.negative then -(n : Int) else n, m)

/-- Whether a double is a whole number. -/
def isWhole (d : Double) : Bool :=
  let (n, m) := d.ratio
  n % m == 0

/-- Whether the decimal `c * 10 ^ k` reads as the double. -/
def holds (d : Double) (c : Nat) (k : Int) : Bool :=
  let low := if d.mantissa == Nat.pow 2 52 && d.exponent > -1074 then 4 * d.mantissa - 1
    else 4 * d.mantissa - 2
  let (ln, ld) := scale 2 low 1 (d.exponent - 2)
  let (hn, hd) := scale 2 (4 * d.mantissa + 2) 1 (d.exponent - 2)
  let (cn, cd) := scale 10 c 1 k
  if d.mantissa % 2 == 0 then ln * cd ≤ cn * ld && cn * hd ≤ hn * cd
  else ln * cd < cn * ld && cn * hd < hn * cd

/-- The fewest digits that read back, with the power of ten that they count, on the coarsest of the
grids `10 ^ k`, `10 ^ (k - 1)`, … that has such. -/
def shortestFrom (d : Double) : Nat → Int → Nat × Int
  | 0, k => (0, k)
  | grids + 1, k =>
    let (n, m) := d.ratio
    let (n, m) := scale 10 n m (-k)
    let below := n / m
    let nearBelow := 2 * (n % m) < m || (2 * (n % m) == m && below % 2 == 0)
    match d.holds below k, d.holds (below + 1) k with
    | true, true => (if nearBelow then below else below + 1, k)
    | true, false => (below, k)
    | false, true => (below + 1, k)
    | false, false => shortestFrom d grids (k - 1)

/-- A power of ten greater than the double. -/
def upperPower (d : Double) : Int := (d.mantissa.log2 + 1 + d.exponent) * 30103 / 100000 + 1

def shortest (d : Double) : Nat × Int := d.shortestFrom 20 d.upperPower

/-- Whether a double is a multiple of another. Of a whole number, that is asked of the doubles
themselves, and else of the decimals that they are written as. -/
def isMultipleOf (d factor : Double) : Bool :=
  if d.isZero then true
  else if factor.isWhole then
    let (n, m) := d.ratio
    let (n', m') := factor.ratio
    d.isWhole && (n / m) % (n' / m') == 0
  else
    let (c, k) := d.shortest
    let (c', k') := factor.shortest
    let (n, m) := scale 10 c c' (k - k')
    n % m == 0

/-- A power of ten in scientific notation, with a sign and without leading zeros. -/
def exponentText (e : Int) : List Char :=
  'e' :: (if e < 0 then '-' else '+') :: (toString e.natAbs).toList

/-- The digits of a double in positional notation if the point stands after at most sixteen digits
or before at most four zeros, and else with an exponent. A whole number keeps one zero behind its
point. -/
def text (d : Double) : String :=
  let sign := if d.negative then "-" else ""
  if d.isZero then sign ++ "0.0"
  else
    let (c, k) := d.shortest
    let digits := (toString c).toList
    let point : Int := digits.length + k
    let body :=
      if 0 ≤ k && point ≤ 16 then digits ++ List.replicate k.toNat '0' ++ ['.', '0']
      else if 0 < point && point ≤ 16 then
        digits.take point.toNat ++ '.' :: digits.drop point.toNat
      else if -5 < point && point ≤ 0 then
        '0' :: '.' :: List.replicate (-point).toNat '0' ++ digits
      else
        match digits with
        | [c] => c :: exponentText (point - 1)
        | c :: rest => c :: '.' :: rest ++ exponentText (point - 1)
        | [] => exponentText (point - 1)
    sign ++ String.ofList body

end Double

end Wordbook
