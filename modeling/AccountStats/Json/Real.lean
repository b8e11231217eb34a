import AccountStats.Json.Basic
import AccountStats.Text.Decimal
/-
The text of a number that is not whole: the fewest digits that read back as the same double, and of those the nearest.

A double is `mantissa * 2 ^ exponent`. The numbers that round to it form an interval around it, whose ends belong to it
when the mantissa is even. For one digit, two digits and so on up to seventeen, the two neighbours of the value on that
decimal grid are tried; the first grid with a neighbour in the interval gives the digits.
-/
namespace AccountStats.Real

open AccountStats.Text

/-- a finite positive double, `mantissa * 2 ^ exponent` with `mantissa < 2 ^ 53` -/
structure Double where
  mantissa : Nat
  exponent : Int
deriving DecidableEq, Repr

/-- the leading bit of a mantissa of full length, `2 ^ 52` -/
def leading : Nat := 4503599627370496

/-- a positive fraction -/
structure Fraction where
  num : Nat
  den : Nat

/-- `n * base ^ e` as a fraction -/
def scaled (n base : Nat) (e : Int) : Fraction :=
  if 0 ≤ e then ⟨n * Nat.pow base e.toNat, 1⟩ else ⟨n, Nat.pow base (-e).toNat⟩

/-- the nearest whole number, a half going to the even one -/
def roundHalfEven (x : Fraction) : Nat :=
  let q := x.num / x.den
  let r := x.num % x.den
  if 2 * r < x.den then q else if x.den < 2 * r then q + 1 else q + q % 2

/-- the double nearest to a positive fraction; `none` beyond the largest -/
def nearest? (x : Fraction) : Option Double :=
  let guess : Int := (Nat.log2 x.num : Int) - (Nat.log2 x.den : Int) - 53
  let scaledBy (e : Int) : Fraction :=
    if 0 ≤ e then ⟨x.num, x.den * Nat.pow 2 e.toNat⟩ else ⟨x.num * Nat.pow 2 (-e).toNat, x.den⟩
  let fits (e : Int) : Bool := let y := scaledBy e; y.num < 2 * leading * y.den
  let low := max guess (-1074)
  let e := if fits low then low else if fits (low + 1) then low + 1 else low + 2
  let m := roundHalfEven (scaledBy e)
  let d : Double := if m = 2 * leading then ⟨leading, e + 1⟩ else ⟨m, e⟩
  if d.exponent ≤ 971 then some d else none

/-- whether a positive fraction rounds to the double, by exact comparison with the ends of its interval -/
def Double.holds (d : Double) (x : Fraction) : Bool :=
  let closed := d.mantissa % 2 == 0
  let below := if d.mantissa == leading && d.exponent > -1074 then scaled (4 * d.mantissa - 1) 2 (d.exponent - 2)
    else scaled (2 * d.mantissa - 1) 2 (d.exponent - 1)
  let above := scaled (2 * d.mantissa + 1) 2 (d.exponent - 1)
  let low := compare (below.num * x.den) (x.num * below.den)
  let high := compare (x.num * above.den) (above.num * x.den)
  (low == .lt || (closed && low == .eq)) && (high == .lt || (closed && high == .eq))

/-- the power of ten `p` with `10 ^ (p - 1) ≤ x < 10 ^ p` -/
def magnitude (x : Fraction) : Int :=
  let guess : Int := (decimal x.num).length - (decimal x.den).length
  let below (p : Int) : Bool :=
    let y := scaled 1 10 p
    x.num * y.den < y.num * x.den
  if below guess then guess else guess + 1

/-- digits and power of ten of the shortest decimal of at least `n` digits, of `tries` lengths tried -/
def shortestFrom (d : Double) : Nat → Nat → Nat × Int
  | 0, _ => (d.mantissa, 0)
  | tries + 1, n =>
    let x := scaled d.mantissa 2 d.exponent
    let e := magnitude x - n
    let y : Fraction := if 0 ≤ e then ⟨x.num, x.den * Nat.pow 10 e.toNat⟩ else ⟨x.num * Nat.pow 10 (-e).toNat, x.den⟩
    let low := y.num / y.den
    let near := roundHalfEven y
    let far := if near = low then low + 1 else low
    if near ≠ 0 ∧ d.holds (scaled near 10 e) = true then (near, e)
    else if far ≠ 0 ∧ d.holds (scaled far 10 e) = true then (far, e)
    else shortestFrom d tries (n + 1)

def shortest (d : Double) : Nat × Int := shortestFrom d 17 1

/-- drops zeros at the end of the digits, `fuel` of them at most -/
def stripZeros : Nat → Nat × Int → Nat × Int
  | 0, p => p
  | fuel + 1, (n, e) => if n % 10 = 0 ∧ n ≠ 0 then stripZeros fuel (n / 10, e + 1) else (n, e)

/-- positional between 10^-5 and 10^16, with a fraction part always; else one digit before the point and an exponent -/
def layout (digits : List Char) (e : Int) : List Char :=
  let len : Int := digits.length
  let point := len + e
  if 0 ≤ e ∧ point ≤ 16 then digits ++ List.replicate e.toNat '0' ++ ['.', '0']
  else if 0 < point ∧ point ≤ 16 then digits.take point.toNat ++ '.' :: digits.drop point.toNat
  else if -5 < point ∧ point ≤ 0 then '0' :: '.' :: List.replicate (-point).toNat '0' ++ digits
  else match digits with
    | [d] => d :: 'e' :: signedDecimal (point - 1)
    | d :: ds => d :: '.' :: ds ++ 'e' :: signedDecimal (point - 1)
    | [] => []

/-- the text of an exact decimal, read as the nearest double; one beyond the largest double has no text but `null` -/
def render (x : Scientific) : List Char :=
  let sign := if x.negative then ['-'] else []
  if x.digits = 0 then sign ++ ['0', '.', '0']
  else match nearest? (scaled x.digits 10 x.exponent) with
    | none => ['n', 'u', 'l', 'l']
    | some ⟨0, _⟩ => sign ++ ['0', '.', '0']
    | some d =>
      let (n, e) := stripZeros 17 (shortest d)
      sign ++ layout (decimal n) e

end AccountStats.Real
