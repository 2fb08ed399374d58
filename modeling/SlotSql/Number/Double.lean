import SlotSql.Number.Integer
/-!
# Written doubles

A finite double is m · 2^q. The reals that round to it are an interval around it, the ends included
if m is even. `shortest` writes it with the fewest decimal digits that lie in the interval and, of
these, the nearest to the double; the search goes through the decimal grids from coarse to fine and
tests the two neighbours of the double on each.

Two layouts exist: `display`, positional for every exponent, and `jsonText`, which changes to an
exponent above 10^16 and below 10^-5.
-/
namespace SlotSql.Number

/-- A finite double without its sign: `m · 2^q`, and whether the next smaller double is nearer than
the next larger one. -/
structure Binary where
  m : Nat
  q : Int
  close : Bool

/-- What a tie between two nearest decimals does. -/
inductive Tie where
  | up
  | even

/-- The fields of a double: sign bit, exponent and fraction. -/
def fields (x : Float) : Bool × Nat × Nat :=
  let b := x.toBits.toNat
  (b / span 63 == 1, b / span 52 % span 11, b % span 52)

/-- The number that exponent and fraction of a finite double stand for. -/
def Binary.ofFields (e f : Nat) : Binary :=
  if e = 0 then ⟨f, -1074, false⟩ else ⟨f + span 52, (e : Int) - 1075, f = 0 ∧ 1 < e⟩

/-- The decimal `d · 10^k` in the interval of `x` on the grid `10^k`, if there is one. -/
def onGrid? (x : Binary) (tie : Tie) (k : Int) : Option (Nat × Int) :=
  -- in quarters of a unit, scaled so that everything is a whole number
  let s := x.q - 2
  let scale (n : Nat) := n * Nat.pow 2 s.toNat * Nat.pow 10 (-k).toNat
  let unit := Nat.pow 10 k.toNat * Nat.pow 2 (-s).toNat
  let value := scale (4 * x.m)
  let low := scale (4 * x.m - if x.close then 1 else 2)
  let high := scale (4 * x.m + 2)
  let inside (d : Nat) : Bool :=
    if x.m % 2 = 0 then low ≤ d * unit && d * unit ≤ high else low < d * unit && d * unit < high
  let d := value / unit
  let rest := value - d * unit
  let upper : Bool :=
    if 2 * rest = unit then (match tie with | .up => true | .even => d % 2 == 1) else unit < 2 * rest
  match inside d, inside (d + 1) with
  | true, true => some (if upper then d + 1 else d, k)
  | true, false => some (d, k)
  | false, true => some (d + 1, k)
  | false, false => none

/-- The fewest digits that read back as `x`, as a whole number times a power of ten. -/
def shortest (x : Binary) (tie : Tie) : Nat × Int :=
  if x.m = 0 then (0, 0)
  else
    let top : Int := (x.q + Nat.log2 x.m) * 30103 / 100000 + 2
    ((List.range 40).findSome? fun i : Nat => onGrid? x tie (top - (i : Int))).getD (0, 0)

/-- The digits `ds` times `10^k` in positional notation. -/
def positional (ds : List Char) (k : Int) : List Char :=
  if 0 ≤ k then ds ++ List.replicate k.toNat '0'
  else
    let places := (-k).toNat
    if places < ds.length then ds.take (ds.length - places) ++ ['.'] ++ ds.drop (ds.length - places)
    else ['0', '.'] ++ List.replicate (places - ds.length) '0' ++ ds

/-- A double in positional notation, whatever its size. -/
def display (x : Float) : String :=
  let (neg, e, f) := fields x
  if e = 2047 then (if f ≠ 0 then "NaN" else if neg then "-inf" else "inf")
  else
    let (d, k) := shortest (.ofFields e f) .up
    (if neg then "-" else "") ++ String.ofList (positional (Nat.toDigits 10 d) k)

/-- Whether a double is a number. -/
def isFinite (x : Float) : Bool := (fields x).2.1 ≠ 2047

/-- A finite double as a JSON number: it always has a point or an exponent. -/
def jsonText (x : Float) : String :=
  let (neg, e, f) := fields x
  let (d, k) := shortest (.ofFields e f) .even
  let ds := Nat.toDigits 10 d
  let point := ds.length + k
  let body :=
    if 0 ≤ k ∧ point ≤ 16 then positional ds k ++ ['.', '0']
    else if -5 < point ∧ point ≤ 16 then positional ds k
    else
      let mantissa := match ds with
        | [c] => [c]
        | c :: cs => c :: '.' :: cs
        | [] => []
      mantissa ++ ['e'] ++ (if 0 < point then ['+'] else []) ++ (toString (point - 1)).toList
  (if neg then "-" else "") ++ String.ofList body

/-- A decimal `d · 10^e` rounded to the nearest double. -/
def ofDecimal (d : Nat) (e : Int) : Float :=
  let size : Int := (Nat.toDigits 10 d).length
  if d = 0 then 0
  else if e + size > 400 then Float.ofBits 0x7FF0000000000000
  else if e + size < -400 then 0
  else Float.ofScientific d (decide (e < 0)) e.natAbs

/-- The exponent behind a mantissa: nothing, or `e` and a signed number. -/
def exponent? : List Char → Option Int
  | [] => some 0
  | c :: cs => if c = 'e' ∨ c = 'E' then signed? 10 cs else none

/-- A number without a sign: digits with an optional point, at least one digit, and an optional
exponent. -/
def magnitude? (cs : List Char) : Option Float :=
  let whole := cs.takeWhile Char.isDigit
  let r := cs.dropWhile Char.isDigit
  let (frac, r) := match r with
    | '.' :: r => (r.takeWhile Char.isDigit, r.dropWhile Char.isDigit)
    | r => ([], r)
  (digits? 10 (whole ++ frac)).bind fun d =>
    (exponent? r).map fun e => ofDecimal d (e - frac.length)

/-- The double that a text writes: a number, an infinity or a NaN, with an optional sign. -/
def double? (s : String) : Option Float :=
  let (neg, cs) := match s.toList with
    | '-' :: cs => (true, cs)
    | '+' :: cs => (false, cs)
    | cs => (false, cs)
  let word := String.ofList (cs.map Char.toLower)
  let x? :=
    if word = "inf" ∨ word = "infinity" then some (Float.ofBits 0x7FF0000000000000)
    else if word = "nan" then some (Float.ofBits 0x7FF8000000000000)
    else magnitude? cs
  x?.map fun x => if neg then -x else x

end SlotSql.Number
