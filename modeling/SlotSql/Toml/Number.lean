import SlotSql.Calendar
import SlotSql.Number.Double
import SlotSql.Text.Pieces
import SlotSql.Toml.Value
/-!
# Numbers and dates in TOML

Digits can have single underscores between them. A number without a point and an exponent is an
integer of 64 bits; it can also be written in three other bases, then without a sign. Dates and times
have all their digits.
-/
namespace SlotSql.Toml

/-- The digits of a run that has begun, with underscores left out, and the rest. -/
def moreDigits (isDigit : Char → Bool) : List Char → List Char × List Char
  | '_' :: d :: cs =>
    if isDigit d then
      let (ds, rest) := moreDigits isDigit cs
      (d :: ds, rest)
    else ([], '_' :: d :: cs)
  | d :: cs =>
    if isDigit d then
      let (ds, rest) := moreDigits isDigit cs
      (d :: ds, rest)
    else ([], d :: cs)
  | [] => ([], [])

/-- A run of digits, at least one, and the rest. -/
def digitRun? (isDigit : Char → Bool) : List Char → Option (List Char × List Char)
  | d :: cs =>
    if isDigit d then
      let (ds, rest) := moreDigits isDigit cs
      some (d :: ds, rest)
    else none
  | [] => none

/-- The sign in front of a number, if there is one, and the rest. -/
def sign : List Char → List Char × List Char
  | c :: cs => if c = '+' ∨ c = '-' then ([c], cs) else ([], c :: cs)
  | [] => ([], [])

/-- The digits of a whole number, which does not begin with a zero unless it is zero. -/
def whole? : List Char → Option (List Char × List Char)
  | '0' :: cs => some (['0'], cs)
  | cs => digitRun? Char.isDigit cs

/-- The digits behind a point, with the point, and the rest. -/
def fraction? : List Char → Option (List Char × List Char)
  | '.' :: cs => (digitRun? Char.isDigit cs).map fun (ds, rest) => ('.' :: ds, rest)
  | _ => none

/-- An exponent and the rest. -/
def exponentPart? : List Char → Option (List Char × List Char)
  | c :: cs =>
    if c = 'e' ∨ c = 'E' then
      let (s, cs) := sign cs
      (digitRun? Char.isDigit cs).map fun (ds, rest) => ('e' :: s ++ ds, rest)
    else none
  | [] => none

/-- What makes a float of a whole number: a fraction, an exponent or both. -/
def floatPart? (cs : List Char) : Option (List Char × List Char) :=
  match fraction? cs with
  | some (f, cs) =>
    match exponentPart? cs with
    | some (e, rest) => some (f ++ e, rest)
    | none => some (f, cs)
  | none => exponentPart? cs

/-- The double that a text writes, unless it is too large. -/
def bounded? (cs : List Char) : Option Float :=
  (Number.double? (String.ofList cs)).filter fun x => !(x.isInf && 0 < x)

/-- A float or an integer, and the rest. -/
def decimal? (cs : List Char) : Option (Value × List Char) := do
  let (s, cs) := sign cs
  let (w, cs) ← whole? cs
  match floatPart? cs with
  | some (f, rest) =>
    let _ ← bounded? (s ++ w ++ f)
    return (.float, rest)
  | none => return (.integer (← Number.int64? (String.ofList (s ++ w))), cs)

/-- An infinity or a NaN, and the rest. -/
def specialFloat? (cs : List Char) : Option (Value × List Char) :=
  let cs := (sign cs).2
  ((Text.stripStart? ['i', 'n', 'f'] cs) <|> Text.stripStart? ['n', 'a', 'n'] cs).map (.float, ·)

/-- An integer in another base, and the rest. -/
def based? : List Char → Option (Value × List Char)
  | '0' :: c :: cs => do
    let base ← if c = 'x' then some 16 else if c = 'o' then some 8 else if c = 'b' then some 2 else none
    let (ds, rest) ← digitRun? (fun d => (Number.digit? base d).isSome) cs
    let n ← Number.integer? base 0 (Number.signedMax 64) (String.ofList ds)
    return (.integer n, rest)
  | _ => none

/-- The number that exactly so many digits write, and the rest. -/
def digits? (count : Nat) (cs : List Char) : Option (Nat × List Char) :=
  let ds := cs.take count
  if ds.length = count ∧ ds.all Char.isDigit then
    (Number.digits? 10 ds).map (·, cs.drop count)
  else none

/-- The number that two digits write, if it is in the range, and the rest. -/
def twoDigits? (lo hi : Nat) (cs : List Char) : Option (Nat × List Char) :=
  (digits? 2 cs).filter fun (n, _) => lo ≤ n && n ≤ hi

/-- The rest behind a date. -/
def afterDate? (cs : List Char) : Option (List Char) := do
  let (year, r) ← digits? 4 cs
  let (month, r) ← twoDigits? 1 12 (← Calendar.skip? '-' r)
  let (day, r) ← twoDigits? 1 31 (← Calendar.skip? '-' r)
  if day ≤ Calendar.daysIn year month then some r else none

/-- The rest behind the digits of a fraction of a second, if there are some. -/
def afterFraction (cs : List Char) : List Char :=
  match cs with
  | '.' :: d :: r => if d.isDigit then r.dropWhile Char.isDigit else cs
  | _ => cs

/-- The rest behind a time of day. -/
def afterTime? (cs : List Char) : Option (List Char) := do
  let (_, r) ← twoDigits? 0 23 cs
  let (_, r) ← twoDigits? 0 59 (← Calendar.skip? ':' r)
  let (_, r) ← twoDigits? 0 60 (← Calendar.skip? ':' r)
  return afterFraction r

/-- The rest behind the difference to universal time. -/
def afterOffset? : List Char → Option (List Char)
  | c :: cs => do
    if c = 'Z' ∨ c = 'z' then return cs
    else if c = '+' ∨ c = '-' then
      let (_, r) ← twoDigits? 0 23 cs
      let (_, r) ← twoDigits? 0 59 (← Calendar.skip? ':' r)
      return r
    else none
  | [] => none

/-- The rest behind the time of a date. -/
def afterDateTime? : List Char → Option (List Char)
  | c :: cs =>
    if c = 'T' ∨ c = 't' ∨ c = ' ' then
      (afterTime? cs).map fun r => (afterOffset? r).getD r
    else none
  | [] => none

/-- A date, a time or both, and the rest. -/
def date? (cs : List Char) : Option (Value × List Char) :=
  let rest? := match afterDate? cs with
    | some r => some ((afterDateTime? r).getD r)
    | none => afterTime? cs
  rest?.map (.date, ·)

/-- A value that begins with a sign or a digit, and the rest. -/
def numeric? (cs : List Char) : Option (Value × List Char) :=
  date? cs <|> based? cs <|> decimal? cs <|> specialFloat? cs

end SlotSql.Toml
