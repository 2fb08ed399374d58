import SlotSql.Calendar
import SlotSql.Error
import SlotSql.Number.Integer
import SlotSql.Statement.Basic
/-!
# Functions of dates and times

The functions yield dates, times of day and stamps, all of them in universal time. An argument is a
number of seconds since 1970, a stamp or a date, and for the time of day also a time.
-/
namespace SlotSql

open Calendar

namespace TimeFunction

/-- The moment a number of seconds after 1970-01-01 00:00:00; a number beyond the calendar counts
as zero. -/
def momentAt (seconds : Int) : Moment :=
  (Moment.ofSeconds? seconds).getD ⟨⟨1970, 1, 1⟩, ⟨0, 0, 0⟩⟩

/-- The part of a moment that a function yields. -/
def part (f : TimeFunction) (m : Moment) : String :=
  match f with
  | nowDate | toDate => m.date.text
  | nowTime | toTime => m.clock.text
  | nowStamp | toStamp => m.text

/-- The moment that a text without blanks around it writes. -/
def moment? (s : String) : Option Moment :=
  match Number.int64? s with
  | some n => Moment.ofSeconds? n
  | none => Moment.read? s <|> (Date.read? s).map fun d => ⟨d, ⟨0, 0, 0⟩⟩

/-- The value of a function at a text. -/
def convert (f : TimeFunction) (input : String) : Except EngineError String :=
  let s := Text.trimmed input
  let clock? := if f = toTime then Clock.read? s else none
  match clock?.map Clock.text <|> (moment? s).map f.part with
  | some v => .ok v
  | none => .error (.exec (f.name ++ "() cannot convert '" ++ s ++ "'"))

end TimeFunction

/-- The value of a call at the time `now`, in seconds since 1970, if the column that it names has
the given value. Without a value of the column there is none of the call. -/
def Call.evaluate (c : Call) (now : Int) (column : Option String) :
    Except EngineError (Option String) :=
  match c.argument with
  | none => .ok (some (c.function.part (TimeFunction.momentAt now)))
  | some (.literal l) => (c.function.convert l.value).map some
  | some (.column _) => column.mapM c.function.convert

end SlotSql
