import SlotSql.Statement.Basic
import SlotSql.Statement.Excerpt
/-!
# Commands for the store, as they are typed

A command is a sequence of arguments with blanks between them. An argument, or a part of it, can
stand between double quotes, where a backslash takes the meaning of the next character away (and
writes a line feed, carriage return or tab before `n`, `r`, `t`), or between single quotes, where
only a single quote can be written with a backslash.
-/
namespace SlotSql.RawCommand

/-- What a backslash and the character behind it stand for between the given quotes. -/
def escaped (quote c : Char) : List Char :=
  if quote = '\x22' then
    if c = 'n' then ['\n'] else if c = 'r' then ['\r'] else if c = 't' then ['\t'] else [c]
  else if c = quote then [c]
  else ['\\', c]

/-- One argument and the rest behind it, or none if a quote is not closed. -/
def argument? (quote : Option Char) : List Char → Option (List Char × List Char)
  | [] => if quote.isNone then some ([], []) else none
  | c :: cs =>
    match quote with
    | none =>
      if Text.isBlank c then some ([], c :: cs)
      else if c = '\x22' ∨ c = '\x27' then argument? (some c) cs
      else (argument? none cs).map fun (a, r) => (c :: a, r)
    | some q =>
      if c = q then argument? none cs
      else if c = '\\' then
        match cs with
        | [] => none
        | e :: cs => (argument? (some q) cs).map fun (a, r) => (escaped q e ++ a, r)
      else (argument? (some q) cs).map fun (a, r) => (c :: a, r)

theorem length_argument? {quote : Option Char} {cs a r : List Char}
    (h : argument? quote cs = some (a, r)) : r.length ≤ cs.length := by
  fun_induction argument? quote cs generalizing a r <;>
    simp_all [Option.map_eq_some_iff] <;> grind

theorem length_argument?_lt {c : Char} {cs a r : List Char} (hc : Text.isBlank c = false)
    (h : argument? none (c :: cs) = some (a, r)) : r.length < (c :: cs).length := by
  rw [argument?] at h
  simp only [hc, Bool.false_eq_true, if_false] at h
  split at h
  · exact Nat.lt_succ_of_le (length_argument? h)
  · simp only [Option.map_eq_some_iff, Prod.exists] at h
    obtain ⟨x, y, hxy, he⟩ := h
    cases he
    exact Nat.lt_succ_of_le (length_argument? hxy)

/-- The arguments from the place `start` on, or the place of an argument whose quote is not
closed. -/
def arguments (start : Nat) : List Char → Except Nat (List String)
  | [] => .ok []
  | c :: cs =>
    if hc : Text.isBlank c then arguments (start + 1) cs
    else
      match _h : argument? none (c :: cs) with
      | none => .error start
      | some (a, r) =>
        (arguments (start + ((c :: cs).length - r.length)) r).map (String.ofList a :: ·)
termination_by cs => cs.length
decreasing_by
  · simp
  · exact length_argument?_lt (by simpa using hc) _h

/-- The arguments of a command. -/
def parse (input : String) : Except ParseError (List String) :=
  let e := (Excerpt.ofText input).trim
  match arguments 0 e.chars with
  | .error n => .error ((e.drop n).error "unbalanced quotes")
  | .ok [] => .error (e.error "empty command")
  | .ok as => .ok as

end SlotSql.RawCommand
