import Mathlib.Data.List.Basic
import SlotSql.Report.Basic
/-!
# Reading separated values back

A reader of comma-separated values as they are commonly laid down: a record ends with a line feed, which the last one may
lack; its fields have commas between them; a field between quotes may hold any character, and a quote in it is written
twice; any other field holds neither quotes nor commas nor line ends.

Results:
* `foldlM_field`, `foldlM_record`: the reader behind a field and behind a record that were written.
* `read?_report`: a report of rows is read as the names of its columns and a record for each row, with one field for each
  column.
-/
namespace SlotSql.Csv

/-- Where a reader stands. -/
inductive Place where
  /-- In front of a field. -/
  | front
  /-- In a field without quotes. -/
  | plain
  /-- Between quotes. -/
  | quoted
  /-- Behind a quote that ends the field or is the first of two. -/
  | closing
  deriving DecidableEq

/-- What has been read: whole records, whole fields of the record under way, and characters of the field under way. -/
structure Reader where
  records : List (List String) := []
  fields : List String := []
  field : List Char := []
  place : Place := .front

namespace Reader

/-- The fields of the record under way, if its last field ends here. -/
def whole (r : Reader) : List String := r.fields ++ [String.ofList r.field]

/-- The field goes on with a character. -/
def push (r : Reader) (c : Char) (p : Place) : Reader := { r with field := r.field ++ [c], place := p }

/-- A comma ends a field and a line feed a record; nothing else may stand behind a field. -/
def separate? (r : Reader) (c : Char) : Option Reader :=
  if c = ',' then some { records := r.records, fields := r.whole }
  else if c = '\n' then some { records := r.records ++ [r.whole] }
  else none

/-- Reads a character. -/
def step (r : Reader) (c : Char) : Option Reader :=
  match r.place with
  | .quoted => some (if c = '\x22' then { r with place := .closing } else r.push c .quoted)
  | .closing => if c = '\x22' then some (r.push c .quoted) else r.separate? c
  | p =>
    if c = '\x22' then if p = .front then some { r with place := .quoted } else none
    else if c = ',' ∨ c = '\n' ∨ c = '\r' then r.separate? c
    else some (r.push c .plain)

/-- The records, once the text is at its end. -/
def finish (r : Reader) : Option (List (List String)) :=
  if r.place = .quoted then none
  else if r.place = .front ∧ r.fields = [] then some r.records
  else some (r.records ++ [r.whole])

end Reader

/-- The records that a text holds. -/
def read? (s : String) : Option (List (List String)) := (s.toList.foldlM Reader.step {}).bind Reader.finish

variable {r : Reader} {c sep : Char} {cs rest : List Char}

open Reader

/-! ## Fields -/

/-- A character that ends a field. -/
def IsSeparator (c : Char) : Prop := c = ',' ∨ c = '\n'

theorem step_separator (hp : r.place ≠ .quoted) (hs : IsSeparator sep) : r.step sep = r.separate? sep := by
  have hq : sep ≠ '\x22' := by rcases hs with rfl | rfl <;> decide
  unfold Reader.step
  cases h : r.place with
  | quoted => exact absurd h hp
  | closing => simp [hq]
  | front | plain => rcases hs with rfl | rfl <;> simp

/-- A field without quotes is read up to its separator. -/
theorem foldlM_plain (hp : r.place = .front ∨ r.place = .plain) (hs : IsSeparator sep)
    (hcs : ∀ c ∈ cs, isSpecial c = false) : (cs ++ sep :: rest).foldlM step r =
      ({ r with field := r.field ++ cs }.separate? sep).bind (rest.foldlM step) := by
  induction cs generalizing r with
  | nil =>
    have hq : r.place ≠ .quoted := by rcases hp with h | h <;> simp [h]
    simp [step_separator hq hs]
  | cons c cs ih =>
    obtain ⟨hc, hcs⟩ := List.forall_mem_cons.1 hcs
    have hstep : r.step c = some (r.push c .plain) := by
      simp only [isSpecial, quote, Bool.or_eq_false_iff, beq_eq_false_iff_ne] at hc
      unfold Reader.step
      rcases hp with h | h <;> simp [h, hc]
    rw [List.cons_append, List.foldlM_cons, hstep]
    show (cs ++ sep :: rest).foldlM step (r.push c .plain) = _
    rw [ih (.inr rfl) hcs]
    simp [push, separate?, whole]

/-- So is what stands between quotes, with each quote in it written twice. -/
theorem foldlM_quoted (hp : r.place = .quoted) (hs : IsSeparator sep) :
    (doubled cs ++ quote :: sep :: rest).foldlM step r =
      ({ r with field := r.field ++ cs }.separate? sep).bind (rest.foldlM step) := by
  induction cs generalizing r with
  | nil =>
    have hq : r.step quote = some { r with place := .closing } := by simp [Reader.step, hp, quote]
    have hsep := step_separator (r := { r with place := .closing }) (by simp) hs
    simp [doubled, hq, hsep, separate?, whole]
  | cons c cs ih =>
    have hpush : (r.push c .quoted).place = .quoted := rfl
    have hread : (doubled (c :: cs) ++ quote :: sep :: rest).foldlM step r =
        (doubled cs ++ quote :: sep :: rest).foldlM step (r.push c .quoted) := by
      by_cases hc : c = quote
      · subst hc
        have hfirst : r.step quote = some { r with place := .closing } := by simp [Reader.step, hp, quote]
        have hsecond : { r with place := .closing }.step quote = some (r.push quote .quoted) := by
          simp [Reader.step, push, quote]
        simp [doubled, hfirst, hsecond]
      · have hstep : r.step c = some (r.push c .quoted) := by
          have : c ≠ '\x22' := hc
          simp [Reader.step, hp, this]
        simp [doubled, hc, hstep]
    rw [hread, ih hpush]
    simp [push, separate?, whole]

/-- Behind a field that was written stands its text. -/
theorem foldlM_field (hp : r.place = .front) (hf : r.field = []) (hs : IsSeparator sep) (s : String) :
    ((field s).toList ++ sep :: rest).foldlM step r =
      ({ r with field := s.toList }.separate? sep).bind (rest.foldlM step) := by
  unfold Csv.field
  split
  · have hopen : r.step quote = some { r with place := .quoted } := by simp [Reader.step, hp, quote]
    have hbody : (doubled s.toList ++ quote :: sep :: rest).foldlM step { r with place := .quoted } = _ :=
      foldlM_quoted rfl hs
    simp only [String.toList_ofList, List.cons_append, List.nil_append, List.append_assoc, List.foldlM_cons, hopen]
    show (doubled s.toList ++ quote :: sep :: rest).foldlM step { r with place := .quoted } = _
    rw [hbody]
    simp [separate?, whole, hf]
  · next h =>
    have hcs : ∀ c ∈ s.toList, isSpecial c = false := by simpa using h
    rw [foldlM_plain (.inl hp) hs hcs, hf, List.nil_append]

/-! ## Records -/

/-- Behind a record that was written stand its fields. -/
theorem foldlM_record (records : List (List String)) (done : List String) (f : String) (fs : List String)
    (rest : List Char) : ((record (f :: fs)).toList ++ '\n' :: rest).foldlM step { records, fields := done } =
      rest.foldlM step { records := records ++ [done ++ f :: fs] } := by
  induction fs generalizing f done with
  | nil =>
    have hrecord : (record [f]).toList = (field f).toList := by simp [record]
    rw [hrecord, foldlM_field rfl rfl (.inr rfl)]
    simp [separate?, whole]
  | cons g gs ih =>
    have hrecord : (record (f :: g :: gs)).toList = (field f).toList ++ ',' :: (record (g :: gs)).toList := by
      simp [record, String.toList_intercalate]
    rw [hrecord, List.append_assoc, List.cons_append, foldlM_field rfl rfl (.inl rfl)]
    simp only [separate?, whole, String.ofList_toList, if_true, Option.bind_some]
    rw [ih, List.append_assoc]
    rfl

theorem read?_lines (rs : List (List String)) (h : ∀ fs ∈ rs, fs ≠ []) :
    read? (Rows.linesText (rs.map record)) = some rs := by
  have hrun (records : List (List String)) : (Rows.linesText (rs.map record)).toList.foldlM step { records } =
      some { records := records ++ rs } := by
    induction rs generalizing records with
    | nil => simp [Rows.linesText]
    | cons fs rs ih =>
      obtain ⟨hfs, hrs⟩ := List.forall_mem_cons.1 h
      obtain ⟨f, fs, rfl⟩ := List.exists_cons_of_ne_nil hfs
      have hline : (Rows.linesText ((f :: fs) :: rs |>.map record)).toList =
          (record (f :: fs)).toList ++ '\n' :: (Rows.linesText (rs.map record)).toList := by
        simp [Rows.linesText]
      rw [hline, foldlM_record, ih hrs]
      simp
  unfold read?
  rw [hrun []]
  simp [finish]

/-! ## Reports -/

/-- A report of rows is read as the names of its columns and, in the order of the rows, one field for each column: the
text of the cell, or nothing where there is none. -/
theorem read?_report (r : Rows) (h : r.columns ≠ []) : read? (r.report .csv) =
    some (r.columns.map Header.name :: r.rows.map fun row =>
      (List.range r.columns.length).map fun i => (row.cell? i).elim "" fun c => Rows.reportText (some c)) := by
  have htext (row : Row) (i : Nat) :
      Rows.csvText (row.cell? i) = (row.cell? i).elim "" fun c => Rows.reportText (some c) := by
    cases row.cell? i <;> rfl
  have hlines : r.report .csv = Rows.linesText ((r.columns.map Header.name :: r.rows.map fun row =>
      (List.range r.columns.length).map fun i => (row.cell? i).elim "" fun c => Rows.reportText (some c)).map record) := by
    have hempty : r.columns.isEmpty = false := by simpa using h
    simp [Rows.report, Rows.lineReport, hempty, htext, RowsOf.width, Function.comp_def]
  rw [hlines]
  apply read?_lines
  intro fs hfs
  rcases List.mem_cons.1 hfs with rfl | hfs
  · simpa using h
  · obtain ⟨row, -, rfl⟩ := List.mem_map.1 hfs
    simpa using h

/-- Names and texts with separators and quotes in them, a result inside a cell, a missing cell, and a row without cells. -/
theorem read?_report_quotes :
    let inner : Rows := { title := "", columns := [⟨"name", true⟩] }
    let r : Rows :=
      { title := "t.logs"
        columns := [⟨"sid, day", true⟩, ⟨"note", false⟩]
        rows := [⟨"1", [some (.integer 1), some (.text "a\r\n\"b\",")]⟩, ⟨"2", [none, some (.nested inner)]⟩, ⟨"3", []⟩] }
    r.columns ≠ [] ∧ read? (r.report .csv) = some [["sid, day", "note"], ["1", "a\r\n\"b\","],
      ["", "+------+\n| name |\n+------+\n(0 rows)"], ["", ""]] := by
  intro inner r
  have h : r.columns ≠ [] := by simp [r]
  refine ⟨h, (read?_report r h).trans ?_⟩
  decide +kernel

end SlotSql.Csv
