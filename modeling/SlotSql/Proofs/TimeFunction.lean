import SlotSql.Proofs.Calendar.Order
import SlotSql.Proofs.Statement.Excerpt
import SlotSql.Table.Value
import SlotSql.TimeFunction
/-!
# Functions of dates and times agree

A text of which the functions make a stamp has a date and a time of day as well, and these are the two parts of the stamp.
The stamp is a text of the same moment, so that the functions give the same for it; and each of the three texts is in the
form in which a column stores it.

A time of day is looked for first, where one is asked for. No text of a moment is one: behind its first digits a time has
a colon, and a date a hyphen.

Results:
* `moment?_text`: a moment is read from its text.
* `moment?_of_clock`: a text of a time of day is none of a moment.
* `stamp_parts`: what the functions make of a text, and of the stamp that they make of it.
-/
namespace SlotSql

open Calendar

/-- The text that an argument stands for, if its column has a value. -/
def Argument.input? (column : Option String) : Argument → Option String
  | .literal l => some l.value
  | .column _ => column

namespace TimeFunction

/-- The value of a function at a text, be it a literal or the value of a column. -/
def Gives (f : TimeFunction) (input output : String) : Prop :=
  ∀ (a : Argument) (now : Int) (column : Option String), a.input? column = some input →
    (Call.mk f (some a)).evaluate now column = .ok (some output)

variable {f : TimeFunction} {a : Argument} {now : Int} {column : Option String} {input output s : String}
  {m : Moment} {n width : Nat} {cs r : List Char} {c : Char}

theorem evaluate_eq (h : a.input? column = some input) :
    (Call.mk f (some a)).evaluate now column = (f.convert input).map some := by
  cases a with
  | literal l =>
    cases h
    rfl
  | column name =>
    cases h
    rfl

theorem gives_of_convert (h : f.convert input = .ok output) : f.Gives input output := by
  intro a now column ha
  rw [evaluate_eq ha, h]
  rfl

/-! ## Moments and times of day -/

/-- What stands behind the first digits of a text, after any blanks. -/
def behindDigits (cs : List Char) : List Char := (Text.trimStart cs).dropWhile isDigit

theorem behindDigits_of_digits? (h : digits? width (Text.trimStart cs) = some (n, c :: r))
    (hc : isDigit c = false) : behindDigits cs = c :: r := by
  unfold digits? at h
  simp only [Option.map_eq_some_iff, Prod.mk.injEq] at h
  obtain ⟨n', -, -, hdrop⟩ := h
  generalize hds : ((Text.trimStart cs).take width).takeWhile isDigit = ds at hdrop
  have hprefix : ds <+: Text.trimStart cs :=
    hds ▸ (List.takeWhile_prefix _).trans (List.take_prefix _ _)
  have hall : ∀ d ∈ ds, isDigit d = true := by
    intro d hd
    rw [← hds] at hd
    exact List.mem_takeWhile_imp hd
  unfold behindDigits
  rw [← List.prefix_iff_eq_append.1 hprefix, hdrop, List.dropWhile_append_of_pos hall,
    List.dropWhile_cons_of_neg (by simp [hc])]

/-- Behind the first digits of a time of day stands a colon. -/
theorem behindDigits_clock {t : Clock} (h : Clock.front? cs = some (t, r)) : ∃ r, behindDigits cs = ':' :: r := by
  unfold Clock.front? at h
  obtain ⟨⟨hour, r₁⟩, hpair, h⟩ := Option.bind_eq_some_iff.1 h
  obtain ⟨r₂, hskip, -⟩ := Option.bind_eq_some_iff.1 h
  cases r₁ with
  | nil => cases hskip
  | cons c r₁ =>
    unfold skip? at hskip
    obtain ⟨rfl, -⟩ := Option.ite_none_right_eq_some.1 hskip
    exact ⟨r₁, behindDigits_of_digits? hpair (by decide)⟩

/-- Behind the first digits of a date stands a hyphen, or a sign in front of them. -/
theorem behindDigits_date {d : Date} (h : Date.front? cs = some (d, r)) :
    ∃ c r, behindDigits cs = c :: r ∧ (c = '-' ∨ c = '+') := by
  unfold Date.front? at h
  obtain ⟨⟨year, r₁⟩, hyear, h⟩ := Option.bind_eq_some_iff.1 h
  obtain ⟨r₂, hskip, -⟩ := Option.bind_eq_some_iff.1 h
  unfold year? at hyear
  split at hyear
  · next r hcs => exact ⟨'-', r, by rw [behindDigits, hcs]; rfl, .inl rfl⟩
  · next r hcs => exact ⟨'+', r, by rw [behindDigits, hcs]; rfl, .inr rfl⟩
  · obtain ⟨⟨y, rest⟩, hdigits, heq⟩ := Option.map_eq_some_iff.1 hyear
    cases heq
    cases r₁ with
    | nil => cases hskip
    | cons c r₁ =>
      unfold skip? at hskip
      obtain ⟨rfl, -⟩ := Option.ite_none_right_eq_some.1 hskip
      exact ⟨'-', r₁, behindDigits_of_digits? hdigits (by decide), .inl rfl⟩

/-- No number has a colon. -/
theorem int64?_of_colon (h : ':' ∈ s.toList) : Number.int64? s = none := by
  have hdigits {cs : List Char} (h : ':' ∈ cs) : Number.digits? 10 cs = none := by
    rw [← Option.not_isSome_iff_eq_none, Number.digits?_isSome]
    intro hall
    have hcolon := hall.2 ':' h
    revert hcolon
    decide
  unfold Number.int64? Number.signedInteger? Number.integer? Number.signed?
  split
  · next cs hcs => simp [hdigits (show ':' ∈ cs by simpa [hcs] using h)]
  · next cs hcs => simp [hdigits (show ':' ∈ cs by simpa [hcs] using h)]
  · simp [hdigits h]

/-- A text of a time of day is none of a moment. -/
theorem moment?_of_clock {t : Clock} (h : Clock.read? s = some t) : moment? s = none := by
  obtain ⟨⟨t', r⟩, hfront, -⟩ := Option.bind_eq_some_iff.1 h
  obtain ⟨rest, hcolon⟩ := behindDigits_clock hfront
  have hmem : ':' ∈ s.toList := by
    have : ':' ∈ behindDigits s.toList := by simp [hcolon]
    exact (List.dropWhile_suffix _).subset ((List.dropWhile_suffix _).subset this)
  have hdate : Date.front? s.toList = none := by
    rw [Option.eq_none_iff_forall_ne_some]
    rintro ⟨d, r⟩ hd
    obtain ⟨c, r, hc, hsign⟩ := behindDigits_date hd
    rw [hcolon, List.cons.injEq] at hc
    rcases hsign with rfl | rfl <;> exact absurd hc.1 (by decide)
  unfold moment? Moment.read? Date.read?
  rw [int64?_of_colon hmem, hdate]
  rfl

/-- What is read as a moment exists. -/
theorem moment?_valid (h : moment? s = some m) : m.Valid := by
  unfold moment? at h
  split at h
  · exact Moment.valid_ofSeconds? h
  · cases hm : Moment.read? s with
    | some m' =>
      rw [hm] at h
      cases h
      exact Moment.valid_of_read? hm
    | none =>
      rw [hm] at h
      obtain ⟨d, hd, rfl⟩ := Option.map_eq_some_iff.1 h
      exact ⟨Date.valid_of_read? hd, (by decide : (Clock.mk 0 0 0).Valid)⟩

/-! ## Texts of moments -/

theorem isBlank_date (d : Date) : ∀ c ∈ d.chars, Text.isBlank c = false := by
  intro c hc
  have hpad {w n : Nat} (h : c ∈ padded w n) : Text.isBlank c = false := isBlank_of_isDigit (isDigit_padded h)
  unfold Date.chars yearText at hc
  simp only [List.mem_append, List.mem_singleton] at hc
  rcases hc with (((hc | rfl) | hc) | rfl) | hc
  · split at hc
    · exact hpad hc
    · rcases List.mem_cons.1 hc with rfl | hc
      · split <;> decide
      · exact hpad hc
  · decide
  · exact hpad hc
  · decide
  · exact hpad hc

theorem isBlank_clock (t : Clock) : ∀ c ∈ t.chars, Text.isBlank c = false := by
  intro c hc
  have hpad {w n : Nat} (h : c ∈ padded w n) : Text.isBlank c = false := isBlank_of_isDigit (isDigit_padded h)
  unfold Clock.chars at hc
  simp only [List.mem_append, List.mem_singleton] at hc
  rcases hc with (((hc | rfl) | hc) | rfl) | hc
  · exact hpad hc
  · decide
  · exact hpad hc
  · decide
  · exact hpad hc

/-- Trimming leaves the text of a moment alone. -/
theorem trimmed_text (m : Moment) : Text.trimmed m.text = m.text := by
  have hdate : Text.Solid m.date.chars := .word (by simp [Date.chars]) (isBlank_date m.date)
  have hclock : Text.Solid m.clock.chars := .word (by simp [Clock.chars]) (isBlank_clock m.clock)
  unfold Text.trimmed Moment.text Moment.chars
  rw [String.toList_ofList, (hdate.around [' '] hclock).trim]

theorem text_eq (m : Moment) : m.text = m.date.text ++ " " ++ m.clock.text := by
  rw [← String.toList_inj]
  simp [Moment.text, Moment.chars, Date.text, Clock.text]

/-- A moment is read from its text. -/
theorem moment?_text (h : m.Valid) : moment? m.text = some m := by
  have hcolon : ':' ∈ m.text.toList := by simp [Moment.text, Moment.chars, Clock.chars]
  unfold moment?
  rw [int64?_of_colon hcolon, Moment.read?_text h]
  rfl

/-! ## Values of functions -/

theorem convert_of_moment? (h : moment? (Text.trimmed input) = some m) :
    f.convert input = .ok (f.part m) := by
  have hclock : (if f = toTime then Clock.read? (Text.trimmed input) else none) = none := by
    split
    · rw [Option.eq_none_iff_forall_ne_some]
      intro t ht
      rw [moment?_of_clock ht] at h
      cases h
    · rfl
  unfold convert
  simp only [hclock, h]
  rfl

/-- A text of which the functions make a stamp has its date and its time of day. -/
theorem moment?_of_convert (h : toStamp.convert input = .ok s) :
    ∃ m, moment? (Text.trimmed input) = some m ∧ s = m.text := by
  cases hm : moment? (Text.trimmed input) with
  | some m =>
    rw [convert_of_moment? hm] at h
    exact ⟨m, rfl, (Except.ok.inj h).symm⟩
  | none =>
    unfold convert at h
    simp only [hm] at h
    cases h

/-- Of a text that gives a stamp the functions give the two parts of the stamp, of the stamp they give the same, and each
of the three is stored as it is. -/
theorem stamp_parts (ha : a.input? column = some input)
    (h : (Call.mk toStamp (some a)).evaluate now column = .ok (some s)) :
    ∃ d t, s = d ++ " " ++ t ∧ toDate.Gives input d ∧ toTime.Gives input t ∧
      toStamp.Gives s s ∧ toDate.Gives s d ∧ toTime.Gives s t ∧
      ∀ f : Field, f.isKey = false → (f.type = .stamp → f.normalize s = .ok s) ∧
        (f.type = .date → f.normalize d = .ok d) ∧ (f.type = .time → f.normalize t = .ok t) := by
  rw [evaluate_eq ha] at h
  have hconvert : toStamp.convert input = .ok s := by
    cases hc : toStamp.convert input with
    | ok v =>
      rw [hc] at h
      cases h
      rfl
    | error e =>
      rw [hc] at h
      cases h
  obtain ⟨m, hm, rfl⟩ := moment?_of_convert hconvert
  have hvalid := moment?_valid hm
  have hagain : moment? (Text.trimmed m.text) = some m := by rw [trimmed_text, moment?_text hvalid]
  refine ⟨m.date.text, m.clock.text, text_eq m, ?_, ?_, ?_, ?_, ?_, ?_⟩
  · exact gives_of_convert (convert_of_moment? hm)
  · exact gives_of_convert (convert_of_moment? hm)
  · exact gives_of_convert (convert_of_moment? hagain)
  · exact gives_of_convert (convert_of_moment? hagain)
  · exact gives_of_convert (convert_of_moment? hagain)
  · intro f hkey
    have hstored (v : String) : f.normalize? v = f.stored v := by simp [Field.normalize?, hkey]
    refine ⟨?_, ?_, ?_⟩
    · intro ht
      simp [Field.normalize, hstored, Field.stored_stamp ht, Moment.read?_text hvalid]
    · intro ht
      simp [Field.normalize, hstored, Field.stored_date ht, Date.read?_text hvalid.1]
    · intro ht
      simp [Field.normalize, hstored, Field.stored_time ht, Clock.read?_text hvalid.2]

/-- A year of five digits, counted in seconds with blanks around. -/
theorem stamp_parts_year :
    (Argument.column "ts").input? (some " 253402300800 ") = some " 253402300800 " ∧
    (Call.mk toStamp (some (.column "ts"))).evaluate 0 (some " 253402300800 ") = .ok (some "+10000-01-01 00:00:00") ∧
    ∃ d t, "+10000-01-01 00:00:00" = d ++ " " ++ t ∧ toDate.Gives " 253402300800 " d ∧ toTime.Gives " 253402300800 " t ∧
      toStamp.Gives "+10000-01-01 00:00:00" "+10000-01-01 00:00:00" ∧ toDate.Gives "+10000-01-01 00:00:00" d ∧
      toTime.Gives "+10000-01-01 00:00:00" t ∧
      ∀ f : Field, f.isKey = false → (f.type = .stamp → f.normalize "+10000-01-01 00:00:00" = .ok "+10000-01-01 00:00:00") ∧
        (f.type = .date → f.normalize d = .ok d) ∧ (f.type = .time → f.normalize t = .ok t) := by
  have hinput : (Argument.column "ts").input? (some " 253402300800 ") = some " 253402300800 " := rfl
  have hstamp : (Call.mk toStamp (some (.column "ts"))).evaluate 0 (some " 253402300800 ") =
      .ok (some "+10000-01-01 00:00:00") := by
    decide +kernel
  exact ⟨hinput, hstamp, stamp_parts hinput hstamp⟩

end TimeFunction
end SlotSql
