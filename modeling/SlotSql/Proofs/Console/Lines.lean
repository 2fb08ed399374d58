import SlotSql.Console.Script
import SlotSql.Proofs.Statement.Excerpt
/-!
# Lines that are typed

What is left behind the last delimiter of a text begins outside quotes, so a script may be split a part at a time: the
rest of one part is put in front of the next.

Every line is split behind the rest of the lines before it, and a blank line is passed over where nothing has been
typed. Over any number of lines that is what splitting the whole text would give: quotes, escapes and statements may
begin in one line and end in another.

Results:
* `pieces_cases`: a text is one piece, or its first piece ends at a delimiter and a new text begins behind it.
* `split_append`, `split_append_of_notMem`: what follows a text is split behind its rest.
* `split_congr`: blanks in front of a text do not matter.
* `feed_typed`, `feedAll_typed`: what lines complete, and what they leave.
* `feedAll_split`: typed lines complete the statements of the whole text, and leave the statement at its end.
-/
namespace SlotSql.Script

open Text

variable {delimiter q c : Char} {quote : Option Char} {a b cs ds : List Char} {ps : List (List Char)}

/-! ## Characters that belong to the first piece -/

@[simp] theorem pushed_cons (c : Char) (p : List Char) (ps : List (List Char)) :
    pushed c (p :: ps) = (c :: p) :: ps := rfl

theorem pieces_opening (h : c = '\x27' ∨ c = '\x22') :
    pieces delimiter none (c :: cs) = pushed c (pieces delimiter (some c) cs) := by
  rw [pieces, if_pos h]

theorem pieces_plain (h : ¬ (c = '\x27' ∨ c = '\x22')) (hd : c ≠ delimiter) :
    pieces delimiter none (c :: cs) = pushed c (pieces delimiter none cs) := by
  rw [pieces, if_neg h, if_neg hd]

theorem pieces_delimiter (h : ¬ (delimiter = '\x27' ∨ delimiter = '\x22')) :
    pieces delimiter none (delimiter :: cs) = [] :: pieces delimiter none cs := by
  rw [pieces, if_neg h, if_pos rfl]

theorem pieces_inside (h : ¬ (q = '\x22' ∧ c = '\\')) :
    pieces delimiter (some q) (c :: cs) = pushed c (pieces delimiter (if c = q then none else some q) cs) := by
  cases cs <;> simp only [pieces, if_neg h]

theorem pieces_escape (h : q = '\x22' ∧ c = '\\') (d : Char) :
    pieces delimiter (some q) (c :: d :: cs) = pushed c (pushed d (pieces delimiter (some q) cs)) := by
  rw [pieces, if_pos h]

/-! ## The first piece -/

theorem pieces_of_notMem (h : delimiter ∉ cs) : pieces delimiter quote cs = [cs] := by
  fun_induction pieces delimiter quote cs with
  | case1 => rfl
  | case2 => rfl
  | case3 q c _ d cs ih =>
    simp only [List.mem_cons, not_or] at h
    rw [ih h.2.2, pushed_cons, pushed_cons]
  | case4 q c cs _ ih | case5 c cs _ ih | case7 c cs _ _ ih =>
    rw [ih (mt (List.mem_cons_of_mem _) h), pushed_cons]
  | case6 => exact absurd List.mem_cons_self h

/-- How a text begins, of which `f` gives the pieces together with whatever follows it: it is one piece, which goes on
up to the next delimiter, or its first piece ends at a delimiter, and a new text begins behind that. -/
def Begins (delimiter : Char) (cs : List Char) (f : List Char → List (List Char)) : Prop :=
  (∀ ds, delimiter ∉ ds → f ds = [cs ++ ds]) ∨
    ∃ a b, cs = a ++ delimiter :: b ∧ ∀ ds, f ds = a :: pieces delimiter none (b ++ ds)

theorem Begins.push {f g : List Char → List (List Char)} (h : Begins delimiter cs f)
    (hg : ∀ ds, g ds = pushed c (f ds)) : Begins delimiter (c :: cs) g := by
  rcases h with h | ⟨a, b, rfl, h⟩
  · exact .inl fun ds hds => by rw [hg, h ds hds, pushed_cons, List.cons_append]
  · exact .inr ⟨c :: a, b, rfl, fun ds => by rw [hg, h, pushed_cons]⟩

theorem pieces_begins (delimiter : Char) (quote : Option Char) (cs : List Char) :
    Begins delimiter cs fun ds => pieces delimiter quote (cs ++ ds) := by
  fun_induction pieces delimiter quote cs with
  | case1 => exact .inl fun ds hds => pieces_of_notMem hds
  | case2 q c h =>
    -- A backslash at the end takes the next character with it, and that is no delimiter either.
    refine .inl fun ds hds => ?_
    cases ds with
    | nil => exact if_pos h
    | cons d ds =>
      have hrest : delimiter ∉ ds := mt (List.mem_cons_of_mem d) hds
      exact (pieces_escape h d).trans (by rw [pieces_of_notMem hrest]; rfl)
  | case3 q c h d cs ih =>
    have hd : Begins delimiter (d :: cs) fun ds => pushed d (pieces delimiter (some q) (cs ++ ds)) :=
      ih.push fun _ => rfl
    exact hd.push fun _ => pieces_escape h d
  | case4 q c cs h ih => exact ih.push fun _ => pieces_inside h
  | case5 c cs h ih => exact ih.push fun _ => pieces_opening h
  | case6 cs h => exact .inr ⟨[], cs, rfl, fun _ => pieces_delimiter h⟩
  | case7 c cs h hd ih => exact ih.push fun _ => pieces_plain h hd

/-- A text has no delimiter outside quotes, or its first piece ends at one, whatever follows the text. -/
theorem pieces_cases (delimiter : Char) (quote : Option Char) (cs : List Char) :
    pieces delimiter quote cs = [cs] ∨ ∃ a b, cs = a ++ delimiter :: b ∧
      ∀ ds, pieces delimiter quote (cs ++ ds) = a :: pieces delimiter none (b ++ ds) := by
  refine (pieces_begins delimiter quote cs).imp_left fun h => ?_
  simpa using h [] List.not_mem_nil

/-! ## Statements and the rest -/

theorem statements_append (ps qs : List (List Char)) : statements (ps ++ qs) = statements ps ++ statements qs := by
  simp [statements]

/-- A text that is one piece is its own rest. -/
theorem split_of_piece (h : pieces delimiter none cs = [cs]) : split delimiter cs = ([], cs) := by
  unfold split
  dsimp only
  rw [h]
  rfl

/-- The statement in the first piece stands in front of the others. -/
theorem split_of_pieces (h : pieces delimiter none cs = a :: pieces delimiter none b) :
    split delimiter cs = (statements [a] ++ (split delimiter b).1, (split delimiter b).2) := by
  obtain ⟨p, ps, hp⟩ := List.exists_cons_of_ne_nil (pieces_ne_nil delimiter none b)
  unfold split
  dsimp only
  rw [h, hp, List.dropLast_cons_cons, ← List.singleton_append, statements_append]
  rfl

/-- What follows a text is split behind its rest. -/
theorem split_append (delimiter : Char) (cs ds : List Char) :
    split delimiter (cs ++ ds) = ((split delimiter cs).1 ++ (split delimiter ((split delimiter cs).2 ++ ds)).1,
      (split delimiter ((split delimiter cs).2 ++ ds)).2) := by
  induction h : cs.length using Nat.strongRecOn generalizing cs with
  | ind n ih =>
    rcases pieces_cases delimiter none cs with hone | ⟨a, b, rfl, hcut⟩
    · rw [split_of_piece hone, List.nil_append]
    · have hb := ih b.length (by simp at h; omega) b rfl
      have hfirst := hcut []
      rw [List.append_nil, List.append_nil] at hfirst
      rw [split_of_pieces (hcut ds), split_of_pieces hfirst, hb, List.append_assoc]

/-- What has no delimiter belongs to the rest of the text in front of it. -/
theorem split_append_of_notMem (h : delimiter ∉ ds) (cs : List Char) :
    split delimiter (cs ++ ds) = ((split delimiter cs).1, (split delimiter cs).2 ++ ds) := by
  induction hn : cs.length using Nat.strongRecOn generalizing cs with
  | ind n ih =>
    rcases pieces_begins delimiter none cs with hone | ⟨a, b, rfl, hcut⟩
    · have hself := hone [] List.not_mem_nil
      simp only [List.append_nil] at hself
      rw [split_of_piece (hone ds h), split_of_piece hself]
    · have hfirst := hcut []
      simp only [List.append_nil] at hfirst
      rw [split_of_pieces (hcut ds), split_of_pieces hfirst, ih b.length (by simp at hn; omega) b rfl]

/-! ## Blanks in front -/

theorem isBlank_of_trim {cs : List Char} (h : Text.trim cs = []) : ∀ c ∈ cs, isBlank c = true := by
  obtain ⟨x, y, hx, hy, hcs⟩ := exists_trim cs
  rw [h, List.append_nil] at hcs
  rw [hcs]
  exact List.forall_mem_append.2 ⟨hx, hy⟩

theorem statements_singleton_congr (h : trimStart a = trimStart b) : statements [a] = statements [b] := by
  have htrim : Text.trim a = Text.trim b := by rw [Text.trim, h, Text.trim]
  simp [statements, htrim]

/-- A blank in front belongs to the first piece. -/
theorem split_blank (hd : isBlank delimiter = false) (hc : isBlank c = true) (cs : List Char) :
    (split delimiter (c :: cs)).1 = (split delimiter cs).1 ∧
      trimStart (split delimiter (c :: cs)).2 = trimStart (split delimiter cs).2 := by
  have hquote : ¬ (c = '\x27' ∨ c = '\x22') := by
    rintro (rfl | rfl) <;> exact absurd hc (by decide)
  have hne : c ≠ delimiter := by
    rintro rfl
    rw [hc] at hd
    cases hd
  have hstart (p : List Char) : trimStart (c :: p) = trimStart p := List.dropWhile_cons_of_pos hc
  have hpush : pieces delimiter none (c :: cs) = pushed c (pieces delimiter none cs) := pieces_plain hquote hne
  rcases pieces_cases delimiter none cs with hone | ⟨a, b, rfl, hcut⟩
  · rw [hone, pushed_cons] at hpush
    rw [split_of_piece hpush, split_of_piece hone]
    exact ⟨rfl, hstart cs⟩
  · have hfirst := hcut []
    rw [List.append_nil, List.append_nil] at hfirst
    rw [hfirst, pushed_cons] at hpush
    rw [split_of_pieces hpush, split_of_pieces hfirst, statements_singleton_congr (hstart a)]
    exact ⟨rfl, rfl⟩

theorem split_trimStart (hd : isBlank delimiter = false) (cs : List Char) :
    (split delimiter cs).1 = (split delimiter (trimStart cs)).1 ∧
      trimStart (split delimiter cs).2 = trimStart (split delimiter (trimStart cs)).2 := by
  induction cs with
  | nil => exact ⟨rfl, rfl⟩
  | cons c cs ih =>
    cases hc : isBlank c with
    | false => rw [trimStart_of_not_blank hc]; exact ⟨rfl, rfl⟩
    | true =>
      have hstart : trimStart (c :: cs) = trimStart cs := List.dropWhile_cons_of_pos hc
      obtain ⟨h1, h2⟩ := split_blank hd hc cs
      rw [hstart, h1, h2]
      exact ih

/-- Texts that differ in the blanks in front have the same statements, and rests that differ in the blanks in front. -/
theorem split_congr (hd : isBlank delimiter = false) (h : trimStart a = trimStart b) :
    (split delimiter a).1 = (split delimiter b).1 ∧
      trimStart (split delimiter a).2 = trimStart (split delimiter b).2 := by
  obtain ⟨ha, ha'⟩ := split_trimStart hd a
  obtain ⟨hb, hb'⟩ := split_trimStart hd b
  rw [ha, hb, ha', hb', h]
  exact ⟨rfl, rfl⟩

/-! ## Lines -/

variable {p : Pending} {line typed : List Char} {lines : List (List Char)} {outcomes : List LineOutcome}

/-- The statements that a line completes. -/
def LineOutcome.statements : LineOutcome → List String
  | .complete ss => ss
  | _ => []

/-- Whether a line goes on with statements, or completes some. -/
def LineOutcome.GoesOn : LineOutcome → Prop
  | .incomplete => True
  | .complete ss => ss ≠ []
  | _ => False

/-- Takes in lines, one after the other. -/
def Pending.feedAll (delimiter : Char) (p : Pending) : List (List Char) → List LineOutcome × Pending
  | [] => ([], p)
  | line :: lines =>
    let (outcome, p) := p.feed delimiter line
    let (outcomes, p) := p.feedAll delimiter lines
    (outcome :: outcomes, p)

/-- Whether a line is taken for a part of statements wherever it is typed. -/
def IsScript (line : List Char) : Prop := trim line ≠ Pending.cancelLine ∧ (trim line).head? ≠ some '\\'

instance (line : List Char) : Decidable (IsScript line) := inferInstanceAs (Decidable (_ ∧ _))

/-- Lines with a line feed behind each. -/
def ended (lines : List (List Char)) : List Char := lines.flatMap (· ++ ['\n'])

theorem join_ended (h : lines ≠ []) : join ['\n'] lines ++ ['\n'] = ended lines := by
  induction lines with
  | nil => exact absurd rfl h
  | cons l ls ih =>
    cases ls with
    | nil => simp [join, ended]
    | cons m ls => rw [join, List.append_assoc, ih (by simp)]; rfl

/-! ## What has been typed -/

/-- Lines gave the outcomes and left the statement that is being typed, where `typed` is their text. Nothing but the
blanks in front of that statement differ from the rest of the text. -/
structure Typed (delimiter : Char) (typed : List Char) (outcomes : List LineOutcome) (p : Pending) : Prop where
  statements : outcomes.flatMap LineOutcome.statements = (split delimiter typed).1
  text : trimStart p.text = trimStart (split delimiter typed).2
  goesOn : ∀ o ∈ outcomes, o.GoesOn

theorem Typed.nothing (delimiter : Char) : Typed delimiter [] [] {} := ⟨rfl, rfl, fun _ h => absurd h List.not_mem_nil⟩

theorem trimStart_append {a b : List Char} (h : trimStart a = trimStart b) (cs : List Char) :
    trimStart (a ++ cs) = trimStart (b ++ cs) := by
  have h' : a.dropWhile isBlank = b.dropWhile isBlank := h
  rw [trimStart, trimStart, List.dropWhile_append, List.dropWhile_append, h']

theorem trimStart_eq_nil {cs : List Char} (h : trim cs = []) : trimStart cs = [] :=
  List.dropWhile_eq_nil_iff.2 (isBlank_of_trim h)

/-- A line that is fed to a statement is split behind its text; where that is blank, nothing becomes of it. -/
theorem feed_typed (hd : isBlank delimiter = false) (hl : IsScript line) (p : Pending) :
    (p.feed delimiter line).1.statements = (split delimiter (p.text ++ (line ++ ['\n']))).1 ∧
      trimStart (p.feed delimiter line).2.text = trimStart (split delimiter (p.text ++ (line ++ ['\n']))).2 ∧
      (p.feed delimiter line).1.GoesOn := by
  unfold Pending.feed
  simp only [if_neg hl.1]
  split
  · next hblank =>
    -- The text stays as it is: what has been typed and the line are blank.
    have htext : trimStart p.text = [] := trimStart_eq_nil (List.isEmpty_iff.1 hblank.1)
    have hline : trimStart line = [] := trimStart_eq_nil (List.isEmpty_iff.1 hblank.2)
    have hall : trimStart (p.text ++ (line ++ ['\n'])) = trimStart [] := by
      rw [trimStart_append (b := []) htext, List.nil_append, trimStart_append (b := []) hline]
      decide
    obtain ⟨h1, h2⟩ := split_congr hd hall
    rw [h1, h2, htext]
    exact ⟨rfl, rfl, trivial⟩
  · rw [if_neg fun h => hl.2 h.2, ← List.append_assoc]
    rcases hs : split delimiter (p.text ++ line ++ ['\n']) with ⟨found, rest⟩
    cases found with
    | nil => exact ⟨rfl, rfl, trivial⟩
    | cons s ss => exact ⟨rfl, rfl, List.cons_ne_nil s ss⟩

theorem Typed.feed (hd : isBlank delimiter = false) (hl : IsScript line) (h : Typed delimiter typed outcomes p) :
    Typed delimiter (typed ++ (line ++ ['\n'])) (outcomes ++ [(p.feed delimiter line).1])
      (p.feed delimiter line).2 := by
  obtain ⟨hstatements, htext, hgoes⟩ := feed_typed hd hl p
  obtain ⟨h1, h2⟩ := split_congr hd (trimStart_append h.text (line ++ ['\n']))
  refine ⟨?_, ?_, ?_⟩
  · rw [List.flatMap_append, h.statements, List.flatMap_singleton, hstatements, h1, split_append delimiter typed]
  · rw [htext, h2, split_append delimiter typed]
  · exact List.forall_mem_append.2 ⟨h.goesOn, List.forall_mem_singleton.2 hgoes⟩

theorem feedAll_typed (hd : isBlank delimiter = false) (hls : ∀ l ∈ lines, IsScript l)
    (h : Typed delimiter typed outcomes p) :
    Typed delimiter (typed ++ ended lines) (outcomes ++ (p.feedAll delimiter lines).1)
      (p.feedAll delimiter lines).2 := by
  induction lines generalizing typed outcomes p with
  | nil => simpa [Pending.feedAll, ended] using h
  | cons l ls ih =>
    obtain ⟨hl, hls⟩ := List.forall_mem_cons.1 hls
    have hrest := ih hls (h.feed hd hl)
    rw [List.append_assoc, List.append_assoc outcomes] at hrest
    exact hrest

/-! ## The whole text -/

/-- Lines are the statements of their text, also where the last line feed is missing. -/
theorem Typed.of_ended (hd : isBlank delimiter = false) (h : Typed delimiter (ended lines) outcomes p) :
    outcomes.flatMap LineOutcome.statements = (split delimiter (join ['\n'] lines)).1 ∧
      trim p.text = trim (split delimiter (join ['\n'] lines)).2 := by
  have htrim : trim p.text = trim (split delimiter (ended lines)).2 := by rw [trim, h.text, trim]
  rw [h.statements, htrim]
  by_cases hne : lines = []
  · subst hne
    exact ⟨rfl, rfl⟩
  · have hfeed : delimiter ∉ ['\n'] := by
      rw [List.mem_singleton]
      rintro rfl
      exact absurd hd (by decide)
    have hblank : ∀ c ∈ ['\n'], isBlank c = true := List.all_eq_true.1 (by decide)
    rw [← join_ended hne, split_append_of_notMem hfeed]
    exact ⟨rfl, trim_append_blanks _ hblank⟩

/-- Statements may be typed line by line. No line is discarded or taken for a command, the lines complete the statements
of the whole text in their order, and what is left is the statement at its end, if there is one. -/
theorem feedAll_split (delimiter : Char) (lines : List (List Char)) (hd : isBlank delimiter = false)
    (hls : ∀ l ∈ lines, IsScript l) :
    let typed := Pending.feedAll delimiter {} lines
    let whole := split delimiter (join ['\n'] lines)
    typed.1.flatMap LineOutcome.statements = whole.1 ∧
      typed.2.finish? = (if trim whole.2 = [] then none else some (String.ofList (trim whole.2))) ∧
      ∀ o ∈ typed.1, o.GoesOn := by
  have h := feedAll_typed hd hls (.nothing delimiter)
  obtain ⟨hstatements, htext⟩ := Typed.of_ended hd h
  refine ⟨hstatements, ?_, h.goesOn⟩
  simp only [Pending.finish?, htext, List.isEmpty_iff]

/-- Blank lines, quotes and an escape that span lines, an empty statement, and a statement without an end. -/
theorem feedAll_split_spanning :
    let lines := ["", "SELECT 'a;", "'; X \"b\\", ";\\\"\"; ; Y", "  ", "z "].map String.toList
    let typed := Pending.feedAll ';' {} lines
    typed.1 = [.incomplete, .incomplete, .complete ["SELECT 'a;\n'"], .complete ["X \"b\\\n;\\\"\""], .incomplete,
        .incomplete] ∧
      (split ';' (join ['\n'] lines)).1 = ["SELECT 'a;\n'", "X \"b\\\n;\\\"\""] ∧
      typed.2.finish? = some "Y\n  \nz" := by
  intro lines typed
  have houtcomes : typed.1 = [.incomplete, .incomplete, .complete ["SELECT 'a;\n'"],
      .complete ["X \"b\\\n;\\\"\""], .incomplete, .incomplete] := by decide +kernel
  obtain ⟨hstatements, hfinish, -⟩ := feedAll_split ';' lines (by decide) (by decide +kernel)
  refine ⟨houtcomes, ?_, hfinish.trans (by decide +kernel)⟩
  rw [← hstatements]
  exact congrArg (List.flatMap LineOutcome.statements) houtcomes

end SlotSql.Script
