import SlotSql.Proofs.Console.Lines
import SlotSql.Proofs.Statement.Settled
import SlotSql.Proofs.Text.Quoting
/-!
# Where statements end

The reader of statements knows single quotes only, and takes a double quote for a character like any other: a literal
without quotes may hold one. To a script it opens a quote. So a statement that is read on its own is found in a script
again just if a delimiter behind it stands outside the quotes of both kinds. That is so of every statement without a
double quote outside its literals.

Results:
* `pieces_cons_iff`: the first piece is a text just if the delimiter behind it is the first one outside quotes.
* `ends_of_unquoted`: both scanners agree on texts whose double quotes are quoted.
* `found_iff`: when a statement is found again in front of a delimiter.
* `split_read`: statements that are read are found in a script, unless a double quote stands outside their literals.
-/
namespace SlotSql.Script

open Text QuotePlace

variable {delimiter : Char} {quote : Option Char} {p p' : QuotePlace} {c d : Char} {q : Bool} {a b cs ds : List Char}
  {ps qs : List (List Char)} {s : Settings} {t : String}

/-! ## The first piece -/

/-- In a script a backslash has a meaning between double quotes only. -/
def escapes (quote : Char) : Bool := quote == '\x22'

/-- A delimiter behind a text would be the first one outside quotes. -/
def Ends (delimiter : Char) (p : QuotePlace) (cs : List Char) : Prop :=
  Avoids escapes delimiter p cs ∧ p.after escapes cs = outside

theorem ends_cons (hp : p.step escapes c = p') (hc : p = outside → c ≠ delimiter) :
    Ends delimiter p (c :: cs) ↔ Ends delimiter p' cs := by
  subst hp
  exact and_congr_left fun _ => and_iff_right hc

theorem pushed_eq_cons_iff (h : ps ≠ []) : pushed c ps = (c :: a) :: qs ↔ ps = a :: qs := by
  obtain ⟨p, ps, rfl⟩ := List.exists_cons_of_ne_nil h
  simp

theorem pushed_ne_cons (h : ps ≠ []) : pushed c ps ≠ [] :: qs := by
  obtain ⟨p, ps, rfl⟩ := List.exists_cons_of_ne_nil h
  simp

theorem step_quoted (h : ¬ (d = '\x22' ∧ c = '\\')) :
    (inside d).step escapes c = ofQuote (if c = d then none else some d) := by
  split
  · next he => rw [he, step_closing, ofQuote]
  · next he => exact step_inside he fun hc => h ⟨by simpa [escapes] using hc.2, hc.1⟩

theorem step_backslash (h : d = '\x22' ∧ c = '\\') : (inside d).step escapes c = escaping d := by
  obtain ⟨rfl, rfl⟩ := h
  rfl

theorem pieces_quoted (delimiter q c : Char) (cs : List Char) :
    ∃ ps, ps ≠ [] ∧ pieces delimiter (some q) (c :: cs) = pushed c ps := by
  by_cases h : q = '\x22' ∧ c = '\\'
  · cases cs with
    | nil => exact ⟨[[]], by simp, if_pos h⟩
    | cons d cs => exact ⟨_, pushed_ne_nil, pieces_escape h d⟩
  · exact ⟨_, pieces_ne_nil _ _ _, pieces_inside h⟩

/-- The first piece of a text ends at a delimiter just if that is the first one outside quotes. -/
theorem pieces_cons_iff (hd : ¬ (delimiter = '\x27' ∨ delimiter = '\x22')) (quote : Option Char) (cs ds : List Char) :
    pieces delimiter quote (cs ++ delimiter :: ds) = cs :: pieces delimiter none ds ↔
      Ends delimiter (ofQuote quote) cs := by
  fun_induction pieces delimiter quote cs with
  | case1 quote =>
    cases quote with
    | none => exact iff_of_true (pieces_delimiter hd) ⟨trivial, rfl⟩
    | some q =>
      obtain ⟨ps, hps, hpush⟩ := pieces_quoted delimiter q delimiter ds
      rw [List.nil_append, hpush]
      exact iff_of_false (pushed_ne_cons hps) fun hends => absurd hends.2 inside_ne_outside
  | case2 q c h =>
    rw [List.cons_append, List.nil_append, pieces_escape h, pushed_eq_cons_iff pushed_ne_nil]
    refine iff_of_false (pushed_ne_cons (pieces_ne_nil _ _ _)) fun hends => ?_
    have hout := hends.2
    rw [ofQuote, after_cons, step_backslash h] at hout
    exact absurd hout escaping_ne_outside
  | case3 q c h d cs ih =>
    have hend : Ends delimiter (inside q) (c :: d :: cs) ↔ Ends delimiter (inside q) cs :=
      (ends_cons (step_backslash h) fun hout => absurd hout inside_ne_outside).trans
        (ends_cons step_escaping fun hout => absurd hout escaping_ne_outside)
    rw [ofQuote, hend, List.cons_append, List.cons_append, pieces_escape h, pushed_eq_cons_iff pushed_ne_nil,
      pushed_eq_cons_iff (pieces_ne_nil _ _ _)]
    exact ih
  | case4 q c cs h ih =>
    rw [ofQuote, ends_cons (step_quoted h) fun hout => absurd hout inside_ne_outside, List.cons_append,
      pieces_inside h, pushed_eq_cons_iff (pieces_ne_nil _ _ _)]
    exact ih
  | case5 c cs h ih =>
    have hne : c ≠ delimiter := fun hc => hd (hc ▸ h)
    rw [ofQuote, ends_cons (step_opening h) fun _ => hne, List.cons_append, pieces_opening h,
      pushed_eq_cons_iff (pieces_ne_nil _ _ _)]
    exact ih
  | case6 cs h =>
    rw [List.cons_append, pieces_delimiter hd]
    exact iff_of_false (by simp) fun hends => hends.1.1 rfl rfl
  | case7 c cs h hne ih =>
    rw [ofQuote, ends_cons (step_plain h) fun _ => hne, List.cons_append, pieces_plain h hne,
      pushed_eq_cons_iff (pieces_ne_nil _ _ _)]
    exact ih

/-! ## The scanner of statements -/

theorem cutUnquoted?_cons_none (h : Excerpt.cutUnquoted? [d] q (c :: cs) = none) :
    Excerpt.cutUnquoted? [d] (if c = Excerpt.quote then !q else q) cs = none ∧
      (q = false → c ≠ Excerpt.quote → c ≠ d) := by
  rw [Excerpt.cutUnquoted?] at h
  by_cases hc : c = Excerpt.quote
  · rw [if_pos hc] at h ⊢
    exact ⟨Option.map_eq_none_iff.1 h, fun _ hne => absurd hc hne⟩
  · rw [if_neg hc] at h ⊢
    cases q with
    | true => exact ⟨Option.map_eq_none_iff.1 h, fun hq => absurd hq (by decide)⟩
    | false =>
      by_cases hd : c = d
      · subst hd
        simp [stripStart?] at h
      · simp only [stripStart?, if_neg (Ne.symm hd)] at h
        exact ⟨Option.map_eq_none_iff.1 h, fun _ _ => hd⟩

/-- The place where a single quote is open, or none. -/
def placeOf (q : Bool) : QuotePlace := if q then inside Excerpt.quote else outside

theorem step_placeOf (h : q = false → c ≠ Excerpt.quote → c ≠ '\x22') :
    (placeOf q).step escapes c = placeOf (if c = Excerpt.quote then !q else q) := by
  by_cases hc : c = Excerpt.quote
  · subst hc
    cases q <;> rfl
  · rw [if_neg hc]
    cases q with
    | false => exact step_plain (not_or.2 ⟨hc, h rfl hc⟩)
    | true => exact step_inside hc fun he => absurd he.2 (by decide)

/-- Where no double quote stands outside single quotes, the scanners of scripts and of statements go together. -/
theorem ends_of_unquoted (hq : Excerpt.cutUnquoted? ['\x22'] q cs = none) (hd : Excerpt.cutUnquoted? [';'] q cs = none)
    (hclosed : Excerpt.behind q cs = false) : Ends ';' (placeOf q) cs := by
  induction cs generalizing q with
  | nil =>
    have hq : q = false := hclosed
    subst hq
    exact ⟨trivial, rfl⟩
  | cons c cs ih =>
    obtain ⟨hq, hc⟩ := cutUnquoted?_cons_none hq
    obtain ⟨hd, hne⟩ := cutUnquoted?_cons_none hd
    refine (ends_cons (step_placeOf hc) fun hout => ?_).2 (ih hq hd hclosed)
    have hfalse : q = false := by
      cases q with
      | false => rfl
      | true => cases hout
    by_cases hquote : c = Excerpt.quote
    · rw [hquote]
      decide
    · exact hne hfalse hquote

/-! ## Statements -/

/-- A statement is found in front of a delimiter: the delimiter is the first one outside the quotes of a script. -/
def Found (t : String) : Prop := Ends ';' outside t.toList

theorem Found.split (h : Found t) (hne : trim t.toList ≠ []) (rest : List Char) :
    split ';' (t.toList ++ ';' :: rest) = (trimmed t :: (split ';' rest).1, (split ';' rest).2) := by
  have hd : ¬ (';' = '\x27' ∨ ';' = '\x22') := by decide
  have hpieces := (pieces_cons_iff hd none t.toList rest).2 h
  rw [split_of_pieces hpieces]
  simp [statements, hne, trimmed]

theorem statements_singleton (a : List Char) :
    trim a = [] ∧ statements [a] = [] ∨ trim a ≠ [] ∧ statements [a] = [String.ofList (trim a)] := by
  by_cases h : trim a = []
  · exact .inl ⟨h, by simp [statements, h]⟩
  · exact .inr ⟨h, by simp [statements, h]⟩

/-- A statement without a delimiter outside its literals is found just if it is. -/
theorem found_iff (hd : Excerpt.cutUnquoted? [';'] false t.toList = none) (hne : trim t.toList ≠ []) :
    split ';' (t.toList ++ [';']) = ([trimmed t], []) ↔ Found t := by
  constructor
  · intro h
    rcases pieces_cases ';' none (t.toList ++ [';']) with hone | ⟨a, b, hab, hcut⟩
    · rw [split_of_piece hone] at h
      simp at h
    · have hfirst := hcut []
      rw [List.append_nil, List.append_nil] at hfirst
      rw [split_of_pieces hfirst] at h
      rcases List.eq_nil_or_concat b with rfl | ⟨b, d, rfl⟩
      · obtain rfl : t.toList = a := by simpa using hab
        exact (pieces_cons_iff (by decide) none t.toList []).1 hfirst
      · -- The delimiter that was found in the statement would stand outside its literals, or leave too little of it.
        have hwhole : t.toList ++ [';'] = (a ++ ';' :: b) ++ [d] := by rw [hab, List.concat_eq_append]; simp
        obtain ⟨ht, -⟩ := List.append_inj' hwhole rfl
        rcases statements_singleton a with ⟨hblank, -⟩ | ⟨-, hstatement⟩
        · have hquote : ∀ c ∈ a, c ≠ Excerpt.quote := fun c hc he =>
            not_quote_of_isBlank (isBlank_of_trim hblank c hc) (.inl he)
          rw [ht] at hd
          have hnone := Excerpt.cutUnquoted?_none_suffix hquote hd
          exact absurd rfl ((cutUnquoted?_cons_none hnone).2 rfl (by decide))
        · have hsame : trim a = trim t.toList := by
            have hfst := congrArg Prod.fst h
            rw [hstatement] at hfst
            exact String.ofList_injective (List.cons.inj hfst).1
          have hweight : weight a = weight t.toList := by rw [← weight_trim, hsame, weight_trim]
          rw [ht] at hweight
          simp [weight] at hweight
          exact absurd hweight.1 (by decide)
  · intro h
    exact h.split hne []

theorem found_of_unquoted (hsettled : Excerpt.Settled t.toList)
    (hq : Excerpt.cutUnquoted? ['\x22'] false t.toList = none)
    (hd : Excerpt.cutUnquoted? [';'] false t.toList = none) : Found t :=
  ends_of_unquoted hq hd hsettled

/-- A statement that is read is not blank. -/
theorem trim_ne_nil_of_parse {st : Statement} (h : Parser.parse s t = .ok st) : trim t.toList ≠ [] := by
  intro hblank
  have hchars : (Excerpt.ofText t).trim.chars = [] := hblank
  have hempty : (Parser.body t).isEmpty = true := by
    unfold Parser.body
    dsimp only
    rw [hchars]
    exact List.isEmpty_iff.2 hchars
  unfold Parser.parse at h
  dsimp only at h
  rw [if_pos hempty] at h
  cases h

theorem split_script {texts : List String} (h : ∀ t ∈ texts, Found t ∧ trim t.toList ≠ []) :
    split ';' (texts.flatMap fun t => t.toList ++ [';']) = (texts.map trimmed, []) := by
  induction texts with
  | nil => rfl
  | cons t ts ih =>
    obtain ⟨⟨hfound, hne⟩, hts⟩ := List.forall_mem_cons.1 h
    rw [List.flatMap_cons, List.append_assoc, List.singleton_append, hfound.split hne, ih hts]
    rfl

/-- Statements that are read and hold no delimiter outside their literals. Each of them is found again in front of a
delimiter just if that is the first one outside quotes for a script as well, and it is if no double quote stands outside
the literals. A script of statements that are found is split into them. -/
theorem split_read (s : Settings) (texts : List String) (hread : ∀ t ∈ texts, (∃ st, Parser.parse s t = .ok st) ∧
      (Excerpt.ofText t).findUnquoted? ";" = none) :
    (∀ t ∈ texts, (split ';' (t.toList ++ [';']) = ([trimmed t], []) ↔ Found t) ∧
        ((Excerpt.ofText t).findUnquoted? "\"" = none → Found t)) ∧
      ((∀ t ∈ texts, Found t) → split ';' (texts.flatMap fun t => t.toList ++ [';']) = (texts.map trimmed, [])) := by
  have hnone {t d : String} (h : (Excerpt.ofText t).findUnquoted? d = none) :
      Excerpt.cutUnquoted? d.toList false t.toList = none := Option.map_eq_none_iff.1 h
  refine ⟨fun t ht => ?_, fun hfound => ?_⟩
  · obtain ⟨⟨st, hst⟩, hd⟩ := hread t ht
    exact ⟨found_iff (hnone hd) (trim_ne_nil_of_parse hst),
      fun hq => found_of_unquoted (Parser.parse_settled hst) (hnone hq) (hnone hd)⟩
  · refine split_script fun t ht => ?_
    obtain ⟨⟨st, hst⟩, -⟩ := hread t ht
    exact ⟨hfound t ht, trim_ne_nil_of_parse hst⟩

/-- Quotes of both kinds and a delimiter in a literal do no harm; a double quote in a literal without quotes hides the
delimiter behind the statement. -/
theorem split_read_quotes :
    let texts := ["SELECT * FROM t.x WHERE a = ';\"''' AND b = 1", "\nDROP TABLE t.x "]
    let hidden := "UPSERT INTO t.x (id, size) VALUES (1, 5\")"
    split ';' (texts.flatMap fun t => t.toList ++ [';']) = (texts.map trimmed, []) ∧
      (∃ st, Parser.parse {} hidden = .ok st) ∧ ¬ Found hidden := by
  intro texts hidden
  have hselect : Parser.parse {} "SELECT * FROM t.x WHERE a = ';\"''' AND b = 1" = .ok (.select ⟨[.all], ⟨"t", "x"⟩,
      ⟨[⟨"a", .eq, ⟨";\"'", true⟩⟩, ⟨"b", .eq, ⟨"1", false⟩⟩], none, none⟩⟩) := by decide +kernel
  have hdrop : Parser.parse {} "\nDROP TABLE t.x " = .ok (.drop ⟨"t", "x"⟩) := by decide +kernel
  have hupsert : Parser.parse {} hidden = .ok (.upsert ⟨⟨"t", "x"⟩, ["id", "size"],
      .values [.literal ⟨"1", false⟩, .literal ⟨"5\"", false⟩], .overwrite⟩) := by decide +kernel
  have hdelimiter : ∀ t ∈ texts, (Excerpt.ofText t).findUnquoted? ";" = none := by decide +kernel
  have hquote : ∀ t ∈ texts, (Excerpt.ofText t).findUnquoted? "\"" = none := by decide +kernel
  have hread : ∀ t ∈ texts, ∃ st, Parser.parse {} t = .ok st :=
    List.forall_mem_cons.2 ⟨⟨_, hselect⟩, List.forall_mem_singleton.2 ⟨_, hdrop⟩⟩
  obtain ⟨hall, hscript⟩ := split_read {} texts fun t ht => ⟨hread t ht, hdelimiter t ht⟩
  obtain ⟨hone, -⟩ := split_read {} [hidden] (List.forall_mem_singleton.2 ⟨⟨_, hupsert⟩, by decide +kernel⟩)
  refine ⟨hscript fun t ht => (hall t ht).2 (hquote t ht), ⟨_, hupsert⟩, fun hfound => ?_⟩
  exact absurd ((hone hidden (List.mem_singleton.2 rfl)).1.2 hfound) (by decide +kernel)

end SlotSql.Script
