import SlotSql.Proofs.Text.Quoting
import SlotSql.Statement.RawCommand
/-!
# Commands that are read back

Between double quotes every text can be written: a backslash in front of a quote or of a backslash takes its meaning
away. A command is refused for its quotes just where the last one that it opens is not closed.

Results:
* `argument?_reads`: an argument ends outside quotes; without an end, a quote is open at the end of the text.
* `arguments_error_iff`: the arguments of a text are read just if no quote is open at its end.
* `arguments_writtenAll`: written arguments are read back.
* `parse_quoting`: every list of arguments can be written, and what is refused for its quotes.
-/
namespace SlotSql.RawCommand

open Text QuotePlace

variable {quote : Option Char} {p p' : QuotePlace} {c q : Char} {a r cs : List Char}
  {o : Option (List Char × List Char)}

theorem except_map_eq_error {ε α β : Type} {x : Except ε α} {f : α → β} {e : ε} :
    x.map f = .error e ↔ x = .error e := by
  cases x <;> simp [Except.map]

/-- Between quotes of both kinds a backslash goes together with the character behind it. -/
def escapes : Char → Bool := fun _ => true

/-! ## Where arguments end -/

/-- What has been read of a text from a place on: an argument that ends outside quotes with what follows it, or
nothing, and then a quote is open at the end of the text. -/
def Reads (p : QuotePlace) (cs : List Char) : Option (List Char × List Char) → Prop
  | none => p.after escapes cs ≠ outside
  | some (_, r) => ∃ m, cs = m ++ r ∧ p.after escapes m = outside

theorem Reads.push (hp : p.step escapes c = p') (h : Reads p' cs o) (f : List Char → List Char) :
    Reads p (c :: cs) (o.map fun (a, r) => (f a, r)) := by
  subst hp
  cases o with
  | none => exact h
  | some ar =>
    obtain ⟨m, rfl, hm⟩ := h
    exact ⟨c :: m, rfl, hm⟩

theorem Reads.skip (hp : p.step escapes c = p') (h : Reads p' cs o) : Reads p (c :: cs) o := by
  simpa using h.push hp id

theorem argument?_reads (quote : Option Char) (cs : List Char) : Reads (ofQuote quote) cs (argument? quote cs) := by
  fun_induction argument? quote cs with
  | case1 quote h =>
    rw [Option.isNone_iff_eq_none.1 h]
    exact ⟨[], rfl, rfl⟩
  | case2 quote h =>
    obtain ⟨q, rfl⟩ := Option.ne_none_iff_exists'.1 (mt Option.isNone_iff_eq_none.2 h)
    exact QuotePlace.noConfusion
  | case3 c cs => exact ⟨[], rfl, rfl⟩
  | case4 c cs _ h ih => exact ih.skip (step_opening h.symm)
  | case5 c cs _ h ih => exact ih.push (step_plain (mt Or.symm h)) _
  | case6 cs q ih => exact ih.skip step_closing
  | case7 q h =>
    -- Nothing stands behind the backslash, so the quote stays open.
    show (inside q).after escapes ['\\'] ≠ outside
    rw [after_cons, step_escape h ⟨rfl, rfl⟩]
    exact QuotePlace.noConfusion
  | case8 q e cs h ih =>
    have hread := ih.push (step_escaping (c := e)) (escaped q e ++ ·)
    exact hread.skip (step_escape h ⟨rfl, rfl⟩)
  | case9 c cs q h hc ih => exact ih.push (step_inside h fun h => hc h.1) _

/-- The arguments of a text are read just if no quote is open at its end. -/
theorem arguments_error_iff (start : Nat) (cs : List Char) :
    (∃ n, arguments start cs = .error n) ↔ outside.after escapes cs ≠ outside := by
  fun_induction arguments start cs with
  | case1 start => simp [after]
  | case2 start c cs hc ih => rw [ih, after_cons, step_plain (not_quote_of_isBlank hc)]
  | case3 start c cs hc h =>
    have hread := argument?_reads none (c :: cs)
    rw [h] at hread
    exact ⟨fun _ => hread, fun _ => ⟨start, rfl⟩⟩
  | case4 start c cs hc a r h ih =>
    have hread := argument?_reads none (c :: cs)
    rw [h] at hread
    obtain ⟨m, hm, hout⟩ := hread
    rw [hm, after_append, show outside.after escapes m = outside from hout, ← ih, ← hm]
    simp only [except_map_eq_error]

/-! ## Written arguments -/

/-- A character between double quotes. -/
def guarded (c : Char) : List Char := if c = '\\' ∨ c = '\x22' then ['\\', c] else [c]

/-- An argument between double quotes. -/
def written (a : String) : List Char := '\x22' :: (a.toList.flatMap guarded ++ ['\x22'])

/-- An argument, and others with a gap in front of each. -/
def writtenAll (a : String) (rest : List (List Char × String)) : List Char :=
  written a ++ rest.flatMap fun (gap, b) => gap ++ written b

theorem argument?_closing : argument? (some q) (q :: cs) = argument? none cs := by
  cases cs <;> simp [argument?]

theorem argument?_escape (hq : '\\' ≠ q) : argument? (some q) ('\\' :: c :: cs) =
    (argument? (some q) cs).map fun (a, r) => (escaped q c ++ a, r) := by
  rw [argument?]
  simp only [if_neg hq, if_pos]

theorem argument?_inside (hq : c ≠ q) (hc : c ≠ '\\') : argument? (some q) (c :: cs) =
    (argument? (some q) cs).map fun (a, r) => (c :: a, r) := by
  conv_lhs => rw [argument?.eq_def]
  simp only [if_neg hq, if_neg hc]

/-- What is written between double quotes is read back, and what stands behind them belongs to the same argument. -/
theorem argument?_guarded (cs r : List Char) : argument? (some '\x22') (cs.flatMap guarded ++ '\x22' :: r) =
    (argument? none r).map fun (a, r) => (cs ++ a, r) := by
  induction cs with
  | nil => simpa using argument?_closing
  | cons c cs ih =>
    rw [List.flatMap_cons, List.append_assoc]
    by_cases hc : c = '\\' ∨ c = '\x22'
    · have hescaped : escaped '\x22' c = [c] := by rcases hc with rfl | rfl <;> rfl
      rw [guarded, if_pos hc, List.cons_append, List.singleton_append, argument?_escape (by decide), ih, hescaped,
        Option.map_map]
      rfl
    · rw [guarded, if_neg hc, List.singleton_append, argument?_inside (fun h => hc (.inr h)) (fun h => hc (.inl h)), ih,
        Option.map_map]
      rfl

/-- A written argument is read back up to a blank, whatever stands behind that. -/
theorem argument?_written (a : String) (hr : ∀ c ∈ r.head?, isBlank c = true) :
    argument? none (written a ++ r) = some (a.toList, r) := by
  have hend : argument? none r = some ([], r) := by
    cases r with
    | nil => rfl
    | cons c r => rw [argument?]; exact if_pos (hr c rfl)
  have hopen : argument? none ('\x22' :: (a.toList.flatMap guarded ++ '\x22' :: r)) =
      argument? (some '\x22') (a.toList.flatMap guarded ++ '\x22' :: r) := by
    rw [argument?]
    rfl
  rw [written, List.cons_append, List.append_assoc, List.singleton_append, hopen, argument?_guarded, hend]
  simp

theorem arguments_written (start : Nat) (a : String) (hr : ∀ c ∈ r.head?, isBlank c = true) :
    ∃ n, arguments start (written a ++ r) = (arguments n r).map (a :: ·) := by
  have hread := argument?_written a hr
  have hcons : written a ++ r = '\x22' :: (a.toList.flatMap guarded ++ ['\x22'] ++ r) := rfl
  rw [hcons] at hread ⊢
  rw [arguments, dif_neg (by decide)]
  split
  · next h => rw [hread] at h; cases h
  · next h =>
    rw [hread] at h
    cases h
    exact ⟨_, by rw [String.ofList_toList]⟩

theorem arguments_gap {gap : List Char} (hgap : ∀ c ∈ gap, isBlank c = true) (start : Nat) (cs : List Char) :
    arguments start (gap ++ cs) = arguments (start + gap.length) cs := by
  induction gap generalizing start with
  | nil => rfl
  | cons c gap ih =>
    obtain ⟨hc, hgap⟩ := List.forall_mem_cons.1 hgap
    rw [List.cons_append, arguments, dif_pos hc, ih hgap, List.length_cons, Nat.add_right_comm, Nat.add_assoc]

theorem arguments_writtenAll {rest : List (List Char × String)}
    (hgaps : ∀ p ∈ rest, p.1 ≠ [] ∧ ∀ c ∈ p.1, isBlank c = true) (start : Nat) (a : String) :
    arguments start (writtenAll a rest) = .ok (a :: rest.map Prod.snd) := by
  induction rest generalizing start a with
  | nil =>
    obtain ⟨n, hn⟩ := arguments_written (r := []) start a (fun c hc => by cases hc)
    rw [writtenAll, List.flatMap_nil, hn, arguments]
    rfl
  | cons p rest ih =>
    obtain ⟨⟨hne, hblank⟩, hgaps⟩ := List.forall_mem_cons.1 hgaps
    obtain ⟨c, gap, hp⟩ := List.exists_cons_of_ne_nil hne
    have hhead : ∀ d ∈ (p.1 ++ writtenAll p.2 rest).head?, isBlank d = true := by
      rw [hp]
      rintro d ⟨⟩
      exact hblank c (by rw [hp]; exact List.mem_cons_self)
    obtain ⟨n, hn⟩ := arguments_written start a hhead
    have hcons : writtenAll a (p :: rest) = written a ++ (p.1 ++ writtenAll p.2 rest) := by
      simp [writtenAll]
    rw [hcons, hn, arguments_gap hblank, ih hgaps]
    rfl

theorem solid_written (a : String) : Solid (written a) := .enclosed (by decide) (by decide)

theorem solid_writtenAll (a : String) (rest : List (List Char × String)) : Solid (writtenAll a rest) := by
  induction rest generalizing a with
  | nil => simpa [writtenAll] using solid_written a
  | cons p rest ih =>
    have hcons : writtenAll a (p :: rest) = written a ++ p.1 ++ writtenAll p.2 rest := by simp [writtenAll]
    rw [hcons]
    exact (solid_written a).around p.1 (ih p.2)

/-! ## Commands -/

theorem parse_writtenAll {rest : List (List Char × String)}
    (hgaps : ∀ p ∈ rest, p.1 ≠ [] ∧ ∀ c ∈ p.1, isBlank c = true) (a : String) :
    parse (String.ofList (writtenAll a rest)) = .ok (a :: rest.map Prod.snd) := by
  have hchars : (Excerpt.ofText (String.ofList (writtenAll a rest))).trim.chars = writtenAll a rest := by
    rw [Excerpt.chars_trim, Excerpt.ofText, String.toList_ofList, (solid_writtenAll a rest).trim]
  rw [parse, hchars, arguments_writtenAll hgaps]

theorem parse_unbalanced_iff (input : String) : (∃ e, parse input = .error e ∧ e.message = "unbalanced quotes") ↔
    outside.after escapes input.toList ≠ outside := by
  have htrim : outside.after escapes (Excerpt.ofText input).trim.chars = outside ↔
      outside.after escapes input.toList = outside := after_trim input.toList
  rw [Ne, ← htrim, ← Ne, ← arguments_error_iff 0]
  unfold parse
  generalize (Excerpt.ofText input).trim = e
  dsimp only
  split
  · next n h => simp [h, Excerpt.error]
  · next h => simp [h, Excerpt.error]
  · next h => simp [h]

/-- Every list of arguments can be written as a command, with any blanks between the arguments. And a command is refused
for its quotes just if one is open at its end. -/
theorem parse_quoting (a : String) (rest : List (List Char × String))
    (hgaps : ∀ p ∈ rest, p.1 ≠ [] ∧ ∀ c ∈ p.1, isBlank c = true) :
    parse (String.ofList (writtenAll a rest)) = .ok (a :: rest.map Prod.snd) ∧
      ∀ input, (∃ e, parse input = .error e ∧ e.message = "unbalanced quotes") ↔
        outside.after escapes input.toList ≠ outside :=
  ⟨parse_writtenAll hgaps a, parse_unbalanced_iff⟩

/-- An empty argument, and one with blanks, quotes and a backslash at its end, over two lines; and a backslash that
takes its meaning away from the last quote. -/
theorem parse_quoting_lines : String.ofList (writtenAll "SET" [("  ".toList, ""), ("\n\t".toList, "a \"b'\n\\")]) =
      "\"SET\"  \"\"\n\t\"a \\\"b'\n\\\\\"" ∧
    parse "\"SET\"  \"\"\n\t\"a \\\"b'\n\\\\\"" = .ok ["SET", "", "a \"b'\n\\"] ∧
    ∃ e, parse "SET 'a' \"b\\\"" = .error e ∧ e.message = "unbalanced quotes" := by
  have hwritten : String.ofList (writtenAll "SET" [("  ".toList, ""), ("\n\t".toList, "a \"b'\n\\")]) =
      "\"SET\"  \"\"\n\t\"a \\\"b'\n\\\\\"" := by decide +kernel
  have hgaps : ∀ p ∈ [("  ".toList, ""), ("\n\t".toList, "a \"b'\n\\")], p.1 ≠ [] ∧ ∀ c ∈ p.1, isBlank c = true := by
    intro p hp
    simp only [List.mem_cons, List.not_mem_nil, or_false] at hp
    rcases hp with rfl | rfl <;> exact ⟨by decide, List.all_eq_true.1 (by decide)⟩
  obtain ⟨hparse, hrefused⟩ := parse_quoting "SET" [("  ".toList, ""), ("\n\t".toList, "a \"b'\n\\")] hgaps
  exact ⟨hwritten, (congrArg parse hwritten).symm.trans hparse, (hrefused _).2 (by decide)⟩

end SlotSql.RawCommand
