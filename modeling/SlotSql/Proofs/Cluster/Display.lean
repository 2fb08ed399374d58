import SlotSql.Proofs.Store.Words
/-!
# Commands that are shown

A command is shown with its words, and of an `AUTH` command the first argument is hidden. So two of them look alike just
if what they show behind that argument is the same: a password alone is hidden, and one that stands behind a user name
is not.

Results:
* `display_auth`: what is shown of an `AUTH` command.
* `display_auth_iff`: when two of them look alike.
-/
namespace SlotSql.Cluster.Command

variable {c d : Command} {w : Bytes} {as bs : List Bytes} {name s t : String}

/-- Two texts that differ in nothing but the letter case of a name in front. -/
def LookAlike (name s t : String) : Prop :=
  ∃ n m r, Text.asciiUpper n = name ∧ Text.asciiUpper m = name ∧ s = n ++ r ∧ t = m ++ r

/-- What is shown behind the first argument. -/
def shownBehind (c : Command) : String := " ".intercalate ((c.words.drop 2).map wordText)

/-- What is shown behind the name of an `AUTH` command. -/
def maskedChars : List Bytes → List Char
  | [] => []
  | [_] => ' ' :: mask.toList
  | _ :: as => ' ' :: (mask.toList ++ ' ' :: (" ".intercalate (as.map wordText)).toList)

/-! ## Names -/

theorem toUpper_of_isBlank {ch : Char} (h : Text.isBlank ch = true) : ch.toUpper = ch := by
  simp only [Text.isBlank, Bool.or_eq_true, Bool.and_eq_true, decide_eq_true_eq, beq_iff_eq] at h
  delta Char.toUpper
  rw [dif_neg]
  simp only [UInt32.le_iff_toNat_le, Char.reduceVal, UInt32.reduceToNat, Char.toNat_val]
  omega

/-- A name without blanks is shown as it is. -/
theorem wordText_of_name (h : Text.asciiUpper (Utf8.decodeLossy w) = name) (hne : name ≠ "")
    (hblank : ∀ ch ∈ name.toList, Text.isBlank ch = false) : wordText w = Utf8.decodeLossy w := by
  have hempty : ¬ (Utf8.decodeLossy w).isEmpty = true := fun he => by
    rw [String.isEmpty_iff.1 he] at h
    exact hne h.symm
  have hany : ¬ (Utf8.decodeLossy w).toList.any Text.isBlank = true := fun ha => by
    obtain ⟨ch, hmem, hch⟩ := List.any_eq_true.1 ha
    have hupper : ch ∈ name.toList := by
      rw [← h, Text.asciiUpper, String.toList_ofList, ← toUpper_of_isBlank hch]
      exact List.mem_map_of_mem hmem
    rw [hblank ch hupper] at hch
    cases hch
  exact if_neg (not_or.2 ⟨hempty, hany⟩)

theorem wordText_bytes (t : String) :
    wordText (Utf8.bytes t) = if t.isEmpty ∨ t.toList.any Text.isBlank then "\"" ++ t ++ "\"" else t := by
  rw [wordText, Utf8.decodeLossy_bytes]

theorem length_asciiUpper (s : String) : (Text.asciiUpper s).toList.length = s.toList.length := by
  rw [Text.asciiUpper, String.toList_ofList, List.length_map]

/-! ## Commands with a password -/

theorem exists_auth (h : c.name = "AUTH") :
    ∃ w as, c.words = w :: as ∧ Text.asciiUpper (Utf8.decodeLossy w) = "AUTH" := by
  rcases hw : c.words with _ | ⟨w, as⟩
  · rw [Command.name, hw] at h
    exact absurd h (by decide +kernel)
  · rw [Command.name, hw] at h
    exact ⟨w, as, rfl, h⟩

/-- An `AUTH` command shows its name as it is written, a mask, and the other arguments. -/
theorem display_auth (hw : c.words = w :: as) (h : Text.asciiUpper (Utf8.decodeLossy w) = "AUTH") :
    c.display.toList = (Utf8.decodeLossy w).toList ++ maskedChars as := by
  have hname : c.name = "AUTH" := by rw [Command.name, hw]; exact h
  have hblank : "AUTH".toList.all (fun ch => !Text.isBlank ch) = true := by decide
  have hword : wordText w = Utf8.decodeLossy w :=
    wordText_of_name h (by decide) fun ch hch => by simpa using List.all_eq_true.1 hblank ch hch
  rw [display, String.toList_intercalate, texts, hw]
  rcases as with _ | ⟨p, _ | ⟨q, as⟩⟩ <;>
    simp [hname, hword, maskedChars, List.intercalate_cons_cons]

theorem maskedChars_inj (hl : as.length = bs.length) : maskedChars as = maskedChars bs ↔
    " ".intercalate ((as.drop 1).map wordText) = " ".intercalate ((bs.drop 1).map wordText) := by
  rcases as with _ | ⟨p, _ | ⟨q, as⟩⟩ <;> rcases bs with _ | ⟨p', _ | ⟨q', bs⟩⟩ <;>
    simp [maskedChars, ← String.toList_inj] at hl ⊢

/-- Two `AUTH` commands of one length look alike, but for the letter case of the name, just if they show the same behind
the first argument. -/
theorem display_auth_iff (hc : c.name = "AUTH") (hd : d.name = "AUTH") (hl : c.length = d.length) :
    LookAlike "AUTH" c.display d.display ↔ c.shownBehind = d.shownBehind := by
  obtain ⟨v, as, hv, hvname⟩ := exists_auth hc
  obtain ⟨w, bs, hw, hwname⟩ := exists_auth hd
  have hlength : as.length = bs.length := by simpa [length, hv, hw] using hl
  have hshown : c.shownBehind = d.shownBehind ↔ maskedChars as = maskedChars bs := by
    rw [maskedChars_inj hlength, shownBehind, shownBehind, hv, hw]
    rfl
  have hcshow := display_auth hv hvname
  have hdshow := display_auth hw hwname
  rw [hshown]
  constructor
  · rintro ⟨n, m, r, hn, hm, hcr, hdr⟩
    -- A name has four characters, so the displays are cut at the same place.
    have hcut {u x : String} {ys : List Char} (hu : Text.asciiUpper u = "AUTH") (hx : Text.asciiUpper x = "AUTH")
        (h : u.toList ++ r.toList = x.toList ++ ys) : r.toList = ys := by
      refine (List.append_inj h ?_).2
      rw [← length_asciiUpper u, hu, ← length_asciiUpper x, hx]
    rw [hcr, String.toList_append] at hcshow
    rw [hdr, String.toList_append] at hdshow
    rw [← hcut hn hvname hcshow, ← hcut hm hwname hdshow]
  · intro h
    refine ⟨_, _, String.ofList (maskedChars as), hvname, hwname, ?_, ?_⟩
    · rw [← String.toList_inj, hcshow, String.toList_append, String.toList_ofList]
    · rw [← String.toList_inj, hdshow, String.toList_append, String.toList_ofList, h]

/-- A password is hidden, in whatever letter case the name is written; behind a user name it is shown. -/
theorem display_auth_iff_users :
    LookAlike "AUTH" (ofTexts ["AUTH", "a"]).display (ofTexts ["auth", "b c"]).display ∧
      (ofTexts ["AUTH", "alice", "secret"]).display = "AUTH ****** secret" ∧
      ¬ LookAlike "AUTH" (ofTexts ["AUTH", "alice", "secret"]).display (ofTexts ["auth", "bob", "other"]).display := by
  have hupper (ws : List String) : (ofTexts ("AUTH" :: ws)).name = "AUTH" := (name_ofTexts ..).trans (by decide)
  have hlower (ws : List String) : (ofTexts ("auth" :: ws)).name = "AUTH" := (name_ofTexts ..).trans (by decide)
  have hone := display_auth_iff (hupper ["a"]) (hlower ["b c"]) (by simp [length, ofTexts])
  have htwo := display_auth_iff (hupper ["alice", "secret"]) (hlower ["bob", "other"]) (by simp [length, ofTexts])
  have hnone : (ofTexts ["AUTH", "a"]).shownBehind = (ofTexts ["auth", "b c"]).shownBehind := by
    simp only [shownBehind, ofTexts, List.map_cons, List.map_nil, List.drop_succ_cons, List.drop_nil]
  have hshown : (ofTexts ["AUTH", "alice", "secret"]).display = "AUTH ****** secret" := by
    simp only [display, texts, hupper, if_true]
    simp only [ofTexts, List.map_cons, List.map_nil, wordText_bytes]
    decide
  have hdiffer : (ofTexts ["AUTH", "alice", "secret"]).shownBehind ≠
      (ofTexts ["auth", "bob", "other"]).shownBehind := by
    simp only [shownBehind, ofTexts, List.map_cons, List.map_nil, List.drop_succ_cons, List.drop_zero, wordText_bytes]
    decide
  exact ⟨hone.2 hnone, hshown, mt htwo.1 hdiffer⟩

end SlotSql.Cluster.Command
