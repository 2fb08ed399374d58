import Mathlib.Data.List.Forall2
import SlotSql.Pattern.Glob
import SlotSql.Proofs.Key
/-!
# Patterns of row keys

A pattern that is made part by part matches a row key just when each of its parts matches the part of the
key at its place: neither side holds more colons than it has parts, so the colons match one another, and
what a star stands for never goes beyond its part.

Results:
* `items_escape`: an escaped text without a star stands for itself.
* `pieces_matched`: what a pattern of escaped texts and stars matches.
* `row_of_matchesRow`: a key that matches a pattern of rows is of the table.
* `parts_of_matchesRow`, `matchesRow_of_parts`: matching a row key, part by part.
-/
namespace SlotSql.Glob

open Utf8

variable {is js : List Item} {bs r t : Bytes} {s p : String}

/-! ## Items -/

theorem accepts_append : accepts (is ++ js) t ↔
    ∃ a b, t = a ++ b ∧ accepts is a = true ∧ accepts js b = true := by
  induction is generalizing t with
  | nil =>
    rw [List.nil_append]
    constructor
    · exact fun h => ⟨[], t, rfl, rfl, h⟩
    · rintro ⟨a, b, rfl, ha, hb⟩
      rwa [List.isEmpty_iff.1 ha, List.nil_append]
  | cons i is ih =>
    by_cases hi : i = .star
    · subst hi
      rw [List.cons_append, accepts_star]
      constructor
      · rintro ⟨x, y, rfl, h⟩
        obtain ⟨a, b, rfl, ha, hb⟩ := ih.1 h
        exact ⟨x ++ a, b, (List.append_assoc ..).symm, accepts_star.2 ⟨x, a, rfl, ha⟩, hb⟩
      · rintro ⟨a, b, rfl, ha, hb⟩
        obtain ⟨x, y, rfl, hy⟩ := accepts_star.1 ha
        exact ⟨x, y ++ b, List.append_assoc .., ih.2 ⟨y, b, rfl, hy, hb⟩⟩
    · rw [List.cons_append, accepts_one hi]
      constructor
      · rintro ⟨c, y, rfl, hc, h⟩
        obtain ⟨a, b, rfl, ha, hb⟩ := ih.1 h
        exact ⟨c :: a, b, rfl, (accepts_one hi).2 ⟨c, a, rfl, hc, ha⟩, hb⟩
      · rintro ⟨a, b, rfl, ha, hb⟩
        obtain ⟨c, y, rfl, hc, hy⟩ := (accepts_one hi).1 ha
        exact ⟨c, y ++ b, rfl, hc, ih.2 ⟨y, b, rfl, hy, hb⟩⟩

/-- Octets match themselves only. -/
theorem accepts_octets : accepts (bs.map .octet) t = true ↔ t = bs := by
  induction bs generalizing t with
  | nil => exact List.isEmpty_iff
  | cons b bs ih =>
    rw [List.map_cons, accepts_one (by rintro ⟨⟩)]
    constructor
    · rintro ⟨c, r, rfl, hc, h⟩
      rw [ih.1 h, beq_iff_eq.1 hc]
    · rintro rfl
      exact ⟨b, bs, rfl, beq_self_eq_true b, ih.2 rfl⟩

/-- Octets without a meaning in patterns stand for themselves. -/
theorem items_plain (h : ∀ b ∈ bs, b ≠ 0x2A ∧ b ≠ 0x3F ∧ b ≠ 0x5B ∧ b ≠ 0x5C) (r : Bytes) :
    items (bs ++ r) = bs.map .octet ++ items r := by
  induction bs with
  | nil => rfl
  | cons b bs ih =>
    obtain ⟨h1, h2, h3, h4⟩ := h b List.mem_cons_self
    rw [List.cons_append, items, if_neg h1, if_neg h2, if_neg h3]
    rw [ih fun c hc => h c (List.mem_cons_of_mem _ hc), List.map_cons, List.cons_append]
    intro c r' he
    exact absurd he h4

/-- An octet behind a backslash stands for itself. -/
theorem items_backslash (b : UInt8) (r : Bytes) : items (0x5C :: b :: r) = .octet b :: items r := by
  rw [items, if_neg (by decide), if_neg (by decide), if_neg (by decide)]

theorem plain_encodeChar {c : Char} (h : c ≠ '*' ∧ c ≠ '?' ∧ c ≠ '[' ∧ c ≠ '\\') {b : UInt8}
    (hb : b ∈ String.utf8EncodeChar c) : b ≠ 0x2A ∧ b ≠ 0x3F ∧ b ≠ 0x5B ∧ b ≠ 0x5C := by
  rcases Nat.lt_or_ge c.toNat 128 with hlt | hge
  · rw [encodeChar_ascii hlt, List.mem_singleton] at hb
    have hne {d : Char} (hd : c ≠ d) (hd' : d.toNat < 128) : b ≠ UInt8.ofNat d.toNat := by
      rw [hb]
      intro he
      have hn := congrArg UInt8.toNat he
      rw [toNat_ofNat (by omega), toNat_ofNat (by omega)] at hn
      exact hd (Char.ext (UInt32.toNat_inj.1 hn))
    exact ⟨hne h.1 (by decide), hne h.2.1 (by decide), hne h.2.2.1 (by decide), hne h.2.2.2 (by decide)⟩
  · have := le_of_mem_encodeChar hge hb
    refine ⟨?_, ?_, ?_, ?_⟩ <;> rintro rfl <;> exact absurd this (by decide)

/-- An escaped text without a star stands for itself. -/
theorem items_escape (h : '*' ∉ s.toList) (r : Bytes) :
    items (bytes (escape s) ++ r) = (bytes s).map .octet ++ items r := by
  unfold escape
  rw [bytes_ofList]
  unfold bytes
  generalize s.toList = cs at h
  induction cs with
  | nil => rfl
  | cons c cs ih =>
    rw [List.mem_cons, not_or] at h
    rw [List.flatMap_cons, encode_append, List.append_assoc]
    show _ = (String.utf8EncodeChar c ++ encode cs).map .octet ++ items r
    rw [List.map_append, List.append_assoc, ← ih h.2]
    split
    · next hc =>
      have hesc : encode ['\\', c] = 0x5C :: String.utf8EncodeChar c := by
        show _ ++ (_ ++ []) = _
        rw [List.append_nil]
        rfl
      have hlt : c.toNat < 128 := by rcases hc with rfl | rfl | rfl | rfl <;> decide
      rw [hesc, encodeChar_ascii hlt]
      exact items_backslash _ _
    · next hc =>
      simp only [not_or] at hc
      have hone : encode [c] = String.utf8EncodeChar c := List.append_nil _
      rw [hone, items_plain fun b hb => plain_encodeChar ⟨Ne.symm h.1, hc.1, hc.2.1, hc.2.2.2⟩ hb]

theorem items_nil : items [] = [] := by rw [items]

theorem items_star (r : Bytes) : items (bytes "*" ++ r) = .star :: items r := by
  show items (0x2A :: r) = _
  rw [items, if_pos rfl]
  rintro _ _ ⟨⟩

theorem items_oneStar : items (bytes "*") = [.star] := by
  have h := items_star []
  rwa [List.append_nil, items_nil] at h

theorem items_literal (h : '*' ∉ s.toList) : items (bytes (escape s)) = (bytes s).map .octet := by
  have h0 := items_escape h []
  rwa [List.append_nil, items_nil, List.append_nil] at h0

/-! ## Literals and stars -/

/-- A text without a star, which a pattern can take literally. -/
structure PlainText where
  text : String
  plain : '*' ∉ text.toList

/-- A piece of a pattern: a text that stands for itself, or a star. -/
inductive Piece where
  | literal (l : PlainText)
  | star

/-- A piece as it is written in a pattern. -/
def Piece.pattern : Piece → String
  | .literal l => escape l.text
  | .star => "*"

/-- The pattern that is put together from pieces. -/
def ofPieces (ps : List Piece) : String := String.join (ps.map Piece.pattern)

/-- The texts that pieces stand for: the literals in order, and any octets in place of each star. -/
inductive Spells : List Piece → Bytes → Prop where
  | nil : Spells [] []
  | literal (l : PlainText) {ps : List Piece} {t : Bytes} (h : Spells ps t) :
    Spells (.literal l :: ps) (bytes l.text ++ t)
  | star (gap : Bytes) {ps : List Piece} {t : Bytes} (h : Spells ps t) : Spells (.star :: ps) (gap ++ t)

/-- The items of a piece. -/
def Piece.items : Piece → List Item
  | .literal l => (bytes l.text).map .octet
  | .star => [.star]

theorem items_piece (q : Piece) (r : Bytes) : Glob.items (bytes q.pattern ++ r) = q.items ++ Glob.items r := by
  cases q with
  | literal l => exact items_escape l.plain r
  | star => exact items_star r

theorem items_ofPieces (ps : List Piece) : items (bytes (ofPieces ps)) = ps.flatMap Piece.items := by
  unfold ofPieces
  induction ps with
  | nil => exact items_nil
  | cons q ps ih => rw [List.map_cons, String.join_cons, bytes_append, items_piece, ih, List.flatMap_cons]

/-- The items of pieces match the texts that the pieces stand for. -/
theorem accepts_pieces {ps : List Piece} : accepts (ps.flatMap Piece.items) t = true ↔ Spells ps t := by
  induction ps generalizing t with
  | nil =>
    constructor
    · intro h
      rw [List.isEmpty_iff.1 h]
      exact .nil
    · rintro ⟨⟩
      rfl
  | cons q ps ih =>
    rw [List.flatMap_cons, accepts_append]
    cases q with
    | literal l =>
      constructor
      · rintro ⟨a, b, rfl, ha, hb⟩
        rw [accepts_octets.1 ha]
        exact .literal l (ih.1 hb)
      · rintro (_ | ⟨_, h⟩)
        exact ⟨_, _, rfl, accepts_octets.2 rfl, ih.2 h⟩
    | star =>
      constructor
      · rintro ⟨a, b, rfl, -, hb⟩
        exact .star a (ih.1 hb)
      · rintro (_ | _ | ⟨gap, h⟩)
        exact ⟨gap, _, rfl, accepts_star.2 ⟨gap, [], (List.append_nil _).symm, rfl⟩, ih.2 h⟩

/-- A pattern of escaped literals and stars matches the texts that have the literals in order with any octets in place
of each star, and no others; an escaped literal alone matches itself only. -/
theorem pieces_matched : (∀ (ps : List Piece) (t : Bytes), matchesBytes (bytes (ofPieces ps)) t = true ↔ Spells ps t) ∧
    ∀ (l : PlainText) (t : Bytes), matchesBytes (bytes (escape l.text)) t = true ↔ t = bytes l.text := by
  unfold matchesBytes
  refine ⟨fun ps t => ?_, fun l t => ?_⟩
  · rw [items_ofPieces]
    exact accepts_pieces
  · rw [items_literal l.plain]
    exact accepts_octets

/-! ## Patterns by parts -/

/-- A pattern whose items do not depend on what follows it. -/
def Whole (p : String) : Prop := ∀ r, items (bytes p ++ r) = items (bytes p) ++ items r

theorem whole_star : Whole "*" := fun r => by rw [items_star, items_oneStar]; rfl

theorem whole_escape (h : '*' ∉ s.toList) : Whole (escape s) := fun r => by
  rw [items_escape h, items_literal h]

theorem Whole.append {q : String} (hp : Whole p) (hq : Whole q) : Whole (p ++ q) := fun r => by
  rw [bytes_append, List.append_assoc, hp, hq, hp, List.append_assoc]

theorem Whole.items_append (hp : Whole p) (q : String) :
    items (bytes (p ++ q)) = items (bytes p) ++ items (bytes q) := by
  rw [bytes_append, hp]

/-- The octet between the parts of a key. -/
def colon : UInt8 := 0x3A

variable {pats : List String}

theorem items_parts (h : ∀ p ∈ pats, Whole p) (r : Bytes) :
    items ((pats.map bytes).flatMap (colon :: ·) ++ r) =
      pats.flatMap (fun p => .octet colon :: items (bytes p)) ++ items r := by
  induction pats with
  | nil => rfl
  | cons p pats ih =>
    have hcolon (r : Bytes) : items (colon :: r) = .octet colon :: items r := by
      have h := @items_plain [colon] (by simp [colon]) r
      simpa using h
    rw [List.map_cons, List.flatMap_cons, List.flatMap_cons, List.append_assoc, List.cons_append, hcolon,
      h p List.mem_cons_self, ih fun q hq => h q (List.mem_cons_of_mem _ hq), List.append_assoc]
    rfl

/-- Parts behind colons match texts behind colons. -/
theorem accepts_parts : accepts (pats.flatMap (fun p => .octet colon :: items (bytes p)) ++ js) t = true ↔
    ∃ xs b, t = xs.flatMap (colon :: ·) ++ b ∧ pats.Forall₂ (fun p x => matchesBytes (bytes p) x = true) xs ∧
      accepts js b = true := by
  induction pats generalizing t with
  | nil =>
    constructor
    · exact fun h => ⟨[], t, rfl, .nil, h⟩
    · rintro ⟨xs, b, rfl, h, hb⟩
      cases h
      exact hb
  | cons p pats ih =>
    rw [List.flatMap_cons, List.append_assoc, List.cons_append, accepts_one (by rintro ⟨⟩)]
    constructor
    · rintro ⟨c, r, rfl, hc, h⟩
      obtain ⟨a, b, rfl, ha, hb⟩ := accepts_append.1 h
      obtain ⟨xs, b, rfl, hxs, hb⟩ := ih.1 hb
      refine ⟨a :: xs, b, ?_, .cons ha hxs, hb⟩
      rw [← beq_iff_eq.1 hc, List.flatMap_cons, List.append_assoc, List.cons_append]
    · rintro ⟨_, b, rfl, hxs, hb⟩
      cases hxs with
      | @cons _ x _ xs hx hxs =>
        refine ⟨colon, x ++ (xs.flatMap (colon :: ·) ++ b), ?_, beq_self_eq_true _, ?_⟩
        · rw [List.flatMap_cons, List.append_assoc, List.cons_append]
        · exact accepts_append.2 ⟨x, _, rfl, hx, ih.2 ⟨xs, b, rfl, hxs, hb⟩⟩

/-! ## Row keys -/

section Rows

variable {tablespace table : String} {parts : List String}

/-- The beginning of the row keys of a table. -/
def rowStart (tablespace table : String) : List Char :=
  Key.openBrace :: (tablespace.toList ++ ':' :: ':' :: table.toList)

theorem encode_parts (ps : List String) :
    encode ((ps.map String.toList).flatMap (':' :: ·)) = (ps.map bytes).flatMap (colon :: ·) := by
  induction ps with
  | nil => rfl
  | cons p ps ih =>
    rw [List.map_cons, List.flatMap_cons, encode_append, ih]
    rfl

theorem toList_row (tablespace table : String) (parts : List String) : (Key.row tablespace table parts).toList =
    rowStart tablespace table ++ ((parts.map String.toList).flatMap (':' :: ·) ++ [Key.closeBrace]) := by
  rw [Key.toList_row]
  simp [rowStart]

theorem bytes_row (tablespace table : String) (parts : List String) : bytes (Key.row tablespace table parts) =
    encode (rowStart tablespace table) ++ ((parts.map bytes).flatMap (colon :: ·) ++ bytes "\x7d") := by
  rw [← encode_parts]
  show encode (Key.row tablespace table parts).toList = _
  rw [toList_row, encode_append, encode_append]
  rfl

theorem plain_rowStart (hts : Token.isName tablespace.toList = true) (ht : Token.isName table.toList = true) :
    ∀ b ∈ encode (rowStart tablespace table), b ≠ 0x2A ∧ b ≠ 0x3F ∧ b ≠ 0x5B ∧ b ≠ 0x5C := by
  intro b hb
  obtain ⟨c, hc, hb⟩ := List.mem_flatMap.1 hb
  refine plain_encodeChar ?_ hb
  have hname {cs : List Char} (hn : Token.isName cs = true) (hm : c ∈ cs) :
      c ≠ '*' ∧ c ≠ '?' ∧ c ≠ '[' ∧ c ≠ '\\' := by
    refine ⟨?_, ?_, ?_, ?_⟩ <;> rintro rfl <;> exact Key.notMem_of_isName hn (by decide) hm
  simp only [rowStart, List.mem_cons, List.mem_append] at hc
  rcases hc with rfl | hc | rfl | rfl | hc
  · decide
  · exact hname hts hc
  · decide
  · decide
  · exact hname ht hc

theorem items_row (hts : Token.isName tablespace.toList = true) (ht : Token.isName table.toList = true)
    (hp : ∀ p ∈ pats, Whole p) : items (bytes (Key.row tablespace table pats)) =
      (encode (rowStart tablespace table)).map .octet ++
        (pats.flatMap (fun p => .octet colon :: items (bytes p)) ++ [.octet 0x7D]) := by
  have hend : items (bytes "\x7d") = [.octet 0x7D] := by
    have h := @items_plain [0x7D] (by simp) []
    rwa [items_nil] at h
  rw [bytes_row, items_plain (plain_rowStart hts ht), items_parts hp, hend]

/-- A row key whose parts match the parts of a pattern matches it. -/
theorem matchesRow_of_parts (hts : Token.isName tablespace.toList = true)
    (ht : Token.isName table.toList = true) (hp : ∀ p ∈ pats, Whole p)
    (h : pats.Forall₂ (fun p x => matchesKey p x = true) parts) :
    matchesKey (Key.row tablespace table pats) (Key.row tablespace table parts) = true := by
  unfold matchesKey matchesBytes
  rw [items_row hts ht hp, bytes_row]
  refine accepts_append.2 ⟨_, _, rfl, accepts_octets.2 rfl, accepts_parts.2 ⟨parts.map bytes, _, rfl, ?_, ?_⟩⟩
  · exact List.forall₂_map_right_iff.2 h
  · exact (@accepts_octets [0x7D] _).2 rfl

/-- A row key that matches a pattern of rows is of its table, and the parts of the pattern match texts that
make up its parts. -/
theorem row_of_matchesRow (hts : Token.isName tablespace.toList = true)
    (ht : Token.isName table.toList = true) (hp : ∀ p ∈ pats, Whole p) (hne : pats ≠ []) {key ts tb : String}
    (hm : matchesKey (Key.row tablespace table pats) key = true)
    (hk : Key.parseRow? key = some (ts, tb, parts)) : ts = tablespace ∧ tb = table ∧
      ∃ xs, pats.Forall₂ (fun p x => matchesBytes (bytes p) x = true) xs ∧
        xs.flatMap (colon :: ·) = (parts.map bytes).flatMap (colon :: ·) := by
  unfold matchesKey matchesBytes at hm
  rw [items_row hts ht hp] at hm
  obtain ⟨a, b, hab, ha, hb⟩ := accepts_append.1 hm
  obtain ⟨xs, e, rfl, hxs, he⟩ := accepts_parts.1 hb
  rw [accepts_octets.1 ha] at hab
  rw [(@accepts_octets [0x7D] _).1 he] at hab
  obtain ⟨es, hes, hes'⟩ := encode_eq_append hab
  -- Behind the names there is a colon, and the last character is the closing brace.
  obtain ⟨r, rfl⟩ : ∃ r, es = ':' :: (r ++ [Key.closeBrace]) := by
    obtain ⟨p, pats, rfl⟩ := List.exists_cons_of_ne_nil hne
    cases hxs with
    | @cons _ x _ xs hx hxs =>
      rw [List.flatMap_cons, List.cons_append, List.cons_append] at hes'
      obtain ⟨fs, rfl, hfs⟩ := @encode_eq_append _ [':'] (x ++ xs.flatMap (colon :: ·) ++ [0x7D])
        hes'.symm
      rcases List.eq_nil_or_concat fs with rfl | ⟨r, z, rfl⟩
      · simp [encode] at hfs
      · have hlast := congrArg List.getLast? ((toList_row ts tb parts).symm.trans
          ((congrArg String.toList (Key.parseRow?_eq_some hk).1).symm.trans hes))
        simp only [List.concat_eq_append, ← List.append_assoc, List.getLast?_concat] at hlast
        exact ⟨r, by rw [List.concat_eq_append, Option.some.inj hlast]; rfl⟩
  have hcolon {s : String} (h : Token.isName s.toList = true) : ':' ∉ s.toList :=
    Key.notMem_of_isName h (by decide)
  have hnil {s : String} (h : Token.isName s.toList = true) : s.toList ≠ [] := by
    intro he
    rw [he] at h
    cases h
  have hread := @Key.parseRow?_of_toList key tablespace.toList table.toList r
    (by rw [hes]; simp [rowStart]) (hnil hts) (hcolon hts) (hnil ht) (hcolon ht)
  rw [hk, Option.some.injEq, Prod.mk.injEq, Prod.mk.injEq, String.ofList_toList, String.ofList_toList] at hread
  obtain ⟨rfl, rfl, rfl⟩ := hread
  refine ⟨rfl, rfl, xs, hxs, ?_⟩
  have hr : ':' :: r = (Text.split ':' r).flatMap (':' :: ·) := by
    cases hs : Text.split ':' r with
    | nil => exact absurd hs (Text.split_ne_nil _ _)
    | cons p ps => rw [List.flatMap_cons, List.cons_append, ← (Text.split_eq_cons_iff.1 hs).1]
  rw [← encode_parts, Key.map_toList_ofList, ← hr]
  refine @List.append_cancel_right _ _ [0x7D] _ (hes'.trans ?_)
  rw [← List.cons_append, encode_append]
  rfl

/-- The parts of a row key that matches a pattern of as many parts match the parts of the pattern. -/
theorem parts_of_matchesRow (hts : Token.isName tablespace.toList = true)
    (ht : Token.isName table.toList = true) (hp : ∀ p ∈ pats, Whole p) (hne : pats ≠ []) {key ts tb : String}
    (hm : matchesKey (Key.row tablespace table pats) key = true)
    (hk : Key.parseRow? key = some (ts, tb, parts)) (hl : parts.length = pats.length) :
    ts = tablespace ∧ tb = table ∧ pats.Forall₂ (fun p x => matchesKey p x = true) parts := by
  obtain ⟨h1, h2, xs, hxs, hcols⟩ := row_of_matchesRow hts ht hp hne hm hk
  have hno : ∀ y ∈ parts.map bytes, colon ∉ y := by
    intro y hy hm
    obtain ⟨x, hx, rfl⟩ := List.mem_map.1 hy
    exact (Key.parseRow?_eq_some hk).2.2.2.2.2 x hx ((mem_encode_iff (c := ':') (by decide)).1 hm)
  have hxs' : xs = parts.map bytes :=
    Text.pieces_aligned (by rw [List.length_map, hl, hxs.length_eq]) hno hcols
  subst hxs'
  exact ⟨h1, h2, List.forall₂_map_right_iff.1 hxs⟩

end Rows
end SlotSql.Glob
