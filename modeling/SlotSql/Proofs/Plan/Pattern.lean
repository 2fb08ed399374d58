import SlotSql.Proofs.Filter
import SlotSql.Proofs.Pattern.Glob
import SlotSql.Proofs.Plan.Build
/-!
# Key patterns of plans

The one equation on a part of the key is taken out of its chain and becomes a part of the key. Nothing is lost
or added by that: a stored part passes all filters just when it is the bound value and passes those that
are left. The pattern of a part admits every part that passes, and a bound value admits itself only.

Results:
* `bind_accepts`: a chain before and after its equation is taken out.
* `whole_partPattern`, `matches_bound`, `matches_of_accepts`: what the pattern of a part admits.
-/
namespace SlotSql

/-! ## Matching a part -/

namespace Glob

variable {s x : String} {r q : List Char}

theorem matches_literal (h : '*' ∉ s.toList) : matchesKey (escape s) x = true ↔ x = s := by
  unfold matchesKey matchesBytes
  rw [items_literal h, accepts_octets]
  exact ⟨Evaluation.bytes_inj, fun he => by rw [he]⟩

theorem accepts_rest {is : List Item} {bs : Bytes} (t : Bytes)
    (h : accepts is bs = true) : accepts (is ++ [.star]) (bs ++ t) = true :=
  accepts_append.2 ⟨bs, t, rfl, h, accepts_star.2 ⟨t, [], (List.append_nil t).symm, rfl⟩⟩

theorem bytes_of_toList {l : List Char} (h : x.toList = l) : Utf8.bytes x = Utf8.encode l := by
  rw [← h]
  rfl

theorem matches_start (h : '*' ∉ s.toList) (hx : x.toList = s.toList ++ r) :
    matchesKey (escape s ++ "*") x = true := by
  unfold matchesKey matchesBytes
  rw [(whole_escape h).items_append, items_literal h, items_oneStar, bytes_of_toList hx, Utf8.encode_append]
  exact accepts_rest _ (accepts_octets.2 rfl)

theorem matches_end (h : '*' ∉ s.toList) (hx : x.toList = r ++ s.toList) :
    matchesKey ("*" ++ escape s) x = true := by
  unfold matchesKey matchesBytes
  rw [whole_star.items_append, items_oneStar, items_literal h, bytes_of_toList hx, Utf8.encode_append]
  exact accepts_star.2 ⟨_, _, rfl, accepts_octets.2 rfl⟩

theorem matches_inside (h : '*' ∉ s.toList) (hx : x.toList = r ++ s.toList ++ q) :
    matchesKey ("*" ++ escape s ++ "*") x = true := by
  unfold matchesKey matchesBytes
  rw [(whole_star.append (whole_escape h)).items_append, whole_star.items_append, items_oneStar,
    items_literal h, bytes_of_toList hx, Utf8.encode_append, Utf8.encode_append]
  exact accepts_rest _ (accepts_star.2 ⟨_, _, rfl, accepts_octets.2 rfl⟩)

theorem matches_any (x : String) : matchesKey "*" x = true := by
  unfold matchesKey matchesBytes
  rw [items_oneStar]
  exact accepts_star.2 ⟨_, [], (List.append_nil _).symm, rfl⟩

end Glob

namespace Plan

variable {k : KeyFilter} {flt : Filter} {v x : String} {t : Table} {cs : List Condition}

/-! ## Taking an equation out -/

/-- The filters on a part of a key are those of conditions on it. -/
structure OnKey (k : KeyFilter) : Prop where
  isKey : k.field.isKey = true
  keyType : k.field.type.isKeyType = true
  unbound : k.bound = none
  made : ∀ flt ∈ k.chain, ∃ c, filterFor k.field c = .ok flt

theorem OnKey.isFloat (h : OnKey k) : k.field.type.isFloat = false := by
  have := h.keyType
  cases ht : k.field.type <;> rw [ht] at this <;> first | rfl | cases this

/-- The literal of a filter on a part of a key holds no structural character, unless it is a match. -/
theorem OnKey.plain (h : OnKey k) (hm : flt ∈ k.chain) (hp : flt.comparison ≠ .pattern) {ch : Char}
    (hc : ch ∈ Key.structural) : ch ∉ flt.value.toList := by
  obtain ⟨c, hflt⟩ := h.made flt hm
  obtain ⟨-, -, -, -, hstr⟩ := Filter.filterFor_eq_ok hflt
  have hraw := hstr h.isKey (Filter.comparison_filterFor hflt ▸ hp)
  rcases Filter.value_filterFor hflt with hv | ⟨-, n, -, hv⟩
  · rw [hv]
    exact Key.holdsStructural_eq_false_iff.1 hraw ch hc
  · rw [hv]
    exact Evaluation.structural_integerText hc

theorem bind_cases (hb : k.bound = none) :
    (∃ eq, (k.chain.filter fun f => f.comparison = .eq) = [eq] ∧ (bind k).bound = some eq.value ∧
      (bind k).field = k.field ∧ (bind k).chain = k.chain.filter fun f => f.comparison ≠ .eq) ∨
    (bind k = k ∧ (bind k).bound = none) := by
  unfold bind
  split
  · next eq heq => exact .inl ⟨eq, heq, rfl, rfl, rfl⟩
  · exact .inr ⟨rfl, hb⟩

theorem bind_field (k : KeyFilter) : (bind k).field = k.field := by
  unfold bind
  split <;> rfl

theorem mem_of_bind (hm : flt ∈ (bind k).chain) : flt ∈ k.chain := by
  unfold bind at hm
  split at hm
  · exact List.mem_of_mem_filter hm
  · exact hm

/-- A bound value is the literal of an equation. -/
theorem mem_of_bound (h : OnKey k) (hv : (bind k).bound = some v) :
    ∃ flt ∈ k.chain, flt.comparison = .eq ∧ flt.value = v := by
  rcases bind_cases h.unbound with ⟨eq, h1, h2, -⟩ | ⟨-, h2⟩
  · have hmem : eq ∈ k.chain.filter fun f => f.comparison = .eq := by rw [h1]; exact List.mem_singleton_self eq
    obtain ⟨h3, h4⟩ := List.mem_filter.1 hmem
    exact ⟨eq, h3, of_decide_eq_true h4, Option.some.inj (h2.symm.trans hv)⟩
  · rw [h2] at hv
    cases hv

theorem OnKey.plain_bound (h : OnKey k) (hv : (bind k).bound = some v) {ch : Char}
    (hc : ch ∈ Key.structural) : ch ∉ v.toList := by
  obtain ⟨flt, hm, he, rfl⟩ := mem_of_bound h hv
  exact h.plain hm (by rw [he]; decide) hc

/-- A stored part passes all filters just when it is the bound value and passes those that are left. -/
theorem bind_accepts (h : OnKey k) (hx : Filter.Stored k.field.type x) :
    (∀ flt ∈ k.chain, flt.accepts (some k.field.type) x = .ok true) ↔
      (∀ v, (bind k).bound = some v → x = v) ∧
        ∀ flt ∈ (bind k).chain, flt.accepts (some k.field.type) x = .ok true := by
  have heq {flt : Filter} (hm : flt ∈ k.chain) (he : flt.comparison = .eq) :
      flt.accepts (some k.field.type) x = .ok true ↔ x = flt.value := by
    obtain ⟨c, hc⟩ := h.made flt hm
    exact Filter.accepts_eq_iff hc he h.isFloat hx
  rcases bind_cases h.unbound with ⟨eq, h1, h2, -, h4⟩ | ⟨h1, h2⟩
  · rw [h2, h4]
    constructor
    · intro hall
      refine ⟨fun v hv => ?_, fun flt hm => hall flt (List.mem_of_mem_filter hm)⟩
      obtain ⟨flt, hm, he, rfl⟩ := mem_of_bound h (h2.trans hv)
      exact (heq hm he).1 (hall flt hm)
    · rintro ⟨hv, hrest⟩ flt hm
      by_cases he : flt.comparison = .eq
      · have hmem : flt ∈ k.chain.filter fun f => f.comparison = .eq :=
          List.mem_filter.2 ⟨hm, decide_eq_true he⟩
        rw [h1, List.mem_singleton] at hmem
        exact (heq hm he).2 (hmem ▸ hv _ rfl)
      · exact hrest flt (List.mem_filter.2 ⟨hm, decide_eq_true he⟩)
  · rw [h2, h1]
    exact ⟨fun hall => ⟨by rintro v ⟨⟩, hall⟩, fun hall => hall.2⟩

/-! ## The pattern of a part -/

theorem star_structural : '*' ∈ Key.structural := by decide

theorem isLike_ne_pattern {c : Comparison} (h : c.isLike = true) : c ≠ .pattern := by
  rintro rfl
  cases h

theorem whole_partPattern (h : OnKey k) : Glob.Whole (partPattern (bind k)) := by
  unfold partPattern
  split
  · next v hv => exact Glob.whole_escape (h.plain_bound hv star_structural)
  · split
    · exact Glob.whole_star
    · next flt hfind =>
      have hlike := List.find?_some hfind
      have hlit := Glob.whole_escape (h.plain (mem_of_bind (List.mem_of_find?_eq_some hfind))
        (isLike_ne_pattern hlike) star_structural)
      simp only []
      split
      · exact hlit.append Glob.whole_star
      · exact Glob.whole_star.append hlit
      · exact (Glob.whole_star.append hlit).append Glob.whole_star

/-- A bound value admits itself only. -/
theorem matches_bound (h : OnKey k) (hv : (bind k).bound = some v) :
    Glob.matchesKey (partPattern (bind k)) x = true ↔ x = v := by
  unfold partPattern
  rw [hv]
  exact Glob.matches_literal (h.plain_bound hv star_structural)

/-- A filter on the beginning, the end or the inside of a part is applied to its text. -/
theorem acceptsText_of_like (h : OnKey k) (hm : flt ∈ k.chain) (hlike : flt.comparison.isLike = true)
    (hx : flt.accepts (some k.field.type) x = .ok true) : flt.acceptsText x = true := by
  obtain ⟨c, hc⟩ := h.made flt hm
  obtain ⟨-, -, -, h3, -⟩ := Filter.filterFor_eq_ok hc
  have hig : flt.comparison ≠ .ignore := by
    intro he
    rw [he] at hlike
    cases hlike
  have hnum : k.field.type.isNumeric = false := by
    cases hn : k.field.type.isNumeric with
    | false => rfl
    | true =>
      have := h3 hn
      rw [← Filter.comparison_filterFor hc, Comparison.isTextual, hlike] at this
      cases this
  rw [Filter.accepts_text hnum hig] at hx
  exact Except.ok.inj hx

/-- The pattern of a part admits every part that passes its filters. -/
theorem matches_of_accepts (h : OnKey k) (hv : ∀ v, (bind k).bound = some v → x = v)
    (hx : ∀ flt ∈ (bind k).chain, flt.accepts (some k.field.type) x = .ok true) :
    Glob.matchesKey (partPattern (bind k)) x = true := by
  cases hb : (bind k).bound with
  | some v => exact (matches_bound h hb).2 (hv v hb)
  | none =>
    unfold partPattern
    rw [hb]
    simp only []
    split
    · exact Glob.matches_any x
    · next flt hfind =>
      have hlike := List.find?_some hfind
      have hmem := List.mem_of_find?_eq_some hfind
      have hstar := h.plain (mem_of_bind hmem) (isLike_ne_pattern hlike) star_structural
      have htext := acceptsText_of_like h (mem_of_bind hmem) hlike (hx flt hmem)
      unfold Filter.acceptsText at htext
      simp only [] at htext
      split
      · next hcmp =>
        rw [hcmp] at htext
        obtain ⟨r, hr⟩ := Option.isSome_iff_exists.1 htext
        exact Glob.matches_start hstar (Text.stripStart?_eq_some.1 hr)
      · next hcmp =>
        rw [hcmp] at htext
        obtain ⟨r, hr⟩ := Option.isSome_iff_exists.1 htext
        exact Glob.matches_end hstar (Text.stripEnd?_eq_some.1 hr)
      · next hleft hright =>
        have hcmp : flt.comparison = .like := by
          cases hc : flt.comparison <;> simp_all [Comparison.isLike]
        rw [hcmp] at htext
        obtain ⟨⟨a, b⟩, hr⟩ := Option.isSome_iff_exists.1 htext
        exact Glob.matches_inside hstar (Text.cut?_eq_some hr)

end Plan
end SlotSql
