import ComponentLoader.Proofs.Chain.Theme

namespace ComponentLoader
namespace Block

instance decidableForall {p : Block → Prop} [DecidablePred p] : Decidable (∀ b, p b) :=
  decidable_of_iff (p .script ∧ p .template ∧ p .style)
    ⟨fun holds b =>
      match b with
      | .script => holds.1
      | .template => holds.2.1
      | .style => holds.2.2,
    fun all => ⟨all .script, all .template, all .style⟩⟩

def tabbed (b : Block) : Text := '\t' :: b.marker.tail

theorem marker_eq : ∀ b : Block, b.marker = 't' :: b.marker.tail := by decide

theorem escape_marker (b : Block) : ∀ c ∈ b.marker, Json.escape c = [c] :=
  Text.forall_of_all (by cases b <;> decide)

end Block

namespace Json

theorem prefix_flatMap_escape_iff {q s : Text} (plain : ∀ c ∈ q, escape c = [c]) :
    q <+: s.flatMap escape ↔ q <+: s := by
  induction q generalizing s with
  | nil => exact iff_of_true List.nil_prefix List.nil_prefix
  | cons c q ih =>
    obtain ⟨first, later⟩ := List.forall_mem_cons.1 plain
    cases s with
    | nil => simp
    | cons d s =>
      by_cases same : d = c
      · rw [same, List.flatMap_cons, first, List.singleton_append, List.cons_prefix_cons,
          List.cons_prefix_cons, ih later]
      · refine iff_of_false (fun found => ?_) fun found => same (List.cons_prefix_cons.1 found).1.symm
        have backslash : c ≠ '\\' := by
          rintro rfl
          revert first
          decide
        rw [List.flatMap_cons] at found
        have shape := escaped d
        generalize escape d = written at shape found
        cases shape with
        | plain => exact same (List.cons_prefix_cons.1 found).1.symm
        | letter => exact backslash (List.cons_prefix_cons.1 found).1
        | code => exact backslash (List.cons_prefix_cons.1 found).1

theorem infix_escape_append_iff {q : Text} (c : Char) (s : Text) :
    't' :: q <:+: escape c ++ s ↔ (c = 't' ∨ c = '\t') ∧ q <+: s ∨ 't' :: q <:+: s := by
  by_cases tab : c = '\t'
  · have written : escape c = ['\\', 't'] := by
      rw [tab]
      decide
    rw [written, List.cons_append, List.singleton_append, List.infix_cons_iff, List.infix_cons_iff,
      List.cons_prefix_cons, List.cons_prefix_cons]
    simp [tab]
  · have shape := escaped c
    generalize escape c = written at shape
    cases shape with
    | plain =>
      rw [List.singleton_append, List.infix_cons_iff, List.cons_prefix_cons]
      simp [tab, eq_comm]
    | @letter e letter meant =>
      have other : 't' ≠ e := by
        rintro rfl
        exact tab (Option.some.inj meant).symm
      have plain : c ≠ 't' := by
        rintro rfl
        exact absurd (mem_of_simpleEscape? meant) (by decide)
      rw [List.cons_append, List.singleton_append, List.infix_cons_iff, List.infix_cons_iff,
        List.cons_prefix_cons, List.cons_prefix_cons]
      simp [tab, other, plain]
    | code small =>
      have hex : ∀ n < 16, 't' ≠ hexDigit n := by decide
      have high := hex (c.toNat / 16) (by omega)
      have low := hex (c.toNat % 16) (by omega)
      have plain : c ≠ 't' := by
        rintro rfl
        exact absurd small (by decide)
      simp only [List.cons_append, List.nil_append, List.infix_cons_iff, List.cons_prefix_cons]
      simp [tab, high, low, plain]

theorem infix_flatMap_escape_iff {q : Text} (plain : ∀ c ∈ q, escape c = [c]) (s : Text) :
    't' :: q <:+: s.flatMap escape ↔ 't' :: q <:+: s ∨ '\t' :: q <:+: s := by
  induction s with
  | nil => simp
  | cons c s ih =>
    rw [List.flatMap_cons, infix_escape_append_iff, ih, prefix_flatMap_escape_iff plain,
      List.infix_cons_iff, List.infix_cons_iff, List.cons_prefix_cons, List.cons_prefix_cons,
      or_and_right, eq_comm (a := c), eq_comm (a := c)]
    exact or_or_or_comm

theorem marker_quote_iff (b : Block) (s : Text) :
    b.marker <:+: quote s ↔ b.marker <:+: s ∨ b.tabbed <:+: s := by
  have inner : b.marker <:+: quote s ↔ b.marker <:+: s.flatMap escape := by
    have apart : '"' ∉ b.marker := by cases b <;> decide
    have some_ : b.marker ≠ [] := by cases b <;> decide
    have front := Text.infix_append_cons (a := []) (b := s.flatMap escape ++ ['"']) apart
    have behind := Text.infix_append_cons (a := s.flatMap escape) (b := []) apart
    rw [List.nil_append, behind, List.infix_nil] at front
    rw [quote, List.cons_append, front]
    simp [some_]
  have plain : ∀ c ∈ b.marker.tail, escape c = [c] :=
    fun c member => b.escape_marker c (List.mem_of_mem_tail member)
  have written := infix_flatMap_escape_iff plain s
  rwa [← b.marker_eq, ← Block.tabbed, ← inner] at written

theorem infix_renderMembers_iff {q : Text} (colon : ':' ∉ q) (comma : ',' ∉ q) (some_ : q ≠ [])
    (ms : List (Text × Json)) :
    q <:+: renderMembers ms ↔ ∃ m ∈ ms, q <:+: quote m.1 ∨ q <:+: m.2.render := by
  induction ms with
  | nil => simp [renderMembers, some_]
  | cons m ms ih =>
    obtain ⟨k, v⟩ := m
    cases ms with
    | nil =>
      rw [renderMembers, Text.infix_append_cons colon]
      simp
    | cons next ms =>
      rw [renderMembers, Text.infix_append_cons comma, Text.infix_append_cons colon, ih,
        List.exists_mem_cons_iff (a := (k, v))]

theorem infix_object_iff {q : Text} (apart : Text.Apart ['\x7b', '\x7d', ':', ','] q) (some_ : q ≠ [])
    (ms : List (Text × Json)) :
    q <:+: (object ms).render ↔ ∃ m ∈ ms, q <:+: quote m.1 ∨ q <:+: m.2.render := by
  simp only [Text.apart_cons] at apart
  obtain ⟨opening, closing, colon, comma, -⟩ := apart
  have front := Text.infix_append_cons (a := []) (b := renderMembers ms ++ ['\x7d']) opening
  have behind := Text.infix_append_cons (a := renderMembers ms) (b := []) closing
  rw [List.nil_append, behind, List.infix_nil, infix_renderMembers_iff colon comma some_] at front
  rw [render, List.cons_append, front]
  simp [some_]

end Json

namespace ThemeVariables

def Spells (theme : ThemeVariables) (b : Block) : Prop :=
  ∃ entry ∈ theme.entries, b.tabbed <:+: entry.1 ∨ b.tabbed <:+: entry.2

end ThemeVariables

namespace Chain

theorem marker_themeQuery_iff {theme : ThemeVariables} {b : Block}
    (unmarked : ∀ entry ∈ theme.entries, ¬b.marker <:+: entry.1 ∧ ¬b.marker <:+: entry.2)
    (sourceMap : Bool) : b.marker <:+: (themeQuery theme sourceMap).render ↔ theme.Spells b := by
  have apart : Text.Apart ['\x7b', '\x7d', ':', ','] b.marker := by
    cases b <;> exact Text.apart_of_any (by decide)
  have some_ : b.marker ≠ [] := by cases b <;> decide
  have names : ¬b.marker <:+: Json.quote "modifyVars".toList ∧
      ¬b.marker <:+: Json.quote "sourceMap".toList ∧ ¬b.marker <:+: (Json.bool true).render := by
    cases b <;> decide
  have entries : b.marker <:+: (Json.object
      (theme.entries.map fun entry => (entry.1, .string entry.2))).render ↔ theme.Spells b := by
    rw [Json.infix_object_iff apart some_]
    constructor
    · rintro ⟨m, member, inside⟩
      obtain ⟨entry, here, rfl⟩ := List.mem_map.1 member
      obtain ⟨name, value⟩ := unmarked entry here
      rw [Json.render, Json.marker_quote_iff, Json.marker_quote_iff, or_iff_right name,
        or_iff_right value] at inside
      exact ⟨entry, here, inside⟩
    · rintro ⟨entry, here, inside⟩
      refine ⟨_, List.mem_map_of_mem here, ?_⟩
      rw [Json.render, Json.marker_quote_iff, Json.marker_quote_iff]
      exact inside.imp .inr .inr
  refine Iff.trans ?_ entries
  rw [themeQuery, Json.infix_object_iff apart some_]
  cases sourceMap with
  | true => simp only [if_true, List.exists_mem_cons_iff, names, false_or, List.not_mem_nil,
      false_and, exists_false, or_false]
  | false => simp only [Bool.false_eq_true, if_false, List.exists_mem_cons_iff, names, false_or,
      List.not_mem_nil, false_and, exists_false, or_false]

theorem infix_map_quotes_iff {q : Text} (double : '"' ∉ q) (single : '\'' ∉ q) (t : Text) :
    q <:+: t.map (fun c => if c = '"' then '\'' else c) ↔ q <:+: t := by
  constructor
  · intro found
    rw [← List.map_id q]
    rw [← List.flatMap_pure_eq_map] at found
    refine Text.infix_flatMap (fun c => ?_) found
    by_cases quote : c = '"'
    · exact .inr (by simp [quote, single])
    · exact .inl ⟨c, by simp [quote]⟩
  · intro found
    have same : q.map (fun c => if c = '"' then '\'' else c) = q := by
      refine (List.map_congr_left fun c member => if_neg ?_).trans (List.map_id q)
      rintro rfl
      exact double member
    rw [← same]
    exact found.map _

-- A themed segment is one of a block's only by its name or by what the theme spells.
theorem marker_themedSegment_iff {theme : ThemeVariables} {b : Block}
    (unmarked : ∀ entry ∈ theme.entries, ¬b.marker <:+: entry.1 ∧ ¬b.marker <:+: entry.2)
    (s : Segment) :
    b.marker <:+: themedSegment theme s ↔ b.marker <:+: s.stageName ∨ theme.Spells b := by
  have query : '?' ∉ b.marker := by cases b <;> decide
  have double : '"' ∉ b.marker := by cases b <;> decide
  have single : '\'' ∉ b.marker := by cases b <;> decide
  rw [themedSegment, Text.infix_append_cons query, infix_map_quotes_iff double single,
    marker_themeQuery_iff unmarked]

end Chain
end ComponentLoader
