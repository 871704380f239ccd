import ComponentLoader.Proofs.OrderedMap
import ComponentLoader.Proofs.Stylesheet.Rules
import ComponentLoader.Proofs.Text.Words

namespace ComponentLoader
namespace Stylesheet

structure FlatRule where
  selector : Text
  property : Text
  value : Text
  deriving DecidableEq

namespace FlatRule

def text (r : FlatRule) : Text :=
  r.selector ++ '\x7b' :: (r.property ++ ':' :: r.value ++ ['\x7d'])

def IsPlainChar (c : Char) : Prop := c ≠ '\x7b' ∧ c ≠ '\x7d' ∧ c ≠ ':' ∧ isBlank c = false

instance (c : Char) : Decidable (IsPlainChar c) := inferInstanceAs (Decidable (_ ∧ _ ∧ _ ∧ _))

structure Plain (r : FlatRule) : Prop where
  selector : ∀ c ∈ r.selector, IsPlainChar c
  property : ∀ c ∈ r.property, IsPlainChar c
  value : ∀ c ∈ r.value, IsPlainChar c

end FlatRule

def sheet (rules : List FlatRule) : Text := (rules.map FlatRule.text).flatten

-- The values that the rules give to a property for a selector, in their order. The last one holds.
def declared (rules : List FlatRule) (selector property : Text) : List Text :=
  (rules.filter fun r => r.selector = selector ∧ r.property = property).map FlatRule.value

-- Of the values of a list none comes up for the first time behind the first place of this one.
def IsNewest (value : Text) (values : List Text) : Prop :=
  value ∈ values ∧ ∀ other ∈ values, values.idxOf other ≤ values.idxOf value

instance (value : Text) (values : List Text) : Decidable (IsNewest value values) :=
  inferInstanceAs (Decidable (_ ∧ _))

theorem getLast?_eraseDups {values : List Text} {v : Text} :
    values.eraseDups.getLast? = some v ↔ IsNewest v values := by
  induction values using List.reverseRecOn with
  | nil => simp [IsNewest]
  | append_singleton values a ih =>
    have place : ∀ w ∈ values, (values ++ [a]).idxOf w = values.idxOf w :=
      fun w => List.idxOf_append_of_mem
    rw [eraseDups_concat]
    by_cases old : a ∈ values
    · have same : ∀ w, w ∈ values ++ [a] ↔ w ∈ values := by
        intro w
        rw [List.mem_append, List.mem_singleton, or_iff_left_iff_imp]
        rintro rfl
        exact old
      rw [if_pos old, List.append_nil, ih, IsNewest, IsNewest, same]
      refine and_congr_right fun member => forall_congr' fun w => ?_
      rw [same]
      exact imp_congr_right fun inside => by rw [place w inside, place v member]
    · have last : (values ++ [a]).idxOf a = values.length := by
        rw [List.idxOf_append_of_notMem old, List.idxOf_cons_self, Nat.add_zero]
      rw [if_neg old, List.getLast?_concat, Option.some.injEq]
      constructor
      · rintro rfl
        refine ⟨by simp, fun w member => ?_⟩
        rw [last]
        rcases List.mem_append.1 member with inside | single
        · rw [place w inside]
          exact (List.idxOf_lt_length_of_mem inside).le
        · rw [List.mem_singleton.1 single, last]
      · rintro ⟨member, first⟩
        rcases List.mem_append.1 member with inside | single
        · have behind := first a (by simp)
          rw [last, place v inside] at behind
          exact absurd (List.idxOf_lt_length_of_mem inside) (Nat.not_lt.2 behind)
        · exact (List.mem_singleton.1 single).symm

theorem declared_append (rules others : List FlatRule) (selector property : Text) :
    declared (rules ++ others) selector property =
      declared rules selector property ++ declared others selector property := by
  unfold declared
  rw [List.filter_append, List.map_append]

theorem mem_declared_iff {rules : List FlatRule} {r : FlatRule} :
    r.value ∈ declared rules r.selector r.property ↔ r ∈ rules := by
  unfold declared
  rw [List.mem_map]
  constructor
  · rintro ⟨other, member, value⟩
    obtain ⟨inside, named⟩ := List.mem_filter.1 member
    obtain ⟨selector, property⟩ := of_decide_eq_true named
    cases other
    cases r
    cases value
    cases selector
    cases property
    exact inside
  · intro member
    exact ⟨r, List.mem_filter.2 ⟨member, by simp⟩, rfl⟩

theorem declared_eraseDups (rules : List FlatRule) (selector property : Text) :
    declared rules.eraseDups selector property = (declared rules selector property).eraseDups := by
  induction rules using List.reverseRecOn with
  | nil => rfl
  | append_singleton rules r ih =>
    rw [eraseDups_concat, declared_append, declared_append, ih]
    by_cases named : r.selector = selector ∧ r.property = property
    · obtain ⟨rfl, rfl⟩ := named
      have single : declared [r] r.selector r.property = [r.value] := by simp [declared]
      rw [single, eraseDups_concat, if_congr mem_declared_iff rfl rfl]
      split
      · rfl
      · rw [single]
    · have none_ : declared [r] selector property = [] := by simp [declared, named]
      rw [none_, List.append_nil]
      split
      · exact List.append_nil _
      · rw [none_, List.append_nil]

namespace FlatRule

theorem Plain.isRule {r : FlatRule} (plain : r.Plain) : IsRule some r.text := by
  refine ⟨r.selector, r.property ++ ':' :: r.value, _, _, rfl, rfl, ?_, ?_, rfl, ?_⟩
  · exact fun member => (plain.selector _ member).1 rfl
  · exact fun member => (plain.selector _ member).2.1 rfl
  · have opens : '\x7b' ∉ r.property ++ ':' :: r.value := by
      simp only [List.mem_append, List.mem_cons, not_or]
      exact ⟨fun member => (plain.property _ member).1 rfl, by decide,
        fun member => (plain.value _ member).1 rfl⟩
    have closes : '\x7d' ∉ r.property ++ ':' :: r.value := by
      simp only [List.mem_append, List.mem_cons, not_or]
      exact ⟨fun member => (plain.property _ member).2.1 rfl, by decide,
        fun member => (plain.value _ member).2.1 rfl⟩
    refine ⟨by rw [List.count_eq_zero.2 opens, List.count_eq_zero.2 closes], fun p part => ?_⟩
    rw [List.count_eq_zero.2 fun member => closes (part.subset member)]
    exact Nat.zero_le _

theorem Plain.trim {r : FlatRule} (plain : r.Plain) : Text.trim r.text = r.text := by
  have ends : Text.Ends (fun c => isBlank c = false) r.text := by
    constructor
    · intro c first
      unfold text at first
      cases front : r.selector with
      | nil =>
        rw [front] at first
        cases first
        decide
      | cons x selector =>
        rw [front] at first
        cases first
        exact (plain.selector c (by simp [front])).2.2.2
    · intro c last
      unfold text at last
      rw [← List.cons_append, ← List.append_assoc, List.getLast?_concat] at last
      cases last
      decide
  have whole := Text.trim_append (a := []) (b := []) (by simp) ends (by simp)
  simpa using whole

theorem Plain.eq {r other : FlatRule} (left : r.Plain) (right : other.Plain)
    (same : r.text = other.text) : r = other := by
  obtain ⟨selector, body⟩ := Text.append_cons_inj (fun member => (left.selector _ member).1 rfl)
    (fun member => (right.selector _ member).1 rfl) same
  rw [List.append_assoc, List.append_assoc] at body
  obtain ⟨property, value⟩ := Text.append_cons_inj
    (fun member => (left.property _ member).2.2.1 rfl)
    (fun member => (right.property _ member).2.2.1 rfl) body
  have behind := List.append_cancel_right value
  cases r
  cases other
  cases selector
  cases property
  cases behind
  rfl

end FlatRule

theorem cut_sheet {rules : List FlatRule} (plain : ∀ r ∈ rules, r.Plain) :
    Cut 0 (sheet rules) (rules.map FlatRule.text) [] :=
  cut_of_rules (List.forall_mem_map.2 fun r member => (plain r member).isRule)

theorem sheet_injective {rules others : List FlatRule} (left : ∀ r ∈ rules, r.Plain)
    (right : ∀ r ∈ others, r.Plain) (same : sheet rules = sheet others) : rules = others := by
  obtain ⟨texts, -⟩ := (cut_sheet right).unique (same ▸ cut_sheet left)
  clear same
  induction rules generalizing others with
  | nil => exact (List.map_eq_nil_iff.1 texts.symm).symm
  | cons r rules ih =>
    cases others with
    | nil => cases texts
    | cons other others =>
      rw [List.forall_mem_cons] at left right
      obtain ⟨first, later⟩ := List.cons.inj texts
      rw [left.1.eq right.1 first, ih left.2 right.2 later]

theorem dedupe_sheet {rules : List FlatRule} (plain : ∀ r ∈ rules, r.Plain) :
    dedupe (sheet rules) = sheet rules.eraseDups := by
  rw [dedupe_of_cut (cut_sheet plain), List.append_nil, sheet]
  congr 1
  induction rules using List.reverseRecOn with
  | nil => rfl
  | append_singleton rules r ih =>
    rw [List.forall_mem_append] at plain
    have own := plain.2 r (by simp)
    have seen : Text.trim r.text ∈ (rules.map FlatRule.text).map Text.trim ↔ r ∈ rules := by
      rw [own.trim, List.map_map, List.mem_map]
      constructor
      · rintro ⟨other, member, same⟩
        have named := plain.1 other member
        rw [Function.comp, named.trim] at same
        exact named.eq own same ▸ member
      · exact fun member => ⟨r, member, own.trim⟩
    rw [List.map_append, List.map_singleton, novel_concat, ih plain.1, eraseDups_concat,
      List.map_append, if_congr seen rfl rfl]
    split
    · rfl
    · rfl

-- Without the blocks that repeat an earlier one, the value that was new last holds. It is the one
-- that held before just where no other value came up behind its first place.
theorem declared_dedupe {rules : List FlatRule} (plain : ∀ r ∈ rules, r.Plain) :
    ∃ kept : List FlatRule, (∀ r ∈ kept, r.Plain) ∧ dedupe (sheet rules) = sheet kept ∧
      (∀ others, (∀ r ∈ others, r.Plain) → sheet others = sheet kept → others = kept) ∧
      ∀ selector property,
        let before := declared rules selector property
        let behind := declared kept selector property
        (∀ v, behind.getLast? = some v ↔ IsNewest v before) ∧
          (behind.getLast? = before.getLast? ↔ ∀ v ∈ before.getLast?, IsNewest v before) := by
  have all : ∀ r ∈ rules.eraseDups, r.Plain := fun r member => plain r (List.mem_eraseDups.1 member)
  refine ⟨rules.eraseDups, all, dedupe_sheet plain, fun others right => sheet_injective right all,
    fun selector property => ?_⟩
  intro before behind
  have newest : ∀ v, behind.getLast? = some v ↔ IsNewest v before := by
    intro v
    rw [← getLast?_eraseDups, ← declared_eraseDups]
  refine ⟨newest, fun same v last => ?_, fun holds => ?_⟩
  · rw [← newest, same]
    exact last
  · cases last : before.getLast? with
    | some v => exact (newest v).2 (holds v last)
    | none =>
      rw [List.getLast?_eq_none_iff] at last
      change declared rules selector property = [] at last
      change (declared rules.eraseDups selector property).getLast? = none
      rw [declared_eraseDups, last]
      rfl

theorem declared_dedupe_four_rules :
    let rules : List FlatRule := [⟨['a'], ['x'], ['1']⟩, ⟨['a'], ['y'], ['2']⟩,
      ⟨['a'], ['x'], ['3']⟩, ⟨['a'], ['y'], ['2']⟩]
    (∀ r ∈ rules, r.Plain) ∧
      ∃ kept : List FlatRule, dedupe (sheet rules) = sheet kept ∧
        (declared kept ['a'] ['x']).getLast? = some ['3'] ∧
        (declared kept ['a'] ['y']).getLast? = (declared rules ['a'] ['y']).getLast? := by
  intro rules
  have all : ∀ r ∈ rules, ((r.selector ++ r.property ++ r.value).all
      fun c => decide (FlatRule.IsPlainChar c)) = true := by decide
  have chars := fun r member => Text.forall_of_all (all r member)
  have plain : ∀ r ∈ rules, r.Plain := fun r member =>
    ⟨fun c part => chars r member c (by simp [part]), fun c part => chars r member c (by simp [part]),
      fun c part => chars r member c (by simp [part])⟩
  obtain ⟨kept, -, whole, -, values⟩ := declared_dedupe plain
  refine ⟨plain, kept, whole, ?_, ?_⟩
  · exact ((values ['a'] ['x']).1 ['3']).2 (by decide)
  · exact (values ['a'] ['y']).2.2 (by decide)

theorem repeated_value_lost :
    let rules : List FlatRule := [⟨['a'], ['x'], ['1']⟩, ⟨['a'], ['x'], ['2']⟩, ⟨['a'], ['x'], ['1']⟩]
    let kept : List FlatRule := [⟨['a'], ['x'], ['1']⟩, ⟨['a'], ['x'], ['2']⟩]
    (∀ r ∈ rules, ∀ c ∈ r.selector ++ r.property ++ r.value, c.isAlphanum = true) ∧
      dedupe (sheet rules) = sheet kept ∧
      (declared rules ['a'] ['x']).getLast? = some ['1'] ∧
      (declared kept ['a'] ['x']).getLast? = some ['2'] := by
  intro rules kept
  have all : ∀ r ∈ rules, ((r.selector ++ r.property ++ r.value).all
      fun c => decide (c.isAlphanum = true)) = true := by decide
  exact ⟨fun r member => Text.forall_of_all (all r member), by decide, by decide, by decide⟩

end Stylesheet
end ComponentLoader
