import ComponentLoader.Proofs.Stylesheet.Blocks
import Mathlib.Data.List.Sublists
import Mathlib.Data.List.Flatten

namespace ComponentLoader
namespace Stylesheet

theorem returns_iff {d : Nat} {s : Text} : Returns d s ↔ ∃ t, s = t ++ ['\x7d'] ∧ depth d t = 1 := by
  rcases List.eq_nil_or_concat' s with rfl | ⟨t, c, rfl⟩
  · simp [not_returns_nil]
  · have last : depth d (t ++ [c]) = depthBehind (depth d t) c := depth_append d t [c]
    rw [Returns, last, List.dropLast_concat, depthBehind_eq_zero_iff]
    constructor
    · rintro ⟨rfl, one⟩
      exact ⟨t, rfl, one⟩
    · rintro ⟨u, same, one⟩
      obtain ⟨rfl, single⟩ := List.append_inj' same rfl
      exact ⟨(List.cons.inj single).1, one⟩

theorem returns_append {d : Nat} {g p : Text} (some_ : p ≠ []) :
    Returns d (g ++ p) ↔ Returns (depth d g) p := by
  rw [Returns, Returns, List.dropLast_append_of_ne_nil some_, depth_append, depth_append]

theorem depthBehind_of_text {c : Char} (opens : c ≠ '\x7b') (closes : c ≠ '\x7d') (d : Nat) :
    depthBehind d c = d := by
  rw [depthBehind, if_neg opens, if_neg closes]

theorem le_depth (d : Nat) (s : Text) :
    d + s.count '\x7b' ≤ depth d s + s.count '\x7d' := by
  induction s generalizing d with
  | nil => exact Nat.le_refl _
  | cons c s ih =>
    have later := ih (depthBehind d c)
    change _ ≤ depth (depthBehind d c) s + _
    by_cases opens : c = '\x7b'
    · subst opens
      rw [List.count_cons_self, List.count_cons_of_ne (by decide)]
      change d + 1 + _ ≤ _ at later
      omega
    · by_cases closes : c = '\x7d'
      · subst closes
        rw [List.count_cons_self, List.count_cons_of_ne opens]
        change d - 1 + _ ≤ _ at later
        omega
      · rw [List.count_cons_of_ne opens, List.count_cons_of_ne closes]
        rw [depthBehind_of_text opens closes] at later ⊢
        exact later

theorem depth_of_prefixes {d : Nat} {s : Text}
    (never : ∀ p, p <+: s → p.count '\x7d' ≤ d + p.count '\x7b') :
    depth d s + s.count '\x7d' = d + s.count '\x7b' := by
  induction s using List.reverseRecOn with
  | nil => rfl
  | append_singleton s c ih =>
    have whole := never _ (List.prefix_refl _)
    have before := ih fun p part => never p (part.trans (List.prefix_append s [c]))
    have last : depth d (s ++ [c]) = depthBehind (depth d s) c := depth_append d s [c]
    rw [List.count_append, List.count_append] at whole
    rw [last, List.count_append, List.count_append]
    by_cases opens : c = '\x7b'
    · subst opens
      change depth d s + 1 + (_ + 0) = d + (_ + 1)
      omega
    · by_cases closes : c = '\x7d'
      · subst closes
        change _ + 1 ≤ d + (_ + 0) at whole
        change depth d s - 1 + (_ + 1) = d + (_ + 0)
        omega
      · rw [depthBehind_of_text opens closes, List.count_singleton, List.count_singleton,
          if_neg (by simpa using closes), if_neg (by simpa using opens)]
        exact before

-- Wherever the text stands, the depth does not come back to zero inside of it.
def Firm (r : Text) : Prop := ∀ d p, p <+: r → Returns d p → p = r

theorem firm_of_count {r : Text}
    (inner : ∀ p q, r = p ++ '\x7d' :: q → q ≠ [] → p.count '\x7d' + 1 < p.count '\x7b') :
    Firm r := by
  rintro d p ⟨q, rfl⟩ returns
  obtain ⟨t, rfl, one⟩ := returns_iff.1 returns
  by_contra longer
  have some_ : q ≠ [] := by
    rintro rfl
    simp at longer
  have few := inner t q (by simp) some_
  have bound := le_depth d t
  omega

theorem cut_firm {rules : List Text} (firm : ∀ r ∈ rules, Firm r) (begun : List Text)
    (open_ : ∀ p, p <+: begun.flatten → ¬Returns 0 p) :
    ∃ (groups : List (List Text)) (last : List Text), begun ++ rules = groups.flatten ++ last ∧
      Cut 0 (begun ++ rules).flatten (groups.map List.flatten) last.flatten := by
  induction rules generalizing begun with
  | nil =>
    rw [List.append_nil]
    exact ⟨[], begun, rfl, .rest open_⟩
  | cons r rules ih =>
    rw [List.forall_mem_cons] at firm
    have spelled : begun ++ r :: rules = (begun ++ [r]) ++ rules := by simp
    have ends : ∀ p, p <+: (begun ++ [r]).flatten → Returns 0 p → p = (begun ++ [r]).flatten := by
      intro p part returns
      rw [List.flatten_concat] at part ⊢
      rcases List.prefix_or_prefix_of_prefix part (List.prefix_append _ r) with before | ⟨t, rfl⟩
      · exact absurd returns (open_ p before)
      · cases t with
        | nil => exact absurd returns (open_ _ (by rw [List.append_nil]))
        | cons c t =>
          rw [returns_append (List.cons_ne_nil c t)] at returns
          have inside : c :: t <+: r := (List.prefix_append_right_inj _).1 part
          rw [firm.1 _ _ inside returns]
    by_cases returns : Returns 0 (begun ++ [r]).flatten
    · obtain ⟨groups, last, same, cut⟩ := ih firm.2 [] (open_nil 0)
      rw [List.nil_append] at same cut
      refine ⟨(begun ++ [r]) :: groups, last, ?_, ?_⟩
      · rw [spelled, same, List.flatten_cons, List.append_assoc, List.append_assoc,
          List.append_assoc]
      · rw [spelled, List.flatten_append]
        exact .block ⟨returns, ends⟩ cut
    · rw [spelled]
      refine ih firm.2 (begun ++ [r]) fun p part here => returns ?_
      rw [← ends p part here]
      exact here

def Nested (s : Text) : Prop :=
  s.count '\x7b' = s.count '\x7d' ∧ ∀ p, p <+: s → p.count '\x7d' ≤ p.count '\x7b'

instance (s : Text) : Decidable (Nested s) :=
  decidable_of_iff (s.count '\x7b' = s.count '\x7d' ∧
    ∀ p ∈ s.inits, p.count '\x7d' ≤ p.count '\x7b') (by simp only [Nested, List.mem_inits])

def IsRule (view : Text → Option Text) (r : Text) : Prop :=
  ∃ selector body shown inside, r = selector ++ '\x7b' :: (body ++ ['\x7d']) ∧
    view selector = some shown ∧ '\x7b' ∉ shown ∧ '\x7d' ∉ shown ∧
    view body = some inside ∧ Nested inside

theorem IsRule.returns {r : Text} (rule : IsRule some r) : Returns 0 r := by
  obtain ⟨selector, body, shown, inside, rfl, whole, opens, closes, same, total, nested⟩ := rule
  cases whole
  cases same
  have before : depth 0 selector = 0 := by
    have never : ∀ p, p <+: selector → p.count '\x7d' ≤ 0 + p.count '\x7b' := by
      intro p part
      rw [List.count_eq_zero.2 fun member => closes (part.subset member)]
      exact Nat.zero_le _
    have same := depth_of_prefixes never
    rw [List.count_eq_zero.2 opens, List.count_eq_zero.2 closes] at same
    exact same
  have within : depth 1 body = 1 := by
    have same := depth_of_prefixes (d := 1) fun p part => (nested p part).trans (Nat.le_add_left _ 1)
    omega
  refine returns_iff.2 ⟨selector ++ '\x7b' :: body, by simp, ?_⟩
  rw [depth_append, before]
  exact within

theorem IsRule.firm {r : Text} (rule : IsRule some r) : Firm r := by
  obtain ⟨selector, body, shown, inside, rfl, whole, -, closes, same, -, nested⟩ := rule
  cases whole
  cases same
  refine firm_of_count fun p q spelled some_ => ?_
  obtain ⟨q, x, rfl⟩ := (List.eq_nil_or_concat' q).resolve_left some_
  have front : selector ++ '\x7b' :: body = p ++ '\x7d' :: q := by
    rw [← List.cons_append, ← List.append_assoc, ← List.cons_append, ← List.append_assoc] at spelled
    exact (List.append_inj' spelled rfl).1
  rcases List.append_eq_append_iff.1 front with ⟨t, rfl, behind⟩ | ⟨t, rfl, behind⟩
  · cases t with
    | nil => simp at behind
    | cons y t =>
      obtain ⟨rfl, rfl⟩ := List.cons.inj behind
      have few := nested (t ++ ['\x7d']) ⟨q, by simp⟩
      rw [List.count_append, List.count_append] at few
      change _ + 1 ≤ _ + 0 at few
      rw [List.count_append, List.count_append, List.count_eq_zero.2 closes, List.count_cons_self,
        List.count_cons_of_ne (by decide)]
      omega
  · cases t with
    | nil => simp at behind
    | cons y t =>
      obtain ⟨rfl, -⟩ := List.cons.inj behind
      exact absurd (by simp) closes

theorem IsRule.block {r : Text} (rule : IsRule some r) : IsBlock 0 r :=
  ⟨rule.returns, rule.firm 0⟩

-- Rules in which every brace counts are the blocks of their stylesheet.
theorem cut_of_rules {rules : List Text} (all : ∀ r ∈ rules, IsRule some r) :
    Cut 0 rules.flatten rules [] := by
  refine cut_iff.2 ⟨fun r member => (all r member).block, open_nil 0, ?_⟩
  rw [List.append_nil]

inductive Place where
  | code
  | string
  | comment

def bare : Place → Text → Option Text
  | .code, [] => some []
  | _, [] => none
  | .code, '"' :: s => bare .string s
  | .code, '/' :: '*' :: s => bare .comment s
  | .code, c :: s => (bare .code s).map (c :: ·)
  | .string, '\\' :: _ :: s => bare .string s
  | .string, '"' :: s => bare .code s
  | .string, _ :: s => bare .string s
  | .comment, '*' :: '/' :: s => bare .code s
  | .comment, _ :: s => bare .comment s

-- No rule is torn where none comes to an end before its last character, in strings and comments
-- neither: what stays is some of the rules, in their order.
theorem dedupe_rules {rules : List Text} (firm : ∀ r ∈ rules, Firm r) :
    ∃ kept, List.Sublist kept rules ∧ dedupe rules.flatten = kept.flatten := by
  obtain ⟨groups, last, whole, cut⟩ := cut_firm firm [] (open_nil 0)
  rw [List.nil_append] at whole cut
  obtain ⟨left, part, same⟩ := List.sublist_map_iff.1 (novel_sublist (groups.map List.flatten))
  refine ⟨left.flatten ++ last, ?_, ?_⟩
  · rw [whole]
    exact part.flatten.append (List.Sublist.refl _)
  · rw [dedupe_of_cut cut, same, List.flatten_append, List.flatten_flatten]

theorem dedupe_rules_quoted_braces :
    let rules := [".a\x7bcolor:red\x7d".toList, ".b:after\x7bcontent:\"\x7b\x7d\"\x7d".toList,
      ".a\x7bcolor:red\x7d".toList]
    (∀ r ∈ rules, IsRule (bare .code) r) ∧ (∀ r ∈ rules, Firm r) ∧
      ∃ kept, List.Sublist kept rules ∧ dedupe rules.flatten = kept.flatten := by
  intro rules
  have first : IsRule (bare .code) ".a\x7bcolor:red\x7d".toList := ⟨".a".toList, "color:red".toList,
    ".a".toList, "color:red".toList, by decide, by decide, by decide, by decide, by decide, by decide⟩
  have second : IsRule (bare .code) ".b:after\x7bcontent:\"\x7b\x7d\"\x7d".toList :=
    ⟨".b:after".toList, "content:\"\x7b\x7d\"".toList, ".b:after".toList, "content:".toList,
      by decide, by decide, by decide, by decide, by decide, by decide⟩
  have whole : IsRule some ".a\x7bcolor:red\x7d".toList := ⟨".a".toList, "color:red".toList, _, _,
    by decide, rfl, by decide, by decide, rfl, by decide⟩
  have balanced : IsRule some ".b:after\x7bcontent:\"\x7b\x7d\"\x7d".toList :=
    ⟨".b:after".toList, "content:\"\x7b\x7d\"".toList, _, _, by decide, rfl, by decide, by decide,
      rfl, by decide⟩
  have firm : ∀ r ∈ rules, Firm r := by
    simp only [rules, List.forall_mem_cons]
    exact ⟨whole.firm, balanced.firm, whole.firm, by simp⟩
  refine ⟨?_, firm, dedupe_rules firm⟩
  simp only [rules, List.forall_mem_cons]
  exact ⟨first, second, first, by simp⟩

-- A text in a string that looks like an earlier rule is taken out of the string.
theorem string_torn :
    let rules := [".a\x7bcolor:red\x7d".toList,
      ".b:after\x7bcontent:\"\x7d.a\x7bcolor:red\x7d\"\x7d".toList]
    (∀ r ∈ rules, IsRule (bare .code) r) ∧
      dedupe rules.flatten = ".a\x7bcolor:red\x7d.b:after\x7bcontent:\"\x7d\"\x7d".toList ∧
      ¬∃ kept, List.Sublist kept rules ∧ dedupe rules.flatten = kept.flatten := by
  intro rules
  have first : IsRule (bare .code) ".a\x7bcolor:red\x7d".toList := ⟨".a".toList, "color:red".toList,
    ".a".toList, "color:red".toList, by decide, by decide, by decide, by decide, by decide, by decide⟩
  have second : IsRule (bare .code) ".b:after\x7bcontent:\"\x7d.a\x7bcolor:red\x7d\"\x7d".toList :=
    ⟨".b:after".toList, "content:\"\x7d.a\x7bcolor:red\x7d\"".toList, ".b:after".toList,
      "content:".toList, by decide, by decide, by decide, by decide, by decide, by decide⟩
  refine ⟨?_, by decide, ?_⟩
  · simp only [rules, List.forall_mem_cons]
    exact ⟨first, second, by simp⟩
  · rintro ⟨kept, part, same⟩
    have none_ : ∀ kept ∈ rules.sublists, dedupe rules.flatten ≠ kept.flatten := by decide
    exact none_ kept (List.mem_sublists.2 part) same

end Stylesheet
end ComponentLoader
