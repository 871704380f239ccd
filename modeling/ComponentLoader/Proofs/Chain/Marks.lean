import ComponentLoader.Proofs.Chain.Fitting
import ComponentLoader.Proofs.Chain.Masking

namespace ComponentLoader
namespace Injection

structure Clean (i : Injection) : Prop where
  stage : Unmarked i.stage
  postCompile : ∀ post, i.postCompile = some post → Unmarked post
  theme : ∀ theme, i.theme = some theme →
    ∀ entry ∈ theme.entries, Unmarked entry.1 ∧ Unmarked entry.2

theorem unmarked_append_cons {a b : Text} {x : Char} (apart : x ∉ mark) :
    Unmarked (a ++ x :: b) ↔ Unmarked a ∧ Unmarked b := by
  rw [Unmarked, Text.infix_append_cons apart, not_or]
  rfl

theorem unmarked_cons {b : Text} {x : Char} (apart : x ∉ mark) :
    Unmarked (x :: b) ↔ Unmarked b := by
  have nothing : Unmarked [] := unmarked_of_not_mem List.not_mem_nil
  have both := unmarked_append_cons (a := []) (b := b) apart
  rw [List.nil_append] at both
  rw [both]
  exact and_iff_right nothing

theorem unmarked_of_part {s t : Text} (part : s <:+: t) (unmarked : Unmarked t) : Unmarked s :=
  fun found => unmarked (found.trans part)

theorem escape_cases (c : Char) :
    Json.escape c = [c] ∨ Json.escape c ≠ [] ∧ Text.Apart (Json.escape c) mark := by
  have hex : ∀ n < 16, Json.hexDigit n ∉ mark := by decide
  unfold Json.escape
  split_ifs with _ _ _ _ _ _ _ control
  iterate 7 exact .inr ⟨by simp, Text.apart_of_any (by decide)⟩
  · have high := hex (c.toNat / 16) (by omega)
    have low := hex (c.toNat % 16) (by omega)
    refine .inr ⟨by simp, ?_⟩
    have written : Text.Apart ['\\', 'u', '0', '0'] mark := Text.apart_of_any (by decide)
    simp only [Text.apart_cons] at written ⊢
    exact ⟨written.1, written.2.1, written.2.2.1, written.2.2.2.1, high, low, Text.apart_nil⟩
  · exact .inl rfl

theorem unmarked_quote {s : Text} (unmarked : Unmarked s) : Unmarked (Json.quote s) := by
  have escaped : Unmarked (s.flatMap Json.escape) := by
    intro found
    refine unmarked ?_
    rw [← List.map_id mark]
    refine Text.infix_flatMap (fun c => ?_) found
    rcases escape_cases c with same | other
    · exact .inl ⟨c, rfl, same⟩
    · exact .inr other
  rw [Json.quote, List.cons_append, unmarked_cons (by decide), unmarked_append_cons (by decide)]
  exact ⟨escaped, unmarked_of_not_mem List.not_mem_nil⟩

theorem unmarked_renderMembers {entries : List (Text × Text)}
    (unmarked : ∀ entry ∈ entries, Unmarked entry.1 ∧ Unmarked entry.2) :
    Unmarked (Json.renderMembers (entries.map fun (name, value) => (name, .string value))) := by
  induction entries with
  | nil => exact unmarked_of_not_mem List.not_mem_nil
  | cons entry entries ih =>
    obtain ⟨name, value⟩ := entry
    have first := unmarked (name, value) (by simp)
    have later := ih fun entry member => unmarked entry (List.mem_cons_of_mem _ member)
    cases entries with
    | nil =>
      rw [List.map_cons, List.map_nil, Json.renderMembers, Json.render,
        unmarked_append_cons (by decide)]
      exact ⟨unmarked_quote first.1, unmarked_quote first.2⟩
    | cons next entries =>
      rw [List.map_cons] at later
      rw [List.map_cons, List.map_cons, Json.renderMembers, Json.render, List.append_assoc,
        List.cons_append, unmarked_append_cons (by decide), unmarked_append_cons (by decide)]
      exact ⟨unmarked_quote first.1, unmarked_quote first.2, later⟩

theorem unmarked_object {members : List (Text × Json)}
    (unmarked : Unmarked (Json.renderMembers members)) : Unmarked (Json.object members).render := by
  rw [Json.render, List.cons_append, unmarked_cons (by decide), unmarked_append_cons (by decide)]
  exact ⟨unmarked, unmarked_of_not_mem List.not_mem_nil⟩

theorem unmarked_themeQuery {theme : ThemeVariables} (sourceMap : Bool)
    (unmarked : ∀ entry ∈ theme.entries, Unmarked entry.1 ∧ Unmarked entry.2) :
    Unmarked (Chain.themeQuery theme sourceMap).render := by
  have plain : ∀ {t : Text}, '_' ∉ t → Unmarked (Json.quote t) :=
    fun absent => unmarked_quote (unmarked_of_not_mem absent)
  have inner := unmarked_object (unmarked_renderMembers unmarked)
  refine unmarked_object ?_
  cases sourceMap with
  | true =>
    rw [if_pos rfl, Json.renderMembers, Json.renderMembers, List.append_assoc, List.cons_append,
      unmarked_append_cons (by decide), unmarked_append_cons (by decide),
      unmarked_append_cons (by decide)]
    exact ⟨plain (by decide), inner, plain (by decide), unmarked_of_not_mem (by decide)⟩
  | false =>
    rw [if_neg (by decide), Json.renderMembers, unmarked_append_cons (by decide)]
    exact ⟨plain (by decide), inner⟩

theorem unmarked_themedSegment {theme : ThemeVariables} {s : Segment}
    (entries : ∀ entry ∈ theme.entries, Unmarked entry.1 ∧ Unmarked entry.2)
    (unmarked : Unmarked s) : Unmarked (Chain.themedSegment theme s) := by
  unfold Chain.themedSegment
  rw [unmarked_append_cons (by decide)]
  refine ⟨unmarked_of_part (List.takeWhile_prefix _).isInfix unmarked, fun found => ?_⟩
  refine unmarked_themeQuery (Text.contains "sourceMap".toList s) entries ?_
  rw [← List.map_id mark]
  rw [← List.flatMap_pure_eq_map] at found
  refine Text.infix_flatMap (fun c => ?_) found
  by_cases quote : c = '"'
  · exact .inr (by simp [quote, mark])
  · exact .inl ⟨c, by simp [quote]⟩

theorem unmarked_extend {i : Injection} (clean : i.Clean) {chain : Text}
    (unmarked : Unmarked chain) : Unmarked (i.extend chain) := by
  rw [extend_eq, Chain.render]
  refine Text.not_infix_join (by decide) (by decide) fun s member => ?_
  have original : ∀ t ∈ (Chain.parse chain).segments, Unmarked t := fun t here =>
    unmarked_of_part (Text.infix_of_mem_splitOn here) unmarked
  rcases mem_extendChain member with here | rfl | post | ⟨theme, given, t, here, -, rfl⟩
  · exact original s here
  · exact clean.stage
  · exact clean.postCompile s post
  · apply unmarked_themedSegment (clean.theme theme given)
    rcases here with here | rfl
    · exact original t here
    · exact clean.stage

end Injection
end ComponentLoader
