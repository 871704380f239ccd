import ComponentLoader.Import.Statement
import ComponentLoader.Proofs.Chain.Request
import ComponentLoader.Proofs.Text.Words

namespace ComponentLoader
open Request (isBindingChar)

abbrev Spacing := { t : Text // ∀ c ∈ t, c = ' ' ∨ c = '\t' }

abbrev Gap := { g : Spacing // g.val ≠ [] }

abbrev Identifier := { t : Text // t ≠ [] ∧ ∀ c ∈ t, isBindingChar c = true }

inductive WrittenName where
  | plain (exported : Identifier)
  | aliased (exported : Identifier) (gap₁ gap₂ : Gap) (binding : Identifier)
  | dropped (exported : Identifier) (gap : Gap)

structure WrittenEntry where
  before : Spacing
  name : WrittenName
  behind : Spacing

structure WrittenClause where
  entries : List WrittenEntry
  trailing : Option Spacing

theorem isBlank_of_mem_spacing {s : Spacing} : ∀ c ∈ s.val, isBlank c = true := by
  intro c member
  rcases s.property c member with rfl | rfl <;> decide

theorem Identifier.solid {n : Identifier} : ∀ c ∈ n.val, isBlank c = false := fun c member =>
  Request.not_isBlank_of_isBindingChar (n.property.2 c member)

def IsNameChar (c : Char) : Prop := isBindingChar c = true ∨ c = ' ' ∨ c = '\t'

theorem Identifier.isNameChar {n : Identifier} : ∀ c ∈ n.val, IsNameChar c := fun c member =>
  .inl (n.property.2 c member)

theorem Spacing.isNameChar {s : Spacing} : ∀ c ∈ s.val, IsNameChar c := fun c member =>
  .inr (s.property c member)

namespace WrittenName

def as_ : Text := ['a', 's']

def text : WrittenName → Text
  | plain n => n.val
  | aliased n gap₁ gap₂ m => n.val ++ gap₁.val ++ as_ ++ gap₂.val ++ m.val
  | dropped n gap => n.val ++ gap.val ++ as_

def value : WrittenName → ImportedName
  | plain n => ⟨n.val, n.val⟩
  | aliased n _ _ m => ⟨n.val, m.val⟩
  | dropped n _ => ⟨n.val, []⟩

theorem as_solid : ∀ c ∈ as_, isBlank c = false := Text.forall_of_all (by decide)

theorem as_binds : ∀ c ∈ as_, isBindingChar c = true := Text.forall_of_all (by decide)

theorem as_isNameChar : ∀ c ∈ as_, IsNameChar c := fun c member =>
  .inl (as_binds c member)

theorem isNameChar_of_mem_text {name : WrittenName} : ∀ c ∈ name.text, IsNameChar c := by
  cases name with
  | plain n => exact n.isNameChar
  | aliased n gap₁ gap₂ m =>
    simp only [text, List.forall_mem_append]
    exact ⟨⟨⟨⟨n.isNameChar, gap₁.val.isNameChar⟩, as_isNameChar⟩, gap₂.val.isNameChar⟩,
      m.isNameChar⟩
  | dropped n gap =>
    simp only [text, List.forall_mem_append]
    exact ⟨⟨n.isNameChar, gap.val.isNameChar⟩, as_isNameChar⟩

theorem text_ends {name : WrittenName} : Text.Ends (fun c => isBlank c = false) name.text := by
  cases name with
  | plain n => exact Text.ends_of_forall n.solid
  | aliased n gap₁ gap₂ m =>
    have ends := Text.ends_append (b := gap₁.val ++ as_ ++ gap₂.val) n.property.1 m.property.1
      n.solid m.solid
    simpa only [text, List.append_assoc] using ends
  | dropped n gap => exact Text.ends_append n.property.1 (by decide) n.solid as_solid

theorem text_ne_nil {name : WrittenName} : name.text ≠ [] := by
  cases name with
  | plain n => exact n.property.1
  | aliased n gap₁ gap₂ m => simp [text, n.property.1]
  | dropped n gap => simp [text, n.property.1]

theorem stop_of_gap (gap : Gap) (s : Text) :
    ∀ x ∈ (gap.val.val ++ s).head?, isBlank x = true := by
  intro x member
  rw [List.head?_append_of_ne_nil _ gap.property] at member
  exact isBlank_of_mem_spacing x (List.mem_of_mem_head? member)

theorem words_identifier (n : Identifier) : Text.words n.val = [n.val] := by
  have single := Text.words_append (s := []) n.property.1 n.solid (by simp)
  rwa [List.append_nil, Text.words_nil] at single

theorem words_behind_gap {w : Text} (some_ : w ≠ []) (solid : ∀ c ∈ w, isBlank c = false)
    (gap : Gap) (s : Text) : Text.words (w ++ (gap.val.val ++ s)) = w :: Text.words s := by
  rw [Text.words_append some_ solid (stop_of_gap gap s),
    Text.words_append_of_blank isBlank_of_mem_spacing]

theorem parse_text (name : WrittenName) : ImportedName.parse name.text = name.value := by
  unfold ImportedName.parse
  cases name with
  | plain n => rw [text, words_identifier]; rfl
  | aliased n gap₁ gap₂ m =>
    have read : Text.words (aliased n gap₁ gap₂ m).text = [n.val, as_, m.val] := by
      simp only [text, List.append_assoc]
      rw [words_behind_gap n.property.1 n.solid, words_behind_gap (by decide) as_solid,
        words_identifier]
    rw [read]
    rfl
  | dropped n gap =>
    have last : Text.words as_ = [as_] := words_identifier ⟨as_, by decide, as_binds⟩
    rw [text, List.append_assoc, words_behind_gap n.property.1 n.solid, last]
    rfl

end WrittenName

namespace WrittenEntry

def text (entry : WrittenEntry) : Text := entry.before ++ entry.name.text ++ entry.behind

theorem trim_text (entry : WrittenEntry) : Text.trim entry.text = entry.name.text :=
  Text.trim_append isBlank_of_mem_spacing WrittenName.text_ends isBlank_of_mem_spacing

theorem isNameChar_of_mem_text {entry : WrittenEntry} : ∀ c ∈ entry.text, IsNameChar c := by
  simp only [text, List.forall_mem_append]
  exact ⟨⟨entry.before.isNameChar, WrittenName.isNameChar_of_mem_text⟩, entry.behind.isNameChar⟩

end WrittenEntry

namespace WrittenClause

def parts (clause : WrittenClause) : List Text :=
  clause.entries.map WrittenEntry.text ++ clause.trailing.toList.map Subtype.val

def text (clause : WrittenClause) : Text := Text.join [','] clause.parts

def names (clause : WrittenClause) : List ImportedName := clause.entries.map fun e => e.name.value

theorem isNameChar_of_mem_parts {clause : WrittenClause} :
    ∀ t ∈ clause.parts, ∀ c ∈ t, IsNameChar c := by
  intro t member
  rcases List.mem_append.1 member with entry | spacing
  · obtain ⟨e, -, rfl⟩ := List.mem_map.1 entry
    exact WrittenEntry.isNameChar_of_mem_text
  · obtain ⟨s, -, rfl⟩ := List.mem_map.1 spacing
    exact Spacing.isNameChar

theorem isNameChar_of_mem_text {clause : WrittenClause} :
    ∀ c ∈ clause.text, c = ',' ∨ IsNameChar c := by
  intro c member
  rcases Text.mem_join member with comma | ⟨t, part, inside⟩
  · exact .inl (List.mem_singleton.1 comma)
  · exact .inr (isNameChar_of_mem_parts t part c inside)

theorem read_parts (clause : WrittenClause) :
    ((clause.parts.map Text.trim).filter fun e => !e.isEmpty).map ImportedName.parse =
      clause.names := by
  have entries : (clause.entries.map WrittenEntry.text).map Text.trim =
      clause.entries.map fun e => e.name.text := by
    rw [List.map_map]
    exact List.map_congr_left fun e _ => e.trim_text
  have trailing : (clause.trailing.toList.map Subtype.val).map Text.trim =
      clause.trailing.toList.map fun _ => [] := by
    rw [List.map_map]
    exact List.map_congr_left fun s _ => Text.trim_of_blank isBlank_of_mem_spacing
  have kept : (clause.entries.map fun e => e.name.text).filter (fun t => !t.isEmpty) =
      clause.entries.map fun e => e.name.text := by
    refine List.filter_eq_self.2 fun t member => ?_
    obtain ⟨e, -, rfl⟩ := List.mem_map.1 member
    simp [WrittenName.text_ne_nil]
  have left : (clause.trailing.toList.map fun _ : Spacing => ([] : Text)).filter
      (fun t => !t.isEmpty) = [] := by
    simp
  rw [parts, List.map_append, entries, trailing, List.filter_append, kept, left, List.append_nil,
    List.map_map]
  exact List.map_congr_left fun e _ => e.name.parse_text

-- Empty parts come from a trailing comma, and from a group without names.
theorem parseAll_text (clause : WrittenClause) :
    ImportedName.parseAll clause.text = clause.names := by
  by_cases none_ : clause.parts = []
  · rw [← clause.read_parts, ImportedName.parseAll, text, none_]
    rfl
  · have comma : ∀ t ∈ clause.parts, ',' ∉ t := by
      intro t part inside
      have name := isNameChar_of_mem_parts t part ',' inside
      revert name
      unfold IsNameChar
      decide
    rw [ImportedName.parseAll, text, Text.splitOn_join_of_not_mem none_ comma, read_parts]

end WrittenClause
end ComponentLoader
