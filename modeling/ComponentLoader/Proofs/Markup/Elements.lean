import ComponentLoader.Proofs.Markup.Compiles
import ComponentLoader.Proofs.Markup.Tag
import ComponentLoader.Proofs.OrderedMap
import ComponentLoader.Proofs.Text.Classes

namespace ComponentLoader
namespace Markup
open Attributes (Written shownName)

structure Element where
  attributes : List Written
  gap : Text
  inner : Option Text

namespace Element

def area (e : Element) : Text := e.attributes.flatMap Written.text ++ e.gap

def text (name : Text) (e : Element) : Text :=
  match e.inner with
  | none => '<' :: name ++ e.area ++ "/>".toList
  | some inner => '<' :: name ++ e.area ++ '>' :: inner ++ Tag.closing name

-- The attributes as they are written, names without their modifier; of a repeated name the first
-- place and the last value.
def tag (e : Element) : Tag where
  attributes :=
    { entries := OrderedMap.settled (e.attributes.map fun a => (shownName a.name, a.value))
      distinct := by
        rw [← OrderedMap.entries_ofList]
        exact (OrderedMap.ofList _).distinct }
  inner := e.inner

structure Valid (name : Text) (e : Element) : Prop where
  attributes : ∀ a ∈ e.attributes, a.Valid
  closed : ∀ a ∈ e.attributes, '>' ∉ a.value
  gap : ∀ c ∈ e.gap, isBlank c = true
  inner : ∀ t ∈ e.inner, ¬Tag.closing name <:+: t

end Element

inductive Part where
  | text (t : Text)
  | element (e : Element)

def Part.render (name : Text) : Part → Text
  | text t => t
  | element e => e.text name

def Part.Valid (name : Text) : Part → Prop
  | text t => Tag.Unopened name t
  | element e => e.Valid name

def render (name : Text) (parts : List Part) : Text := parts.flatMap (Part.render name)

def IsNameChar (c : Char) : Prop := isBlank c = false ∧ c ≠ '<' ∧ c ≠ '>'

theorem isNameChar_of_isWordChar {c : Char} (letter : isWordChar c = true ∨ c = '-') :
    IsNameChar c := by
  rcases letter with letter | rfl
  · refine ⟨?_, ?_, ?_⟩
    · rw [← Bool.not_eq_true]
      intro blank
      rw [isWordChar_of_isBlank blank] at letter
      cases letter
    · rintro rfl
      revert letter
      decide
    · rintro rfl
      revert letter
      decide
  · exact ⟨by decide, by decide, by decide⟩

variable {name : Text}

theorem not_mem_name {x : Char} (named : ∀ c ∈ name, IsNameChar c) (other : ¬IsNameChar x) :
    x ∉ name := fun member => other (named x member)

-- What stands in front of a closing tag does not complete an earlier one.
theorem inert_inner (named : ∀ c ∈ name, IsNameChar c) {inner : Text}
    (absent : ¬Tag.closing name <:+: inner) (r : Text) :
    Text.Inert (Tag.closing name <+: ·) (Tag.closing name ++ r) inner := by
  refine Text.inert_of_suffix fun s part some_ begins => ?_
  rcases List.prefix_or_prefix_of_prefix begins (List.prefix_append s _) with inside | short
  · exact absent (inside.isInfix.trans part.isInfix)
  · obtain ⟨u, whole⟩ := short
    obtain ⟨x, s, rfl⟩ := List.exists_cons_of_ne_nil some_
    have single : '<' ∉ s ++ u := by
      have later : s ++ u = '/' :: name ++ ['>'] := (List.cons.inj whole).2
      rw [later]
      simpa using not_mem_name named fun plain => plain.2.1 rfl
    cases u with
    | nil =>
      rw [List.append_nil] at whole
      exact absent (whole ▸ part.isInfix)
    | cons y u =>
      rw [← whole, List.prefix_append_right_inj, List.cons_append, List.cons_append,
        List.cons_prefix_cons] at begins
      have head : x = '<' := (List.cons.inj whole).1
      exact single (by simp [begins.1, head])

namespace Element

variable {e : Element}

theorem area_front (valid : e.Valid name) : ∀ c ∈ e.area.head?, isBlank c = true := by
  unfold area
  cases attributes : e.attributes with
  | nil =>
    intro c first
    rw [List.flatMap_nil, List.nil_append] at first
    exact valid.gap c (List.mem_of_mem_head? first)
  | cons a as =>
    obtain ⟨apart, blank, -, -, -⟩ := valid.attributes a (by simp [attributes])
    intro c first
    rw [List.flatMap_cons, Written.text, List.append_assoc, List.append_assoc,
      List.head?_append_of_ne_nil _ apart] at first
    exact blank c (List.mem_of_mem_head? first)

theorem area_end (valid : e.Valid name) : e.area.getLast? ≠ some '/' := by
  intro last
  unfold area at last
  by_cases ending : e.gap = []
  · rw [ending, List.append_nil] at last
    rcases List.eq_nil_or_concat e.attributes with none_ | ⟨as, a, split⟩
    · rw [none_] at last
      cases last
    · rw [split] at last
      simp [Written.text, Attributes.written, List.getLast?_append, List.getLast?_cons] at last
  · rw [List.getLast?_append_of_ne_nil _ ending] at last
    have blank := valid.gap _ (List.mem_of_getLast? last)
    revert blank
    decide

theorem not_mem_area (valid : e.Valid name) : '>' ∉ e.area := by
  have solid : isBlank '>' ≠ true := by decide
  have foreign : isAttributeNameChar '>' ≠ true := by decide
  intro member
  rcases List.mem_append.1 member with inside | behind
  · obtain ⟨a, given, inside⟩ := List.mem_flatMap.1 inside
    obtain ⟨-, blank, -, plain, -⟩ := valid.attributes a given
    simp only [Written.text, Attributes.written, List.mem_append, List.mem_cons, List.not_mem_nil,
      or_false, Char.reduceEq, false_or] at inside
    rcases inside with gap | named | value
    · exact solid (blank _ gap)
    · exact foreign (plain _ named)
    · exact valid.closed a given value
  · exact solid (valid.gap _ behind)

theorem isOpeningArea_area (valid : e.Valid name) {mark : Text} (ends : mark = [] ∨ mark = ['/']) :
    Tag.isOpeningArea (e.area ++ mark) = true := by
  have front := area_front valid
  cases whole : e.area with
  | nil => rcases ends with rfl | rfl <;> rfl
  | cons c area =>
    rw [whole] at front
    rw [List.cons_append, Tag.isOpeningArea, front c rfl, Bool.true_or]

theorem parse_area (named : ∀ c ∈ name, IsNameChar c) (valid : e.Valid name) {mark : Text}
    (ends : mark = [] ∨ mark = ['/']) (rest : Text) :
    Attributes.parse ('<' :: name ++ e.area ++ mark ++ '>' :: rest) = e.tag.attributes := by
  have bare : ∀ c ∈ '<' :: name, isBlank c = false := by
    rw [List.forall_mem_cons]
    exact ⟨by decide, fun c member => (named c member).1⟩
  have inside : '>' ∉ '<' :: name ++ (e.area ++ mark) := by
    have absent := not_mem_area valid
    have front : '>' ∉ name := not_mem_name named fun plain => plain.2.2 rfl
    rcases ends with rfl | rfl <;> simp [absent, front]
  have spelled : e.attributes.flatMap Written.text ++ (e.gap ++ mark) = e.area ++ mark := by
    rw [area, List.append_assoc]
  have read := @Attributes.parse_opening _ _ _ rest _ bare valid.attributes valid.gap ends
  rw [spelled] at read
  rw [List.append_assoc ('<' :: name), read inside]
  exact OrderedMap.ext_entries (OrderedMap.entries_ofList _)

theorem scanner_text (named : ∀ c ∈ name, IsNameChar c) (valid : e.Valid name) (rest : Text) :
    Tag.scanner name (e.text name ++ rest) = some (e.tag, rest) := by
  unfold text
  cases inner : e.inner with
  | none =>
    have found := @Tag.scanner_selfClosing name _ rest (isOpeningArea_area valid (.inr rfl))
      (not_mem_area valid)
    have parsed := parse_area named valid (.inr rfl) rest
    have spelled : '<' :: name ++ e.area ++ "/>".toList ++ rest =
        '<' :: name ++ e.area ++ ['/'] ++ '>' :: rest := by
      simp
    dsimp only
    rw [found, spelled, parsed, ← inner]
    rfl
  | some t =>
    have opening := isOpeningArea_area valid (.inl rfl)
    rw [List.append_nil] at opening
    have found := Tag.scanner_paired rest opening (not_mem_area valid) (area_end valid)
      (inert_inner named (valid.inner t inner) rest)
    have parsed := parse_area named valid (.inl rfl) (t ++ Tag.closing name ++ rest)
    rw [List.append_nil] at parsed
    have spelled : '<' :: name ++ e.area ++ '>' :: t ++ Tag.closing name ++ rest =
        '<' :: name ++ e.area ++ '>' :: (t ++ Tag.closing name ++ rest) := by
      simp
    dsimp only
    rw [found, spelled, parsed, ← inner]
    rfl

theorem text_ne_nil : e.text name ≠ [] := by
  unfold text
  cases e.inner <;> simp

end Element

def Part.answer [Monad m] (name : Text) (f : Text → Tag → m Text) : Part → m Text
  | text t => pure t
  | element e => f (e.text name) e.tag

def Part.replaced (name : Text) (f : Text → Tag → Text) : Part → Text
  | text t => t
  | element e => f (e.text name) e.tag

theorem Part.answer_pure [Monad m] (f : Text → Tag → Text) (p : Part) :
    p.answer name (fun raw tag => (pure (f raw tag) : m Text)) = pure (p.replaced name f) := by
  cases p <;> rfl

theorem replaceM_render [Monad m] [LawfulMonad m] (f : Text → Tag → m Text) {parts : List Part}
    (compiled : Tag.compiles name = true) (named : ∀ c ∈ name, IsNameChar c)
    (valid : ∀ p ∈ parts, p.Valid name) :
    Tag.replaceM (render name parts) name f =
      List.flatten <$> parts.mapM (Part.answer name f) := by
  rw [Tag.replaceM_eq, if_pos compiled]
  induction parts with
  | nil =>
    rw [render, List.flatMap_nil, Scanner.replaceM_nil]
    simp
  | cons p parts ih =>
    obtain ⟨here, later⟩ := List.forall_mem_cons.1 valid
    rw [render] at ih ⊢
    rw [List.flatMap_cons, List.mapM_cons]
    cases p with
    | text t =>
      have inert := Tag.inert_of_unopened (r := parts.flatMap (Part.render name)) here
      rw [Part.render, Scanner.replaceM_append_of_inert inert, ih later]
      simp [Part.answer]
    | element e =>
      have found := Element.scanner_text named here (parts.flatMap (Part.render name))
      rw [Part.render, Scanner.replaceM_of_some Element.text_ne_nil found, ih later]
      simp [Part.answer]

theorem replace_render (f : Text → Tag → Text) {parts : List Part}
    (compiled : Tag.compiles name = true) (named : ∀ c ∈ name, IsNameChar c)
    (valid : ∀ p ∈ parts, p.Valid name) :
    Tag.replace (render name parts) name f = parts.flatMap (Part.replaced name f) := by
  have read := replaceM_render (m := Id) (fun raw tag => pure (f raw tag)) compiled named valid
  rw [Tag.replaceM_eq, if_pos compiled, Scanner.replaceM_pure, mapM_of_pure (Part.answer_pure f),
    map_pure, ← List.flatMap_def] at read
  rw [Tag.replace_eq, if_pos compiled]
  exact read

-- A template is read as it is written: the tags of the name are handed over one by one, in their
-- order, each with its text, its attributes and what it encloses, and give way to the answers.
theorem tags_read_as_written (compiled : Tag.compiles name = true)
    (named : ∀ c ∈ name, isWordChar c = true ∨ c = '-')
    {parts : List Part} (valid : ∀ p ∈ parts, p.Valid name) :
    (∀ {m : Type → Type} [Monad m] [LawfulMonad m] (f : Text → Tag → m Text),
      Tag.replaceM (render name parts) name f =
        List.flatten <$> parts.mapM (Part.answer name f)) ∧
    ∀ f : Text → Tag → Text,
      Tag.replace (render name parts) name f = parts.flatMap (Part.replaced name f) := by
  have solid : ∀ c ∈ name, IsNameChar c := fun c member => isNameChar_of_isWordChar (named c member)
  exact ⟨fun f => replaceM_render f compiled solid valid,
    fun f => replace_render f compiled solid valid⟩

theorem tags_read_as_written_icons :
    let icon (inner : Option Text) : Element :=
      { attributes :=
          [⟨" ".toList, "type".toList, "a=b/".toList⟩,
            ⟨"\n ".toList, "@click.native".toList, "go()".toList⟩,
            ⟨" ".toList, "type".toList, "c d".toList⟩]
        gap := " ".toList
        inner := inner }
    let parts : List Part :=
      [.text "<x-icon>".toList, .element (icon (some "<b>1</b>".toList)), .element (icon none),
        .text "</x-icon2>".toList]
    Tag.compiles "x-icon2".toList = true ∧ (∀ p ∈ parts, p.Valid "x-icon2".toList) ∧
      Id.run ((Tag.replaceM (render "x-icon2".toList parts) "x-icon2".toList
          fun _ tag => (modifyGet fun calls =>
            ("T".toList, calls ++ [(tag.attributes.entries, tag.inner)]) :
              StateM (List (List (Text × Text) × Option Text)) Text)).run []) =
        ("<x-icon>TT</x-icon2>".toList,
          [some "<b>1</b>".toList, none].map fun inner =>
            ([("type".toList, "c d".toList), ("@click".toList, "go()".toList)], inner)) := by
  intro icon parts
  have shown (inner : Option Text) (plain : ∀ t ∈ inner, ¬Tag.closing "x-icon2".toList <:+: t) :
      (icon inner).Valid "x-icon2".toList := by
    refine ⟨?_, by simp [icon], by simp [icon]; decide, plain⟩
    intro a given
    simp only [icon, List.mem_cons, List.not_mem_nil, or_false] at given
    rcases given with rfl | rfl | rfl <;>
      exact ⟨by decide, Text.forall_of_all (by decide), by decide, Text.forall_of_all (by decide),
        by decide⟩
  have text {t : Text} (absent : ¬"<x-icon2".toList <:+: t)
      (apart : ∀ p ∈ "<x-icon2".toList.inits, p ≠ [] → ¬p <:+ t) :
      Tag.Unopened "x-icon2".toList t :=
    ⟨fun c _ inside => absent ((List.prefix_append _ [c]).isInfix.trans inside),
      fun p some_ front => apart p ((List.mem_inits _ _).2 front) some_⟩
  have valid : ∀ p ∈ parts, p.Valid "x-icon2".toList := by
    intro p member
    simp only [parts, List.mem_cons, List.not_mem_nil, or_false] at member
    rcases member with rfl | rfl | rfl | rfl
    · exact text (by decide) (by decide)
    · exact shown _ (by decide)
    · exact shown _ (by simp)
    · exact text (by decide) (by decide)
  have compiled : Tag.compiles "x-icon2".toList = true := Tag.compiles_of_length_le (by decide)
  refine ⟨compiled, valid, ?_⟩
  have named : ∀ c ∈ "x-icon2".toList, isWordChar c = true ∨ c = '-' :=
    Text.forall_of_all (by decide)
  rw [(tags_read_as_written compiled named valid).1]
  decide +kernel

end Markup
end ComponentLoader
