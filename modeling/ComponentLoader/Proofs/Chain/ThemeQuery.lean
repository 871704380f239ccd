import ComponentLoader.Chain.Basic
import ComponentLoader.Proofs.Json.Absent
import ComponentLoader.Proofs.Json.Written

namespace ComponentLoader
namespace Json

def requote (c : Char) : Char := if c = '\'' then '"' else c

def Carries (query : Json) (theme : ThemeVariables) (sourceMap : Prop) : Prop :=
  ∃ members, query = object members ∧
    query.field? "modifyVars".toList =
      some (object (theme.entries.map fun (name, value) => (name, string value))) ∧
    (query.field? "sourceMap".toList = some (bool true) ↔ sourceMap)

theorem mem_of_simpleEscape? {e c : Char} (meant : simpleEscape? e = some c) :
    c ∈ "\"\\/\x08\x0c\n\r\t".toList := by
  unfold simpleEscape? at meant
  split_ifs at meant with same
  · cases meant
    rcases same with rfl | rfl | rfl <;> decide
  all_goals
    cases meant
    decide

theorem simpleEscape?_ne_mark {x : Char} (mark : x = '!' ∨ x = '\'') (e : Char) :
    simpleEscape? e ≠ some x := by
  intro meant
  have listed := mem_of_simpleEscape? meant
  rcases mark with rfl | rfl
  · exact absurd listed (by decide)
  · exact absurd listed (by decide)

theorem mem_escape_iff {x : Char} (mark : x = '!' ∨ x = '\'') (c : Char) :
    x ∈ escape c ↔ x = c := by
  have hex : ∀ n < 16, x ≠ hexDigit n := by
    rcases mark with rfl | rfl <;> decide
  have unmeant : simpleEscape? x = none := by
    rcases mark with rfl | rfl <;> decide
  have other : x ≠ '\\' ∧ x ≠ 'u' ∧ x ≠ '0' ∧ 32 ≤ x.toNat := by
    rcases mark with rfl | rfl <;> decide
  have shape := escaped c
  generalize escape c = written at shape ⊢
  cases shape with
  | plain => simp
  | @letter e letter meant =>
    have apart : x ≠ e := by
      rintro rfl
      rw [unmeant] at meant
      cases meant
    have differs : x ≠ c := fun same => simpleEscape?_ne_mark mark e (same ▸ meant)
    simp [other.1, apart, differs]
  | code small =>
    have high := hex (c.toNat / 16) (by omega)
    have low := hex (c.toNat % 16) (by omega)
    have differs : x ≠ c := by
      rintro rfl
      omega
    simp [other, high, low, differs]

theorem mem_quote_iff {x : Char} (mark : x = '!' ∨ x = '\'') (s : Text) :
    x ∈ quote s ↔ x ∈ s := by
  have other : x ≠ '"' := by
    rcases mark with rfl | rfl <;> decide
  simp [quote, other, List.mem_flatMap, mem_escape_iff mark]

theorem mem_renderMembers_iff {x : Char} (mark : x = '!' ∨ x = '\'') (ms : List (Text × Json)) :
    x ∈ renderMembers ms ↔ ∃ m ∈ ms, x ∈ m.1 ∨ x ∈ m.2.render := by
  have other : x ≠ ':' ∧ x ≠ ',' := by
    rcases mark with rfl | rfl <;> decide
  induction ms with
  | nil => simp [renderMembers]
  | cons m ms ih =>
    obtain ⟨k, v⟩ := m
    cases ms with
    | nil => simp [renderMembers, mem_quote_iff mark, other]
    | cons next ms =>
      rw [renderMembers]
      simp only [List.mem_append, List.mem_cons, mem_quote_iff mark, other, false_or, ih,
        exists_eq_or_imp, or_assoc]

theorem mem_object_iff {x : Char} (mark : x = '!' ∨ x = '\'') (ms : List (Text × Json)) :
    x ∈ (object ms).render ↔ ∃ m ∈ ms, x ∈ m.1 ∨ x ∈ m.2.render := by
  have other : x ≠ '\x7b' ∧ x ≠ '\x7d' := by
    rcases mark with rfl | rfl <;> decide
  rw [render, List.mem_append, List.mem_cons, mem_renderMembers_iff mark]
  simp [other]

theorem mem_themeQuery_iff {x : Char} (mark : x = '!' ∨ x = '\'') (theme : ThemeVariables)
    (sourceMap : Bool) : x ∈ (Chain.themeQuery theme sourceMap).render ↔
      ∃ entry ∈ theme.entries, x ∈ entry.1 ∨ x ∈ entry.2 := by
  have plain : x ∉ "modifyVars".toList ∧ x ∉ "sourceMap".toList ∧ x ∉ (bool true).render := by
    rcases mark with rfl | rfl <;> decide
  have strings : x ∈ (object (theme.entries.map fun (name, value) => (name, string value))).render ↔
      ∃ entry ∈ theme.entries, x ∈ entry.1 ∨ x ∈ entry.2 := by
    rw [mem_object_iff mark]
    constructor
    · rintro ⟨m, member, inside⟩
      obtain ⟨entry, here, rfl⟩ := List.mem_map.1 member
      rw [render, mem_quote_iff mark] at inside
      exact ⟨entry, here, inside⟩
    · rintro ⟨entry, here, inside⟩
      refine ⟨_, List.mem_map_of_mem here, ?_⟩
      rw [render, mem_quote_iff mark]
      exact inside
  rw [← strings, Chain.themeQuery, mem_object_iff mark]
  cases sourceMap with
  | true => simp only [if_true, List.exists_mem_cons_iff, plain, false_or, List.not_mem_nil,
      false_and, exists_false, or_false]
  | false => simp only [Bool.false_eq_true, if_false, List.exists_mem_cons_iff, plain, false_or,
      List.not_mem_nil, false_and, exists_false, or_false]

-- Written with its quotes exchanged, a value without numbers cannot be read as one with a single
-- quote.
def Quoteless (v : Json) : Prop := Free '\'' (v.render.map requote)

theorem requote_eq {c : Char} (other : c ≠ '\'') : requote c = c := if_neg other

theorem free_escape (c : Char) : Free '\'' ((escape c).map requote) := by
  have hex : ∀ n < 16, requote (hexDigit n) = hexDigit n := by decide
  have shape := escaped c
  generalize escape c = written at shape ⊢
  cases shape with
  | plain quote backslash shown =>
    by_cases single : c = '\''
    · rw [single]
      exact .plain (by decide) (by decide) .nil
    · rw [List.map_singleton, requote_eq single]
      exact .plain backslash single .nil
  | @letter e letter meant =>
    have other : e ≠ '\'' := by
      rintro rfl
      cases meant
    rw [List.map_cons, List.map_singleton, requote_eq other, requote_eq (by decide)]
    exact .letter letter (simpleEscape?_ne_mark (.inr rfl) e) .nil
  | code small =>
    have other : c ≠ '\'' := by
      rintro rfl
      exact absurd small (by decide)
    have high := hex (c.toNat / 16) (by omega)
    have low := hex (c.toNat % 16) (by omega)
    simp only [List.map_cons, List.map_nil, high, low]
    exact .code (q := ['0', '0', hexDigit (c.toNat / 16), hexDigit (c.toNat % 16)])
      (unicode?_control small) other .nil

theorem free_quote (s : Text) : Free '\'' ((quote s).map requote) := by
  have inner : Free '\'' ((s.flatMap escape).map requote) := by
    induction s with
    | nil => exact .nil
    | cons c s ih =>
      rw [List.flatMap_cons, List.map_append]
      exact (free_escape c).append ih
  rw [quote, List.map_append, List.map_cons]
  exact .append (.plain (by decide) (by decide) inner) (.plain (by decide) (by decide) .nil)

theorem free_renderMembers {ms : List (Text × Json)} (quoteless : ∀ m ∈ ms, m.2.Quoteless) :
    Free '\'' ((renderMembers ms).map requote) := by
  induction ms with
  | nil => exact .nil
  | cons m ms ih =>
    obtain ⟨k, v⟩ := m
    have value : Free '\'' ((':' :: v.render).map requote) :=
      .plain (by decide) (by decide) (quoteless (k, v) (by simp))
    have later := ih fun m member => quoteless m (List.mem_cons_of_mem _ member)
    cases ms with
    | nil =>
      rw [renderMembers, List.map_append]
      exact (free_quote k).append value
    | cons next ms =>
      rw [renderMembers, List.map_append, List.map_append]
      exact ((free_quote k).append value).append (.plain (by decide) (by decide) later)

theorem quoteless_object {ms : List (Text × Json)} (quoteless : ∀ m ∈ ms, m.2.Quoteless) :
    Quoteless (object ms) := by
  rw [Quoteless, render, List.map_append, List.map_cons]
  exact .append (.plain (by decide) (by decide) (free_renderMembers quoteless))
    (.plain (by decide) (by decide) .nil)

theorem quoteless_true : Quoteless (bool true) := by
  have plain : ∀ {t : Text}, '\\' ∉ t → '\'' ∉ t → Free '\'' t := by
    intro t backslash single
    induction t with
    | nil => exact .nil
    | cons c t ih =>
      rw [List.mem_cons, not_or] at backslash single
      exact .plain (Ne.symm backslash.1) (Ne.symm single.1) (ih backslash.2 single.2)
  exact plain (by decide) (by decide)

theorem themeQuery_of_parts {p : Json → Prop} (object_ : ∀ ms, (∀ m ∈ ms, p m.2) → p (object ms))
    (string_ : ∀ s, p (string s)) (true_ : p (bool true)) (theme : ThemeVariables)
    (sourceMap : Bool) : p (Chain.themeQuery theme sourceMap) := by
  have inner : p (object (theme.entries.map fun (name, value) => (name, string value))) := by
    refine object_ _ fun m member => ?_
    obtain ⟨entry, -, rfl⟩ := List.mem_map.1 member
    exact string_ entry.2
  refine object_ _ fun m member => ?_
  rcases List.mem_cons.1 member with rfl | later
  · exact inner
  · cases sourceMap with
    | true =>
      rw [List.mem_singleton.1 later]
      exact true_
    | false => cases later

theorem quoteless_themeQuery (theme : ThemeVariables) (sourceMap : Bool) :
    Quoteless (Chain.themeQuery theme sourceMap) :=
  themeQuery_of_parts (fun _ => quoteless_object) free_quote quoteless_true theme sourceMap

theorem mem_of_field? {ms : List (Text × Json)} {name : Text} {v : Json}
    (found : (object ms).field? name = some v) : ∃ m ∈ ms, m.2 = v := by
  obtain ⟨m, here, rfl⟩ := Option.map_eq_some_iff.1 found
  exact ⟨m, List.mem_reverse.1 (List.mem_of_find?_eq_some here), rfl⟩

theorem readable_themeQuery (theme : ThemeVariables) (sourceMap : Bool) :
    Readable (Chain.themeQuery theme sourceMap) :=
  themeQuery_of_parts (fun _ => readable_object) readable_string (readable_bool true) theme
    sourceMap

theorem carries_themeQuery (theme : ThemeVariables) (sourceMap : Bool) :
    (Chain.themeQuery theme sourceMap).Carries theme (sourceMap = true) := by
  refine ⟨_, rfl, ?_, ?_⟩
  · cases sourceMap <;> rfl
  · cases sourceMap with
    | true => exact ⟨fun _ => rfl, fun _ => rfl⟩
    | false =>
      constructor
      · intro found
        cases found
      · intro found
        cases found

theorem Carries.congr {query : Json} {theme : ThemeVariables} {p q : Prop} (same : p ↔ q) :
    query.Carries theme p ↔ query.Carries theme q := by
  unfold Carries
  rw [same]

theorem parse?_requoted {theme : ThemeVariables} (sourceMap : Bool)
    (absent : ∀ entry ∈ theme.entries, '\'' ∉ entry.1 ∧ '\'' ∉ entry.2) :
    parse? ((Chain.themeQuery theme sourceMap).render.map requote) =
      some (Chain.themeQuery theme sourceMap) := by
  have same : (Chain.themeQuery theme sourceMap).render.map requote =
      (Chain.themeQuery theme sourceMap).render := by
    refine (List.map_congr_left fun c member => requote_eq ?_).trans (List.map_id _)
    rintro rfl
    obtain ⟨entry, here, inside⟩ := (mem_themeQuery_iff (.inr rfl) ..).1 member
    rcases inside with name | value
    · exact (absent entry here).1 name
    · exact (absent entry here).2 value
  rw [same, parse?_render (readable_themeQuery theme sourceMap)]

theorem Carries.absent {query : Json} {theme : ThemeVariables} {on : Prop} {x : Char}
    (carries : query.Carries theme on) (lacks : Lacks x query) :
    ∀ entry ∈ theme.entries, x ∉ entry.1 ∧ x ∉ entry.2 := by
  obtain ⟨members, rfl, modified, -⟩ := carries
  obtain ⟨m, here, same⟩ := mem_of_field? modified
  cases lacks with
  | object names values =>
    have inner := values m here
    rw [same] at inner
    cases inner with
    | object names values =>
      intro entry member
      have listed := List.mem_map_of_mem
        (f := fun (entry : Text × Text) => (entry.1, string entry.2)) member
      have value := values _ listed
      cases value with
      | string absent => exact ⟨names _ listed, absent⟩

-- What is read back from the theme's query carries the theme exactly when no name and no value in
-- it has a single quote.
theorem carries_requoted_iff (theme : ThemeVariables) (sourceMap : Bool) (on : Prop) :
    (∃ query, parse? ((Chain.themeQuery theme sourceMap).render.map requote) = some query ∧
        query.Carries theme on) ↔
      (∀ entry ∈ theme.entries, '\'' ∉ entry.1 ∧ '\'' ∉ entry.2) ∧ (on ↔ sourceMap = true) := by
  constructor
  · rintro ⟨query, read, carries⟩
    have absent := carries.absent (lacks_of_parse? read (quoteless_themeQuery theme sourceMap))
    refine ⟨absent, ?_⟩
    rw [parse?_requoted sourceMap absent] at read
    cases read
    obtain ⟨-, -, -, on_⟩ := carries
    obtain ⟨-, -, -, switched⟩ := carries_themeQuery theme sourceMap
    exact on_.symm.trans switched
  · rintro ⟨absent, same⟩
    exact ⟨_, parse?_requoted sourceMap absent,
      (Carries.congr same).2 (carries_themeQuery theme sourceMap)⟩

end Json
end ComponentLoader
