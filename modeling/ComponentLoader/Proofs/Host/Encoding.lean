import ComponentLoader.Proofs.Host.Values
import ComponentLoader.Proofs.Json.Canonical
import Mathlib.Data.Option.Basic

namespace ComponentLoader

namespace Json

variable {α : Type} {read : Json → Option α} {write : α → Json}

theorem field?_append (name : Text) (a b : List (Text × Json)) :
    (object (a ++ b)).field? name = ((object b).field? name).or ((object a).field? name) := by
  simp only [field?, List.reverse_append, List.find?_append, Option.map_or]

theorem field?_member? (name : Text) (field : String) (value : Option Json) :
    (object (member? field value)).field? name = if field.toList = name then value else none := by
  cases value with
  | none => simp [member?, field?]
  | some v =>
    by_cases same : field.toList = name <;> simp [member?, field?, same]

theorem mapM?_map {l : List α} (back : ∀ x ∈ l, read (write x) = some x) :
    mapM? read (l.map write) = some l := by
  induction l with
  | nil => rfl
  | cons x l ih =>
    rw [List.map_cons, mapM?, back x List.mem_cons_self,
      ih fun y member => back y (List.mem_cons_of_mem x member)]
    rfl

theorem list?_array {l : List α} (back : ∀ x ∈ l, read (write x) = some x) :
    list? read (array (l.map write)) = some l := mapM?_map back

theorem optional_some {v : Json} (shown : v ≠ null) :
    optional read (some v) = (read v).map some := by
  cases v with
  | null => exact absurd rfl shown
  | _ => rfl

theorem optional_map {value : Option α}
    (back : ∀ x ∈ value, write x ≠ null ∧ read (write x) = some x) :
    optional read (value.map write) = some value := by
  cases value with
  | none => rfl
  | some x =>
    obtain ⟨shown, back⟩ := back x rfl
    rw [Option.map_some, optional_some shown, back]
    rfl

structure IsDecoded (v : Json) : Prop where
  is_canonical : v.IsCanonical
  ne_null : v ≠ null

theorem optional_canonical {value : Option Json} (decoded : ∀ v ∈ value, v.IsDecoded) :
    optional (some ·.canonical) value = some value := by
  have back : ∀ v ∈ value, v ≠ null ∧ some v.canonical = some v := fun v member =>
    ⟨(decoded v member).ne_null, congrArg some (decoded v member).is_canonical.canonical_eq⟩
  have whole : optional (some ·.canonical) (value.map id) = some value := optional_map back
  rwa [Option.map_id] at whole

theorem isDecoded_of_optional {part value : Option Json}
    (read : optional (some ·.canonical) part = some value) : ∀ v ∈ value, v.IsDecoded := by
  rintro v rfl
  cases part with
  | none => cases read
  | some w =>
    by_cases shown : w = null
    · subst shown
      cases read
    · rw [optional_some shown] at read
      cases read
      exact ⟨isCanonical_canonical w, fun none_ => shown (canonical_eq_null_iff.1 none_)⟩

end Json

namespace StageEntry

theorem toJson_stage (loader : Text) (options : Option Json) : toJson (stage loader options) =
    .object (Json.member? "loader" (some (.string loader)) ++ Json.member? "options" options) := rfl

theorem ofJson?_toJson {e : StageEntry} (decoded : ∀ v ∈ e.options?, v.IsDecoded) :
    ofJson? e.toJson = some e := by
  cases e with
  | name s => rfl
  | stage loader options =>
    have read_loader : (toJson (stage loader options)).part? "loader" 0 = some (.string loader) := by
      rw [toJson_stage]
      simp [Json.part?, Json.field?_append, Json.field?_member?]
    have read_options : (toJson (stage loader options)).part? "options" 1 = options := by
      rw [toJson_stage]
      simp [Json.part?, Json.field?_append, Json.field?_member?]
    have kept : Json.optional (some ·.canonical) options = some options :=
      Json.optional_canonical decoded
    rw [ofJson?, read_loader, read_options, kept]
    · rfl
    · intro s other
      cases other

theorem isDecoded_of_ofJson? {v : Json} {e : StageEntry} (read : ofJson? v = some e) :
    ∀ w ∈ e.options?, w.IsDecoded := by
  unfold ofJson? at read
  split at read
  · cases read
    rintro w ⟨⟩
  · simp only [Option.bind_eq_bind, Option.bind_eq_some_iff, Option.pure_def] at read
    obtain ⟨-, -, loader, -, options, kept, made⟩ := read
    cases made
    exact Json.isDecoded_of_optional kept

end StageEntry

theorem Json.optional_text (value : Option Text) :
    optional text? (value.map string) = some value :=
  optional_map fun _ _ => ⟨Json.noConfusion, rfl⟩

theorem Json.optional_list {α : Type} {read : Json → Option α} {write : α → Json}
    {value : Option (List α)} (back : ∀ l ∈ value, ∀ x ∈ l, read (write x) = some x) :
    optional (list? read) (value.map fun l => array (l.map write)) = some value :=
  optional_map fun l member => ⟨Json.noConfusion, list?_array (back l member)⟩

namespace Json

variable {α : Type} {read : Json → Option α}

theorem exists_of_mem_mapM? {items : List Json} {l : List α} (given : mapM? read items = some l) :
    ∀ x ∈ l, ∃ v, read v = some x := by
  induction items generalizing l with
  | nil =>
    cases given
    exact fun x member => absurd member List.not_mem_nil
  | cons v items ih =>
    simp only [mapM?, Option.bind_eq_bind, Option.bind_eq_some_iff, Option.pure_def] at given
    obtain ⟨x, here, rest, later, made⟩ := given
    cases made
    exact List.forall_mem_cons.2 ⟨⟨v, here⟩, ih later⟩

theorem exists_of_optional_list {part : Option Json} {value : Option (List α)}
    (given : optional (list? read) part = some value) :
    ∀ l ∈ value, ∀ x ∈ l, ∃ v, read v = some x := by
  rintro l rfl
  cases part with
  | none => cases given
  | some v =>
    cases v with
    | array items =>
      rw [optional_some Json.noConfusion] at given
      obtain ⟨l, read, same⟩ := Option.map_eq_some_iff.1 given
      cases same
      exact exists_of_mem_mapM? read
    | _ => cases given

end Json

namespace Rule

theorem ofJson?_toJson {r : Rule} (decoded : ∀ v ∈ r.values, v.IsDecoded) :
    ofJson? r.toJson = some r := by
  have parts : r.toJson.part? "test" 0 = r.test.map .string ∧
      r.toJson.part? "loader" 1 = r.loader.map .string ∧
      r.toJson.part? "options" 2 = r.options ∧
      r.toJson.part? "use" 3 = r.use.map (fun entries => .array (entries.map StageEntry.toJson)) ∧
      r.toJson.part? "include" 4 = r.directory.map .string := by
    simp [toJson, Json.part?, Json.field?_append, Json.field?_member?]
  obtain ⟨test, loader, options, use, directory⟩ := parts
  have kept : Json.optional (some ·.canonical) r.options = some r.options :=
    Json.optional_canonical fun v member =>
      decoded v (List.mem_append_left _ (Option.mem_toList.2 member))
  have listed : Json.optional (Json.list? StageEntry.ofJson?)
      (r.use.map fun entries => .array (entries.map StageEntry.toJson)) = some r.use := by
    refine Json.optional_list fun entries given e member => ?_
    refine StageEntry.ofJson?_toJson fun v carried => decoded v (List.mem_append_right _ ?_)
    rw [Rule.entries, given]
    exact List.mem_filterMap.2 ⟨e, member, carried⟩
  rw [ofJson?, test, loader, options, use, directory, Json.optional_text, Json.optional_text, kept,
    listed, Json.optional_text]
  rfl

theorem isDecoded_of_ofJson? {v : Json} {r : Rule} (read : ofJson? v = some r) :
    ∀ w ∈ r.values, w.IsDecoded := by
  simp only [ofJson?, Option.bind_eq_bind, Option.bind_eq_some_iff, Option.pure_def] at read
  obtain ⟨-, -, test, -, loader, -, options, kept, use, listed, directory, -, made⟩ := read
  cases made
  intro w member
  rcases List.mem_append.1 member with own | staged
  · exact Json.isDecoded_of_optional kept w (Option.mem_toList.1 own)
  · obtain ⟨e, member, carried⟩ := List.mem_filterMap.1 staged
    cases use with
    | none => cases member
    | some entries =>
      obtain ⟨v, read⟩ := Json.exists_of_optional_list listed entries rfl e member
      exact StageEntry.isDecoded_of_ofJson? read w carried

end Rule

namespace Module

theorem rules_part (m : Module) :
    m.toJson.part? "rules" 0 = m.rules.map (fun rules => .array (rules.map Rule.toJson)) ∧
      m.toJson.part? "loaders" 1 = m.loaders.map (fun rules => .array (rules.map Rule.toJson)) := by
  simp [toJson, Json.part?, Json.field?_append, Json.field?_member?]

theorem ofJson?_toJson {m : Module} (decoded : ∀ v ∈ m.values, v.IsDecoded) :
    ofJson? m.toJson = some m := by
  obtain ⟨rules, loaders⟩ := m.rules_part
  have modern : Json.optional (Json.list? Rule.ofJson?)
      (m.rules.map fun rules => .array (rules.map Rule.toJson)) = some m.rules := by
    refine Json.optional_list fun rules given r member => ?_
    refine Rule.ofJson?_toJson fun v carried => decoded v (List.mem_append_left _ ?_)
    rw [rulesOf, given]
    exact List.mem_flatMap.2 ⟨r, member, carried⟩
  have legacy : Json.optional (Json.list? Rule.ofJson?)
      (m.loaders.map fun rules => .array (rules.map Rule.toJson)) = some m.loaders := by
    refine Json.optional_list fun rules given r member => ?_
    refine Rule.ofJson?_toJson fun v carried => decoded v (List.mem_append_right _ ?_)
    rw [rulesOf, given]
    exact List.mem_flatMap.2 ⟨r, member, carried⟩
  rw [ofJson?, rules, loaders, modern, legacy]
  rfl

theorem isDecoded_of_ofJson? {v : Json} {m : Module} (read : ofJson? v = some m) :
    ∀ w ∈ m.values, w.IsDecoded := by
  simp only [ofJson?, Option.bind_eq_bind, Option.bind_eq_some_iff, Option.pure_def] at read
  obtain ⟨-, -, rules, modern, loaders, legacy, made⟩ := read
  cases made
  have each {part : Option Json} {rules : Option (List Rule)}
      (given : Json.optional (Json.list? Rule.ofJson?) part = some rules) :
      ∀ w ∈ (rules.getD []).flatMap Rule.values, w.IsDecoded := by
    intro w member
    obtain ⟨r, member, carried⟩ := List.mem_flatMap.1 member
    cases rules with
    | none => cases member
    | some rules =>
      obtain ⟨v, read⟩ := Json.exists_of_optional_list given rules rfl r member
      exact Rule.isDecoded_of_ofJson? read w carried
  exact fun w member => (List.mem_append.1 member).elim (each modern w) (each legacy w)

end Module

end ComponentLoader
