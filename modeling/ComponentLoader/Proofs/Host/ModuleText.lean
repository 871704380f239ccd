import ComponentLoader.Proofs.Host.Encoding
import ComponentLoader.Proofs.Json.Exact

namespace ComponentLoader

namespace Json

variable (g : Number → Number)

theorem mapNumbers_object (members : List (Text × Json)) : (object members).mapNumbers g =
    object (members.map fun m => (m.1, m.2.mapNumbers g)) := by
  rw [mapNumbers, mapMembers_eq]

theorem mapNumbers_array (items : List Json) :
    (array items).mapNumbers g = array (items.map (mapNumbers g)) := by
  rw [mapNumbers, mapItems_eq]

theorem map_member? (field : String) (value : Option Json) :
    ((member? field value).map fun m => (m.1, m.2.mapNumbers g)) =
      member? field (value.map (mapNumbers g)) := by
  cases value <;> rfl

theorem memberNumbers_append (a b : List (Text × Json)) :
    memberNumbers (a ++ b) = memberNumbers a ++ memberNumbers b := by
  simp only [memberNumbers_eq, List.flatMap_append]

theorem memberNumbers_member? (field : String) (value : Option Json) :
    memberNumbers (member? field value) = value.toList.flatMap numbers := by
  cases value <;> simp [member?, memberNumbers]

theorem memberNumbers_text (field : String) (value : Option Text) :
    memberNumbers (member? field (value.map string)) = [] := by
  cases value <;> rfl

theorem memberNumbers_list {α : Type} (field : String) (value : Option (List α)) (write : α → Json) :
    memberNumbers (member? field (value.map fun l => array (l.map write))) =
      (value.getD []).flatMap fun x => (write x).numbers := by
  cases value with
  | none => rfl
  | some l => simp [memberNumbers_member?, numbers, itemNumbers_eq, List.flatMap_map]

end Json

def StageEntry.mapOptions (f : Json → Json) : StageEntry → StageEntry
  | name l => name l
  | stage l options => stage l (options.map f)

def Rule.mapOptions (f : Json → Json) (r : Rule) : Rule :=
  { r with
    options := r.options.map f
    use := r.use.map fun entries => entries.map (StageEntry.mapOptions f) }

def Module.mapOptions (f : Json → Json) (m : Module) : Module where
  rules := m.rules.map fun rules => rules.map (Rule.mapOptions f)
  loaders := m.loaders.map fun rules => rules.map (Rule.mapOptions f)

section Mapped

variable (f : Json → Json) (g : Number → Number)

theorem StageEntry.options?_mapOptions (e : StageEntry) :
    (e.mapOptions f).options? = e.options?.map f := by
  cases e <;> rfl

theorem Rule.values_mapOptions (r : Rule) : (r.mapOptions f).values = r.values.map f := by
  have staged : (r.mapOptions f).entries.filterMap StageEntry.options? =
      (r.entries.filterMap StageEntry.options?).map f := by
    unfold entries mapOptions
    cases r.use with
    | none => rfl
    | some es =>
      simp only [Option.map_some, Option.getD_some, List.filterMap_map, List.map_filterMap]
      exact List.filterMap_congr fun e _ => e.options?_mapOptions f
  rw [values, staged, values, List.map_append]
  cases options : r.options <;> simp [mapOptions, options]

theorem Module.values_mapOptions (m : Module) : (m.mapOptions f).values = m.values.map f := by
  have each (rules : Option (List Rule)) :
      ((rules.map fun rules => rules.map (Rule.mapOptions f)).getD []).flatMap Rule.values =
        ((rules.getD []).flatMap Rule.values).map f := by
    cases rules with
    | none => rfl
    | some rules =>
      simp only [Option.map_some, Option.getD_some, List.flatMap_map, List.map_flatMap,
        Rule.values_mapOptions]
  unfold values rulesOf mapOptions
  rw [each, each, List.map_append]

theorem StageEntry.mapNumbers_toJson (e : StageEntry) :
    e.toJson.mapNumbers g = (e.mapOptions (Json.mapNumbers g)).toJson := by
  cases e with
  | name s => rfl
  | stage loader options =>
    rw [toJson_stage, Json.mapNumbers_object, List.map_append, Json.map_member?, Json.map_member?]
    rfl

theorem Rule.mapNumbers_toJson (r : Rule) :
    r.toJson.mapNumbers g = (r.mapOptions (Json.mapNumbers g)).toJson := by
  unfold toJson mapOptions
  simp only [Json.mapNumbers_object, List.map_append, Json.map_member?, Option.map_map,
    Function.comp_def, Json.mapNumbers_array, List.map_map, StageEntry.mapNumbers_toJson]
  rfl

theorem Module.mapNumbers_toJson (m : Module) :
    m.toJson.mapNumbers g = (m.mapOptions (Json.mapNumbers g)).toJson := by
  unfold toJson mapOptions
  simp only [Json.mapNumbers_object, List.map_append, Json.map_member?, Option.map_map,
    Function.comp_def, Json.mapNumbers_array, List.map_map, Rule.mapNumbers_toJson]

end Mapped

namespace StageEntry

theorem numbers_toJson (e : StageEntry) :
    e.toJson.numbers = e.options?.toList.flatMap Json.numbers := by
  cases e with
  | name s => rfl
  | stage loader options =>
    rw [toJson_stage, Json.numbers, Json.memberNumbers_append, Json.memberNumbers_member?,
      Json.memberNumbers_member?]
    rfl

end StageEntry

theorem Rule.numbers_toJson (r : Rule) : r.toJson.numbers = r.values.flatMap Json.numbers := by
  have staged (es : List StageEntry) : es.flatMap (fun e => e.toJson.numbers) =
      (es.filterMap StageEntry.options?).flatMap Json.numbers := by
    induction es with
    | nil => rfl
    | cons e es ih =>
      rw [List.flatMap_cons, ih, e.numbers_toJson, List.filterMap_cons]
      cases e.options? <;> simp
  rw [toJson, Json.numbers, values, List.flatMap_append, ← staged]
  simp only [Json.memberNumbers_append, Json.memberNumbers_text, Json.memberNumbers_list,
    List.append_nil, List.nil_append]
  rw [Json.memberNumbers_member?]
  rfl

theorem Module.mem_numbers_toJson {m : Module} {n : Number} :
    n ∈ m.toJson.numbers ↔ ∃ v ∈ m.values, n ∈ v.numbers := by
  rw [toJson, Json.numbers, Json.memberNumbers_append, Json.memberNumbers_list,
    Json.memberNumbers_list, List.mem_append, or_comm, ← List.mem_append, ← List.mem_flatMap, values,
    List.flatMap_append, List.flatMap_assoc, List.flatMap_assoc]
  simp only [Rule.numbers_toJson]
  rfl

namespace Module

theorem isDecoded_mapNumbers {m : Module} (decoded : ∀ v ∈ m.values, v.IsDecoded)
    (g : Number → Number) : ∀ v ∈ (m.mapOptions (Json.mapNumbers g)).values, v.IsDecoded := by
  rw [values_mapOptions]
  exact List.forall_mem_map.2 fun v member =>
    ⟨(decoded v member).is_canonical.mapNumbers g, Json.mapNumbers_ne_null (decoded v member).ne_null⟩

theorem parse?_render_eq (m : Module) : parse? m.render =
    m.toJson.reread?.bind fun v => if v.depth ≤ 127 then ofJson? v else none := by
  rw [parse?, render, Json.parse?_render_eq]
  refine Option.bind_congr fun v _ => ?_
  by_cases shallow : v.depth ≤ 127
  · rw [if_pos shallow, guard, if_pos shallow]
    rfl
  · rw [if_neg shallow, guard, if_neg shallow]
    rfl

-- What is read of a module's text: the module with each number in its options as it is read by
-- itself.
theorem parse?_render_of_numbers {m : Module} {g : Number → Number}
    (decoded : ∀ v ∈ m.values, v.IsDecoded)
    (read : ∀ v ∈ m.values, ∀ n ∈ v.numbers, n.reread? = some (g n)) :
    parse? m.render =
      if (m.mapOptions (Json.mapNumbers g)).toJson.depth ≤ 127 then
        some (m.mapOptions (Json.mapNumbers g))
      else none := by
  have each : ∀ n ∈ m.toJson.numbers, n.reread? = some (g n) := fun n member => by
    obtain ⟨v, member, inner⟩ := mem_numbers_toJson.1 member
    exact read v member n inner
  rw [parse?_render_eq, Json.reread?_of_numbers _ each, Option.bind_some, mapNumbers_toJson,
    ofJson?_toJson (isDecoded_mapNumbers decoded g)]

theorem mapOptions_eq_self {m : Module} {g : Number → Number}
    (decoded : ∀ v ∈ m.values, v.IsDecoded) :
    m.mapOptions (Json.mapNumbers g) = m ↔ ∀ v ∈ m.values, ∀ n ∈ v.numbers, g n = n := by
  constructor
  · intro mapped v member
    have same : m.values.map (Json.mapNumbers g) = m.values := by rw [← values_mapOptions, mapped]
    exact (Json.mapNumbers_eq_self_iff v).1 (Json.map_eq_self_iff.1 same v member)
  · intro fixed
    have same : m.toJson.mapNumbers g = m.toJson :=
      (Json.mapNumbers_eq_self_iff _).2 fun n member => by
        obtain ⟨v, member, inner⟩ := mem_numbers_toJson.1 member
        exact fixed v member n inner
    have read := ofJson?_toJson (isDecoded_mapNumbers decoded g)
    rw [← mapNumbers_toJson, same, ofJson?_toJson decoded] at read
    exact (Option.some.inj read).symm

theorem parse?_render_iff {m : Module} (decoded : ∀ v ∈ m.values, v.IsDecoded) :
    parse? m.render = some m ↔
      m.toJson.depth ≤ 127 ∧ ∀ v ∈ m.values, ∀ n ∈ v.numbers, n.reread? = some n := by
  constructor
  · intro back
    obtain ⟨w, reread, -⟩ := Option.bind_eq_some_iff.1 ((parse?_render_eq m).symm.trans back)
    obtain ⟨g, each⟩ := Json.exists_of_reread? (Option.isSome_of_eq_some reread)
    have read : ∀ v ∈ m.values, ∀ n ∈ v.numbers, n.reread? = some (g n) :=
      fun v member n inner => each n (mem_numbers_toJson.2 ⟨v, member, inner⟩)
    rw [parse?_render_of_numbers decoded read] at back
    obtain ⟨shallow, same⟩ := Option.ite_none_right_eq_some.1 back
    have mapped := Option.some.inj same
    have fixed := (mapOptions_eq_self decoded).1 mapped
    rw [mapped] at shallow
    exact ⟨shallow, fun v member n inner => by rw [read v member n inner, fixed v member n inner]⟩
  · rintro ⟨shallow, read⟩
    have mapped : m.mapOptions (Json.mapNumbers id) = m :=
      (mapOptions_eq_self decoded).2 fun _ _ _ _ => rfl
    rw [parse?_render_of_numbers (g := id) decoded read, mapped, if_pos shallow]

end Module

-- Whatever merges a decoded module goes through, it is read again from what it is written as.
theorem Host.module_reread {h : Host} {v : Json} (decoded : Module.ofJson? v = some h.module)
    (calls : List MergeCall) :
    Module.ofJson? (h.run calls).2.module.toJson = some (h.run calls).2.module ∧
      (Module.parse? (h.run calls).2.module.render = some (h.run calls).2.module ↔
        (h.run calls).2.module.toJson.depth ≤ 127 ∧
          ∀ v ∈ h.module.values, ∀ n ∈ v.numbers, n.reread? = some n) := by
  have kept : ∀ v ∈ (h.run calls).2.module.values, v.IsDecoded := by
    rw [h.values_run calls]
    exact Module.isDecoded_of_ofJson? decoded
  refine ⟨Module.ofJson?_toJson kept, ?_⟩
  rw [Module.parse?_render_iff kept, h.values_run calls]

theorem Host.module_reread_whole_options :
    let options : Json := .object [("limit".toList, .number (.int 10))]
    let h : Host :=
      { module := { rules := some [{ loader := some "vue-loader".toList, options := some options }] } }
    let calls : List MergeCall := [⟨FileTree.ofDirectory [], {}, []⟩]
    let v : Json := .object [("rules".toList, .array [.object
      [("loader".toList, .string "vue-loader".toList), ("options".toList, options)]])]
    Module.ofJson? v = some h.module ∧
      Module.ofJson? (h.run calls).2.module.toJson = some (h.run calls).2.module ∧
      Module.parse? (h.run calls).2.module.render = some (h.run calls).2.module := by
  intro options h calls v
  have canonical : options.IsCanonical :=
    .object (List.pairwise_singleton _ _) (List.forall_mem_singleton.2 (.number _))
  have decoded : Module.ofJson? v = some h.module :=
    Module.ofJson?_toJson (m := h.module)
      (List.forall_mem_singleton.2 ⟨canonical, Json.noConfusion⟩)
  obtain ⟨value, text⟩ := Host.module_reread decoded calls
  refine ⟨decoded, value, text.2 ⟨by decide, ?_⟩⟩
  exact List.forall_mem_singleton.2
    (List.forall_mem_singleton.2 (Number.reread?_int (by decide) (by decide)))

-- A fraction beyond what is read exactly changes each time the module is written and read.
theorem Host.fraction_reread_otherwise :
    let text := "\x7b\"rules\":[\x7b\"options\":1.5e+200\x7d]\x7d".toList
    ∃ h : Host, Module.parse? text = some h.module ∧
      Module.parse? (h.run []).2.module.render ≠ some (h.run []).2.module := by
  have back {n m : Number} (read : n.reread? = some m) :
      Module.parse? (Module.render { rules := some [{ options := some (.number n) }] }) =
        some { rules := some [{ options := some (.number m) }] } :=
    Module.parse?_render_of_numbers (g := fun _ => m)
      (List.forall_mem_singleton.2 ⟨.number n, Json.noConfusion⟩)
      (List.forall_mem_singleton.2 (List.forall_mem_singleton.2 read))
  have first : Number.reread? (.double (.finite false 15 199)) =
      some (.double (.finite false 15000000000000001 184)) := by decide +kernel
  have second : Number.reread? (.double (.finite false 15000000000000001 184)) =
      some (.double (.finite false 15 199)) := by decide +kernel
  intro text
  have spelled : Module.render
      { rules := some [{ options := some (.number (.double (.finite false 15 199))) }] } = text := by
    decide
  have read := back first
  rw [spelled] at read
  refine ⟨{ module := _ }, read, ?_⟩
  rw [Host.run, back second]
  intro same
  cases same

end ComponentLoader
