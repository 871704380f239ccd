import ComponentLoader.Proofs.Json.Written

namespace ComponentLoader
namespace Json

mutual

def numbers : Json → List Number
  | number n => [n]
  | array items => itemNumbers items
  | object members => memberNumbers members
  | _ => []

def itemNumbers : List Json → List Number
  | [] => []
  | v :: r => numbers v ++ itemNumbers r

def memberNumbers : List (Text × Json) → List Number
  | [] => []
  | (_, v) :: r => numbers v ++ memberNumbers r

end

variable {v : Json} {items : List Json} {members : List (Text × Json)} (g : Number → Number)

mutual

def mapNumbers : Json → Json
  | number n => number (g n)
  | array items => array (mapItems items)
  | object members => object (mapMembers members)
  | v => v

def mapItems : List Json → List Json
  | [] => []
  | v :: r => mapNumbers v :: mapItems r

def mapMembers : List (Text × Json) → List (Text × Json)
  | [] => []
  | (k, v) :: r => (k, mapNumbers v) :: mapMembers r

end

theorem itemNumbers_eq (items : List Json) : itemNumbers items = items.flatMap numbers := by
  induction items with
  | nil => rfl
  | cons v items ih => rw [itemNumbers, ih, List.flatMap_cons]

theorem memberNumbers_eq (members : List (Text × Json)) :
    memberNumbers members = members.flatMap (·.2.numbers) := by
  induction members with
  | nil => rfl
  | cons m members ih => rw [memberNumbers, ih, List.flatMap_cons]

theorem mapItems_eq (items : List Json) : mapItems g items = items.map (mapNumbers g) := by
  induction items with
  | nil => rfl
  | cons v items ih => rw [mapItems, ih, List.map_cons]

theorem mapMembers_eq (members : List (Text × Json)) :
    mapMembers g members = members.map fun m => (m.1, m.2.mapNumbers g) := by
  induction members with
  | nil => rfl
  | cons m members ih => rw [mapMembers, ih, List.map_cons]

variable {g}

theorem map_eq_self_iff {α : Type} {f : α → α} {l : List α} : l.map f = l ↔ ∀ x ∈ l, f x = x := by
  have fixed := List.map_inj_left (f := f) (g := id) (l := l)
  rwa [List.map_id] at fixed

theorem mapNumbers_eq_self_iff (v : Json) :
    v.mapNumbers g = v ↔ ∀ n ∈ v.numbers, g n = n := by
  induction v using value_induction with
  | null => simp [mapNumbers, numbers]
  | bool b => simp [mapNumbers, numbers]
  | number n => simp [mapNumbers, numbers]
  | string s => simp [mapNumbers, numbers]
  | array items ih =>
    rw [mapNumbers, mapItems_eq, numbers, itemNumbers_eq, array.injEq, map_eq_self_iff,
      List.forall_mem_flatMap]
    exact forall₂_congr ih
  | object members ih =>
    rw [mapNumbers, mapMembers_eq, numbers, memberNumbers_eq, object.injEq, map_eq_self_iff,
      List.forall_mem_flatMap]
    refine forall₂_congr fun m member => ?_
    rw [← ih m member, Prod.ext_iff]
    exact and_iff_right rfl

theorem IsCanonical.mapNumbers (is_canonical : v.IsCanonical) (g : Number → Number) :
    (v.mapNumbers g).IsCanonical := by
  induction is_canonical with
  | null => exact .null
  | bool b => exact .bool b
  | number n => exact .number (g n)
  | string s => exact .string s
  | array values ih =>
    rw [Json.mapNumbers, mapItems_eq]
    exact .array (List.forall_mem_map.2 ih)
  | object ordered values ih =>
    rw [Json.mapNumbers, mapMembers_eq]
    exact .object (List.pairwise_map.2 ordered) (List.forall_mem_map.2 ih)

theorem mapNumbers_ne_null (shown : v ≠ null) : v.mapNumbers g ≠ null := by
  cases v with
  | null => exact absurd rfl shown
  | _ => exact Json.noConfusion

-- A value is read where each of its numbers is, and each number as it is read by itself.
theorem reread?_of_numbers (v : Json) (read : ∀ n ∈ v.numbers, n.reread? = some (g n)) :
    v.reread? = some (v.mapNumbers g) := by
  induction v using value_induction with
  | null => rfl
  | bool b => rfl
  | number n => rw [reread?, read n List.mem_cons_self, mapNumbers, Option.map_some]
  | string s => rfl
  | array items ih =>
    rw [numbers, itemNumbers_eq, List.forall_mem_flatMap] at read
    rw [reread?, rereadItems?_of_each fun v member => ih v member (read v member), mapNumbers,
      mapItems_eq, Option.map_some]
  | object members ih =>
    rw [numbers, memberNumbers_eq, List.forall_mem_flatMap] at read
    rw [reread?, rereadMembers?_of_each fun m member => ih m member (read m member), mapNumbers,
      mapMembers_eq, Option.map_some]

theorem isSome_of_reread? (v : Json) (read : v.reread?.isSome) :
    ∀ n ∈ v.numbers, n.reread?.isSome := by
  induction v using value_induction with
  | null => exact fun n member => absurd member List.not_mem_nil
  | bool b => exact fun n member => absurd member List.not_mem_nil
  | number n =>
    rw [reread?, Option.isSome_map] at read
    exact List.forall_mem_singleton.2 read
  | string s => exact fun n member => absurd member List.not_mem_nil
  | array items ih =>
    rw [reread?, Option.isSome_map] at read
    rw [numbers, itemNumbers_eq, List.forall_mem_flatMap]
    exact fun v member => ih v member (each_of_rereadItems? read v member)
  | object members ih =>
    rw [reread?, Option.isSome_map] at read
    rw [numbers, memberNumbers_eq, List.forall_mem_flatMap]
    exact fun m member => ih m member (each_of_rereadMembers? read m member)

theorem exists_of_reread? (read : v.reread?.isSome) :
    ∃ g : Number → Number, ∀ n ∈ v.numbers, n.reread? = some (g n) := by
  refine ⟨fun n => n.reread?.getD n, fun n member => ?_⟩
  obtain ⟨m, here⟩ := Option.isSome_iff_exists.1 (isSome_of_reread? v read n member)
  dsimp only
  rw [here, Option.getD_some]

end Json
end ComponentLoader
