import ComponentLoader.Json.Basic
import Mathlib.Data.List.Basic

namespace ComponentLoader
namespace Json

variable {k : Text} {v : Json} {items : List Json} {members done : List (Text × Json)}

-- Induction over a value: an array by its items, an object by its members.
@[elab_as_elim]
theorem value_induction {motive : Json → Prop} (null : motive null) (bool : ∀ b, motive (bool b))
    (number : ∀ n, motive (number n)) (string : ∀ s, motive (string s))
    (array : ∀ items, (∀ v ∈ items, motive v) → motive (array items))
    (object : ∀ members, (∀ m ∈ members, motive m.2) → motive (object members)) (v : Json) :
    motive v := by
  refine @Json.rec motive (fun items => ∀ v ∈ items, motive v)
    (fun members => ∀ m ∈ members, motive m.2) (fun m => motive m.2) null bool number string array
    object ?noItem ?items ?noMember ?members (fun _ _ value => value) v
  case noItem => exact fun v member => absurd member List.not_mem_nil
  case items => exact fun first items here later => List.forall_mem_cons.2 ⟨here, later⟩
  case noMember => exact fun m member => absurd member List.not_mem_nil
  case members => exact fun first members here later => List.forall_mem_cons.2 ⟨here, later⟩

def Ordered (members : List (Text × Json)) : Prop := members.Pairwise fun a b => a.1 < b.1

inductive IsCanonical : Json → Prop where
  | null : IsCanonical null
  | bool (b : Bool) : IsCanonical (bool b)
  | number (n : Number) : IsCanonical (number n)
  | string (s : Text) : IsCanonical (string s)
  | array {items : List Json} (values : ∀ v ∈ items, IsCanonical v) : IsCanonical (array items)
  | object {members : List (Text × Json)} (ordered : Ordered members)
      (values : ∀ m ∈ members, IsCanonical m.2) : IsCanonical (object members)

theorem canonicalItems_eq (items : List Json) : canonicalItems items = items.map canonical := by
  induction items with
  | nil => rfl
  | cons v items ih => rw [canonicalItems, ih, List.map_cons]

theorem mem_insertSorted {m : Text × Json} (member : m ∈ insertSorted k v members) :
    m = (k, v) ∨ m ∈ members := by
  induction members with
  | nil => simpa [insertSorted] using member
  | cons first members ih =>
    obtain ⟨a, b⟩ := first
    rw [insertSorted] at member
    split at member
    · rcases List.mem_cons.1 member with here | later
      · exact .inl here
      · exact .inr (List.mem_cons_of_mem _ later)
    · split at member
      · exact List.mem_cons.1 member
      · rcases List.mem_cons.1 member with here | later
        · exact .inr (here ▸ List.mem_cons_self)
        · exact (ih later).imp_right (List.mem_cons_of_mem _)

theorem Ordered.insertSorted (ordered : Ordered members) (k : Text) (v : Json) :
    Ordered (insertSorted k v members) := by
  induction members with
  | nil => exact List.pairwise_singleton _ _
  | cons first members ih =>
    obtain ⟨a, b⟩ := first
    obtain ⟨least, rest⟩ := List.pairwise_cons.1 ordered
    rw [Json.insertSorted]
    split
    · next same =>
      subst same
      exact List.pairwise_cons.2 ⟨least, rest⟩
    · next differ =>
      split
      · next before =>
        refine List.pairwise_cons.2 ⟨?_, ordered⟩
        rintro m (_ | ⟨_, later⟩)
        · exact before
        · exact List.lt_trans before (least m later)
      · next behind =>
        refine List.pairwise_cons.2 ⟨fun m member => ?_, ih rest⟩
        rcases mem_insertSorted member with rfl | member
        · exact (List.le_iff_lt_or_eq.1 behind).resolve_right (Ne.symm differ)
        · exact least m member

theorem insertSorted_of_last (last : ∀ m ∈ members, m.1 < k) (v : Json) :
    insertSorted k v members = members ++ [(k, v)] := by
  induction members with
  | nil => rfl
  | cons first members ih =>
    obtain ⟨a, b⟩ := first
    have before : a < k := last (a, b) List.mem_cons_self
    have differ : k ≠ a := by
      rintro rfl
      exact List.lt_irrefl k before
    have behind : ¬k < a := List.lt_asymm before
    rw [insertSorted, if_neg differ, if_neg behind,
      ih fun m member => last m (List.mem_cons_of_mem _ member)]
    rfl

theorem isCanonical_canonicalMembers (incoming : ∀ m ∈ members, m.2.canonical.IsCanonical)
    (ordered : Ordered done) (values : ∀ m ∈ done, m.2.IsCanonical) :
    (object (canonicalMembers members done)).IsCanonical := by
  induction members generalizing done with
  | nil => exact .object ordered values
  | cons m members ih =>
    refine ih (fun m member => incoming m (List.mem_cons_of_mem _ member))
      (ordered.insertSorted _ _) fun n member => ?_
    rcases mem_insertSorted member with rfl | member
    · exact incoming m List.mem_cons_self
    · exact values n member

theorem isCanonical_canonical (v : Json) : v.canonical.IsCanonical := by
  induction v using value_induction with
  | null => exact .null
  | bool b => exact .bool b
  | number n => exact .number n
  | string s => exact .string s
  | array items ih =>
    rw [canonical, canonicalItems_eq]
    exact .array (List.forall_mem_map.2 ih)
  | object members ih =>
    exact isCanonical_canonicalMembers ih List.Pairwise.nil fun m member =>
      absurd member List.not_mem_nil

theorem canonicalMembers_of_ordered (ordered : Ordered (done ++ members))
    (same : ∀ m ∈ members, m.2.canonical = m.2) :
    canonicalMembers members done = done ++ members := by
  induction members generalizing done with
  | nil => exact (List.append_nil done).symm
  | cons m members ih =>
    have last : ∀ n ∈ done, n.1 < m.1 := fun n member =>
      (List.pairwise_append.1 ordered).2.2 n member m List.mem_cons_self
    have moved : done ++ m :: members = done ++ [m] ++ members := List.append_cons ..
    rw [canonicalMembers, same m List.mem_cons_self, insertSorted_of_last last, moved]
    rw [moved] at ordered
    exact ih ordered fun n member => same n (List.mem_cons_of_mem _ member)

theorem IsCanonical.canonical_eq (is_canonical : v.IsCanonical) : v.canonical = v := by
  induction is_canonical with
  | null => rfl
  | bool b => rfl
  | number n => rfl
  | string s => rfl
  | array values ih => rw [canonical, canonicalItems_eq, List.map_congr_left ih, List.map_id']
  | @object members ordered values ih =>
    have whole : canonicalMembers members [] = [] ++ members := canonicalMembers_of_ordered ordered ih
    rw [canonical, whole, List.nil_append]

theorem canonical_eq_null_iff : v.canonical = null ↔ v = null := by
  cases v <;> simp [canonical]

end Json
end ComponentLoader
