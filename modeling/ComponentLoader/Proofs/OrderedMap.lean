import ComponentLoader.OrderedMap
import Mathlib.Data.List.Induction

namespace ComponentLoader

theorem eraseDups_concat [BEq α] [LawfulBEq α] (l : List α) (a : α) :
    (l ++ [a]).eraseDups = l.eraseDups ++ if a ∈ l then [] else [a] := by
  rw [List.eraseDups_append]
  congr 1
  by_cases member : a ∈ l
  · simp [List.removeAll, member]
  · simp [List.removeAll, member, List.eraseDups_cons]

namespace OrderedMap

variable {α β : Type} [DecidableEq α]

theorem get?_erase (m : OrderedMap α β) (k x : α) :
    (m.erase k).get? x = if k = x then none else m.get? x := by
  have filtered : ∀ l : List (α × β), Entries.get? x (l.filter fun e => e.1 ≠ k) =
      if k = x then none else Entries.get? x l := by
    intro l
    induction l with
    | nil => simp [Entries.get?]
    | cons e l ih =>
      obtain ⟨a, b⟩ := e
      by_cases gone : a = k
      · rw [List.filter_cons_of_neg (by simp [gone]), ih]
        by_cases here : k = x
        · simp [here]
        · simp [Entries.get?, gone, here]
      · rw [List.filter_cons_of_pos (by simpa using gone), Entries.get?, ih, Entries.get?]
        by_cases here : a = x
        · have apart : k ≠ x := fun back => gone (here.trans back.symm)
          simp [here, apart]
        · simp [here]
  exact filtered m.entries

theorem get?_eq_lookup [BEq α] [LawfulBEq α] (m : OrderedMap α β) (k : α) :
    m.get? k = m.entries.lookup k := by
  rw [get?]
  induction m.entries with
  | nil => rfl
  | cons e l ih =>
    rw [Entries.get?, List.lookup_cons, ih]
    by_cases here : e.1 = k
    · simp [here]
    · have apart : k ≠ e.1 := fun back => here back.symm
      rw [if_neg here, beq_false_of_ne apart]

theorem mem_keys_iff {m : OrderedMap α β} {k : α} : k ∈ m.keys ↔ m.contains k = true := by
  rw [contains, Option.isSome_iff_ne_none, Ne, get?_eq_none_iff, Classical.not_not]

theorem extend_append (m : OrderedMap α β) (a b : List (α × β)) :
    m.extend (a ++ b) = (m.extend a).extend b := List.foldl_append

theorem get?_extend_of_nodup {entries : List (α × β)} (distinct : (entries.map Prod.fst).Nodup)
    (m : OrderedMap α β) (k : α) :
    (m.extend entries).get? k = (Entries.get? k entries).or (m.get? k) := by
  induction entries generalizing m with
  | nil => rfl
  | cons e entries ih =>
    obtain ⟨absent, rest⟩ := List.nodup_cons.1 distinct
    have step : m.extend (e :: entries) = (m.insert e.1 e.2).extend entries := rfl
    rw [step, ih rest, get?_insert, Entries.get?]
    split
    · next here =>
      rw [Entries.get?_eq_none_iff.2 (here ▸ absent)]
      rfl
    · rfl

theorem get?_extend (m n : OrderedMap α β) (k : α) :
    (m.extend n.entries).get? k = (n.get? k).or (m.get? k) := get?_extend_of_nodup n.distinct m k

theorem get?_of_mem {m : OrderedMap α β} {e : α × β} (member : e ∈ m.entries) :
    m.get? e.1 = some e.2 := by
  have found : ∀ {l : List (α × β)}, (l.map Prod.fst).Nodup → e ∈ l →
      Entries.get? e.1 l = some e.2 := by
    intro l distinct member
    induction l with
    | nil => cases member
    | cons f l ih =>
      obtain ⟨absent, rest⟩ := List.nodup_cons.1 distinct
      rcases List.mem_cons.1 member with rfl | later
      · simp [Entries.get?]
      · have other : f.1 ≠ e.1 := fun same => absent (same ▸ List.mem_map_of_mem later)
        rw [Entries.get?, if_neg other, ih rest later]
  exact found m.distinct member

theorem mem_of_get?_extend {m : OrderedMap α β} {entries : List (α × β)} {k : α} {v : β}
    (found : (m.extend entries).get? k = some v) : m.get? k = some v ∨ (k, v) ∈ entries := by
  induction entries generalizing m with
  | nil => exact .inl found
  | cons e entries ih =>
    rcases ih (m := m.insert e.1 e.2) found with old | new
    · rw [get?_insert] at old
      split at old
      · next here =>
        cases old
        exact .inr (by simp [← here])
      · exact .inl old
    · exact .inr (List.mem_cons_of_mem _ new)

theorem contains_insert (m : OrderedMap α β) (k x : α) (v : β) :
    (m.insert k v).contains x = true ↔ k = x ∨ m.contains x = true := by
  rw [contains, contains, get?_insert]
  split
  · next here => simp [here]
  · next other => simp [other]

theorem contains_extend {m : OrderedMap α β} {entries : List (α × β)} {k : α} :
    (m.extend entries).contains k = true ↔ m.contains k = true ∨ ∃ e ∈ entries, e.1 = k := by
  induction entries generalizing m with
  | nil => simp [extend]
  | cons e entries ih =>
    have step : m.extend (e :: entries) = (m.insert e.1 e.2).extend entries := rfl
    rw [step, ih, contains_insert]
    simp only [List.mem_cons, exists_eq_or_imp, or_assoc, or_left_comm]

theorem contains_ofList {entries : List (α × β)} {k : α} :
    (ofList entries).contains k = true ↔ ∃ e ∈ entries, e.1 = k := by
  rw [ofList, contains_extend, or_iff_right]
  simp [contains]

theorem keys_ofList (entries : List (α × β)) :
    (ofList entries).keys = (entries.map Prod.fst).eraseDups := by
  induction entries using List.reverseRecOn with
  | nil => rfl
  | append_singleton entries e ih =>
    have step : ofList (entries ++ [e]) = (ofList entries).insert e.1 e.2 := extend_append ..
    rw [step, keys_insert, ih, List.map_append, List.map_singleton, eraseDups_concat,
      if_congr List.mem_eraseDups rfl rfl]
    split
    · rw [List.append_nil]
    · rfl

-- Of several values for a key the last one holds.
theorem get?_ofList (entries : List (α × β)) (k : α) :
    (ofList entries).get? k = ((entries.filter fun e => e.1 = k).getLast?).map Prod.snd := by
  induction entries using List.reverseRecOn with
  | nil => rfl
  | append_singleton entries e ih =>
    have step : ofList (entries ++ [e]) = (ofList entries).insert e.1 e.2 := extend_append ..
    rw [step, get?_insert, ih, List.filter_append]
    split
    · next here => simp [here]
    · next other => simp [other]

theorem entries_eq (m : OrderedMap α β) :
    m.entries = m.keys.filterMap fun k => (m.get? k).map (k, ·) := by
  have held : ∀ l ⊆ m.entries, l.filterMap (fun e => (m.get? e.1).map (e.1, ·)) = l := by
    intro l part
    induction l with
    | nil => rfl
    | cons e l ih =>
      obtain ⟨here, later⟩ := List.cons_subset.1 part
      have found : (m.get? e.1).map (e.1, ·) = some e := by
        rw [get?_of_mem here]
        rfl
      rw [List.filterMap_cons, found, ih later]
  rw [keys, List.filterMap_map]
  exact (held m.entries (List.Subset.refl _)).symm

theorem ext_get? {m n : OrderedMap α β} (keys : m.keys = n.keys) (values : m.get? = n.get?) :
    m = n := by
  apply ext_entries
  rw [m.entries_eq, n.entries_eq, keys, values]

theorem not_contains_iff {m : OrderedMap α β} {k : α} : (!m.contains k) = true ↔ k ∉ m.keys := by
  rw [mem_keys_iff, Bool.not_eq_true', Bool.not_eq_true]

theorem keys_extend_of_nodup {entries : List (α × β)} (distinct : (entries.map Prod.fst).Nodup)
    (m : OrderedMap α β) :
    (m.extend entries).keys = m.keys ++ (entries.map Prod.fst).filter (!m.contains ·) := by
  induction entries generalizing m with
  | nil => simp [extend]
  | cons e entries ih =>
    obtain ⟨absent, rest⟩ := List.nodup_cons.1 distinct
    have step : m.extend (e :: entries) = (m.insert e.1 e.2).extend entries := rfl
    have same : (entries.map Prod.fst).filter (!(m.insert e.1 e.2).contains ·) =
        (entries.map Prod.fst).filter (!m.contains ·) := by
      refine List.filter_congr fun k member => ?_
      have other : e.1 ≠ k := fun here => absent (here ▸ member)
      rw [contains, get?_insert, if_neg other, contains]
    rw [step, ih rest, same, keys_insert, List.map_cons]
    split
    · next old =>
      rw [List.filter_cons, if_neg fun new => not_contains_iff.1 new old]
    · next new =>
      rw [List.filter_cons, if_pos (not_contains_iff.2 new), List.append_assoc]
      rfl

theorem keys_extend (m n : OrderedMap α β) :
    (m.extend n.entries).keys = m.keys ++ n.keys.filter (!m.contains ·) :=
  keys_extend_of_nodup n.distinct m

theorem empty_extend (m : OrderedMap α β) : (empty : OrderedMap α β).extend m.entries = m := by
  apply ext_get?
  · simp [keys_extend, contains]
  · funext k
    rw [get?_extend, get?_empty, Option.or_none]

theorem extend_extend (a b c : OrderedMap α β) :
    (a.extend b.entries).extend c.entries = a.extend (b.extend c.entries).entries := by
  apply ext_get?
  · have later : c.keys.filter (!(a.extend b.entries).contains ·) =
        (c.keys.filter (!b.contains ·)).filter (!a.contains ·) := by
      rw [List.filter_filter]
      refine List.filter_congr fun k _ => ?_
      rw [contains, get?_extend, Option.isSome_or, Bool.not_or, Bool.and_comm]
      rfl
    rw [keys_extend, keys_extend, keys_extend, keys_extend, later, List.filter_append,
      List.append_assoc]
  · funext k
    rw [get?_extend, get?_extend, get?_extend, get?_extend, Option.or_assoc]

-- The entries of a list, each key once, at its first place and with its last value.
def settled (entries : List (α × β)) : List (α × β) :=
  (entries.map Prod.fst).eraseDups.filterMap fun k => (entries.filter fun e => e.1 = k).getLast?

theorem entries_ofList (entries : List (α × β)) : (ofList entries).entries = settled entries := by
  have keyed : ∀ k, ((ofList entries).get? k).map (k, ·) =
      (entries.filter fun e => e.1 = k).getLast? := by
    intro k
    rw [get?_ofList, Option.map_map]
    cases last : (entries.filter fun e => e.1 = k).getLast? with
    | none => rfl
    | some e =>
      have same : e.1 = k := by
        simpa using (List.mem_filter.1 (List.mem_of_getLast? last)).2
      rw [← same]
      rfl
  rw [entries_eq, keys_ofList, settled]
  exact congrArg (List.filterMap · _) (funext keyed)

theorem eq_ofList {m : OrderedMap α β} {entries : List (α × β)} (held : m.entries = settled entries) :
    m = ofList entries := ext_entries (held.trans (entries_ofList entries).symm)

end OrderedMap
end ComponentLoader
