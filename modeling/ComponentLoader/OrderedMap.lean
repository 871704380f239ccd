namespace ComponentLoader

namespace Entries

variable [DecidableEq α]

-- Writing to a key that is there changes the value and not the place.
def put (k : α) (v : β) : List (α × β) → List (α × β)
  | [] => [(k, v)]
  | (a, b) :: r => if a = k then (a, v) :: r else (a, b) :: put k v r

def get? (k : α) : List (α × β) → Option β
  | [] => none
  | (a, b) :: r => if a = k then some b else get? k r

theorem keys_put (k : α) (v : β) (l : List (α × β)) :
    (put k v l).map Prod.fst =
      if k ∈ l.map Prod.fst then l.map Prod.fst else l.map Prod.fst ++ [k] := by
  induction l with
  | nil => simp [put]
  | cons e r ih =>
    obtain ⟨a, b⟩ := e
    by_cases h : a = k
    · simp [put, h]
    · have h' : ¬k = a := fun e => h e.symm
      by_cases m : k ∈ r.map Prod.fst
      · simp only [put, h, if_false, List.map_cons, ih, m, if_true, List.mem_cons, or_true]
      · simp only [put, h, if_false, List.map_cons, ih, m, List.mem_cons, h', or_false,
          List.cons_append]

theorem get?_put (k x : α) (v : β) (l : List (α × β)) :
    get? x (put k v l) = if k = x then some v else get? x l := by
  induction l with
  | nil => simp [put, get?]
  | cons e r ih =>
    obtain ⟨a, b⟩ := e
    by_cases h : a = k
    · subst h
      by_cases hx : a = x <;> simp [put, get?, hx]
    · by_cases hx : a = x
      · have : ¬k = x := fun e => h (hx.trans e.symm)
        rw [put, if_neg h, get?, get?, if_pos hx, if_neg this, if_pos hx]
      · simp [put, get?, h, hx, ih]

theorem get?_eq_none_iff {k : α} {l : List (α × β)} : get? k l = none ↔ k ∉ l.map Prod.fst := by
  induction l with
  | nil => simp [get?]
  | cons e r ih =>
    obtain ⟨a, b⟩ := e
    by_cases h : a = k
    · simp [get?, h]
    · have h' : ¬k = a := fun e => h e.symm
      simp only [get?, h, if_false, ih, List.map_cons, List.mem_cons, h', false_or]

theorem mem_of_get? {k : α} {v : β} {l : List (α × β)} (found : get? k l = some v) : (k, v) ∈ l := by
  induction l with
  | nil => cases found
  | cons e r ih =>
    obtain ⟨a, b⟩ := e
    rw [get?] at found
    split at found
    · next here =>
      cases found
      simp [here]
    · exact List.mem_cons_of_mem _ (ih found)

end Entries

structure OrderedMap (α β : Type) [DecidableEq α] where
  entries : List (α × β)
  distinct : (entries.map Prod.fst).Nodup

namespace OrderedMap

variable {α β : Type} [DecidableEq α]

theorem ext_entries {m n : OrderedMap α β} (h : m.entries = n.entries) : m = n := by
  cases m; cases n; cases h; rfl

instance [DecidableEq β] : DecidableEq (OrderedMap α β) := fun m n =>
  decidable_of_iff (m.entries = n.entries) ⟨ext_entries, fun h => h ▸ rfl⟩

def empty : OrderedMap α β := ⟨[], by simp⟩

instance : EmptyCollection (OrderedMap α β) := ⟨empty⟩

instance : Inhabited (OrderedMap α β) := ⟨empty⟩

def keys (m : OrderedMap α β) : List α := m.entries.map Prod.fst

def size (m : OrderedMap α β) : Nat := m.entries.length

def isEmpty (m : OrderedMap α β) : Bool := m.entries.isEmpty

def get? (m : OrderedMap α β) (k : α) : Option β := Entries.get? k m.entries

def contains (m : OrderedMap α β) (k : α) : Bool := (m.get? k).isSome

def insert (m : OrderedMap α β) (k : α) (v : β) : OrderedMap α β where
  entries := Entries.put k v m.entries
  distinct := by
    rw [Entries.keys_put]
    split
    · exact m.distinct
    · next h =>
      refine List.nodup_append.2 ⟨m.distinct, by simp, ?_⟩
      intro a ha b hb
      rw [List.mem_singleton] at hb
      exact fun e => h (hb ▸ e ▸ ha)

def extend (m : OrderedMap α β) (entries : List (α × β)) : OrderedMap α β :=
  entries.foldl (fun m e => m.insert e.1 e.2) m

def ofList (entries : List (α × β)) : OrderedMap α β := empty.extend entries

def erase (m : OrderedMap α β) (k : α) : OrderedMap α β where
  entries := m.entries.filter fun e => e.1 ≠ k
  distinct := m.distinct.sublist (List.filter_sublist.map _)

def map (m : OrderedMap α β) (f : α → β → γ) : OrderedMap α γ where
  entries := m.entries.map fun e => (e.1, f e.1 e.2)
  distinct := by simpa [Function.comp_def] using m.distinct

@[simp] theorem get?_empty (k : α) : (empty : OrderedMap α β).get? k = none := rfl

@[simp] theorem keys_empty : (empty : OrderedMap α β).keys = [] := rfl

theorem get?_insert (m : OrderedMap α β) (k x : α) (v : β) :
    (m.insert k v).get? x = if k = x then some v else m.get? x :=
  Entries.get?_put k x v m.entries

theorem keys_insert (m : OrderedMap α β) (k : α) (v : β) :
    (m.insert k v).keys = if k ∈ m.keys then m.keys else m.keys ++ [k] :=
  Entries.keys_put k v m.entries

theorem get?_eq_none_iff {m : OrderedMap α β} {k : α} : m.get? k = none ↔ k ∉ m.keys :=
  Entries.get?_eq_none_iff

end OrderedMap
end ComponentLoader
