import ComponentLoader.Locale.Component
import ComponentLoader.Proofs.OrderedMap
import ComponentLoader.Proofs.Yaml.Same

namespace ComponentLoader
namespace ComponentLocales

open Yaml.Value (Equal)

def Alike : Option Yaml.Value → Option Yaml.Value → Prop
  | some v, some w => Equal v w
  | none, none => True
  | _, _ => False

instance : ∀ v w, Decidable (Alike v w)
  | some v, some w => inferInstanceAs (Decidable (Equal v w))
  | none, none => .isTrue trivial
  | some _, none => .isFalse id
  | none, some _ => .isFalse id

theorem Alike.refl : ∀ v, Alike v v
  | some v => Equal.refl v
  | none => trivial

theorem Alike.symm : ∀ {v w}, Alike v w → Alike w v
  | some _, some _, equal => Equal.symm equal
  | none, none, _ => trivial

theorem Alike.trans : ∀ {u v w}, Alike u v → Alike v w → Alike u w
  | some _, some _, some _, first, last => Equal.trans first last
  | none, none, none, _, _ => trivial

-- Equal entries under the same names, in whatever order.
def Same (T U : ComponentLocales) : Prop := ∀ key, Alike (T.get? key) (U.get? key)

variable {T U V block : ComponentLocales}

instance : Decidable (Same T U) :=
  decidable_of_iff (∀ key ∈ T.keys ++ U.keys, Alike (T.get? key) (U.get? key)) <| by
    refine ⟨fun listed key => ?_, fun same key _ => same key⟩
    by_cases member : key ∈ T.keys ++ U.keys
    · exact listed key member
    · rw [List.mem_append, not_or] at member
      rw [OrderedMap.get?_eq_none_iff.2 member.1, OrderedMap.get?_eq_none_iff.2 member.2]
      trivial

theorem Same.refl (T : ComponentLocales) : T.Same T := fun _ => .refl _

theorem Same.symm (same : T.Same U) : U.Same T := fun key => (same key).symm

theorem Same.trans (first : T.Same U) (last : U.Same V) : T.Same V :=
  fun key => (first key).trans (last key)

theorem Same.extend (same : T.Same U) (block : ComponentLocales) :
    Same (T.extend block.entries) (U.extend block.entries) := by
  intro key
  rw [OrderedMap.get?_extend, OrderedMap.get?_extend]
  cases OrderedMap.get? block key with
  | none => exact same key
  | some v => exact .refl (some v)

def Distinct (T : ComponentLocales) : Prop := ∀ key v, T.get? key = some v → v.Distinct

theorem Distinct.extend (distinct : T.Distinct) (others : block.Distinct) :
    Distinct (T.extend block.entries) := by
  intro key v found
  rw [OrderedMap.get?_extend] at found
  cases here : OrderedMap.get? block key with
  | none =>
    rw [here] at found
    exact distinct key v found
  | some w =>
    rw [here] at found
    cases found
    exact others key v here

theorem distinct_empty : Distinct .empty := by
  intro key v found
  cases found

theorem distinct_of_entries? {trees : List (Text × Yaml.Tree)} {es : List (Text × Yaml.Value)}
    (read : entries? trees = some es) : ∀ e ∈ es, e.2.Distinct := by
  induction trees generalizing es with
  | nil =>
    cases read
    simp
  | cons t trees ih =>
    obtain ⟨v, first, read⟩ := Option.bind_eq_some_iff.1 read
    obtain ⟨rest, others, same⟩ := Option.bind_eq_some_iff.1 read
    cases same
    exact List.forall_mem_cons.2 ⟨Yaml.Value.distinct_ofTree? first, ih others⟩

theorem distinct_of_parse? {content : Text} (read : parse? content = some T) : T.Distinct := by
  unfold parse? at read
  split at read
  · cases read
    exact distinct_empty
  · obtain ⟨es, found, rfl⟩ := Option.map_eq_some_iff.1 read
    obtain ⟨trees, -, entries⟩ := Option.bind_eq_some_iff.1 found
    intro key v member
    rcases OrderedMap.mem_of_get?_extend member with none_ | inside
    · cases none_
    · exact distinct_of_entries? entries _ inside

theorem holds_iff {e : Text × Yaml.Value} :
    T.holds e = true ↔ ∃ v, T.get? e.1 = some v ∧ v.same e.2 = true := by
  unfold holds
  cases OrderedMap.get? T e.1 <;> simp

-- The entries of a block are all there just when the table extended by them is the same.
theorem all_holds_iff (distinct : T.Distinct) (others : block.Distinct) :
    block.entries.all T.holds = true ↔ T.Same (T.extend block.entries) := by
  rw [List.all_eq_true]
  constructor
  · intro held key
    rw [OrderedMap.get?_extend]
    cases here : OrderedMap.get? block key with
    | none => exact .refl _
    | some w =>
      obtain ⟨v, found, equal⟩ := holds_iff.1 (held (key, w) (Entries.mem_of_get? here))
      have back := Yaml.Value.same_symm (distinct key v found) (others key w here) equal
      dsimp only at found
      rw [found]
      exact ⟨equal, back⟩
  · intro same e member
    have there := same e.1
    rw [OrderedMap.get?_extend, OrderedMap.get?_of_mem member] at there
    cases found : OrderedMap.get? T e.1 with
    | none =>
      rw [found] at there
      cases there
    | some v =>
      rw [found] at there
      exact holds_iff.2 ⟨v, found, there.1⟩

end ComponentLocales
end ComponentLoader
