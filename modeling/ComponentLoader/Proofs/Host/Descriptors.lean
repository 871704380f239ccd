import ComponentLoader.Host.Merge
import ComponentLoader.Proofs.OrderedMap
import Mathlib.Data.List.Induction

namespace ComponentLoader
namespace Descriptor

-- Of all descriptors given so far, the last one of its name.
def LastOf (given : List Descriptor) (d : Descriptor) : Prop :=
  ∃ earlier later, given = earlier ++ d :: later ∧ ∀ e ∈ later, e.name ≠ d.name

def names (ds : List Descriptor) : List Text := ds.map (·.name)

theorem names_put (d : Descriptor) (ds : List Descriptor) :
    names (d.put ds) = if d.name ∈ names ds then names ds else names ds ++ [d.name] := by
  induction ds with
  | nil => simp [put, names]
  | cons e ds ih =>
    unfold names at ih ⊢
    rw [put]
    by_cases same : e.name = d.name
    · simp [same]
    · have other : d.name ≠ e.name := fun back => same back.symm
      rw [if_neg same, List.map_cons, ih, List.map_cons]
      by_cases member : d.name ∈ ds.map (·.name)
      · rw [if_pos member, if_pos (List.mem_cons_of_mem _ member)]
      · rw [if_neg member, if_neg (by rw [List.mem_cons, not_or]; exact ⟨other, member⟩),
          List.cons_append]

theorem mem_put {d e : Descriptor} {ds : List Descriptor} (distinct : (names ds).Nodup)
    (member : e ∈ d.put ds) : e = d ∨ e ∈ ds ∧ e.name ≠ d.name := by
  induction ds with
  | nil => exact .inl (List.mem_singleton.1 member)
  | cons f ds ih =>
    obtain ⟨apart, later⟩ := List.nodup_cons.1 distinct
    rw [put] at member
    split at member
    · next same =>
      rcases List.mem_cons.1 member with here | behind
      · exact .inl here
      · refine .inr ⟨List.mem_cons_of_mem _ behind, fun equal => apart ?_⟩
        dsimp only
        rw [same, ← equal]
        exact List.mem_map_of_mem behind
    · next other =>
      rcases List.mem_cons.1 member with rfl | behind
      · exact .inr ⟨List.mem_cons_self, other⟩
      · rcases ih later behind with here | ⟨inside, differs⟩
        · exact .inl here
        · exact .inr ⟨List.mem_cons_of_mem _ inside, differs⟩

theorem putAll_append (merged a b : List Descriptor) :
    putAll merged (a ++ b) = putAll (putAll merged a) b := List.foldl_append

theorem names_putAll (given : List Descriptor) :
    names (putAll [] given) = (names given).eraseDups := by
  induction given using List.reverseRecOn with
  | nil => rfl
  | append_singleton given d ih =>
    have same : d.name ∈ (names given).eraseDups ↔ d.name ∈ names given := List.mem_eraseDups
    have step : putAll [] (given ++ [d]) = d.put (putAll [] given) := putAll_append ..
    have split : names (given ++ [d]) = names given ++ [d.name] := by simp [names]
    rw [step, names_put, ih, split, eraseDups_concat, if_congr same rfl rfl]
    split
    · rw [List.append_nil]
    · rfl

theorem nodup_putAll (given : List Descriptor) : (names (putAll [] given)).Nodup := by
  induction given using List.reverseRecOn with
  | nil => exact List.nodup_nil
  | append_singleton given d ih =>
    have step : putAll [] (given ++ [d]) = d.put (putAll [] given) := putAll_append ..
    rw [step, names_put]
    split
    · exact ih
    · next absent =>
      refine List.nodup_append.2 ⟨ih, by simp, ?_⟩
      rintro a here b last rfl
      exact absent (List.mem_singleton.1 last ▸ here)

theorem lastOf_of_mem_putAll {given : List Descriptor} {d : Descriptor}
    (member : d ∈ putAll [] given) : LastOf given d := by
  induction given using List.reverseRecOn with
  | nil => cases member
  | append_singleton given e ih =>
    rw [putAll_append] at member
    rcases mem_put (nodup_putAll given) member with rfl | ⟨inside, other⟩
    · exact ⟨given, [], rfl, by simp⟩
    · obtain ⟨earlier, later, rfl, none_⟩ := ih inside
      refine ⟨earlier, later ++ [e], by simp, ?_⟩
      intro f here
      rcases List.mem_append.1 here with behind | last
      · exact none_ f behind
      · rw [List.mem_singleton.1 last]
        exact fun back => other back.symm

-- A descriptor that is left where descriptors of the names come in: each name takes the place of
-- the first one that has it.
def Stands (incoming : List Text) (ds : List Descriptor) (d : Descriptor) : Prop :=
  ∃ earlier later, ds = earlier ++ d :: later ∧ (d.name ∈ incoming → d.name ∈ names earlier)

theorem stands_nil {incoming : List Text} {d : Descriptor} : ¬Stands incoming [] d := by
  rintro ⟨earlier, later, split, -⟩
  exact List.append_ne_nil_of_right_ne_nil earlier (List.cons_ne_nil d later) split.symm

theorem stands_cons {incoming : List Text} {e d : Descriptor} {ds : List Descriptor} :
    Stands incoming (e :: ds) d ↔
      d = e ∧ e.name ∉ incoming ∨ Stands (incoming.filter (· ≠ e.name)) ds d := by
  constructor
  · rintro ⟨earlier, later, split, kept⟩
    cases earlier with
    | nil =>
      obtain ⟨rfl, rfl⟩ := List.cons.inj split
      exact .inl ⟨rfl, fun member => by cases kept member⟩
    | cons f earlier =>
      obtain ⟨rfl, rfl⟩ := List.cons.inj split
      refine .inr ⟨earlier, later, rfl, fun member => ?_⟩
      obtain ⟨listed, other⟩ := List.mem_filter.1 member
      rcases List.mem_cons.1 (kept listed) with same | before
      · exact absurd same (by simpa using other)
      · exact before
  · rintro (⟨rfl, absent⟩ | ⟨earlier, later, rfl, kept⟩)
    · exact ⟨[], ds, rfl, fun member => absurd member absent⟩
    · refine ⟨e :: earlier, later, rfl, fun listed => ?_⟩
      by_cases same : d.name = e.name
      · exact List.mem_cons.2 (.inl same)
      · exact List.mem_cons_of_mem _ (kept (List.mem_filter.2 ⟨listed, by simpa using same⟩))

theorem stands_put {incoming : List Text} {e : Descriptor} (fresh : e.name ∉ incoming)
    (ds : List Descriptor) {d : Descriptor} :
    Stands incoming (e.put ds) d ↔ d = e ∨ Stands (e.name :: incoming) ds d := by
  induction ds generalizing incoming with
  | nil => simp [put, stands_cons, stands_nil, fresh]
  | cons f ds ih =>
    rw [put]
    split
    · next same =>
      simp [stands_cons, same, fresh]
    · next other =>
      have apart : e.name ≠ f.name := fun back => other back.symm
      have left : e.name ∉ incoming.filter (· ≠ f.name) := fun member =>
        fresh (List.mem_filter.1 member).1
      rw [stands_cons, ih left, stands_cons, List.filter_cons_of_pos (by simpa using apart),
        List.mem_cons, not_or]
      constructor
      · rintro (⟨here, absent⟩ | here | behind)
        · exact .inr (.inl ⟨here, other, absent⟩)
        · exact .inl here
        · exact .inr (.inr behind)
      · rintro (here | ⟨here, -, absent⟩ | behind)
        · exact .inr (.inl here)
        · exact .inl ⟨here, absent⟩
        · exact .inr (.inr behind)

-- What comes in is merged, and of what was there all that nothing takes the place of.
theorem mem_putAll_iff {incoming : List Descriptor} (distinct : (names incoming).Nodup)
    (merged : List Descriptor) {d : Descriptor} :
    d ∈ putAll merged incoming ↔ d ∈ incoming ∨ Stands (names incoming) merged d := by
  induction incoming generalizing merged with
  | nil =>
    have all : Stands (names []) merged d ↔ d ∈ merged := by
      simp [Stands, names, List.mem_iff_append]
    rw [all]
    simp [putAll]
  | cons e incoming ih =>
    obtain ⟨apart, rest⟩ : e.name ∉ names incoming ∧ (names incoming).Nodup :=
      List.nodup_cons.1 distinct
    have step : putAll merged (e :: incoming) = putAll (e.put merged) incoming := rfl
    rw [step, ih rest, stands_put apart, List.mem_cons, or_assoc, or_left_comm]
    rfl

end Descriptor
end ComponentLoader
