import ComponentLoader.Proofs.Host.Stages

namespace ComponentLoader

-- The first stage of the component chain, the one that is put in front of the component compiler.
def Options.ownStage (o : Options) : Text := chainHead o.componentChain

namespace Rule

def hasCompiler (entries : List StageEntry) : Bool :=
  entries.any fun e => isComponentCompiler e.loader

def hasTranspiler (entries : List StageEntry) : Bool :=
  entries.any fun e => isTranspiler e.loader

def hasLoader (name : Text) (entries : List StageEntry) : Bool :=
  entries.any fun e => e.loader == name

theorem mem_insertOwnStage {own : Text} {entries : List StageEntry} {e : StageEntry}
    (compiler : hasCompiler entries = true) :
    e ∈ insertOwnStage own entries ↔ e = .name own ∨ e ∈ entries := by
  induction entries with
  | nil => cases compiler
  | cons f entries ih =>
    rw [insertOwnStage]
    split
    · simp
    · next other =>
      have later : hasCompiler entries = true := by
        simpa [hasCompiler, other] using compiler
      rw [List.mem_cons, ih later, List.mem_cons]
      exact or_left_comm

theorem sublist_insertOwnStage (own : Text) (entries : List StageEntry) :
    entries.Sublist (insertOwnStage own entries) := by
  induction entries with
  | nil => exact .slnil
  | cons e entries ih =>
    rw [insertOwnStage]
    split
    · exact List.sublist_cons_self _ _
    · exact ih.cons_cons e

variable (o : Options)

-- What a merge makes of a list of stages: the own stage in front of the compiler, and then, but for
-- the kit's scripts, the script stage behind the transpilers.
def ownList (entries : List StageEntry) : List StageEntry :=
  if o.adaptsComponents && hasCompiler entries && !hasLoader o.ownStage entries then
    insertOwnStage o.ownStage entries
  else entries

def scriptList (kit : Bool) (entries : List StageEntry) : List StageEntry :=
  if !kit && hasTranspiler entries && !hasLoader o.jsStage entries then
    entries ++ [.name o.jsStage]
  else entries

def mergeList (kit : Bool) (entries : List StageEntry) : List StageEntry :=
  scriptList o kit (ownList o entries)

variable {o}

theorem hasLoader_ownList {entries : List StageEntry} (adapts : o.adaptsComponents = true)
    (compiler : hasCompiler entries = true) : hasLoader o.ownStage (ownList o entries) = true := by
  unfold ownList
  cases present : hasLoader o.ownStage entries with
  | true => simp [present]
  | false =>
    rw [adapts, compiler, if_pos (by decide), hasLoader, List.any_eq_true]
    exact ⟨.name o.ownStage, (mem_insertOwnStage compiler).2 (.inl rfl),
      by simp [StageEntry.loader]⟩

theorem sublist_ownList (entries : List StageEntry) : entries.Sublist (ownList o entries) := by
  unfold ownList
  split
  · exact sublist_insertOwnStage _ entries
  · exact .refl entries

theorem sublist_scriptList (kit : Bool) (entries : List StageEntry) :
    entries.Sublist (scriptList o kit entries) := by
  unfold scriptList
  split
  · exact List.sublist_append_left _ _
  · exact .refl entries

theorem sublist_mergeList (kit : Bool) (entries : List StageEntry) :
    entries.Sublist (mergeList o kit entries) :=
  (sublist_ownList entries).trans (sublist_scriptList kit _)

theorem any_mono {p : StageEntry → Bool} {a b : List StageEntry} (part : a.Sublist b)
    (found : a.any p = true) : b.any p = true := by
  obtain ⟨e, member, holds⟩ := List.any_eq_true.1 found
  exact List.any_eq_true.2 ⟨e, part.subset member, holds⟩

theorem hasLoader_scriptList {entries : List StageEntry}
    (transpiler : hasTranspiler (scriptList o false entries) = true) :
    hasLoader o.jsStage (scriptList o false entries) = true := by
  unfold scriptList at transpiler ⊢
  cases present : hasLoader o.jsStage entries with
  | true => simp [present]
  | false =>
    rw [present] at transpiler
    cases found : hasTranspiler entries with
    | true => simp [hasLoader, StageEntry.loader]
    | false =>
      rw [found] at transpiler
      rw [if_neg (by decide), found] at transpiler
      cases transpiler

theorem ownList_eq_self_iff {entries : List StageEntry} : ownList o entries = entries ↔
    (o.adaptsComponents = true → hasCompiler entries = true →
      hasLoader o.ownStage entries = true) := by
  constructor
  · intro same adapts compiler
    rw [← same]
    exact hasLoader_ownList adapts compiler
  · intro present
    unfold ownList
    rw [if_neg]
    intro changed
    simp only [Bool.and_eq_true, Bool.not_eq_true'] at changed
    rw [present changed.1.1 changed.1.2] at changed
    exact Bool.noConfusion changed.2

theorem mergeList_eq_self_iff {kit : Bool} {entries : List StageEntry}
    (done : kit = false → hasTranspiler entries = true → hasLoader o.jsStage entries = true) :
    mergeList o kit entries = entries ↔
      (o.adaptsComponents = true → hasCompiler entries = true →
        hasLoader o.ownStage entries = true) := by
  rw [← ownList_eq_self_iff]
  constructor
  · intro same
    unfold mergeList scriptList at same
    split at same
    · have longer := congrArg List.length same
      have := (sublist_ownList (o := o) entries).length_le
      simp only [List.length_append, List.length_singleton] at longer
      omega
    · exact same
  · intro same
    unfold mergeList
    rw [same]
    unfold scriptList
    rw [if_neg]
    intro changed
    simp only [Bool.and_eq_true, Bool.not_eq_true'] at changed
    rw [done changed.1.1 changed.1.2] at changed
    exact Bool.noConfusion changed.2

theorem mergeList_done (kit : Bool) (entries : List StageEntry) : kit = false →
    hasTranspiler (mergeList o kit entries) = true →
      hasLoader o.jsStage (mergeList o kit entries) = true := by
  rintro rfl transpiler
  exact hasLoader_scriptList transpiler

-- A script stage that is a component compiler would be given the own stage by the next merge.
def ListSettles (o : Options) (entries : List StageEntry) : Prop :=
  o.adaptsComponents = true → isComponentCompiler o.jsStage = true →
    hasLoader o.ownStage entries = true ∨ o.ownStage = o.jsStage

theorem mergeList_of_not_compiler (kit : Bool) {entries : List StageEntry}
    (other : hasCompiler entries = false) : mergeList o kit entries = scriptList o kit entries := by
  rw [mergeList, ownList_eq_self_iff.2]
  intro _ compiler
  rw [other] at compiler
  cases compiler

theorem hasCompiler_scriptList (kit : Bool) (entries : List StageEntry) :
    hasCompiler (scriptList o kit entries) = true ↔ hasCompiler entries = true ∨
      kit = false ∧ hasTranspiler entries = true ∧ isComponentCompiler o.jsStage = true := by
  cases compiler : hasCompiler entries with
  | true => exact iff_of_true (any_mono (sublist_scriptList kit entries) compiler) (.inl rfl)
  | false =>
    unfold scriptList
    cases present : hasLoader o.jsStage entries with
    | true =>
      obtain ⟨e, member, same⟩ := List.any_eq_true.1 present
      have absent : isComponentCompiler o.jsStage = false := by
        rw [← beq_iff_eq.1 same]
        simpa using List.any_eq_false.1 compiler e member
      simp [compiler, absent]
    | false =>
      cases kit with
      | true => simp [compiler]
      | false =>
        cases transpiler : hasTranspiler entries with
        | false => simp [compiler]
        | true =>
          have split : hasCompiler (entries ++ [.name o.jsStage]) =
              (hasCompiler entries || isComponentCompiler o.jsStage) := by
            simp [hasCompiler, StageEntry.loader]
          simp [split, compiler]

theorem hasCompiler_mergeList (kit : Bool) (entries : List StageEntry) :
    hasCompiler (mergeList o kit entries) = true ↔ hasCompiler entries = true ∨
      kit = false ∧ hasTranspiler entries = true ∧ isComponentCompiler o.jsStage = true := by
  cases compiler : hasCompiler entries with
  | true => exact iff_of_true (any_mono (sublist_mergeList kit entries) compiler) (.inl rfl)
  | false => rw [mergeList_of_not_compiler kit compiler, hasCompiler_scriptList, compiler]

theorem hasLoader_of_scriptList {kit : Bool} {name : Text} {entries : List StageEntry}
    (present : hasLoader name (scriptList o kit entries) = true) :
    hasLoader name entries = true ∨ name = o.jsStage := by
  unfold scriptList at present
  split at present
  · simp only [hasLoader, List.any_append, Bool.or_eq_true, List.any_cons, List.any_nil,
      Bool.or_false, StageEntry.loader, beq_iff_eq] at present
    rcases present with here | last
    · exact .inl here
    · exact .inr last.symm
  · exact .inl present

theorem mergeList_mergeList_iff (kit : Bool) (entries : List StageEntry) :
    mergeList o kit (mergeList o kit entries) = mergeList o kit entries ↔
      (kit = false → hasTranspiler entries = true → hasCompiler entries = true ∨
        ListSettles o entries) := by
  have kept := sublist_mergeList (o := o) kit entries
  rw [mergeList_eq_self_iff (mergeList_done kit entries), hasCompiler_mergeList]
  constructor
  · intro owned plain transpiler
    cases compiler : hasCompiler entries with
    | true => exact .inl rfl
    | false =>
      refine .inr fun adapts script => ?_
      have present := owned adapts (.inr ⟨plain, transpiler, script⟩)
      rw [mergeList_of_not_compiler kit compiler] at present
      exact hasLoader_of_scriptList present
  · rintro settles adapts (compiler | ⟨plain, transpiler, script⟩)
    · exact any_mono (sublist_scriptList kit _) (hasLoader_ownList adapts compiler)
    · rcases settles plain transpiler with compiler | settles
      · exact any_mono (sublist_scriptList kit _) (hasLoader_ownList adapts compiler)
      · rcases settles adapts script with present | same
        · exact any_mono kept present
        · rw [same]
          exact mergeList_done kit entries plain (any_mono kept transpiler)

end Rule
end ComponentLoader
