import ComponentLoader.Stylesheet
import Mathlib.Data.List.Infix
import Mathlib.Data.List.Induction

namespace ComponentLoader
namespace Stylesheet

def depthBehind (d : Nat) (c : Char) : Nat :=
  if c = '\x7b' then d + 1 else if c = '\x7d' then d - 1 else d

def depth (d : Nat) (s : Text) : Nat := s.foldl depthBehind d

def Returns (d : Nat) (s : Text) : Prop := depth d s = 0 ∧ 0 < depth d s.dropLast

structure IsBlock (d : Nat) (b : Text) : Prop where
  returns : Returns d b
  shortest : ∀ p, p <+: b → Returns d p → p = b

-- The successive blocks of a text that begins `d` braces deep, and what follows the last of them.
inductive Cut : Nat → Text → List Text → Text → Prop where
  | rest (open_ : ∀ p, p <+: s → ¬Returns d p) : Cut d s [] s
  | block (first : IsBlock d b) (later : Cut 0 s bs rest) : Cut d (b ++ s) (b :: bs) rest

theorem depth_append (d : Nat) (a b : Text) : depth d (a ++ b) = depth (depth d a) b :=
  List.foldl_append

theorem not_returns_nil (d : Nat) : ¬Returns d [] := by
  rintro ⟨zero, positive⟩
  change d = 0 at zero
  change 0 < d at positive
  omega

theorem open_nil (d : Nat) : ∀ p, p <+: [] → ¬Returns d p := by
  intro p part
  rw [List.prefix_nil.1 part]
  exact not_returns_nil d

theorem depthBehind_eq_zero_iff {d : Nat} {c : Char} :
    depthBehind d c = 0 ∧ 0 < d ↔ c = '\x7d' ∧ d = 1 := by
  unfold depthBehind
  split
  · next opening =>
    subst opening
    simp
  · split
    · next closing =>
      subst closing
      simp only [true_and]
      omega
    · next other =>
      simp only [other, false_and, iff_false]
      omega

theorem returns_cons {d : Nat} {c : Char} {s : Text} :
    Returns d (c :: s) ↔ s = [] ∧ c = '\x7d' ∧ d = 1 ∨ Returns (depthBehind d c) s := by
  cases s with
  | nil =>
    have nothing := not_returns_nil (depthBehind d c)
    simp only [nothing, or_false, true_and]
    exact depthBehind_eq_zero_iff
  | cons x s =>
    simp only [List.cons_ne_nil, false_and, false_or]
    exact Iff.rfl

theorem braces_eq (d : Nat) (c : Char) :
    braces d c = (depthBehind d c, decide (c = '\x7d' ∧ d = 1)) := by
  unfold braces depthBehind
  split
  · next opening =>
    subst opening
    rfl
  · split
    · next closing => simp [closing.1]
    · next other =>
      rw [not_and_or] at other
      rcases other with other | zero
      · simp [other]
      · have none_ : d = 0 := by omega
        simp [none_]

theorem isBlock_closing : IsBlock 1 ['\x7d'] where
  returns := returns_cons.2 (.inl ⟨rfl, rfl, rfl⟩)
  shortest p part returns := by
    rcases List.prefix_cons_iff.1 part with rfl | ⟨t, rfl, inside⟩
    · exact absurd returns (not_returns_nil 1)
    · rw [List.prefix_nil.1 inside]

theorem IsBlock.cons {d : Nat} {c : Char} {b : Text} (stays : ¬(c = '\x7d' ∧ d = 1))
    (block : IsBlock (depthBehind d c) b) : IsBlock d (c :: b) where
  returns := returns_cons.2 (.inr block.returns)
  shortest p part returns := by
    rcases List.prefix_cons_iff.1 part with rfl | ⟨t, rfl, inside⟩
    · exact absurd returns (not_returns_nil d)
    · rcases returns_cons.1 returns with ⟨-, closing⟩ | later
      · exact absurd closing stays
      · rw [block.shortest t inside later]

theorem open_cons {d : Nat} {c : Char} {s : Text} (stays : ¬(c = '\x7d' ∧ d = 1))
    (open_ : ∀ p, p <+: s → ¬Returns (depthBehind d c) p) : ∀ p, p <+: c :: s → ¬Returns d p := by
  intro p part returns
  rcases List.prefix_cons_iff.1 part with rfl | ⟨t, rfl, inside⟩
  · exact not_returns_nil d returns
  · rcases returns_cons.1 returns with ⟨-, closing⟩ | later
    · exact stays closing
    · exact open_ t inside later

theorem cut_blocks (d : Nat) (s : Text) : Cut d s (blocks d s).1 (blocks d s).2 := by
  induction s generalizing d with
  | nil => exact .rest (open_nil d)
  | cons c s ih =>
    rw [blocks, braces_eq]
    by_cases closes : c = '\x7d' ∧ d = 1
    · obtain ⟨rfl, rfl⟩ := closes
      exact .block isBlock_closing (ih 0)
    · have later := ih (depthBehind d c)
      rw [decide_eq_false closes]
      dsimp only
      cases read : blocks (depthBehind d c) s with
      | mk bs rest =>
        rw [read] at later
        cases later with
        | rest open_ => exact .rest (open_cons closes open_)
        | block first behind => exact .block (first.cons closes) behind

theorem Cut.unique {d : Nat} {s rest rest' : Text} {bs bs' : List Text}
    (left : Cut d s bs rest) (right : Cut d s bs' rest') : bs' = bs ∧ rest' = rest := by
  induction left generalizing bs' rest' with
  | rest open_ =>
    cases right with
    | rest => exact ⟨rfl, rfl⟩
    | block first => exact absurd first.returns (open_ _ (List.prefix_append _ _))
  | @block d b s bs rest first later ih =>
    generalize same : b ++ s = whole at right
    cases right with
    | rest open_ =>
      subst same
      exact absurd first.returns (open_ _ (List.prefix_append _ _))
    | @block _ b' s' _ _ first' later' =>
      have front : b' <+: b ++ s := same ▸ List.prefix_append b' s'
      have equal : b' = b := by
        rcases List.prefix_or_prefix_of_prefix front (List.prefix_append b s) with part | part
        · exact first.shortest b' part first'.returns
        · exact (first'.shortest b part first.returns).symm
      subst equal
      obtain ⟨rfl, rfl⟩ := ih (List.append_cancel_left same ▸ later')
      exact ⟨rfl, rfl⟩

theorem cut_iff {s rest : Text} {bs : List Text} : Cut 0 s bs rest ↔
    (∀ b ∈ bs, IsBlock 0 b) ∧ (∀ p, p <+: rest → ¬Returns 0 p) ∧ s = bs.flatten ++ rest := by
  constructor
  · intro cut
    generalize zero : 0 = d at cut
    induction cut with
    | rest open_ => exact ⟨by simp, open_, rfl⟩
    | block first later ih =>
      subst zero
      obtain ⟨all, open_, whole⟩ := ih rfl
      refine ⟨List.forall_mem_cons.2 ⟨first, all⟩, open_, ?_⟩
      rw [whole, List.flatten_cons, List.append_assoc]
  · rintro ⟨all, open_, rfl⟩
    induction bs with
    | nil => exact .rest open_
    | cons b bs ih =>
      rw [List.forall_mem_cons] at all
      rw [List.flatten_cons, List.append_assoc]
      exact .block all.1 (ih all.2)

def IsNew (bs : List Text) (e : Text × Nat) : Prop := ∀ a ∈ bs.take e.2, Text.trim a ≠ Text.trim e.1

instance (bs : List Text) (e : Text × Nat) : Decidable (IsNew bs e) :=
  inferInstanceAs (Decidable (∀ a ∈ bs.take e.2, Text.trim a ≠ Text.trim e.1))

def novel (bs : List Text) : List Text := (bs.zipIdx.filter fun e => IsNew bs e).map Prod.fst

theorem isNew_concat_iff {bs : List Text} {b : Text} {e : Text × Nat} (member : e ∈ bs.zipIdx) :
    IsNew (bs ++ [b]) e ↔ IsNew bs e := by
  have inside : e.2 < 0 + bs.length := List.snd_lt_add_of_mem_zipIdx member
  have earlier : (bs ++ [b]).take e.2 = bs.take e.2 := List.take_append_of_le_length (by omega)
  rw [IsNew, IsNew, earlier]

theorem isNew_last_iff {bs : List Text} {b : Text} :
    IsNew (bs ++ [b]) (b, bs.length) ↔ Text.trim b ∉ bs.map Text.trim := by
  unfold IsNew
  rw [List.take_left, List.mem_map]
  exact ⟨fun new ⟨a, member, alike⟩ => new a member alike,
    fun absent a member alike => absent ⟨a, member, alike⟩⟩

theorem novel_concat (bs : List Text) (b : Text) : novel (bs ++ [b]) =
    novel bs ++ if Text.trim b ∈ bs.map Text.trim then [] else [b] := by
  have front : bs.zipIdx.filter (fun e => decide (IsNew (bs ++ [b]) e)) =
      bs.zipIdx.filter fun e => decide (IsNew bs e) :=
    List.filter_congr fun e member => decide_eq_decide.2 (isNew_concat_iff member)
  unfold novel
  rw [List.zipIdx_append, List.filter_append, List.map_append, front, Nat.zero_add,
    List.zipIdx_singleton]
  congr 1
  by_cases seen : Text.trim b ∈ bs.map Text.trim
  · have old : ¬IsNew (bs ++ [b]) (b, bs.length) := fun new => isNew_last_iff.1 new seen
    simp [old, seen]
  · have new : IsNew (bs ++ [b]) (b, bs.length) := isNew_last_iff.2 seen
    simp [new, seen]

theorem firstBlocks_concat (seen bs : List Text) (b : Text) : firstBlocks seen (bs ++ [b]) =
    firstBlocks seen bs ++ if Text.trim b ∈ seen ∨ Text.trim b ∈ bs.map Text.trim then [] else [b] := by
  induction bs generalizing seen with
  | nil => simp [firstBlocks]
  | cons a bs ih =>
    rw [List.cons_append, firstBlocks, firstBlocks, ih, ih, List.map_cons]
    by_cases repeated : Text.trim a ∈ seen
    · have known : Text.trim b ∈ seen ∨ Text.trim b ∈ bs.map Text.trim ↔
          Text.trim b ∈ seen ∨ Text.trim b ∈ Text.trim a :: bs.map Text.trim := by
        rw [List.mem_cons]
        exact ⟨.imp_right .inr, fun either => either.elim .inl fun
          | .inl same => .inl (same ▸ repeated)
          | .inr later => .inr later⟩
      rw [if_pos repeated, if_pos repeated, if_congr known rfl rfl]
    · have moved : Text.trim b ∈ Text.trim a :: seen ∨ Text.trim b ∈ bs.map Text.trim ↔
          Text.trim b ∈ seen ∨ Text.trim b ∈ Text.trim a :: bs.map Text.trim := by
        rw [List.mem_cons, List.mem_cons]
        exact or_assoc.trans or_left_comm
      rw [if_neg repeated, if_neg repeated, if_congr moved rfl rfl, List.cons_append]

theorem firstBlocks_eq (bs : List Text) : firstBlocks [] bs = novel bs := by
  induction bs using List.reverseRecOn with
  | nil => rfl
  | append_singleton bs b ih =>
    rw [firstBlocks_concat, novel_concat, ih]
    simp

theorem novel_sublist (bs : List Text) : (novel bs).Sublist bs := by
  induction bs using List.reverseRecOn with
  | nil => exact List.Sublist.refl _
  | append_singleton bs b ih =>
    rw [novel_concat]
    refine ih.append ?_
    split
    · exact List.nil_sublist _
    · exact List.Sublist.refl _

theorem mem_trims_novel {bs : List Text} {t : Text} :
    t ∈ (novel bs).map Text.trim ↔ t ∈ bs.map Text.trim := by
  induction bs using List.reverseRecOn with
  | nil => rfl
  | append_singleton bs b ih =>
    rw [novel_concat, List.map_append, List.mem_append, List.map_append, List.mem_append, ih]
    split
    · next seen =>
      refine or_congr_right' fun new => ?_
      simp only [List.map_nil, List.not_mem_nil, List.map_cons, List.mem_singleton, false_iff]
      exact fun same => new (same ▸ seen)
    · exact Iff.rfl

theorem nodup_trims_novel (bs : List Text) : ((novel bs).map Text.trim).Nodup := by
  induction bs using List.reverseRecOn with
  | nil => exact List.nodup_nil
  | append_singleton bs b ih =>
    rw [novel_concat, List.map_append]
    split
    · simpa using ih
    · next new =>
      refine List.nodup_append.2 ⟨ih, by simp, ?_⟩
      intro t inside u single same
      rw [List.map_cons, List.map_nil, List.mem_singleton] at single
      exact new (single ▸ same ▸ mem_trims_novel.1 inside)

theorem novel_of_nodup {bs : List Text} (distinct : (bs.map Text.trim).Nodup) : novel bs = bs := by
  induction bs using List.reverseRecOn with
  | nil => rfl
  | append_singleton bs b ih =>
    rw [List.map_append, List.nodup_append] at distinct
    obtain ⟨before, -, apart⟩ := distinct
    have new : Text.trim b ∉ bs.map Text.trim := fun seen => apart _ seen _ (by simp) rfl
    rw [novel_concat, ih before, if_neg new]

theorem dedupe_of_cut {css rest : Text} {bs : List Text} (cut : Cut 0 css bs rest) :
    dedupe css = (novel bs).flatten ++ rest := by
  obtain ⟨same, behind⟩ := cut.unique (cut_blocks 0 css)
  unfold dedupe
  rw [← firstBlocks_eq, ← same, ← behind]

theorem Cut.novel {css rest : Text} {bs : List Text} (cut : Cut 0 css bs rest) :
    Cut 0 (dedupe css) (novel bs) rest := by
  obtain ⟨all, open_, -⟩ := cut_iff.1 cut
  refine cut_iff.2 ⟨fun b member => ?_, open_, dedupe_of_cut cut⟩
  exact all b ((novel_sublist bs).subset member)

-- A stylesheet has one cut into blocks. Those that repeat an earlier one are left out, all else
-- stays; the rest has the same cut, so there is nothing more to leave out.
theorem dedupe_cut (css : Text) : ∃ bs rest, Cut 0 css bs rest ∧
    (∀ bs' rest', Cut 0 css bs' rest' → bs' = bs ∧ rest' = rest) ∧
    dedupe css = (novel bs).flatten ++ rest ∧
    Cut 0 (dedupe css) (novel bs) rest ∧
    ((novel bs).map Text.trim).Nodup ∧
    (∀ b ∈ bs, Text.trim b ∈ (novel bs).map Text.trim) ∧
    dedupe (dedupe css) = dedupe css := by
  have cut := cut_blocks 0 css
  refine ⟨_, _, cut, fun bs' rest' => cut.unique, dedupe_of_cut cut, cut.novel,
    nodup_trims_novel _, fun b member => mem_trims_novel.2 (List.mem_map_of_mem member), ?_⟩
  rw [dedupe_of_cut cut.novel, novel_of_nodup (nodup_trims_novel _), ← dedupe_of_cut cut]

end Stylesheet
end ComponentLoader
