import ComponentLoader.Unicode.Trait
import Mathlib.Data.List.Basic

namespace ComponentLoader
namespace CharSet

def Avoids (n : Nat) (ranges : List (Nat × Nat)) : Prop := ∀ e ∈ ranges, n < e.1 ∨ e.2 < n

theorem holds_of_avoids {s : CharSet} {n : Nat} (avoids : Avoids n s.ranges.toList) :
    s.holds n = false := by
  have search : ∀ fuel low high, holds.go s n low high fuel = false := by
    intro fuel
    induction fuel with
    | zero => exact fun _ _ => rfl
    | succ fuel ih =>
      intro low high
      unfold holds.go
      split
      · dsimp only
        cases found : s.ranges[(low + high) / 2]? with
        | none => rfl
        | some e =>
          have member : e ∈ s.ranges.toList := by
            rw [← Array.getElem?_toList] at found
            exact List.mem_of_getElem? found
          rcases avoids e member with below | above
          · simp [ih, below]
          · simp [ih, above]
      · rfl
  exact search _ _ _

theorem avoids_join {n first last : Nat} {ranges : List (Nat × Nat)}
    (head : n < first ∨ last < n) (tail : Avoids n ranges) : Avoids n (join first last ranges) := by
  induction ranges generalizing first last with
  | nil =>
    intro e member
    rw [join, List.mem_singleton] at member
    rw [member]
    exact head
  | cons e ranges ih =>
    have next := tail e (by simp)
    have later : Avoids n ranges := fun x member => tail x (List.mem_cons_of_mem _ member)
    obtain ⟨a, b⟩ := e
    unfold join
    split
    · exact ih (by omega) later
    · intro x member
      rcases List.mem_cons.1 member with rfl | member
      · exact head
      · exact ih next later x member

theorem avoids_ofRanges {n : Nat} {ranges : List (Nat × Nat)} (avoids : Avoids n ranges) :
    Avoids n (ofRanges ranges).ranges.toList := by
  have sorted : Avoids n (ranges.mergeSort fun a b => a.1 ≤ b.1) := fun e member =>
    avoids e (List.mem_mergeSort.1 member)
  unfold ofRanges
  cases order : ranges.mergeSort fun a b => a.1 ≤ b.1 with
  | nil => simp [Avoids, empty]
  | cons e rest =>
    rw [order] at sorted
    exact avoids_join (sorted e (by simp)) fun x member => sorted x (List.mem_cons_of_mem _ member)

def blankRanges : List (Nat × Nat) :=
  [(0x85, 0x85), (0xA0, 0xA0), (0x1680, 0x1680), (0x2000, 0x200A), (0x2028, 0x2029),
    (0x202F, 0x202F), (0x205F, 0x205F), (0x3000, 0x3000)]

def BlankFree (s : CharSet) : Prop :=
  ∀ r ∈ blankRanges, ∀ n, r.1 ≤ n → n ≤ r.2 → Avoids n s.ranges.toList

theorem blankFree_unions {sets : List CharSet} (free : ∀ s ∈ sets, BlankFree s) :
    BlankFree (unions sets) := by
  intro r member n low high
  apply avoids_ofRanges
  intro e inside
  obtain ⟨s, given, inside⟩ := List.mem_flatMap.1 inside
  exact free s given r member n low high e inside

theorem blankFree_union {a b : CharSet} (left : BlankFree a) (right : BlankFree b) :
    BlankFree (a.union b) :=
  blankFree_unions (by simp [left, right])

def tableBlankFree (table : Text) : Bool :=
  ((Text.words table).flatMap Unicode.rangesOf).all fun e =>
    blankRanges.all fun r => r.2 < e.1 || e.2 < r.1

-- The table is taken as a list of characters, by which it is evaluated.
theorem blankFree_ofTable (table : Text) (checked : tableBlankFree table = true) :
    BlankFree (.ofTable (String.ofList table)) := by
  intro r member n low high
  apply avoids_ofRanges
  rw [String.toList_ofList]
  intro e inside
  have apart := List.all_eq_true.1 (List.all_eq_true.1 checked e inside) r member
  rw [Bool.or_eq_true, decide_eq_true_eq, decide_eq_true_eq] at apart
  omega

end CharSet

namespace Unicode
open CharSet

set_option maxRecDepth 60000

theorem Category.letter_blankFree : BlankFree Category.letter := by
  have cased : BlankFree Category.casedLetter := by
    apply blankFree_unions
    simp only [List.forall_mem_cons, List.not_mem_nil, false_implies, implies_true, and_true]
    exact ⟨blankFree_ofTable _ (by decide +kernel), blankFree_ofTable _ (by decide +kernel),
      blankFree_ofTable _ (by decide +kernel)⟩
  apply blankFree_unions
  simp only [List.forall_mem_cons, List.not_mem_nil, false_implies, implies_true, and_true]
  exact ⟨cased, blankFree_ofTable _ (by decide +kernel), blankFree_ofTable _ (by decide +kernel)⟩

theorem Category.mark_blankFree : BlankFree Category.mark := by
  apply blankFree_unions
  simp only [List.forall_mem_cons, List.not_mem_nil, false_implies, implies_true, and_true]
  exact ⟨blankFree_ofTable _ (by decide +kernel), blankFree_ofTable _ (by decide +kernel),
    blankFree_ofTable _ (by decide +kernel)⟩

theorem Trait.alphabetic_blankFree : BlankFree Trait.alphabetic := by
  have upper : BlankFree Trait.uppercase :=
    blankFree_union (blankFree_ofTable _ (by decide +kernel))
      (blankFree_ofTable _ (by decide +kernel))
  have lower : BlankFree Trait.lowercase :=
    blankFree_union (blankFree_ofTable _ (by decide +kernel))
      (blankFree_ofTable _ (by decide +kernel))
  apply blankFree_unions
  simp only [List.forall_mem_cons, List.not_mem_nil, false_implies, implies_true, and_true]
  exact ⟨upper, lower, Category.letter_blankFree, blankFree_ofTable _ (by decide +kernel),
    blankFree_ofTable _ (by decide +kernel)⟩

end Unicode

set_option maxRecDepth 60000 in
theorem wordChars_blankFree : wordChars.BlankFree := by
  apply CharSet.blankFree_unions
  simp only [List.forall_mem_cons, List.not_mem_nil, false_implies, implies_true, and_true]
  exact ⟨Unicode.Trait.alphabetic_blankFree, Unicode.Category.mark_blankFree,
    CharSet.blankFree_ofTable _ (by decide +kernel), CharSet.blankFree_ofTable _ (by decide +kernel),
    CharSet.blankFree_ofTable _ (by decide +kernel)⟩

theorem isWordChar_of_isBlank {c : Char} (blank : isBlank c = true) : isWordChar c = false := by
  by_cases ascii : c.toNat < 0x80
  · have small : ∀ n < 0x80, isBlank (Char.ofNat n) = true → isWordChar (Char.ofNat n) = false := by
      decide +kernel
    have found := small c.toNat ascii
    rw [Char.ofNat_toNat] at found
    exact found blank
  · have listed : ∃ r ∈ CharSet.blankRanges, r.1 ≤ c.toNat ∧ c.toNat ≤ r.2 := by
      simp only [isBlank, Bool.or_eq_true, beq_iff_eq, Bool.and_eq_true, decide_eq_true_eq] at blank
      simp only [CharSet.blankRanges, List.mem_cons, List.not_mem_nil, or_false, exists_eq_or_imp,
        exists_eq_left]
      omega
    obtain ⟨r, member, low, high⟩ := listed
    rw [isWordChar, if_neg ascii]
    exact CharSet.holds_of_avoids (wordChars_blankFree r member _ low high)

end ComponentLoader
