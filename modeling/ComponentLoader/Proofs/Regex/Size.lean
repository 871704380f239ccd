import ComponentLoader.Regex.Size
import Mathlib.Data.List.Forall2
import Mathlib.Algebra.BigOperators.Group.List.Basic
import Mathlib.Algebra.GroupWithZero.Nat

namespace ComponentLoader.Regex

@[simp] theorem Tally.bytes_add (t : Tally) (states extra : Nat) :
    (t.add states extra).bytes = t.bytes + 32 * states + extra := by
  simp only [Tally.add, Tally.bytes]
  omega

-- What the rows of a set take at most, whatever is found on the shelf.
def rowsBytes (rows : List ByteRanges) : Nat := (rows.map fun row => 40 * row.length + 4).sum

namespace Forward

def dueOne (u : Unmade) : Nat := 32 + 8 * (u.finish 0).length

def due (unmade : List Unmade) : Nat := (unmade.map dueOne).sum

def total (f : Forward) : Nat := f.tally.bytes + due f.unmade

theorem length_finish (u : Unmade) (state : Nat) :
    (u.finish state).length = (u.finish 0).length := by
  unfold Unmade.finish
  split <;> simp

theorem bytes_state_le (f : Forward) (ways : List Way) :
    (f.state ways).2.tally.bytes ≤ f.tally.bytes + 32 + 8 * ways.length := by
  unfold state
  dsimp only
  split
  · dsimp only
    omega
  · simp only [Tally.bytes_add]
    omega

-- A state moves from what is due to what is made.
theorem total_close_le (f : Forward) (kept next : Nat) (unmade : List Unmade) :
    (f.close kept next unmade).total ≤ f.tally.bytes + due unmade := by
  induction unmade generalizing f next with
  | nil => simp [close, total, due]
  | cons u r ih =>
    have here : due (u :: r) = dueOne u + due r := by simp [due]
    rw [close]
    split
    · have made := bytes_state_le f (u.finish next)
      have rest := ih (f.state (u.finish next)).2 (f.state (u.finish next)).1
      rw [length_finish] at made
      simp only [here, dueOne]
      omega
    · rw [total, here]
      simp only [due, List.map_cons, List.sum_cons, dueOne, ← length_finish u next]
      exact Nat.le_refl _

theorem dueOne_last_le (u : Unmade) (a : Nat × Nat) :
    dueOne { u with last := some a } ≤ dueOne u + 8 := by
  simp only [dueOne, Unmade.finish]
  split
  · simp
  · simp
    omega

theorem due_opened (row : ByteRanges) :
    due ((row.map fun a => (⟨[], some a⟩ : Unmade)).reverse) = 40 * row.length := by
  simp [due, dueOne, Unmade.finish, Function.comp_def, Nat.mul_comm]

theorem total_addRow_le (target : Nat) (f : Forward) (row : ByteRanges) :
    (f.addRow target row).total ≤ f.total + 40 * row.length := by
  unfold addRow
  dsimp only
  have closed := total_close_le f (agreeing row f.unmade.reverse) target f.unmade
  revert closed
  generalize f.close (agreeing row f.unmade.reverse) target f.unmade = g
  intro closed
  split
  · next a r u s rest unmade =>
    have fewer : r.length + 1 ≤ row.length := by
      have := congrArg List.length rest
      simp only [List.length_drop, List.length_cons] at this
      omega
    have opened := due_opened r
    have changed := dueOne_last_le u a
    simp only [total, unmade, due, List.map_append, List.sum_append, List.map_cons,
      List.sum_cons] at closed opened ⊢
    omega
  · simp only [total] at closed ⊢
    omega

theorem total_foldl_le (target : Nat) (rows : List ByteRanges) (f : Forward) :
    (rows.foldl (addRow target) f).total ≤ f.total + rowsBytes rows := by
  induction rows generalizing f with
  | nil => simp [rowsBytes]
  | cons row rows ih =>
    have first := total_addRow_le target f row
    have rest := ih (f.addRow target row)
    simp only [List.foldl_cons, rowsBytes, List.map_cons, List.sum_cons] at rest ⊢
    omega

theorem bytes_ofSet_le (t : Tally) (s : CharSet) :
    (ofSet t s).bytes ≤ t.bytes + 64 + rowsBytes (setRows s) := by
  unfold ofSet
  dsimp only
  have rows := total_foldl_le t.states (setRows s) ⟨t.add 1 0, .ofSize 10000, [⟨[], none⟩]⟩
  have begun : total ⟨t.add 1 0, .ofSize 10000, [⟨[], none⟩]⟩ = t.bytes + 64 := by
    simp [total, due, dueOne, Unmade.finish]
  generalize (setRows s).foldl _ _ = f at rows ⊢
  have closed := total_close_le f 0 t.states f.unmade
  generalize f.close 0 t.states f.unmade = g at closed ⊢
  split
  · next u r unmade =>
    have made := bytes_state_le g u.ways
    have ways : u.ways.length ≤ (u.finish 0).length := by
      unfold Unmade.finish
      split <;> simp
    simp only [total, unmade, due, dueOne, List.map_cons, List.sum_cons] at closed rows begun
    omega
  · simp only [total] at closed rows begun
    omega

end Forward

namespace Backward

theorem bytes_state_le (b : Backward) (place : Nat) (way : Way) :
    (b.state place way).2.tally.bytes ≤ b.tally.bytes + 32 := by
  unfold state
  split
  · dsimp only
    omega
  · simp only [Tally.bytes_add]
    omega

theorem bytes_row_le (place : Nat → Nat → Nat → Nat) (row : ByteRanges) (made : Nat × Backward) :
    (row.foldl (fun (next, b) (first, last) => b.state (place next first last) ⟨first, last, next⟩)
      made).2.tally.bytes ≤ made.2.tally.bytes + 32 * row.length := by
  induction row generalizing made with
  | nil => simp
  | cons way row ih =>
    have here := bytes_state_le made.2 (place made.1 way.1 way.2) ⟨way.1, way.2, made.1⟩
    refine Nat.le_trans (ih (made.2.state (place made.1 way.1 way.2) ⟨way.1, way.2, made.1⟩)) ?_
    rw [List.length_cons]
    omega

theorem bytes_addRow_le (target : Nat) (b : Backward) (row : ByteRanges) :
    (b.addRow target row).tally.bytes ≤ b.tally.bytes + 40 * row.length + 4 := by
  have made := bytes_row_le (fun a b c => Shelf.placeOf [a, b, c] 1000) row (target, b)
  simp only [addRow, Tally.bytes_add] at made ⊢
  omega

theorem bytes_foldl_le (target : Nat) (rows : List ByteRanges) (b : Backward) :
    (rows.foldl (addRow target) b).tally.bytes ≤ b.tally.bytes + rowsBytes rows := by
  induction rows generalizing b with
  | nil => simp [rowsBytes]
  | cons row rows ih =>
    have first := bytes_addRow_le target b row
    have rest := ih (b.addRow target row)
    simp only [List.foldl_cons, rowsBytes, List.map_cons, List.sum_cons] at rest ⊢
    omega

theorem bytes_ofSet_le (t : Tally) (s : CharSet) :
    (ofSet t s).bytes ≤ t.bytes + 64 + rowsBytes (setRows s) := by
  have rows := bytes_foldl_le (t.states + 1) (setRows s) ⟨t.add 2 0, .ofSize 1000⟩
  simpa [ofSet] using rows

end Backward

namespace Expr

def setBytes (s : CharSet) : Nat := 64 + 8 * s.ranges.size + rowsBytes (setRows s)

theorem bytes_growSet_le (back : Bool) (s : CharSet) (t : Tally) :
    (growSet back s t).bytes ≤ t.bytes + setBytes s := by
  have forward := Forward.bytes_ofSet_le t s
  have backward := Backward.bytes_ofSet_le t s
  unfold growSet setBytes
  split
  · simp only [Tally.bytes_add]
    omega
  · split <;> omega

namespace Growth

-- Where the limit leaves that many bytes, no more than these are taken.
def Within (g : Growth) (n : Nat) : Prop :=
  ∀ t : Tally, t.bytes + n ≤ Tally.limit →
    ∃ parting t', g t = some (parting, t') ∧ t'.bytes ≤ t.bytes + n

variable {g : Growth} {n : Nat}

theorem Within.mono {m : Nat} (h : Within g n) (le : n ≤ m) : Within g m := by
  intro t fits
  obtain ⟨parting, t', made, bytes⟩ := h t (by omega)
  exact ⟨parting, t', made, by omega⟩

theorem grow_eq_some {t : Tally} (parting : Bool) (fits : t.bytes ≤ Tally.limit) :
    grow parting t = some (parting, t) := if_pos fits

theorem bytes_link_le (parting : Bool) (t : Tally) : (link parting t).bytes ≤ t.bytes + 4 := by
  unfold link
  split <;> simp

theorem Within.after (one : Within g n) (states extra : Nat) :
    Within (fun t => g (t.add states extra)) (n + 32 * states + extra) := by
  intro t fits
  have room : (t.add states extra).bytes + n ≤ Tally.limit := by
    rw [Tally.bytes_add]
    omega
  obtain ⟨parting, u, made, bytes⟩ := one (t.add states extra) room
  rw [Tally.bytes_add] at bytes
  exact ⟨parting, u, made, by omega⟩

theorem Within.linked (one : Within g n) (last : Bool) (states extra : Nat) :
    Within (fun t => match g t with
      | some (parting, t) => grow last (link parting (t.add states extra))
      | none => none) (n + 32 * states + extra + 4) := by
  intro t fits
  obtain ⟨parting, u, made, bytes⟩ := one t (by omega)
  have linked := bytes_link_le parting (u.add states extra)
  rw [Tally.bytes_add] at linked
  exact ⟨last, link parting (u.add states extra),
    by simp only [made]; exact grow_eq_some _ (by omega), by omega⟩

theorem again_within (one : Within g n) (count : Nat) (parting : Bool) :
    Within (again g count parting) (count * (n + 4)) := by
  induction count generalizing parting with
  | zero => exact fun t _ => ⟨parting, t, rfl, by omega⟩
  | succ count ih =>
    intro t fits
    rw [Nat.succ_mul] at fits ⊢
    obtain ⟨next, u, made, bytes⟩ := one t (by omega)
    have linked := bytes_link_le parting u
    obtain ⟨last, v, rest, most⟩ := ih next (link parting u) (by omega)
    exact ⟨last, v, by rw [again, made]; exact rest, by omega⟩

theorem exactly_within (one : Within g n) (count : Nat) :
    Within (exactly g count) (32 + count * (n + 4)) := by
  cases count with
  | zero => exact fun t fits => ⟨false, t.add 1 0, grow_eq_some _ (by simpa using fits), by simp⟩
  | succ count =>
    intro t fits
    rw [Nat.succ_mul] at fits ⊢
    obtain ⟨next, u, made, bytes⟩ := one t (by omega)
    obtain ⟨last, v, rest, most⟩ := again_within one count next u (by omega)
    exact ⟨last, v, by rw [exactly, made]; exact rest, by omega⟩

theorem perhaps_within (one : Within g n) (count : Nat) (parting : Bool) :
    Within (perhaps g count parting) (count * (n + 44) + 4) := by
  induction count generalizing parting with
  | zero =>
    intro t fits
    have linked := bytes_link_le parting t
    exact ⟨false, link parting t, grow_eq_some _ (by omega), by omega⟩
  | succ count ih =>
    intro t fits
    rw [Nat.succ_mul] at fits ⊢
    obtain ⟨next, u, made, bytes⟩ := one (t.add 1 0) (by simp; omega)
    have linked := bytes_link_le parting (u.add 0 8)
    simp only [Tally.bytes_add] at bytes linked
    obtain ⟨last, v, rest, most⟩ := ih next (link parting (u.add 0 8)) (by omega)
    exact ⟨last, v, by rw [perhaps, made]; exact rest, by omega⟩

theorem repeated_within (one : Within g n) (least : Nat) (most : Option Nat) (consumes : Bool) :
    Within (repeated g least most consumes)
      ((least + most.getD 0) * (n + 44) + n + 116) := by
  have several : least * (n + 4) ≤ least * (n + 44) := Nat.mul_le_mul_left _ (by omega)
  intro t fits
  rw [Nat.add_mul] at fits ⊢
  unfold repeated
  cases most with
  | some most =>
    simp only [Option.getD_some] at fits ⊢
    split
    · exact ((one.after 1 0).linked false 1 8).mono (by omega) t fits
    · have rest : (most - least) * (n + 44) ≤ most * (n + 44) :=
        Nat.mul_le_mul_right _ (by omega)
      obtain ⟨next, u, made, bytes⟩ := exactly_within one least t (by omega)
      rw [made]
      dsimp only
      split
      · exact ⟨next, u, rfl, by omega⟩
      · obtain ⟨last, v, found, all⟩ :=
          (perhaps_within one (most - least) next).after 1 0 u (by omega)
        exact ⟨last, v, found, by omega⟩
  | none =>
    simp only [Option.getD_none, Nat.zero_mul] at fits ⊢
    split
    · split
      · exact ((one.after 1 0).linked true 0 4).mono (by omega) t fits
      · exact (one.linked false 3 16).mono (by omega) t fits
    · exact ((exactly_within one least).linked true 1 4).mono (by omega) t fits

end Growth

mutual

def cost (back : Bool) : Expr → Nat
  | empty => 32
  | text s => 32 * (s.flatMap fun c => utf8 c.toNat).length
  | set s => setBytes s
  | anchor _ => 32
  | repeated least most _ e =>
    (least + most.getD 0) * (e.cost back + 44) + e.cost back + 116
  | group _ e => e.cost back + 68
  | concat items => (costs back items).sum + 4 * items.length
  | alternation items =>
    match words? items with
    | some words =>
      let words := if back then words.map List.reverse else words
      let tree := wordTree ((words.map List.length).foldl max 0 + 1) words
      32 * (tree.states + 1) + tree.extra
    | none => (costs back items).sum + 8 * items.length + 64

def costs (back : Bool) : List Expr → List Nat
  | [] => []
  | e :: r => e.cost back :: costs back r

end

mutual

-- Whether ways part only where there are several.
def isForked : Expr → Bool
  | repeated _ _ _ e => e.isForked
  | group _ e => e.isForked
  | concat items => allForked items
  | alternation items => ((words? items).isSome || 1 < items.length) && allForked items
  | _ => true

def allForked : List Expr → Bool
  | [] => true
  | e :: r => e.isForked && allForked r

end

namespace Growth

def chain (made : Option (Bool × Tally)) (parts : List Growth) : Option (Bool × Tally) :=
  parts.foldl (fun made g =>
    made.bind fun (parting, t) => (g t).map fun (next, t) => (next, link parting t)) made

theorem chain_within {parts : List Growth} {costs : List Nat}
    (each : List.Forall₂ Within parts costs) (parting : Bool) (t : Tally)
    (fits : t.bytes + costs.sum + 4 * parts.length ≤ Tally.limit) :
    ∃ last t', chain (some (parting, t)) parts = some (last, t') ∧
      t'.bytes ≤ t.bytes + costs.sum + 4 * parts.length := by
  induction each generalizing parting t with
  | nil => exact ⟨parting, t, rfl, by omega⟩
  | @cons g n parts costs first _ ih =>
    simp only [List.sum_cons, List.length_cons] at fits ⊢
    obtain ⟨next, u, made, bytes⟩ := first t (by omega)
    have linked := bytes_link_le parting u
    obtain ⟨last, v, rest, most⟩ := ih next (link parting u) (by omega)
    have step : chain (some (parting, t)) (g :: parts) =
        chain (some (next, link parting u)) parts := by
      simp only [chain, List.foldl_cons, Option.bind_some, made, Option.map_some]
    exact ⟨last, v, step.trans rest, by omega⟩

def sequence : List Growth → Growth
  | [], t => some (false, t)
  | g :: r, t => chain (g t) r

theorem sequence_within {parts : List Growth} {costs : List Nat}
    (each : List.Forall₂ Within parts costs) :
    Within (sequence parts) (costs.sum + 4 * parts.length) := by
  intro t fits
  cases each with
  | nil => exact ⟨false, t, rfl, by omega⟩
  | cons first others =>
    simp only [List.sum_cons, List.length_cons] at fits ⊢
    obtain ⟨parting, u, made, bytes⟩ := first t (by omega)
    obtain ⟨last, v, rest, most⟩ := chain_within others parting u (by omega)
    exact ⟨last, v, by rw [sequence, made]; exact rest, by omega⟩

def branch (t : Tally) (g : Growth) : Option Tally :=
  (g t).map fun (parting, t) => link parting (t.add 0 4)

theorem branch_within {g : Growth} {n : Nat} (one : Within g n) (t : Tally)
    (fits : t.bytes + n ≤ Tally.limit) :
    ∃ t', branch t g = some t' ∧ t'.bytes ≤ t.bytes + n + 8 := by
  obtain ⟨parting, u, made, bytes⟩ := one t fits
  have linked := bytes_link_le parting (u.add 0 4)
  simp only [Tally.bytes_add] at linked
  exact ⟨link parting (u.add 0 4), by rw [branch, made]; rfl, by omega⟩

theorem branches_within {parts : List Growth} {costs : List Nat}
    (each : List.Forall₂ Within parts costs) (t : Tally)
    (fits : t.bytes + costs.sum + 8 * parts.length ≤ Tally.limit) :
    ∃ t', parts.foldlM branch t = some t' ∧ t'.bytes ≤ t.bytes + costs.sum + 8 * parts.length := by
  induction each generalizing t with
  | nil => exact ⟨t, rfl, by simp⟩
  | cons first _ ih =>
    simp only [List.sum_cons, List.length_cons] at fits ⊢
    obtain ⟨u, made, bytes⟩ := branch_within first t (by omega)
    obtain ⟨v, rest, most⟩ := ih u (by omega)
    exact ⟨v, by rw [List.foldlM_cons, made]; exact rest, by omega⟩

theorem alternation_within {a b : Growth} {r : List Growth} {costs : List Nat}
    (each : List.Forall₂ Within (a :: b :: r) costs) :
    Within (fun t => (branch t a).bind fun t => (branch t b).bind fun t =>
        (r.foldlM branch (t.add 2 0)).bind fun t => grow false t)
      (costs.sum + 8 * (r.length + 2) + 64) := by
  intro t fits
  cases each with
  | cons first others =>
    cases others with
    | cons second others =>
      simp only [List.sum_cons] at fits ⊢
      obtain ⟨u, ofFirst, bytes⟩ := branch_within first t (by omega)
      obtain ⟨v, ofSecond, more⟩ := branch_within second u (by omega)
      obtain ⟨w, ofRest, most⟩ := branches_within others (v.add 2 0) (by simp; omega)
      simp only [Tally.bytes_add] at most
      have grown : grow false w = some (false, w) := grow_eq_some _ (by omega)
      exact ⟨false, w, by simp [ofFirst, ofSecond, ofRest, grown], by omega⟩

end Growth

theorem length_growths (back : Bool) (items : List Expr) :
    (growths back items).length = items.length := by
  induction items with
  | nil => rfl
  | cons e r ih => simp [growths, ih]

section Items

variable {back : Bool} {items : List Expr}
  (each : List.Forall₂ Growth.Within (growths back items) (costs back items))
include each

theorem concat_within :
    (growth back (.concat items)).Within ((Expr.concat items).cost back) := by
  have parts : List.Forall₂ Growth.Within
      (if back then (growths back items).reverse else growths back items)
      (if back then (costs back items).reverse else costs back items) := by
    cases back with
    | true => exact List.rel_reverse each
    | false => exact each
  have made := Growth.sequence_within parts
  have sum : (if back then (costs back items).reverse else costs back items).sum =
      (costs back items).sum := by
    cases back <;> simp
  have length : (if back then (growths back items).reverse else growths back items).length =
      items.length := by
    cases back <;> simp [length_growths]
  rw [sum, length] at made
  have same : growth back (.concat items) = Growth.sequence
      (if back then (growths back items).reverse else growths back items) := by
    funext t
    rw [growth]
    split <;> next parts => rw [parts]; rfl
  rw [same, cost]
  exact made

theorem alternation_within (several : (words? items).isSome = true ∨ 1 < items.length) :
    (growth back (.alternation items)).Within ((Expr.alternation items).cost back) := by
  intro t fits
  cases words : words? items with
  | some ws =>
    simp only [cost, words] at fits ⊢
    simp only [growth, words]
    exact ⟨false, _, Growth.grow_eq_some _ (by simp only [Tally.bytes_add]; omega),
      by simp only [Tally.bytes_add]; omega⟩
  | none =>
    simp only [cost, words] at fits ⊢
    simp only [growth, words]
    have length := length_growths back items
    have long : 1 < (growths back items).length := by
      rw [length]
      simpa [words] using several
    match growths back items, each, length, long with
    | a :: b :: r, each, length, _ =>
      rw [← length] at fits ⊢
      exact Growth.alternation_within each t fits

end Items

theorem group_within {back : Bool} {e : Expr} (inner : (growth back e).Within (e.cost back))
    (index : Nat) : (growth back (.group index e)).Within ((Expr.group index e).cost back) := by
  rw [cost]
  intro t fits
  cases back with
  | true => exact inner.mono (by omega) t fits
  | false => exact ((inner.after 1 0).linked false 1 0).mono (by omega) t fits

mutual

theorem growth_within (back : Bool) : (e : Expr) → e.isForked = true →
    (growth back e).Within (e.cost back)
  | .empty, _ => by
    intro t fits
    rw [cost] at fits ⊢
    exact ⟨false, t.add 1 0, Growth.grow_eq_some _ (by simpa using fits), by simp⟩
  | .text s, _ => by
    intro t fits
    rw [cost] at fits ⊢
    exact ⟨false, _, Growth.grow_eq_some _ (by simpa using fits), by simp⟩
  | .set s, _ => by
    intro t fits
    rw [cost] at fits ⊢
    have bytes := bytes_growSet_le back s t
    exact ⟨false, growSet back s t, Growth.grow_eq_some _ (by omega), bytes⟩
  | .anchor a, _ => by
    intro t fits
    rw [cost] at fits ⊢
    exact ⟨false, t.add 1 0, Growth.grow_eq_some _ (by simpa using fits), by simp⟩
  | .repeated least most greedy e, forked =>
    Growth.repeated_within (growth_within back e forked) least most e.alwaysConsumes
  | .group index e, forked => group_within (growth_within back e forked) index
  | .concat items, forked => concat_within (growths_within back items forked)
  | .alternation items, forked => by
    rw [isForked, Bool.and_eq_true, Bool.or_eq_true, decide_eq_true_eq] at forked
    exact alternation_within (growths_within back items forked.2) forked.1

theorem growths_within (back : Bool) : (items : List Expr) → allForked items = true →
    List.Forall₂ Growth.Within (growths back items) (costs back items)
  | [], _ => .nil
  | e :: r, forked => by
    rw [allForked, Bool.and_eq_true] at forked
    exact .cons (growth_within back e forked.1) (growths_within back r forked.2)

end

theorem isTooLarge_eq_false {e : Expr} (forked : e.isForked = true)
    (fits : ∀ back, e.cost back + 216 ≤ Tally.limit) : e.isTooLarge = false := by
  have each : ∀ back, (e.size? back).isSome = true := by
    intro back
    have grown := growth_within back (.group 0 e) forked
    have start : ∀ anchored : Bool, (if anchored then (⟨1, 0⟩ : Tally) else ⟨3, 16⟩).bytes ≤ 112 := by
      decide
    have room := fits back
    simp only [size?]
    generalize (if back then e.isAtEnd else e.isAtStart) = anchored
    have most := start anchored
    generalize (if anchored then (⟨1, 0⟩ : Tally) else ⟨3, 16⟩) = t at most
    rw [cost] at grown
    obtain ⟨parting, u, made, bytes⟩ := grown t (by omega)
    have linked := Growth.bytes_link_le parting (u.add 1 0)
    simp only [Tally.bytes_add] at linked
    rw [made]
    dsimp only
    rw [Growth.grow_eq_some _ (by omega)]
    rfl
  simp [isTooLarge, ← Option.not_isSome, each]

end Expr
end ComponentLoader.Regex
