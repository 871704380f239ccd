import ComponentLoader.Import.Expansion
import ComponentLoader.Proofs.Path.Relative

namespace ComponentLoader

namespace Path

def ascent (n : Nat) : Text := Text.join ['/'] (List.replicate n ['.', '.'])

theorem ascent_eq {up : List Text} (some_ : up ≠ []) :
    ascent up.length = Text.join ['/'] (route up.length []) := by
  cases up with
  | nil => exact absurd rfl some_
  | cons s up =>
    rw [List.length_cons, route, List.append_nil]
    rfl

variable {above up : List Text}

theorem relative?_ascent (named : ∀ s ∈ above ++ up, IsName s) (some_ : up ≠ []) (rooted : Bool) :
    relative? (spelled rooted (above ++ up)) (spelled rooted above) = some (ascent up.length) := by
  have upper : ∀ s ∈ above ++ [], IsName s := by
    intro s member
    apply named s
    rw [List.append_nil] at member
    exact List.mem_append_left _ member
  have way := relative?_spelled rooted named upper (by simp) (by simp [Parted])
  rwa [List.append_nil, ← ascent_eq some_] at way

theorem relative?_root (named : ∀ s ∈ up, IsName s) : relative? (spelled true up) [] = none := by
  have base := isAbsolute_spelled named true
  rw [relative?, difference?, base]
  rfl

-- A directory as the split of a path leaves it: joined again, the root itself is an empty text.
theorem relative?_joined (named : ∀ s ∈ above ++ up, IsName s) (some_ : up ≠ []) (rooted : Bool) :
    relative? (spelled rooted (above ++ up))
        (Text.join ['/'] ((if rooted then [[]] else []) ++ above)) =
      if rooted = true ∧ above = [] then none else some (ascent up.length) := by
  by_cases root : rooted = true ∧ above = []
  · rw [if_pos root]
    obtain ⟨rfl, rfl⟩ := root
    exact relative?_root named
  · have place : Text.join ['/'] ((if rooted then [[]] else []) ++ above) =
        spelled rooted above := by
      cases rooted with
      | false => rfl
      | true => exact Text.join_cons fun none_ => root ⟨rfl, none_⟩
    rw [if_neg root, place]
    exact relative?_ascent named some_ rooted

theorem absolute_ascent (named : ∀ s ∈ above ++ up, IsName s) (some_ : up ≠ []) (rooted : Bool)
    (cwd : Text) : absolute (absolute cwd (spelled rooted (above ++ up))) (ascent up.length) =
      absolute cwd (spelled rooted above) := by
  have upper : ∀ s ∈ above, IsName s := fun s member => named s (List.mem_append_left _ member)
  have start : ∀ s ∈ (if rooted then [] else resolve (steps cwd)) ++ above ++ up, IsName s := by
    rw [List.append_assoc]
    refine List.forall_mem_append.2 ⟨?_, named⟩
    intro s member
    cases rooted with
    | false => exact isName_of_mem_steps (mem_of_mem_resolve member)
    | true => cases member
  have here : ∀ s ∈ ([] : List Text), IsName s := by simp
  have way := absolute_route start here
  rw [absolute_spelled named, absolute_spelled upper, ascent_eq some_, ← List.append_assoc, way,
    List.append_nil]

end Path

open ComponentLoader.Path (IsName spelled ascent)

namespace Expansion

abbrev demos : Text := "demos".toList

-- A demo names the kit's directory by one `..` for each name below the first `demos` above it, its
-- own included. That leads to where this `demos` lies. There is no relative path to count by when
-- that is the root, and everywhere else both come to the same.
theorem relativeDir_of_demo {e : Expansion} {rooted : Bool} {above below : List Text}
    (written : Path.withSlashes e.resource = spelled rooted (above ++ demos :: below))
    (named : ∀ s ∈ above ++ demos :: below, IsName s) (first : demos ∉ above) (file : below ≠ [])
    (other : Path.lastName e.resource ≠ e.rootEntry) (computed : e.overrideDir = none) :
    e.relativeDir = ascent below.length ∧
      (∀ cwd, Path.absolute (Path.absolute cwd (Path.directory e.resource)) e.relativeDir =
        Path.absolute cwd (spelled rooted above)) ∧
      ∃ place, Path.aboveDir? e.resource demos = some (place, below.length) ∧
        Path.relative? (Path.directory e.resource) place =
          if rooted = true ∧ above = [] then none else some (ascent below.length) := by
  have found := Path.aboveDir?_of_spelled written named first file
  obtain ⟨between, last, rfl⟩ : ∃ between last, below = between ++ [last] := by
    obtain ⟨between, last, split⟩ := (List.eq_nil_or_concat below).resolve_left file
    exact ⟨between, last, by rw [split, List.concat_eq_append]⟩
  have path : above ++ demos :: (between ++ [last]) = above ++ demos :: between ++ [last] := by simp
  have depth : (between ++ [last]).length = (demos :: between).length := by simp
  rw [path] at written named
  have inside : ∀ s ∈ above ++ demos :: between, IsName s := fun s member =>
    named s (List.mem_append_left _ member)
  have directory := Path.directory_of_spelled written named
  have way := Path.relative?_joined inside (by simp) rooted
  rw [← directory, ← depth] at way
  have result : e.relativeDir = ascent (between ++ [last]).length := by
    unfold relativeDir
    rw [if_neg other, computed]
    dsimp only
    rw [found]
    dsimp only
    rw [way]
    split
    · rfl
    · rfl
  refine ⟨result, fun cwd => ?_, _, found, way⟩
  rw [result, directory, depth]
  exact Path.absolute_ascent inside (by simp) rooted cwd

theorem relativeDir_of_demo_two_demos :
    let e : Expansion :=
      { kit := "vux".toList, kitPath := "vux".toList, paths := .relative,
        resource := "C:\\p/demos\\x\\demos\\a.vue".toList, rootEntry := "App.vue".toList,
        overrideDir := none, sourceDir := "src".toList }
    e.relativeDir = "../../..".toList ∧
      (∀ cwd, Path.absolute (Path.absolute cwd (Path.directory e.resource)) e.relativeDir =
        Path.absolute cwd "C:/p".toList) ∧
      ∃ place, Path.aboveDir? e.resource demos = some (place, 3) ∧
        Path.relative? (Path.directory e.resource) place = some "../../..".toList := by
  intro e
  have written : Path.withSlashes e.resource = spelled false
      (["C:".toList, "p".toList] ++ demos :: ["x".toList, demos, "a.vue".toList]) := by
    decide
  exact relativeDir_of_demo written (by decide) (by decide) (by decide) (by decide) rfl

example : Path.relative? "/demos/x".toList [] = none ∧
    Expansion.relativeDir
      { kit := "vux".toList, kitPath := "vux".toList, paths := .relative,
        resource := "/demos/x/a.vue".toList, rootEntry := "App.vue".toList, overrideDir := none,
        sourceDir := "src".toList } = "../..".toList := by
  decide

end Expansion
end ComponentLoader
