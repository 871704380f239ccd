import ComponentLoader.Proofs.Path.Names

namespace ComponentLoader
namespace Path

theorem climb_append (common path base : List Component) :
    climb (common ++ path) (common ++ base) = climb path base := by
  induction common with
  | nil => rfl
  | cons c common ih =>
    rw [List.cons_append, List.cons_append, climb, if_pos rfl, ih]

def Parted (down up : List Text) : Prop := ∀ s ∈ down.head?, s ∉ up.head?

theorem climb_names {down up : List Text} (parted : Parted down up) :
    climb (down.map .name) (up.map .name) =
      some (List.replicate up.length .parent ++ down.map .name) := by
  cases down with
  | nil =>
    cases up with
    | nil => rfl
    | cons u up => simp [climb, Function.comp_def, List.replicate_succ]
  | cons d down =>
    cases up with
    | nil => rfl
    | cons u up =>
      have differ : ¬d = u := by
        rintro rfl
        exact parted d rfl rfl
      simp [climb, climb.diverge, differ, Function.comp_def, List.replicate_succ]

theorem exists_common (start target : List Text) : ∃ common up down,
    start = common ++ up ∧ target = common ++ down ∧ Parted down up := by
  induction start generalizing target with
  | nil => exact ⟨[], [], target, rfl, rfl, by simp [Parted]⟩
  | cons s start ih =>
    cases target with
    | nil => exact ⟨[], s :: start, [], rfl, rfl, by simp [Parted]⟩
    | cons t target =>
      by_cases same : t = s
      · obtain ⟨common, up, down, rfl, rfl, parted⟩ := ih target
        exact ⟨s :: common, up, down, rfl, by rw [same]; rfl, parted⟩
      · exact ⟨[], s :: start, t :: target, rfl, rfl, by simpa [Parted] using Ne.symm same⟩

variable {common up down : List Text}

-- The way between two directories that share the names above them.
theorem difference?_spelled (absolute : Bool) (from_ : ∀ s ∈ common ++ up, IsName s)
    (to_ : ∀ s ∈ common ++ down, IsName s) (parted : Parted down up) :
    difference? (spelled absolute (common ++ down)) (spelled absolute (common ++ up)) =
      some (Text.join ['/'] (List.replicate up.length ['.', '.'] ++ down)) := by
  rw [difference?, isAbsolute_spelled from_, isAbsolute_spelled to_, if_pos rfl,
    components_spelled from_, components_spelled to_, List.map_append, List.map_append,
    ← List.append_assoc, ← List.append_assoc, climb_append, climb_names parted]
  have texts : (List.replicate up.length Component.parent ++ down.map Component.name).map Component.text =
      List.replicate up.length ['.', '.'] ++ down := by
    simp [Function.comp_def, Component.text]
  rw [Option.map_some, texts]

-- The segments of a relative path that climbs so many directories and goes down from there. A name
-- that begins with two dots goes without the `./` in front.
def route (climbs : Nat) (down : List Text) : List Text :=
  match climbs, down with
  | 0, [] => [['.']]
  | 0, name :: below => if ['.', '.'] <+: name then name :: below else ['.'] :: name :: below
  | n + 1, down => List.replicate (n + 1) ['.', '.'] ++ down

theorem route_ne_nil (climbs : Nat) (down : List Text) : route climbs down ≠ [] := by
  unfold route
  split
  · simp
  · split <;> simp
  · simp

theorem single_of_mem_route {climbs : Nat} (named : ∀ s ∈ down, IsName s) :
    ∀ s ∈ route climbs down, '/' ∉ s := by
  have names : ∀ s ∈ down, '/' ∉ s := fun s member => (named s member).single
  unfold route
  split
  · decide
  · split
    · exact names
    · exact List.forall_mem_cons.2 ⟨by decide, names⟩
  · refine List.forall_mem_append.2 ⟨fun s member => ?_, names⟩
    rw [List.eq_of_mem_replicate member]
    decide

theorem splitOn_route (climbs : Nat) (named : ∀ s ∈ down, IsName s) :
    Text.splitOn '/' (Text.join ['/'] (route climbs down)) = route climbs down :=
  Text.splitOn_join_of_not_mem (route_ne_nil climbs down) (single_of_mem_route named)

theorem steps_route {climbs : Nat} (named : ∀ s ∈ down, IsName s) :
    steps (Text.join ['/'] (route climbs down)) =
      List.replicate climbs .parent ++ down.map .name := by
  have climbing (n : Nat) : (List.replicate n ['.', '.']).filterMap Component.ofSegment? =
      List.replicate n .parent := by
    induction n with
    | zero => rfl
    | succ n ih =>
      rw [List.replicate_succ, List.replicate_succ, List.filterMap_cons, ih]
      rfl
  rw [steps, splitOn_route climbs named]
  unfold route
  split
  · rfl
  · split
    · exact filterMap_ofSegment? named
    · exact filterMap_ofSegment? named
  · rw [List.filterMap_append, climbing, filterMap_ofSegment? named]

theorem nil_not_mem_route (climbs : Nat) (named : ∀ s ∈ down, IsName s) :
    [] ∉ route climbs down := by
  have names : [] ∉ down := fun member => (named [] member).some_ rfl
  unfold route
  split
  · decide
  · split
    · exact names
    · rw [List.mem_cons, not_or]
      exact ⟨by decide, names⟩
  · rw [List.mem_append, not_or]
    exact ⟨fun member => absurd (List.eq_of_mem_replicate member) (by decide), names⟩

theorem isAbsolute_route {climbs : Nat} (named : ∀ s ∈ down, IsName s) :
    isAbsolute (Text.join ['/'] (route climbs down)) = false := by
  rw [← Bool.not_eq_true]
  intro absolute
  have front := eq_of_beq absolute
  obtain ⟨rest, spelling⟩ := List.head?_eq_some_iff.1 front
  have segments := splitOn_route climbs named
  rw [spelling, ← List.nil_append ('/' :: rest), Text.splitOn_append_cons] at segments
  apply nil_not_mem_route climbs named
  rw [← segments]
  exact List.mem_cons_self

theorem withSlashes_of_not_mem {t : Text} (absent : '\\' ∉ t) : withSlashes t = t := by
  unfold withSlashes
  conv_rhs => rw [← List.map_id t]
  apply List.map_congr_left
  intro c member
  rw [if_neg, id]
  rintro rfl
  exact absent member

theorem startsWith_join_cons (s : Text) (below : List Text) :
    Text.startsWith ['.', '.'] (Text.join ['/'] (s :: below)) = true ↔ ['.', '.'] <+: s := by
  rw [Text.startsWith, Text.dropPrefix?_isSome]
  cases below with
  | nil => rfl
  | cons t below =>
    rw [Text.join_cons (by simp), List.append_assoc, List.singleton_append]
    exact Text.prefix_append_cons (by decide)

theorem join_cons_ne_nil {s : Text} (some_ : s ≠ []) (below : List Text) :
    Text.join ['/'] (s :: below) ≠ [] := by
  cases below with
  | nil => exact some_
  | cons t below => simp [Text.join]

theorem backslash_not_mem_join {ts : List Text} (plain : ∀ s ∈ ts, '\\' ∉ s) :
    '\\' ∉ Text.join ['/'] ts := by
  intro member
  rcases Text.mem_join member with slash | ⟨s, part, inside⟩
  · exact absurd slash (by decide)
  · exact plain s part inside

theorem relative?_spelled (absolute : Bool) (from_ : ∀ s ∈ common ++ up, IsName s)
    (to_ : ∀ s ∈ common ++ down, IsName s) (plain : ∀ s ∈ down, '\\' ∉ s)
    (parted : Parted down up) :
    relative? (spelled absolute (common ++ up)) (spelled absolute (common ++ down)) =
      some (Text.join ['/'] (route up.length down)) := by
  have named : ∀ s ∈ down, IsName s := fun s member => to_ s (List.mem_append_right _ member)
  have clean : ∀ s ∈ List.replicate up.length ['.', '.'] ++ down, '\\' ∉ s := by
    apply List.forall_mem_append.2 ⟨?_, plain⟩
    intro s member
    rw [List.eq_of_mem_replicate member]
    decide
  rw [relative?, difference?_spelled absolute from_ to_ parted, Option.map_some, Option.some.injEq]
  rw [withSlashes_of_not_mem (backslash_not_mem_join clean)]
  dsimp only
  generalize up.length = climbs
  cases climbs with
  | zero =>
    cases down with
    | nil => rfl
    | cons s below =>
      have name := named s (by simp)
      have front := startsWith_join_cons s below
      rw [List.replicate_zero, List.nil_append, if_neg (join_cons_ne_nil name.some_ below)]
      by_cases dots : ['.', '.'] <+: s
      · rw [if_pos (front.2 dots), route, if_pos dots]
      · have below_ : isAbsolute (Text.join ['/'] (s :: below)) = false :=
          isAbsolute_spelled named false
        have joined : join ['.', '/'] (Text.join ['/'] (s :: below)) =
            Text.join ['/'] (['.'] :: s :: below) := by
          rw [join, below_]
          rfl
        have kept : ∀ t ∈ ['.'] :: s :: below, '\\' ∉ t :=
          List.forall_mem_cons.2 ⟨by decide, plain⟩
        rw [if_neg (fun begins => dots (front.1 begins)), joined,
          withSlashes_of_not_mem (backslash_not_mem_join kept), route, if_neg dots]
  | succ n =>
    have front := startsWith_join_cons ['.', '.']
      (List.replicate n ['.', '.'] ++ down)
    rw [List.replicate_succ, List.cons_append, if_neg (join_cons_ne_nil (by decide) _),
      if_pos (front.2 (List.prefix_refl _))]
    rfl

theorem absolute_route {names : List Text} (from_ : ∀ s ∈ names ++ up, IsName s)
    (to_ : ∀ s ∈ down, IsName s) :
    absolute (ofNames (names ++ up)) (Text.join ['/'] (route up.length down)) =
      ofNames (names ++ down) := by
  have here : resolve (steps (ofNames (names ++ up))) = names ++ up := by
    have whole := resolve_append_names [] (names ++ up)
    rw [steps_ofNames from_]
    exact whole
  rw [absolute_of_relative (isAbsolute_route to_), steps_route to_, ← List.append_assoc,
    resolve_append_names, resolve_append_parents here]

theorem route_eq_current_iff {climbs : Nat} (named : ∀ s ∈ down, IsName s) :
    Text.join ['/'] (route climbs down) = ['.'] ↔ climbs = 0 ∧ down = [] := by
  constructor
  · intro same
    have segments := splitOn_route climbs named
    rw [same] at segments
    change [['.']] = route climbs down at segments
    cases climbs with
    | zero =>
      cases down with
      | nil => exact ⟨rfl, rfl⟩
      | cons s below =>
        rw [route] at segments
        split at segments
        · exact absurd (List.cons.inj segments).1.symm (named s (by simp)).current
        · exact absurd (List.cons.inj segments).2 (List.cons_ne_nil _ _).symm
    | succ n => exact absurd (List.cons.inj segments).1 (by decide)
  · rintro ⟨rfl, rfl⟩
    rfl

theorem forall_parent_route_iff {climbs : Nat} (named : ∀ s ∈ down, IsName s) :
    (∀ s ∈ route climbs down, s = ['.', '.']) ↔ climbs ≠ 0 ∧ down = [] := by
  have none_ (all : ∀ s ∈ down, s = ['.', '.']) : down = [] := by
    apply List.eq_nil_iff_forall_not_mem.2
    intro s member
    exact (named s member).parent (all s member)
  constructor
  · intro all
    cases climbs with
    | zero =>
      cases down with
      | nil => exact absurd (all ['.'] List.mem_cons_self) (by decide)
      | cons s below =>
        rw [route] at all
        split at all
        · exact absurd (none_ all) (List.cons_ne_nil _ _)
        · exact absurd (all ['.'] List.mem_cons_self) (by decide)
    | succ n => exact ⟨by simp, none_ fun s member => all s (List.mem_append_right _ member)⟩
  · rintro ⟨climbing, rfl⟩
    obtain ⟨n, rfl⟩ := Nat.exists_eq_succ_of_ne_zero climbing
    intro s member
    exact List.eq_of_mem_replicate ((List.mem_append.1 member).resolve_right (by simp))

theorem front_route_iff (climbs : Nat) (down : List Text) :
    ['.', '/'] <+: Text.join ['/'] (route climbs down) ↔
      climbs = 0 ∧ ∃ s below, down = s :: below ∧ ¬['.', '.'] <+: s := by
  have climbing {t : Text} (dots : Text.startsWith ['.', '.'] t = true) : ¬['.', '/'] <+: t := by
    obtain ⟨rest, rfl⟩ := Text.dropPrefix?_isSome.1 dots
    simp
  cases climbs with
  | zero =>
    cases down with
    | nil => simp [route, Text.join]
    | cons s below =>
      rw [route]
      split
      · next dots => simpa [dots] using climbing ((startsWith_join_cons s below).2 dots)
      · next plain => simp [plain, Text.join]
  | succ n =>
    have front := startsWith_join_cons ['.', '.'] (List.replicate n ['.', '.'] ++ down)
    exact iff_of_false (climbing (front.2 (List.prefix_refl _))) (by simp)

theorem Parted.eq_nil_of_prefix (parted : Parted down up) (inside : down <+: up) : down = [] := by
  cases down with
  | nil => rfl
  | cons s below =>
    obtain ⟨rest, rfl⟩ := inside
    exact absurd rfl (parted s rfl)

theorem Parted.symm (parted : Parted down up) : Parted up down :=
  fun s left right => parted s right left

-- A relative path between directories leads from the one to the other. It is `.` for a directory
-- itself and consists of `..` for those above it. Below the directory it begins with `./`, unless
-- the first name it goes down to begins with two dots.
theorem relative?_leads {start target : List Text} (from_ : ∀ s ∈ start, IsName s)
    (to_ : ∀ s ∈ target, IsName s) (plain : ∀ s ∈ target, '\\' ∉ s) :
    ∃ path, relative? (ofNames start) (ofNames target) = some path ∧
      absolute (ofNames start) path = ofNames target ∧
      (path = ['.'] ↔ start = target) ∧
      ((∀ s ∈ Text.splitOn '/' path, s = ['.', '.']) ↔ target <+: start ∧ target ≠ start) ∧
      (['.', '/'] <+: path ↔
        ∃ s below, target = start ++ s :: below ∧ ¬['.', '.'] <+: s) := by
  obtain ⟨common, up, down, rfl, rfl, parted⟩ := exists_common start target
  have named : ∀ s ∈ down, IsName s := fun s member => to_ s (List.mem_append_right _ member)
  have clean : ∀ s ∈ down, '\\' ∉ s := fun s member => plain s (List.mem_append_right _ member)
  have same : down = up ↔ up.length = 0 ∧ down = [] := by
    constructor
    · rintro rfl
      have none_ := parted.eq_nil_of_prefix (List.prefix_refl _)
      simp [none_]
    · rintro ⟨none_, rfl⟩
      exact (List.length_eq_zero_iff.1 none_).symm
  refine ⟨_, relative?_spelled true from_ to_ clean parted, absolute_route from_ named, ?_, ?_, ?_⟩
  · rw [route_eq_current_iff named, List.append_cancel_left_eq, ← same, eq_comm]
  · rw [splitOn_route _ named, forall_parent_route_iff named, List.prefix_append_right_inj, Ne, Ne,
      List.append_cancel_left_eq, same]
    constructor
    · rintro ⟨climbing, rfl⟩
      exact ⟨List.nil_prefix, fun both => climbing both.1⟩
    · rintro ⟨inside, differ⟩
      have none_ := parted.eq_nil_of_prefix inside
      exact ⟨fun level => differ ⟨level, none_⟩, none_⟩
  · rw [front_route_iff]
    constructor
    · rintro ⟨level, s, below, rfl, other⟩
      rw [List.length_eq_zero_iff.1 level]
      exact ⟨s, below, by simp, other⟩
    · rintro ⟨s, below, spelling, other⟩
      rw [List.append_assoc, List.append_cancel_left_eq] at spelling
      have level := parted.symm.eq_nil_of_prefix ⟨_, spelling.symm⟩
      exact ⟨by rw [level]; rfl, s, below, by rw [spelling, level]; rfl, other⟩

theorem relative?_leads_up_and_down :
    let start := ["a".toList, "b".toList]
    let target := ["a".toList, "..c".toList, "d".toList]
    let path := "../..c/d".toList
    (∀ s ∈ start, IsName s) ∧ (∀ s ∈ target, IsName s) ∧ (∀ s ∈ target, '\\' ∉ s) ∧
      relative? (ofNames start) (ofNames target) = some path ∧
      absolute (ofNames start) path = "/a/..c/d".toList ∧ path ≠ ['.'] ∧
      ¬(∀ s ∈ Text.splitOn '/' path, s = ['.', '.']) ∧ ¬['.', '/'] <+: path := by
  intro start target path
  have from_ : ∀ s ∈ start, IsName s := by decide
  have to_ : ∀ s ∈ target, IsName s := by decide
  have plain : ∀ s ∈ target, '\\' ∉ s := by decide
  have spelled : relative? (ofNames start) (ofNames target) = some path := by decide
  obtain ⟨found, same, leads, here, above, below⟩ := relative?_leads from_ to_ plain
  cases same.symm.trans spelled
  refine ⟨from_, to_, plain, spelled, leads, fun same => ?_, fun climbs => ?_, fun begins => ?_⟩
  · exact absurd (here.1 same) (by decide)
  · exact absurd (above.1 climbs).1 (by decide)
  · obtain ⟨s, rest, spelling, -⟩ := below.1 begins
    exact absurd ⟨_, spelling.symm⟩ (by decide : ¬start <+: target)

-- The directory lies below, and yet nothing stands in front of its name.
theorem dotted_name_taken_for_climb :
    let start := ["a".toList]
    let target := ["a".toList, "..b".toList]
    (∀ s ∈ start ++ target, IsName s ∧ '\\' ∉ s) ∧ start <+: target ∧ target ≠ start ∧
      relative? (ofNames start) (ofNames target) = some "..b".toList ∧
      ¬['.', '/'] <+: "..b".toList := by
  decide

end Path
end ComponentLoader
