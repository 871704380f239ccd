import ComponentLoader.Path
import ComponentLoader.Proofs.Text.Search

namespace ComponentLoader
namespace Path

structure IsName (s : Text) : Prop where
  some_ : s ≠ []
  current : s ≠ ['.']
  parent : s ≠ ['.', '.']
  single : '/' ∉ s

instance (s : Text) : Decidable (IsName s) :=
  decidable_of_iff (s ≠ [] ∧ s ≠ ['.'] ∧ s ≠ ['.', '.'] ∧ '/' ∉ s)
    ⟨fun ⟨a, b, c, d⟩ => ⟨a, b, c, d⟩, fun ⟨a, b, c, d⟩ => ⟨a, b, c, d⟩⟩

def spelled (absolute : Bool) (names : List Text) : Text :=
  (if absolute then ['/'] else []) ++ Text.join ['/'] names

-- What a path leads through, wherever it starts.
def steps (path : Text) : List Component := (Text.splitOn '/' path).filterMap Component.ofSegment?

theorem steps_append_slash (a b : Text) : steps (a ++ '/' :: b) = steps a ++ steps b := by
  unfold steps
  rw [Text.splitOn_append_cons, List.filterMap_append]

theorem steps_slash (path : Text) : steps ('/' :: path) = steps path := steps_append_slash [] path

theorem IsName.ofSegment? {s : Text} (name : IsName s) : Component.ofSegment? s = some (.name s) := by
  unfold Component.ofSegment?
  rw [if_neg (by simp [name.some_, name.current]), if_neg name.parent]

theorem filterMap_ofSegment? {names : List Text} (named : ∀ s ∈ names, IsName s) :
    names.filterMap Component.ofSegment? = names.map .name := by
  rw [← List.filterMap_eq_map]
  apply List.filterMap_congr
  intro s member
  exact (named s member).ofSegment?

theorem splitOn_join_names {names : List Text} (named : ∀ s ∈ names, IsName s) (some_ : names ≠ []) :
    Text.splitOn '/' (Text.join ['/'] names) = names :=
  Text.splitOn_join_of_not_mem some_ fun s member => (named s member).single

theorem steps_spelled {names : List Text} (named : ∀ s ∈ names, IsName s) (absolute : Bool) :
    steps (spelled absolute names) = names.map .name := by
  have plain : steps (Text.join ['/'] names) = names.map .name := by
    by_cases none_ : names = []
    · rw [none_]
      rfl
    · unfold steps
      rw [splitOn_join_names named none_, filterMap_ofSegment? named]
  cases absolute with
  | false => exact plain
  | true => exact (steps_slash _).trans plain

theorem isName_of_mem_steps {path s : Text} (member : .name s ∈ steps path) : IsName s := by
  obtain ⟨segment, part, read⟩ := List.mem_filterMap.1 member
  unfold Component.ofSegment? at read
  split at read
  · cases read
  · next busy =>
    split at read
    · cases read
    · next below =>
      cases read
      rw [not_or] at busy
      exact ⟨busy.1, busy.2, below, Text.not_mem_of_mem_splitOn part⟩

theorem components_eq (path : Text) : components path =
    (if isAbsolute path then [Component.root]
      else if (Text.splitOn '/' path).head? = some ['.'] then [.current] else []) ++ steps path := rfl

theorem head?_spelled {names : List Text} (named : ∀ s ∈ names, IsName s) :
    '/' ∉ (spelled false names).head? := by
  intro front
  cases names with
  | nil => cases front
  | cons s names =>
    have name := named s (by simp)
    obtain ⟨c, rest, rfl⟩ := List.exists_cons_of_ne_nil name.some_
    have first : (spelled false ((c :: rest) :: names)).head? = some c := by
      cases names with
      | nil => rfl
      | cons t names => rfl
    rw [first] at front
    cases front
    exact name.single (by simp)

theorem isAbsolute_spelled {names : List Text} (named : ∀ s ∈ names, IsName s) (absolute : Bool) :
    isAbsolute (spelled absolute names) = absolute := by
  cases absolute with
  | true => rfl
  | false =>
    have relative := head?_spelled named
    simpa [isAbsolute] using relative

theorem components_spelled {names : List Text} (named : ∀ s ∈ names, IsName s) (absolute : Bool) :
    components (spelled absolute names) = (if absolute then [.root] else []) ++ names.map .name := by
  rw [components_eq, steps_spelled named, isAbsolute_spelled named]
  cases absolute with
  | true => rfl
  | false =>
    have plain : (Text.splitOn '/' (spelled false names)).head? ≠ some ['.'] := by
      intro front
      cases names with
      | nil => cases front
      | cons s names =>
        have segments : Text.splitOn '/' (spelled false (s :: names)) = s :: names :=
          splitOn_join_names named (by simp)
        rw [segments, List.head?_cons, Option.some.injEq] at front
        exact (named s (by simp)).current front
    simp [plain]

theorem resolve_append_singleton (cs : List Component) (c : Component) :
    resolve (cs ++ [c]) = match c with
      | .name t => resolve cs ++ [t]
      | .parent => (resolve cs).dropLast
      | _ => resolve cs := by
  unfold resolve
  rw [List.foldl_append]
  cases c <;> rfl

theorem resolve_append_names (cs : List Component) (names : List Text) :
    resolve (cs ++ names.map .name) = resolve cs ++ names := by
  induction names generalizing cs with
  | nil => simp
  | cons s names ih =>
    have step := resolve_append_singleton cs (.name s)
    rw [List.map_cons, List.append_cons, ih, step, List.append_assoc]
    rfl

theorem resolve_append_parents {cs : List Component} {names up : List Text}
    (here : resolve cs = names ++ up) : resolve (cs ++ List.replicate up.length .parent) = names := by
  induction up using List.reverseRecOn generalizing cs with
  | nil => simpa using here
  | append_singleton up s ih =>
    have step := resolve_append_singleton cs .parent
    rw [here, ← List.append_assoc, List.dropLast_concat] at step
    rw [List.length_append, List.length_singleton, List.replicate_succ, List.append_cons]
    exact ih step

theorem resolve_components (path : Text) : resolve (components path) = resolve (steps path) := by
  rw [components_eq]
  split
  · rfl
  · split
    · rfl
    · rfl

theorem mem_of_mem_resolve {cs : List Component} {s : Text} (member : s ∈ resolve cs) :
    .name s ∈ cs := by
  induction cs using List.reverseRecOn with
  | nil => cases member
  | append_singleton cs c ih =>
    rw [resolve_append_singleton] at member
    cases c with
    | name t =>
      rcases List.mem_append.1 member with before | last
      · exact List.mem_append_left _ (ih before)
      · rw [List.mem_singleton.1 last]
        simp
    | parent => exact List.mem_append_left _ (ih (List.dropLast_subset _ member))
    | root => exact List.mem_append_left _ (ih member)
    | current => exact List.mem_append_left _ (ih member)

theorem steps_join {path : Text} (relative : isAbsolute path = false) (base : Text) :
    steps (join base path) = steps base ++ steps path := by
  unfold join
  rw [relative]
  split
  · next absolute => cases absolute
  · split
    · next ends =>
      rcases ends with rfl | slash
      · rfl
      · obtain ⟨base, rfl⟩ := List.getLast?_eq_some_iff.1 slash
        rw [List.append_assoc, List.singleton_append, steps_append_slash, steps_append_slash]
        exact congrArg (· ++ _) (List.append_nil _).symm
    · exact steps_append_slash base path

theorem absolute_of_relative {path : Text} (relative : isAbsolute path = false) (base : Text) :
    absolute base path = ofNames (resolve (steps base ++ steps path)) := by
  rw [absolute, resolve_components, steps_join relative]

theorem absolute_of_absolute {path : Text} (absolute_ : isAbsolute path = true) (base : Text) :
    absolute base path = ofNames (resolve (steps path)) := by
  rw [absolute, resolve_components, join, if_pos absolute_]

theorem steps_ofNames {names : List Text} (named : ∀ s ∈ names, IsName s) :
    steps (ofNames names) = names.map .name := steps_spelled named true

theorem absolute_spelled {names : List Text} (named : ∀ s ∈ names, IsName s) (rooted : Bool)
    (base : Text) : absolute base (spelled rooted names) =
      ofNames ((if rooted then [] else resolve (steps base)) ++ names) := by
  have front := isAbsolute_spelled named rooted
  cases rooted with
  | false =>
    rw [absolute_of_relative front, steps_spelled named, resolve_append_names]
    rfl
  | true =>
    have whole := resolve_append_names [] names
    rw [absolute_of_absolute front, steps_spelled named]
    exact congrArg ofNames whole

theorem splitOn_spelled {names : List Text} (named : ∀ s ∈ names, IsName s) (some_ : names ≠ [])
    (rooted : Bool) : Text.splitOn '/' (spelled rooted names) =
      (if rooted then [[]] else []) ++ names := by
  have plain := splitOn_join_names named some_
  cases rooted with
  | false => exact plain
  | true =>
    have slash := Text.splitOn_append_cons '/' [] (Text.join ['/'] names)
    rw [plain] at slash
    exact slash

theorem front_spelled {names : List Text} (named : ∀ s ∈ names, IsName s) (some_ : names ≠ [])
    (rooted : Bool) : front (spelled rooted names) =
      (if rooted then ['/'] else [], Text.join ['/'] names) := by
  cases rooted with
  | true => rfl
  | false =>
    have segments : Text.splitOn '/' (spelled false names) = names :=
      splitOn_spelled named some_ false
    have current : ['.'] ∉ names := fun member => (named _ member).current rfl
    change front (spelled false names) = ([], spelled false names)
    unfold front
    split
    · next r spelling => exact absurd (by rw [spelling]; rfl) (head?_spelled named)
    · next spelling =>
      rw [spelling] at segments
      exact absurd (segments ▸ List.mem_singleton_self _) current
    · next r spelling =>
      have cut := Text.splitOn_append_cons '/' ['.'] r
      rw [spelling, ← List.singleton_append, cut] at segments
      rw [← segments] at current
      exact absurd (List.mem_append_left _ (List.mem_singleton_self _)) current
    · rfl

theorem dropWhile_idle {names : List Text} (named : ∀ s ∈ names, IsName s) :
    names.dropWhile isIdle = names := by
  cases names with
  | nil => rfl
  | cons s names =>
    have name := named s (by simp)
    exact List.dropWhile_cons_of_neg (by simp [isIdle, name.some_, name.current])

theorem directory_of_spelled {path : Text} {names : List Text} {last : Text} {rooted : Bool}
    (written : withSlashes path = spelled rooted (names ++ [last]))
    (named : ∀ s ∈ names ++ [last], IsName s) : directory path = spelled rooted names := by
  have above : ∀ s ∈ names, IsName s := fun s member => named s (List.mem_append_left _ member)
  have back : (Text.splitOn '/' (Text.join ['/'] (names ++ [last]))).reverse.dropWhile isIdle =
      last :: names.reverse := by
    have reversed : ∀ s ∈ (names ++ [last]).reverse, IsName s := fun s member =>
      named s (List.mem_reverse.1 member)
    rw [splitOn_join_names named (by simp), dropWhile_idle reversed, List.reverse_concat]
  rw [directory, written, parent?, front_spelled named (by simp)]
  dsimp only
  rw [back]
  dsimp only
  rw [dropWhile_idle (by simpa using above), List.reverse_reverse]
  rfl

theorem aboveDir?_of_spelled {path dir : Text} {above below : List Text} {rooted : Bool}
    (written : withSlashes path = spelled rooted (above ++ dir :: below))
    (named : ∀ s ∈ above ++ dir :: below, IsName s) (first : dir ∉ above) (some_ : below ≠ []) :
    aboveDir? path dir =
      some (Text.join ['/'] ((if rooted then [[]] else []) ++ above), below.length) := by
  have others : ∀ s ∈ (if rooted then [[]] else []) ++ above, decide (s ≠ dir) = true := by
    intro s member
    rw [decide_eq_true_eq]
    rintro rfl
    rcases List.mem_append.1 member with front | inside
    · have name := named s (by simp)
      cases rooted with
      | false => cases front
      | true => exact name.some_ (List.mem_singleton.1 front)
    · exact first inside
  have taken : ((if rooted then [[]] else []) ++ above ++ dir :: below).takeWhile (· ≠ dir) =
      (if rooted then [[]] else []) ++ above := by
    rw [List.takeWhile_append_of_pos others, List.takeWhile_cons_of_neg (by simp), List.append_nil]
  have more := List.length_pos_iff.2 some_
  have segments := splitOn_spelled named (by simp) rooted
  rw [← written, ← List.append_assoc] at segments
  unfold aboveDir?
  dsimp only
  rw [segments, taken]
  generalize (if rooted then [[]] else []) ++ above = lead
  have size : (lead ++ dir :: below).length = lead.length + (below.length + 1) := List.length_append
  rw [size, if_pos (by omega)]
  congr 2
  omega

end Path
end ComponentLoader
