import ComponentLoader.FileTree

namespace ComponentLoader

namespace Path

def leading (segments : List Text) : List Text := segments.filter fun s => !isIdle s

theorem isIdle_iff {s : Text} : isIdle s = true ↔ s = [] ∨ s = ['.'] := by
  simp [isIdle]

def Component.leads : Component → Bool
  | parent | name _ => true
  | root | current => false

theorem leads_ofSegment? {s : Text} {c : Component} (read : Component.ofSegment? s = some c) :
    c.leads = true := by
  unfold Component.ofSegment? at read
  split at read
  · cases read
  · split at read <;> (cases read; rfl)

theorem leading_eq (segments : List Text) :
    leading segments = (segments.filterMap Component.ofSegment?).map (·.text) := by
  induction segments with
  | nil => rfl
  | cons s segments ih =>
    unfold leading at ih ⊢
    by_cases idle : isIdle s = true
    · have skipped : Component.ofSegment? s = none := if_pos (isIdle_iff.1 idle)
      rw [List.filter_cons_of_neg (by simp [idle]), List.filterMap_cons_none skipped, ih]
    · obtain ⟨c, read, text⟩ : ∃ c, Component.ofSegment? s = some c ∧ c.text = s := by
        rw [Component.ofSegment?, if_neg (fun which => idle (isIdle_iff.2 which))]
        split
        · next up => exact ⟨.parent, rfl, up.symm⟩
        · exact ⟨.name s, rfl, rfl⟩
      rw [List.filter_cons_of_pos (by simp [idle]), List.filterMap_cons_some read, ih,
        List.map_cons, text]

-- The components tell where a path starts and all that leads on from there.
theorem of_components {path : Text} :
    (isAbsolute path = true ↔ .root ∈ components path) ∧
      leading (Text.splitOn '/' path) =
        ((components path).filter (·.leads)).map (·.text) := by
  have all : ((Text.splitOn '/' path).filterMap Component.ofSegment?).filter (·.leads) =
      (Text.splitOn '/' path).filterMap Component.ofSegment? := by
    rw [List.filter_eq_self]
    intro c member
    obtain ⟨s, -, read⟩ := List.mem_filterMap.1 member
    exact leads_ofSegment? read
  have inside : .root ∉ (Text.splitOn '/' path).filterMap Component.ofSegment? := by
    intro member
    obtain ⟨s, -, read⟩ := List.mem_filterMap.1 member
    cases leads_ofSegment? read
  rw [leading_eq]
  unfold components
  dsimp only
  split
  · next absolute =>
    refine ⟨by simp [absolute], ?_⟩
    rw [List.filter_append, all]
    rfl
  · next relative =>
    split
    · refine ⟨by simp [relative, inside], ?_⟩
      rw [List.filter_append, all]
      rfl
    · refine ⟨by simp [relative, inside], ?_⟩
      rw [List.nil_append, all]

end Path

namespace FileTree

def enter (t : FileTree) (names : Names) (s : Text) : Except FileError Names :=
  match t.node? names with
  | .error e => .error e
  | .ok (.file _ _) => .error .notDirectory
  | .ok (.directory _) =>
    if Path.isIdle s then .ok names
    else if s = ['.', '.'] then .ok names.dropLast
    else (t.node? (names ++ [s])).map fun _ => names ++ [s]

variable {t u : FileTree} {names r : Names}

theorem walk_cons (s : Text) (rest : List Text) :
    t.walk names (s :: rest) = t.enter names s >>= fun between => t.walk between rest := by
  rw [walk, enter]
  cases t.node? names with
  | error e => rfl
  | ok node =>
    cases node with
    | file text changed => rfl
    | directory changed =>
      by_cases idle : Path.isIdle s = true
      · simp [bind, Except.bind, Node.isDirectory, idle]
      · by_cases up : s = ['.', '.']
        · simp [bind, Except.bind, Node.isDirectory, up, Path.isIdle]
        · cases t.node? (names ++ [s]) <;>
            simp [bind, Except.bind, Node.isDirectory, idle, up, Except.map]

theorem walk_append (a b : List Text) :
    t.walk names (a ++ b) = t.walk names a >>= fun between => t.walk between b := by
  induction a generalizing names with
  | nil => rfl
  | cons s a ih =>
    rw [List.cons_append, walk_cons, walk_cons, bind_assoc]
    exact congrArg _ (funext fun between => ih)

def HasDirectory (t : FileTree) (names : Names) : Prop :=
  ∃ changed, t.node? names = .ok (.directory changed)

inductive Enters (t : FileTree) (names : Names) : Text → Names → Prop where
  | idle {s : Text} (here : t.HasDirectory names) (idle : Path.isIdle s = true) :
      Enters t names s names
  | up (here : t.HasDirectory names) : Enters t names ['.', '.'] names.dropLast
  | down {s : Text} {node : Node} (here : t.HasDirectory names) (busy : Path.isIdle s = false)
      (other : s ≠ ['.', '.']) (there : t.node? (names ++ [s]) = .ok node) :
      Enters t names s (names ++ [s])

theorem enter_eq_ok_iff {s : Text} : t.enter names s = .ok r ↔ t.Enters names s r := by
  constructor
  · intro entered
    unfold enter at entered
    split at entered
    · cases entered
    · cases entered
    · next changed here =>
      split at entered
      · next idle =>
        cases entered
        exact .idle ⟨changed, here⟩ idle
      · next busy =>
        split at entered
        · next up =>
          cases entered
          cases up
          exact .up ⟨changed, here⟩
        · next other =>
          cases there : t.node? (names ++ [s]) with
          | error e =>
            rw [there] at entered
            cases entered
          | ok node =>
            rw [there] at entered
            cases entered
            exact .down ⟨changed, here⟩ (by simpa using busy) other there
  · rintro (⟨⟨changed, here⟩, idle⟩ | ⟨changed, here⟩ | ⟨⟨changed, here⟩, busy, other, there⟩)
    · simp [enter, here, idle]
    · simp [enter, here, Path.isIdle]
    · simp [enter, here, busy, other, there, Except.map]

theorem walk_cons_eq_ok_iff {s : Text} {rest : List Text} :
    t.walk names (s :: rest) = .ok r ↔
      ∃ between, t.Enters names s between ∧ t.walk between rest = .ok r := by
  rw [walk_cons]
  cases entered : t.enter names s with
  | error e =>
    refine ⟨fun h => (by cases h), fun ⟨between, enters, _⟩ => ?_⟩
    rw [enter_eq_ok_iff.2 enters] at entered
    cases entered
  | ok between =>
    refine ⟨fun h => ⟨between, enter_eq_ok_iff.1 entered, h⟩, fun ⟨other, enters, h⟩ => ?_⟩
    rw [enter_eq_ok_iff.2 enters] at entered
    cases entered
    exact h

theorem walk_leading {segments : List Text} (walked : t.walk names segments = .ok r) :
    t.walk names (Path.leading segments) = .ok r := by
  induction segments generalizing names with
  | nil => exact walked
  | cons s segments ih =>
    obtain ⟨between, enters, onward⟩ := walk_cons_eq_ok_iff.1 walked
    cases enters with
    | idle here idle =>
      have skipped : Path.leading (s :: segments) = Path.leading segments := by
        simp [Path.leading, idle]
      rw [skipped]
      exact ih onward
    | up here =>
      have kept : Path.leading (['.', '.'] :: segments) = ['.', '.'] :: Path.leading segments := rfl
      rw [kept]
      exact walk_cons_eq_ok_iff.2 ⟨_, .up here, ih onward⟩
    | down here busy other there =>
      have kept : Path.leading (s :: segments) = s :: Path.leading segments := by
        simp [Path.leading, busy]
      rw [kept]
      exact walk_cons_eq_ok_iff.2 ⟨_, .down here busy other there, ih onward⟩

theorem hasDirectory_of_walk {segments : List Text} (walked : t.walk names segments = .ok r)
    (some_ : segments ≠ []) : t.HasDirectory names := by
  cases segments with
  | nil => exact absurd rfl some_
  | cons s segments =>
    obtain ⟨between, enters, -⟩ := walk_cons_eq_ok_iff.1 walked
    cases enters with
    | idle here => exact here
    | up here => exact here
    | down here => exact here

theorem walk_of_leading {segments : List Text} (busy : segments.getLast?.all (!Path.isIdle ·) = true)
    (walked : t.walk names (Path.leading segments) = .ok r) : t.walk names segments = .ok r := by
  induction segments generalizing names with
  | nil => exact walked
  | cons s segments ih =>
    have later : segments.getLast?.all (!Path.isIdle ·) = true := by
      cases segments with
      | nil => rfl
      | cons next segments => simpa using busy
    by_cases idle : Path.isIdle s = true
    · have skipped : Path.leading (s :: segments) = Path.leading segments := by
        simp [Path.leading, idle]
      rw [skipped] at walked
      have remains : Path.leading segments ≠ [] := by
        obtain ⟨last, place⟩ : ∃ last, segments.getLast? = some last := by
          cases segments with
          | nil => simp [idle] at busy
          | cons next segments => exact ⟨_, List.getLast?_cons⟩
        rw [place] at later
        exact List.ne_nil_of_mem (List.mem_filter.2 ⟨List.mem_of_getLast? place, later⟩)
      exact walk_cons_eq_ok_iff.2
        ⟨names, .idle (hasDirectory_of_walk walked remains) idle, ih later walked⟩
    · have kept : Path.leading (s :: segments) = s :: Path.leading segments := by
        simp [Path.leading, idle]
      rw [kept] at walked
      obtain ⟨between, enters, onward⟩ := walk_cons_eq_ok_iff.1 walked
      exact walk_cons_eq_ok_iff.2 ⟨between, enters, ih later onward⟩

theorem hasDirectory_of_idle {segments : List Text} {last : Text} (idle : Path.isIdle last = true)
    (walked : t.walk names (segments ++ [last]) = .ok r) : t.HasDirectory r := by
  rw [walk_append] at walked
  cases above : t.walk names segments with
  | error e =>
    rw [above] at walked
    cases walked
  | ok between =>
    rw [above] at walked
    obtain ⟨after, enters, done⟩ := walk_cons_eq_ok_iff.1 walked
    cases done
    cases enters with
    | idle here => exact here
    | up here => cases idle
    | down here busy =>
      rw [idle] at busy
      cases busy

theorem locate_eq_ok_iff {path : Text} {node : Node} :
    t.locate path = .ok (names, node) ↔ path ≠ [] ∧
      t.walk (t.start path) (Text.splitOn '/' path) = .ok names ∧ t.node? names = .ok node := by
  unfold locate
  by_cases empty : path = []
  · simp [empty, bind, Except.bind, throw, throwThe, MonadExceptOf.throw]
  · rw [and_iff_right empty, if_neg empty]
    cases walked : t.walk (t.start path) (Text.splitOn '/' path) with
    | error e => simp [bind, Except.bind]
    | ok place =>
      cases found : t.node? place with
      | error e =>
        constructor
        · intro located
          simp only [bind, Except.bind, found] at located
          cases located
        · rintro ⟨same, there⟩
          cases same
          rw [found] at there
          cases there
      | ok reached =>
        simp only [bind, Except.bind, found, pure, Except.pure]
        constructor
        · intro located
          cases located
          exact ⟨rfl, found⟩
        · rintro ⟨same, there⟩
          cases same
          rw [found] at there
          cases there
          rfl

theorem readText_eq_ok_iff {path content : Text} :
    t.readText path = .ok content ↔
      ∃ names changed, t.locate path = .ok (names, .file (some content) changed) := by
  unfold readText
  cases t.locate path with
  | error e => simp [bind, Except.bind]
  | ok found =>
    obtain ⟨names, node⟩ := found
    cases node with
    | directory changed => simp [bind, Except.bind, throw, throwThe, MonadExceptOf.throw]
    | file text changed =>
      cases text <;> simp [bind, Except.bind, throw, throwThe, MonadExceptOf.throw, pure, Except.pure]

theorem changed?_eq_some_iff {path : Text} {changed : Stamp} : t.changed? path = some changed ↔
    ∃ names node, t.locate path = .ok (names, node) ∧ node.changed = changed := by
  unfold changed?
  cases t.locate path with
  | error e => simp
  | ok found =>
    constructor
    · intro same
      exact ⟨found.1, found.2, rfl, Option.some.inj same⟩
    · rintro ⟨names, node, located, rfl⟩
      cases located
      rfl

theorem changed?_of_readText {path content : Text} (read : t.readText path = .ok content) :
    ∃ changed, t.changed? path = some changed := by
  obtain ⟨names, changed, located⟩ := readText_eq_ok_iff.1 read
  exact ⟨changed, changed?_eq_some_iff.2 ⟨names, _, located, rfl⟩⟩

section Same

variable {p q : Text} (same : Path.components p = Path.components q)

include same

theorem start_congr (t : FileTree) : t.start p = t.start q := by
  have absolute : Path.isAbsolute p = Path.isAbsolute q := by
    rw [Bool.eq_iff_iff, Path.of_components.1, Path.of_components.1, same]
  rw [start, start, absolute]

theorem leading_congr :
    Path.leading (Text.splitOn '/' p) = Path.leading (Text.splitOn '/' q) := by
  rw [Path.of_components.2, Path.of_components.2, same]

-- A path that once led to a text leads wherever another of its components leads.
theorem locate_of_readText {content : Text} {a : Names × Node} (read : t.readText p = .ok content)
    (located : u.locate q = .ok a) : u.locate p = .ok a := by
  obtain ⟨names, changed, there⟩ := readText_eq_ok_iff.1 read
  obtain ⟨some_, walked, found⟩ := locate_eq_ok_iff.1 there
  have busy : (Text.splitOn '/' p).getLast?.all (!Path.isIdle ·) = true := by
    cases place : (Text.splitOn '/' p).getLast? with
    | none => rfl
    | some last =>
      obtain ⟨above, split⟩ := List.getLast?_eq_some_iff.1 place
      rw [split] at walked
      cases idle : Path.isIdle last with
      | false => simp [idle]
      | true =>
        obtain ⟨moment, here⟩ := hasDirectory_of_idle idle walked
        rw [found] at here
        cases here
  obtain ⟨-, walkedThere, foundThere⟩ := locate_eq_ok_iff.1 located
  refine locate_eq_ok_iff.2 ⟨some_, walk_of_leading busy ?_, foundThere⟩
  rw [start_congr same, leading_congr same]
  exact walk_leading walkedThere

end Same

end FileTree
end ComponentLoader
