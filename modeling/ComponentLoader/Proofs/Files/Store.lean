import ComponentLoader.Proofs.Files.Walk
import ComponentLoader.Proofs.Text.Replacement

namespace ComponentLoader
namespace FileTree

variable {t u v : FileTree} {names r : Names} {path : Text}

structure Grows (t u : FileTree) : Prop where
  cwd : u.cwd = t.cwd
  directory : ∀ names, t.HasDirectory names → u.HasDirectory names
  node : ∀ names node, t.node? names = .ok node → ∃ after, u.node? names = .ok after

theorem Grows.refl (t : FileTree) : Grows t t := ⟨rfl, fun _ => id, fun _ node there => ⟨node, there⟩⟩

theorem Grows.trans (first : Grows t u) (last : Grows u v) : Grows t v := by
  refine ⟨last.cwd.trans first.cwd, fun names here => last.directory names (first.directory names here),
    fun names node there => ?_⟩
  obtain ⟨between, found⟩ := first.node names node there
  exact last.node names between found

theorem Grows.start (grows : Grows t u) (path : Text) : u.start path = t.start path := by
  rw [FileTree.start, FileTree.start, grows.cwd]

theorem Enters.grows (grows : Grows t u) {s : Text} (enters : t.Enters names s r) :
    u.Enters names s r := by
  cases enters with
  | idle here idle => exact .idle (grows.directory _ here) idle
  | up here => exact .up (grows.directory _ here)
  | down here busy other there =>
    obtain ⟨after, found⟩ := grows.node _ _ there
    exact .down (grows.directory _ here) busy other found

theorem Grows.walk (grows : Grows t u) {segments : List Text}
    (walked : t.walk names segments = .ok r) : u.walk names segments = .ok r := by
  induction segments generalizing names with
  | nil => exact walked
  | cons s segments ih =>
    obtain ⟨between, enters, onward⟩ := walk_cons_eq_ok_iff.1 walked
    exact walk_cons_eq_ok_iff.2 ⟨between, enters.grows grows, ih onward⟩

theorem isDirectory_iff : t.isDirectory path = true ↔
    ∃ names changed, t.locate path = .ok (names, .directory changed) := by
  unfold isDirectory
  cases t.locate path with
  | error e => simp
  | ok found =>
    obtain ⟨names, node⟩ := found
    cases node <;> simp [Node.isDirectory]

theorem Grows.isDirectory (grows : Grows t u) (here : t.isDirectory path = true) :
    u.isDirectory path = true := by
  obtain ⟨names, changed, located⟩ := isDirectory_iff.1 here
  obtain ⟨some_, walked, found⟩ := locate_eq_ok_iff.1 located
  obtain ⟨after, still⟩ := grows.directory names ⟨changed, found⟩
  refine isDirectory_iff.2 ⟨names, after, locate_eq_ok_iff.2 ⟨some_, ?_, still⟩⟩
  rw [grows.start]
  exact grows.walk walked

theorem node?_put (t : FileTree) (names other : Names) (make : Stamp → Node) :
    (t.put names make).node? other =
      if names = other then .ok (make (.moment t.clock)) else t.node? other := by
  rw [node?, put, OrderedMap.get?_insert]
  by_cases here : names = other
  · rw [if_pos here, if_pos here]
  · rw [if_neg here, if_neg here]
    rfl

theorem grows_put (free : ¬t.HasDirectory names) (make : Stamp → Node) :
    Grows t (t.put names make) := by
  refine ⟨rfl, fun other here => ?_, fun other node there => ?_⟩
  · obtain ⟨changed, found⟩ := here
    have apart : names ≠ other := fun same => free ⟨changed, same ▸ found⟩
    exact ⟨changed, by rw [node?_put, if_neg apart, found]⟩
  · rw [node?_put]
    split
    · exact ⟨_, rfl⟩
    · exact ⟨node, there⟩

inductive Placed (t : FileTree) (path : Text) : Names → Prop where
  | mk {above : List Text} {last : Text} {between : Names}
      (split : Text.splitOn '/' path = above ++ [last])
      (walked : t.walk (t.start path) above = .ok between) (here : t.HasDirectory between)
      (busy : Path.isIdle last = false) (other : last ≠ ['.', '.']) :
      Placed t path (between ++ [last])

theorem Placed.grows (grows : Grows t u) (placed : t.Placed path names) : u.Placed path names := by
  obtain ⟨split, walked, here, busy, other⟩ := placed
  refine .mk split ?_ (grows.directory _ here) busy other
  rw [grows.start]
  exact grows.walk walked

theorem Placed.ne_nil (placed : t.Placed path names) : path ≠ [] := by
  obtain ⟨split, walked, here, busy, other⟩ := placed
  rintro rfl
  obtain ⟨-, rfl⟩ := List.append_singleton_inj.1 (show [] ++ [[]] = _ from split)
  cases busy

theorem locate_of_placed (placed : t.Placed path names) {node : Node}
    (there : t.node? names = .ok node) : t.locate path = .ok (names, node) := by
  have some_ := placed.ne_nil
  obtain ⟨split, walked, here, busy, other⟩ := placed
  refine locate_eq_ok_iff.2 ⟨some_, ?_, there⟩
  rw [split, walk_append, walked]
  exact walk_cons_eq_ok_iff.2 ⟨_, .down here busy other there, rfl⟩

theorem exists_split (path : Text) : ∃ above last, Text.splitOn '/' path = above ++ [last] := by
  rcases List.eq_nil_or_concat (Text.splitOn '/' path) with none_ | ⟨above, last, split⟩
  · exact absurd none_ (Text.splitOn_ne_nil _ _)
  · exact ⟨above, last, by rw [split, List.concat_eq_append]⟩

theorem place_of_split {above : List Text} {last : Text}
    (split : Text.splitOn '/' path = above ++ [last]) (e : FileError) :
    t.place path e = (t.walk (t.start path) above).bind fun between =>
      (t.node? between).bind fun node =>
        if node.isDirectory = false then .error .notDirectory
        else if Path.isIdle last = true ∨ last = ['.', '.'] then .error e
        else .ok (between ++ [last]) := by
  rw [place, split, List.dropLast_concat, List.getLast?_concat]
  cases t.walk (t.start path) above with
  | error e => rfl
  | ok between =>
    cases found : t.node? between with
    | error e =>
      simp [bind, Except.bind, found]
    | ok node =>
      cases node <;> simp [bind, Except.bind, found, Node.isDirectory, throw, throwThe,
        MonadExceptOf.throw, pure, Except.pure]

theorem place_eq_ok_iff {e : FileError} : t.place path e = .ok names ↔ t.Placed path names := by
  constructor
  · intro found
    obtain ⟨above, last, split⟩ := exists_split path
    rw [place_of_split split] at found
    cases walked : t.walk (t.start path) above with
    | error cause =>
      rw [walked] at found
      cases found
    | ok between =>
      rw [walked, Except.bind] at found
      cases here : t.node? between with
      | error cause =>
        rw [here] at found
        cases found
      | ok node =>
        rw [here, Except.bind] at found
        cases node with
        | file text changed => cases found
        | directory changed =>
          split at found
          · cases found
          · split at found
            · cases found
            · next leads =>
              cases found
              rw [not_or] at leads
              exact .mk split walked ⟨changed, here⟩ (by simpa using leads.1) leads.2
  · rintro ⟨split, walked, ⟨changed, here⟩, busy, other⟩
    rw [place_of_split split, walked, Except.bind, here]
    simp [Except.bind, Node.isDirectory, busy, other]

theorem writeText_eq_ok_iff {text : Option Text} {changed : Option Stamp} :
    t.writeText path text changed = .ok u ↔ ∃ names, t.Placed path names ∧
      ¬t.HasDirectory names ∧ u = t.put names fun now => .file text (changed.getD now) := by
  unfold writeText
  constructor
  · intro written
    obtain ⟨names, placed, onward⟩ := ok_of_bind written
    refine ⟨names, place_eq_ok_iff.1 placed, ?_⟩
    split at onward
    · cases onward
    · next free =>
      cases onward
      exact ⟨fun ⟨moment, here⟩ => free moment here, rfl⟩
  · rintro ⟨names, placed, free, rfl⟩
    rw [place_eq_ok_iff.2 placed]
    dsimp only [bind, Except.bind]
    split
    · next moment here => exact absurd ⟨moment, here⟩ free
    · rfl

theorem readText_writeText {text : Text} {changed : Option Stamp}
    (written : t.writeText path (some text) changed = .ok u) : u.readText path = .ok text := by
  obtain ⟨names, placed, free, rfl⟩ := writeText_eq_ok_iff.1 written
  refine readText_eq_ok_iff.2 ⟨names, changed.getD (.moment t.clock),
    locate_of_placed (placed.grows (grows_put free _)) ?_⟩
  rw [node?_put, if_pos rfl]

theorem grows_writeText {text : Option Text} {changed : Option Stamp}
    (written : t.writeText path text changed = .ok u) : Grows t u := by
  obtain ⟨names, placed, free, rfl⟩ := writeText_eq_ok_iff.1 written
  exact grows_put free _

theorem writeText_again {text : Option Text} {changed : Option Stamp}
    (written : t.writeText path text changed = .ok u) (other : Option Text) :
    ∃ v, u.writeText path other changed = .ok v := by
  obtain ⟨names, placed, free, rfl⟩ := writeText_eq_ok_iff.1 written
  refine ⟨_, writeText_eq_ok_iff.2 ⟨names, placed.grows (grows_put free _), ?_, rfl⟩⟩
  rintro ⟨moment, here⟩
  rw [node?_put, if_pos rfl] at here
  cases here

theorem makeDirectory_eq_ok_iff : t.makeDirectory path = .ok u ↔
    ∃ names, t.Placed (dropSlashes path) names ∧ (∀ node, t.node? names ≠ .ok node) ∧
      u = t.put names .directory := by
  unfold makeDirectory
  constructor
  · intro made
    obtain ⟨names, placed, onward⟩ := ok_of_bind made
    refine ⟨names, place_eq_ok_iff.1 placed, ?_⟩
    split at onward
    · cases onward
    · next e free =>
      cases onward
      exact ⟨fun node here => (by rw [free] at here; cases here), rfl⟩
  · rintro ⟨names, placed, free, rfl⟩
    rw [place_eq_ok_iff.2 placed]
    dsimp only [bind, Except.bind]
    split
    · next node here => exact absurd here (free node)
    · rfl

theorem grows_makeDirectory (made : t.makeDirectory path = .ok u) : Grows t u := by
  obtain ⟨names, placed, free, rfl⟩ := makeDirectory_eq_ok_iff.1 made
  exact grows_put (fun ⟨moment, here⟩ => free _ here) _

theorem eq_dropSlashes_append (path : Text) :
    ∃ n, path = dropSlashes path ++ List.replicate n '/' := by
  have split := List.takeWhile_append_dropWhile (p := (· == '/')) (l := path.reverse)
  have slashes : path.reverse.takeWhile (· == '/') =
      List.replicate (path.reverse.takeWhile (· == '/')).length '/' := by
    rw [List.eq_replicate_iff]
    refine ⟨rfl, fun c member => ?_⟩
    simpa using List.mem_takeWhile_imp member
  refine ⟨(path.reverse.takeWhile (· == '/')).length, ?_⟩
  rw [dropSlashes, Text.dropEndWhile, ← List.reverse_replicate, ← slashes, ← List.reverse_append,
    split, List.reverse_reverse]

theorem splitOn_slashes (s : Text) (n : Nat) : Text.splitOn '/' (s ++ List.replicate n '/') =
    Text.splitOn '/' s ++ List.replicate n [] := by
  induction n generalizing s with
  | zero => simp
  | succ n ih =>
    rw [List.replicate_succ, Text.splitOn_append_cons, ← List.nil_append (List.replicate n '/'),
      ih [], List.replicate_succ]
    rfl

theorem walk_idle {segments : List Text} (here : t.HasDirectory names)
    (idle : ∀ s ∈ segments, Path.isIdle s = true) : t.walk names segments = .ok names := by
  induction segments with
  | nil => rfl
  | cons s segments ih =>
    rw [List.forall_mem_cons] at idle
    exact walk_cons_eq_ok_iff.2 ⟨names, .idle here idle.1, ih idle.2⟩

theorem start_append {s : Text} (some_ : s ≠ []) (rest : Text) : t.start (s ++ rest) = t.start s := by
  cases s with
  | nil => exact absurd rfl some_
  | cons c s => rfl

theorem isDirectory_makeDirectory (made : t.makeDirectory path = .ok u) :
    u.isDirectory path = true := by
  obtain ⟨names, placed, free, rfl⟩ := makeDirectory_eq_ok_iff.1 made
  have grows : Grows t (t.put names .directory) := grows_put (fun ⟨moment, here⟩ => free _ here) _
  have there : (t.put names .directory).node? names = .ok (.directory (.moment t.clock)) := by
    rw [node?_put, if_pos rfl]
  obtain ⟨n, slashes⟩ := eq_dropSlashes_append path
  have some_ := placed.ne_nil
  obtain ⟨-, walked, -⟩ := locate_eq_ok_iff.1 (locate_of_placed (placed.grows grows) there)
  refine isDirectory_iff.2 ⟨names, _, locate_eq_ok_iff.2 ⟨?_, ?_, there⟩⟩
  · rintro rfl
    exact some_ rfl
  · rw [slashes, start_append some_, splitOn_slashes, walk_append, walked]
    exact walk_idle ⟨_, there⟩ fun s member => by rw [List.eq_of_mem_replicate member]; rfl

theorem makeDirectory_slashes (only : dropSlashes path = []) :
    t.makeDirectory path = match t.node? t.cwd with
      | .ok _ => .error .notDirectory
      | .error _ => .error .notFound := by
  have split : Text.splitOn '/' [] = [] ++ [[]] := rfl
  have cwd : t.walk (t.start []) [] = .ok t.cwd := rfl
  rw [makeDirectory, only, place_of_split split, cwd, Except.bind, node?]
  cases t.nodes.get? t.cwd with
  | none => rfl
  | some node => cases node <;> rfl

theorem parent?_slashes (only : dropSlashes path = []) (some_ : path ≠ []) :
    Path.parent? path = none := by
  obtain ⟨n, slashes⟩ := eq_dropSlashes_append path
  rw [only, List.nil_append] at slashes
  cases n with
  | zero => exact absurd slashes some_
  | succ n =>
    have parts : Text.splitOn '/' (List.replicate n '/') = List.replicate (n + 1) [] := by
      rw [← List.nil_append (List.replicate n '/'), splitOn_slashes, List.replicate_succ]
      rfl
    rw [slashes, List.replicate_succ, Path.parent?]
    simp [Path.front, parts, Path.isIdle]

-- A directory that can be made where it is: the root is looked for in the current directory first.
def Standing (t : FileTree) (path : Text) : Prop :=
  path = [] ∨ t.isDirectory path = true ∧
    (dropSlashes path = [] → ∃ node, t.node? t.cwd = .ok node)

theorem Standing.grows (grows : Grows t u) (standing : t.Standing path) : u.Standing path := by
  rcases standing with rfl | ⟨here, cwd⟩
  · exact .inl rfl
  · refine .inr ⟨grows.isDirectory here, fun only => ?_⟩
    obtain ⟨node, there⟩ := cwd only
    rw [grows.cwd]
    exact grows.node _ _ there

theorem makeDirectory_of_isDirectory (here : t.isDirectory path = true)
    (some_ : dropSlashes path ≠ []) : t.makeDirectory path = .error .notDirectory := by
  obtain ⟨names, changed, located⟩ := isDirectory_iff.1 here
  obtain ⟨-, walked, -⟩ := locate_eq_ok_iff.1 located
  obtain ⟨n, slashes⟩ := eq_dropSlashes_append path
  obtain ⟨above, last, split⟩ := exists_split (dropSlashes path)
  rw [slashes, start_append some_, splitOn_slashes, split, List.append_assoc, walk_append] at walked
  obtain ⟨between, before, onward⟩ := ok_of_bind walked
  obtain ⟨next, enters, -⟩ := walk_cons_eq_ok_iff.1 onward
  have inside : t.HasDirectory between := by
    cases enters with
    | idle here => exact here
    | up here => exact here
    | down here => exact here
  obtain ⟨moment, found⟩ := inside
  have place : t.place (dropSlashes path) .notDirectory =
      if Path.isIdle last = true ∨ last = ['.', '.'] then .error .notDirectory
      else .ok (between ++ [last]) := by
    rw [place_of_split split, before]
    simp [Except.bind, found, Node.isDirectory]
  rw [makeDirectory, place]
  cases enters with
  | idle here idle =>
    rw [if_pos (.inl idle)]
    rfl
  | up here => rfl
  | @down _ node here busy other there =>
    rw [if_neg (by simp [busy, other])]
    change (match t.node? (between ++ [last]) with
      | .ok _ => Except.error FileError.notDirectory
      | .error _ => .ok (t.put (between ++ [last]) .directory)) = _
    rw [there]

theorem makeDirectories_of_standing (standing : t.Standing path) (fuel : Nat) :
    t.makeDirectories path (fuel + 1) = .ok t := by
  rw [makeDirectories]
  dsimp only
  rcases standing with rfl | ⟨here, cwd⟩
  · rfl
  · have refused : t.makeDirectory path = .error .notDirectory := by
      by_cases only : dropSlashes path = []
      · obtain ⟨node, there⟩ := cwd only
        rw [makeDirectory_slashes only, there]
      · exact makeDirectory_of_isDirectory here only
    rw [refused]
    simp [here]

theorem standing_makeDirectory (made : t.makeDirectory path = .ok u) : u.Standing path := by
  obtain ⟨names, placed, -⟩ := makeDirectory_eq_ok_iff.1 made
  exact .inr ⟨isDirectory_makeDirectory made, fun only => absurd only placed.ne_nil⟩

theorem standing_of_refused {e : FileError} (refused : t.makeDirectory path = .error e)
    (other : e ≠ .notFound ∨ dropSlashes path ≠ []) (here : t.isDirectory path = true) :
    t.Standing path := by
  refine .inr ⟨here, fun only => ?_⟩
  rw [makeDirectory_slashes only] at refused
  cases there : t.node? t.cwd with
  | ok node => exact ⟨node, rfl⟩
  | error cause =>
    rw [there] at refused
    cases refused
    exact absurd rfl (other.resolve_right fun some_ => some_ only)

theorem makeDirectories_facts {fuel : Nat} (made : t.makeDirectories path fuel = .ok u) :
    Grows t u ∧ u.Standing path := by
  induction fuel generalizing t u path with
  | zero => cases made
  | succ fuel ih =>
    rw [makeDirectories] at made
    dsimp only at made
    split at made
    · next empty =>
      cases made
      exact ⟨.refl t, .inl empty⟩
    · next some_ =>
      split at made
      · next created =>
        cases made
        exact ⟨grows_makeDirectory created, standing_makeDirectory created⟩
      · next missing =>
        split at made
        · cases made
        · next above parent =>
          have solid : dropSlashes path ≠ [] := by
            intro only
            rw [parent?_slashes only some_] at parent
            cases parent
          obtain ⟨between, before, onward⟩ := ok_of_bind made
          obtain ⟨grows, -⟩ := ih before
          split at onward
          · next created =>
            cases onward
            exact ⟨grows.trans (grows_makeDirectory created), standing_makeDirectory created⟩
          · next e refused =>
            split at onward
            · next here =>
              cases onward
              exact ⟨grows, standing_of_refused refused (.inr solid) here⟩
            · cases onward
      · next e other refused =>
        split at made
        · next here =>
          cases made
          exact ⟨.refl t, standing_of_refused refused (.inl other) here⟩
        · cases made

theorem store_eq_ok_iff {text : Option Text} {changed : Option Stamp} :
    t.store path text changed = .ok u ↔ ∃ between, between.writeText path text changed = .ok u ∧
      match Path.parent? path with
      | some above => t.createDirectories above = .ok between
      | none => between = t := by
  unfold store
  cases Path.parent? path with
  | none =>
    constructor
    · exact fun written => ⟨t, written, rfl⟩
    · rintro ⟨between, written, rfl⟩
      exact written
  | some above =>
    constructor
    · intro stored
      obtain ⟨between, made, written⟩ := ok_of_bind stored
      exact ⟨between, written, made⟩
    · rintro ⟨between, written, made⟩
      change t.createDirectories above >>= _ = _
      rw [made]
      exact written

theorem readText_store {text : Text} {changed : Option Stamp}
    (stored : t.store path (some text) changed = .ok u) : u.readText path = .ok text := by
  obtain ⟨between, written, -⟩ := store_eq_ok_iff.1 stored
  exact readText_writeText written

-- Where something was stored once it can be stored again.
theorem store_again {text : Option Text} {changed : Option Stamp}
    (stored : t.store path text changed = .ok u) (other : Option Text) :
    ∃ v, u.store path other changed = .ok v := by
  obtain ⟨between, written, made⟩ := store_eq_ok_iff.1 stored
  obtain ⟨v, again⟩ := writeText_again written other
  refine ⟨v, store_eq_ok_iff.2 ⟨u, again, ?_⟩⟩
  cases above : Path.parent? path with
  | none => rfl
  | some dir =>
    rw [above] at made
    exact makeDirectories_of_standing ((makeDirectories_facts made).2.grows (grows_writeText written)) _

end FileTree
end ComponentLoader
