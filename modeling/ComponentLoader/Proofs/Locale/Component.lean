import ComponentLoader.Proofs.Files.Store
import ComponentLoader.Error
import ComponentLoader.Proofs.Locale.Equal

namespace ComponentLoader
namespace ComponentLocales

variable {T U V block : ComponentLocales} {path source : Text} {files next : FileTree}

-- The table of a file; one that is not there holds none.
inductive Holds (files : FileTree) (path : Text) : ComponentLocales → Prop where
  | absent (missing : files.readText path = .error .notFound) : Holds files path .empty
  | table {content : Text} {T : ComponentLocales} (read : files.readText path = .ok content)
      (valid : parse? content = some T) : Holds files path T

theorem read_eq_ok_iff : read files path = .ok T ↔ Holds files path T := by
  constructor
  · intro held
    unfold read at held
    split at held
    · next content there =>
      unfold parse at held
      split at held
      · next table valid =>
        cases held
        exact .table there valid
      · cases held
    · next missing =>
      cases held
      exact .absent missing
    · cases held
  · rintro (⟨missing⟩ | ⟨there, valid⟩)
    · rw [read, missing]
    · rw [read, there]
      simp [parse, valid]

theorem Holds.distinct (holds : Holds files path T) : T.Distinct := by
  cases holds with
  | absent missing => exact distinct_empty
  | table there valid => exact distinct_of_parse? valid

def accepted? (source : Text) : Option ComponentLocales :=
  (LocaleBlock.first? source).bind fun block =>
    if block.isYaml then (parse? block.body).filter (!·.isEmpty) else none

def Invalid (source : Text) : Prop :=
  ∃ block, LocaleBlock.first? source = some block ∧ block.isYaml = true ∧ parse? block.body = none

theorem ofSource_cases (path source : Text) :
    (∃ block, accepted? source = some block ∧ ¬Invalid source ∧ block.isEmpty = false ∧
      block.Distinct ∧ ofSource path source = .ok block) ∨
    (accepted? source = none ∧ Invalid source ∧
      ofSource path source = .error (.invalidLocales path)) ∨
    (accepted? source = none ∧ ¬Invalid source ∧
      ∃ block, block.isEmpty = true ∧ ofSource path source = .ok block) := by
  unfold ofSource accepted? Invalid
  cases LocaleBlock.first? source with
  | none => exact .inr (.inr ⟨rfl, by simp, .empty, rfl, rfl⟩)
  | some block =>
    cases yaml : block.isYaml with
    | false => exact .inr (.inr ⟨by simp [yaml], by simp [yaml], .empty, rfl, by simp [yaml]⟩)
    | true =>
      cases valid : parse? block.body with
      | none =>
        exact .inr (.inl ⟨by simp [yaml, valid], ⟨block, rfl, yaml, valid⟩,
          by simp [yaml, parse, valid]⟩)
      | some table =>
        cases empty : OrderedMap.isEmpty table with
        | true =>
          exact .inr (.inr ⟨by simp [yaml, valid, empty], by simp [valid], table, empty,
            by simp [yaml, parse, valid]⟩)
        | false =>
          exact .inl ⟨table, by simp [yaml, valid, empty], by simp [valid], empty,
            distinct_of_parse? valid, by simp [yaml, parse, valid]⟩

-- The call in the steps in which it changes the files.
def syncInPlace (path source : Text) : InPlace FileTree Bool := do
  let block ← InPlace.check (ofSource path source)
  if block.isEmpty then return false
  let files ← get
  let current ← InPlace.check (read files path)
  if block.entries.all current.holds then return false
  let files ← InPlace.check (write files path (current.extend block.entries))
  set files
  return true

theorem sync_eq (files : FileTree) (path source : Text) :
    sync files path source = match ofSource path source with
      | .error e => .error e
      | .ok block =>
        if block.isEmpty then .ok (false, files)
        else match read files path with
          | .error e => .error e
          | .ok current =>
            if block.entries.all current.holds then .ok (false, files)
            else (write files path (current.extend block.entries)).map (true, ·) := by
  unfold sync
  cases ofSource path source with
  | error e => rfl
  | ok block =>
    dsimp only [bind, Except.bind]
    split
    · rfl
    · cases read files path with
      | error e => rfl
      | ok current =>
        dsimp only
        split
        · rfl
        · cases write files path (OrderedMap.extend current block.entries) <;> rfl

theorem run_syncInPlace (files : FileTree) (path source : Text) :
    (syncInPlace path source).run files =
      match sync files path source with
      | .ok (changed, next) => (.ok changed, next)
      | .error e => (.error e, files) := by
  rw [sync_eq, syncInPlace, InPlace.run_check_bind]
  cases ofSource path source with
  | error e => rfl
  | ok block =>
    dsimp only
    split
    · rfl
    · rw [InPlace.run_get_bind, InPlace.run_check_bind]
      cases read files path with
      | error e => rfl
      | ok current =>
        dsimp only
        split
        · rfl
        · rw [InPlace.run_check_bind]
          cases write files path (OrderedMap.extend current block.entries) <;> rfl

def Permits (files : FileTree) (path : Text) : Prop :=
  ∀ text, ∃ next, files.store path (some text) none = .ok next

inductive Outcome (files : FileTree) (path source : Text) (T : ComponentLocales) :
    Except LoadError Bool × FileTree → Prop where
  | skipped (nothing : accepted? source = none) (valid : ¬Invalid source) :
      Outcome files path source T (.ok false, files)
  | refused (nothing : accepted? source = none) (bad : Invalid source) :
      Outcome files path source T (.error (.invalidLocales path), files)
  | unchanged {block : ComponentLocales} (taken : accepted? source = some block)
      (valid : ¬Invalid source) (distinct : block.Distinct)
      (held : block.entries.all T.holds = true) : Outcome files path source T (.ok false, files)
  | written {block : ComponentLocales} {next : FileTree} (taken : accepted? source = some block)
      (valid : ¬Invalid source) (distinct : block.Distinct)
      (news : block.entries.all T.holds = false)
      (stored : files.store path (some (render (T.extend block.entries))) none = .ok next) :
      Outcome files path source T (.ok true, next)

theorem outcome (holds : Holds files path T) (permits : Permits files path) (source : Text) :
    Outcome files path source T ((syncInPlace path source).run files) := by
  rw [run_syncInPlace, sync_eq]
  rcases ofSource_cases path source with ⟨block, taken, valid, some_, distinct, here⟩ |
    ⟨nothing, bad, here⟩ | ⟨nothing, valid, block, empty, here⟩
  · simp only [here, some_, Bool.false_eq_true, if_false, read_eq_ok_iff.2 holds]
    cases held : block.entries.all T.holds with
    | true => exact .unchanged taken valid distinct held
    | false =>
      obtain ⟨next, stored⟩ := permits (render (T.extend block.entries))
      simp only [Bool.false_eq_true, if_false, write, stored]
      exact .written taken valid distinct held stored
  · simp only [here]
    exact .refused nothing bad
  · simp only [here, empty, if_true]
    exact .skipped nothing valid

def after (path : Text) (files : FileTree) (sources : List Text) : FileTree :=
  sources.foldl (fun files source => ((syncInPlace path source).run files).2) files

def written? (files : FileTree) (path source : Text) : Option ComponentLocales :=
  match accepted? source, read files path with
  | some block, .ok current =>
    if block.entries.all current.holds then none else some (current.extend block.entries)
  | _, _ => none

def ReadsBack (T : ComponentLocales) : Prop := ∃ back, parse? T.render = some back ∧ back.Same T

-- Each table that is written in the calls reads back.
def Faithful (path : Text) : FileTree → List Text → Prop
  | _, [] => True
  | files, source :: rest => (∀ T, written? files path source = some T → T.ReadsBack) ∧
    Faithful path ((syncInPlace path source).run files).2 rest

instance (T : ComponentLocales) : Decidable (ReadsBack T) :=
  match read : parse? T.render with
  | some back => decidable_of_iff (back.Same T)
      ⟨fun same => ⟨back, read, same⟩, fun ⟨other, found, same⟩ => by
        rw [read] at found
        cases found
        exact same⟩
  | none => .isFalse fun ⟨other, found, _⟩ => by
      rw [read] at found
      cases found

instance decidableFaithful (path : Text) : ∀ files sources, Decidable (Faithful path files sources)
  | _, [] => .isTrue trivial
  | files, source :: rest =>
    have := decidableFaithful path ((syncInPlace path source).run files).2 rest
    inferInstanceAs (Decidable ((∀ T, written? files path source = some T → T.ReadsBack) ∧ _))

def brought (source : Text) : ComponentLocales := (accepted? source).getD .empty

theorem extend_twice (T block : ComponentLocales) :
    Same (OrderedMap.extend (T.extend block.entries) block.entries) (T.extend block.entries) := by
  intro key
  rw [OrderedMap.get?_extend, OrderedMap.get?_extend]
  cases OrderedMap.get? block key <;> exact .refl _

theorem holds_of_stored (back : ReadsBack T)
    (stored : files.store path (some T.render) none = .ok next) :
    ∃ G, Holds next path G ∧ G.Same T := by
  obtain ⟨G, parsed, same⟩ := back
  exact ⟨G, .table (FileTree.readText_store stored) parsed, same⟩

theorem permits_of_stored {text : Text} (stored : files.store path (some text) none = .ok next) :
    Permits next path := fun other => FileTree.store_again stored (some other)

-- A call leaves a table extended by what the component brings.
theorem holds_step (holds : Holds files path T) (permits : Permits files path)
    (faithful : ∀ W, written? files path source = some W → W.ReadsBack) :
    ∃ G, Holds ((syncInPlace path source).run files).2 path G ∧
      G.Same (T.extend (brought source).entries) ∧
      Permits ((syncInPlace path source).run files).2 path := by
  have nothing_brought (nothing : accepted? source = none) :
      T.Same (T.extend (brought source).entries) := by
    rw [brought, nothing]
    exact .refl T
  have which := outcome holds permits source
  generalize (syncInPlace path source).run files = result at which ⊢
  cases which with
  | skipped nothing valid => exact ⟨T, holds, nothing_brought nothing, permits⟩
  | refused nothing bad => exact ⟨T, holds, nothing_brought nothing, permits⟩
  | unchanged taken valid distinct held =>
    refine ⟨T, holds, ?_, permits⟩
    rw [brought, taken]
    exact (all_holds_iff holds.distinct distinct).1 held
  | @written block next taken valid distinct news stored =>
    have wrote : written? files path source = some (T.extend block.entries) := by
      simp [written?, taken, read_eq_ok_iff.2 holds, news]
    obtain ⟨G, there, same⟩ := holds_of_stored (faithful _ wrote) stored
    rw [brought, taken]
    exact ⟨G, there, same, permits_of_stored stored⟩

theorem holds_after {sources : List Text} (holds : Holds files path T) (same : T.Same U)
    (permits : Permits files path) (faithful : Faithful path files sources) :
    ∃ G, Holds (after path files sources) path G ∧
      G.Same (U.extend (sources.flatMap fun source => (brought source).entries)) ∧
      Permits (after path files sources) path := by
  induction sources generalizing files T U with
  | nil => exact ⟨T, holds, same, permits⟩
  | cons source rest ih =>
    obtain ⟨now, later⟩ := faithful
    obtain ⟨G, there, extended, again⟩ := holds_step holds permits now
    obtain ⟨last, final, equal, still⟩ :=
      ih there (extended.trans (same.extend (brought source))) again later
    refine ⟨last, final, ?_, still⟩
    rw [List.flatMap_cons, OrderedMap.extend_append]
    exact equal

theorem faithful_append {before rest : List Text} (faithful : Faithful path files (before ++ rest)) :
    Faithful path files before ∧ Faithful path (after path files before) rest := by
  induction before generalizing files with
  | nil => exact ⟨trivial, faithful⟩
  | cons source before ih =>
    obtain ⟨now, later⟩ := faithful
    obtain ⟨first, last⟩ := ih later
    exact ⟨⟨now, first⟩, last⟩

structure Answers (path source : Text) (files : FileTree) : Prop where
  refused : Invalid source →
    (syncInPlace path source).run files = (.error (.invalidLocales path), files)
  skipped : accepted? source = none → ¬Invalid source →
    (syncInPlace path source).run files = (.ok false, files)
  changed : ¬Invalid source → ∃ T U changed, Holds files path T ∧
    ((syncInPlace path source).run files).1 = .ok changed ∧
    Holds ((syncInPlace path source).run files).2 path U ∧ (changed = true ↔ ¬T.Same U) ∧
    (changed = false → ((syncInPlace path source).run files).2 = files)
  again : accepted? source ≠ none →
    (syncInPlace path source).run ((syncInPlace path source).run files).2 =
      (.ok false, ((syncInPlace path source).run files).2)

theorem run_of_held (holds : Holds files path T) (permits : Permits files path)
    (taken : accepted? source = some block) (held : T.Same (T.extend block.entries)) :
    (syncInPlace path source).run files = (.ok false, files) := by
  have which := outcome holds permits source
  generalize (syncInPlace path source).run files = result at which ⊢
  cases which with
  | skipped nothing valid => rfl
  | refused nothing bad =>
    rw [taken] at nothing
    cases nothing
  | unchanged taken valid distinct held => rfl
  | written taken' valid distinct news stored =>
    rw [taken] at taken'
    cases taken'
    rw [(all_holds_iff holds.distinct distinct).2 held] at news
    cases news

theorem answers (holds : Holds files path T) (permits : Permits files path)
    (faithful : ∀ W, written? files path source = some W → W.ReadsBack) :
    Answers path source files := by
  have which := outcome holds permits source
  obtain ⟨G, there, extended, still⟩ := holds_step holds permits faithful
  have repeated {block : ComponentLocales} (taken : accepted? source = some block) :
      (syncInPlace path source).run ((syncInPlace path source).run files).2 =
        (.ok false, ((syncInPlace path source).run files).2) := by
    rw [brought, taken] at extended
    have held : G.Same (G.extend block.entries) :=
      extended.trans ((extend_twice T block).symm.trans (extended.symm.extend block))
    exact run_of_held there still taken held
  generalize result : (syncInPlace path source).run files = outcome at which there
  cases which with
  | skipped nothing valid =>
    refine ⟨fun bad => absurd bad valid, fun _ _ => result, fun _ => ?_, fun some_ =>
      absurd nothing some_⟩
    rw [result]
    exact ⟨T, T, false, holds, rfl, holds, by simp [Same.refl], fun _ => rfl⟩
  | refused nothing bad =>
    exact ⟨fun _ => result, fun _ valid => absurd bad valid, fun valid => absurd bad valid,
      fun some_ => absurd nothing some_⟩
  | unchanged taken valid distinct held =>
    refine ⟨fun bad => absurd bad valid, fun nothing => (by rw [taken] at nothing; cases nothing),
      fun _ => ?_, fun _ => repeated taken⟩
    rw [result]
    exact ⟨T, T, false, holds, rfl, holds, by simp [Same.refl], fun _ => rfl⟩
  | @written block next taken valid distinct news stored =>
    refine ⟨fun bad => absurd bad valid, fun nothing => (by rw [taken] at nothing; cases nothing),
      fun _ => ?_, fun _ => repeated taken⟩
    rw [result]
    refine ⟨T, G, true, holds, rfl, there, ?_, fun same => (by cases same)⟩
    rw [brought, taken] at extended
    refine ⟨fun _ same => ?_, fun _ => rfl⟩
    rw [(all_holds_iff holds.distinct distinct).2 (same.trans extended)] at news
    cases news

theorem run_of_broken {content : Text} (read : files.readText path = .ok content)
    (broken : parse? content = none) (source : Text) :
    ((syncInPlace path source).run files).2 = files ∧
      (accepted? source ≠ none →
        (syncInPlace path source).run files = (.error (.invalidLocales path), files)) := by
  have failed : ComponentLocales.read files path = .error (.invalidLocales path) := by
    rw [ComponentLocales.read, read]
    simp [parse, broken]
  rw [run_syncInPlace, sync_eq]
  rcases ofSource_cases path source with ⟨block, taken, valid, some_, distinct, here⟩ |
    ⟨nothing, bad, here⟩ | ⟨nothing, valid, block, empty, here⟩
  · simp [here, some_, failed]
  · simp [here, nothing]
  · simp [here, empty, nothing]

theorem after_of_broken {content : Text} (read : files.readText path = .ok content)
    (broken : parse? content = none) (sources : List Text) : after path files sources = files := by
  induction sources with
  | nil => rfl
  | cons source rest ih =>
    rw [after, List.foldl_cons, (run_of_broken read broken source).1]
    exact ih

-- The blocks that are taken in accumulate in the table, each call tells whether it changed the
-- table and leaves the files alone where it did not; a table that cannot be read stays as it is.
-- All this is said of the call in its steps, which comes to the call itself.
theorem after_accumulates (files : FileTree) (path : Text) (sources : List Text) :
    (∀ files source, (syncInPlace path source).run files =
      match sync files path source with
      | .ok (changed, next) => (.ok changed, next)
      | .error e => (.error e, files)) ∧
    (∀ T, Holds files path T → Permits files path → Faithful path files sources →
      (∃ U, Holds (after path files sources) path U ∧
        U.Same (T.extend (sources.flatMap fun source => (brought source).entries))) ∧
      ∀ before source rest, sources = before ++ source :: rest →
        Answers path source (after path files before)) ∧
    ∀ content, files.readText path = .ok content → parse? content = none →
      after path files sources = files ∧
      ∀ before source rest, sources = before ++ source :: rest → accepted? source ≠ none →
        (syncInPlace path source).run (after path files before) =
          (.error (.invalidLocales path), files) := by
  refine ⟨fun files source => run_syncInPlace files path source, ?_, ?_⟩
  · intro T holds permits faithful
    obtain ⟨U, final, same, -⟩ := holds_after holds (.refl T) permits faithful
    refine ⟨⟨U, final, same⟩, ?_⟩
    rintro before source rest rfl
    obtain ⟨first, now, -⟩ := faithful_append faithful
    obtain ⟨V, there, -, still⟩ := holds_after holds (.refl T) permits first
    exact answers there still now
  · intro content read broken
    refine ⟨after_of_broken read broken sources, fun before source rest _ some_ => ?_⟩
    rw [after_of_broken read broken before]
    exact (run_of_broken read broken source).2 some_

theorem after_accumulates_five_components :
    let files := FileTree.ofDirectory ["p".toList]
    let path := "src/locales.yml".toList
    let first := "<i18n>\nhello:\n  en: Hello\n</i18n>".toList
    let sources := [first, "<i18n lang=\"json\">x</i18n>".toList, "<i18n>a: [b</i18n>".toList,
      "<i18n lang=yml>\nbye: [x, true]\nhello:\n  zh: \"\"\n</i18n>".toList, first]
    let broken := (files.store path (some "a: [b".toList) none).toOption.getD files
    Holds files path .empty ∧ Permits files path ∧ Faithful path files sources ∧
      (∃ U, Holds (after path files sources) path U ∧
        U.Same (OrderedMap.extend .empty (sources.flatMap fun s => (brought s).entries))) ∧
      (∀ before source rest, sources = before ++ source :: rest →
        Answers path source (after path files before)) ∧
      ((after path files sources).readText path).toOption =
        some "hello:\n  en: Hello\nbye:\n- x\n- true\n".toList ∧
      broken.readText path = .ok "a: [b".toList ∧ parse? "a: [b".toList = none ∧
      after path broken sources = broken ∧
      (syncInPlace path first).run broken = (.error (.invalidLocales path), broken) := by
  intro files path first sources broken
  have holds : Holds files path .empty := .absent (by decide)
  have permits : Permits files path := fun text => ⟨_, rfl⟩
  have faithful : Faithful path files sources := by decide +kernel
  obtain ⟨final, each⟩ := (after_accumulates files path sources).2.1 .empty holds permits faithful
  have read : broken.readText path = .ok "a: [b".toList := rfl
  have none_ : parse? "a: [b".toList = none := Option.isNone_iff_eq_none.1 (by decide +kernel)
  have taken : accepted? first ≠ none := Option.isSome_iff_ne_none.1 (by decide +kernel)
  obtain ⟨unchanged, fails⟩ := (after_accumulates broken path sources).2.2 _ read none_
  exact ⟨holds, permits, faithful, final, each, by decide +kernel, read, none_, unchanged,
    fails [] first _ rfl taken⟩

end ComponentLocales
end ComponentLoader
