import ComponentLoader.Locale.Table
import ComponentLoader.Proofs.OrderedMap
import ComponentLoader.Proofs.Text.Words

namespace ComponentLoader
namespace LocaleTable

inductive IsText : Yaml.Tree × Yaml.Tree → Text × Text → Prop where
  | scalars : IsText (.scalar tag plain locale, .scalar tag' plain' text) (locale, text)

-- The texts of a key: those of a mapping, or none where nothing stands behind it.
inductive Texts : Yaml.Tree → OrderedMap Text Text → Prop where
  | none_ : Texts (.scalar tag true []) .empty
  | mapping (scalars : List.Forall₂ IsText entries pairs)
      (settled : texts.entries = OrderedMap.settled pairs) : Texts (.mapping tag entries) texts

inductive IsEntry : Text × Yaml.Tree → Text × OrderedMap Text Text → Prop where
  | texts (texts_ : Texts tree texts) : IsEntry (key, tree) (key, texts)

-- What a content tells: nothing if it is blank, else the entries of a mapping, of which the last
-- one holds where a key comes twice.
inductive Tells (content : Text) : LocaleTable → Prop where
  | blank (blank : ∀ c ∈ content, isBlank c = true) : Tells content .empty
  | entries {table : LocaleTable} (some_ : ∃ c ∈ content, isBlank c = false)
      (read : Yaml.topEntries? content = some trees) (all : List.Forall₂ IsEntry trees pairs)
      (settled : table.entries = OrderedMap.settled pairs) : Tells content table

inductive Gives (files : FileTree) (path : Text) : LocaleTable → Prop where
  | table {content : Text} {table : LocaleTable} (read : files.readText path = .ok content)
      (told : Tells content table) : Gives files path table
  | malformed {content : Text} (read : files.readText path = .ok content)
      (nothing : ∀ table, ¬Tells content table) : Gives files path .empty
  | unreadable {cause : FileError} (read : files.readText path = .error cause) :
      Gives files path .empty

theorem texts?_eq_some_iff {entries : List (Yaml.Tree × Yaml.Tree)} {pairs : List (Text × Text)} :
    texts? entries = some pairs ↔ List.Forall₂ IsText entries pairs := by
  induction entries generalizing pairs with
  | nil =>
    constructor
    · rintro ⟨⟩
      exact .nil
    · rintro ⟨⟩
      rfl
  | cons e entries ih =>
    constructor
    · intro read
      obtain ⟨tree, tree'⟩ := e
      cases tree with
      | scalar tag plain locale =>
        cases tree' with
        | scalar tag' plain' text =>
          rw [texts?, Option.map_eq_some_iff] at read
          obtain ⟨rest, read, rfl⟩ := read
          exact .cons .scalars (ih.1 read)
        | _ => cases read
      | _ => cases read
    · intro all
      cases all with
      | cons first rest =>
        cases first
        rw [texts?, ih.2 rest, Option.map_some]

theorem texts_iff {tree : Yaml.Tree} {texts : OrderedMap Text Text} :
    entry? tree = some texts ↔ Texts tree texts := by
  cases tree with
  | scalar tag plain text =>
    rw [ entry?]
    constructor
    · intro read
      split at read
      · next absent =>
        obtain ⟨rfl, rfl⟩ := absent
        cases read
        exact .none_
      · cases read
    · rintro ⟨⟩
      rfl
  | mapping tag entries =>
    rw [ entry?, Option.map_eq_some_iff]
    constructor
    · rintro ⟨pairs, read, rfl⟩
      exact .mapping (texts?_eq_some_iff.1 read) (OrderedMap.entries_ofList pairs)
    · rintro ⟨⟩
      next pairs scalars settled =>
        exact ⟨pairs, texts?_eq_some_iff.2 scalars, (OrderedMap.eq_ofList settled).symm⟩
  | sequence tag items =>
    refine ⟨fun read => ?_, fun texts => ?_⟩
    · cases read
    · cases texts

theorem entries?_eq_some_iff {trees : List (Text × Yaml.Tree)}
    {pairs : List (Text × OrderedMap Text Text)} :
    entries? trees = some pairs ↔ List.Forall₂ IsEntry trees pairs := by
  induction trees generalizing pairs with
  | nil =>
    constructor
    · rintro ⟨⟩
      exact .nil
    · rintro ⟨⟩
      rfl
  | cons e trees ih =>
    obtain ⟨key, tree⟩ := e
    rw [entries?]
    constructor
    · intro read
      obtain ⟨texts, first, read⟩ := Option.bind_eq_some_iff.1 read
      obtain ⟨rest, all, made⟩ := Option.bind_eq_some_iff.1 read
      cases made
      exact .cons (.texts (texts_iff.1 first)) (ih.1 all)
    · intro all
      cases all with
      | cons first rest =>
        cases first with
        | texts first =>
          rw [texts_iff.2 first, ih.2 rest]
          rfl

theorem parse?_eq_some_iff {content : Text} {table : LocaleTable} :
    parse? content = some table ↔ Tells content table := by
  rw [parse?]
  split
  · next blank =>
    rw [Text.trim_eq_nil_iff] at blank
    constructor
    · rintro ⟨⟩
      exact .blank blank
    · intro told
      cases told with
      | blank => rfl
      | entries some_ =>
        obtain ⟨c, member, other⟩ := some_
        rw [blank c member] at other
        cases other
  · next other =>
    rw [Text.trim_eq_nil_iff] at other
    simp only [not_forall, Bool.not_eq_true] at other
    obtain ⟨c, member, solid⟩ := other
    constructor
    · intro read
      obtain ⟨pairs, all, rfl⟩ := Option.map_eq_some_iff.1 read
      obtain ⟨trees, top, each⟩ := Option.bind_eq_some_iff.1 all
      exact .entries ⟨c, member, solid⟩ top (entries?_eq_some_iff.1 each)
        (OrderedMap.entries_ofList pairs)
    · intro told
      cases told with
      | blank blank =>
        rw [blank c member] at solid
        cases solid
      | entries some_ top all settled =>
        rw [top, Option.bind_some, entries?_eq_some_iff.2 all, Option.map_some,
          OrderedMap.eq_ofList settled]

theorem gives_iff {files : FileTree} {path : Text} {table : LocaleTable} :
    Gives files path table ↔ table = readOrEmpty files path := by
  unfold readOrEmpty
  constructor
  · intro gives
    cases gives with
    | table read told => simp only [read, parse?_eq_some_iff.2 told, Option.getD_some]
    | malformed read nothing =>
      have none_ : parse? _ = none :=
        Option.eq_none_iff_forall_ne_some.2 fun t found => nothing t (parse?_eq_some_iff.1 found)
      simp only [read, none_, Option.getD_none]
    | unreadable read => simp only [read]
  · rintro rfl
    cases read : files.readText path with
    | error cause => exact .unreadable read
    | ok content =>
      dsimp only
      cases parsed : parse? content with
      | none =>
        refine .malformed read fun t told => ?_
        rw [parse?_eq_some_iff.2 told] at parsed
        cases parsed
      | some table => exact .table read (parse?_eq_some_iff.1 parsed)

-- The text that stands in the table under the key, for the locale.
def written? (table : LocaleTable) (key locale : Text) : Option Text :=
  (table.entries.lookup key).bind (·.entries.lookup locale)

theorem lookup?_eq_written? (table : LocaleTable) (key locale : Text) :
    table.lookup? key locale = table.written? key locale := by
  rw [lookup?, OrderedMap.get?_eq_lookup, written?]
  cases table.entries.lookup key with
  | none => rfl
  | some texts => exact texts.get?_eq_lookup locale

theorem lookup?_merge (base overrides : LocaleTable) (key locale : Text) :
    (base.merge overrides).lookup? key locale =
      match overrides.entries.lookup key with
      | some texts => texts.entries.lookup locale
      | none => base.written? key locale := by
  have found : (base.merge overrides).get? key = (overrides.get? key).or (base.get? key) :=
    OrderedMap.get?_extend base overrides key
  rw [← lookup?_eq_written?, ← OrderedMap.get?_eq_lookup, lookup?, found]
  cases overrides.get? key with
  | some texts => exact texts.get?_eq_lookup locale
  | none => rfl

theorem keys_merge (base overrides : LocaleTable) :
    (base.merge overrides).entries.map Prod.fst = base.entries.map Prod.fst ++
      (overrides.entries.map Prod.fst).filter (· ∉ base.entries.map Prod.fst) := by
  have keys : (base.merge overrides).keys =
      base.keys ++ overrides.keys.filter (!base.contains ·) := OrderedMap.keys_extend base overrides
  refine keys.trans (congrArg (base.keys ++ ·) (List.filter_congr fun key _ => ?_))
  rw [Bool.eq_iff_iff, OrderedMap.not_contains_iff, decide_eq_true_iff]
  rfl

-- Every file stands for one table. An entry of the project's is taken as a whole, with the locales
-- that it lacks; only where the project has none is the kit's looked at. Merging is associative and
-- the empty table changes nothing, so that further tables may be put on top in one go or in turn.
theorem load_overrides (files : FileTree) (kitPath projectPath : Text) :
    ∃ kit project : LocaleTable,
      (∀ t, Gives files kitPath t ↔ t = kit) ∧ (∀ t, Gives files projectPath t ↔ t = project) ∧
      (∀ key locale, (load files kitPath projectPath).lookup? key locale =
        match project.entries.lookup key with
        | some texts => texts.entries.lookup locale
        | none => kit.written? key locale) ∧
      (load files kitPath projectPath).entries.map Prod.fst = kit.entries.map Prod.fst ++
        (project.entries.map Prod.fst).filter (· ∉ kit.entries.map Prod.fst) ∧
      (∀ a b c : LocaleTable, (a.merge b).merge c = a.merge (b.merge c)) ∧
      ∀ a : LocaleTable, merge .empty a = a ∧ a.merge .empty = a := by
  refine ⟨readOrEmpty files kitPath, readOrEmpty files projectPath, fun _ => gives_iff,
    fun _ => gives_iff, lookup?_merge _ _, keys_merge _ _, OrderedMap.extend_extend, fun a => ?_⟩
  exact ⟨OrderedMap.empty_extend a, rfl⟩

-- The project's entry of a key that is there twice takes the place of the kit's; what is no
-- mapping, or one with a list in it, is no table.
theorem load_overrides_two_files :
    let put (files : FileTree) (path : Text) (content : String) : FileTree :=
      (files.store path (some content.toList) none).toOption.getD files
    let files := put (put (put (.ofDirectory ["p".toList])
      "kit.yml".toList "vux.a.x:\n  en: A\n  zh-CN: '1'\nvux.b.y:\n  en: B\n")
      "own.yml".toList "vux.c.z: {en: C}\nvux.a.x: {en: no}\nvux.a.x: {zh-CN: yes}\n7:\n")
      "list.yml".toList "vux.a.x: [A]\n"
    let kit : LocaleTable := .ofList [
      ("vux.a.x".toList, .ofList [("en".toList, "A".toList), ("zh-CN".toList, "1".toList)]),
      ("vux.b.y".toList, .ofList [("en".toList, "B".toList)])]
    let own : LocaleTable := .ofList [("vux.c.z".toList, .ofList [("en".toList, "C".toList)]),
      ("vux.a.x".toList, .ofList [("zh-CN".toList, "yes".toList)]), ("7".toList, .empty)]
    Gives files "kit.yml".toList kit ∧ Gives files "own.yml".toList own ∧
      Gives files "list.yml".toList .empty ∧
      (load files "kit.yml".toList "own.yml".toList).lookup? "vux.a.x".toList "zh-CN".toList =
        some "yes".toList ∧
      (load files "kit.yml".toList "own.yml".toList).lookup? "vux.a.x".toList "en".toList = none ∧
      (load files "kit.yml".toList "own.yml".toList).lookup? "vux.b.y".toList "en".toList =
        some "B".toList ∧
      (load files "kit.yml".toList "own.yml".toList).entries.map Prod.fst =
        ["vux.a.x".toList, "vux.b.y".toList, "vux.c.z".toList, "7".toList] ∧
      (load files "kit.yml".toList "list.yml".toList).lookup? "vux.a.x".toList "en".toList =
        some "A".toList := by
  intro put files kit own
  have kitGiven : Gives files "kit.yml".toList kit := gives_iff.2 (by decide +kernel)
  have ownGiven : Gives files "own.yml".toList own := gives_iff.2 (by decide +kernel)
  have nothing : Gives files "list.yml".toList .empty := gives_iff.2 (by decide +kernel)
  obtain ⟨_, _, ofKit, ofOwn, looked, keys, -⟩ :=
    load_overrides files "kit.yml".toList "own.yml".toList
  obtain rfl := (ofKit kit).1 kitGiven
  obtain rfl := (ofOwn own).1 ownGiven
  obtain ⟨_, _, ofKit', ofList, looked', -⟩ :=
    load_overrides files "kit.yml".toList "list.yml".toList
  obtain rfl := (ofKit' kit).1 kitGiven
  obtain rfl := (ofList _).1 nothing
  refine ⟨kitGiven, ownGiven, nothing, ?_, ?_, ?_, ?_, ?_⟩
  · exact (looked ..).trans (by decide)
  · exact (looked ..).trans (by decide)
  · exact (looked ..).trans (by decide)
  · exact keys.trans (by decide)
  · exact (looked' ..).trans (by decide)

end LocaleTable
end ComponentLoader
