import NamedSignal.Proofs.UnknownKeys

/-!
Which documents are accepted as settings: nothing at all, and mappings from known keys to
values that fit their keys. What a document gives for a key is then what the settings
have for it, and keys that it does not give keep their defaults; the level is always one.
-/
namespace NamedSignal

/-- The words for levels, in capitals. -/
def Log.Level.words : List String := ["DEBUG", "INFO", "WARNING", "ERROR"]

/-- A word names a level exactly if its capital form is one of the words for levels. -/
theorem Log.Level.ofName?_isSome_iff {word : Text} : (Log.Level.ofName? word).isSome = true ↔
    ∃ name ∈ Log.Level.words, word.capitals? = some name.toList := by
  unfold Log.Level.ofName? Log.Level.words
  cases word.capitals? with
  | none => simp
  | some letters =>
    simp only [Option.isSome_map, List.find?_isSome, Option.some.injEq, List.mem_cons,
      List.not_mem_nil, or_false, exists_eq_or_imp, exists_eq_left, beq_iff_eq]
    simp only [eq_comm]

namespace Settings

/-- The document gives the key the value. -/
def Gives : Yaml.Document → Key → Yaml.Value → Prop
  | .mapping entries, key, value => (.text key.name, value) ∈ entries
  | .empty, _, _ | .other, _, _ => False

/-- The key may have the value. -/
inductive Fits : Key → Yaml.Value → Prop where
  | root (path : Text) : Fits .root (.text path)
  | noRoot : Fits .root .null
  | logFile (path : Text) : Fits .logFile (.text path)
  | noLogFile : Fits .logFile .null
  | ignoreVanished (truth : Bool) : Fits .ignoreVanished (.bool truth)
  | logLevel {word : Text} {name : String} (listed : name ∈ Log.Level.words)
      (capitals : word.capitals? = some name.toList) : Fits .logLevel (.text word)

/-- The document has no value, or it gives values to known keys only, and each of them
fits its key. -/
inductive Acceptable : Yaml.Document → Prop where
  | empty : Acceptable .empty
  | mapping {entries : Entries}
      (known : ∀ key ∈ entries.map (·.1), ∃ named : Key, key = .text named.name)
      (fit : ∀ key value, Gives (.mapping entries) key value → Fits key value) :
      Acceptable (.mapping entries)

/-- What the settings have for a key, as a document would say it. -/
def valueFor (settings : Settings) : Key → Yaml.Value
  | .root => (settings.root.map .text).getD .null
  | .logLevel => .text settings.logLevel
  | .logFile => (settings.logFile.map .text).getD .null
  | .ignoreVanished => .bool settings.ignoreVanished

variable {entries : Entries}

/-- A key is there once, so its value is the one that is found first. -/
theorem value?_eq_some_iff (keyed : Yaml.Document.Keyed (entries.map (·.1))) {key : Key}
    {value : Yaml.Value} :
    value? entries key = some value ↔ Gives (.mapping entries) key value := by
  have distinct := keyed.distinct
  show value? entries key = some value ↔ (.text key.name, value) ∈ entries
  unfold value?
  clear keyed
  induction entries with
  | nil => simp
  | cons first rest ih =>
    rw [List.map_cons, List.pairwise_cons] at distinct
    obtain ⟨apart, distinct⟩ := distinct
    rw [List.find?_cons, List.mem_cons]
    by_cases here : first.1.same (.text key.name) = true
    · have written : first.1 = .text key.name := Yaml.Value.same_text_iff.mp here
      have once : ¬ (.text key.name, value) ∈ rest := by
        intro again
        have differs := apart _ (List.mem_map_of_mem again)
        rw [here] at differs
        cases differs
      rw [here, or_iff_left once]
      simp [Prod.ext_iff, written, eq_comm]
    · have other : (.text key.name, value) ≠ first := by
        rintro rfl
        exact here (Yaml.Value.same_text_iff.mpr rfl)
      rw [Bool.eq_false_iff.mpr here, or_iff_right other]
      exact ih distinct

/-- What the part of a document for a key must be like to be taken. -/
theorem truth_ok_iff : (∃ found, truth entries = .ok found) ↔
    ∀ value, value? entries .ignoreVanished = some value → Fits .ignoreVanished value := by
  unfold truth
  cases value? entries .ignoreVanished with
  | none => exact iff_of_true ⟨_, rfl⟩ nofun
  | some value =>
    simp only [Option.some.injEq, forall_eq']
    cases value with
    | bool given => exact iff_of_true ⟨_, rfl⟩ (.ignoreVanished given)
    | _ => exact iff_of_false nofun nofun

theorem path_ok_iff {key : Key} (named : key = .root ∨ key = .logFile) :
    (∃ found, path entries key = .ok found) ↔
      ∀ value, value? entries key = some value → Fits key value := by
  unfold path
  cases value? entries key with
  | none => exact iff_of_true ⟨_, rfl⟩ nofun
  | some value =>
    simp only [Option.some.injEq, forall_eq']
    rcases named with rfl | rfl
    · cases value with
      | null => exact iff_of_true ⟨_, rfl⟩ .noRoot
      | text given => exact iff_of_true ⟨_, rfl⟩ (.root given)
      | _ => exact iff_of_false nofun nofun
    · cases value with
      | null => exact iff_of_true ⟨_, rfl⟩ .noLogFile
      | text given => exact iff_of_true ⟨_, rfl⟩ (.logFile given)
      | _ => exact iff_of_false nofun nofun

theorem levelName_ok_iff :
    (∃ found, levelName entries = .ok found ∧ (Log.Level.ofName? found).isSome = true) ↔
      ∀ value, value? entries .logLevel = some value → Fits .logLevel value := by
  unfold levelName
  cases value? entries .logLevel with
  | none => exact iff_of_true ⟨_, rfl, by decide +kernel⟩ nofun
  | some value =>
    simp only [Option.some.injEq, forall_eq']
    cases value with
    | text word =>
      simp only [Except.ok.injEq, exists_eq_left', Log.Level.ofName?_isSome_iff]
      constructor
      · rintro ⟨name, listed, capitals⟩
        exact .logLevel listed capitals
      · rintro (_ | _ | _ | _ | _ | ⟨listed, capitals⟩)
        exact ⟨_, listed, capitals⟩
    | _ => exact iff_of_false nofun nofun

/-- No key means nothing if each is known. -/
theorem unknown_eq_nil_iff :
    unknown entries = [] ↔ ∀ key ∈ entries.map (·.1), ∃ named : Key, key = .text named.name := by
  rw [List.eq_nil_iff_forall_not_mem]
  simp only [mem_unknown_iff, not_and, IsForeign, not_forall, not_not]

/-- A mapping is accepted exactly if its keys are known and each value fits its key. -/
theorem ofDocument_mapping_iff (file : Text) (keyed : Yaml.Document.Keyed (entries.map (·.1))) :
    (∃ settings, ofDocument file (.mapping entries) = .ok settings) ↔
      Acceptable (.mapping entries) := by
  have found {key : Key} {value : Yaml.Value} :
      value? entries key = some value ↔ Gives (.mapping entries) key value :=
    value?_eq_some_iff keyed
  constructor
  · rintro ⟨settings, accepted⟩
    have known : unknown entries = [] := by
      by_contra strange
      rw [ofDocument_of_unknown file strange] at accepted
      cases accepted
    obtain ⟨_, -, rest⟩ := values_of_bind accepted
    obtain ⟨ignoreVanished, truthful, rest⟩ := values_of_bind rest
    obtain ⟨root, rooted, rest⟩ := values_of_bind rest
    obtain ⟨logFile, filed, rest⟩ := values_of_bind rest
    obtain ⟨logLevel, levelled, rest⟩ := values_of_bind rest
    have named : (Log.Level.ofName? logLevel).isSome = true := by
      simp only [level] at rest
      cases named : Log.Level.ofName? logLevel with
      | none => simp [named] at rest
      | some level => rfl
    refine .mapping (unknown_eq_nil_iff.mp known) fun key value gives => ?_
    have given := found.mpr gives
    cases key with
    | root => exact (path_ok_iff (.inl rfl)).mp ⟨root, rooted⟩ value given
    | logLevel => exact levelName_ok_iff.mp ⟨logLevel, levelled, named⟩ value given
    | logFile => exact (path_ok_iff (.inr rfl)).mp ⟨logFile, filed⟩ value given
    | ignoreVanished => exact truth_ok_iff.mp ⟨ignoreVanished, truthful⟩ value given
  · rintro (_ | ⟨known, fit⟩)
    have fits (key : Key) : ∀ value, value? entries key = some value → Fits key value :=
      fun value given => fit key value (found.mp given)
    obtain ⟨ignoreVanished, truthful⟩ := truth_ok_iff.mpr (fits .ignoreVanished)
    obtain ⟨root, rooted⟩ := (path_ok_iff (.inl rfl)).mpr (fits .root)
    obtain ⟨logFile, filed⟩ := (path_ok_iff (.inr rfl)).mpr (fits .logFile)
    obtain ⟨logLevel, levelled, named⟩ := levelName_ok_iff.mpr (fits .logLevel)
    obtain ⟨level, named⟩ := Option.isSome_iff_exists.mp named
    have checked : checkKeys file entries = .ok () := by
      unfold checkKeys
      rw [unknown_eq_nil_iff.mpr known]
    refine ⟨{ root, logLevel, logFile, ignoreVanished }, ?_⟩
    simp only [ofDocument, checked, truthful, rooted, filed, levelled, Settings.level, named, bind,
      Except.bind, pure, Except.pure]

/-- The settings have what the document gives for a key, and else the default. -/
def Carries (document : Yaml.Document) (settings : Settings) : Prop :=
  ∀ key, (∀ value, Gives document key value → settings.valueFor key = value) ∧
    ((∀ value, ¬ Gives document key value) → settings.valueFor key = ({} : Settings).valueFor key)

theorem given_carries (keyed : Yaml.Document.Keyed (entries.map (·.1)))
    (fit : ∀ key value, Gives (.mapping entries) key value → Fits key value) :
    Carries (.mapping entries) (given (.mapping entries)) := by
  intro key
  constructor
  · intro value gives
    have found := (value?_eq_some_iff keyed).mpr gives
    cases fit key value gives <;> simp [given, valueFor, givenText?, givesTrue, found]
  · intro absent
    have found : value? entries key = none := by
      rw [Option.eq_none_iff_forall_ne_some]
      exact fun value given => absent value ((value?_eq_some_iff keyed).mp given)
    cases key <;> simp [given, valueFor, givenText?, givesTrue, found]

/-- The document in a file is accepted exactly if it is null, or a mapping from known keys
to values that fit them. The settings then have the document's value for each key that it
gives and the default for each other key, and their level is one. -/
theorem settings_accepted_iff {workspace : Workspace} {path : Text} {document : Yaml.Document}
    (usable : ¬ IsUnusable path) (held : document? workspace path = some document) :
    ((∃ settings, load workspace path = .ok settings) ↔ Acceptable document) ∧
    ∀ settings, load workspace path = .ok settings →
      Carries document settings ∧ ∃ level, settings.level = .ok level := by
  rw [load_of_document (Bool.eq_false_iff.mpr usable) held]
  cases document with
  | empty =>
    refine ⟨iff_of_true ⟨_, rfl⟩ .empty, fun settings accepted => ?_⟩
    cases accepted
    exact ⟨fun key => ⟨nofun, fun _ => rfl⟩, _, rfl⟩
  | other =>
    refine ⟨iff_of_false ?_ nofun, fun settings accepted => ?_⟩
    · rintro ⟨settings, accepted⟩
      cases accepted
    · cases accepted
  | mapping entries =>
    have keyed := document?_keyed held
    have decided := ofDocument_mapping_iff (Path.Normal.ofText path).toText keyed
    refine ⟨decided, fun settings accepted => ?_⟩
    obtain ⟨rfl, named⟩ := ofDocument_ok accepted
    cases decided.mp ⟨_, accepted⟩ with
    | mapping known fit => exact ⟨given_carries keyed fit, named⟩

theorem Key.name_injective : Function.Injective Key.name := by
  have apart : ∀ first ∈ Key.all, ∀ second ∈ Key.all, first.name = second.name → first = second := by
    decide +kernel
  exact fun first second => apart first first.mem_all second second.mem_all

/-- A null root and a level in small letters are accepted. -/
theorem null_root_accepted :
    let workspace := oneFile (Utf8.encode "proc_root: ~\nlog_level: error\n")
    ∃ settings, load workspace "c" = .ok settings ∧ settings.valueFor .root = .null ∧
      settings.valueFor .logLevel = .text "error" ∧
      settings.valueFor .ignoreVanished = .bool false := by
  intro workspace
  let entries : Entries :=
    [(.text (Key.name .root), .null), (.text (Key.name .logLevel), .text "error")]
  have held : document? workspace "c" = some (.mapping entries) := by decide +kernel
  have usable : ¬ IsUnusable "c" := by decide +kernel
  have given : ∀ key value, Gives (.mapping entries) key value →
      key = .root ∧ value = .null ∨ key = .logLevel ∧ value = .text "error" := by
    intro key value gives
    rcases List.mem_pair.mp gives with same | same
    · rw [Prod.mk.injEq, Yaml.Value.text.injEq] at same
      exact .inl ⟨Key.name_injective same.1, same.2⟩
    · rw [Prod.mk.injEq, Yaml.Value.text.injEq] at same
      exact .inr ⟨Key.name_injective same.1, same.2⟩
  have acceptable : Acceptable (.mapping entries) := by
    refine .mapping ?_ fun key value gives => ?_
    · intro key member
      rcases List.mem_pair.mp member with rfl | rfl
      · exact ⟨.root, rfl⟩
      · exact ⟨.logLevel, rfl⟩
    · rcases given key value gives with ⟨rfl, rfl⟩ | ⟨rfl, rfl⟩
      · exact .noRoot
      · exact .logLevel (.tail _ (.tail _ (.tail _ (.head _)))) (by decide +kernel)
  obtain ⟨decided, carried⟩ := settings_accepted_iff usable held
  obtain ⟨settings, accepted⟩ := decided.mpr acceptable
  obtain ⟨carries, -⟩ := carried settings accepted
  refine ⟨settings, accepted, (carries .root).1 _ (.head _),
    (carries .logLevel).1 _ (.tail _ (.head _)), (carries .ignoreVanished).2 fun value gives => ?_⟩
  rcases given _ _ gives with ⟨other, -⟩ | ⟨other, -⟩ <;> cases other

end Settings
end NamedSignal
