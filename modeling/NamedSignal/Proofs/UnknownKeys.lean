import NamedSignal.Proofs.ConfiguredCalls
import NamedSignal.Proofs.MappingKeys
import NamedSignal.Proofs.UnusableFiles

/-!
Keys that mean nothing. They are put in order and listed in words, so there must be an
order among them and words for each. Where there is, a refusal lists every one of them
just once; where there is not, the settings are not refused, and another fault shows.
-/
namespace NamedSignal

namespace Yaml.Value

variable {values : List Value} {value : Value}

/-- The values can be put in order: there is one at most, or they are of one kind. -/
def Sortable (values : List Value) : Prop :=
  values.length ≤ 1 ∨ ∃ kind, ∀ value ∈ values, value.kind? = some kind

/-- No value is a whole number with more digits than a numeral may have. -/
def Speakable (values : List Value) : Prop :=
  ∀ n, int n ∈ values → n.natAbs < 10 ^ Numeral.maxDigits

theorem sort?_isSome_iff : (sort? values).isSome = true ↔ Sortable values := by
  unfold Sortable
  match values with
  | [] => simp [sort?]
  | [value] => simp [sort?]
  | first :: second :: rest =>
    have several : ¬ (first :: second :: rest).length ≤ 1 := by simp
    rw [or_iff_right several, sort?]
    · split
      · rename_i alike
        refine iff_of_true rfl ?_
        rw [Bool.and_eq_true, List.all_eq_true] at alike
        obtain ⟨kind, known⟩ := Option.isSome_iff_exists.mp alike.1
        refine ⟨kind, List.forall_mem_cons.mpr ⟨known, fun value member => ?_⟩⟩
        rw [eq_of_beq (alike.2 value member), known]
      · rename_i unlike
        refine iff_of_false Bool.noConfusion ?_
        rintro ⟨kind, known⟩
        obtain ⟨here, behind⟩ := List.forall_mem_cons.mp known
        apply unlike
        rw [here, Bool.and_eq_true, List.all_eq_true]
        exact ⟨rfl, fun value member => beq_iff_eq.mpr (behind value member)⟩
    · simp

theorem sort?_perm {listed : List Value} (sorted : sort? values = some listed) :
    listed.Perm values := by
  unfold sort? at sorted
  split at sorted
  · cases sorted
    rfl
  · cases sorted
    rfl
  · split at sorted
    · cases sorted
      exact List.mergeSort_perm _ _
    · cases sorted

theorem toText?_isSome_iff (single : value.isKey = true) : value.toText?.isSome = true ↔
    ∀ n, value = int n → n.natAbs < 10 ^ Numeral.maxDigits := by
  cases value with
  | int n =>
    have short : (int n).toText?.isSome = true ↔ n.natAbs < 10 ^ Numeral.maxDigits := by
      simp only [toText?, Numeral.text?]
      split <;> simp_all
    rw [short]
    constructor
    · rintro bound _ ⟨⟩
      exact bound
    · exact fun bound => bound n rfl
  | collection => cases single
  | null | bool _ | float _ | undefined _ | text _ | bytes _ | date _ | moment _ =>
    exact iff_of_true rfl nofun

end Yaml.Value

namespace Settings

open Yaml.Value (Sortable Speakable)

theorem Key.mem_all (key : Key) : key ∈ Key.all := by
  cases key <;> decide

variable {entries : Entries}

/-- The key is none of those that settings have. -/
def IsForeign (key : Yaml.Value) : Prop := ∀ known : Key, key ≠ .text known.name

/-- The keys that mean nothing are those that settings do not have. -/
theorem mem_unknown_iff {key : Yaml.Value} :
    key ∈ unknown entries ↔ key ∈ entries.map (·.1) ∧ IsForeign key := by
  unfold unknown
  rw [List.mem_filter, Bool.not_eq_true', List.any_eq_false]
  apply and_congr_right
  intro _
  constructor
  · intro other known same
    exact other known known.mem_all (Yaml.Value.same_text_iff.mpr same)
  · intro other known _ same
    exact other known (Yaml.Value.same_text_iff.mp same)

theorem unknown_keyed (keyed : Yaml.Document.Keyed (entries.map (·.1))) :
    Yaml.Document.Keyed (unknown entries) where
  distinct := keyed.distinct.filter _
  single key member := keyed.single key (mem_unknown_iff.mp member).1

/-- What loading ends with at keys that mean nothing. -/
def keysFault (file : Text) (keys : List Yaml.Value) : Fault :=
  match Yaml.Value.sort? keys with
  | none => .unordered
  | some listed =>
    match listed.mapM Yaml.Value.toText? with
    | none => .numeralTooLong
    | some words => .refused (.unknownKeys file words)

/-- Once there is a key that means nothing, such keys settle how loading ends. -/
theorem ofDocument_of_unknown (file : Text) (strange : unknown entries ≠ []) :
    ofDocument file (.mapping entries) = .error (keysFault file (unknown entries)) := by
  have checked : checkKeys file entries = .error (keysFault file (unknown entries)) := by
    unfold checkKeys keysFault
    split
    · rename_i nothing
      exact absurd nothing strange
    · cases Yaml.Value.sort? (unknown entries) with
      | none => rfl
      | some listed =>
        simp only
        cases listed.mapM Yaml.Value.toText? <;> rfl
  show (checkKeys file entries >>= _) = _
  rw [checked]
  rfl

/-- The settings are refused with a message that lists some keys, each of them once. -/
def Lists (file : Text) (keys : List Yaml.Value) (result : Except Fault Settings) : Prop :=
  ∃ (refusal : Refusal) (listed : List Yaml.Value) (words : List Text),
    result = .error (.refused refusal) ∧
    refusal.message = Text.concat
      ["Unknown config keys in ", file, ": ", Text.joinWith (Text.ofString ", ") words] ∧
    listed.Perm keys ∧ listed.mapM Yaml.Value.toText? = some words

/-- The keys are listed exactly if they can be put in order and be said in words. -/
theorem keysFault_cases {keys : List Yaml.Value} (single : ∀ key ∈ keys, key.isKey = true)
    (file : Text) :
    (Sortable keys ∧ Speakable keys ∧ Lists file keys (.error (keysFault file keys))) ∨
      (¬ Sortable keys ∧ keysFault file keys = .unordered) ∨
      (Sortable keys ∧ ¬ Speakable keys ∧ keysFault file keys = .numeralTooLong) := by
  unfold keysFault
  cases sorted : Yaml.Value.sort? keys with
  | none =>
    have unsortable : ¬ Sortable keys := by
      rw [← Yaml.Value.sort?_isSome_iff, sorted]
      exact Bool.noConfusion
    exact .inr (.inl ⟨unsortable, rfl⟩)
  | some listed =>
    have sortable : Sortable keys := Yaml.Value.sort?_isSome_iff.mp (by rw [sorted]; rfl)
    have same : listed.Perm keys := Yaml.Value.sort?_perm sorted
    have spoken : (listed.mapM Yaml.Value.toText?).isSome = true ↔ Speakable keys := by
      rw [mapM_isSome_iff]
      constructor
      · intro each n member
        exact (Yaml.Value.toText?_isSome_iff (single _ member)).mp
          (each _ (same.mem_iff.mpr member)) n rfl
      · intro short key member
        have there := same.mem_iff.mp member
        refine (Yaml.Value.toText?_isSome_iff (single key there)).mpr fun n number => ?_
        exact short n (number ▸ there)
    simp only
    cases said : listed.mapM Yaml.Value.toText? with
    | none =>
      rw [said] at spoken
      exact .inr (.inr ⟨sortable, fun speakable => Bool.noConfusion (spoken.mpr speakable), rfl⟩)
    | some words =>
      rw [said] at spoken
      exact .inl ⟨sortable, spoken.mp rfl, _, listed, words, rfl, rfl, same, said⟩

/-- The keys of the mapping in a file are keys. -/
theorem document?_keyed {workspace : Workspace} {path : Text}
    (held : document? workspace path = some (.mapping entries)) :
    Yaml.Document.Keyed (entries.map (·.1)) := by
  obtain ⟨bytes, -, rest⟩ := Option.bind_eq_some_iff.mp held
  obtain ⟨chars, -, parsed⟩ := Option.bind_eq_some_iff.mp rest
  exact Yaml.Document.ofText_keyed (of_toOption parsed)

/-- Where a file holds a mapping with a key that is none of the known ones, all those keys
are listed in a refusal, each of them once, exactly if they can be put in order and no
one is a number with too many digits. If not, there is no refusal: the fault is that they
have no order, or else that one of them has too many digits. -/
theorem unknown_keys_listed_iff {workspace : Workspace} {path : Text}
    (usable : ¬ IsUnusable path) (held : document? workspace path = some (.mapping entries))
    (strange : ∃ key ∈ entries.map (·.1), IsForeign key) :
    let file := (Path.Normal.ofText path).toText
    let result := load workspace path
    (∀ key, key ∈ unknown entries ↔ key ∈ entries.map (·.1) ∧ IsForeign key) ∧
    (unknown entries).Pairwise (fun first second => first.same second = false) ∧
    (Lists file (unknown entries) result ↔
      Sortable (unknown entries) ∧ Speakable (unknown entries)) ∧
    (¬ Sortable (unknown entries) → result = .error .unordered) ∧
    (Sortable (unknown entries) → ¬ Speakable (unknown entries) →
      result = .error .numeralTooLong) := by
  intro file result
  obtain ⟨key, member, other⟩ := strange
  have keyed := unknown_keyed (document?_keyed held)
  have some_key : unknown entries ≠ [] :=
    List.ne_nil_of_mem (mem_unknown_iff.mpr ⟨member, other⟩)
  have loaded : result = .error (keysFault file (unknown entries)) :=
    (load_of_document (Bool.eq_false_iff.mpr usable) held).trans
      (ofDocument_of_unknown file some_key)
  refine ⟨fun _ => mem_unknown_iff, keyed.distinct, ?_⟩
  rw [loaded]
  rcases keysFault_cases keyed.single file with
    ⟨sortable, speakable, lists⟩ | ⟨unsortable, bare⟩ | ⟨sortable, unspeakable, bare⟩
  · exact ⟨iff_of_true lists ⟨sortable, speakable⟩, absurd sortable,
      fun _ unspeakable => absurd speakable unspeakable⟩
  · rw [bare]
    refine ⟨iff_of_false ?_ fun both => unsortable both.1, fun _ => rfl,
      fun sortable => absurd sortable unsortable⟩
    rintro ⟨refusal, listed, words, told, -⟩
    cases told
  · rw [bare]
    refine ⟨iff_of_false ?_ fun both => unspeakable both.2, absurd sortable, fun _ _ => rfl⟩
    rintro ⟨refusal, listed, words, told, -⟩
    cases told

/-- Two words are put in order and listed. -/
theorem two_words_listed :
    let workspace := oneFile (Utf8.encode "b: 1\na: 2\n")
    load workspace "c" = .error (.refused (.unknownKeys "c" ["a", "b"])) ∧
      Lists "c" [.text "b", .text "a"] (load workspace "c") := by
  intro workspace
  have held : document? workspace "c" =
      some (.mapping [(.text "b", .int 1), (.text "a", .int 2)]) := by decide +kernel
  have usable : ¬ IsUnusable "c" := by decide +kernel
  have named : (Path.Normal.ofText "c").toText = "c" := by decide +kernel
  have keys : unknown [(.text "b", .int 1), (.text "a", .int 2)] = [.text "b", .text "a"] := by
    decide +kernel
  have order : Yaml.Value.compare? (.text "a") (.text "b") = some .lt := by decide
  have sorted : Yaml.Value.sort? [.text "b", .text "a"] = some [.text "a", .text "b"] := by
    simp [Yaml.Value.sort?, Yaml.Value.kind?, List.mergeSort, order]
  have fault : keysFault "c" [.text "b", .text "a"] =
      .refused (.unknownKeys "c" ["a", "b"]) := by
    rw [keysFault, sorted]
    rfl
  have foreign : IsForeign (.text "b") := by
    rintro (_ | _) same <;> cases same
  obtain ⟨-, -, listed, -⟩ := unknown_keys_listed_iff usable held ⟨_, .head _, foreign⟩
  rw [named, keys] at listed
  refine ⟨?_, listed.mpr ⟨.inr ⟨.text, ?_⟩, ?_⟩⟩
  · rw [load_of_document (Bool.eq_false_iff.mpr usable) held, named,
      ofDocument_of_unknown _ (by simp [keys]), keys, fault]
  · intro key member
    rcases List.mem_pair.mp member with rfl | rfl <;> rfl
  · intro n member
    rcases List.mem_pair.mp member with same | same <;> cases same

/-- A number and a word have no order, so not all keys that mean nothing are listed. -/
theorem mixed_keys_unlisted :
    let workspace := oneFile (Utf8.encode "1: a\nb: c\n")
    load workspace "c" = .error .unordered ∧
    ¬ ∀ (workspace : Workspace) (path : Text) (entries : Entries), ¬ IsUnusable path →
      document? workspace path = some (.mapping entries) →
      (∃ key ∈ entries.map (·.1), IsForeign key) →
      Lists (Path.Normal.ofText path).toText (unknown entries) (load workspace path) := by
  intro workspace
  have held : document? workspace "c" =
      some (.mapping [(.int 1, .text "a"), (.text "b", .text "c")]) := by decide +kernel
  have usable : ¬ IsUnusable "c" := by decide +kernel
  have loaded : load workspace "c" = .error .unordered :=
    (load_of_document (Bool.eq_false_iff.mpr usable) held).trans (by rfl)
  have foreign : IsForeign (.int 1) := by
    intro known same
    cases same
  refine ⟨loaded, fun all => ?_⟩
  obtain ⟨refusal, listed, words, told, -⟩ :=
    all workspace "c" _ usable held ⟨.int 1, .head _, foreign⟩
  rw [loaded] at told
  cases told

end Settings
end NamedSignal
