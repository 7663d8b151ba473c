import Mathlib.Data.Set.Image
import NamedSignal.Path
import NamedSignal.Proofs.AsciiMarks

/-!
The last component of a path. What a path leads to stands behind a directory that ends
in a slash, if there is one, and in front of any slashes at the end; the base name of
the path is just that. A path comes apart so in one way only, and in none if it is no
more than slashes. The slash is ASCII, so this holds of a path in bytes as well.
-/
namespace NamedSignal.Path

/-- The path is a directory that ends in a slash, or none, then the component, which has
no slash, and then slashes. -/
inductive LastComponent {α : Type} (slash : α) : List α → List α → Prop where
  | intro {above last slashes : List α} (directory : above = [] ∨ above.getLast? = some slash)
      (given : last ≠ []) (plain : slash ∉ last) (trailing : ∀ s ∈ slashes, s = slash) :
      LastComponent slash (above ++ last ++ slashes) last

namespace LastComponent

variable {α : Type} {mark : α} {path last : List α}

/-- A path need not have slashes at the end. -/
theorem unslashed {above : List α} (directory : above = [] ∨ above.getLast? = some mark)
    (given : last ≠ []) (plain : mark ∉ last) : LastComponent mark (above ++ last) last := by
  have path : LastComponent mark (above ++ last ++ []) last :=
    .intro directory given plain (by simp)
  rwa [List.append_nil] at path

theorem not_mem (leads : LastComponent mark path last) : mark ∉ last := by
  obtain ⟨-, -, plain, -⟩ := leads
  exact plain

theorem isInfix (leads : LastComponent mark path last) : last <:+: path := by
  obtain ⟨-, -, -, -⟩ := leads
  exact List.infix_append ..

theorem path_ne_nil (leads : LastComponent mark path last) : path ≠ [] := by
  obtain ⟨-, given, -, -⟩ := leads
  exact List.append_ne_nil_of_left_ne_nil (List.append_ne_nil_of_right_ne_nil _ given) _

theorem last_ne_nil (leads : LastComponent mark path last) : last ≠ [] := by
  obtain ⟨-, given, -, -⟩ := leads
  exact given

/-- A component is a path of its own, which leads to nothing else. -/
theorem alone (leads : LastComponent mark path last) : LastComponent mark last last :=
  unslashed (.inl rfl) leads.last_ne_nil leads.not_mem

/-- A path that has a last component is more than slashes. -/
theorem exists_mem (leads : LastComponent mark path last) : ∃ s ∈ path, s ≠ mark := by
  obtain ⟨s, member⟩ := List.exists_mem_of_ne_nil last leads.last_ne_nil
  refine ⟨s, leads.isInfix.subset member, ?_⟩
  rintro rfl
  exact leads.not_mem member

/-- A path that is more than slashes has a last component. -/
theorem exists_of_mem (more : ∃ s ∈ path, s ≠ mark) : ∃ last, LastComponent mark path last := by
  induction path with
  | nil =>
    obtain ⟨s, member, -⟩ := more
    exact absurd member List.not_mem_nil
  | cons first rest ih =>
    by_cases behind : ∃ s ∈ rest, s ≠ mark
    · obtain ⟨last, directory, given, plain, trailing⟩ := ih behind
      rename_i above slashes
      obtain rfl | ends := directory
      · by_cases same : first = mark
        · have directory : [first].getLast? = some mark := congrArg some same
          exact ⟨last, .intro (.inr directory) given plain trailing⟩
        · have joined : mark ∉ first :: last := by
            rw [List.mem_cons, not_or]
            exact ⟨fun here => same here.symm, plain⟩
          exact ⟨first :: last, .intro (.inl rfl) (List.cons_ne_nil first last) joined trailing⟩
      · have directory : (first :: above).getLast? = some mark := by
          rw [List.getLast?_cons, ends]
          rfl
        exact ⟨last, .intro (.inr directory) given plain trailing⟩
    · have only : ∀ s ∈ rest, s = mark := fun s member =>
        Classical.byContradiction fun other => behind ⟨s, member, other⟩
      obtain ⟨s, member, other⟩ := more
      have alone : mark ∉ [first] := by
        intro here
        obtain rfl := List.mem_singleton.mp here
        obtain rfl | within := List.mem_cons.mp member
        · exact other rfl
        · exact other (only s within)
      exact ⟨[first], .intro (.inl rfl) (List.cons_ne_nil first []) alone only⟩

/-- Slashes at the end are dropped down to the component. -/
private theorem rdropWhile_slashes [BEq α] [LawfulBEq α] {above slashes : List α}
    (given : last ≠ []) (plain : mark ∉ last) (trailing : ∀ s ∈ slashes, s = mark) :
    (above ++ last ++ slashes).rdropWhile (· == mark) = above ++ last := by
  induction slashes using List.reverseRecOn with
  | nil =>
    rw [List.append_nil, List.rdropWhile_eq_self_iff]
    intro some_path ends
    rw [List.getLast_append_of_ne_nil some_path given] at ends
    exact plain (beq_iff_eq.mp ends ▸ List.getLast_mem given)
  | append_singleton slashes s ih =>
    have slash : s == mark := beq_iff_eq.mpr (trailing s (by simp))
    rw [← List.append_assoc, List.rdropWhile_concat_pos (· == mark) _ s slash]
    exact ih fun t member => trailing t (by simp [member])

end LastComponent

/-- The base name of a path is its last component. -/
theorem baseName_eq {path last : Text} (leads : LastComponent slash path last) :
    baseName path = last := by
  obtain ⟨directory, given, plain, trailing⟩ := leads
  rename_i above slashes
  have stripped : Text.trimEnd (· == slash) (above ++ last ++ slashes) = above ++ last :=
    LastComponent.rdropWhile_slashes given plain trailing
  have apart : ∀ s ∈ last.reverse, (s != slash) = true := fun s member =>
    bne_iff_ne.mpr fun same => plain (same ▸ List.mem_reverse.mp member)
  have stops : above.reverse.takeWhile (· != slash) = [] := by
    obtain rfl | ends := directory
    · rfl
    · obtain ⟨front, rfl⟩ := List.getLast?_eq_some_iff.mp ends
      simp
  unfold baseName
  simp only [stripped, List.isEmpty_iff, List.append_eq_nil_iff, given, and_false, ↓reduceIte]
  rw [List.reverse_append, List.takeWhile_append_of_pos apart, stops, List.append_nil,
    List.reverse_reverse]

/-- A path of slashes only, or of nothing, has a base name of its own. -/
theorem baseName_of_slashes {path : Text} (only : ∀ s ∈ path, s = slash) :
    baseName path = Text.ofString "." ∨ baseName path = [slash] := by
  have stripped : path.trimEnd (· == slash) = [] :=
    List.rdropWhile_eq_nil_iff.mpr fun s member => beq_iff_eq.mpr (only s member)
  unfold baseName
  simp only [stripped, List.isEmpty_nil, ↓reduceIte]
  split
  · exact .inl rfl
  · exact .inr rfl

/-- A base name is the last component of its path, unless that has none. -/
theorem baseName_cases (path : Text) :
    LastComponent slash path (baseName path) ∨
      baseName path = Text.ofString "." ∨ baseName path = [slash] := by
  by_cases more : ∃ s ∈ path, s ≠ slash
  · obtain ⟨last, leads⟩ := LastComponent.exists_of_mem more
    left
    rwa [baseName_eq leads]
  · right
    apply baseName_of_slashes
    intro s member
    by_contra other
    exact more ⟨s, member, other⟩

/-- The two names of paths without a component stand for themselves, as a component does. -/
theorem baseName_baseName (path : Text) : baseName (baseName path) = baseName path := by
  rcases baseName_cases path with leads | place | root
  · exact baseName_eq leads.alone
  · rw [place]
    decide
  · rw [root]
    decide

theorem baseName_ne_nil (path : Text) : baseName path ≠ [] := by
  rcases baseName_cases path with leads | place | root
  · exact leads.last_ne_nil
  · rw [place]
    exact List.cons_ne_nil _ _
  · rw [root]
    exact List.cons_ne_nil _ _

/-- A path that is taken apart: a directory that ends in a slash, or none, then the
component, which has no slash, and then slashes. -/
@[ext]
structure Division where
  above : Text
  last : Text
  slashes : Text
  directory : above = [] ∨ above.getLast? = some slash
  given : last ≠ []
  plain : slash ∉ last
  trailing : ∀ s ∈ slashes, s = slash

namespace Division

/-- The path with its parts together again. -/
def path (parts : Division) : Text := parts.above ++ parts.last ++ parts.slashes

theorem leads (parts : Division) : LastComponent slash parts.path parts.last :=
  .intro parts.directory parts.given parts.plain parts.trailing

theorem trimEnd_path (parts : Division) :
    parts.path.trimEnd (· == slash) = parts.above ++ parts.last :=
  LastComponent.rdropWhile_slashes parts.given parts.plain parts.trailing

/-- A path comes apart in one way. The component is its base name, what is in front of
the slashes at its end is the path without them, and each of the two leaves one rest. -/
theorem path_injective : Function.Injective path := by
  intro parts others same
  have last : parts.last = others.last := by
    rw [← baseName_eq parts.leads, ← baseName_eq others.leads, same]
  have front : parts.above ++ parts.last = others.above ++ others.last := by
    rw [← parts.trimEnd_path, ← others.trimEnd_path, same]
  have slashes : parts.slashes = others.slashes := by
    rw [path, path, front] at same
    exact List.append_cancel_left same
  rw [last] at front
  have above : parts.above = others.above := List.append_cancel_right front
  exact Division.ext above last slashes

/-- Just the paths that are more than slashes come apart. -/
theorem exists_iff {path : Text} :
    (∃ parts : Division, parts.path = path) ↔ ∃ s ∈ path, s ≠ slash := by
  constructor
  · rintro ⟨parts, rfl⟩
    exact parts.leads.exists_mem
  · intro more
    obtain ⟨last, directory, given, plain, trailing⟩ := LastComponent.exists_of_mem more
    exact ⟨⟨_, last, _, directory, given, plain, trailing⟩, rfl⟩

end Division

/-- A path that is more than slashes, and no other, comes apart in exactly one way into a
directory, a component and slashes, and its base name is the component. The base name of
any path is its own base name, and it is never empty. -/
theorem baseName_of_only_division (path : Text) :
    ((∃ s ∈ path, s ≠ slash) ↔ ∃! parts : Division, parts.path = path) ∧
    (∀ parts : Division, parts.path = path → baseName path = parts.last) ∧
    baseName (baseName path) = baseName path ∧ baseName path ≠ [] := by
  refine ⟨?_, ?_, baseName_baseName path, baseName_ne_nil path⟩
  · rw [← Division.exists_iff, ← Set.mem_range, Division.path_injective.mem_range_iff_existsUnique]
  · rintro parts rfl
    exact baseName_eq parts.leads

/-- A path with more slashes than it needs. -/
theorem doubled_slashes_divided :
    let path : Text := "/opt//tool//"
    let parts : Division := ⟨"/opt//", "tool", "//", by decide, by decide, by decide, by decide⟩
    (∃ s ∈ path, s ≠ slash) ∧ parts.path = path ∧ (∃! parts : Division, parts.path = path) ∧
    baseName path = "tool" ∧ baseName "tool" = "tool" := by
  intro path parts
  have more : ∃ s ∈ path, s ≠ slash := ⟨.char 't', by decide, by decide⟩
  have whole : parts.path = path := by decide
  obtain ⟨divided, named, again, -⟩ := baseName_of_only_division path
  have component : baseName path = "tool" := named parts whole
  rw [component] at again
  exact ⟨more, whole, divided.mp more, component, again⟩

end NamedSignal.Path

namespace NamedSignal.Utf8

open NamedSignal.Path

variable {above rest path last : List UInt8}

/-- What ends in an ASCII byte reads as it does alone. -/
theorem decode_append_of_ends {a : UInt8} (ascii : a < 0x80)
    (ends : above = [] ∨ above.getLast? = some a) (rest : List UInt8) :
    decode (above ++ rest) = decode above ++ decode rest := by
  obtain rfl | ends := ends
  · simp
  · obtain ⟨front, rfl⟩ := List.getLast?_eq_some_iff.mp ends
    rw [List.append_assoc, List.singleton_append, decode_append_ascii ascii,
      decode_append_ascii ascii, decode_nil, List.append_assoc, List.singleton_append]

/-- The last component of a path in bytes reads as that of the path. -/
theorem lastComponent_decode (leads : LastComponent 0x2F path last) :
    LastComponent slash (decode path) (decode last) := by
  have ascii : (0x2F : UInt8) < 0x80 := by decide
  have mark : slash = .ofAscii 0x2F := by decide
  obtain ⟨directory, given, plain, trailing⟩ := leads
  rename_i above slashes
  have apart : ¬ Severed last slashes :=
    not_severed_ascii fun s first => trailing s (List.mem_of_head? first) ▸ ascii
  rw [List.append_assoc, decode_append_of_ends ascii directory, decode_append apart,
    ← List.append_assoc, mark]
  refine .intro ?_ ?_ (mt (ofAscii_mem_decode ascii).mp plain) ?_
  · obtain rfl | ends := directory
    · simp
    · obtain ⟨front, rfl⟩ := List.getLast?_eq_some_iff.mp ends
      rw [decode_append_ascii ascii]
      simp
  · exact mt decode_eq_nil_iff.mp given
  · clear apart
    induction slashes with
    | nil => simp
    | cons s slashes ih =>
      rw [List.forall_mem_cons] at trailing
      obtain ⟨rfl, more⟩ := trailing
      rw [decode_cons_ascii ascii, List.forall_mem_cons]
      exact ⟨rfl, ih more⟩

end NamedSignal.Utf8
