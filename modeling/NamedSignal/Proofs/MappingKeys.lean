import NamedSignal.Proofs.Traces
import NamedSignal.Yaml.Document

/-!
The keys of a mapping. A document is read with merges, repeated keys and aliases, and
still each key of the mapping it comes to is there once and is no collection. What a
step of the reading gives is told by what holds of its value wherever it started.
-/
namespace NamedSignal

theorem Symbol.code_injective : Function.Injective Symbol.code := by
  -- The numbers of lone surrogates are those that no scalar value has.
  have apart (c : Char) (offset : Fin 0x800) : Symbol.code (.char c) ≠ Symbol.code (.lone offset) := by
    have valid : c.toNat.isValidChar := c.valid
    unfold Nat.isValidChar at valid
    simp only [Symbol.code]
    omega
  intro first second same
  cases first with
  | char c =>
    cases second with
    | char d => exact congrArg _ (Char.toNat_inj.mp same)
    | lone offset => exact absurd same (apart c offset)
  | lone offset =>
    cases second with
    | char d => exact absurd same.symm (apart d offset)
    | lone other => exact congrArg _ (Fin.ext (Nat.add_left_cancel same))

namespace Yaml

/-- A key is one with a text only if it is that text. -/
theorem Value.same_text_iff {key : Value} {word : Text} :
    key.same (.text word) = true ↔ key = .text word := by
  cases key with
  | text other =>
    have codes : same (.text other) (.text word) = true ↔
        other.map Symbol.code = word.map Symbol.code := by
      simp [same, compare?]
    rw [codes, List.map_inj_right fun _ _ equal => Symbol.code_injective equal, text.injEq]
  | float value =>
    refine iff_of_false ?_ nofun
    simp only [same, compare?]
    cases (float value).number? <;> exact Bool.noConfusion
  | null | bool _ | int _ | undefined _ | bytes _ | date _ | moment _ | collection =>
    exact iff_of_false Bool.noConfusion nofun

namespace Document

/-- Keys of a mapping: no two are one, and none is a collection. -/
structure Keyed (keys : List Value) : Prop where
  distinct : keys.Pairwise fun first second => first.same second = false
  single : ∀ key ∈ keys, key.isKey = true

/-- Giving a key a value adds the key behind the others unless it is there. -/
theorem keys_assign (entries : List (Value × Value)) (key value : Value) :
    (assign entries key value).map (·.1) =
      if entries.any fun entry => entry.1.same key then entries.map (·.1)
      else entries.map (·.1) ++ [key] := by
  unfold assign
  split
  · rw [List.map_map]
    refine List.map_congr_left fun entry _ => ?_
    simp only [Function.comp_apply]
    split <;> rfl
  · simp

theorem Keyed.nil : Keyed [] := ⟨.nil, fun _ member => absurd member List.not_mem_nil⟩

theorem Keyed.assign {entries : List (Value × Value)} (keyed : Keyed (entries.map (·.1)))
    {key : Value} (single : key.isKey = true) (value : Value) :
    Keyed ((assign entries key value).map (·.1)) := by
  rw [keys_assign]
  by_cases there : (entries.any fun entry => entry.1.same key) = true
  · rwa [if_pos there]
  · rw [if_neg there]
    have absent : ∀ other ∈ entries.map (·.1), other.same key = false := by
      intro other member
      obtain ⟨entry, within, rfl⟩ := List.mem_map.mp member
      have differs := List.any_eq_false.mp (Bool.eq_false_iff.mpr there) entry within
      exact Bool.eq_false_iff.mpr differs
    constructor
    · refine List.pairwise_append.mpr ⟨keyed.distinct, List.pairwise_singleton _ _, ?_⟩
      intro other member last same
      rw [List.mem_singleton.mp same]
      exact absent other member
    · intro other member
      rcases List.mem_append.mp member with member | member
      · exact keyed.single other member
      · rw [List.mem_singleton.mp member]
        exact single

section Ensures

variable {α β : Type} {p : α → Prop} {q : β → Prop}

/-- Wherever the step starts, the value it comes to has the property. -/
def Ensures (step : Interpret α) (p : α → Prop) : Prop :=
  ∀ before value after, step before = .ok (value, after) → p value

theorem Ensures.of_pure {value : α} (holds : p value) : Ensures (pure value) p := by
  intro before found after done
  cases done
  exact holds

theorem Ensures.of_throw (fault : Fault) : Ensures (throw fault) p := by
  intro before value after done
  cases done

theorem Ensures.bind {first : Interpret α} {rest : α → Interpret β} (start : Ensures first p)
    (later : ∀ value, p value → Ensures (rest value) q) : Ensures (first >>= rest) q := by
  intro before value after done
  change (first before >>= fun found => rest found.1 found.2) = _ at done
  cases found : first before with
  | error fault =>
    rw [found] at done
    cases done
  | ok reached =>
    rw [found] at done
    exact later reached.1 (start before reached.1 reached.2 found) _ _ _ done

/-- Where the value of the first step does not matter. -/
theorem Ensures.after {first : Interpret α} {rest : α → Interpret β}
    (later : ∀ value, Ensures (rest value) q) : Ensures (first >>= rest) q :=
  Ensures.bind (p := fun _ => True) (fun _ _ _ _ => trivial) fun value _ => later value

/-- What each step of a fold keeps holds at its end. -/
theorem Ensures.foldlM {step : α → β → Interpret α} (items : List β)
    (keeps : ∀ found item, p found → Ensures (step found item) p) {start : α} (holds : p start) :
    Ensures (items.foldlM step start) p := by
  induction items generalizing start with
  | nil => exact .of_pure holds
  | cons item rest ih =>
    rw [List.foldlM_cons]
    exact (keeps start item holds).bind fun found kept => ih kept

end Ensures

/-- The entries of a mapping are given one after another, so their keys are keys. -/
theorem visitMapping_keyed (number : Nat) :
    Ensures (visitMapping number) fun entries => Keyed (entries.map (·.1)) := by
  refine .after fun _ => .after fun _ => .after fun _ => .after fun entries => ?_
  refine .foldlM entries (fun found entry keyed => .after fun key => ?_) .nil
  cases single : key.isKey with
  | false => exact .of_throw .malformed
  | true => exact .after fun value => .of_pure (keyed.assign single value)

/-- A collection that is no mapping leaves no entries. -/
theorem look_keyed (number : Nat) :
    Ensures (look number) fun entries => Keyed (entries.map (·.1)) := by
  refine .after fun state => ?_
  dsimp only
  split
  · exact .after fun _ => .of_pure .nil
  · exact .after fun _ => .of_pure .nil
  · exact .after fun _ => .of_pure .nil
  · exact visitMapping_keyed number
  · exact visitMapping_keyed number
  · exact .of_throw .malformed

/-- The entries of the root are the mapping, if the root is one. -/
theorem interpret_keyed (root : Nat) : Ensures (interpret root) fun document =>
    ∀ entries, document = .mapping entries → Keyed (entries.map (·.1)) := by
  refine .after fun value => .after fun state => ?_
  extract_lets finish
  have finished : ∀ entries : List (Value × Value), Keyed (entries.map (·.1)) →
      Ensures (finish entries) fun document =>
        ∀ entries, document = .mapping entries → Keyed (entries.map (·.1)) := by
    refine fun entries keyed => .after fun _ => ?_
    split
    · exact .of_pure fun _ impossible => nomatch impossible
    · split
      · refine .of_pure fun same given => ?_
        cases given
        exact keyed
      · exact .of_pure fun _ impossible => nomatch impossible
    · exact .of_pure fun _ impossible => nomatch impossible
  split
  · exact finished [] .nil
  · exact .after fun _ => (look_keyed root).bind finished

/-- The keys of a document's mapping are keys. -/
theorem ofText_keyed {text : List Char} {entries : List (Value × Value)}
    (read : ofText text = .ok (.mapping entries)) : Keyed (entries.map (·.1)) := by
  obtain ⟨graph, -, meant⟩ := values_of_bind read
  cases rooted : graph.root with
  | none =>
    simp only [rooted] at meant
    cases meant
  | some root =>
    simp only [rooted] at meant
    obtain ⟨⟨document, after⟩, found, same⟩ := values_of_bind meant
    cases same
    exact interpret_keyed root _ _ _ found entries rfl

end Document
end Yaml
end NamedSignal
