import NamedSignal.Proc.Source
import NamedSignal.Proofs.ArgumentRecords

/-!
What a record says, told without reading it line by line into a table. The value of
a key in a status record is that of its last line with the key, and the first
argument of a process is what stands in front of the first NUL.
-/
namespace NamedSignal.Proc

namespace Status

/-- A value put in for a key is found under the key, if there is one, and nowhere else. -/
private theorem lookup_replaced (fields : Status) (key value asked : Text) :
    (fields.map fun field => if field.1 == key then (key, value) else field).lookup asked =
      if asked == key && fields.any (·.1 == key) then some value else fields.lookup asked := by
  induction fields with
  | nil => simp
  | cons field rest ih =>
    obtain ⟨own, content⟩ := field
    rw [List.map_cons, List.any_cons, List.lookup_cons]
    cases here : own == key with
    | true =>
      rw [if_pos rfl, List.lookup_cons, Bool.true_or, Bool.and_true, ← beq_iff_eq.mp here]
      rw [← beq_iff_eq.mp here] at ih
      cases same : asked == own with
      | true => rfl
      | false => simpa [same] using ih
    | false =>
      rw [if_neg Bool.false_ne_true, List.lookup_cons, Bool.false_or]
      cases same : asked == own with
      | true =>
        have other : (asked == key) = false := by rw [beq_iff_eq.mp same, here]
        simp [other]
      | false => exact ih

/-- A field that is set has its value, any other keeps the one it had. -/
theorem lookup_set (fields : Status) (key value asked : Text) :
    (fields.set key value).lookup asked =
      if asked == key then some value else fields.lookup asked := by
  unfold set
  cases present : fields.any (·.1 == key) with
  | true =>
    rw [if_pos rfl, lookup_replaced, present, Bool.and_true]
  | false =>
    rw [if_neg Bool.false_ne_true, List.lookup_append]
    cases same : asked == key with
    | true =>
      have fresh : fields.lookup asked = none := by
        rw [beq_iff_eq.mp same]
        refine List.lookup_eq_none_iff.mpr fun field member => ?_
        have differs := List.any_eq_false.mp present field member
        exact bne_iff_ne.mpr fun here => differs (beq_iff_eq.mpr here.symm)
      simp [fresh, List.lookup_cons, same]
    | false => simp [List.lookup_cons, same]

/-- Of the fields that are set one after another the last with a key counts. -/
theorem lookup_setAll (fields start : Status) (asked : Text) :
    (fields.foldl (fun status field => status.set field.1 field.2) start).lookup asked =
      ((fields.filter (·.1 == asked)).getLast?.map (·.2)).or (start.lookup asked) := by
  -- The fields still to be set win over all that `start` has taken up so far.
  induction fields generalizing start with
  | nil => rfl
  | cons field rest ih =>
    rw [List.foldl_cons, ih, lookup_set]
    by_cases same : field.1 = asked
    · subst same
      have kept : (field :: rest).filter (·.1 == field.1) =
          field :: rest.filter (·.1 == field.1) := List.filter_cons_of_pos (beq_self_eq_true _)
      rw [kept, List.getLast?_cons, if_pos (beq_self_eq_true _)]
      cases (rest.filter (·.1 == field.1)).getLast? <;> rfl
    · have dropped : (field :: rest).filter (·.1 == asked) = rest.filter (·.1 == asked) :=
        List.filter_cons_of_neg fun here => same (beq_iff_eq.mp here)
      rw [dropped, if_neg fun here => same (beq_iff_eq.mp here).symm]

/-- The name that a record gives: the value of its last line with the key `Name`,
without the blanks around it. -/
def nameIn (content : List UInt8) : Option Text :=
  ((((Utf8.decode content).splitOn (.char '\n')).filterMap field?).filter
    (·.1 == nameKey)).getLast?.map (·.2)

/-- The name of a record is empty where the record gives none. -/
theorem parse_name (content : List UInt8) :
    (parse content).name = (nameIn content).getD [] := by
  rw [name, parse, ofText, lookup_setAll]
  exact congrArg (Option.getD · []) (Option.or_none ..)

end Status

namespace Arguments

private theorem head?_splitOn {α : Type} [BEq α] (separator : α) (items : List α) :
    (items.splitOn separator).head? = some (items.takeWhile fun item => !(item == separator)) := by
  rw [List.splitOn_eq_splitOnP]
  induction items with
  | nil => rfl
  | cons item rest ih =>
    rw [List.splitOnP_cons_eq_if_modifyHead, List.takeWhile_cons]
    cases item == separator with
    | true => rfl
    | false =>
      rw [if_neg Bool.false_ne_true, List.head?_modifyHead, ih]
      rfl

/-- The first argument of a record: what stands in front of its first NUL. Only the
empty record has none. -/
def firstIn (content : List UInt8) : Option Text :=
  if content.isEmpty then none else some (Utf8.decode (content.takeWhile (· != 0)))

/-- A NUL at the end bounds nothing that another does not. -/
private theorem takeWhile_append_nul (content : List UInt8) :
    (content ++ [0]).takeWhile (· != 0) = content.takeWhile (· != 0) := by
  induction content with
  | nil => rfl
  | cons byte rest ih => rw [List.cons_append, List.takeWhile_cons, List.takeWhile_cons, ih]

/-- The first piece of a record ends at the first NUL. -/
theorem head?_pieces {content : List UInt8} (given : content ≠ []) :
    (pieces content).head? = some (content.takeWhile (· != 0)) := by
  rw [pieces_of_ne_nil given, head?_splitOn]
  refine congrArg some ?_
  by_cases ends : content.getLast? = some 0
  · obtain ⟨front, rfl⟩ := List.getLast?_eq_some_iff.mp ends
    rw [unended_concat]
    exact (takeWhile_append_nul front).symm
  · rw [unended, if_neg ends]
    rfl

theorem parse_head? (content : List UInt8) : (parse content).head? = firstIn content := by
  rw [parse, List.head?_map, firstIn]
  cases content with
  | nil => rfl
  | cons byte rest =>
    rw [head?_pieces (List.cons_ne_nil byte rest)]
    rfl

end Arguments

/-- Only the first argument counts for a name that may have been cut. -/
theorem recoverName_head? (name : Text) (arguments : List Text) :
    recoverName name arguments = recoverName name arguments.head?.toList := by
  cases arguments <;> rfl

end NamedSignal.Proc
