import Mathlib.Data.List.Range
import Mathlib.Data.List.Forall2
import NamedSignal.Proofs.Traces

/-!
Timed blocks inside timed blocks. Every block that is entered reports once, when it ends,
so after all blocks inside it, and takes two readings of the clock for itself: one before
all those that are taken inside it and one behind them. What it reports depends on these
two and on how its body ended, and its body's failure is passed on as it is.
-/
namespace NamedSignal

namespace Clock

/-- The reading with a number, counted from zero. Behind the last reading it is that one,
and zero where there are none. -/
def reading (clock : Clock) (n : Nat) : Float :=
  clock.readings.getD n (clock.readings.getLastD 0)

/-- The clock after some looks at it. -/
def after (clock : Clock) : Nat → Clock
  | 0 => clock
  | n + 1 => (clock.after n).read.2

theorem reading_read (clock : Clock) (n : Nat) :
    clock.read.2.reading n = clock.reading (n + 1) := by
  obtain ⟨readings⟩ := clock
  match readings with
  | [] => rfl
  | [last] => cases n <;> rfl
  | first :: second :: later => rfl

theorem after_read (clock : Clock) (n : Nat) : clock.read.2.after n = clock.after (n + 1) := by
  induction n with
  | zero => rfl
  | succ n ih => exact congrArg (fun clock => clock.read.2) ih

/-- Each look shows the next reading. -/
theorem fst_read_after (clock : Clock) (n : Nat) : (clock.after n).read.1 = clock.reading n := by
  induction n generalizing clock with
  | zero =>
    obtain ⟨readings⟩ := clock
    match readings with
    | [] => rfl
    | [last] => rfl
    | first :: second :: later => rfl
  | succ n ih => rw [← after_read, ih, reading_read]

theorem read_after (clock : Clock) (n : Nat) :
    (clock.after n).read = (clock.reading n, clock.after (n + 1)) :=
  Prod.ext (fst_read_after clock n) rfl

end Clock

/-- Operations in a row, however they are grouped. -/
theorem Run.next_assoc {ε α β γ : Type} (first : Run ε α) (second : α → Run ε β)
    (third : β → Run ε γ) :
    first >>= second >>= third = first >>= fun value => second value >>= third := by
  funext clock
  show next (next first second) third clock =
    next first (fun value => next (second value) third) clock
  simp only [next]
  obtain ⟨events, later, failure | value⟩ := first clock
  · rfl
  · simp only
    obtain ⟨more, last, failure | given⟩ := second value later
    · rfl
    · simp only [List.append_assoc]

namespace Timer

/-- What is done inside a block: blocks one after another and then the end, which may be a
failure. A block's own failure may be absorbed; else nothing comes behind it. -/
inductive Body where
  | done (fails : Option Text)
  | block (name logger : Text) (inside : Body) (absorbed : Bool) (rest : Body)

/-- How a body ends that raises a failure of this kind, or none. -/
def ending : Option Text → Except Text Unit
  | none => .ok ()
  | some kind => .error kind

namespace Body

/-- The failure that is raised by a body as a whole. -/
def raises : Body → Option Text
  | done fails => fails
  | block _ _ inside absorbed rest => if absorbed then rest.raises else inside.raises.or rest.raises

/-- Run a body. -/
def run : Body → Run Text Unit
  | done fails => Run.ofExcept (ending fails)
  | block name logger inside true rest => do
    let _ ← (timed id name logger inside.run).ended
    rest.run
  | block name logger inside false rest => do
    timed id name logger inside.run
    rest.run

/-- The body of blocks whose failures are all absorbed. -/
def ofBlocks : List Block → Option Text → Body
  | [], fails => done fails
  | .block name logger own nested :: rest, fails =>
    block name logger (ofBlocks nested own) true (ofBlocks rest fails)

end Body

/-- A block and where it stands: its number among the blocks of its body, and in front of
that the place of the block which the body belongs to. -/
structure Site where
  place : List Nat
  name : Text
  logger : Text
  inside : Body

/-- The blocks of a body that are entered when it runs, its own ones numbered from some
number on. -/
inductive Entered : Body → Nat → Site → Prop where
  | here {name logger : Text} {inside rest : Body} {absorbed : Bool} {n : Nat} :
      Entered (.block name logger inside absorbed rest) n ⟨[n], name, logger, inside⟩
  | within {name logger : Text} {inside rest : Body} {absorbed : Bool} {n : Nat} {site : Site}
      (nested : Entered inside 0 site) :
      Entered (.block name logger inside absorbed rest) n { site with place := n :: site.place }
  | behind {name logger : Text} {inside rest : Body} {absorbed : Bool} {n : Nat} {site : Site}
      (past : absorbed = true ∨ inside.raises = none) (later : Entered rest (n + 1) site) :
      Entered (.block name logger inside absorbed rest) n site

/-- A block that is entered, and the numbers of its readings. -/
structure Visit extends Site where
  start : Nat
  stop : Nat

/-- Of two blocks the first one ends first. Either it stands inside the second one, and
then it also starts later, or it is over before the second one starts. -/
structure EndsBefore (first second : Visit) : Prop where
  stops : first.stop < second.stop
  outside : ¬ first.place <+: second.place
  inside : second.place <+: first.place → second.start < first.start
  apart : ¬ second.place <+: first.place → first.stop < second.start

/-- The visits are to the blocks that a body enters, in the order in which these end, and
share the readings out among them. -/
structure Accounts (body : Body) (visits : List Visit) : Prop where
  entered : ∀ site, Entered body 0 site ↔ site ∈ visits.map Visit.toSite
  once : (visits.map (·.place)).Nodup
  order : visits.Pairwise EndsBefore
  begun : ∀ visit ∈ visits, visit.start < visit.stop
  readings : (visits.flatMap fun visit => [visit.start, visit.stop]).Perm
    (List.range (2 * visits.length))

/-- What a block has to say that took some milliseconds, and that raised this failure. -/
inductive Says (name logger : Text) (milliseconds : Float) : Option Text → Log.Record → Prop
  | raised (kind : Text) : Says name logger milliseconds (some kind)
      ⟨.debug, logger, "__exit__", Text.concat [name, " raised ", kind, " after ",
        Decimal.fixed 2 milliseconds, "ms"]⟩
  | slow (long : 100 < milliseconds) : Says name logger milliseconds none
      ⟨.warning, logger, "__exit__", Text.concat ["SLOW: ", name, " took ",
        Decimal.fixed 2 milliseconds, "ms"]⟩
  | quick (short : ¬ 100 < milliseconds) : Says name logger milliseconds none
      ⟨.debug, logger, "__exit__", Text.concat [name, " took ",
        Decimal.fixed 2 milliseconds, "ms"]⟩

/-- The record of a visit, by its two readings and the failure of its body. -/
def Visit.IsTold (clock : Clock) (visit : Visit) (record : Log.Record) : Prop :=
  Says visit.name visit.logger (elapsed (clock.reading visit.start) (clock.reading visit.stop))
    visit.inside.raises record

theorem report_says (name logger : Text) (milliseconds : Float) (failure : Option Text) :
    Says name logger milliseconds failure (report name logger milliseconds failure) := by
  cases failure with
  | some kind =>
    have raised : Says name logger milliseconds (some kind) _ := .raised kind
    simpa [report, Text.concat, reportFunction] using raised
  | none =>
    by_cases long : (100 : Float) < milliseconds
    · have slow : Says name logger milliseconds none _ := .slow long
      simpa [report, Text.concat, reportFunction, slowThreshold, long] using slow
    · have quick : Says name logger milliseconds none _ := .quick long
      simpa [report, Text.concat, reportFunction, slowThreshold, long] using quick

namespace Body

/-- The visits to the blocks inside a block that has the number `n` in its own body. -/
def beneath (n : Nat) (visits : List Visit) : List Visit :=
  visits.map fun visit => { visit with place := n :: visit.place }

theorem length_beneath (n : Nat) (visits : List Visit) :
    (beneath n visits).length = visits.length := List.length_map ..

/-- The visit to a block with these visits to the blocks inside it. -/
def visitAt (n i : Nat) (name logger : Text) (inside : Body) (nested : List Visit) : Visit :=
  { place := [n], name, logger, inside, start := i, stop := i + 1 + 2 * nested.length }

/-- The visits of a body whose first block has the number `n` and takes the reading `i`. -/
def visits : Body → Nat → Nat → List Visit
  | done _, _, _ => []
  | block name logger inside absorbed rest, n, i =>
    let nested := inside.visits 0 (i + 1)
    let later := rest.visits (n + 1) (i + 2 + 2 * nested.length)
    beneath n nested ++ visitAt n i name logger inside nested ::
      if absorbed ∨ inside.raises = none then later else []

end Body

section Laid

open Body

/-- The visits are numbered from `n` on, share the readings from `i` on among them and stand
in the order in which they end. -/
structure Laid (n i : Nat) (visits : List Visit) : Prop where
  numbered : ∀ visit ∈ visits, ∃ m inner, visit.place = m :: inner ∧ n ≤ m
  readings : (visits.flatMap fun visit => [visit.start, visit.stop]).Perm
    (List.range' i (2 * visits.length))
  begun : ∀ visit ∈ visits, visit.start < visit.stop
  order : visits.Pairwise EndsBefore

variable {n i : Nat} {name logger : Text} {inside : Body} {nested later visits : List Visit}

/-- The two readings of a visit are among those that all visits share. -/
theorem Laid.within (laid : Laid n i visits) : ∀ visit ∈ visits,
    i ≤ visit.start ∧ visit.stop < i + 2 * visits.length := by
  intro visit member
  have taken : ∀ reading ∈ [visit.start, visit.stop],
      reading ∈ List.range' i (2 * visits.length) := fun reading own =>
    laid.readings.mem_iff.mp (List.mem_flatMap.mpr ⟨visit, member, own⟩)
  have first := List.mem_range'_1.mp (taken visit.start (by simp))
  have last := List.mem_range'_1.mp (taken visit.stop (by simp))
  exact ⟨first.1, last.2⟩

/-- A block takes the reading in front of those inside it and the one behind them. -/
theorem readings_block
    (insideTaken : (nested.flatMap fun visit => [visit.start, visit.stop]).Perm
      (List.range' (i + 1) (2 * nested.length)))
    (laterTaken : (later.flatMap fun visit => [visit.start, visit.stop]).Perm
      (List.range' (i + 2 + 2 * nested.length) (2 * later.length))) :
    ((beneath n nested ++ visitAt n i name logger inside nested :: later).flatMap
        fun visit => [visit.start, visit.stop]).Perm
      (List.range' i (2 * (beneath n nested ++
        visitAt n i name logger inside nested :: later).length)) := by
  have moved : ((beneath n nested).flatMap fun visit => [visit.start, visit.stop]) =
      nested.flatMap fun visit => [visit.start, visit.stop] := List.flatMap_map ..
  have count : 2 * (beneath n nested ++ visitAt n i name logger inside nested :: later).length =
      2 * nested.length + (2 * later.length + 1) + 1 := by
    simp only [List.length_append, length_beneath, List.length_cons]
    omega
  have split : List.range' i (2 * nested.length + (2 * later.length + 1) + 1) =
      i :: (List.range' (i + 1) (2 * nested.length) ++ (i + 1 + 2 * nested.length) ::
        List.range' (i + 2 + 2 * nested.length) (2 * later.length)) := by
    rw [List.range'_succ, ← List.range'_append_1, List.range'_succ]
    simp only [Nat.add_right_comm]
  rw [count, split, List.flatMap_append, moved, List.flatMap_cons]
  refine List.perm_middle.trans (List.Perm.cons _ ?_)
  exact insideTaken.append (laterTaken.cons _)

/-- Two visits inside a block end in the order in which they do in its body. -/
theorem EndsBefore.beneath {first second : Visit} (order : EndsBefore first second) :
    EndsBefore { first with place := n :: first.place }
      { second with place := n :: second.place } where
  stops := order.stops
  outside stands := order.outside (List.cons_prefix_cons.mp stands).2
  inside stands := order.inside (List.cons_prefix_cons.mp stands).2
  apart stands := order.apart fun inner => stands (List.cons_prefix_cons.mpr ⟨rfl, inner⟩)

/-- A visit at a lower number of the same body that is over ends before. -/
theorem EndsBefore.of_past {first second : Visit} {m : Nat} {inner outer : List Nat}
    (firstPlace : first.place = n :: inner) (secondPlace : second.place = m :: outer)
    (lower : n < m) (past : first.stop < second.start) (begun : second.start < second.stop) :
    EndsBefore first second where
  stops := past.trans begun
  outside stands := by
    rw [firstPlace, secondPlace] at stands
    exact lower.ne (List.cons_prefix_cons.mp stands).1
  inside stands := by
    rw [firstPlace, secondPlace] at stands
    exact absurd (List.cons_prefix_cons.mp stands).1 lower.ne'
  apart _ := past

/-- A block ends behind those inside it and in front of those behind it. -/
theorem order_block (insideLaid : Laid 0 (i + 1) nested)
    (laterLaid : Laid (n + 1) (i + 2 + 2 * nested.length) later) :
    (beneath n nested ++ visitAt n i name logger inside nested :: later).Pairwise EndsBefore := by
  have behind : ∀ first : Visit, ∀ inner, first.place = n :: inner →
      first.stop < i + 2 + 2 * nested.length → ∀ second ∈ later, EndsBefore first second := by
    intro first inner place past second member
    obtain ⟨m, outer, number, lower⟩ := laterLaid.numbered second member
    have begun := (laterLaid.within second member).1
    exact .of_past place number (by omega) (by omega) (laterLaid.begun second member)
  refine List.pairwise_append.mpr ⟨?_, List.pairwise_cons.mpr ⟨?_, laterLaid.order⟩, ?_⟩
  · exact List.pairwise_map.mpr (insideLaid.order.imp EndsBefore.beneath)
  · exact behind _ [] rfl (by simp only [visitAt]; omega)
  · intro first within second member
    obtain ⟨inner, nestedMember, rfl⟩ := List.mem_map.mp within
    obtain ⟨started, past⟩ := insideLaid.within inner nestedMember
    rcases List.mem_cons.mp member with rfl | member
    · obtain ⟨m, deeper, place, -⟩ := insideLaid.numbered inner nestedMember
      exact {
        stops := past
        outside := fun stands => by
          have short := stands.length_le
          simp [visitAt, place] at short
        inside := fun _ => started
        apart := fun stands => absurd ⟨inner.place, rfl⟩ stands }
    · exact behind _ inner.place rfl (by simp only; omega) second member

/-- The visits inside a block, its own one, and those behind it. -/
theorem Laid.block (insideLaid : Laid 0 (i + 1) nested)
    (laterLaid : Laid (n + 1) (i + 2 + 2 * nested.length) later) :
    Laid n i (beneath n nested ++ visitAt n i name logger inside nested :: later) where
  numbered := by
    intro visit member
    rcases List.mem_append.mp member with within | behind
    · obtain ⟨inner, -, rfl⟩ := List.mem_map.mp within
      exact ⟨n, inner.place, rfl, le_rfl⟩
    · rcases List.mem_cons.mp behind with rfl | behind
      · exact ⟨n, [], rfl, le_rfl⟩
      · obtain ⟨m, inner, place, above⟩ := laterLaid.numbered visit behind
        exact ⟨m, inner, place, by omega⟩
  readings := readings_block insideLaid.readings laterLaid.readings
  begun := by
    intro visit member
    rcases List.mem_append.mp member with within | behind
    · obtain ⟨inner, nestedMember, rfl⟩ := List.mem_map.mp within
      exact insideLaid.begun inner nestedMember
    · rcases List.mem_cons.mp behind with rfl | behind
      · simp only [visitAt]
        omega
      · exact laterLaid.begun visit behind
  order := order_block insideLaid laterLaid

theorem Laid.none : Laid n i [] := ⟨by simp, .refl _, by simp, .nil⟩

/-- The visits of a body are laid out from its first number and its first reading on. -/
theorem laid_visits (body : Body) (n i : Nat) : Laid n i (body.visits n i) := by
  induction body generalizing n i with
  | done fails => exact .none
  | block name logger inside absorbed rest insideIH restIH =>
    refine .block (insideIH 0 (i + 1)) ?_
    split
    · exact restIH ..
    · exact .none

end Laid

namespace Body

/-- The visits of a body are to the blocks that it enters. -/
theorem entered_iff (body : Body) (n i : Nat) (site : Site) :
    Entered body n site ↔ site ∈ (body.visits n i).map Visit.toSite := by
  induction body generalizing n i site with
  | done fails => exact ⟨nofun, nofun⟩
  | block name logger inside absorbed rest insideIH restIH =>
    have nested :
        (∃ inner, Entered inside 0 inner ∧ { inner with place := n :: inner.place } = site) ↔
          site ∈ (beneath n (inside.visits 0 (i + 1))).map Visit.toSite := by
      simp only [insideIH 0 (i + 1), beneath, List.mem_map]
      constructor
      · rintro ⟨-, ⟨visit, member, rfl⟩, rfl⟩
        exact ⟨_, ⟨visit, member, rfl⟩, rfl⟩
      · rintro ⟨-, ⟨visit, member, rfl⟩, rfl⟩
        exact ⟨_, ⟨visit, member, rfl⟩, rfl⟩
    simp only [visits, List.map_append, List.mem_append, ← nested, List.map_cons, List.mem_cons]
    constructor
    · rintro (_ | within | ⟨past, later⟩)
      · exact .inr (.inl rfl)
      · exact .inl ⟨_, within, rfl⟩
      · refine .inr (.inr ?_)
        rw [if_pos past]
        exact (restIH ..).mp later
    · rintro (⟨inner, within, rfl⟩ | rfl | behind)
      · exact .within within
      · exact .here
      · by_cases past : absorbed ∨ inside.raises = none
        · rw [if_pos past] at behind
          exact .behind past ((restIH ..).mpr behind)
        · rw [if_neg past] at behind
          cases behind

/-- What a visit puts into the log. -/
def told (clock : Clock) (visit : Visit) : Event :=
  .logged (report visit.name visit.logger
    (elapsed (clock.reading visit.start) (clock.reading visit.stop)) visit.inside.raises)

/-- What some visits come to that start at a reading: their reports one after another, two
readings for each, and a failure or none. -/
def outcome (clock : Clock) (i : Nat) (visits : List Visit) (fails : Option Text) :
    Outcome Text Unit :=
  ⟨visits.map (told clock), clock.after (i + 2 * visits.length), ending fails⟩

theorem failureKind_ending (fails : Option Text) : failureKind id (ending fails) = fails := by
  cases fails <;> rfl

theorem map_told_beneath (clock : Clock) (n : Nat) (visits : List Visit) :
    (beneath n visits).map (told clock) = visits.map (told clock) := List.map_map ..

section Run

variable {name logger : Text} {inside : Body} {clock : Clock} {n i : Nat}
  {first later nested : List Visit} {fails : Option Text} {rest : Run Text Unit}

/-- A block reads the clock, does what is inside it, reads the clock again, reports and ends
as what is inside it did. -/
theorem timed_eq (done : inside.run (clock.after (i + 1)) =
      outcome clock (i + 1) nested inside.raises) :
    timed id name logger inside.run (clock.after i) = outcome clock i
      (beneath n nested ++ [visitAt n i name logger inside nested]) inside.raises := by
  have steps : timed id name logger inside.run (clock.after i) =
      let start := (clock.after i).read
      let inner := inside.run start.2
      let stop := inner.clock.read
      ⟨[] ++ (inner.events ++ ([] ++ ([.logged (report name logger (elapsed start.1 stop.1)
        (failureKind id inner.result))] ++ []))), stop.2, inner.result⟩ := rfl
  have count : i + 2 * (beneath n nested ++ [visitAt n i name logger inside nested]).length =
      i + 1 + 2 * nested.length + 1 := by
    simp only [List.length_append, length_beneath, List.length_singleton]
    omega
  simp only [steps, Clock.read_after, done, outcome, count, List.map_append, map_told_beneath,
    failureKind_ending, List.nil_append, List.append_nil]
  rfl

/-- What comes behind an operation that gave a value adds its visits. -/
theorem next_eq {α : Type} {front : Run Text α} {value : α}
    (before : front (clock.after i) =
      ⟨first.map (told clock), clock.after (i + 2 * first.length), .ok value⟩)
    (behind : rest (clock.after (i + 2 * first.length)) =
      outcome clock (i + 2 * first.length) later fails) :
    (front >>= fun _ => rest) (clock.after i) = outcome clock i (first ++ later) fails := by
  rw [Run.bind_of_ok (congrArg Outcome.result before), before, behind]
  simp only [outcome, List.map_append, List.length_append, Nat.mul_add, Nat.add_assoc]

end Run

/-- A body leaves behind the reports of its visits in their order, takes two readings for
each, and ends with its failure. -/
theorem run_eq (body : Body) (clock : Clock) (n i : Nat) :
    body.run (clock.after i) = outcome clock i (body.visits n i) body.raises := by
  induction body generalizing n i with
  | done fails => rfl
  | block name logger inside absorbed rest insideIH restIH =>
    let nested := inside.visits 0 (i + 1)
    let first := beneath n nested ++ [visitAt n i name logger inside nested]
    have count : i + 2 + 2 * nested.length = i + 2 * first.length := by
      simp only [first, List.length_append, length_beneath, List.length_singleton]
      omega
    have parts : (block name logger inside absorbed rest).visits n i = first ++
        if absorbed ∨ inside.raises = none then rest.visits (n + 1) (i + 2 * first.length)
        else [] := by
      rw [← count, List.append_assoc]
      rfl
    have own : timed id name logger inside.run (clock.after i) =
      outcome clock i first inside.raises := timed_eq (insideIH 0 (i + 1))
    have behind := restIH (n + 1) (i + 2 * first.length)
    rw [parts]
    -- What is behind the block is reached past an absorbed failure, or past none.
    cases absorbed with
    | true =>
      have absorbs : (timed id name logger inside.run).ended (clock.after i) =
          ⟨first.map (told clock), clock.after (i + 2 * first.length),
            .ok (ending inside.raises)⟩ := by
        simp only [Run.ended, own, outcome]
      rw [if_pos (.inl rfl)]
      exact next_eq absorbs behind
    | false =>
      cases raised : inside.raises with
      | none =>
        rw [raised] at own
        have whole : (block name logger inside false rest).raises = rest.raises := by
          simp [raises, raised]
        rw [if_pos (.inr rfl), whole]
        exact next_eq own behind
      | some kind =>
        rw [raised] at own
        have whole : (block name logger inside false rest).raises = some kind := by
          simp [raises, raised]
        rw [if_neg (by simp), List.append_nil, whole]
        show (timed id name logger inside.run >>= fun _ => rest.run) (clock.after i) = _
        rw [Run.bind_of_error (congrArg Outcome.result own), own]
        rfl

end Body

theorem run_block (name logger : Text) {fails : Option Text} {nested : List Block}
    (inside : (Body.ofBlocks nested fails).run =
      runAll nested >>= fun _ => Run.ofExcept (ending fails)) :
    (Block.block name logger fails nested).run =
      timed id name logger (Body.ofBlocks nested fails).run := by
  rw [Block.run.eq_def, inside]
  cases fails <;> rfl

/-- The body of blocks that a session runs absorbs every failure of theirs. -/
theorem run_ofBlocks (blocks : List Block) (fails : Option Text) :
    (Body.ofBlocks blocks fails).run = runAll blocks >>= fun _ => Run.ofExcept (ending fails) := by
  induction blocks, fails using Body.ofBlocks.induct with
  | case1 fails =>
    rw [Body.ofBlocks, runAll.eq_def]
    rfl
  | case2 name logger own nested rest fails nestedIH restIH =>
    have row : runAll (.block name logger own nested :: rest) =
        (Block.block name logger own nested).run.ended >>= fun _ => runAll rest := by
      conv_lhs => rw [runAll.eq_def]
    rw [Body.ofBlocks, Body.run, ← run_block name logger nestedIH, restIH, ← Run.next_assoc, row]

/-- The visits of a body, counted from its first block and its first reading on. -/
theorem visits_account (body : Body) : Accounts body (body.visits 0 0) where
  entered site := body.entered_iff 0 0 site
  once := by
    have laid := laid_visits body 0 0
    refine List.pairwise_map.mpr (laid.order.imp fun {first second} order same => ?_)
    exact order.outside (same ▸ List.prefix_rfl)
  order := (laid_visits body 0 0).order
  begun := (laid_visits body 0 0).begun
  readings := by
    rw [List.range_eq_range']
    exact (laid_visits body 0 0).readings

/-- Two blocks inside a third one, of which the first fails and that is absorbed. -/
example : let second := Body.block [] [] (.done none) false (.done none)
    let first := Body.block [] [] (.done (some [])) true second
    ((Body.block [] [] first false (.done none)).visits 0 0).map
      (fun visit => (visit.place, visit.start, visit.stop)) =
      [([0, 0], 1, 2), ([0, 1], 3, 4), ([0], 0, 5)] := by
  decide

/-- A body with any blocks inside each other, of which any may fail and any failure may be
absorbed, puts one record into the log for each block that it enters, in the order in which
these end. A block takes one reading of the clock when it starts and one when it ends, none of
them is taken by another block, and its record goes by these two and by its own failure. The
failure that nothing absorbed is that of the body. A block ends as what is inside it does, and
the blocks of a session are such bodies. -/
theorem nested_blocks_accounted (body : Body) (clock : Clock) :
    (∃ visits records, Accounts body visits ∧ List.Forall₂ (Visit.IsTold clock) visits records ∧
      body.run clock =
        ⟨records.map .logged, clock.after (2 * visits.length), ending body.raises⟩) ∧
    (∀ (ε α : Type) (kind : ε → Text) (name logger : Text) (operation : Run ε α),
      (timed kind name logger operation clock).result = (operation clock.read.2).result) ∧
    ∀ (name logger : Text) (fails : Option Text) (nested : List Block),
      (Block.block name logger fails nested).run =
        timed id name logger (Body.ofBlocks nested fails).run := by
  refine ⟨⟨body.visits 0 0, (body.visits 0 0).map fun visit => report visit.name visit.logger
    (elapsed (clock.reading visit.start) (clock.reading visit.stop)) visit.inside.raises,
    visits_account body, ?_, ?_⟩, fun _ _ _ _ _ _ => rfl, ?_⟩
  · refine List.forall₂_map_right_iff.mpr (List.forall₂_same.mpr fun visit _ => ?_)
    exact report_says ..
  · have whole := Body.run_eq body clock 0 0
    rw [Body.outcome, Nat.zero_add] at whole
    rw [List.map_map]
    exact whole
  · intro name logger fails nested
    exact run_block name logger (run_ofBlocks nested fails)

end Timer
end NamedSignal
