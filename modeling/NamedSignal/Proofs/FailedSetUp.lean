import NamedSignal.Proofs.CallRecords
import NamedSignal.Proofs.LogHistory

/-!
Setting a logbook up is not all or nothing. The console is attached before the file is
opened, and stays if that fails; from then on the logbook counts as set up. So a file that
could be used is not attached any more, however often it is asked for.
-/
namespace NamedSignal

namespace Log.Logbook

variable {book : Logbook} {level : Level} {file : Option Text} {fault : SetUpFault}

/-- Only where there are no handlers yet, a file that is asked for can stop a logbook from
being set up, and then it has no place. -/
theorem bare_of_failed (failed : (book.setUp level file).1 = .error fault) :
    book.handlers = [] ∧ book.logPlace? file = none := by
  obtain ⟨fresh, path, rfl, refusal, unopened⟩ :=
    (setUp_error_iff book level file).mp ⟨fault, failed⟩
  exact ⟨handlers_eq_nil_iff.mpr fresh, logPlace?_of_failed unopened⟩

end Log.Logbook

namespace Program

variable {state : State} {level : Log.Level} {file : Option Text} {fault : Log.SetUpFault}

/-- A logbook that could not be set up is left with a console, and no file is written. -/
theorem State.step_failed (sound : state.book.Sound)
    (failed : (state.book.setUp level file).1 = .error fault) :
    let left := (state.step (.setUp level file)).2
    left.book.handlers = [.console level] ∧
      ∀ place, left.book.workspace.file? place = state.book.workspace.file? place := by
  intro left
  obtain ⟨bare, nowhere⟩ := Log.Logbook.bare_of_failed failed
  have handlers : left.book.handlers = [.console level] := by
    have after := step_handlers state (.setUp level file)
    simpa only [bare, ↓reduceIte, Step.asks, nowhere, Option.toList_none, List.map_nil] using after
  refine ⟨handlers, fun place => ?_⟩
  have unfiled : .file place ∉ left.book.handlers := by simp [handlers]
  have written := step_file? sound (.setUp level file) place
  rwa [if_neg unfiled] at written

/-- Setting a logbook up that is set up already does nothing. -/
theorem State.step_setUp_again (ready : state.book.isSetUp = true) (level : Log.Level)
    (file : Option Text) : state.step (.setUp level file) = (⟨.setUp (.ok ()), []⟩, state) := by
  simp only [step, Log.Logbook.setUp, ready, ↓reduceIte]

/-- If a logbook cannot be set up it had no handlers and has a console afterwards. Setting
it up once more seems to succeed and changes nothing, also with a level and a file that
would both have been attached before; and whatever is done later, there will be the
console alone and no file is written. -/
theorem failed_setUp_lasts (sound : state.book.Sound)
    (failed : (state.book.setUp level file).1 = .error fault) :
    let left := (state.step (.setUp level file)).2
    (state.book.handlers = [] ∧ left.book.handlers = [.console level]) ∧
    (∀ again path place, state.book.logPlace? (some path) = some place →
      (state.step (.setUp again (some path))).2.book.handlers = [.console again, .file place]) ∧
    (∀ again path, left.step (.setUp again path) = (⟨.setUp (.ok ()), []⟩, left)) ∧
    ∀ run, (left.steps run).2.book.handlers = [.console level] ∧
      ∀ place, (left.steps run).2.book.workspace.file? place =
        state.book.workspace.file? place := by
  intro left
  obtain ⟨bare, -⟩ := Log.Logbook.bare_of_failed failed
  obtain ⟨handlers, files⟩ := State.step_failed sound failed
  have later : left.book.Sound := State.step_sound sound _
  have attached : left.book.handlers ≠ [] := by
    rw [handlers]
    simp
  refine ⟨⟨bare, handlers⟩, ?_, ?_, ?_⟩
  · intro again path place usable
    have after := State.step_handlers state (.setUp again (some path))
    simpa only [bare, ↓reduceIte, Step.asks, usable, Option.toList_some, List.map_cons,
      List.map_nil] using after
  · exact State.step_setUp_again (Log.Logbook.isSetUp_iff.mpr attached)
  · intro run
    have stays := (State.steps_handlers attached run).trans handlers
    refine ⟨stays, fun place => ?_⟩
    have untouched := State.steps_untouched later run place
    rw [stays] at untouched
    exact (untouched.resolve_left (by simp)).trans (files place)

/-- The working directory is no file that a log can be put into. -/
theorem directory_setUp_lasts :
    let left := (freshState.step (.setUp .info (some "."))).2
    (freshState.book.setUp .info (some ".")).1 = .error (.refused .isDirectory "/w") ∧
    ∀ run, (left.steps run).2.book.handlers = [.console .info] ∧
      ∀ place, (left.steps run).2.book.workspace.file? place = none := by
  intro left
  have sound : freshState.book.Sound := .bare rfl
  have failed : (freshState.book.setUp .info (some ".")).1 =
      .error (.refused .isDirectory "/w") := by decide +kernel
  obtain ⟨-, -, -, lasts⟩ := failed_setUp_lasts sound failed
  exact ⟨failed, lasts⟩

/-- A log file that can be used is not attached after one that cannot, so setting a
logbook up is not all or nothing. -/
theorem usable_file_unattached :
    let left := (freshState.step (.setUp .info (some "."))).2
    let retried := (left.step (.setUp .info (some "log"))).2
    ((freshState.book.setUp .info (some ".")).1 = .error (.refused .isDirectory "/w") ∧
      freshState.book.handlers = [] ∧ left.book.handlers = [.console .info] ∧
      left.book.logPlace? (some "log") = some (["w", "log"] : Place) ∧
      retried.book.handlers = [.console .info]) ∧
    ¬ ∀ (state : State) (level : Log.Level) (file : Option Text) (fault : Log.SetUpFault),
      state.book.Sound → (state.book.setUp level file).1 = .error fault →
      let left := (state.step (.setUp level file)).2
      left.book.handlers = state.book.handlers ∧
        ∀ again path place, left.book.logPlace? (some path) = some place →
          (left.step (.setUp again (some path))).2.book.handlers =
            [.console again, .file place] := by
  intro left retried
  have bare : freshState.book.handlers = [] := rfl
  have sound : freshState.book.Sound := .bare bare
  have failed : (freshState.book.setUp .info (some ".")).1 =
      .error (.refused .isDirectory "/w") := by decide +kernel
  obtain ⟨handlers, -⟩ := State.step_failed sound failed
  have retry : retried.book.handlers = [.console .info] := by decide +kernel
  refine ⟨⟨failed, bare, handlers, by decide +kernel, retry⟩, fun all => ?_⟩
  obtain ⟨kept, -⟩ := all freshState .info (some ".") _ sound failed
  rw [handlers, bare] at kept
  cases kept

end Program
end NamedSignal
