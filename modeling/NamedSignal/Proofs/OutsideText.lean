import NamedSignal.Proofs.CallRecords
import NamedSignal.Proofs.InlineText

/-!
Texts from outside in the records of a call. A message is in words of its own, numbers
and quoted texts, and has one text from outside as it is at most: the path of the log
file, the root, the target of a delivery, or why a delivery failed. So a record is as
well formed as that text, and has as many line ends.
-/
namespace NamedSignal

namespace Log.Record

/-- The message has the text as it is, among words that fit on a line. -/
structure Carries (r : Record) (text : Text) : Prop where
  logger : r.logger.isInline = true
  function : r.function.isInline = true
  message : ∃ front back, r.message = front ++ text ++ back ∧ front.isInline = true ∧
    back.isInline = true

namespace Carries

variable {r : Record} {text : Text}

/-- A message that fits on a line has no text from outside. -/
theorem of_inline (logger : r.logger.isInline = true) (function : r.function.isInline = true)
    (message : r.message.isInline = true) : r.Carries [] :=
  ⟨logger, function, r.message, [], by simp, message, rfl⟩

theorem isWellFormed_eq (carries : r.Carries text) : r.isWellFormed = text.isWellFormed := by
  obtain ⟨logger, function, front, back, message, begun, ended⟩ := carries
  have formed {t : Text} (inline : t.isInline = true) : t.isWellFormed = true :=
    (Text.isInline_iff.mp inline).1
  simp [Record.isWellFormed, message, formed logger, formed function, formed begun, formed ended]

theorem count_lineEnd (carries : r.Carries text) :
    r.message.count lineEnd = text.count lineEnd := by
  obtain ⟨-, -, front, back, message, begun, ended⟩ := carries
  simp [message, List.count_append, Text.count_lineEnd_of_inline begun,
    Text.count_lineEnd_of_inline ended]

end Carries
end Log.Record

namespace Timer

/-- The report of a block has no more than the name of the block from outside. -/
theorem report_carries {name logger : Text} (named : name.isInline = true)
    (within : logger.isInline = true) (milliseconds : Float) {failure : Option Text}
    (kind : ∀ text ∈ failure, text.isInline = true) :
    (report name logger milliseconds failure).Carries [] := by
  have function : reportFunction.isInline = true := by decide +kernel
  unfold report
  cases failure with
  | some text =>
    refine .of_inline within function ?_
    simp [named, kind text rfl, Text.ofString]
  | none =>
    simp only
    split
    · refine .of_inline within function ?_
      simp [named, Text.ofString]
    · refine .of_inline within function ?_
      simp [named, Text.ofString]

theorem failureKind_inline {α : Type} (result : Except Failure α) :
    ∀ text ∈ failureKind NamedSignal.failureKind result, text.isInline = true := by
  cases result with
  | ok value => simp [failureKind]
  | error failure => simp [failureKind]

end Timer

namespace Proc

theorem sourceLogger_inline : Source.logger.isInline = true := by decide +kernel

theorem dispatchLogger_inline : dispatchLogger.isInline = true := by decide +kernel

theorem notice_carries (target : Text) (delivery : Int × Int) :
    (notice target delivery).Carries target where
  logger := dispatchLogger_inline
  function := by simp [notice, Text.ofString]
  message := by
    refine ⟨Text.concat ["Sent signal ", Text.ofInt delivery.2, " to "],
      Text.concat [" (PID: ", Text.ofInt delivery.1, ")"], ?_, ?_, ?_⟩
    · simp [notice, Text.concat]
    · simp [Text.ofString]
    · simp [Text.ofString]

theorem nobody_carries (target : Text) : (nobody target).Carries [] := by
  refine .of_inline dispatchLogger_inline ?_ ?_
  · simp [nobody, Text.ofString]
  · simp [nobody, Text.ofString]

/-- The record that tells of a root. -/
def announcement (root : Text) : Log.Record :=
  ⟨.debug, Source.logger, "__init__", Text.concat ["ProcessSource initialized (root=", root, ")"]⟩

theorem announcement_carries (root : Text) : (announcement root).Carries root where
  logger := sourceLogger_inline
  function := by simp [announcement, Text.ofString]
  message := ⟨"ProcessSource initialized (root=", ")", by simp [announcement, Text.concat],
    by decide +kernel, by decide +kernel⟩

/-- Looking processes up tells of the root as it is, and of nothing else. -/
theorem Source.Shows.carries {root : Text} {record : Log.Record}
    (shows : Source.Shows root (.logged record)) : record.Carries [] ∨ record.Carries root := by
  cases shows with
  | counted found entries =>
    refine .inr ⟨sourceLogger_inline, ?_, Text.concat ["Enumerated ", Text.ofNat found,
      " processes from ", Text.ofNat entries, " entries in "], [], ?_, ?_, rfl⟩
    · simp [Text.ofString]
    · simp [Text.concat]
    · simp [Text.ofString]
  | recovered pid name recovered =>
    refine .inl (.of_inline sourceLogger_inline ?_ ?_)
    · simp [Text.ofString]
    · simp [Text.ofString]
  | gone pid =>
    refine .inl (.of_inline dispatchLogger_inline ?_ ?_)
    · simp [Text.ofString]
    · simp [Text.ofString]
  | timed milliseconds result =>
    exact .inl (Timer.report_carries (by decide +kernel) (by decide +kernel) milliseconds
      (Timer.failureKind_inline result))

/-- What is seen of a pass: a record has no text from outside or the root, or it is the
notice of a delivery. -/
inductive Told (root target : Text) : Event → Prop where
  | wordless {event : Event} (silent : event.record? = none) : Told root target event
  | framed {record : Log.Record} (carries : record.Carries [] ∨ record.Carries root) :
      Told root target (.logged record)
  | notice (delivery : Int × Int) : Told root target (.logged (Proc.notice target delivery))

section Pass

variable (host : Host) (source : Source) (target : Text) (signal : Int) (ignoreVanished : Bool)

theorem told_of_shows {root : Text} (event : Event) (shows : Source.Shows root event) :
    ∀ seen ∈ [event], Told root target seen := by
  refine List.forall_mem_singleton.mpr ?_
  cases event with
  | logged record => exact .framed shows.carries
  | _ => exact .wordless rfl

theorem log_told {root : Text} {record : Log.Record} (told : Told root target (.logged record)) :
    (Run.emit (.logged record) : Action Unit).Leaves
      fun events => ∀ event ∈ events, Told root target event :=
  Run.leaves_emit (by simpa using told)

theorem signalEach_told (handles : List Handle) :
    (source.signalEach host target signal ignoreVanished handles).Leaves
      fun events => ∀ event ∈ events, Told source.root target event := by
  have dealt (delivery : Int × Int) :
      ∀ event ∈ dealing target delivery, Told source.root target event :=
    List.forall_mem_cons.mpr ⟨.wordless rfl, List.forall_mem_singleton.mpr (.notice delivery)⟩
  exact signalEach_leaves host source target signal ignoreVanished
    (Event.Additive.each (Told source.root target)) dealt (told_of_shows target) handles

theorem reportPass_told {root : Text} {body : Action (List Int)}
    (leaves : body.Leaves fun events => ∀ event ∈ events, Told root target event) :
    (reportPass target signal body).Leaves
      fun events => ∀ event ∈ events, Told root target event := by
  have additive := Event.Additive.each (Told root target)
  have called : Told root target (.logged ⟨.debug, dispatchLogger, "signal_by_name",
      Text.concat ["signal_by_name called (name=", target.quoted, ", signal=",
        Text.ofInt signal, ")"]⟩) := by
    refine .framed (.inl (.of_inline dispatchLogger_inline ?_ ?_))
    · simp [Text.ofString]
    · simp [Text.ofString]
  have named : (Text.concat ["signal_by_name(", target.quoted, ")"]).isInline = true := by
    simp [Text.ofString]
  refine Run.Leaves.bind additive (log_told target called) fun _ => ?_
  refine Run.Leaves.bind additive ?_ fun signaled => ?_
  · refine Timer.timed_leaves additive leaves fun milliseconds result => ?_
    have reported := Timer.report_carries named dispatchLogger_inline milliseconds
      (Timer.failureKind_inline result)
    simpa using Told.framed (.inl reported)
  · split
    · refine Run.Leaves.bind additive (log_told target ?_) fun _ => Run.leaves_pure additive _
      exact .framed (.inl (nobody_carries target))
    · exact Run.leaves_pure additive _

/-- Signaling by name begins with the record of its root. -/
theorem signalProcesses_start (environment : Environment) (root : Option Text) :
    signalProcesses host environment target signal root ignoreVanished =
      Source.announce (root.getD (recordsRoot environment)) >>= fun _ =>
        Source.signalByName host ⟨root.getD (recordsRoot environment)⟩ target signal
          ignoreVanished := rfl

theorem announce_bind_events (root : Text) (rest : Unit → Action (List Int)) (clock : Clock) :
    ((Source.announce root >>= rest) clock).events =
      .logged (announcement root) :: (rest () clock).events := by
  have told : (Source.announce root clock).result = .ok () := rfl
  rw [Run.bind_of_ok told]
  rfl

theorem signalProcesses_announces (environment : Environment) (root : Option Text) (clock : Clock) :
    ∃ rest, (signalProcesses host environment target signal root ignoreVanished clock).events =
      .logged (announcement (root.getD (recordsRoot environment))) :: rest := by
  rw [signalProcesses_start]
  exact ⟨_, announce_bind_events ..⟩

/-- Signaling by name tells of its root and of its target. -/
theorem signalProcesses_told (environment : Environment) (root : Option Text) :
    (signalProcesses host environment target signal root ignoreVanished).Leaves
      fun events => ∀ event ∈ events, Told (root.getD (recordsRoot environment)) target event := by
  have additive := Event.Additive.each (Told (root.getD (recordsRoot environment)) target)
  have announced := log_told target (.framed (.inr (announcement_carries
    (root.getD (recordsRoot environment)))))
  rw [signalProcesses_start]
  refine Run.Leaves.bind additive announced fun _ => ?_
  refine reportPass_told target signal ?_
  refine Run.Leaves.bind additive ?_ fun handles => ?_
  · exact Source.enumerate_leaves additive (told_of_shows target) host
  · exact signalEach_told host ⟨root.getD (recordsRoot environment)⟩ target signal ignoreVanished
      handles

theorem signalNowhere_told : (signalNowhere target signal).Leaves
    fun events => ∀ event ∈ events, Told "[]" target event := by
  have additive := Event.Additive.each (Told "[]" target)
  have announced := log_told target (.framed (.inr (announcement_carries "[]")))
  refine Run.Leaves.bind additive announced fun _ => ?_
  refine reportPass_told target signal ?_
  refine Run.Leaves.bind additive ?_ fun _ => Run.leaves_pure additive _
  exact Source.enumeration_leaves additive (told_of_shows target) (Run.leaves_fail additive _)

end Pass

end Proc

/-- The reason that the host gives for a delivery that failed. -/
def Failure.reasons : Failure → List Text
  | undelivered _ _ _ reason _ => [reason]
  | _ => []

namespace Program

/-- The root that a call tells of. -/
def Plan.rootText (plan : Plan) (environment : Environment) : Text :=
  match plan.root with
  | none => recordsRoot environment
  | some (.word root) => root
  | some .nothing => "[]"

section Records

variable {state : State} {line : List Text} {plan : Plan} (host : Host) (environment : Environment)

theorem pass_told (plan : Plan) : (pass host environment plan).Leaves
    fun events => ∀ event ∈ events, Proc.Told (plan.rootText environment) plan.target event := by
  unfold pass Plan.rootText
  match plan.root with
  | none => exact Proc.signalProcesses_told host _ _ _ environment none
  | some (.word root) => exact Proc.signalProcesses_told host _ _ _ environment (some root)
  | some .nothing => exact Proc.signalNowhere_told _ _

/-- A pass begins with the record of its root. -/
theorem pass_announces (plan : Plan) (clock : Clock) :
    ∃ rest, (pass host environment plan clock).events =
      .logged (Proc.announcement (plan.rootText environment)) :: rest := by
  unfold pass Plan.rootText
  match plan.root with
  | none => exact Proc.signalProcesses_announces host _ _ _ environment none clock
  | some (.word root) =>
    exact Proc.signalProcesses_announces host _ _ _ environment (some root) clock
  | some .nothing => exact ⟨_, Proc.announce_bind_events "[]" _ clock⟩

theorem rootLogger_inline : Log.rootLogger.isInline = true := by decide +kernel

theorem mainFunction_inline : mainFunction.isInline = true := by decide +kernel

theorem opening_carries (path : Path.Normal) :
    (Log.Logbook.opening path).Carries path.toText where
  logger := rootLogger_inline
  function := by simp [Log.Logbook.opening, Text.ofString]
  message := ⟨"Logging initialized. Log file: ", [], by simp [Log.Logbook.opening, Text.concat],
    by decide +kernel, rfl⟩

theorem summary_carries (target : Text) (count : Nat) : (summary target count).Carries [] := by
  refine .of_inline rootLogger_inline mainFunction_inline ?_
  simp [summary, Text.ofString]

/-- The report of a failure has the reason of a failed delivery as it is, and of any
other failure a sentence and a quoted path. -/
theorem failureReport_carries (target : Text) (failure : Failure) :
    (failureReport target failure).Carries (failure.reasons.headD []) := by
  cases failure with
  | undelivered pid signal errno reason cause =>
    refine ⟨rootLogger_inline, mainFunction_inline, Text.concat ["Failed to signal ",
      target.quoted, ": ", "[Errno ", Text.ofInt errno.code, "] ", "Cannot send signal ",
      Text.ofInt signal, " to PID ", Text.ofInt pid, ": "], [], ?_, ?_, rfl⟩
    · simp [failureReport, Failure.message, Failure.hostMessage, Failure.deliverySentence,
        Failure.reasons, Text.concat]
    · simp [Text.ofString]
  | host errno path =>
    refine .of_inline rootLogger_inline mainFunction_inline ?_
    cases path with
    | none => simp [failureReport, Failure.message, Failure.hostMessage, Text.ofString]
    | some path => simp [failureReport, Failure.message, Failure.hostMessage, Text.ofString]
  | _ =>
    refine .of_inline rootLogger_inline mainFunction_inline ?_
    simp [failureReport, Failure.message, Text.ofString]

/-- The texts from outside that the records of a call with a log file have as they are:
the path of the file, the root, the target if anything is delivered, and the reason of a
delivery that failed. -/
def unquoted (state : State) (host : Host) (environment : Environment) (line : List Text)
    (plan : Plan) (file : Text) : List Text :=
  [(Path.Normal.ofText file).toText, plan.rootText environment] ++
    (if (call state host environment line).1.events.filterMap Event.delivery? = [] then []
      else [plan.target]) ++
    match plan.result host environment with
    | .ok _ => []
    | .error failure => failure.reasons

/-- The records of a first call with a log file: that the file is open, those of the pass,
and how it went. -/
theorem recordsOf_eq {file : Text} (reaches : Reaches state line plan)
    (fresh : state.book.isSetUp = false) (asked : plan.logFile = some (.word file)) :
    recordsOf state host environment line plan =
      Log.Logbook.opening (Path.Normal.ofText file) ::
        (pass host environment plan state.clock).events.filterMap Event.record? ++
        closing plan.target (plan.result host environment) := by
  have events := (answer_of_reaches host environment reaches).1
  have said : (closing plan.target (plan.result host environment)).filterMap
      (Event.record? ∘ Event.logged) = closing plan.target (plan.result host environment) :=
    List.filterMap_some
  rw [recordsOf, events, carryOut_events, pass_result, List.filterMap_append, List.filterMap_map,
    said]
  simp [openingRecords, asked, fresh]

/-- A record has no text from outside but one that is unquoted. -/
theorem carries_unquoted {file : Text} (reaches : Reaches state line plan)
    (fresh : state.book.isSetUp = false) (asked : plan.logFile = some (.word file)) :
    ∀ record ∈ recordsOf state host environment line plan,
      ∃ text ∈ [] :: unquoted state host environment line plan file, record.Carries text := by
  have whole := recordsOf_eq host environment reaches fresh asked
  intro record member
  have listed := member
  rw [whole, List.cons_append, List.mem_cons, List.mem_append] at member
  rcases member with opened | passed | closed
  · subst opened
    exact ⟨_, by simp [unquoted], opening_carries _⟩
  · obtain ⟨event, within, said⟩ := List.mem_filterMap.mp passed
    cases pass_told host environment plan state.clock event within with
    | wordless silent => simp [silent] at said
    | framed carries =>
      cases said
      rcases carries with bare | rooted
      · exact ⟨[], by simp, bare⟩
      · exact ⟨_, by simp [unquoted], rooted⟩
    | notice delivery =>
      cases said
      -- There is a notice only where there is a delivery.
      have told : Proc.notice plan.target delivery ∈
          (recordsOf state host environment line plan).filter (·.opensWith .info "Sent signal ") := by
        refine List.mem_filter.mpr ⟨listed, ?_⟩
        simp [Log.Record.opensWith, Proc.notice, Text.concat]
      rw [notices_of_reaches host environment reaches] at told
      have sent : (call state host environment line).1.events.filterMap Event.delivery? ≠ [] := by
        intro none
        simp [none] at told
      exact ⟨plan.target, by simp [unquoted, sent], Proc.notice_carries _ _⟩
  · refine closing_each (q := fun record => ∃ text ∈ [] :: unquoted state host environment line
      plan file, record.Carries text) ?_ ?_ record closed
    · intro signaled whole
      exact ⟨[], by simp, summary_carries _ _⟩
    · intro failure failed hostError
      refine ⟨failure.reasons.headD [], ?_, failureReport_carries _ _⟩
      cases failure <;> simp [unquoted, failed, Failure.reasons]

/-- Each unquoted text stands in a record. -/
theorem unquoted_carried {file : Text} (reaches : Reaches state line plan)
    (fresh : state.book.isSetUp = false) (asked : plan.logFile = some (.word file)) :
    ∀ text ∈ unquoted state host environment line plan file,
      ∃ record ∈ recordsOf state host environment line plan, record.Carries text := by
  have whole := recordsOf_eq host environment reaches fresh asked
  intro text member
  simp only [unquoted, List.mem_append] at member
  rcases member with (shown | sent) | reason
  · simp only [List.mem_cons, List.not_mem_nil, or_false] at shown
    rcases shown with rfl | rfl
    · exact ⟨_, by simp [whole], opening_carries _⟩
    · obtain ⟨rest, begun⟩ := pass_announces host environment plan state.clock
      exact ⟨_, by simp [whole, begun, Event.record?], Proc.announcement_carries _⟩
  · cases deliveries : (call state host environment line).1.events.filterMap Event.delivery? with
    | nil => simp [deliveries] at sent
    | cons delivery others =>
      rw [deliveries, if_neg (List.cons_ne_nil _ _), List.mem_singleton] at sent
      subst sent
      have told := notices_of_reaches host environment reaches
      rw [deliveries, List.map_cons] at told
      have within := List.mem_filter.mp (told ▸ List.mem_cons_self ..)
      exact ⟨_, within.1, Proc.notice_carries _ delivery⟩
  · cases failed : plan.result host environment with
    | ok signaled => simp [failed] at reason
    | error failure =>
      simp only [failed] at reason
      have reported : failure.isHostError = true := by
        cases failure <;> simp_all [Failure.reasons, Failure.isHostError]
      have carries := failureReport_carries plan.target failure
      have only : failure.reasons.headD [] = text := by
        cases failure <;> simp_all [Failure.reasons]
      exact ⟨_, by simp [whole, failed, closing, reported], only ▸ carries⟩

end Records
end Program
end NamedSignal
