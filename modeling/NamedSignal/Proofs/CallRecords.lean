import NamedSignal.Proofs.CallStatus
import NamedSignal.Proofs.DeliveryNotices
import NamedSignal.Proofs.ListingOrder

/-!
The records of a call that comes to its pass. They tell what was done and how it
went: one notice for each delivery, one error exactly if the call ends in failure
and then as the last record, and the number of deliveries as the last record if
it ends in success.
-/
namespace NamedSignal

namespace Proc.Pass

/-- Among all that a pass does its deliveries are the ones it is said to make. -/
theorem deeds_deliveries (pass : Pass) : pass.deeds.filterMap Event.delivery? = pass.deliveries := by
  rw [← run_deliveries pass ⟨[]⟩, Outcome.deliveries_eq_deeds, (run_does pass).deeds_eq]

end Proc.Pass

namespace Program

/-- The call is understood, and its log is ready for the pass. -/
inductive Reaches (state : State) (line : List Text) : Plan → Prop where
  | intro {options : Options} {plan : Plan} (asked : Options.parse line = .ok (.run options))
      (planned : Program.plan state.book.workspace options = .ok plan)
      (ready : (setUp state.book plan).1 = .ok ()) : Reaches state line plan

/-- The record that sums up a whole pass. -/
def summary (target : Text) (count : Nat) : Log.Record :=
  ⟨.info, Log.rootLogger, mainFunction,
    Text.concat ["Signaled ", Text.ofNat count, " process(es) named ", target.quoted]⟩

/-- The record that reports a failed pass. -/
def failureReport (target : Text) (failure : Failure) : Log.Record :=
  ⟨.error, Log.rootLogger, mainFunction,
    Text.concat ["Failed to signal ", target.quoted, ": ", failure.message]⟩

/-- What a call says of its pass. -/
def closing (target : Text) : Except Failure (List Int) → List Log.Record
  | .ok signaled => [summary target signaled.length]
  | .error failure => if failure.isHostError then [failureReport target failure] else []

/-- What is said while the log is set up: that its file is open, if it is now. -/
def openingRecords (book : Log.Logbook) (plan : Plan) : List Log.Record :=
  match plan.logFile with
  | some (.word file) =>
    if book.isSetUp then [] else [Log.Logbook.opening (Path.Normal.ofText file)]
  | _ => []

section Words

variable {target : Text} {result : Except Failure (List Int)}

/-- What holds of the summary and of the report of a failure holds of the closing. -/
theorem closing_each {q : Log.Record → Prop}
    (sums : ∀ signaled, result = .ok signaled → q (summary target signaled.length))
    (reports : ∀ failure, result = .error failure → failure.isHostError = true →
      q (failureReport target failure)) : ∀ record ∈ closing target result, q record := by
  intro record member
  cases result with
  | ok signaled =>
    cases List.mem_singleton.mp member
    exact sums signaled rfl
  | error failure =>
    cases hostError : failure.isHostError with
    | true =>
      simp only [closing, hostError, ↓reduceIte, List.mem_singleton] at member
      exact member ▸ reports failure rfl hostError
    | false => simp [closing, hostError] at member

/-- A pass says farewell only if it found nobody. -/
theorem farewell_each {q : Log.Record → Prop} (told : q (Proc.nobody target)) :
    ∀ record ∈ Proc.farewell target result, q record := by
  unfold Proc.farewell
  split
  · simpa using told
  · simp

/-- Setting up the log is no news. -/
theorem openingRecords_quiet (book : Log.Logbook) (plan : Plan) :
    ∀ record ∈ openingRecords book plan, (Event.logged record).isBackground = true := by
  unfold openingRecords
  split
  · split
    · simp
    · rintro record (member : record ∈ [_])
      cases List.mem_singleton.mp member
      rfl
  · simp

theorem filter_openingRecords (book : Log.Logbook) (plan : Plan) (opening : Text) :
    (openingRecords book plan).filter (·.opensWith .info opening) = [] := by
  refine List.filter_eq_nil_iff.mpr fun record member => ?_
  have quiet := openingRecords_quiet book plan record member
  simp [(Log.Record.plain_of_background quiet opening).1]

/-- A call ends in failure exactly if its pass fails for a reason of the host's. -/
theorem endingFor_failure_iff : (endingFor result).status? = some 1 ↔
    ∃ failure, result = .error failure ∧ failure.isHostError = true := by
  cases result with
  | ok signaled => simp [endingFor, Ending.status?]
  | error failure =>
    cases hostError : failure.isHostError <;> simp [endingFor, Ending.status?, hostError]

/-- A call ends in success exactly if its pass is whole. -/
theorem endingFor_success_iff : (endingFor result).status? = some 0 ↔
    ∃ signaled, result = .ok signaled := by
  cases result with
  | ok signaled => simp [endingFor, Ending.status?]
  | error failure =>
    cases hostError : failure.isHostError <;> simp [endingFor, Ending.status?, hostError]

end Words

section Call

variable {state : State} {line : List Text} {plan : Plan} (host : Host) (environment : Environment)

/-- A call reports what its pass does, and then how it went. -/
theorem carryOut_events (clock : Clock) :
    (carryOut host environment plan clock).events =
      (pass host environment plan clock).events ++
        (closing plan.target (pass host environment plan clock).result).map Event.logged := by
  have passed : ((pass host environment plan).ended clock).result =
      .ok (pass host environment plan clock).result := rfl
  unfold carryOut
  rw [Run.bind_of_ok passed]
  refine congrArg₂ _ rfl ?_
  cases (pass host environment plan clock).result with
  | ok signaled => rfl
  | error failure =>
    cases hostError : failure.isHostError <;> simp only [verdict, closing, hostError] <;> rfl

/-- All that a pass does is accounted for, up to its farewell. -/
theorem pass_accounted (plan : Plan) :
    Proc.AccountedTo plan.target (pass host environment plan) := by
  unfold pass
  have beneath := Proc.signalProcesses_accounted host plan.target plan.signal
    plan.ignoreVanished environment
  match plan.root with
  | none => exact beneath none
  | some (.word root) => exact beneath (some root)
  | some .nothing => exact Proc.signalNowhere_accounted plan.target plan.signal

theorem call_of_reaches (reaches : Reaches state line plan) :
    call state host environment line = execute state host environment plan := by
  obtain ⟨asked, planned, -⟩ := reaches
  simp only [call, asked, planned]

/-- What is seen of a call that comes to its pass. -/
theorem answer_of_reaches (reaches : Reaches state line plan) :
    let answer := (call state host environment line).1
    answer.events = (carryOut host environment plan state.clock).events ∧
      answer.ending = endingFor (pass host environment plan state.clock).result := by
  intro answer
  have executed : answer = (execute state host environment plan).1 :=
    congrArg Prod.fst (call_of_reaches host environment reaches)
  have ending := execute_ending state host environment plan
  obtain ⟨-, -, ready⟩ := reaches
  rw [ready, ← pass_result host environment plan state.clock] at ending
  rw [executed]
  refine ⟨?_, ending⟩
  unfold execute
  match setUp state.book plan, ready with
  | (.ok (), shown, book), _ => rfl

/-- A whole pass returns what it delivers to. -/
theorem pass_deliveries {clock : Clock} {signaled : List Int}
    (whole : (pass host environment plan clock).result = .ok signaled) :
    (pass host environment plan clock).deliveries =
      signaled.map fun pid => (pid, plan.signal) := by
  have ended := pass_result host environment plan clock
  rw [whole] at ended
  unfold Plan.result at ended
  cases rooted : plan.pass? host environment with
  | none => simp [rooted] at ended
  | some asked =>
    rw [rooted] at ended
    have signal : asked.signal = plan.signal := by
      unfold Plan.pass? at rooted
      match plan.root, rooted with
      | none, rfl => rfl
      | some (.word root), rfl => rfl
    rw [Outcome.deliveries_eq_deeds, (pass_does rooted).deeds_eq, Proc.Pass.deeds_deliveries,
      Proc.Pass.deliveries_of_whole ended.symm, signal]

/-- Words deliver nothing, and are the records that they are. -/
private theorem views_of_words (words : List Log.Record) :
    (words.map Event.logged).filterMap Event.delivery? = [] ∧
      (words.map Event.logged).filterMap Event.record? = words := by
  rw [List.filterMap_map, List.filterMap_map]
  exact ⟨List.filterMap_eq_nil_iff.mpr fun _ _ => rfl, List.filterMap_some⟩

theorem filter_of_words {p : Event → Bool} {words : List Log.Record}
    (silent : ∀ record ∈ words, p (.logged record) = false) :
    (words.map Event.logged).filter p = [] := by
  refine List.filter_eq_nil_iff.mpr fun event member => ?_
  obtain ⟨record, within, rfl⟩ := List.mem_map.mp member
  simpa using silent record within

/-- The events and the records of a call, told from the account of its pass. -/
theorem account_of_reaches (reaches : Reaches state line plan) :
    let answer := (call state host environment line).1
    let passed := pass host environment plan state.clock
    ∃ account, Proc.Accounted plan.target account ∧
      answer.events.filter Event.isDealing = account.filter Event.isDealing ∧
      answer.events.filterMap Event.delivery? = account.filterMap Event.delivery? ∧
      answer.events.filterMap Event.delivery? = passed.deliveries ∧
      passed.events.filterMap Event.record? =
        account.filterMap Event.record? ++ Proc.farewell plan.target passed.result ∧
      answer.events.filterMap Event.record? =
        passed.events.filterMap Event.record? ++ closing plan.target passed.result := by
  intro answer passed
  obtain ⟨account, accounts, upTo⟩ := pass_accounted host environment plan state.clock
  have whole : answer.events =
      passed.events ++ (closing plan.target passed.result).map Event.logged :=
    (answer_of_reaches host environment reaches).1.trans (carryOut_events ..)
  have first : passed.events =
      account ++ (Proc.farewell plan.target passed.result).map Event.logged := upTo
  -- Farewell and closing are words, so all dealings are in the account.
  have farewellSilent : ((Proc.farewell plan.target passed.result).map Event.logged).filter
      Event.isDealing = [] := filter_of_words (farewell_each rfl)
  have closingSilent : ((closing plan.target passed.result).map Event.logged).filter
      Event.isDealing = [] := filter_of_words (closing_each (fun _ _ => rfl) fun _ _ _ => rfl)
  obtain ⟨farewellSends, farewellRecords⟩ :=
    views_of_words (Proc.farewell plan.target passed.result)
  obtain ⟨closingSends, closingRecords⟩ := views_of_words (closing plan.target passed.result)
  have sends : answer.events.filterMap Event.delivery? = passed.deliveries := by
    rw [whole, List.filterMap_append, closingSends, List.append_nil]
    rfl
  refine ⟨account, accounts, ?_, ?_, sends, ?_, ?_⟩
  · rw [whole, first, List.filter_append, List.filter_append, farewellSilent, closingSilent,
      List.append_nil, List.append_nil]
  · rw [whole, first, List.filterMap_append, List.filterMap_append, farewellSends, closingSends,
      List.append_nil, List.append_nil]
  · rw [first, List.filterMap_append, farewellRecords]
  · rw [whole, List.filterMap_append, closingRecords]

/-- All that a call with a plan puts into the log, from setting it up on. -/
def recordsOf (state : State) (host : Host) (environment : Environment) (line : List Text)
    (plan : Plan) : List Log.Record :=
  openingRecords state.book plan ++
    (call state host environment line).1.events.filterMap Event.record?

/-- What holds of details, of news and of reports holds of all records of a call. -/
theorem recordsOf_each {q : Log.Record → Prop}
    (quiet : ∀ record, (Event.logged record).isBackground = true → q record)
    (news : ∀ record, record.level = .info → q record)
    (reports : ∀ failure, q (failureReport plan.target failure))
    (reaches : Reaches state line plan) :
    ∀ record ∈ recordsOf state host environment line plan, q record := by
  obtain ⟨account, accounts, -, -, -, first, whole⟩ := account_of_reaches host environment reaches
  intro record member
  rw [recordsOf, whole, first, List.mem_append, List.mem_append, List.mem_append] at member
  rcases member with opened | (told | last) | closed
  · exact quiet record (openingRecords_quiet _ _ record opened)
  · exact accounts.each_record quiet (fun _ => news _ rfl) record told
  · exact farewell_each (news _ rfl) record last
  · exact closing_each (fun _ _ => news _ rfl) (fun _ _ _ => reports _) record closed

/-- The records of a call end with the closing, and none before it is an error. -/
theorem recordsOf_split (reaches : Reaches state line plan) :
    let passed := pass host environment plan state.clock
    ∃ before, recordsOf state host environment line plan =
        before ++ closing plan.target passed.result ∧
      (∀ record ∈ before, record.level < .error) ∧
      ∀ record ∈ passed.events.filterMap Event.record?, record.level < .error := by
  intro passed
  obtain ⟨account, accounts, -, -, -, first, whole⟩ := account_of_reaches host environment reaches
  have news : Log.Level.info < Log.Level.error := by decide
  have during : ∀ record ∈ passed.events.filterMap Event.record?, record.level < .error := by
    intro record member
    rw [first] at member
    rcases List.mem_append.mp member with told | last
    · exact accounts.level_lt_error record told
    · exact farewell_each (q := fun record => record.level < .error) news record last
  refine ⟨openingRecords state.book plan ++ passed.events.filterMap Event.record?, ?_, ?_, during⟩
  · rw [recordsOf, whole, List.append_assoc]
  · intro record member
    rcases List.mem_append.mp member with opened | told
    · exact (Log.Record.plain_of_background (openingRecords_quiet _ _ record opened) []).2
    · exact during record told

/-- That nobody was found is told by the farewell of the pass alone. -/
theorem recordsOf_nobody (reaches : Reaches state line plan) :
    (recordsOf state host environment line plan).filter (·.opensWith .info "No process named ") =
      Proc.farewell plan.target (pass host environment plan state.clock).result := by
  obtain ⟨account, accounts, -, -, -, first, whole⟩ := account_of_reaches host environment reaches
  generalize (pass host environment plan state.clock).result = result at first whole ⊢
  have silent : (account.filterMap Event.record?).filter
      (·.opensWith .info "No process named ") = [] := by
    simpa using accounts.not_nobody
  have last : (closing plan.target result).filter (·.opensWith .info "No process named ") = [] := by
    refine List.filter_eq_nil_iff.mpr ?_
    exact closing_each (fun _ _ => Bool.false_ne_true) fun _ _ _ => Bool.false_ne_true
  have only : (Proc.farewell plan.target result).filter (·.opensWith .info "No process named ") =
      Proc.farewell plan.target result := List.filter_eq_self.mpr (farewell_each rfl)
  rw [recordsOf, whole, first, List.filter_append, List.filter_append, List.filter_append,
    filter_openingRecords, silent, last, only, List.nil_append, List.nil_append, List.append_nil]

/-- Deliveries and notices take turns in a call. -/
theorem dealings_of_reaches (reaches : Reaches state line plan) :
    let answer := (call state host environment line).1
    answer.events.filter Event.isDealing =
      (answer.events.filterMap Event.delivery?).flatMap (Proc.dealing plan.target) := by
  obtain ⟨account, accounts, dealt, delivered, -⟩ := account_of_reaches host environment reaches
  simp only [dealt, delivered]
  exact accounts.dealings_eq

/-- The notices in the log of a call are those of its deliveries. -/
theorem notices_of_reaches (reaches : Reaches state line plan) :
    (recordsOf state host environment line plan).filter (·.opensWith .info "Sent signal ") =
      ((call state host environment line).1.events.filterMap Event.delivery?).map
        (Proc.notice plan.target) := by
  rw [recordsOf, List.filter_append, filter_openingRecords, List.nil_append]
  exact Proc.notices_of_dealings (dealings_of_reaches host environment reaches)

/-- The records of a call that comes to its pass tell the truth about it. The
notices are those of the deliveries, each behind its delivery. The call ends in
failure exactly if its pass fails for a reason of the host's; then the last record
reports that and is the only error, and otherwise there is none, as there is none
before the pass is over. The call ends in success exactly if its pass is whole;
then the last record counts the deliveries, and nobody is said to be found exactly
if there are none. -/
theorem records_tell_truth (reaches : Reaches state line plan) :
    let answer := (call state host environment line).1
    let passed := pass host environment plan state.clock
    let deliveries := answer.events.filterMap Event.delivery?
    let records := recordsOf state host environment line plan
    (records.filter (·.opensWith .info "Sent signal ") =
        deliveries.map (Proc.notice plan.target) ∧
      answer.events.filter Event.isDealing = deliveries.flatMap (Proc.dealing plan.target)) ∧
    ((answer.ending.status? = some 1 ↔
        ∃ failure, passed.result = .error failure ∧ failure.isHostError = true) ∧
      (answer.ending.status? = some 1 → ∃ before failure, passed.result = .error failure ∧
        records = before ++ [failureReport plan.target failure] ∧
        ∀ record ∈ before, record.level < .error) ∧
      (answer.ending.status? ≠ some 1 → ∀ record ∈ records, record.level < .error) ∧
      ∀ record ∈ passed.events.filterMap Event.record?, record.level < .error) ∧
    ((answer.ending.status? = some 0 ↔ ∃ signaled, passed.result = .ok signaled) ∧
      (answer.ending.status? = some 0 →
        records.getLast? = some (summary plan.target deliveries.length) ∧
        records.filter (·.opensWith .info "No process named ") =
          if deliveries = [] then [Proc.nobody plan.target] else []) ∧
      (answer.ending.status? ≠ some 0 →
        records.filter (·.opensWith .info "No process named ") = [])) := by
  intro answer passed deliveries records
  obtain ⟨before, (split : records = before ++ closing plan.target passed.result), mild, during⟩ :=
    recordsOf_split host environment reaches
  have nobody : records.filter (·.opensWith .info "No process named ") =
      Proc.farewell plan.target passed.result := recordsOf_nobody host environment reaches
  have ended : answer.ending = endingFor passed.result :=
    (answer_of_reaches host environment reaches).2
  rw [ended, endingFor_failure_iff, endingFor_success_iff]
  refine ⟨⟨notices_of_reaches host environment reaches,
    dealings_of_reaches host environment reaches⟩, ⟨Iff.rfl, ?_, ?_, during⟩, Iff.rfl, ?_, ?_⟩
  · rintro ⟨failure, failed, hostError⟩
    rw [failed, closing, if_pos hostError] at split
    exact ⟨before, failure, failed, split, mild⟩
  · intro unfailed record member
    rw [split] at member
    rcases List.mem_append.mp member with earlier | last
    · exact mild record earlier
    · have news : Log.Level.info < Log.Level.error := by decide
      refine closing_each (q := fun record => record.level < .error) (fun _ _ => news) ?_ record last
      intro failure failed hostError
      exact absurd (endingFor_failure_iff.mpr ⟨failure, failed, hostError⟩) unfailed
  · rintro ⟨signaled, done⟩
    obtain ⟨-, -, -, -, sends, -⟩ := account_of_reaches host environment reaches
    have count : deliveries = signaled.map fun pid => (pid, plan.signal) :=
      sends.trans (pass_deliveries host environment done)
    rw [done] at split nobody
    rw [nobody, split, count]
    refine ⟨?_, ?_⟩
    · simp [closing]
    · cases signaled <;> rfl
  · intro unfinished
    rw [nobody]
    match result : passed.result with
    | .ok signaled => exact absurd (endingFor_success_iff.mpr ⟨signaled, result⟩) unfinished
    | .error failure => rfl

end Call

/-- A process in an empty directory whose log is not set up. -/
def freshState : State := ⟨{ workspace := ⟨⟨"/", ["w"]⟩, [["w"]], []⟩, now := 0 }, ⟨[]⟩⟩

/-- A call that is refused at its second match tells of the one delivery and, last
of all, of the refusal. -/
theorem refused_call_tells_truth :
    let line : List Text := ["w", "TERM", "--proc-root", "/p", "--ignore-vanished"]
    let plan : Plan := ⟨"w", 15, some (.word "/p"), .info, none, true⟩
    let records := recordsOf freshState Proc.Pass.crowdedHost (fun _ => none) line plan
    Reaches freshState line plan ∧
    records.filter (·.opensWith .info "Sent signal ") = [Proc.notice "w" (12, 15)] ∧
    ∃ before failure, records = before ++ [failureReport "w" failure] ∧
      ∀ record ∈ before, record.level < .error := by
  intro line plan records
  have reaches : Reaches freshState line plan := ⟨rfl, rfl, rfl⟩
  obtain ⟨⟨notices, -⟩, ⟨-, refused, -⟩, -⟩ :=
    records_tell_truth Proc.Pass.crowdedHost (fun _ => none) reaches
  have sent : (call freshState Proc.Pass.crowdedHost (fun _ => none) line).1.events.filterMap
      Event.delivery? = [(12, 15)] := by decide +kernel
  have ended : (call freshState Proc.Pass.crowdedHost (fun _ => none) line).1.ending.status? =
      some 1 := by decide +kernel
  rw [sent] at notices
  obtain ⟨before, failure, -, split, mild⟩ := refused ended
  exact ⟨reaches, notices, before, failure, split, mild⟩

end Program
end NamedSignal
