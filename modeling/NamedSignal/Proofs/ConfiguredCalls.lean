import NamedSignal.Proofs.CallRecords
import NamedSignal.Proofs.CommandLine
import NamedSignal.Proofs.RejectedCalls

/-!
Settings from a file and from flags. What an accepted file sets can be said by
flags as well, and where both say something the flags count; so a call with a file
is the same as one without whose flags are completed by what the file gives. That
holds of all values but the bare separator, which no flag can carry. A file that
is not accepted turns the call away whatever the flags say.
-/
namespace NamedSignal

namespace Settings

/-- The text a document gives for a key; there is none if it gives null. -/
def givenText? : Yaml.Document → Key → Option Text
  | .mapping entries, key =>
    match value? entries key with
    | some (.text t) => some t
    | _ => none
  | _, _ => none

/-- The document gives true for a key. -/
def givesTrue : Yaml.Document → Key → Bool
  | .mapping entries, key =>
    match value? entries key with
    | some (.bool b) => b
    | _ => false
  | _, _ => false

/-- What the document gives, with defaults for what it does not. -/
def given (document : Yaml.Document) : Settings where
  root := givenText? document .root
  logLevel := (givenText? document .logLevel).getD ({} : Settings).logLevel
  logFile := givenText? document .logFile
  ignoreVanished := givesTrue document .ignoreVanished

/-- The document in a file. -/
def document? (workspace : Workspace) (path : Text) : Option Yaml.Document := do
  let bytes ← (workspace.read (Path.Normal.ofText path)).toOption
  let chars ← Utf8.decodeStrict? bytes
  (Yaml.Document.ofText (Text.unifyNewlines chars)).toOption

section Document

variable {entries : Entries}

theorem path_ok {key : Key} {found : Option Text} (accepted : path entries key = .ok found) :
    found = givenText? (.mapping entries) key := by
  unfold path at accepted
  unfold givenText?
  split at accepted <;> simp_all

theorem truth_ok {found : Bool} (accepted : truth entries = .ok found) :
    found = givesTrue (.mapping entries) .ignoreVanished := by
  unfold truth at accepted
  unfold givesTrue
  split at accepted <;> simp_all

theorem levelName_ok {found : Text} (accepted : levelName entries = .ok found) :
    found = (givenText? (.mapping entries) .logLevel).getD ({} : Settings).logLevel := by
  unfold levelName at accepted
  unfold givenText?
  split at accepted <;> simp_all

end Document

/-- An accepted document sets what it gives, and its level is one. -/
theorem ofDocument_ok {file : Text} {document : Yaml.Document} {settings : Settings}
    (accepted : ofDocument file document = .ok settings) :
    settings = given document ∧ ∃ level, settings.level = .ok level := by
  cases document with
  | empty =>
    cases accepted
    exact ⟨rfl, _, rfl⟩
  | other => cases accepted
  | mapping entries =>
    obtain ⟨_, -, rest⟩ := values_of_bind accepted
    obtain ⟨ignoreVanished, truthful, rest⟩ := values_of_bind rest
    obtain ⟨root, rooted, rest⟩ := values_of_bind rest
    obtain ⟨logFile, filed, rest⟩ := values_of_bind rest
    obtain ⟨logLevel, levelled, rest⟩ := values_of_bind rest
    simp only at rest
    split at rest
    · rename_i level known
      cases rest
      cases truth_ok truthful
      cases path_ok rooted
      cases path_ok filed
      cases levelName_ok levelled
      exact ⟨rfl, level, known⟩
    · cases rest

theorem of_toOption {ε α : Type} {result : Except ε α} {value : α}
    (found : result.toOption = some value) : result = .ok value := by
  cases result with
  | error fault => cases found
  | ok own => exact congrArg Except.ok (Option.some.inj found)

/-- What is loaded from a file with a document is what the document sets. -/
theorem load_of_document {workspace : Workspace} {path : Text} {document : Yaml.Document}
    (clean : (Path.Normal.ofText path).toText.contains (.char '\x00') = false)
    (held : document? workspace path = some document) :
    load workspace path = ofDocument (Path.Normal.ofText path).toText document := by
  obtain ⟨bytes, read, rest⟩ := Option.bind_eq_some_iff.mp held
  obtain ⟨chars, decoded, parsed⟩ := Option.bind_eq_some_iff.mp rest
  simp only [load, loadFrom, clean, Bool.false_eq_true, ↓reduceIte, of_toOption read, ofBytes,
    decoded, of_toOption parsed]

/-- An accepted file holds a document, and sets what that gives. -/
theorem load_ok {workspace : Workspace} {path : Text} {settings : Settings}
    (accepted : load workspace path = .ok settings) :
    ∃ document, document? workspace path = some document ∧ settings = given document ∧
      ∃ level, settings.level = .ok level := by
  unfold load loadFrom at accepted
  simp only at accepted
  split at accepted
  · cases accepted
  · cases read : workspace.read (Path.Normal.ofText path) with
    | error errno => simp [read] at accepted
    | ok bytes =>
      simp only [read, ofBytes] at accepted
      cases decoded : Utf8.decodeStrict? bytes with
      | none => simp [decoded] at accepted
      | some chars =>
        simp only [decoded] at accepted
        cases parsed : Yaml.Document.ofText (Text.unifyNewlines chars) with
        | error fault => cases fault <;> simp [parsed] at accepted
        | ok document =>
          simp only [parsed] at accepted
          refine ⟨document, ?_, ofDocument_ok accepted⟩
          simp [document?, read, decoded, parsed, Except.toOption]

end Settings

/-- The separator names no level. -/
theorem Settings.ne_separator_of_level {word : Text} {level : Log.Level}
    (known : ({ logLevel := word } : Settings).level = .ok level) : word ≠ Options.separator := by
  rintro rfl
  have unknown : ({ logLevel := Options.separator } : Settings).level =
      .error (.unknownLevel Options.separator) := by decide +kernel
  rw [unknown] at known
  cases known

namespace Options

/-- Any text but the separator can be the value of a flag. -/
theorem argument_of_carried {text : Text} (carried : text ≠ separator) :
    Argument.ofText text = .word text := by
  rw [Argument.ofText, if_neg (by simpa using carried)]

/-- A value that a file gives may be given by a flag. -/
theorem argument_completed {own given : Option Text}
    (carried : own = none → given ≠ some separator) :
    (own.map Argument.ofText <|> given.map .word) = (own <|> given).map Argument.ofText := by
  cases own with
  | some text => rfl
  | none =>
    cases given with
    | none => rfl
    | some text =>
      have other : text ≠ separator := fun same => carried rfl (congrArg some same)
      simp [argument_of_carried other]

/-- What the flags are to say, completed by what a document gives. -/
def Choice.completedBy (choice : Choice) (document : Yaml.Document) : Choice where
  root := choice.root <|> Settings.givenText? document .root
  logLevel := choice.logLevel <|> Settings.givenText? document .logLevel
  logFile := choice.logFile <|> Settings.givenText? document .logFile
  ignoreVanished := choice.ignoreVanished || Settings.givesTrue document .ignoreVanished

/-- What the document gives where the flags say nothing can be said by flags: no
path is the bare separator. -/
structure Choice.Carries (choice : Choice) (document : Yaml.Document) : Prop where
  root : choice.root = none → Settings.givenText? document .root ≠ some separator
  logFile : choice.logFile = none → Settings.givenText? document .logFile ≠ some separator

end Options

namespace Program

open Options (Asks Choice separator)

/-- A plan from settings that have been found. -/
theorem plan_of_base {workspace : Workspace} {base : Settings} {options : Options}
    (based : baseSettings workspace options.flags = .ok base) :
    plan workspace options =
      match ({ base with logLevel :=
          (options.flags.logLevel.map levelWord).getD base.logLevel } : Settings).level with
      | .error refusal => .error (.refused refusal)
      | .ok level => .ok {
          target := options.target
          signal := options.signal
          root := options.flags.root <|> base.root.map .word
          level
          logFile := options.flags.logFile <|> base.logFile.map .word
          ignoreVanished := options.flags.ignoreVanished || base.ignoreVanished } := by
  unfold plan
  simp only [based]
  cases options.flags.logLevel <;> rfl

section Configured

variable {workspace : Workspace} {target : Text} {number : Int} {config : Text} {choice : Choice}

/-- A path that a flag can carry is the one whose settings are loaded. -/
theorem baseSettings_config (named : config ≠ []) (carried : config ≠ separator) :
    baseSettings workspace (choice.flags (some config)) = Settings.load workspace config := by
  have word : (choice.flags (some config)).config = some (.word config) :=
    congrArg some (Options.argument_of_carried carried)
  cases config with
  | nil => exact absurd rfl named
  | cons first rest => simp only [baseSettings, word]

/-- The level that flags and file ask for is the one that completed flags ask for. -/
theorem level_completed {document : Yaml.Document} {level : Log.Level}
    (accepted : (Settings.given document).level = .ok level) :
    ((choice.flags (some config)).logLevel.map levelWord).getD (Settings.given document).logLevel =
      (((choice.completedBy document).flags none).logLevel.map levelWord).getD
        ({} : Settings).logLevel := by
  simp only [Choice.flags, Choice.completedBy]
  cases choice.logLevel with
  | some word => rfl
  | none =>
    cases gives : Settings.givenText? document .logLevel with
    | none => simp [Settings.given, gives]
    | some word =>
      have known : ({ logLevel := word } : Settings).level = .ok level := by
        simpa [Settings.given, Settings.level, gives] using accepted
      have carried := Settings.ne_separator_of_level known
      simp [Settings.given, gives, Options.argument_of_carried carried, levelWord]

/-- A plan with an accepted file is the plan with completed flags. -/
theorem plan_completed {document : Yaml.Document} {level : Log.Level} (named : config ≠ [])
    (carried : config ≠ separator)
    (accepted : Settings.load workspace config = .ok (Settings.given document))
    (known : (Settings.given document).level = .ok level) (carries : choice.Carries document) :
    plan workspace ⟨target, number, choice.flags (some config)⟩ =
      plan workspace ⟨target, number, (choice.completedBy document).flags none⟩ := by
  have based : baseSettings workspace (choice.flags (some config)) = .ok (Settings.given document) :=
    (baseSettings_config named carried).trans accepted
  have unbased : baseSettings workspace ((choice.completedBy document).flags none) = .ok {} := rfl
  have root : ((choice.flags (some config)).root <|> (Settings.given document).root.map .word) =
      ((choice.completedBy document).flags none).root :=
    Options.argument_completed carries.root
  have logFile :
      ((choice.flags (some config)).logFile <|> (Settings.given document).logFile.map .word) =
        ((choice.completedBy document).flags none).logFile :=
    Options.argument_completed carries.logFile
  have unset (argument : Option Argument) : (argument <|> none) = argument := by
    cases argument <;> rfl
  rw [plan_of_base based, plan_of_base unbased]
  simp only [Settings.level, level_completed known, root, logFile, unset, Option.map_none,
    Bool.or_false]
  rfl

/-- Without settings there is no plan. -/
theorem plan_of_unloaded {fault : Settings.Fault} (named : config ≠ [])
    (carried : config ≠ separator) (rejected : Settings.load workspace config = .error fault) :
    plan workspace ⟨target, number, choice.flags (some config)⟩ = .error fault := by
  have unbased : baseSettings workspace (choice.flags (some config)) = .error fault :=
    (baseSettings_config named carried).trans rejected
  unfold plan
  simp only [unbased]
  rfl

/-- The root of a pass: the flag's value, or else the one that is given, or else
the one that the environment decides. -/
theorem pass?_of_root {host : Host} {environment : Environment} {plan : Plan}
    {own given : Option Text}
    (rooted : plan.root = (own.map Options.Argument.ofText <|> given.map .word))
    (carried : own ≠ some separator) : plan.pass? host environment =
      some ⟨host, ⟨(own <|> given).getD (recordsRoot environment)⟩, plan.target, plan.signal,
        plan.ignoreVanished⟩ := by
  unfold Plan.pass?
  cases own with
  | some root =>
    have word : plan.root = some (.word root) := by
      rw [rooted, Option.map_some, Options.argument_of_carried fun same => carried (same ▸ rfl)]
      rfl
    rw [word]
    rfl
  | none => cases given <;> rw [rooted] <;> rfl

end Configured

section Call

variable {state : State} (host : Host) (environment : Environment)
variable {target signal : Text} {given : Option Text} {choice : Choice} {line : List Text}

/-- A call does what its line asks for, whatever the order of the words. -/
theorem call_of_asks (asks : Asks target signal given choice line) :
    call state host environment line =
      match Signal.parse signal with
      | .error refusal => reject state (.options (.signal refusal))
      | .ok number =>
        match plan state.book.workspace ⟨target, number, choice.flags given⟩ with
        | .error (.refused refusal) => reject state (.settings refusal)
        | .error fault => ({ ending := .escaped (.settings fault) }, state)
        | .ok plan => execute state host environment plan := by
  unfold call
  rw [Options.parse_of_asks asks, Options.settle]
  cases Signal.parse signal <;> rfl

/-- A call that comes to its pass has a signal and a plan. -/
theorem planned_of_asks {plan : Plan} (asks : Asks target signal given choice line)
    (reaches : Reaches state line plan) : ∃ number, Signal.parse signal = .ok number ∧
      Program.plan state.book.workspace ⟨target, number, choice.flags given⟩ = .ok plan := by
  obtain ⟨asked, planned, -⟩ := reaches
  rw [Options.parse_of_asks asks, Options.settle] at asked
  cases parsed : Signal.parse signal with
  | error refusal => simp [parsed] at asked
  | ok number =>
    simp only [parsed, Except.ok.injEq, Options.Request.run.injEq] at asked
    exact ⟨number, rfl, asked ▸ planned⟩

/-- A call looks at and delivers what the pass of its plan does. -/
theorem deeds_of_reaches {plan : Plan} {asked : Proc.Pass} (reaches : Reaches state line plan)
    (rooted : plan.pass? host environment = some asked) :
    (call state host environment line).1.events.filter Event.isDeed = asked.deeds := by
  rw [(answer_of_reaches host environment reaches).1, carryOut_events, List.filter_append,
    filter_of_words fun _ _ => rfl, List.append_nil]
  exact (pass_does rooted).deeds_eq state.clock

/-- The plan of a call with an accepted file asks for the pass beneath the root that
flags, file and environment decide on, in this order. -/
theorem pass?_of_plan {config : Text} {number : Int} {document : Yaml.Document} {plan : Plan}
    (named : config ≠ []) (carried : config ≠ separator)
    (accepted : Settings.load state.book.workspace config = .ok (Settings.given document))
    (planned : Program.plan state.book.workspace ⟨target, number, choice.flags (some config)⟩ =
      .ok plan) (usable : choice.root ≠ some separator) :
    plan.pass? host environment =
      some ⟨host, ⟨(choice.root <|> Settings.givenText? document .root).getD
          (recordsRoot environment)⟩, target, number,
        choice.ignoreVanished || Settings.givesTrue document .ignoreVanished⟩ := by
  have based : baseSettings state.book.workspace (choice.flags (some config)) =
      .ok (Settings.given document) := (baseSettings_config named carried).trans accepted
  rw [plan_of_base based] at planned
  split at planned
  · cases planned
  · cases planned
    exact pass?_of_root rfl usable

variable (state) in
/-- Settings in a file and flags are interchangeable, and flags win. If the file is
accepted, the call is the same as any call without it whose flags are completed by
what the file gives, as long as flags can carry that, and its pass goes over the
root that the flag names, or else the file, or else the environment. If the file is
not accepted, the call is turned away and does nothing, whatever the flags are. The
path of the file is neither empty, which is no file, nor the bare separator. -/
theorem settings_and_flags_interchangeable {config : Text} (named : config ≠ [])
    (carried : config ≠ separator) (asks : Asks target signal (some config) choice line) :
    let called := call state host environment line
    (∀ settings, Settings.load state.book.workspace config = .ok settings →
      ∃ document, Settings.document? state.book.workspace config = some document ∧
        (choice.Carries document →
          ∀ flagged, Asks target signal none (choice.completedBy document) flagged →
            called = call state host environment flagged) ∧
        (choice.root ≠ some separator → ∀ plan, Reaches state line plan →
          ∃ number, Signal.parse signal = .ok number ∧
            called.1.events.filter Event.isDeed = Proc.Pass.deeds
              ⟨host, ⟨(choice.root <|> Settings.givenText? document .root).getD
                  (recordsRoot environment)⟩, target, number,
                choice.ignoreVanished || Settings.givesTrue document .ignoreVanished⟩)) ∧
    ∀ fault, Settings.load state.book.workspace config = .error fault →
      called.1.ending.isTurnedAway = true ∧ called.1.events = [] ∧ called.2 = state := by
  intro called
  refine ⟨fun settings accepted => ?_, fun fault rejected => ?_⟩
  · obtain ⟨document, held, rfl, level, known⟩ := Settings.load_ok accepted
    refine ⟨document, held, fun carries flagged asksFlags => ?_, fun usable plan reaches => ?_⟩
    -- A call depends on its line only through the plan, and the plans are the same.
    · have same (number : Int) := @plan_completed _ target number _ _ _ _ named carried accepted known
        carries
      simp only [called, call_of_asks host environment asks,
        call_of_asks host environment asksFlags, same]
    · obtain ⟨number, parsed, planned⟩ := planned_of_asks asks reaches
      exact ⟨number, parsed, deeds_of_reaches host environment reaches
        (pass?_of_plan host environment named carried accepted planned usable)⟩
  · have asked : called = _ := call_of_asks host environment asks
    rw [asked]
    cases Signal.parse signal with
    | error refusal => exact ⟨rfl, rfl, rfl⟩
    | ok number =>
      simp only [plan_of_unloaded named carried rejected]
      cases fault <;> exact ⟨rfl, rfl, rfl⟩

end Call

/-- A process with a settings file of some lines. -/
def stateWith (content : String) : State :=
  ⟨{ workspace := ⟨⟨"/", ["w"]⟩, [["w"]],
      [(["w", "c"], content.toList.map fun c => UInt8.ofNat c.toNat)]⟩, now := 0 }, ⟨[]⟩⟩

/-- A root and a truth value may come from a file or from flags in any order. -/
theorem file_or_flags :
    let state := stateWith "proc_root: /p\nignore_vanished: true\n"
    let filed : List Text := ["w", "--config=c", "TERM"]
    let flagged : List Text := ["--ignore-vanished", "--proc-root=/p", "--", "w", "TERM"]
    (call state Proc.Pass.crowdedHost (fun _ => none) filed).1.events.filterMap Event.delivery? =
        [(12, 15)] ∧
      call state Proc.Pass.crowdedHost (fun _ => none) filed =
        call state Proc.Pass.crowdedHost (fun _ => none) flagged := by
  intro state filed flagged
  have held : Settings.document? state.book.workspace "c" =
      some (.mapping [(.text "proc_root", .text "/p"), (.text "ignore_vanished", .bool true)]) := by
    decide +kernel
  have loaded : Settings.load state.book.workspace "c" =
      .ok { root := some "/p", ignoreVanished := true } :=
    (Settings.load_of_document (by decide +kernel) held).trans (by decide +kernel)
  have asks : Asks "w" "TERM" (some "c") {} filed :=
    @Asks.intro "w" "TERM" (some "c") {} [.plain "w", .flag (.value .config rfl "c"), .plain "TERM"]
      [] rfl (.refl _) (by decide +kernel)
  have asksFlags : Asks "w" "TERM" none { root := some "/p", ignoreVanished := true } flagged :=
    @Asks.intro "w" "TERM" none { root := some "/p", ignoreVanished := true }
      [.flag .ignoreVanished, .flag (.value .root rfl "/p")] ["w", "TERM"] rfl (.swap ..)
      (by decide +kernel)
  have sent : (call state Proc.Pass.crowdedHost (fun _ => none) flagged).1.events.filterMap
      Event.delivery? = [(12, 15)] := by decide +kernel
  obtain ⟨accepted, -⟩ := settings_and_flags_interchangeable state Proc.Pass.crowdedHost
    (fun _ => none) (by decide +kernel) (by decide +kernel) asks
  obtain ⟨document, holds, same, -⟩ := accepted _ loaded
  cases holds.symm.trans held
  have equal := same ⟨fun _ => by decide +kernel, fun _ => by decide +kernel⟩ flagged asksFlags
  exact ⟨(congrArg (fun answered => answered.1.events.filterMap Event.delivery?) equal).trans sent,
    equal⟩

/-- What a file gives may be the bare separator, and a flag that has it for a value
counts for nothing, so not all that files give can be said by flags. For the same
reason a file of that name is never loaded, and neither is one without a name. -/
theorem separator_not_carried :
    let state := stateWith "log_file: --\n"
    let filed : List Text := ["--config=c", "--proc-root=/p", "w", "TERM"]
    let flagged : List Text := ["--log-file=--", "--proc-root=/p", "w", "TERM"]
    ((call state Proc.Pass.crowdedHost (fun _ => none) filed).1.ending.status? = some 1 ∧
      (call state Proc.Pass.crowdedHost (fun _ => none) flagged).1.ending.status? = none) ∧
    (∀ config ∈ [[], separator],
      (∃ fault, Settings.load state.book.workspace config = .error fault) ∧
      (call state Proc.Pass.crowdedHost (fun _ => none)
        [Options.Setting.text (.value .config rfl config), "--proc-root=/p", "--ignore-vanished",
          "w", "TERM"]).1.events.filterMap Event.delivery? = [(12, 15)]) ∧
    ¬ ∀ (state : State) (host : Host) (environment : Environment) (target signal config : Text)
      (choice : Choice) (filed flagged : List Text) (settings : Settings)
      (document : Yaml.Document), Asks target signal (some config) choice filed →
      Settings.load state.book.workspace config = .ok settings →
      Settings.document? state.book.workspace config = some document →
      Asks target signal none (choice.completedBy document) flagged →
      call state host environment filed = call state host environment flagged := by
  intro state filed flagged
  have asks : Asks "w" "TERM" (some "c") { root := some "/p" } filed :=
    @Asks.intro "w" "TERM" (some "c") { root := some "/p" }
      [.flag (.value .config rfl "c"), .flag (.value .root rfl "/p"), .plain "w", .plain "TERM"]
      [] rfl (.swap ..) (by decide +kernel)
  have asksFlags : Asks "w" "TERM" none { root := some "/p", logFile := some "--" } flagged :=
    @Asks.intro "w" "TERM" none { root := some "/p", logFile := some "--" }
      [.flag (.value .logFile rfl "--"), .flag (.value .root rfl "/p"), .plain "w", .plain "TERM"]
      [] rfl (.swap ..) (by decide +kernel)
  have held : Settings.document? state.book.workspace "c" =
      some (.mapping [(.text "log_file", .text "--")]) := by decide +kernel
  have loaded : Settings.load state.book.workspace "c" = .ok { logFile := some "--" } :=
    (Settings.load_of_document (by decide +kernel) held).trans (by decide +kernel)
  have logged : (call state Proc.Pass.crowdedHost (fun _ => none) filed).1.ending.status? =
      some 1 := by decide +kernel
  have escaped : (call state Proc.Pass.crowdedHost (fun _ => none) flagged).1.ending.status? =
      none := by decide +kernel
  have unloaded : ∀ config ∈ [[], separator],
      (call state Proc.Pass.crowdedHost (fun _ => none)
        [Options.Setting.text (.value .config rfl config), "--proc-root=/p", "--ignore-vanished",
          "w", "TERM"]).1.events.filterMap Event.delivery? = [(12, 15)] := by decide +kernel
  have nameless : Settings.load state.book.workspace [] =
      .error (.refused (.unreadable "." .isDirectory)) := by decide +kernel
  have absent : Settings.load state.book.workspace separator =
      .error (.refused (.unreadable separator .notFound)) := by decide +kernel
  refine ⟨⟨logged, escaped⟩, fun config member => ⟨?_, unloaded config member⟩,
    fun interchangeable => ?_⟩
  · rcases List.mem_pair.mp member with rfl | rfl
    · exact ⟨_, nameless⟩
    · exact ⟨_, absent⟩
  have same := interchangeable state Proc.Pass.crowdedHost (fun _ => none) _ _ _ _ _ flagged _ _
    asks loaded held asksFlags
  have status := congrArg (fun answered => answered.1.ending.status?) same
  cases (logged.symm.trans status).trans escaped

end Program
end NamedSignal
