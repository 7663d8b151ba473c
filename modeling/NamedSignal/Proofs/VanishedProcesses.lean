import NamedSignal.Proofs.PassReference

/-!
What it means for a pass to ignore vanished processes. Such a pass is the strict
pass on a host whose root does not list them; where the strict pass does not fall
over one of them the two do the same, and where it does, the other has delivered
at least as much.
-/
namespace NamedSignal.Proc

/-- The name of a process cannot be told because the process is not there. -/
def Source.isGone (source : Source) (host : Host) (pid : Int) : Bool :=
  match source.nameOf host pid with
  | .error failure => failure.isVanished
  | .ok _ => false

theorem Source.isGone_iff {source : Source} {host : Host} {pid : Int} :
    source.isGone host pid = true ↔
      ∃ failure, source.nameOf host pid = .error failure ∧ failure.isVanished = true := by
  unfold isGone
  cases source.nameOf host pid <;> simp

/-- The entry names a process that is gone. -/
def Source.namesGone (source : Source) (host : Host) (entry : Text) : Bool :=
  match pid? entry with
  | .ok (some pid) => source.isGone host pid
  | _ => false

/-- The host with the entries of processes that are gone taken out of the root. -/
def Source.cleared (source : Source) (host : Host) : Host :=
  { host with
    listing := fun path =>
      if path == source.root then
        (host.listing path).map fun entries =>
          entries.filter fun entry => !source.namesGone host entry
      else host.listing path }

private theorem pids_filter (source : Source) (host : Host) (entries : List Text) :
    Source.pids (entries.filter fun entry => !source.namesGone host entry) =
      (Source.pids entries).map fun pids => pids.filter fun pid => !source.isGone host pid := by
  induction entries with
  | nil => rfl
  | cons entry rest ih =>
    cases read : pid? entry with
    | error failure =>
      have kept : source.namesGone host entry = false := by simp [Source.namesGone, read]
      simp only [List.filter_cons, kept, Bool.not_false, ↓reduceIte, Source.pids, read]
      rfl
    | ok found =>
      cases found with
      | none =>
        have kept : source.namesGone host entry = false := by simp [Source.namesGone, read]
        simp only [List.filter_cons, kept, Bool.not_false, ↓reduceIte, Source.pids, read, ih]
        cases Source.pids rest <;> rfl
      | some pid =>
        have same : source.namesGone host entry = source.isGone host pid := by
          simp [Source.namesGone, read]
        simp only [List.filter_cons, same, Source.pids, read]
        by_cases gone : source.isGone host pid = true
        · simp only [gone, Bool.not_true, Bool.false_eq_true, ↓reduceIte, ih]
          cases Source.pids rest <;> simp [Except.map, bind, Except.bind, pure, Except.pure, gone]
        · have stays : source.isGone host pid = false := Bool.eq_false_iff.mpr gone
          simp only [stays, Bool.not_false, ↓reduceIte, Source.pids, read, ih]
          cases Source.pids rest <;> simp [Except.map, bind, Except.bind, pure, Except.pure, stays]

/-- On the cleared host the roll is the same without the processes that are gone. -/
theorem Source.roll_cleared (source : Source) (host : Host) :
    source.roll (source.cleared host) =
      (source.roll host).map fun pids => pids.filter fun pid => !source.isGone host pid := by
  unfold Source.roll
  have listed : (source.cleared host).listing source.root =
      (host.listing source.root).map fun entries =>
        entries.filter fun entry => !source.namesGone host entry := by
    simp [Source.cleared]
  rw [listed]
  cases host.listing source.root with
  | error errno => rfl
  | ok entries => exact pids_filter source host entries

namespace Pass

variable {pass other : Pass}

/-- Taking out processes at which a pass does nothing changes neither how it ends
nor whom it signals. -/
theorem over_filter {keep : Int → Bool}
    (dropped : ∀ pid, keep pid = false → pass.stopAt pid = none ∧ pass.isMatch pid = false)
    (kept : ∀ pid, keep pid = true →
      pass.stopAt pid = other.stopAt pid ∧ pass.isMatch pid = other.isMatch pid)
    (pids : List Int) :
    pass.ending pids = other.ending (pids.filter keep) ∧
      pass.signaled pids = other.signaled (pids.filter keep) := by
  induction pids with
  | nil => exact ⟨rfl, rfl⟩
  | cons pid rest ih =>
    obtain ⟨ends, signals⟩ := ih
    cases keeps : keep pid with
    | false =>
      obtain ⟨past, unmatched⟩ := dropped pid keeps
      have goes : pass.goesPast pid = true := goesPast_of_none past
      have gone : (pid :: rest).filter keep = rest.filter keep :=
        List.filter_cons_of_neg (by simp [keeps])
      rw [gone, ← ends, ← signals, ending_cons, signaled_cons, past, unmatched, goes]
      exact ⟨rfl, rfl⟩
    | true =>
      obtain ⟨stops, matched⟩ := kept pid keeps
      have goes : pass.goesPast pid = other.goesPast pid := by simp only [goesPast, stops]
      have stays : (pid :: rest).filter keep = pid :: rest.filter keep :=
        List.filter_cons_of_pos keeps
      rw [stays, ending_cons, signaled_cons, ending_cons, signaled_cons, ends, signals, stops,
        matched, goes]
      exact ⟨rfl, rfl⟩

/-- Two passes that agree on the processes that one of them reaches go over the
same processes in the same way. -/
theorem over_reached {pids : List Int}
    (agree : ∀ pid ∈ pass.reached pids,
      other.stopAt pid = pass.stopAt pid ∧ other.isMatch pid = pass.isMatch pid) :
    other.ending pids = pass.ending pids ∧ other.signaled pids = pass.signaled pids ∧
      other.reached pids = pass.reached pids := by
  induction pids with
  | nil => exact ⟨rfl, rfl, rfl⟩
  | cons pid rest ih =>
    rw [reached_cons] at agree
    obtain ⟨stops, matched⟩ := agree pid List.mem_cons_self
    have goes : other.goesPast pid = pass.goesPast pid := by simp only [goesPast, stops]
    simp only [ending_cons, signaled_cons, reached_cons, stops, matched, goes]
    cases past : pass.stopAt pid with
    | some stop =>
      -- Nothing behind this process is reached, so nothing there has to agree.
      have ends : pass.goesPast pid = false := goesPast_of_stop past
      simp [ends]
    | none =>
      have onward : pass.goesPast pid = true := goesPast_of_none past
      obtain ⟨ends, signals, reaches⟩ := ih fun later member =>
        agree later (List.mem_cons_of_mem pid (by simpa [onward] using member))
      simp only [onward, ends, signals, reaches, and_self]

/-- A process that is reached and at which the pass ends is the first such. -/
theorem stop_of_reached {pids : List Int} {pid : Int} {stop : Stop}
    (reaches : pid ∈ pass.reached pids) (stops : pass.stopAt pid = some stop) :
    pids.findSome? pass.stopAt = some stop := by
  induction pids with
  | nil => cases reaches
  | cons first rest ih =>
    rw [reached_cons] at reaches
    rw [List.findSome?_cons]
    cases here : pass.stopAt first with
    | some found =>
      have ends : pass.goesPast first = false := goesPast_of_stop here
      simp only [ends, Bool.false_eq_true, ↓reduceIte, List.mem_singleton] at reaches
      rw [reaches, here] at stops
      exact stops
    | none =>
      have onward : pass.goesPast first = true := goesPast_of_none here
      simp only [onward, ↓reduceIte, List.mem_cons] at reaches
      rcases reaches with rfl | later
      · rw [here] at stops
        cases stops
      · exact ih later

/-- The pass that takes processes that are gone for no match. -/
def ignoring (pass : Pass) : Pass := { pass with ignoreVanished := true }

/-- The pass that fails on processes that are gone. -/
def strict (pass : Pass) : Pass := { pass with ignoreVanished := false }

/-- The strict pass where the root does not list processes that are gone. -/
def cleared (pass : Pass) : Pass := { pass.strict with host := pass.source.cleared pass.host }

/-- A process that is gone is nothing to a pass that ignores such. -/
private theorem ignoring_at_gone {pid : Int} (gone : pass.source.isGone pass.host pid = true) :
    pass.ignoring.stopAt pid = none ∧ pass.ignoring.isMatch pid = false := by
  obtain ⟨failure, named, vanished⟩ := Source.isGone_iff.mp gone
  have unnamed : pass.ignoring.source.nameOf pass.ignoring.host pid = .error failure := named
  have skipped : pass.ignoring.skips failure = true := by simp [ignoring, skips, vanished]
  refine ⟨?_, ?_⟩
  · rw [stopAt_of_unnamed unnamed, if_pos skipped]
  · simp only [isMatch, unnamed]

/-- The strict pass ends at a process that is gone. -/
private theorem strict_at_gone {pid : Int} (gone : pass.source.isGone pass.host pid = true) :
    ∃ failure, failure.isVanished = true ∧
      pass.strict.stopAt pid = some (.unresolved pid failure) := by
  obtain ⟨failure, named, vanished⟩ := Source.isGone_iff.mp gone
  have unnamed : pass.strict.source.nameOf pass.strict.host pid = .error failure := named
  refine ⟨failure, vanished, ?_⟩
  rw [stopAt_of_unnamed unnamed]
  simp [strict, skips]

/-- At any other process the two passes do the same. -/
private theorem ignoring_at_present {pid : Int}
    (present : pass.source.isGone pass.host pid = false) :
    pass.ignoring.stopAt pid = pass.strict.stopAt pid := by
  cases named : pass.source.nameOf pass.host pid with
  | ok name =>
    have left : pass.ignoring.source.nameOf pass.ignoring.host pid = .ok name := named
    have right : pass.strict.source.nameOf pass.strict.host pid = .ok name := named
    rw [stopAt_of_named left, stopAt_of_named right]
    rfl
  | error failure =>
    have left : pass.ignoring.source.nameOf pass.ignoring.host pid = .error failure := named
    have right : pass.strict.source.nameOf pass.strict.host pid = .error failure := named
    have lasting : failure.isVanished = false := by simpa [Source.isGone, named] using present
    rw [stopAt_of_unnamed left, stopAt_of_unnamed right]
    simp [ignoring, strict, skips, lasting]

/-- On the host without processes that are gone the strict pass ends as the one
that ignores them and signals the same. -/
private theorem ignoring_eq_cleared (pass : Pass) :
    pass.ignoring.result = pass.cleared.result ∧
      pass.ignoring.deliveries = pass.cleared.deliveries := by
  have dropped : ∀ pid, (!pass.source.isGone pass.host pid) = false →
      pass.ignoring.stopAt pid = none ∧ pass.ignoring.isMatch pid = false := by
    intro pid taken
    exact ignoring_at_gone (by simpa using taken)
  have kept : ∀ pid, (!pass.source.isGone pass.host pid) = true →
      pass.ignoring.stopAt pid = pass.cleared.stopAt pid ∧
        pass.ignoring.isMatch pid = pass.cleared.isMatch pid := by
    intro pid left
    exact ⟨ignoring_at_present (by simpa using left), rfl⟩
  have same := over_filter dropped kept
  have rolled : pass.cleared.source.roll pass.cleared.host = _ :=
    Source.roll_cleared pass.source pass.host
  have whole : pass.ignoring.source.roll pass.ignoring.host = pass.source.roll pass.host := rfl
  unfold result deliveries
  rw [rolled, whole]
  cases pass.source.roll pass.host with
  | error failure => exact ⟨rfl, rfl⟩
  | ok pids =>
    obtain ⟨ends, signals⟩ := same pids
    exact ⟨ends, congrArg (List.map _) signals⟩

/-- Where the strict pass does not end at a process that is gone the other one
does the same. -/
private theorem ignoring_eq_strict
    (lasting : ∀ pid failure, pass.strict.stop? = some (.unresolved pid failure) →
      failure.isVanished = false) :
    pass.ignoring.result = pass.strict.result ∧
      pass.ignoring.deliveries = pass.strict.deliveries ∧
      pass.ignoring.lookups = pass.strict.lookups := by
  unfold stop? at lasting
  unfold result deliveries lookups
  have whole : pass.ignoring.source.roll pass.ignoring.host =
      pass.strict.source.roll pass.strict.host := rfl
  rw [whole]
  cases rolled : pass.strict.source.roll pass.strict.host with
  | error failure => exact ⟨rfl, rfl, rfl⟩
  | ok pids =>
    rw [rolled] at lasting
    have agree : ∀ pid ∈ pass.strict.reached pids,
        pass.ignoring.stopAt pid = pass.strict.stopAt pid ∧
          pass.ignoring.isMatch pid = pass.strict.isMatch pid := by
      intro pid reaches
      refine ⟨ignoring_at_present ?_, rfl⟩
      cases gone : pass.source.isGone pass.host pid with
      | false => rfl
      | true =>
        obtain ⟨failure, vanished, stops⟩ := strict_at_gone gone
        have first := lasting pid failure (stop_of_reached reaches stops)
        rw [vanished] at first
        exact first
    obtain ⟨ends, signals, reaches⟩ := over_reached agree
    refine ⟨ends, congrArg (List.map _) signals, ?_⟩
    exact congrArg (fun reached => _ :: List.flatMap _ reached) reaches

/-- A pass that ends nowhere where another goes on signals at least as much. -/
theorem signals_at_most
    (goesOn : ∀ pid, pass.stopAt pid = none → other.stopAt pid = none)
    (sameMatches : ∀ pid, other.isMatch pid = pass.isMatch pid) (pids : List Int) :
    pass.signaled pids <+: other.signaled pids := by
  induction pids with
  | nil => exact List.prefix_refl []
  | cons pid rest ih =>
    rw [signaled_cons, signaled_cons, sameMatches]
    cases past : pass.stopAt pid with
    | some stop =>
      have ends : pass.goesPast pid = false := goesPast_of_stop past
      simp [ends]
    | none =>
      have onward : pass.goesPast pid = true := goesPast_of_none past
      have onwardToo : other.goesPast pid = true := goesPast_of_none (goesOn pid past)
      rw [if_pos onward, if_pos onwardToo]
      cases pass.isMatch pid with
      | true => exact (List.prefix_cons_inj pid).mpr ih
      | false => exact ih

private theorem strict_delivers_at_most (pass : Pass) :
    pass.strict.deliveries <+: pass.ignoring.deliveries := by
  have goesOn : ∀ pid, pass.strict.stopAt pid = none → pass.ignoring.stopAt pid = none := by
    intro pid past
    cases gone : pass.source.isGone pass.host pid with
    | true => exact (ignoring_at_gone gone).1
    | false => exact (ignoring_at_present gone).trans past
  unfold deliveries
  have whole : pass.ignoring.source.roll pass.ignoring.host =
      pass.strict.source.roll pass.strict.host := rfl
  rw [whole]
  cases pass.strict.source.roll pass.strict.host with
  | error failure => exact List.prefix_refl []
  | ok pids => exact (signals_at_most goesOn (fun _ => rfl) pids).map _

/-- Ignoring vanished processes changes nothing but what is made of them. The
pass that ignores them ends as the strict one does where they are not listed,
and delivers the same; it does as the strict one does here unless that falls
over a process that is gone; and in any case the strict one delivers no more
than the first of what the other delivers. -/
theorem ignoring_touches_vanished_only (pass : Pass) (clock later : Clock) :
    ((pass.ignoring.run clock).result = (pass.cleared.run later).result ∧
      (pass.ignoring.run clock).deliveries = (pass.cleared.run later).deliveries) ∧
    ((∀ pid failure, pass.strict.stop? = some (.unresolved pid failure) →
        failure.isVanished = false) →
      (pass.ignoring.run clock).result = (pass.strict.run later).result ∧
      (pass.ignoring.run clock).deliveries = (pass.strict.run later).deliveries ∧
      (pass.ignoring.run clock).reads = (pass.strict.run later).reads) ∧
    (pass.strict.run later).deliveries <+: (pass.ignoring.run clock).deliveries := by
  simp only [run_result, run_deliveries, run_reads]
  refine ⟨ignoring_eq_cleared pass, ?_, strict_delivers_at_most pass⟩
  intro lasting
  obtain ⟨ends, delivers, looks⟩ := ignoring_eq_strict lasting
  exact ⟨ends, delivers, congrArg (List.filterMap Event.read?) looks⟩

/-- Where all processes are there the two passes do the same, here up to a refusal. -/
theorem pass_without_vanished_agrees :
    let pass : Pass := ⟨{ crowdedHost with listing := fun _ => .ok ["12", "7", "9"] }, ⟨"/p"⟩,
      "w", 15, false⟩
    (∀ pid failure, pass.strict.stop? = some (.unresolved pid failure) →
      failure.isVanished = false) ∧
    (pass.ignoring.run ⟨[]⟩).deliveries = (pass.strict.run ⟨[]⟩).deliveries ∧
    (pass.strict.run ⟨[]⟩).deliveries = [(12, 15)] := by
  intro pass
  have refused : pass.strict.stop? = some (.undelivered 7 15 .denied) := by decide +kernel
  have lasting : ∀ pid failure, pass.strict.stop? = some (.unresolved pid failure) →
      failure.isVanished = false := by
    intro pid failure stops
    rw [refused] at stops
    cases stops
  obtain ⟨-, same, -⟩ := ignoring_touches_vanished_only pass ⟨[]⟩ ⟨[]⟩
  refine ⟨lasting, (same lasting).2.1, ?_⟩
  rw [run_deliveries]
  decide +kernel

end Pass
end NamedSignal.Proc
