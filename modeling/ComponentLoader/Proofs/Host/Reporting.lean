import ComponentLoader.Host.TimerThread
import ComponentLoader.Proofs.Host.Plugins
import Mathlib.Data.List.Count
import Mathlib.Data.List.Induction

namespace ComponentLoader

namespace BuildEvent

def callback? : BuildEvent → Option Text
  | called callback => some callback
  | _ => none

end BuildEvent

-- What a build that is done calls: the callbacks of its host's plugins, one plugin after the other.
def BuildCall.callbacks : BuildCall → List Text
  | started => []
  | finished host => (host.plugins.filterMap HostPlugin.done?).flatten

namespace Reporting

variable {r : Reporting} {calls : List BuildCall} {call : BuildCall}

theorem after_append (r : Reporting) (calls : List BuildCall) (call : BuildCall) :
    r.after (calls ++ [call]) = ((r.after calls).step call).1 := by
  rw [after, List.foldl_append]
  rfl

theorem events_append (r : Reporting) (calls : List BuildCall) (call : BuildCall) :
    r.events (calls ++ [call]) = r.events calls ++ ((r.after calls).step call).2 := by
  induction calls generalizing r with
  | nil => simp [events, after]
  | cons first calls ih =>
    rw [List.cons_append, events, ih, events, List.append_assoc]
    rfl

theorem step_hasTimer (r : Reporting) (call : BuildCall) :
    (r.step call).1.hasTimer = r.hasTimer := by
  cases call with
  | started =>
    rw [step, startBuild]
    split <;> rfl
  | finished host => rfl

theorem after_hasTimer (r : Reporting) (calls : List BuildCall) :
    (r.after calls).hasTimer = r.hasTimer := by
  induction calls using List.reverseRecOn with
  | nil => rfl
  | append_singleton calls call ih => rw [after_append, step_hasTimer, ih]

theorem step_isRunning (call : BuildCall) (idle : r.hasTimer = false → r.isRunning = false) :
    (r.step call).1.isRunning = match call with
      | .started => r.hasTimer
      | .finished _ => false := by
  cases call with
  | finished host => rfl
  | started =>
    rw [step, startBuild]
    cases timer : r.hasTimer with
    | false => simpa using idle timer
    | true => cases running : r.isRunning <;> simp [running]

theorem hasTimer_of_running {hasTimer : Bool} (calls : List BuildCall) (none_ : hasTimer = false) :
    (after { hasTimer } calls).isRunning = false := by
  induction calls using List.reverseRecOn with
  | nil => rfl
  | append_singleton calls call ih =>
    rw [after_append, step_isRunning call fun _ => ih, after_hasTimer]
    cases call with
    | started => exact none_
    | finished host => rfl

theorem isRunning_after_iff (hasTimer : Bool) (calls : List BuildCall) :
    (after { hasTimer } calls).isRunning = true ↔
      hasTimer = true ∧ ∃ before behind, calls = before ++ .started :: behind ∧
        ∀ host, .finished host ∉ behind := by
  rcases List.eq_nil_or_concat calls with rfl | ⟨calls, call, rfl⟩
  · simp [after]
  · have not_running : (after { hasTimer } calls).hasTimer = false →
        (after { hasTimer } calls).isRunning = false := by
      rw [after_hasTimer]
      exact hasTimer_of_running calls
    rw [List.concat_eq_append, after_append, step_isRunning call not_running, after_hasTimer]
    cases call with
    | started =>
      refine ⟨fun timer => ⟨timer, calls, [], rfl, fun host => List.not_mem_nil⟩, And.left⟩
    | finished host =>
      refine iff_of_false Bool.false_ne_true ?_
      rintro ⟨-, before, behind, parts, unfinished⟩
      rcases List.eq_nil_or_concat behind with rfl | ⟨behind, last, rfl⟩
      · cases (List.append_inj' parts rfl).2
      · rw [List.concat_eq_append, ← List.cons_append, ← List.append_assoc] at parts
        cases (List.append_inj' parts rfl).2
        exact unfinished host (by simp)

theorem timerStarted_mem_step_iff (r : Reporting) (call : BuildCall) :
    .timerStarted ∈ (r.step call).2 ↔
      call = .started ∧ r.hasTimer = true ∧ r.isRunning = false := by
  cases call with
  | started =>
    rw [step, startBuild]
    cases r.hasTimer <;> cases r.isRunning <;> simp
  | finished host =>
    rw [step, finishBuild, stopTimer]
    cases r.isRunning <;> simp

theorem callbacks_step (r : Reporting) (call : BuildCall) :
    (r.step call).2.filterMap BuildEvent.callback? = call.callbacks := by
  cases call with
  | started =>
    rw [step, startBuild]
    split <;> rfl
  | finished host =>
    have called : (host.buildDone.map BuildEvent.called).filterMap BuildEvent.callback? =
        BuildCall.callbacks (.finished host) := by
      rw [List.filterMap_map, BuildCall.callbacks, ← Host.buildDone_eq]
      exact List.filterMap_some
    rw [step, finishBuild, stopTimer]
    cases r.isRunning <;> exact called

theorem callbacks_events (r : Reporting) (calls : List BuildCall) :
    (r.events calls).filterMap BuildEvent.callback? = calls.flatMap BuildCall.callbacks := by
  induction calls generalizing r with
  | nil => rfl
  | cons call calls ih =>
    rw [events, List.filterMap_append, callbacks_step, ih, List.flatMap_cons]

-- Each timer that a step starts or stops is one that runs behind it, or before.
theorem step_balance (r : Reporting) (call : BuildCall) :
    (r.step call).2.count .timerStarted + r.isRunning.toNat =
      (r.step call).2.count .timerStopped + (r.step call).1.isRunning.toNat := by
  cases call with
  | started =>
    rw [step, startBuild]
    cases r.hasTimer <;> cases running : r.isRunning <;> simp [running]
  | finished host =>
    have started : (host.buildDone.map BuildEvent.called).count .timerStarted = 0 := by
      simp [List.count_eq_zero]
    have stopped : (host.buildDone.map BuildEvent.called).count .timerStopped = 0 := by
      simp [List.count_eq_zero]
    rw [step, finishBuild, stopTimer]
    cases r.isRunning <;> simp [started, stopped]

theorem events_balance (r : Reporting) (calls : List BuildCall) :
    (r.events calls).count .timerStarted + r.isRunning.toNat =
      (r.events calls).count .timerStopped + (r.after calls).isRunning.toNat := by
  induction calls using List.reverseRecOn with
  | nil => rfl
  | append_singleton calls call ih =>
    have last := (r.after calls).step_balance call
    rw [events_append, after_append, List.count_append, List.count_append]
    omega

end Reporting

namespace BuildThreads

variable {hasTimer : Bool} {calls : List BuildCall} {s s' : BuildThreads}

def reporting (s : BuildThreads) : Reporting where
  hasTimer := s.hasTimer
  isRunning := s.held.isSome

def isLive (timer : TimerThread) : Bool := timer.phase ≠ .ended

def isSilent (timer : TimerThread) : Bool := timer.phase = .reporting

-- What the call that is being made will still do.
def owed (s : BuildThreads) : List BuildEvent :=
  match s.caller with
  | .idle => []
  | .telling _ host | .joining _ host => .timerStopped :: host.buildDone.map .called
  | .calling callbacks => callbacks.map .called

def ordered (events : List BuildEvent) : List BuildEvent := events.filter (· ≠ .reported)

theorem reporting_call (s : BuildThreads) (call : BuildCall) :
    (s.call call).reporting = (s.reporting.step call).1 := by
  cases call with
  | started =>
    rw [BuildThreads.call, Reporting.step, Reporting.startBuild]
    cases timer : s.hasTimer <;> cases held : s.held <;> simp [reporting, timer, held]
  | finished host =>
    rw [BuildThreads.call]
    cases held : s.held <;> simp [reporting, Reporting.step, Reporting.finishBuild,
      Reporting.stopTimer, held]

theorem Step.reporting_eq (step : Step s s') : s'.reporting = s.reporting := by
  cases step <;> rfl

theorem Reached.reporting_eq (reached : Reached hasTimer calls s) :
    s.reporting = Reporting.after { hasTimer } calls := by
  induction reached with
  | init => rfl
  | call call _ _ ih => rw [reporting_call, ih, Reporting.after_append]
  | step _ step ih => rw [step.reporting_eq, ih]

theorem ordered_append (a b : List BuildEvent) : ordered (a ++ b) = ordered a ++ ordered b :=
  List.filter_append ..

theorem ordered_called (callbacks : List Text) :
    ordered (callbacks.map .called) = callbacks.map .called := by
  simp [ordered, List.filter_eq_self]

theorem call_ordered (returned : s.caller = .idle) (call : BuildCall) :
    ordered (s.call call).log ++ (s.call call).owed =
      ordered s.log ++ ordered (s.reporting.step call).2 := by
  cases call with
  | started =>
    rw [BuildThreads.call, Reporting.step, Reporting.startBuild]
    cases timer : s.hasTimer <;> cases held : s.held <;>
      simp [reporting, timer, held, owed, returned, ordered]
  | finished host =>
    have called := ordered_called host.buildDone
    have events : (s.reporting.step (.finished host)).2 =
        (if s.held.isSome then [.timerStopped] else []) ++ host.buildDone.map .called := rfl
    rw [BuildThreads.call, events, ordered_append, called]
    cases held : s.held <;> simp [owed, ordered]

theorem Step.ordered_eq (step : Step s s') :
    ordered s'.log ++ s'.owed = ordered s.log ++ s.owed := by
  cases step with
  | report timer => simp [ordered, owed]
  | stop timer => rfl
  | tell caller timer => simp [owed, caller]
  | join caller timer => simp [owed, caller, ordered]
  | callBack caller => simp [owed, caller, ordered]
  | return_ caller => simp [owed, caller]

theorem Reached.ordered_eq (reached : Reached hasTimer calls s) :
    ordered s.log ++ s.owed = ordered (Reporting.events { hasTimer } calls) := by
  induction reached with
  | init => rfl
  | @call _ s call reached returned ih =>
    have nothing : s.owed = [] := by rw [owed, returned]
    rw [nothing, List.append_nil] at ih
    rw [call_ordered returned, ih, reached.reporting_eq, Reporting.events_append, ordered_append]
  | step _ step ih => rw [step.ordered_eq, ih]

-- Which timers are live, and who has to do with them.
inductive Sound (s : BuildThreads) : Prop where
  | quiet (caller : s.caller = .idle ∨ ∃ callbacks, s.caller = .calling callbacks)
    (held : s.held = none) (ended : ∀ t ∈ s.timers, t.phase = .ended)
  | running {before : List TimerThread} {timer : TimerThread} (caller : s.caller = .idle)
    (held : s.held = some before.length) (timers : s.timers = before ++ [timer])
    (ended : ∀ t ∈ before, t.phase = .ended) (live : timer.phase ≠ .ended)
    (untold : timer.told = false)
  | telling {before : List TimerThread} {timer : TimerThread} {host : Host}
    (caller : s.caller = .telling before.length host) (held : s.held = none)
    (timers : s.timers = before ++ [timer]) (ended : ∀ t ∈ before, t.phase = .ended)
    (live : timer.phase ≠ .ended) (untold : timer.told = false)
  | joining {before : List TimerThread} {timer : TimerThread} {host : Host}
    (caller : s.caller = .joining before.length host) (held : s.held = none)
    (timers : s.timers = before ++ [timer]) (ended : ∀ t ∈ before, t.phase = .ended)
    (stops : timer.told = true ∨ timer.phase = .ended)

theorem Sound.call (sound : Sound s) (returned : s.caller = .idle) (call : BuildCall) :
    Sound (s.call call) := by
  cases sound with
  | quiet caller held ended =>
    cases call with
    | started =>
      rw [BuildThreads.call]
      split
      · exact .running returned rfl rfl ended TimerPhase.noConfusion rfl
      · exact .quiet caller held ended
    | finished host =>
      rw [BuildThreads.call, held]
      exact .quiet (.inr ⟨_, rfl⟩) rfl ended
  | running caller held timers ended live untold =>
    cases call with
    | started =>
      rw [BuildThreads.call, if_neg (by simp [held])]
      exact .running caller held timers ended live untold
    | finished host =>
      rw [BuildThreads.call, held]
      exact .telling rfl rfl timers ended live untold
  | telling caller => cases returned.symm.trans caller
  | joining caller => cases returned.symm.trans caller

theorem last_of_live {before : List TimerThread} {timer t : TimerThread} {i : Nat}
    (ended : ∀ t ∈ before, t.phase = .ended) (found : (before ++ [timer])[i]? = some t)
    (live : t.phase ≠ .ended) : i = before.length ∧ t = timer := by
  rcases Nat.lt_trichotomy i before.length with earlier | rfl | later
  · rw [List.getElem?_append_left earlier] at found
    exact absurd (ended t (List.mem_of_getElem? found)) live
  · simpa [eq_comm] using found
  · rw [List.getElem?_append_right (Nat.le_of_lt later), List.getElem?_eq_none (by simp; omega)]
      at found
    cases found

theorem set_last {timers before : List TimerThread} {timer : TimerThread}
    (parts : timers = before ++ [timer]) (t : TimerThread) :
    timers.set before.length t = before ++ [t] := by
  simp [parts]

theorem Sound.of_calling (sound : Sound s) {callbacks : List Text}
    (calling : s.caller = .calling callbacks) :
    s.held = none ∧ ∀ t ∈ s.timers, t.phase = .ended := by
  cases sound with
  | quiet caller held ended => exact ⟨held, ended⟩
  | running caller => cases calling.symm.trans caller
  | telling caller => cases calling.symm.trans caller
  | joining caller => cases calling.symm.trans caller

theorem Sound.step (sound : Sound s) (step : Step s s') : Sound s' := by
  cases step with
  | report found =>
    cases sound with
    | quiet caller held ended => cases ended _ (List.mem_of_getElem? found)
    | running caller held timers ended live untold =>
      obtain ⟨rfl, rfl⟩ := last_of_live ended (timers ▸ found) TimerPhase.noConfusion
      exact .running caller held (set_last timers _) ended TimerPhase.noConfusion untold
    | telling caller held timers ended live untold =>
      obtain ⟨rfl, rfl⟩ := last_of_live ended (timers ▸ found) TimerPhase.noConfusion
      exact .telling caller held (set_last timers _) ended TimerPhase.noConfusion untold
    | joining caller held timers ended stops =>
      obtain ⟨rfl, rfl⟩ := last_of_live ended (timers ▸ found) TimerPhase.noConfusion
      exact .joining caller held (set_last timers _) ended
        (.inl (stops.resolve_right TimerPhase.noConfusion))
  | stop found =>
    cases sound with
    | quiet caller held ended => cases ended _ (List.mem_of_getElem? found)
    | running caller held timers ended live untold =>
      obtain ⟨rfl, rfl⟩ := last_of_live ended (timers ▸ found) TimerPhase.noConfusion
      cases untold
    | telling caller held timers ended live untold =>
      obtain ⟨rfl, rfl⟩ := last_of_live ended (timers ▸ found) TimerPhase.noConfusion
      cases untold
    | joining caller held timers ended stops =>
      obtain ⟨rfl, rfl⟩ := last_of_live ended (timers ▸ found) TimerPhase.noConfusion
      exact .joining caller held (set_last timers _) ended (.inr rfl)
  | tell caller' found =>
    cases sound with
    | telling caller held timers ended live untold =>
      cases caller.symm.trans caller'
      exact .joining rfl held (set_last timers _) ended (.inl rfl)
    | quiet caller =>
      rcases caller with idle | ⟨_, calling⟩
      · cases idle.symm.trans caller'
      · cases calling.symm.trans caller'
    | running caller => cases caller.symm.trans caller'
    | joining caller => cases caller.symm.trans caller'
  | join caller' found =>
    cases sound with
    | @joining before timer host caller held timers ended stops =>
      cases caller.symm.trans caller'
      have last : timer.phase = .ended := by
        rw [timers] at found
        rw [show timer = _ by simpa using found]
      refine .quiet (.inr ⟨_, rfl⟩) held fun t member => ?_
      rw [show s.timers = _ from timers, List.mem_append, List.mem_singleton] at member
      rcases member with earlier | rfl
      · exact ended t earlier
      · exact last
    | quiet caller =>
      rcases caller with idle | ⟨_, calling⟩
      · cases idle.symm.trans caller'
      · cases calling.symm.trans caller'
    | running caller => cases caller.symm.trans caller'
    | telling caller => cases caller.symm.trans caller'
  | callBack caller =>
    obtain ⟨held, ended⟩ := sound.of_calling caller
    exact .quiet (.inr ⟨_, rfl⟩) held ended
  | return_ caller =>
    obtain ⟨held, ended⟩ := sound.of_calling caller
    exact .quiet (.inl rfl) held ended

theorem Reached.sound (reached : Reached hasTimer calls s) : Sound s := by
  induction reached with
  | init => exact .quiet (.inl rfl) rfl fun t => by simp
  | call call _ returned ih => exact ih.call returned call
  | step _ step ih => exact ih.step step

theorem live_of_ended {timers : List TimerThread} (ended : ∀ t ∈ timers, t.phase = .ended) :
    timers.countP isLive = 0 :=
  List.countP_eq_zero.2 fun t member => by simp [isLive, ended t member]

theorem Sound.live_le_one (sound : Sound s) : s.timers.countP isLive ≤ 1 := by
  have single {before : List TimerThread} {timer : TimerThread} (timers : s.timers = before ++ [timer])
      (ended : ∀ t ∈ before, t.phase = .ended) : s.timers.countP isLive ≤ 1 := by
    rw [timers, List.countP_append, live_of_ended ended, Nat.zero_add]
    exact List.countP_le_length
  cases sound with
  | quiet caller held ended =>
    rw [live_of_ended ended]
    exact Nat.zero_le 1
  | running caller held timers ended => exact single timers ended
  | telling caller held timers ended => exact single timers ended
  | joining caller held timers ended => exact single timers ended

structure Counted (s : BuildThreads) : Prop where
  started : s.log.count .timerStarted = s.timers.length
  reported : s.log.count .reported + s.timers.countP isSilent = s.timers.length

theorem Counted.call (counted : Counted s) (call : BuildCall) : Counted (s.call call) := by
  have started := counted.started
  have reported := counted.reported
  cases call with
  | started =>
    rw [BuildThreads.call]
    split
    · have fresh : List.countP isSilent (s.timers ++ [⟨.reporting, false⟩]) =
          s.timers.countP isSilent + 1 := List.countP_append
      refine ⟨by simp [started], ?_⟩
      rw [List.count_append, fresh, List.length_append, ← reported]
      exact (Nat.add_assoc ..).symm
    · exact counted
  | finished host =>
    rw [BuildThreads.call]
    split
    · exact ⟨started, reported⟩
    · exact ⟨started, reported⟩

theorem countP_set_of_getElem? {p : TimerThread → Bool} {timers : List TimerThread} {i : Nat}
    {t : TimerThread} (found : timers[i]? = some t) (u : TimerThread) :
    (timers.set i u).countP p + (p t).toNat = timers.countP p + (p u).toNat := by
  have count (t : TimerThread) (timers : List TimerThread) :
      (t :: timers).countP p = timers.countP p + (p t).toNat := by
    rw [List.countP_cons]
    cases p t <;> rfl
  induction timers generalizing i with
  | nil => cases found
  | cons first timers ih =>
    cases i with
    | zero =>
      cases found
      rw [List.set_cons_zero, count, count]
      omega
    | succ i =>
      have rest := ih (i := i) found
      rw [List.set_cons_succ, count, count]
      omega

theorem Counted.step (counted : Counted s) (step : Step s s') : Counted s' := by
  have started := counted.started
  have reported := counted.reported
  cases step with
  | @report i told found =>
    have less : (s.timers.set i ⟨.waiting, told⟩).countP isSilent + 1 =
        s.timers.countP isSilent := countP_set_of_getElem? (p := isSilent) found _
    refine ⟨by simp [started], ?_⟩
    rw [List.count_append, List.length_set, ← reported, ← less]
    exact Nat.add_right_comm ..
  | @stop i found =>
    have same : (s.timers.set i ⟨.ended, false⟩).countP isSilent = s.timers.countP isSilent :=
      countP_set_of_getElem? (p := isSilent) found _
    exact ⟨by simp [started], by rw [same, List.length_set, reported]⟩
  | @tell i host phase caller found =>
    have same : (s.timers.set i ⟨phase, true⟩).countP isSilent = s.timers.countP isSilent :=
      Nat.add_right_cancel (countP_set_of_getElem? (p := isSilent) found _)
    exact ⟨by simp [started], by rw [same, List.length_set, reported]⟩
  | join caller => exact ⟨by simp [started], by simp [reported]⟩
  | callBack caller => exact ⟨by simp [started], by simp [reported]⟩
  | return_ caller => exact ⟨started, reported⟩

theorem Reached.counted (reached : Reached hasTimer calls s) : Counted s := by
  induction reached with
  | init => exact ⟨rfl, rfl⟩
  | call call _ _ ih => exact ih.call call
  | step _ step ih => exact ih.step step

-- How many steps there are left to take without another call.
def work (s : BuildThreads) : Nat :=
  s.timers.countP isLive + s.timers.countP isSilent +
    match s.caller with
    | .idle => 0
    | .telling _ host => host.buildDone.length + 3
    | .joining _ host => host.buildDone.length + 2
    | .calling callbacks => callbacks.length + 1

theorem Step.work_lt (step : Step s s') : s'.work < s.work := by
  cases step with
  | @report i told found =>
    have live : (s.timers.set i ⟨.waiting, told⟩).countP isLive + 1 = s.timers.countP isLive + 1 :=
      countP_set_of_getElem? (p := isLive) found _
    have silent : (s.timers.set i ⟨.waiting, told⟩).countP isSilent + 1 =
        s.timers.countP isSilent := countP_set_of_getElem? (p := isSilent) found _
    simp only [work]
    omega
  | @stop i found =>
    have live : (s.timers.set i ⟨.ended, false⟩).countP isLive + 1 = s.timers.countP isLive :=
      countP_set_of_getElem? (p := isLive) found _
    have silent : (s.timers.set i ⟨.ended, false⟩).countP isSilent = s.timers.countP isSilent :=
      countP_set_of_getElem? (p := isSilent) found _
    simp only [work]
    omega
  | @tell i host phase caller found =>
    have live := countP_set_of_getElem? (p := isLive) found ⟨phase, true⟩
    have silent := countP_set_of_getElem? (p := isSilent) found ⟨phase, true⟩
    simp only [isLive, isSilent] at live silent
    simp only [work, caller]
    omega
  | join caller found => simp [work, caller]
  | callBack caller => simp [work, caller]
  | return_ caller => simp [work, caller]

theorem Sound.exists_step (sound : Sound s) (busy : s.caller ≠ .idle) : ∃ s', Step s s' := by
  cases sound with
  | quiet caller held ended =>
    rcases caller with idle | ⟨callbacks, calling⟩
    · exact absurd idle busy
    · cases callbacks with
      | nil => exact ⟨_, .return_ calling⟩
      | cons callback callbacks => exact ⟨_, .callBack calling⟩
  | running idle => exact absurd idle busy
  | @telling before timer host telling held timers ended live untold =>
    obtain ⟨phase, told⟩ := timer
    cases untold
    have found : s.timers[before.length]? = some ⟨phase, false⟩ := by simp [timers]
    exact ⟨_, .tell telling found⟩
  | @joining before timer host joining held timers ended stops =>
    obtain ⟨phase, told⟩ := timer
    have found : s.timers[before.length]? = some ⟨phase, told⟩ := by simp [timers]
    cases phase with
    | reporting => exact ⟨_, .report found⟩
    | waiting =>
      cases stops.resolve_right TimerPhase.noConfusion
      exact ⟨_, .stop found⟩
    | ended => exact ⟨_, .join joining found⟩

theorem Reached.exists_idle (reached : Reached hasTimer calls s) :
    ∃ s', Reached hasTimer calls s' ∧ s'.caller = .idle := by
  induction left : s.work using Nat.strongRecOn generalizing s with
  | ind n ih =>
    by_cases idle : s.caller = .idle
    · exact ⟨s, reached, idle⟩
    · obtain ⟨s', step⟩ := reached.sound.exists_step idle
      exact ih s'.work (left ▸ step.work_lt) (reached.step step) rfl

theorem exists_reached (hasTimer : Bool) (calls : List BuildCall) :
    ∃ s, Reached hasTimer calls s ∧ s.caller = .idle := by
  induction calls using List.reverseRecOn with
  | nil => exact ⟨_, .init, rfl⟩
  | append_singleton calls call ih =>
    obtain ⟨s, reached, idle⟩ := ih
    exact (reached.call call idle).exists_idle

theorem callbacks_ordered (events : List BuildEvent) :
    (ordered events).filterMap BuildEvent.callback? = events.filterMap BuildEvent.callback? := by
  induction events with
  | nil => rfl
  | cons event events ih =>
    have split (event : BuildEvent) : ordered (event :: events) = ordered [event] ++ ordered events :=
      ordered_append [event] events
    rw [split, List.filterMap_append, ih]
    cases event <;> rfl

theorem count_ordered {event : BuildEvent} (kept : event ≠ .reported) (events : List BuildEvent) :
    (ordered events).count event = events.count event :=
  List.count_filter (by simpa using kept)

theorem length_timers_call (s : BuildThreads) (call : BuildCall) :
    s.timers.length < (s.call call).timers.length ↔
      call = .started ∧ s.hasTimer = true ∧ s.held = none := by
  cases call with
  | started =>
    rw [BuildThreads.call]
    split
    · next fresh => simp [fresh]
    · next other => simpa using other
  | finished host =>
    rw [BuildThreads.call]
    split <;> simp

theorem Reached.counts (reached : Reached hasTimer calls s) (idle : s.caller = .idle)
    (none_ : s.held = none) : s.timers.countP isLive = 0 ∧
      s.log.count .timerStarted = s.timers.length ∧ s.log.count .reported = s.timers.length ∧
      s.log.count .timerStopped = s.timers.length := by
  have ended : ∀ t ∈ s.timers, t.phase = .ended := by
    cases reached.sound with
    | quiet _ _ ended => exact ended
    | running _ held => cases none_.symm.trans held
    | telling busy => cases idle.symm.trans busy
    | joining busy => cases idle.symm.trans busy
  have live := live_of_ended ended
  have silent : s.timers.countP isSilent = 0 :=
    List.countP_eq_zero.2 fun t member => by simp [isSilent, ended t member]
  have started := reached.counted.started
  have reported := reached.counted.reported
  have balance := Reporting.events_balance { hasTimer } calls
  have events := reached.ordered_eq
  have owed : s.owed = [] := by rw [BuildThreads.owed, idle]
  have running : s.reporting.isRunning = false := by simp [reporting, none_]
  rw [owed, List.append_nil] at events
  have same {event : BuildEvent} (kept : event ≠ .reported) :
      (Reporting.events { hasTimer } calls).count event = s.log.count event := by
    rw [← count_ordered kept, ← events, count_ordered kept]
  rw [← reached.reporting_eq, running, same (by decide), same (by decide), started] at balance
  exact ⟨live, started, by omega, balance.symm⟩

-- For all calls: a timer runs exactly where a build was started behind the last one that was
-- finished, each start that finds none running starts one, and each finish calls its host's
-- callbacks. The threads come to just that in whatever order they take their steps. At most one
-- timer is live at any time, every call returns, and when a build was finished each timer has
-- reported once and ended.
theorem reporting_protocol (hasTimer : Bool) (calls : List BuildCall) (call : BuildCall) :
    let r := Reporting.after { hasTimer } calls
    (r.isRunning = true ↔ hasTimer = true ∧ ∃ before behind,
      calls = before ++ .started :: behind ∧ ∀ host, .finished host ∉ behind) ∧
    (.timerStarted ∈ (r.step call).2 ↔
      call = .started ∧ hasTimer = true ∧ r.isRunning = false) ∧
    (r.step call).2.filterMap BuildEvent.callback? = call.callbacks ∧
    (∃ s, Reached hasTimer calls s ∧ s.caller = .idle) ∧
    ∀ s, Reached hasTimer calls s →
      s.timers.countP isLive ≤ 1 ∧
      (s.caller ≠ .idle → ∃ s', Step s s') ∧ (∀ s', Step s s' → s'.work < s.work) ∧
      (s.caller = .idle →
        s.reporting = r ∧
        (s.timers.length < (s.call call).timers.length ↔
          call = .started ∧ hasTimer = true ∧ r.isRunning = false) ∧
        ordered s.log = ordered (Reporting.events { hasTimer } calls) ∧
        s.log.filterMap BuildEvent.callback? = calls.flatMap BuildCall.callbacks ∧
        (r.isRunning = false → s.timers.countP isLive = 0 ∧
          s.log.count .timerStarted = s.timers.length ∧ s.log.count .reported = s.timers.length ∧
          s.log.count .timerStopped = s.timers.length)) := by
  intro r
  have timer : r.hasTimer = hasTimer := Reporting.after_hasTimer _ calls
  have starts := r.timerStarted_mem_step_iff call
  rw [timer] at starts
  refine ⟨Reporting.isRunning_after_iff hasTimer calls, starts, r.callbacks_step call,
    exists_reached hasTimer calls, fun s reached => ?_⟩
  refine ⟨reached.sound.live_le_one, reached.sound.exists_step, fun s' step => step.work_lt,
    fun idle => ?_⟩
  have same : s.reporting = r := reached.reporting_eq
  have owed : s.owed = [] := by rw [BuildThreads.owed, idle]
  have events := reached.ordered_eq
  rw [owed, List.append_nil] at events
  have held : r.isRunning = false ↔ s.held = none := by
    rw [← same]
    exact Option.isSome_eq_false_iff.trans Option.isNone_iff_eq_none
  refine ⟨same, ?_, events, ?_, fun none_ => reached.counts idle (held.1 none_)⟩
  · have given : s.hasTimer = hasTimer := by
      rw [← timer, ← same]
      rfl
    rw [length_timers_call, given, held]
  · rw [← callbacks_ordered, events, callbacks_ordered, Reporting.callbacks_events]

theorem reporting_protocol_started_twice :
    let host : Host :=
      { plugins := [.buildDone ["a".toList, "b".toList], .other "c".toList, .buildDone ["d".toList]] }
    let calls : List BuildCall := [.started, .started, .finished host, .finished host]
    ∃ s, Reached true calls s ∧ s.caller = .idle ∧
      ordered s.log = [.timerStarted, .timerStopped, .called "a".toList, .called "b".toList,
        .called "d".toList, .called "a".toList, .called "b".toList, .called "d".toList] ∧
      s.log.filterMap BuildEvent.callback? =
        ["a".toList, "b".toList, "d".toList, "a".toList, "b".toList, "d".toList] ∧
      s.log.count .reported = 1 ∧ s.timers.countP isLive = 0 := by
  intro host calls
  obtain ⟨-, -, -, ⟨s, reached, idle⟩, every⟩ := reporting_protocol true calls .started
  obtain ⟨-, -, -, returned⟩ := every s reached
  obtain ⟨-, -, log, callbacks, stopped⟩ := returned idle
  obtain ⟨live, started, reported, -⟩ := stopped rfl
  refine ⟨s, reached, idle, log, callbacks, ?_, live⟩
  rw [reported, ← started, ← count_ordered (by decide), log]
  rfl

end BuildThreads
end ComponentLoader
