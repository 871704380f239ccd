import ComponentLoader.Host.Reporting

namespace ComponentLoader

inductive TimerPhase where
  | reporting
  | waiting
  | ended
  deriving DecidableEq

-- A timer that was started. It has a thread of its own, which reports and then waits for a message;
-- the thread that makes the calls sends it and goes on when the other has ended.
structure TimerThread where
  phase : TimerPhase := .reporting
  told : Bool := false
  deriving DecidableEq

-- What is left to do of the call that is being made.
inductive Caller where
  | idle
  | telling (timer : Nat) (host : Host)
  -- The timer in that place has to end.
  | joining (timer : Nat) (host : Host)
  | calling (callbacks : List Text)

structure BuildThreads where
  hasTimer : Bool
  timers : List TimerThread := []
  -- The place of the one that is held.
  held : Option Nat := none
  caller : Caller := .idle
  log : List BuildEvent := []

namespace BuildThreads

def call (s : BuildThreads) : BuildCall → BuildThreads
  | .started =>
    if s.hasTimer ∧ s.held = none then
      { s with
        timers := s.timers ++ [{}]
        held := some s.timers.length
        log := s.log ++ [.timerStarted] }
    else s
  | .finished host =>
    match s.held with
    | some timer => { s with held := none, caller := .telling timer host }
    | none => { s with caller := .calling host.buildDone }

inductive Step (s : BuildThreads) : BuildThreads → Prop where
  | report {i : Nat} {told : Bool} (timer : s.timers[i]? = some ⟨.reporting, told⟩) :
    Step s { s with timers := s.timers.set i ⟨.waiting, told⟩, log := s.log ++ [.reported] }
  | stop {i : Nat} (timer : s.timers[i]? = some ⟨.waiting, true⟩) :
    Step s { s with timers := s.timers.set i ⟨.ended, false⟩ }
  | tell {i : Nat} {host : Host} {phase : TimerPhase} (caller : s.caller = .telling i host)
    (timer : s.timers[i]? = some ⟨phase, false⟩) :
    Step s { s with timers := s.timers.set i ⟨phase, true⟩, caller := .joining i host }
  | join {i : Nat} {host : Host} {told : Bool} (caller : s.caller = .joining i host)
    (timer : s.timers[i]? = some ⟨.ended, told⟩) :
    Step s { s with caller := .calling host.buildDone, log := s.log ++ [.timerStopped] }
  | callBack {callback : Text} {callbacks : List Text}
    (caller : s.caller = .calling (callback :: callbacks)) :
    Step s { s with caller := .calling callbacks, log := s.log ++ [.called callback] }
  | return_ (caller : s.caller = .calling []) : Step s { s with caller := .idle }

-- The states that the calls lead to, one after the other, with any steps in between.
inductive Reached (hasTimer : Bool) : List BuildCall → BuildThreads → Prop where
  | init : Reached hasTimer [] { hasTimer }
  | call {calls : List BuildCall} {s : BuildThreads} (call : BuildCall)
    (reached : Reached hasTimer calls s) (returned : s.caller = .idle) :
    Reached hasTimer (calls ++ [call]) (s.call call)
  | step {calls : List BuildCall} {s s' : BuildThreads} (reached : Reached hasTimer calls s)
    (step : Step s s') : Reached hasTimer calls s'

end BuildThreads
end ComponentLoader
