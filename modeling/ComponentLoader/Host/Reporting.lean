import ComponentLoader.Host.Basic

namespace ComponentLoader

inductive BuildEvent where
  | timerStarted
  | reported
  | timerStopped
  | called (callback : Text)
  deriving DecidableEq

structure Reporting where
  hasTimer : Bool
  isRunning : Bool := false
  deriving DecidableEq

inductive BuildCall where
  | started
  | finished (host : Host)

namespace Reporting

-- A timer reports at once; its interval is longer than any build here.
def startBuild (r : Reporting) : Reporting × List BuildEvent :=
  if r.hasTimer && !r.isRunning then
    ({ r with isRunning := true }, [.timerStarted, .reported])
  else (r, [])

def stopTimer (r : Reporting) : Reporting × List BuildEvent :=
  ({ r with isRunning := false }, if r.isRunning then [.timerStopped] else [])

def finishBuild (r : Reporting) (h : Host) : Reporting × List BuildEvent :=
  let (r, events) := r.stopTimer
  (r, events ++ h.buildDone.map .called)

def step (r : Reporting) : BuildCall → Reporting × List BuildEvent
  | .started => r.startBuild
  | .finished host => r.finishBuild host

def after (r : Reporting) (calls : List BuildCall) : Reporting :=
  calls.foldl (fun r call => (r.step call).1) r

def events (r : Reporting) : List BuildCall → List BuildEvent
  | [] => []
  | call :: calls => (r.step call).2 ++ (r.step call).1.events calls

end Reporting
end ComponentLoader
