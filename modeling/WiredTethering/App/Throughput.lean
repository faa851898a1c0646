import WiredTethering.App.Cleared
import WiredTethering.Transition.Trail

/-!
# Throughput within one session

`updateRates` subtracts the counters of the status before from those of a status, and
wraps when they are lower.  No ending of a session but an error line and a return to idle
clears the counters that are kept, and no attempt does.  The module says under which
condition on the steps of a run nothing is subtracted across sessions.
-/

namespace WiredTethering.App

open WiredTethering.Transition

/-- The counters of a message that says that this session connects or is connected. -/
def counted (session : Nat) : Nat × EngineEvent → Option (UInt64 × UInt64)
  | (sender, .status line) =>
      if sender = session ∧ line.state.isUp then some (line.rxBytes, line.txBytes) else none
  | _ => none

/-- The message that an accept thread reads from its engine. -/
def Label.message : Label → Option (Nat × EngineEvent)
  | .thread session (.line event) => some (session, event)
  | _ => none

/-- The counters that the engine of a session reports in this step. -/
def reported (session : Nat) (label : Label) : List (UInt64 × UInt64) :=
  (label.message.bind (counted session)).toList

/-- What `updateRates` computes from the kept counters `last` does not wrap. -/
structure Unwrapped (r : Rates) (line : EngineStatus) (now : Int) (last : UInt64 × UInt64) :
    Prop where
  rx : last.1 ≤ line.rxBytes
  tx : last.2 ≤ line.txBytes
  peakRx : (updateRates r line now).peakRateRx = r.peakRateRx ∨
    (updateRates r line now).peakRateRx.bytes.toNat = line.rxBytes.toNat - last.1.toNat
  peakTx : (updateRates r line now).peakRateTx = r.peakRateTx ∨
    (updateRates r line now).peakRateTx.bytes.toNat = line.txBytes.toNat - last.2.toNat

namespace Controller

/-- The message is a line that is shown as up, and its counters are kept. -/
def Counts (s : Controller) : EngineEvent → Prop
  | .status incoming =>
      shouldApplyEngineStatus s.status.state incoming.state s.userStopping = true ∧
        incoming.state.isUp = true
  | _ => False

/-- A new session finds no counters kept, and a line that is shown comes from the session
that the controller has, in order. -/
def MeasuresApart (s : Controller) : Label → Prop
  | .resume job calls => ∀ j ∈ s.jobs[job]?, s.Opens calls j → s.rates.lastBytes = none
  | .receive index _ => ∀ m ∈ s.events[index]?, s.Counts m.2 →
      s.session = some m.1 ∧ ∀ earlier ∈ s.events.take index, counted m.1 earlier = none
  | _ => True

instance decidableCounts (s : Controller) : DecidablePred s.Counts
  | .status _ => inferInstanceAs (Decidable (_ ∧ _))
  | .log _ _ | .closed => .isFalse id

instance decidableMeasuresApart (s : Controller) : DecidablePred s.MeasuresApart
  | .resume job _ => inferInstanceAs (Decidable (∀ j ∈ s.jobs[job]?, _ → _))
  | .receive index _ => inferInstanceAs (Decidable (∀ m ∈ s.events[index]?, _ → _ ∧ _))
  | .select _ | .prefer _ | .connectSelected _ | .disconnect | .quit | .toggleHelper _ | .poll _
  | .enginePoll _ | .answer _ | .watchdog _ | .privilegedExit _ _ | .thread _ _
  | .dealloc _ => .isTrue trivial

end Controller

/-! ## One subtraction -/

namespace Controller

end Controller

end WiredTethering.App
