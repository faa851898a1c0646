import Mathlib.Data.List.Basic
import Mathlib.Data.UInt

/-!
# What the menu-bar app shows

The device and connection models of `Models.swift`, the two guards of
`ParseHelpers.swift` on what an engine may change, and the counters and rates that
`TetherController` keeps with a status.  The texts of the user's language are a
parameter.
-/

namespace WiredTethering.App

inductive ConnectionState
  | idle
  | connecting
  | connected
  | stopping
  | error
deriving DecidableEq, Repr

structure EngineStatus where
  state : ConnectionState := .idle
  iface : String := ""
  ip : String := ""
  gateway : String := ""
  dns : String := ""
  error : String := ""
  rxBytes : UInt64 := 0
  txBytes : UInt64 := 0
  rxErrors : UInt64 := 0
  txErrors : UInt64 := 0
  pid : Int := 0
  linkMbps : UInt32 := 0
  mtu : Int := 0
deriving DecidableEq, Repr

inductive USBKind
  | rndis
  | android
  | unknown
deriving DecidableEq, Repr

structure USBDevice where
  vid : UInt16
  pid : UInt16
  location : UInt32
  name : String
  vendor : String
  serial : String
  kind : USBKind
deriving DecidableEq, Repr

/-- `USBDevice.id`. -/
def USBDevice.id (d : USBDevice) : String :=
  toString d.location ++ "-" ++ toString d.vid ++ "-" ++ toString d.pid ++ "-" ++ d.serial

inductive HelperStatus
  | enabled
  | requiresApproval
  | notRegistered
  | unavailable
deriving DecidableEq, Repr

/-- A message of the accept thread. -/
inductive EngineEvent
  | log (level message : String)
  | status (s : EngineStatus)
  | closed
deriving DecidableEq, Repr

/-- The texts of the user's language: a key's text, and what is shown for an engine's. -/
structure L10n where
  t : String → String
  display : String → String

/-- The state of a session that connects or is connected. -/
def ConnectionState.isUp (state : ConnectionState) : Bool :=
  state == .connecting || state == .connected

/-- The guard of `isSessionActive`. -/
def ConnectionState.isActive (state : ConnectionState) : Bool :=
  state.isUp || state == .stopping

/-- `shouldApplyEngineStatus`. -/
def shouldApplyEngineStatus (current incoming : ConnectionState) (userStopping : Bool) : Bool :=
  if incoming = .error then true
  else if current = .error then false
  else if userStopping then false
  else if incoming = .idle ∧ current = .connecting then false
  else true

/-- `shouldKeepStateOnSocketClosed`. -/
def shouldKeepStateOnSocketClosed (current : ConnectionState) (userStopping : Bool) : Bool :=
  if userStopping then true
  else
    match current with
    | .error | .stopping => true
    | .connecting | .connected | .idle => false

/-- A text of the last session where the final error line leaves one out. -/
def keepText (incoming previous : String) : String :=
  if incoming.isEmpty && !previous.isEmpty then previous else incoming

/-- `mergeErrorStatus`: a final error line omits what it does not know. -/
def mergeErrorStatus (previous incoming : EngineStatus) : EngineStatus :=
  { incoming with
    rxBytes := if incoming.rxBytes = 0 ∧ 0 < previous.rxBytes then previous.rxBytes
      else incoming.rxBytes
    txBytes := if incoming.txBytes = 0 ∧ 0 < previous.txBytes then previous.txBytes
      else incoming.txBytes
    rxErrors := if incoming.rxErrors = 0 ∧ 0 < previous.rxErrors then previous.rxErrors
      else incoming.rxErrors
    txErrors := if incoming.txErrors = 0 ∧ 0 < previous.txErrors then previous.txErrors
      else incoming.txErrors
    linkMbps := if incoming.linkMbps = 0 ∧ 0 < previous.linkMbps then previous.linkMbps
      else incoming.linkMbps
    mtu := if incoming.mtu = 0 ∧ 0 < previous.mtu then previous.mtu else incoming.mtu
    iface := keepText incoming.iface previous.iface
    ip := keepText incoming.ip previous.ip
    gateway := keepText incoming.gateway previous.gateway
    dns := keepText incoming.dns previous.dns
    error := if incoming.error.isEmpty then previous.error else incoming.error }

/-- Bytes over milliseconds, which the app divides as a `Double`. -/
structure Rate where
  bytes : UInt64 := 0
  millis : Nat := 1
deriving DecidableEq, Repr

def Rate.below (slow fast : Rate) : Bool :=
  slow.bytes.toNat * fast.millis < fast.bytes.toNat * slow.millis

structure Rates where
  lastRateRx : Rate := {}
  lastRateTx : Rate := {}
  peakRateRx : Rate := {}
  peakRateTx : Rate := {}
  /-- The counters of the last status and when it came, in milliseconds. -/
  lastBytes : Option (UInt64 × UInt64 × Int) := none
deriving DecidableEq, Repr

/-- `updateRates` at the time `now`. -/
def updateRates (r : Rates) (s : EngineStatus) (now : Int) : Rates :=
  if s.state = .error then { r with lastRateRx := {}, lastRateTx := {}, lastBytes := none }
  else if !s.state.isUp then {}
  else
    let r :=
      match r.lastBytes with
      | none => r
      | some (rx, tx, before) =>
          if 200 < now - before then
            let rateRx : Rate := ⟨s.rxBytes - rx, (now - before).toNat⟩
            let rateTx : Rate := ⟨s.txBytes - tx, (now - before).toNat⟩
            { r with
              lastRateRx := rateRx
              lastRateTx := rateTx
              peakRateRx := if r.peakRateRx.below rateRx then rateRx else r.peakRateRx
              peakRateTx := if r.peakRateTx.below rateTx then rateTx else r.peakRateTx }
          else r
    { r with lastBytes := some (s.rxBytes, s.txBytes, now) }

end WiredTethering.App
