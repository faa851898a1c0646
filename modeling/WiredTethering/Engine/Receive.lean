import WiredTethering.Engine.DataPath
import WiredTethering.Usb.Async

/-!
# Receiving from the USB device

`usb_io_thread` gives its receive buffers to IOKit; a completion calls `on_usb_in`,
which hands the buffer back with `at_usb_async_submit_in`.  The completions are
delivered while the thread is in `at_usb_async_run`, so a callback is only
interrupted by the other threads, which change the state and clear `running`.

What `on_usb_in` does with the frames of a transfer is the subject of `Threads`,
what the thread does with the transmit queue that of `TxQueue`.
-/

namespace WiredTethering.Engine

open WiredTethering.Memory
open WiredTethering.Common
open WiredTethering.Usb
open WiredTethering.Transition

/-! ## The thread -/

/-- A position of `usb_io_thread`.  From `callback` to `lost` it is inside `on_usb_in`; `judge`
and `lost` are in `engine_fail`, behind a failed completion and behind a failed
resubmission. -/
inductive InPc where
  | attach
  | prime (i : Nat)
  | head
  | check
  | service
  | callback (rc : Int) (got : Nat) (buf : Option InBuf)
  | judge (c : Call) (buf : Option InBuf)
  | reload (buf : Option InBuf)
  | submit (buf : InBuf)
  | lost (c : Call) (buf : InBuf)
  | vanished (c : Call)
  | fallback
  | left
deriving DecidableEq, Repr

/-- The thread with what it shares; `primed` are the buffers whose first submission has
succeeded. -/
structure UsbIn where
  e : AtEngine
  u : AsyncIn
  primed : List InBuf
  pc : InPc
deriving DecidableEq, Repr

inductive InLabel where
  | attached (ok : Bool)
  /-- A submission, and what the two reads return. -/
  | submitted (read readTO : IOReturn)
  | run (spurious : Bool)
  /-- A request completes. -/
  | complete (r : Request) (result : IOReturn) (arg0 : Nat)
  /-- `at_usb_async_run` returns. -/
  | serviced
  /-- The device is seen to be gone. -/
  | vanish
  /-- What the other threads do: they store a state, or clear `running`. -/
  | others (running : Bool) (state : AtState)

def UsbIn.start (e : AtEngine) (gone : Bool) : UsbIn :=
  ⟨e, .attached gone, [], .attach⟩

/-- `note_usb_hard_fail`: the counter, and whether the engine is to fail. -/
def noteUsbHardFail (e : AtEngine) (gone : Bool) : AtEngine × Option Call :=
  let n := e.usbHardFails + 1
  ({ e with usbHardFails := n },
    if n < usbGoneFails then none else some (engineFail (usbLostMsg gone)))

/-- A submission of the thread. -/
def submitStep (s : UsbIn) (read readTO : IOReturn) : Option UsbIn :=
  match s.pc with
  | .prime i =>
      if here : i < inDepth then
        let (u, rc) := atUsbAsyncSubmitIn s.u ⟨i, here⟩ read readTO
        let primed := if rc = 0 then s.primed ++ [⟨i, here⟩] else s.primed
        some { s with u := u, primed := primed, pc := .prime (i + 1) }
      else none
  | .submit buf =>
      let (u, rc) := atUsbAsyncSubmitIn s.u buf read readTO
      if rc ≠ 0 then
        let (e, fail) := noteUsbHardFail s.e u.gone
        match fail with
        | none => some { s with e := e, u := u, pc := .service }
        | some c => some { s with e := e, u := u, pc := .lost c buf }
      else some { s with u := u, pc := .service }
  | _ => none

/-- `on_usb_in` up to its load of `running`. -/
def onUsbIn (s : UsbIn) (rc : Int) (got : Nat) (buf : Option InBuf) : UsbIn :=
  if rc = 0 ∧ 0 < got ∧ buf.isSome then
    { s with e := { s.e with usbHardFails := 0 }, pc := .reload buf }
  else if rc < 0 then
    let (e, fail) := noteUsbHardFail s.e s.u.gone
    match fail with
    | none => { s with e := e, pc := .reload buf }
    | some c => { s with e := e, pc := .judge c buf }
  else { s with pc := .reload buf }

/-- A step of `engine_fail`, and where the thread is behind it. -/
def failStep (s : UsbIn) (spurious : Bool) (c : Call) (within : Call → InPc) (behind : InPc) :
    UsbIn :=
  let (e, rest) := c.step s.e spurious
  { s with e := e, pc := (rest.map within).getD behind }

/-- One step of the thread, or of what surrounds it. -/
def usbInStep : Step UsbIn InLabel
  | s, .attached ok =>
      if s.pc = .attach then
        some { s with u := .attached s.u.gone, pc := if ok then .prime 0 else .fallback }
      else none
  | s, .submitted read readTO => submitStep s read readTO
  | s, .run spurious =>
      match s.pc with
      | .prime i =>
          if i < inDepth then none
          else some { s with pc := if s.primed.length = 0 then .fallback else .head }
      | .head => some { s with pc := if s.e.running then .check else .left }
      | .check =>
          some { s with pc := if s.u.gone then .vanished (engineFail msgUsbGone) else .service }
      | .callback rc got buf => some (onUsbIn s rc got buf)
      | .judge c buf => some (failStep s spurious c (.judge · buf) (.reload buf))
      | .reload buf =>
          match buf with
          | some buf => some { s with pc := if s.e.running then .submit buf else .service }
          | none => some { s with pc := .service }
      | .lost c buf => some (failStep s spurious c (.lost · buf) .service)
      | .vanished c => some (failStep s spurious c .vanished .left)
      | _ => none
  | s, .complete r result arg0 =>
      if s.pc = .service ∧ r ∈ s.u.pending then
        let (u, rc, got, buf) :=
          asyncInDone { s.u with pending := s.u.pending.erase r } r.slot result arg0
        some { s with u := u, pc := .callback rc got buf }
      else none
  | s, .serviced => if s.pc = .service then some { s with pc := .head } else none
  | s, .vanish => some { s with u := { s.u with gone := true } }
  | s, .others running state =>
      some { s with e := { s.e with running := s.e.running && running, state := state } }

/-! ## The law -/

/-- The buffer of the callback that is running. -/
def InPc.owned : InPc → Option InBuf
  | .callback _ _ buf | .judge _ buf | .reload buf => buf
  | .submit buf | .lost _ buf => some buf
  | _ => none

/-- In the asynchronous loop. -/
def InPc.InLoop : InPc → Prop
  | .attach | .prime _ | .fallback | .left => False
  | _ => True

/-- The buffers of the requests in flight. -/
def UsbIn.inFlight (s : UsbIn) : List InBuf :=
  s.u.pending.map Request.buf

/-- No buffer is in two requests, each one is in a request or with the callback, and outside
of callbacks a request is in flight. -/
structure Receives (s : UsbIn) : Prop where
  distinct : s.inFlight.Nodup
  attached : ∀ buf ∈ s.primed,
    buf ∈ s.inFlight ∧ s.pc.owned ≠ some buf ∨ buf ∉ s.inFlight ∧ s.pc.owned = some buf
  inFlight : s.pc.owned = none → s.inFlight ≠ []

/-- The law for a thread in its asynchronous loop. -/
def ReceiveLaw (s : UsbIn) : Prop :=
  s.e.running = true → s.pc.InLoop → Receives s

/-- The thread is about to resubmit a buffer. -/
def InPc.resubmitting : InPc → Bool
  | .submit _ => true
  | _ => false

/-- Behind a failed resubmission, `engine_fail` is about to look at the state. -/
def InPc.losing : InPc → Bool
  | .lost (.failLoad _) _ => true
  | _ => false

/-- A resubmission is accepted or is the failure that fails the engine; and `engine_fail` finds
the engine ended behind one only if `running` is cleared. -/
def Resubmits (s : UsbIn) : InLabel → Prop
  | .submitted read readTO =>
      s.pc.resubmitting = true →
        accepts read readTO = true ∨ usbGoneFails ≤ s.e.usbHardFails + 1
  | .run _ =>
      s.pc.losing = true → s.e.state = .stopping ∨ s.e.state = .error → s.e.running = false
  | _ => True

instance (s : UsbIn) : DecidablePred (Resubmits s)
  | .submitted _ _ | .run _ => inferInstanceAs (Decidable (_ → _))
  | .attached _ | .complete _ _ _ | .serviced | .vanish | .others _ _ => .isTrue trivial

/-! ## What a step does -/

/-- The two states hold the same buffers in the same places. -/
structure SameHolding (s next : UsbIn) : Prop where
  urbs : next.u.urbs = s.u.urbs
  pending : next.u.pending = s.u.pending
  primed : next.primed = s.primed

theorem SameHolding.of_pc {s : UsbIn} {e : AtEngine} {pc : InPc} :
    SameHolding s { s with e := e, pc := pc } :=
  ⟨rfl, rfl, rfl⟩

/-- What a step does with the buffers. -/
inductive InMoves (s next : UsbIn) : InLabel → Prop where
  | attached (ok : Bool) (here : s.pc = .attach) (u : next.u = .attached s.u.gone)
      (primed : next.primed = s.primed) (goes : next.pc = .prime 0 ∨ next.pc = .fallback) :
      InMoves s next (.attached ok)
  | primed (i : Fin inDepth) (read readTO : IOReturn) (here : s.pc = .prime i)
      (e : next.e = s.e) (u : next.u = (atUsbAsyncSubmitIn s.u i read readTO).1)
      (primed : next.primed =
        if (atUsbAsyncSubmitIn s.u i read readTO).2 = 0 then s.primed ++ [i] else s.primed)
      (goes : next.pc = .prime (i + 1)) : InMoves s next (.submitted read readTO)
  | begun (i : Nat) (spurious : Bool) (here : s.pc = .prime i) (e : next.e = s.e)
      (held : SameHolding s next)
      (goes : s.primed ≠ [] ∧ next.pc = .head ∨ next.pc = .fallback) :
      InMoves s next (.run spurious)
  | resubmitted (buf : InBuf) (read readTO : IOReturn) (here : s.pc = .submit buf)
      (e : next.e = s.e) (u : next.u = (atUsbAsyncSubmitIn s.u buf read readTO).1)
      (accepted : (atUsbAsyncSubmitIn s.u buf read readTO).2 = 0)
      (primed : next.primed = s.primed) (goes : next.pc = .service) :
      InMoves s next (.submitted read readTO)
  | refused (buf : InBuf) (read readTO : IOReturn) (here : s.pc = .submit buf)
      (running : next.e.running = s.e.running)
      (u : next.u = (atUsbAsyncSubmitIn s.u buf read readTO).1)
      (refused : (atUsbAsyncSubmitIn s.u buf read readTO).2 ≠ 0) (primed : next.primed = s.primed)
      (goes : s.e.usbHardFails + 1 < usbGoneFails ∧ next.pc = .service ∨
        ∃ msg, next.pc = .lost (engineFail msg) buf) : InMoves s next (.submitted read readTO)
  | completed (r : Request) (result : IOReturn) (arg0 : Nat) (here : s.pc = .service)
      (mem : r ∈ s.u.pending) (running : next.e.running = s.e.running) (rc : Int) (got : Nat)
      (buf : Option InBuf)
      (u : (next.u, rc, got, buf) =
        asyncInDone { s.u with pending := s.u.pending.erase r } r.slot result arg0)
      (primed : next.primed = s.primed) (goes : next.pc = .callback rc got buf) :
      InMoves s next (.complete r result arg0)
  | returned (c : Call) (buf : InBuf) (spurious : Bool) (here : s.pc = .lost c buf)
      (steps : c.step s.e spurious = (next.e, none)) (held : SameHolding s next)
      (goes : next.pc = .service) : InMoves s next (.run spurious)
  | released (buf : InBuf) (spurious : Bool) (here : s.pc = .reload (some buf))
      (halted : next.e.running = false) (held : SameHolding s next) (goes : next.pc = .service) :
      InMoves s next (.run spurious)
  | moved {l : InLabel} (held : SameHolding s next) (owned : next.pc.owned = s.pc.owned)
      (running : next.e.running = true → s.e.running = true)
      (loop : next.pc.InLoop → s.pc.InLoop)
      (attach : next.pc = .attach → s.pc = .attach)
      (prime : ∀ i, next.pc = .prime i → s.pc = .prime i)
      (lost : ∀ c buf, next.pc = .lost c buf → ∃ was, s.pc = .lost was buf ∧
        (¬ was.Pausing → ¬ c.Pausing)) : InMoves s next l

theorem Call.step_running (e : AtEngine) (spurious : Bool) (c : Call)
    (running : (c.step e spurious).1.running = true) : e.running = true := by
  cases c with
  | failLoad copy =>
      simp only [Call.step] at running
      split_ifs at running <;> exact running
  | failExchange copy cur =>
      simp only [Call.step] at running
      split_ifs at running <;> exact running
  | failStop => cases running
  | _ => exact running

theorem Call.step_pausing {e : AtEngine} {spurious : Bool} {c rest : Call}
    (steps : (c.step e spurious).2 = some rest) (outside : ¬ c.Pausing) : ¬ rest.Pausing := by
  cases c with
  | failLoad copy =>
      simp only [Call.step] at steps
      split_ifs at steps
      cases steps
      exact not_false
  | failExchange copy cur =>
      simp only [Call.step] at steps
      split_ifs at steps
      · cases steps
        exact not_false
      · cases steps
        exact not_false
  | failRecord copy =>
      cases steps
      exact not_false
  | failStop => cases steps
  | _ => exact absurd trivial outside

/-- `engine_fail` returns with the engine halted, or because it has ended already. -/
theorem Call.step_returns {e next : AtEngine} {spurious : Bool} {c : Call}
    (steps : c.step e spurious = (next, none)) (outside : ¬ c.Pausing) :
    next.running = false ∨
      next = e ∧ (∃ copy, c = .failLoad copy) ∧ (e.state = .stopping ∨ e.state = .error) := by
  cases c with
  | failLoad copy =>
      simp only [Call.step] at steps
      split_ifs at steps with isOver
      · cases steps
        exact .inr ⟨rfl, ⟨copy, rfl⟩, isOver⟩
      · cases steps
  | failExchange copy cur =>
      simp only [Call.step] at steps
      split_ifs at steps <;> cases steps
  | failRecord copy => cases steps
  | failStop =>
      cases steps
      exact .inl rfl
  | _ => exact absurd trivial outside

/-- A step inside an `engine_fail` that is not behind a failed resubmission. -/
theorem failStep_moves {s : UsbIn} {spurious : Bool} {c : Call} {within : Call → InPc}
    {behind : InPc} {l : InLabel}
    (owned : (∀ c, (within c).owned = s.pc.owned) ∧ behind.owned = s.pc.owned)
    (loop : (∀ c, (within c).InLoop → s.pc.InLoop) ∧ (behind.InLoop → s.pc.InLoop))
    (places : ∀ c, within c ≠ .attach ∧ (∀ i, within c ≠ .prime i) ∧
      ∀ other buf, within c ≠ .lost other buf)
    (after : behind ≠ .attach ∧ (∀ i, behind ≠ .prime i) ∧ ∀ c buf, behind ≠ .lost c buf) :
    InMoves s (failStep s spurious c within behind) l := by
  rcases result : c.step s.e spurious with ⟨e, rest⟩
  have running : e.running = true → s.e.running = true := by
    intro on
    apply Call.step_running s.e spurious c
    rw [result]
    exact on
  simp only [failStep, result]
  cases rest with
  | none =>
      exact .moved .of_pc owned.2 running loop.2 (fun there => absurd there after.1)
        (fun i there => absurd there (after.2.1 i))
        (fun other buf there => absurd there (after.2.2 other buf))
  | some rest =>
      exact .moved .of_pc (owned.1 rest) running (loop.1 rest)
        (fun there => absurd there (places rest).1)
        (fun i there => absurd there ((places rest).2.1 i))
        (fun other buf there => absurd there ((places rest).2.2 other buf))

theorem noteUsbHardFail_cases (e : AtEngine) (gone : Bool) :
    (noteUsbHardFail e gone).1.running = e.running ∧
      (e.usbHardFails + 1 < usbGoneFails ∧ (noteUsbHardFail e gone).2 = none ∨
        ∃ msg, (noteUsbHardFail e gone).2 = some (engineFail msg)) := by
  refine ⟨rfl, ?_⟩
  rw [noteUsbHardFail]
  dsimp only
  split_ifs with few
  · exact .inl ⟨few, rfl⟩
  · exact .inr ⟨_, rfl⟩

theorem submitStep_moves {s next : UsbIn} {read readTO : IOReturn}
    (stepped : submitStep s read readTO = some next) :
    InMoves s next (.submitted read readTO) := by
  unfold submitStep at stepped
  split at stepped
  · rename_i i here
    split at stepped
    · rename_i inside
      cases stepped
      exact .primed ⟨i, inside⟩ read readTO here rfl rfl rfl rfl
    · cases stepped
  · rename_i buf here
    rcases result : atUsbAsyncSubmitIn s.u buf read readTO with ⟨u, rc⟩
    simp only [result] at stepped
    split at stepped
    · rename_i failed
      rcases noteUsbHardFail_cases s.e u.gone with ⟨running, ⟨few, goesOn⟩ | ⟨msg, fails⟩⟩
      · rw [goesOn] at stepped
        cases stepped
        refine .refused buf read readTO here running ?_ ?_ rfl (.inl ⟨few, rfl⟩)
        · rw [result]
        · rw [result]
          exact failed
      · rw [fails] at stepped
        cases stepped
        refine .refused buf read readTO here running ?_ ?_ rfl (.inr ⟨msg, rfl⟩)
        · rw [result]
        · rw [result]
          exact failed
    · rename_i accepted
      cases stepped
      refine .resubmitted buf read readTO here rfl ?_ ?_ rfl rfl
      · rw [result]
      · rw [result]
        exact not_not.mp accepted
  · cases stepped

theorem onUsbIn_moves {s : UsbIn} {rc : Int} {got : Nat} {buf : Option InBuf}
    (here : s.pc = .callback rc got buf) {l : InLabel} : InMoves s (onUsbIn s rc got buf) l := by
  have inside : s.pc.InLoop := by
    rw [here]
    trivial
  unfold onUsbIn
  split_ifs
  · exact .moved .of_pc (by rw [here]; rfl) id (fun _ => inside) nofun nofun nofun
  · rcases noteUsbHardFail_cases s.e s.u.gone with ⟨running, ⟨-, goesOn⟩ | ⟨msg, fails⟩⟩
    · dsimp only
      rw [goesOn]
      exact .moved .of_pc (by rw [here]; rfl) (fun on => running.symm.trans on) (fun _ => inside)
        nofun nofun nofun
    · dsimp only
      rw [fails]
      exact .moved .of_pc (by rw [here]; rfl) (fun on => running.symm.trans on) (fun _ => inside)
        nofun nofun nofun
  · exact .moved .of_pc (by rw [here]; rfl) id (fun _ => inside) nofun nofun nofun

theorem runStep_moves {s next : UsbIn} {spurious : Bool}
    (stepped : usbInStep s (.run spurious) = some next) : InMoves s next (.run spurious) := by
  simp only [usbInStep] at stepped
  split at stepped
  · rename_i i here
    split at stepped
    · cases stepped
    · cases stepped
      refine .begun i spurious here rfl .of_pc ?_
      dsimp only
      split_ifs with none
      · exact .inr rfl
      · exact .inl ⟨fun empty => none (congrArg List.length empty), rfl⟩
  · rename_i here
    cases stepped
    refine .moved .of_pc ?_ id ?_ ?_ ?_ ?_
    · rw [here]
      cases s.e.running <;> rfl
    · rw [here]
      exact fun _ => trivial
    · cases s.e.running <;> nofun
    · cases s.e.running <;> nofun
    · cases s.e.running <;> nofun
  · rename_i here
    cases stepped
    refine .moved .of_pc ?_ id ?_ ?_ ?_ ?_
    · rw [here]
      cases s.u.gone <;> rfl
    · rw [here]
      exact fun _ => trivial
    · cases s.u.gone <;> nofun
    · cases s.u.gone <;> nofun
    · cases s.u.gone <;> nofun
  · rename_i rc got buf here
    cases stepped
    exact onUsbIn_moves here
  · rename_i c buf here
    cases stepped
    refine failStep_moves ?_ ?_ ?_ ?_
    · rw [here]
      exact ⟨fun _ => rfl, rfl⟩
    · rw [here]
      exact ⟨fun _ _ => trivial, fun _ => trivial⟩
    · exact fun _ => ⟨nofun, nofun, nofun⟩
    · exact ⟨nofun, nofun, nofun⟩
  · rename_i buf here
    split at stepped
    · rename_i buf
      cases stepped
      cases halted : s.e.running with
      | true =>
          refine .moved .of_pc ?_ id ?_ nofun nofun nofun
          · rw [here]
            rfl
          · rw [here]
            exact fun _ => trivial
      | false => exact .released buf spurious here halted .of_pc rfl
    · cases stepped
      refine .moved .of_pc ?_ id ?_ nofun nofun nofun
      · rw [here]
        rfl
      · rw [here]
        exact fun _ => trivial
  · rename_i c buf here
    cases stepped
    rcases result : c.step s.e spurious with ⟨e, _ | rest⟩
    · refine .returned c buf spurious here ?_ ?_ ?_
      · simp only [failStep, result]
      · simp only [failStep, result]
        exact .of_pc
      · simp only [failStep, result]
        rfl
    · refine .moved ?_ ?_ ?_ ?_ ?_ ?_ ?_
      all_goals simp only [failStep, result, Option.map_some, Option.getD_some]
      · exact .of_pc
      · rw [here]
        rfl
      · intro on
        apply Call.step_running s.e spurious c
        rw [result]
        exact on
      · rw [here]
        exact fun _ => trivial
      · nofun
      · nofun
      · rintro _ _ ⟨⟩
        exact ⟨c, here, Call.step_pausing (congrArg Prod.snd result)⟩
  · rename_i c here
    cases stepped
    refine failStep_moves ?_ ?_ ?_ ?_
    · rw [here]
      exact ⟨fun _ => rfl, rfl⟩
    · rw [here]
      exact ⟨fun _ _ => trivial, nofun⟩
    · exact fun _ => ⟨nofun, nofun, nofun⟩
    · exact ⟨nofun, nofun, nofun⟩
  · cases stepped

theorem usbInStep_moves {s next : UsbIn} {l : InLabel} (stepped : usbInStep s l = some next) :
    InMoves s next l := by
  cases l with
  | attached ok =>
      simp only [usbInStep] at stepped
      split at stepped
      · rename_i here
        cases stepped
        refine .attached ok here rfl rfl ?_
        cases ok with
        | true => exact .inl rfl
        | false => exact .inr rfl
      · cases stepped
  | submitted read readTO => exact submitStep_moves stepped
  | run spurious => exact runStep_moves stepped
  | complete r result arg0 =>
      simp only [usbInStep] at stepped
      split at stepped
      · rename_i here
        cases stepped
        exact .completed r result arg0 here.1 here.2 rfl _ _ _ rfl rfl rfl
      · cases stepped
  | serviced =>
      simp only [usbInStep] at stepped
      split at stepped
      · rename_i here
        cases stepped
        refine .moved .of_pc ?_ id ?_ nofun nofun nofun
        · rw [here]
          rfl
        · rw [here]
          exact fun _ => trivial
      · cases stepped
  | vanish =>
      cases stepped
      exact .moved ⟨rfl, rfl, rfl⟩ rfl id id id (fun _ => id) fun c buf here => ⟨c, here, id⟩
  | others running state =>
      cases stepped
      refine .moved .of_pc rfl ?_ id id (fun _ => id) fun c buf here => ⟨c, here, id⟩
      intro on
      exact ((Bool.and_eq_true _ _).mp on).1

/-! ## Invariants -/

/-- The buffers with the callback or in flight. -/
def UsbIn.held (s : UsbIn) : List InBuf :=
  s.pc.owned.toList ++ s.inFlight

/-- The threads hold each buffer at most once, and only buffers that were primed. -/
structure ReceiveInv (s : UsbIn) : Prop where
  wf : s.u.Wf
  once : s.held.Nodup
  known : s.held ⊆ s.primed
  primed : ∀ i, s.pc = .prime i → ∀ buf ∈ s.primed, buf.val < i
  fresh : s.pc = .attach → s.u.pending = [] ∧ s.primed = []
  loop : s.pc.InLoop → s.primed ≠ []
  failing : ∀ c buf, s.pc = .lost c buf → ¬ c.Pausing

/-- While the thread runs, no buffer is lost. -/
def Covered (s : UsbIn) : Prop :=
  s.e.running = true → s.pc.InLoop ∨ (∃ i, s.pc = .prime i) → s.primed ⊆ s.held

theorem ReceiveInv.start (e : AtEngine) (gone : Bool) : ReceiveInv (UsbIn.start e gone) where
  wf := AsyncIn.attached_wf gone
  once := List.nodup_nil
  known := List.nil_subset _
  primed := nofun
  fresh := fun _ => ⟨rfl, rfl⟩
  loop := False.elim
  failing := nofun

theorem SameHolding.wf {s next : UsbIn} (held : SameHolding s next) (wf : s.u.Wf) : next.u.Wf := by
  rcases s with ⟨e, ⟨urbs, pending, gone⟩, primed, pc⟩
  rcases next with ⟨e', ⟨urbs', pending', gone'⟩, primed', pc'⟩
  rcases held with ⟨rfl, rfl, rfl⟩
  exact ⟨wf.slots, wf.busy, wf.bufs⟩

theorem SameHolding.inFlight {s next : UsbIn} (held : SameHolding s next) :
    next.inFlight = s.inFlight :=
  congrArg (List.map Request.buf) held.pending

/-- A buffer that is not primed yet leaves room for a request. -/
theorem ReceiveInv.room_prime {s : UsbIn} (inv : ReceiveInv s) {i : Fin inDepth}
    (here : s.pc = .prime i) : s.u.pending.length < inDepth := by
  have below : s.inFlight.map Fin.val ⊆ List.range i := by
    intro n mem
    rcases List.mem_map.mp mem with ⟨buf, inside, rfl⟩
    apply List.mem_range.mpr
    apply inv.primed i here buf
    exact inv.known (List.mem_append_right _ inside)
  have once : (s.inFlight.map Fin.val).Nodup := by
    apply (List.Nodup.of_append_right inv.once).map
    exact Fin.val_injective
  have few := once.length_le_of_subset below
  rw [List.length_map, List.length_range] at few
  have length : s.inFlight.length = s.u.pending.length := List.length_map _
  rw [← length]
  exact Nat.lt_of_le_of_lt few i.isLt

/-- So does the buffer of the callback. -/
theorem ReceiveInv.room_submit {s : UsbIn} (inv : ReceiveInv s) {buf : InBuf}
    (here : s.pc = .submit buf) : s.u.pending.length < inDepth := by
  have held : s.held = buf :: s.inFlight := by
    rw [UsbIn.held, here]
    rfl
  have once := inv.once
  rw [held] at once
  have all : buf :: s.inFlight ⊆ List.finRange inDepth := fun i _ => List.mem_finRange i
  have few := once.length_le_of_subset all
  rw [List.length_cons, List.length_finRange, UsbIn.inFlight, List.length_map] at few
  exact few

theorem UsbIn.held_of_none {s : UsbIn} (none : s.pc.owned = none) : s.held = s.inFlight := by
  rw [UsbIn.held, none]
  rfl

theorem UsbIn.held_of_some {s : UsbIn} {buf : InBuf} (some : s.pc.owned = some buf) :
    s.held = buf :: s.inFlight := by
  rw [UsbIn.held, some]
  rfl

/-- A step behind which the thread is in its loop, holding what it held. -/
theorem ReceiveInv.inLoop {s next : UsbIn} (inv : ReceiveInv s) (here : s.pc.InLoop)
    (wf : next.u.Wf) (primed : next.primed = s.primed) (once : next.held.Nodup)
    (known : next.held ⊆ s.held) (there : next.pc.InLoop)
    (failing : ∀ c buf, next.pc = .lost c buf → ¬ c.Pausing) : ReceiveInv next := by
  refine ⟨wf, once, ?_, fun i at_ => ?_, fun at_ => ?_, fun _ => ?_, failing⟩
  · rw [primed]
    exact fun buf mem => inv.known (known mem)
  · rw [at_] at there
    exact there.elim
  · rw [at_] at there
    exact there.elim
  · rw [primed]
    exact inv.loop here

theorem InMoves.inv_primed {s next : UsbIn} (inv : ReceiveInv s) {i : Fin inDepth}
    {read readTO : IOReturn} (here : s.pc = .prime i) (e : next.e = s.e)
    (u : next.u = (atUsbAsyncSubmitIn s.u i read readTO).1)
    (primed : next.primed =
      if (atUsbAsyncSubmitIn s.u i read readTO).2 = 0 then s.primed ++ [i] else s.primed)
    (goes : next.pc = .prime (i + 1)) : ReceiveInv next ∧ (Covered s → Covered next) := by
  rcases atUsbAsyncSubmitIn_spec inv.wf (inv.room_prime here) i read readTO with ⟨wf, outcome⟩
  have unowned : s.pc.owned = none ∧ next.pc.owned = none := by
    rw [here, goes]
    exact ⟨rfl, rfl⟩
  have held := UsbIn.held_of_none unowned.1
  have held' := UsbIn.held_of_none unowned.2
  have once := inv.once
  have known := inv.known
  rw [held] at once known
  have below := inv.primed i here
  have elsewhere : (next.pc = .attach → next.u.pending = [] ∧ next.primed = []) ∧
      (next.pc.InLoop → next.primed ≠ []) ∧
      ∀ c buf, next.pc = .lost c buf → ¬ c.Pausing := by
    rw [goes]
    exact ⟨nofun, False.elim, nofun⟩
  have was (running : next.e.running = true) (covered : Covered s) : s.primed ⊆ s.inFlight := by
    rw [e] at running
    rw [← held]
    exact covered running (.inr ⟨i, here⟩)
  rcases outcome with ⟨-, rc, inFlight⟩ | ⟨-, rc, pending⟩
  · rw [rc, if_pos rfl] at primed
    have inFlight : next.inFlight = s.inFlight ++ [i] := by rw [UsbIn.inFlight, u, inFlight]; rfl
    have new : i ∉ s.inFlight := fun mem => Nat.lt_irrefl i (below i (known mem))
    refine ⟨⟨by rw [u]; exact wf, ?_, ?_, ?_, elsewhere.1, elsewhere.2.1, elsewhere.2.2⟩, ?_⟩
    · rw [held', inFlight, List.nodup_append_comm]
      exact List.nodup_cons.mpr ⟨new, once⟩
    · rw [held', inFlight, primed]
      exact List.append_subset.mpr ⟨List.subset_append_of_subset_left _ known,
        List.subset_append_right _ _⟩
    · rw [goes, primed]
      rintro _ ⟨⟩ buf mem
      rcases List.mem_append.mp mem with old | last
      · exact Nat.lt_succ_of_lt (below buf old)
      · rw [List.mem_singleton.mp last]
        exact Nat.lt_succ_self i
    · intro covered running _
      rw [held', inFlight, primed]
      exact List.append_subset.mpr ⟨List.subset_append_of_subset_left _ (was running covered),
        List.subset_append_right _ _⟩
  · rw [rc, if_neg nofun] at primed
    have inFlight : next.inFlight = s.inFlight := by rw [UsbIn.inFlight, u, pending]; rfl
    refine ⟨⟨by rw [u]; exact wf, ?_, ?_, ?_, elsewhere.1, elsewhere.2.1, elsewhere.2.2⟩, ?_⟩
    · rw [held', inFlight]
      exact once
    · rw [held', inFlight, primed]
      exact known
    · rw [goes, primed]
      rintro _ ⟨⟩ buf mem
      exact Nat.lt_succ_of_lt (below buf mem)
    · intro covered running _
      rw [held', inFlight, primed]
      exact was running covered

theorem InMoves.inv_submitted {s next : UsbIn} (inv : ReceiveInv s) {buf : InBuf}
    {read readTO : IOReturn} (here : s.pc = .submit buf)
    (u : next.u = (atUsbAsyncSubmitIn s.u buf read readTO).1) (primed : next.primed = s.primed)
    (goes : (atUsbAsyncSubmitIn s.u buf read readTO).2 = 0 ∧ next.pc = .service ∨
      (atUsbAsyncSubmitIn s.u buf read readTO).2 ≠ 0 ∧
        (next.pc = .service ∨ ∃ msg, next.pc = .lost (engineFail msg) buf)) :
    ReceiveInv next ∧ (accepts read readTO = true ∨ next.pc ≠ .service → s.held ⊆ next.held) := by
  rcases atUsbAsyncSubmitIn_spec inv.wf (inv.room_submit here) buf read readTO with ⟨wf, outcome⟩
  have loop : s.pc.InLoop := by
    rw [here]
    trivial
  have held : s.held = buf :: s.inFlight := UsbIn.held_of_some (by rw [here]; rfl)
  have once := inv.once
  rw [held] at once
  have wf : next.u.Wf := by
    rw [u]
    exact wf
  rcases outcome with ⟨accepted, rc, inFlight⟩ | ⟨refused, rc, pending⟩
  · rcases goes with ⟨-, service⟩ | ⟨failed, -⟩
    · have held' : next.held = s.inFlight ++ [buf] := by
        rw [UsbIn.held_of_none (by rw [service]; rfl), UsbIn.inFlight, u, inFlight]
        rfl
      have perm : s.held.Perm next.held := by
        rw [held, held']
        exact (List.perm_append_singleton buf s.inFlight).symm
      refine ⟨inv.inLoop loop wf primed (perm.nodup inv.once) perm.symm.subset ?_ ?_,
        fun _ => perm.subset⟩
      · rw [service]
        trivial
      · rw [service]
        nofun
    · exact absurd rc failed
  · have inFlight : next.inFlight = s.inFlight := by
      rw [UsbIn.inFlight, u, pending]
      rfl
    rcases goes with ⟨succeeded, -⟩ | ⟨-, service | ⟨msg, lost⟩⟩
    · rw [rc] at succeeded
      contradiction
    · have held' : next.held = s.inFlight := by
        rw [UsbIn.held_of_none (by rw [service]; rfl), inFlight]
      refine ⟨inv.inLoop loop wf primed ?_ ?_ ?_ ?_, ?_⟩
      · rw [held']
        exact (List.nodup_cons.mp once).2
      · rw [held', held]
        exact List.subset_cons_self buf s.inFlight
      · rw [service]
        trivial
      · rw [service]
        nofun
      · rintro (accepted | other)
        · rw [refused] at accepted
          contradiction
        · exact absurd service other
    · have held' : next.held = s.held := by
        rw [UsbIn.held_of_some (by rw [lost]; rfl), inFlight, held]
      refine ⟨inv.inLoop loop wf primed ?_ ?_ ?_ ?_, fun _ => ?_⟩
      · rw [held']
        exact inv.once
      · rw [held']
        exact List.Subset.refl _
      · rw [lost]
        trivial
      · rw [lost]
        rintro _ _ ⟨⟩
        exact not_false
      · rw [held']
        exact List.Subset.refl _

/-- A step that keeps the held buffers keeps them covered. -/
theorem Covered.kept {s next : UsbIn} (covered : Covered s) (primed : next.primed = s.primed)
    (held : s.held ⊆ next.held) (running : next.e.running = true → s.e.running = true)
    (place : next.pc.InLoop ∨ (∃ i, next.pc = .prime i) →
      s.pc.InLoop ∨ ∃ i, s.pc = .prime i) : Covered next := by
  intro on there
  rw [primed]
  exact fun buf mem => held (covered (running on) (place there) mem)

/-- Nothing is primed yet, so nothing is held. -/
theorem InMoves.inv_attached {s next : UsbIn} (inv : ReceiveInv s) (here : s.pc = .attach)
    (u : next.u = .attached s.u.gone) (primed : next.primed = s.primed)
    (goes : next.pc = .prime 0 ∨ next.pc = .fallback) : ReceiveInv next ∧ Covered next := by
  rw [(inv.fresh here).2] at primed
  have unowned : next.pc.owned = none := by
    rcases goes with there | there
    · rw [there]
      rfl
    · rw [there]
      rfl
  have held : next.held = [] := by
    rw [UsbIn.held_of_none unowned, UsbIn.inFlight, u]
    rfl
  have elsewhere : next.pc ≠ .attach ∧ ¬ next.pc.InLoop ∧ ∀ c buf, next.pc ≠ .lost c buf := by
    rcases goes with there | there
    · rw [there]
      exact ⟨nofun, not_false, nofun⟩
    · rw [there]
      exact ⟨nofun, not_false, nofun⟩
  constructor
  · refine ⟨?_, ?_, ?_, ?_, fun at_ => absurd at_ elsewhere.1,
      fun at_ => absurd at_ elsewhere.2.1, fun c buf at_ => absurd at_ (elsewhere.2.2 c buf)⟩
    · rw [u]
      exact AsyncIn.attached_wf s.u.gone
    · rw [held]
      exact List.nodup_nil
    · rw [held]
      exact List.nil_subset _
    · rw [primed]
      nofun
  · intro _ _
    rw [primed]
    exact List.nil_subset _

/-- The loop begins with all that was primed in flight. -/
theorem InMoves.inv_begun {s next : UsbIn} (inv : ReceiveInv s) {i : Nat} (here : s.pc = .prime i)
    (e : next.e = s.e) (held : SameHolding s next)
    (goes : s.primed ≠ [] ∧ next.pc = .head ∨ next.pc = .fallback) :
    ReceiveInv next ∧ (Covered s → Covered next) := by
  have unowned : s.pc.owned = none ∧ next.pc.owned = none := by
    rw [here]
    rcases goes with ⟨-, there⟩ | there
    · rw [there]
      exact ⟨rfl, rfl⟩
    · rw [there]
      exact ⟨rfl, rfl⟩
  have same : next.held = s.held := by
    rw [UsbIn.held_of_none unowned.1, UsbIn.held_of_none unowned.2, held.inFlight]
  have elsewhere : (∀ i, next.pc ≠ .prime i) ∧ next.pc ≠ .attach ∧
      ∀ c buf, next.pc ≠ .lost c buf := by
    rcases goes with ⟨-, there⟩ | there
    · rw [there]
      exact ⟨nofun, nofun, nofun⟩
    · rw [there]
      exact ⟨nofun, nofun, nofun⟩
  constructor
  · refine ⟨held.wf inv.wf, ?_, ?_, fun i at_ => absurd at_ (elsewhere.1 i),
      fun at_ => absurd at_ elsewhere.2.1, ?_, fun c buf at_ => absurd at_ (elsewhere.2.2 c buf)⟩
    · rw [same]
      exact inv.once
    · rw [same, held.primed]
      exact inv.known
    · rw [held.primed]
      rcases goes with ⟨some, -⟩ | there
      · exact fun _ => some
      · rw [there]
        exact False.elim
  · intro covered
    refine covered.kept held.primed (by rw [same]; exact List.Subset.refl _) ?_
      fun _ => .inr ⟨i, here⟩
    rw [e]
    exact id

/-- A completion takes its buffer from the flight to the callback. -/
theorem InMoves.inv_completed {s next : UsbIn} (inv : ReceiveInv s) {r : Request}
    {result : IOReturn} {arg0 got : Nat} {rc : Int} {buf : Option InBuf} (here : s.pc = .service)
    (mem : r ∈ s.u.pending) (running : next.e.running = s.e.running)
    (u : (next.u, rc, got, buf) =
      asyncInDone { s.u with pending := s.u.pending.erase r } r.slot result arg0)
    (primed : next.primed = s.primed) (goes : next.pc = .callback rc got buf) :
    ReceiveInv next ∧ (Covered s → Covered next) := by
  rcases asyncInDone_spec inv.wf mem result arg0 with ⟨wf, pending, owned⟩
  rw [← u] at wf pending owned
  have loop : s.pc.InLoop := by
    rw [here]
    trivial
  have perm : s.held.Perm next.held := by
    have erased := (List.perm_cons_erase mem).map Request.buf
    have owner : next.pc.owned = some r.buf := by
      rw [goes]
      exact owned
    rw [UsbIn.held_of_none (by rw [here]; rfl), UsbIn.held_of_some owner, UsbIn.inFlight,
      UsbIn.inFlight, pending]
    exact erased
  constructor
  · refine inv.inLoop loop wf primed (perm.nodup inv.once) perm.symm.subset ?_ ?_
    · rw [goes]
      trivial
    · rw [goes]
      nofun
  · intro covered
    exact covered.kept primed perm.subset (by rw [running]; exact id) fun _ => .inl loop

/-- The thread goes on without the buffer of the callback. -/
theorem ReceiveInv.dropped {s next : UsbIn} (inv : ReceiveInv s) {buf : InBuf}
    (here : s.pc.InLoop) (owner : s.pc.owned = some buf) (held : SameHolding s next)
    (goes : next.pc = .service) : ReceiveInv next := by
  have held' : next.held = s.inFlight := by
    rw [UsbIn.held_of_none (by rw [goes]; rfl), held.inFlight]
  have was : s.held = buf :: s.inFlight := UsbIn.held_of_some owner
  refine inv.inLoop here (held.wf inv.wf) held.primed ?_ ?_ ?_ ?_
  · have once := inv.once
    rw [was] at once
    rw [held']
    exact (List.nodup_cons.mp once).2
  · rw [held', was]
    exact List.subset_cons_self buf s.inFlight
  · rw [goes]
    trivial
  · rw [goes]
    nofun

/-- Each step keeps the invariant; one that meets the condition loses no buffer. -/
theorem InMoves.inv {s next : UsbIn} {l : InLabel} (moves : InMoves s next l)
    (inv : ReceiveInv s) :
    ReceiveInv next ∧ (Covered s → Resubmits s l → Covered next) := by
  cases moves with
  | attached ok here u primed goes =>
      obtain ⟨kept, covered⟩ := InMoves.inv_attached inv here u primed goes
      exact ⟨kept, fun _ _ => covered⟩
  | primed i read readTO here e u primed goes =>
      obtain ⟨kept, covered⟩ := InMoves.inv_primed inv here e u primed goes
      exact ⟨kept, fun was _ => covered was⟩
  | begun i spurious here e held goes =>
      obtain ⟨kept, covered⟩ := InMoves.inv_begun inv here e held goes
      exact ⟨kept, fun was _ => covered was⟩
  | resubmitted buf read readTO here e u accepted primed goes =>
      rcases InMoves.inv_submitted inv here u primed (.inl ⟨accepted, goes⟩) with ⟨kept, held⟩
      refine ⟨kept, fun covered resubmits => ?_⟩
      have loop : s.pc.InLoop := by
        rw [here]
        trivial
      refine covered.kept primed (held (.inl ?_)) (by rw [e]; exact id) fun _ => .inl loop
      rcases atUsbAsyncSubmitIn_spec inv.wf (inv.room_submit here) buf read readTO with
        ⟨-, ⟨taken, -, -⟩ | ⟨-, failed, -⟩⟩
      · exact taken
      · rw [accepted] at failed
        contradiction
  | refused buf read readTO here running u refused primed goes =>
      have places : next.pc = .service ∨ ∃ msg, next.pc = .lost (engineFail msg) buf :=
        goes.imp_left And.right
      rcases InMoves.inv_submitted inv here u primed (.inr ⟨refused, places⟩) with ⟨kept, held⟩
      refine ⟨kept, fun covered resubmits => ?_⟩
      have loop : s.pc.InLoop := by
        rw [here]
        trivial
      refine covered.kept primed (held (.inr ?_)) (by rw [running]; exact id) fun _ => .inl loop
      rcases atUsbAsyncSubmitIn_spec inv.wf (inv.room_submit here) buf read readTO with
        ⟨-, ⟨-, taken, -⟩ | ⟨rejected, -, -⟩⟩
      · exact absurd taken refused
      · rcases resubmits (by rw [here]; rfl) with accepted | many
        · rw [rejected] at accepted
          contradiction
        · rcases goes with ⟨few, -⟩ | ⟨msg, lost⟩
          · exact absurd many (Nat.not_le.mpr few)
          · rw [lost]
            nofun
  | completed r result arg0 here mem running rc got buf u primed goes =>
      obtain ⟨kept, covered⟩ := InMoves.inv_completed inv here mem running u primed goes
      exact ⟨kept, fun was _ => covered was⟩
  | returned c buf spurious here steps held goes =>
      constructor
      · exact inv.dropped (by rw [here]; trivial) (by rw [here]; rfl) held goes
      · intro _ resubmits on
        rcases Call.step_returns steps (inv.failing c buf here) with
          halted | ⟨same, ⟨copy, rfl⟩, isOver⟩
        · rw [halted] at on
          contradiction
        · rw [same, resubmits (by rw [here]; rfl) isOver] at on
          contradiction
  | released buf spurious here halted held goes =>
      constructor
      · exact inv.dropped (by rw [here]; trivial) (by rw [here]; rfl) held goes
      · intro _ _ on
        rw [halted] at on
        contradiction
  | moved held owned running loop attach prime lost =>
      have same : next.held = s.held := by rw [UsbIn.held, UsbIn.held, owned, held.inFlight]
      constructor
      · refine ⟨held.wf inv.wf, ?_, ?_, fun i at_ => ?_, fun at_ => ?_, fun at_ => ?_,
          fun c buf at_ => ?_⟩
        · rw [same]
          exact inv.once
        · rw [same, held.primed]
          exact inv.known
        · rw [held.primed]
          exact inv.primed i (prime i at_)
        · rw [held.pending, held.primed]
          exact inv.fresh (attach at_)
        · rw [held.primed]
          exact inv.loop (loop at_)
        · rcases lost c buf at_ with ⟨was, here, kept⟩
          exact kept (inv.failing was buf here)
      · intro covered _
        exact covered.kept held.primed (by rw [same]; exact List.Subset.refl _) running
          (Or.imp loop fun ⟨i, at_⟩ => ⟨i, prime i at_⟩)

/-! ## The law in every run -/

theorem ReceiveInv.law {s : UsbIn} (inv : ReceiveInv s) (covered : Covered s) : ReceiveLaw s := by
  intro running loop
  have all := covered running (.inl loop)
  refine ⟨List.Nodup.of_append_right inv.once, fun buf mem => ?_, fun none => ?_⟩
  · cases owner : s.pc.owned with
    | none =>
        have held := UsbIn.held_of_none owner
        exact .inl ⟨held ▸ all mem, nofun⟩
    | some owned =>
        have once := inv.once
        have inside := all mem
        rw [UsbIn.held_of_some owner] at once inside
        rw [List.nodup_cons] at once
        rcases List.mem_cons.mp inside with rfl | flying
        · exact .inr ⟨once.1, rfl⟩
        · refine .inl ⟨flying, ?_⟩
          rintro ⟨⟩
          exact once.1 flying
  · intro empty
    rcases List.exists_mem_of_ne_nil s.primed (inv.loop loop) with ⟨buf, mem⟩
    have inside := all mem
    rw [UsbIn.held_of_none none, empty] at inside
    cases inside

theorem mainStep_running {s next : System} {l : MainLabel} (stepped : mainStep s l = some next)
    (on : next.e.running = true) : s.e.running = true := by
  rcases s with ⟨e, usb, utun, maint, ⟨pc, failed⟩⟩
  cases l with
  | run env =>
      cases pc with
      | createUsb | createUtun | createMaint =>
          cases stepped
          revert on
          cases env.ok <;> exact id
      | join =>
          simp only [mainStep] at stepped
          split at stepped <;> cases stepped
          exact on
      | report | stopState =>
          cases stepped
          exact on
      | stopRunning =>
          cases stepped
          cases on
      | firstTx | polling | done => cases stepped
  | firstTx now sent =>
      cases pc with
      | firstTx =>
          cases stepped
          exact on
      | _ => cases stepped
  | poll quit =>
      cases pc with
      | polling =>
          cases stepped
          exact on
      | _ => cases stepped

/-- What another thread does to the state and to `running` is a step of `others`. -/
theorem others_of_engineStep {s next : System} {l : Label} (elsewhere : ∀ l', l ≠ .usb l')
    (stepped : engineStep s l = some next) :
    ∃ running, next.e.running = (s.e.running && running) := by
  have cleared {on was : Bool} (only : on = true → was = true) : on = (was && on) := by
    cases on with
    | false => exact (Bool.and_false was).symm
    | true => rw [only rfl, Bool.and_true]
  refine ⟨next.e.running, cleared fun on => ?_⟩
  cases l with
  | usb l => exact absurd rfl (elsewhere l)
  | utun =>
      rcases Option.map_eq_some_iff.mp stepped with ⟨pc, moved, rfl⟩
      exact on
  | maint l =>
      rcases Option.map_eq_some_iff.mp stepped with ⟨⟨e, t⟩, moved, rfl⟩
      have same : e.status.running = true := on
      cases maintStep_moves moved with
      | kept unchanged => exact (congrArg Status.running unchanged).symm.trans same
      | failed published => exact (congrArg Status.running published).symm.trans same
      | halted _ halt =>
          rw [halt] at same
          contradiction
      | revived _ state _ stored => exact (congrArg Status.running stored).symm.trans same
  | main l => exact mainStep_running stepped on

/-- **Receiving never stops silently.**  In a run whose failed resubmissions all fail the
engine, as long as the thread is in its loop and running, each primed buffer is in exactly one
request or with the callback, and a request is in flight. -/
theorem receive_never_stops (e : AtEngine) (gone : Bool) {labels : List InLabel}
    (guarded : Guarded usbInStep Resubmits (UsbIn.start e gone) labels) :
    Throughout usbInStep ReceiveLaw (UsbIn.start e gone) labels := by
  have start : ReceiveInv (UsbIn.start e gone) ∧ Covered (UsbIn.start e gone) :=
    ⟨.start e gone, fun _ _ => List.nil_subset _⟩
  have throughout : Throughout usbInStep (fun s => ReceiveInv s ∧ Covered s)
      (UsbIn.start e gone) labels := by
    refine guarded_throughout (fun s l next inv resubmits stepped => ?_) start guarded
    rcases (usbInStep_moves stepped).inv inv.1 with ⟨kept, covered⟩
    exact ⟨kept, covered inv.2 resubmits⟩
  intro front isPrefix last ran
  have inv := throughout front isPrefix last ran
  exact inv.1.law inv.2

/-- The thread has primed both buffers, and the device sends a transfer into each.  `read` is
what the reads of the resubmissions return. -/
def twoTransfers (read : IOReturn) : List InLabel :=
  let first : InBuf := ⟨0, by decide⟩
  let second : InBuf := ⟨1, by decide⟩
  [.attached true, .submitted .success .success, .submitted .success .success, .run false,
    .run false, .run false, .complete ⟨first, first⟩ .success 60, .run false, .run false,
    .submitted read read, .complete ⟨second, second⟩ .success 60, .run false, .run false,
    .submitted read read]

theorem twoTransfers_receives :
    Throughout usbInStep ReceiveLaw (UsbIn.start (AtEngine.start sampleMac 7) false)
      (twoTransfers .success) :=
  receive_never_stops (AtEngine.start sampleMac 7) false (by decide +kernel)

/-- Both resubmissions fail: the thread goes on without a request, and has counted one
failure. -/
theorem receive_stops_silently :
    ¬ ∀ e gone labels, Throughout usbInStep ReceiveLaw (UsbIn.start e gone) labels := by
  intro claimed
  have facts : (run usbInStep (UsbIn.start (AtEngine.start sampleMac 7) false)
      (twoTransfers .other)).map (fun s => (s.pc, s.e.running, s.inFlight, s.e.usbHardFails)) =
      some (.service, true, [], 1) := by
    decide +kernel
  rcases Option.map_eq_some_iff.mp facts with ⟨s, ran, fields⟩
  simp only [Prod.mk.injEq] at fields
  rcases fields with ⟨service, running, none, -⟩
  have law := claimed _ false (twoTransfers .other) _ (List.prefix_refl _) s ran running
  rw [service] at law
  have receives := law trivial
  apply receives.inFlight
  · rw [service]
    rfl
  · exact none

end WiredTethering.Engine
