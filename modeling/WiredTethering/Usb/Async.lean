import Mathlib.Data.List.FinRange

/-!
# Asynchronous bulk transfers

The asynchronous section of `usb_rndis.c`.  An URB is busy from a successful
submission until its completion callback.  There is one URB for OUT and there are
`AT_USB_IN_DEPTH` for IN.  What IOKit returns is an argument of the model, and the
requests that it holds are part of the state.
-/

namespace WiredTethering.Usb

/-- The return codes of IOKit that the engine tells apart. -/
inductive IOReturn where
  | success
  | underrun
  | timeout
  | transactionTimeout
  | aborted
  | notOpen
  | noDevice
  | notResponding
  | offline
  | pipeStalled
  | other
deriving DecidableEq, Repr

/-! ## OUT -/

/-- `out_urb`: the busy flag and the transmit slot the URB points to. -/
structure OutUrb where
  busy : Bool
  buf : Nat
deriving DecidableEq, Repr

/-- `at_usb_async_submit_out` for `len` bytes at slot `buf`.  `write` and
`writeTO` are what `WritePipeAsync` and `WritePipeAsyncTO` return. -/
def atUsbAsyncSubmitOut (urb : OutUrb) (buf len : Nat) (write writeTO : IOReturn) :
    OutUrb × Int :=
  if len = 0 then (urb, -1)
  else if urb.busy then (urb, 1)
  else
    let r := if write ≠ .success then writeTO else write
    if r ≠ .success then (⟨false, buf⟩, -1) else (⟨true, buf⟩, 0)

/-- `async_out_done`: the code the completion callback is called with. -/
def asyncOutDone (result : IOReturn) : Int :=
  if result = .timeout ∨ result = .transactionTimeout ∨ result = .aborted then 1
  else if result ≠ .success ∧ result ≠ .underrun then -1
  else 0

/-- On an idle URB a submission of at least one byte succeeds and makes the URB
busy, or fails and leaves it idle. -/
theorem atUsbAsyncSubmitOut_idle {urb : OutUrb} {len : Nat} (buf : Nat) (write writeTO : IOReturn)
    (idle : urb.busy = false) (some_bytes : 0 < len) :
    atUsbAsyncSubmitOut urb buf len write writeTO = (⟨true, buf⟩, 0) ∨
      atUsbAsyncSubmitOut urb buf len write writeTO = (⟨false, buf⟩, -1) := by
  by_cases accepted : (if ¬ write = .success then writeTO else write) = .success
  · left
    simp [atUsbAsyncSubmitOut, idle, Nat.ne_of_gt some_bytes, accepted]
  · right
    simp only [atUsbAsyncSubmitOut, idle, if_neg (Nat.ne_of_gt some_bytes), Bool.false_eq_true,
      if_false, ne_eq, accepted, not_false_eq_true, if_true]

/-! ## IN -/

/-- `AT_USB_IN_DEPTH`. -/
def inDepth : Nat := 2

/-- The receive buffers, as indices of `usb_inbuf`. -/
abbrev InBuf := Fin inDepth

/-- An `in_urb`: the busy flag and the buffer the URB points to. -/
structure InUrb where
  busy : Bool
  buf : Option InBuf
deriving DecidableEq, Repr

/-- A read that IOKit has accepted and not completed. -/
structure Request where
  slot : Fin inDepth
  buf : InBuf
deriving DecidableEq, Repr

/-- The IN half of `struct at_usb_rndis`. -/
structure AsyncIn where
  urbs : Vector InUrb inDepth
  pending : List Request
  gone : Bool
deriving DecidableEq, Repr

/-- The URBs behind `at_usb_async_attach`. -/
def AsyncIn.attached (gone : Bool) : AsyncIn :=
  ⟨Vector.replicate inDepth ⟨false, none⟩, [], gone⟩

/-- The codes after which the device counts as gone. -/
def IOReturn.isGone (r : IOReturn) : Bool :=
  r = .notOpen ∨ r = .noDevice ∨ r = .notResponding ∨ r = .offline

/-- The first URB that is not busy. -/
def freeSlot (urbs : Vector InUrb inDepth) : Option (Fin inDepth) :=
  (List.finRange inDepth).find? fun i => !urbs[i].busy

/-- One of the two reads is accepted. -/
def accepts (read readTO : IOReturn) : Bool :=
  read = .success ∨ readTO = .success

/-- `at_usb_async_submit_in`.  `read` and `readTO` are what `ReadPipeAsync` and
`ReadPipeAsyncTO` return. -/
def atUsbAsyncSubmitIn (u : AsyncIn) (buf : InBuf) (read readTO : IOReturn) : AsyncIn × Int :=
  match freeSlot u.urbs with
  | none => (u, 0)
  | some slot =>
      let r := if read ≠ .success then readTO else read
      if r ≠ .success then
        ({ u with
            urbs := u.urbs.set slot ⟨false, some buf⟩
            gone := u.gone || r.isGone }, -1)
      else
        ({ u with
            urbs := u.urbs.set slot ⟨true, some buf⟩
            pending := u.pending ++ [⟨slot, buf⟩] }, 0)

/-- `async_in_done` for the URB `slot`, and what it passes to the callback. -/
def asyncInDone (u : AsyncIn) (slot : Fin inDepth) (result : IOReturn) (arg0 : Nat) :
    AsyncIn × Int × Nat × Option InBuf :=
  let buf := u.urbs[slot].buf
  let u := { u with urbs := u.urbs.set slot ⟨false, buf⟩ }
  if result = .timeout ∨ result = .transactionTimeout ∨ result = .aborted then (u, 1, 0, buf)
  else if result ≠ .success ∧ result ≠ .underrun then
    ({ u with gone := u.gone || result.isGone }, -1, 0, buf)
  else (u, 0, arg0, buf)

/-- The busy URBs are those of the requests that IOKit holds. -/
structure AsyncIn.Wf (u : AsyncIn) : Prop where
  slots : (u.pending.map Request.slot).Nodup
  busy : ∀ i : Fin inDepth, u.urbs[i].busy = true ↔ i ∈ u.pending.map Request.slot
  bufs : ∀ r ∈ u.pending, u.urbs[r.slot].buf = some r.buf

theorem AsyncIn.attached_wf (gone : Bool) : (AsyncIn.attached gone).Wf := by
  refine ⟨List.nodup_nil, fun i => ?_, nofun⟩
  simp [AsyncIn.attached]

theorem freeSlot_eq_some {urbs : Vector InUrb inDepth} {slot : Fin inDepth}
    (found : freeSlot urbs = some slot) : urbs[slot].busy = false := by
  have free := List.find?_some found
  simpa using free

/-- While IOKit holds fewer requests than there are URBs, one is free. -/
theorem AsyncIn.Wf.free {u : AsyncIn} (wf : u.Wf) (room : u.pending.length < inDepth) :
    ∃ slot, freeSlot u.urbs = some slot := by
  cases found : freeSlot u.urbs with
  | some slot => exact ⟨slot, rfl⟩
  | none =>
      have taken : List.finRange inDepth ⊆ u.pending.map Request.slot := by
        intro i mem
        have busy := List.find?_eq_none.mp found i mem
        apply (wf.busy i).mp
        simpa using busy
      have many := (List.nodup_finRange inDepth).length_le_of_subset taken
      rw [List.length_finRange, List.length_map] at many
      exact absurd room (Nat.not_lt.mpr many)

/-- The URB of a request is none that is free. -/
theorem AsyncIn.Wf.slot_ne {u : AsyncIn} (wf : u.Wf) {slot : Fin inDepth}
    (free : u.urbs[slot].busy = false) {r : Request} (mem : r ∈ u.pending) : r.slot ≠ slot := by
  rintro rfl
  have busy := (wf.busy r.slot).mpr (List.mem_map_of_mem mem)
  rw [free] at busy
  contradiction

theorem getElem_set_urb (urbs : Vector InUrb inDepth) (slot i : Fin inDepth) (urb : InUrb) :
    (urbs.set slot urb)[i] = if slot = i then urb else urbs[i] := by
  simp only [Fin.getElem_fin, Vector.getElem_set, Fin.ext_iff]

/-- What IOKit has not accepted leaves the URB free. -/
theorem AsyncIn.Wf.refused {u : AsyncIn} (wf : u.Wf) {slot : Fin inDepth}
    (free : u.urbs[slot].busy = false) (buf : InBuf) (gone : Bool) :
    AsyncIn.Wf ⟨u.urbs.set slot ⟨false, some buf⟩, u.pending, gone⟩ := by
  refine ⟨wf.slots, fun i => ?_, fun r mem => ?_⟩
  · dsimp only
    rw [getElem_set_urb]
    split_ifs with same
    · subst same
      rw [← wf.busy slot, free]
      exact ⟨nofun, nofun⟩
    · exact wf.busy i
  · dsimp only at mem ⊢
    rw [getElem_set_urb, if_neg (wf.slot_ne free mem).symm]
    exact wf.bufs r mem

/-- What it has accepted makes the URB busy. -/
theorem AsyncIn.Wf.accepted {u : AsyncIn} (wf : u.Wf) {slot : Fin inDepth}
    (free : u.urbs[slot].busy = false) (buf : InBuf) (gone : Bool) :
    AsyncIn.Wf ⟨u.urbs.set slot ⟨true, some buf⟩, u.pending ++ [⟨slot, buf⟩], gone⟩ := by
  have new : slot ∉ u.pending.map Request.slot := by
    intro mem
    rw [← wf.busy slot, free] at mem
    contradiction
  refine ⟨?_, fun i => ?_, fun r mem => ?_⟩
  · rw [List.map_append, List.nodup_append_comm]
    exact List.nodup_cons.mpr ⟨new, wf.slots⟩
  · dsimp only
    rw [getElem_set_urb, List.map_append, List.mem_append, List.map_singleton,
      List.mem_singleton]
    split_ifs with same
    · exact ⟨fun _ => .inr same.symm, fun _ => rfl⟩
    · rw [wf.busy i]
      exact ⟨.inl, fun mem => mem.resolve_right (Ne.symm same)⟩
  · dsimp only at mem ⊢
    rw [getElem_set_urb]
    rcases List.mem_append.mp mem with old | last
    · rw [if_neg (wf.slot_ne free old).symm]
      exact wf.bufs r old
    · rw [List.mem_singleton.mp last, if_pos rfl]

/-- A submission that IOKit accepts adds its request; another one adds none. -/
theorem atUsbAsyncSubmitIn_spec {u : AsyncIn} (wf : u.Wf) (room : u.pending.length < inDepth)
    (buf : InBuf) (read readTO : IOReturn) :
    (atUsbAsyncSubmitIn u buf read readTO).1.Wf ∧
      (accepts read readTO = true ∧ (atUsbAsyncSubmitIn u buf read readTO).2 = 0 ∧
          (atUsbAsyncSubmitIn u buf read readTO).1.pending.map Request.buf =
            u.pending.map Request.buf ++ [buf] ∨
        accepts read readTO = false ∧ (atUsbAsyncSubmitIn u buf read readTO).2 = -1 ∧
          (atUsbAsyncSubmitIn u buf read readTO).1.pending = u.pending) := by
  rcases wf.free room with ⟨slot, found⟩
  have free := freeSlot_eq_some found
  rw [atUsbAsyncSubmitIn, found]
  dsimp only
  by_cases first : read = .success
  · rw [if_neg (not_not.mpr first), if_neg (not_not.mpr first)]
    refine ⟨wf.accepted free buf u.gone, .inl ⟨?_, rfl, List.map_append⟩⟩
    exact decide_eq_true (.inl first)
  · rw [if_pos first]
    by_cases second : readTO = .success
    · rw [if_neg (not_not.mpr second)]
      refine ⟨wf.accepted free buf u.gone, .inl ⟨?_, rfl, List.map_append⟩⟩
      exact decide_eq_true (.inr second)
    · rw [if_pos second]
      refine ⟨wf.refused free buf _, .inr ⟨?_, rfl, rfl⟩⟩
      exact decide_eq_false (not_or.mpr ⟨first, second⟩)

/-- A completion frees the URB of its request and hands its buffer to the callback. -/
theorem asyncInDone_spec {u : AsyncIn} (wf : u.Wf) {r : Request} (mem : r ∈ u.pending)
    (result : IOReturn) (arg0 : Nat) :
    let done := asyncInDone { u with pending := u.pending.erase r } r.slot result arg0
    done.1.Wf ∧ done.1.pending = u.pending.erase r ∧ done.2.2.2 = some r.buf := by
  have perm := List.perm_cons_erase mem
  have slots : (r.slot :: (u.pending.erase r).map Request.slot).Nodup :=
    (perm.map Request.slot).nodup wf.slots
  rw [List.nodup_cons] at slots
  have freed (gone : Bool) :
      AsyncIn.Wf ⟨u.urbs.set r.slot ⟨false, u.urbs[r.slot].buf⟩, u.pending.erase r, gone⟩ := by
    refine ⟨slots.2, fun i => ?_, fun q old => ?_⟩
    · dsimp only
      rw [getElem_set_urb]
      split_ifs with same
      · rw [← same]
        exact ⟨nofun, fun taken => absurd taken slots.1⟩
      · rw [wf.busy i, (perm.map Request.slot).mem_iff, List.map_cons, List.mem_cons]
        exact ⟨fun taken => taken.resolve_left (Ne.symm same), .inr⟩
    · dsimp only at old ⊢
      have other : r.slot ≠ q.slot := by
        intro same
        apply slots.1
        rw [same]
        exact List.mem_map_of_mem old
      rw [getElem_set_urb, if_neg other]
      exact wf.bufs q (List.mem_of_mem_erase old)
  have buf := wf.bufs r mem
  unfold asyncInDone
  dsimp only
  split_ifs with idle broken
  · exact ⟨freed u.gone, rfl, buf⟩
  · exact ⟨freed _, rfl, buf⟩
  · exact ⟨freed u.gone, rfl, buf⟩

end WiredTethering.Usb
