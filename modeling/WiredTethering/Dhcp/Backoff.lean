import Mathlib.Data.List.Chain
import WiredTethering.Dhcp.Reply

/-!
# Retransmission

A client that sends, and keeps its state from then on, waits before it sends again,
each time for longer.  `sends` lists the send times of a run with the waiting time
that each transmission leaves; `Paced` relates one transmission to the next.

A send time of zero stands for "nothing sent": a client whose clock reads zero when
it sends does not wait.  Times are in milliseconds, as the client compares them.
-/

namespace WiredTethering.Dhcp

open WiredTethering.Memory
open WiredTethering.Transition

/-! ## Runs and their transmissions -/

/-- The clock readings of an event. -/
def readings : ClientEvent → List Nat
  | .poll p => [p.now, p.sent.ms]
  | .frame _ now => [now]

/-- The clock never goes back. -/
def ClockOrdered (events : List ClientEvent) : Prop :=
  (events.flatMap readings).Pairwise (· ≤ ·)

instance (events : List ClientEvent) : Decidable (ClockOrdered events) :=
  inferInstanceAs (Decidable (List.Pairwise _ _))

/-- The transmissions of a run: the send time, and the waiting time it leaves. -/
def sends : AtDhcp → List ClientEvent → List (Timeval × Nat)
  | _, [] => []
  | d, .poll p :: events =>
      if (p.call d).2 = [] then sends (p.call d).1 events
      else (p.sent, (p.call d).1.backoffMs) :: sends (p.call d).1 events
  | d, .frame eth now :: events => sends (atDhcpOnFrame d eth now).1 events

/-- No message is accepted, and the state stays. -/
def Steady (d : AtDhcp) : ClientEvent → Prop
  | .poll p => (p.call d).1.state = d.state
  | .frame eth _ => ¬ ActsOn d eth

/-- A transmission, and then nothing that is accepted and no change of state. -/
def Stretch (d : AtDhcp) : List ClientEvent → Prop
  | .poll p :: events =>
      (p.call d).2 ≠ [] ∧ Guarded clientStep Steady (p.call d).1 events
  | _ => False

/-- The second transmission waits for the first. -/
def Spaced (first second : Timeval × Nat) : Prop :=
  first.1.ms + first.2 ≤ second.1.ms

instance (first second : Timeval × Nat) : Decidable (Spaced first second) :=
  inferInstanceAs (Decidable (_ ≤ _))

/-- The waiting time grows. -/
def BacksOff (first second : Timeval × Nat) : Prop :=
  second.2 = nextBackoff first.2 ∧ first.2 ≤ second.2

/-- One transmission and the next. -/
def Paced (first second : Timeval × Nat) : Prop :=
  (first.1 ≠ ⟨0, 0⟩ → Spaced first second) ∧ BacksOff first second

/-- The waiting time is between 0.2 and 8 seconds. -/
def BackoffBounded (d : AtDhcp) : Prop :=
  200 ≤ d.backoffMs ∧ d.backoffMs ≤ 8000

theorem BackoffBounded.of_eq {d : AtDhcp} {backoffMs : Nat} (held : d.backoffMs = backoffMs)
    (within : 200 ≤ backoffMs ∧ backoffMs ≤ 8000) : BackoffBounded d := by
  rw [BackoffBounded, held]
  exact within

theorem le_nextBackoff {backoffMs : Nat} (small : backoffMs ≤ 8000) :
    backoffMs ≤ nextBackoff backoffMs := by
  rw [nextBackoff]
  split_ifs <;> omega

theorem nextBackoff_le {backoffMs : Nat} : nextBackoff backoffMs ≤ 8000 := by
  rw [nextBackoff]
  split_ifs <;> omega

/-! ## One poll -/

/-- The timer check resets the waiting time only where it changes the state. -/
theorem advanceRenewState_kept {d : AtDhcp} {now : Nat}
    (same : (advanceRenewState d now).state = d.state) : advanceRenewState d now = d := by
  unfold advanceRenewState at same ⊢
  dsimp only at same ⊢
  generalize (if d.boundMs ≤ now then now - d.boundMs else 0) = age at same ⊢
  split_ifs at same ⊢ with free infinite expired rebind renew
  · rfl
  · rfl
  · have active : leaseActive d = true := by simpa using free
    rw [leaseActive, ← same] at active
    rcases of_decide_eq_true active with bound | renewing | rebinding
    · cases bound
    · cases renewing
    · cases rebinding
  · exact absurd same.symm rebind.1
  · rw [renew.1] at same
    cases same
  · rfl

/-- The timer check leaves a client that has no lease, or one that has. -/
theorem advanceRenewState_active {d : AtDhcp} {now : Nat} (moved : advanceRenewState d now ≠ d) :
    leaseActive d = true ∧
      (advanceRenewState d now = resetSelect d ∨ (advanceRenewState d now).state ≠ .init) := by
  rcases advanceRenewState_cases d now with same | ⟨active, reset⟩ | ⟨active, state, kind, moves⟩
  · exact absurd same moved
  · exact ⟨active, .inl reset⟩
  · constructor
    · exact active
    · right
      rw [moves]
      rcases kind with rfl | rfl
      · exact nofun
      · exact nofun

/-- A poll that keeps the state of a client is silent, or sends after waiting. -/
theorem Poll.call_steady {d : AtDhcp} {p : Poll} (started : d.state ≠ .init)
    (steady : (p.call d).1.state = d.state) :
    p.call d = (d, []) ∨
      (d.lastTx ≠ ⟨0, 0⟩ → d.lastTx.ms + d.backoffMs ≤ p.now) ∧ (p.call d).2 ≠ [] ∧
        (p.call d).1 = { d with lastTx := p.sent, backoffMs := nextBackoff d.backoffMs } := by
  have kept : advanceRenewState d p.now = d := by
    by_contra moved
    have other : (advanceRenewState d p.now).state ≠ d.state :=
      fun same => moved (advanceRenewState_kept same)
    have state : (p.call d).1.state = (advanceRenewState d p.now).state ∨
        (advanceRenewState d p.now).state = .init ∧ (p.call d).1.state = .selecting := by
      rcases transmit_spec (advanceRenewState d p.now) p.cap p.now p.sent with
        silent | ⟨-, sends⟩
      · rw [Poll.call, atDhcpWantTx, silent]
        exact .inl rfl
      · rw [Poll.call, atDhcpWantTx, sends]
        by_cases init : (advanceRenewState d p.now).state = .init
        · exact .inr ⟨init, if_pos init⟩
        · exact .inl (if_neg init)
    rw [steady] at state
    rcases state with same | ⟨-, selecting⟩
    · exact other same.symm
    · have active := (advanceRenewState_active moved).1
      simp [leaseActive, selecting] at active
  rcases transmit_spec d p.cap p.now p.sent with silent | ⟨may, sends⟩
  · left
    rw [Poll.call, atDhcpWantTx, kept, silent]
  · right
    rw [if_neg started] at sends
    rw [Poll.call, atDhcpWantTx, kept, sends]
    dsimp only
    exact ⟨may.waits, may.frame, rfl⟩

/-- What sends leaves the waiting time, the send time and a state other than `INIT`. -/
theorem Poll.call_sends {d : AtDhcp} {p : Poll} (frame : (p.call d).2 ≠ []) :
    (p.call d).1.lastTx = p.sent ∧ (p.call d).1.state ≠ .init := by
  rcases transmit_spec (advanceRenewState d p.now) p.cap p.now p.sent with
    silent | ⟨-, sends⟩
  · rw [Poll.call, atDhcpWantTx, silent] at frame
    exact absurd rfl frame
  · rw [Poll.call, atDhcpWantTx, sends]
    constructor
    · rfl
    · by_cases init : (advanceRenewState d p.now).state = .init
      · simp [init]
      · simp [init]

/-- A frame that is not acted on leaves what the next transmission depends on. -/
theorem atDhcpOnFrame_steady {d : AtDhcp} {eth : Bytes} (ignored : ¬ ActsOn d eth) (now : Nat) :
    (atDhcpOnFrame d eth now).1.state = d.state ∧
      (atDhcpOnFrame d eth now).1.lastTx = d.lastTx ∧
      (atDhcpOnFrame d eth now).1.backoffMs = d.backoffMs := by
  cases reply : bootpReplyAt d.xid eth with
  | none =>
      rw [atDhcpOnFrame, reply]
      exact ⟨rfl, rfl, rfl⟩
  | some bootp =>
      rw [atDhcpOnFrame_ignored reply ignored now]
      exact ⟨rfl, rfl, rfl⟩

/-! ## Runs -/

theorem clientStep_bounded (d : AtDhcp) (ev : ClientEvent) (next : AtDhcp)
    (bounded : BackoffBounded d) (stepped : clientStep d ev = some next) :
    BackoffBounded next := by
  cases ev with
  | poll p =>
      cases stepped
      have advanced : BackoffBounded (advanceRenewState d p.now) := by
        rcases advanceRenewState_cases d p.now with same | ⟨-, reset⟩ | ⟨-, state, -, moved⟩
        · rw [same]
          exact bounded
        · rw [reset]
          exact .of_eq rfl (by decide : 200 ≤ 500 ∧ 500 ≤ 8000)
        · rw [moved]
          exact .of_eq rfl (by decide : 200 ≤ 1000 ∧ 1000 ≤ 8000)
      rcases transmit_spec (advanceRenewState d p.now) p.cap p.now p.sent with
        silent | ⟨-, sends⟩
      · rw [Poll.call, atDhcpWantTx, silent]
        exact advanced
      · rw [Poll.call, atDhcpWantTx, sends]
        exact ⟨Nat.le_trans advanced.1 (le_nextBackoff advanced.2), nextBackoff_le⟩
  | frame eth now =>
      cases stepped
      have outcome := atDhcpOnFrame_outcome d eth now
      generalize (atDhcpOnFrame d eth now).1 = d' at outcome ⊢
      cases outcome with
      | noReply found => exact bounded
      | offered r found offer named free =>
          rw [onOffer]
          split_ifs
          · exact bounded
          · exact .of_eq rfl (by decide : 200 ≤ 200 ∧ 200 ≤ 8000)
      | acked r found ack named =>
          rw [onAck_eq]
          exact .of_eq rfl (by decide : 200 ≤ 500 ∧ 500 ≤ 8000)
      | naked r found nak => exact .of_eq rfl (by decide : 200 ≤ 500 ∧ 500 ≤ 8000)
      | ignored r found notAck notNak => exact bounded

/-- A steady client that sent last with a given waiting time goes on waiting. -/
theorem sends_paced {d : AtDhcp} {events : List ClientEvent} (started : d.state ≠ .init)
    (small : d.backoffMs ≤ 8000) (steady : Guarded clientStep Steady d events)
    (forward : ∀ p, ClientEvent.poll p ∈ events → p.now ≤ p.sent.ms) :
    ((d.lastTx, d.backoffMs) :: sends d events).IsChain Paced := by
  induction events generalizing d with
  | nil => exact List.isChain_singleton _
  | cons ev events ih =>
      have later : ∀ p, ClientEvent.poll p ∈ events → p.now ≤ p.sent.ms :=
        fun p member => forward p (List.mem_cons_of_mem _ member)
      obtain ⟨here, rest⟩ := steady
      cases ev with
      | poll p =>
          have rest := rest _ rfl
          rcases p.call_steady started here with silent | ⟨waits, frame, called⟩
          · rw [silent] at rest
            rw [sends, silent, if_pos rfl]
            exact ih started small rest later
          · have next := @ih (p.call d).1 (by rw [called]; exact started)
              (by rw [called]; exact nextBackoff_le) rest later
            have tx : (p.call d).1.lastTx = p.sent := by rw [called]
            have backoff : (p.call d).1.backoffMs = nextBackoff d.backoffMs := by rw [called]
            rw [tx] at next
            rw [sends, if_neg frame, List.isChain_cons_cons]
            constructor
            · constructor
              · intro noted
                exact Nat.le_trans (waits noted) (forward p List.mem_cons_self)
              · constructor
                · exact backoff
                · rw [backoff]
                  exact le_nextBackoff small
            · exact next
      | frame eth now =>
          have rest := rest _ rfl
          obtain ⟨state, tx, backoff⟩ := atDhcpOnFrame_steady here now
          have next := @ih (atDhcpOnFrame d eth now).1 (by rw [state]; exact started)
            (by rw [backoff]; exact small) rest later
          rw [tx, backoff] at next
          exact next

theorem ClockOrdered.forward {events : List ClientEvent} (ordered : ClockOrdered events)
    {p : Poll} (member : ClientEvent.poll p ∈ events) : p.now ≤ p.sent.ms := by
  have inner := (List.pairwise_flatMap.mp ordered).1 _ member
  exact List.rel_of_pairwise_cons inner List.mem_cons_self

/-- **Retransmission.**  In a run under a clock that does not go back, the waiting time
is always between 0.2 and 8 seconds.  In a stretch of it without an accepted message or
a change of state, each transmission comes no earlier than the waiting time that the one
before left, counted from its send time, unless that time is zero; and each leaves twice
the waiting time of the one before up to four seconds, eight seconds from then on. -/
theorem retransmission_paced {mac : Vector UInt8 6} {xid : UInt32} {events : List ClientEvent}
    (ordered : ClockOrdered events) :
    Throughout clientStep BackoffBounded (atDhcpCreate mac xid) events ∧
      ∀ front stretch back d, events = front ++ (stretch ++ back) →
        run clientStep (atDhcpCreate mac xid) front = some d → Stretch d stretch →
        (sends d stretch).IsChain Paced := by
  have created : BackoffBounded (atDhcpCreate mac xid) :=
    .of_eq rfl (by decide : 200 ≤ 500 ∧ 500 ≤ 8000)
  constructor
  · intro front isPrefix last ran
    exact run_invariant clientStep_bounded created ran
  · rintro front stretch back d rfl ran stretched
    cases stretch with
    | nil => exact stretched.elim
    | cons ev stretch =>
        cases ev with
        | frame eth now => exact stretched.elim
        | poll p =>
            obtain ⟨frame, steady⟩ := stretched
            obtain ⟨tx, started⟩ := Poll.call_sends frame
            have bounded := clientStep_bounded d (.poll p) _
              (run_invariant clientStep_bounded created ran) rfl
            have forward : ∀ q, ClientEvent.poll q ∈ stretch → q.now ≤ q.sent.ms := by
              intro q member
              apply ordered.forward
              exact List.mem_append_right _ (List.mem_append_left _ (List.mem_cons_of_mem _ member))
            have paced := sends_paced started bounded.2 steady forward
            rw [tx] at paced
            rw [sends, if_neg frame]
            exact paced

/-- A new client polled twice by a clock that stands still after one second. -/
theorem retransmission_paced_polled :
    Throughout clientStep BackoffBounded (atDhcpCreate #v[2, 0, 0, 0, 0, 1] 7)
        [.poll ⟨1000, ⟨1, 0⟩, 1518⟩, .poll ⟨1000, ⟨1, 0⟩, 1518⟩] ∧
      ∀ front stretch back d,
        [.poll ⟨1000, ⟨1, 0⟩, 1518⟩, .poll ⟨1000, ⟨1, 0⟩, 1518⟩] = front ++ (stretch ++ back) →
        run clientStep (atDhcpCreate #v[2, 0, 0, 0, 0, 1] 7) front = some d →
        Stretch d stretch → (sends d stretch).IsChain Paced :=
  retransmission_paced (by decide)

/-- At time zero a client sends two DISCOVERs without a pause. -/
theorem sends_at_zero_unspaced :
    ¬ ∀ mac xid events, ClockOrdered events →
      Throughout clientStep BackoffBounded (atDhcpCreate mac xid) events ∧
        ∀ front stretch back d, events = front ++ (stretch ++ back) →
          run clientStep (atDhcpCreate mac xid) front = some d → Stretch d stretch →
          (sends d stretch).IsChain fun first second =>
            Spaced first second ∧ BacksOff first second := by
  intro claimed
  let p : Poll := ⟨0, ⟨0, 0⟩, 1518⟩
  have sent := (claimed #v[2, 0, 0, 0, 0, 1] 7 [.poll p, .poll p] (by decide)).2 [] [.poll p, .poll p]
    [] _ rfl rfl
  have twice : sends (atDhcpCreate #v[2, 0, 0, 0, 0, 1] 7) [.poll p, .poll p] =
      [(⟨0, 0⟩, 1000), (⟨0, 0⟩, 2000)] := by
    decide +kernel
  rw [twice] at sent
  have spaced := (List.isChain_cons_cons.mp (sent ?_)).1.1
  · exact absurd spaced (by decide)
  · constructor
    · decide +kernel
    · constructor
      · show ((p.call _).1.state = _)
        decide +kernel
      · intro next stepped
        trivial

end WiredTethering.Dhcp
