import Mathlib.Data.List.Count
import WiredTethering.Concurrent.Custody
import WiredTethering.Transition.Core

/-!
# The sockets of a session

`EngineSession` has a listener and at most one connection.  `startListening` makes the
listener, `acceptLoop` runs on a thread of its own and `stop()` may be called by anybody at
any time, also when the session is deallocated.  What is behind `fdLock` is one step; the calls
on the descriptors are steps of their own, and between them the number of a closed descriptor
may be given to another file of the process.
-/

namespace WiredTethering.App

open WiredTethering.Transition
open WiredTethering.Concurrent

/-- What a descriptor of the process is open on. -/
inductive Sock
  | listening
  | connection
  | foreign
deriving DecidableEq, Repr

/-- `startListening`. -/
inductive SetupPc
  | fresh
  | made (listenFd : Nat)
  | ready (listenFd : Nat)
  | published
  | started
  | threw
deriving DecidableEq, Repr

/-- `acceptLoop`, with the locals it still uses. -/
inductive LoopPc
  | notStarted
  | begins
  | accepting (listenFd : Nat)
  | accepted (fd : Nat)
  | reading (fd : Nat)
  | leaving (fd : Nat)
  | closing (fd : Nat)
  | posting
  | done
deriving DecidableEq, Repr

/-- A call of `stop()`, with the locals it still uses. -/
inductive StopPc
  | idle
  | sending (clientFd : Nat) (listenFd : Option Nat)
  | hangingUp (clientFd : Nat) (listenFd : Option Nat)
  | closing (listenFd : Nat)
deriving DecidableEq, Repr

inductive FdCall
  | accept
  | read
  | send
  | close
deriving DecidableEq, Repr

/-- A call on a descriptor: what the number was open on, and whether a `stop()` had begun. -/
structure FdUse where
  call : FdCall
  was : Option Sock
  stopping : Bool
deriving DecidableEq, Repr

/-- A session whose `stop()` is called by `C`. -/
structure Session (C : Type) where
  table : Nat → Option Sock
  listener : Option Nat
  client : Option Nat
  setup : SetupPc
  loop : LoopPc
  stops : C → StopPc
  stopping : Bool
  uses : List FdUse
  closedEvents : Nat

variable {C : Type}

/-- A session behind `init`, in a process with some open files. -/
def Session.start (foreign : Nat → Bool) : Session C where
  table fd := if foreign fd then some .foreign else none
  listener := none
  client := none
  setup := .fresh
  loop := .notStarted
  stops _ := .idle
  stopping := false
  uses := []
  closedEvents := 0

inductive SocketLabel (C : Type)
  /-- The rest of the process opens and closes files. -/
  | opens (fd : Nat)
  | closes (fd : Nat)
  /-- `socket` in `startListening`; none is -1. -/
  | socket (fd : Option Nat)
  /-- The path, `bind` and `listen`. -/
  | bind (ok : Bool)
  | publish
  | startThread
  | loadListener
  /-- `accept`; none is -1. -/
  | accept (fd : Option Nat)
  | storeClient
  /-- `read`, and whether it gave anything. -/
  | read (more : Bool)
  | leave
  | closeClient
  | post
  | stop (c : C)
  | advance (c : C)

/-- A call on a descriptor is noted. -/
def Session.uses_ (s : Session C) (call : FdCall) (fd : Nat) : Session C :=
  { s with uses := s.uses ++ [⟨call, s.table fd, s.stopping⟩] }

def Session.setTable [DecidableEq C] (s : Session C) (fd : Nat) (sock : Option Sock) : Session C :=
  { s with table := Function.update s.table fd sock }

/-- `close`. -/
def Session.close [DecidableEq C] (s : Session C) (fd : Nat) : Session C :=
  (s.uses_ .close fd).setTable fd none

/-- `stop()` behind the connection. -/
def StopPc.closeListener : Option Nat → StopPc
  | none => .idle
  | some listenFd => .closing listenFd

/-- `stop()` behind its lock. -/
def StopPc.begin (clientFd listenFd : Option Nat) : StopPc :=
  match clientFd with
  | some fd => .sending fd listenFd
  | none => .closeListener listenFd

def Session.setStop [DecidableEq C] (s : Session C) (c : C) (pc : StopPc) : Session C :=
  { s with stops := Function.update s.stops c pc }

/-- A call of `stop()` goes on. -/
def Session.advance [DecidableEq C] (s : Session C) (c : C) : Option (Session C) :=
  match s.stops c with
  | .idle => none
  | .sending fd listenFd => some ((s.uses_ .send fd).setStop c (.hangingUp fd listenFd))
  | .hangingUp fd listenFd => some ((s.close fd).setStop c (.closeListener listenFd))
  | .closing listenFd => some ((s.close listenFd).setStop c .idle)

def Session.makeListener [DecidableEq C] (s : Session C) : Option Nat → Option (Session C)
  | none => some { s with setup := .threw }
  | some fd =>
      if s.table fd = none then some { s.setTable fd (some .listening) with setup := .made fd }
      else none

/-- A step of `startListening`. -/
def Session.setupStep [DecidableEq C] (s : Session C) : SocketLabel C → Option (Session C)
  | .socket fd =>
      if s.setup = .fresh then s.makeListener fd else none
  | .bind ok =>
      match s.setup with
      | .made fd =>
          some (if ok then { s with setup := .ready fd } else { s.close fd with setup := .threw })
      | _ => none
  | .publish =>
      match s.setup with
      | .ready fd => some { s with listener := some fd, setup := .published }
      | _ => none
  | .startThread =>
      if s.setup = .published then some { s with setup := .started, loop := .begins } else none
  | _ => none

/-- `acceptLoop` behind its first lock. -/
def LoopPc.load : Option Nat → LoopPc
  | none => .posting
  | some listenFd => .accepting listenFd

/-- A step of `acceptLoop`. -/
def Session.loopStep [DecidableEq C] (s : Session C) : SocketLabel C → Option (Session C)
  | .loadListener =>
      if s.loop = .begins then
        some { s with loop := .load s.listener }
      else none
  | .accept fd =>
      match s.loop with
      | .accepting listenFd =>
          match fd with
          | none => some { s.uses_ .accept listenFd with loop := .posting }
          | some fd =>
              if s.table fd = none then
                some { (s.uses_ .accept listenFd).setTable fd (some .connection) with
                  loop := .accepted fd }
              else none
      | _ => none
  | .storeClient =>
      match s.loop with
      | .accepted fd => some { s with client := some fd, loop := .reading fd }
      | _ => none
  | .read more =>
      match s.loop with
      | .reading fd =>
          some { s.uses_ .read fd with loop := if more then .reading fd else .leaving fd }
      | _ => none
  | .leave =>
      match s.loop with
      | .leaving fd =>
          some (if s.client = some fd then { s with client := none, loop := .closing fd }
            else { s with loop := .posting })
      | _ => none
  | .closeClient =>
      match s.loop with
      | .closing fd => some { s.close fd with loop := .posting }
      | _ => none
  | .post =>
      if s.loop = .posting then
        some { s with loop := .done, closedEvents := s.closedEvents + 1 }
      else none
  | _ => none

/-- A step of `startListening` or of `acceptLoop`. -/
def Session.ownStep [DecidableEq C] (s : Session C) (label : SocketLabel C) : Option (Session C) :=
  match s.setupStep label with
  | some next => some next
  | none => s.loopStep label

/-- A step of the session or of the process around it. -/
def Session.step [DecidableEq C] : Step (Session C) (SocketLabel C)
  | s, .opens fd => if s.table fd = none then some (s.setTable fd (some .foreign)) else none
  | s, .closes fd => if s.table fd = some .foreign then some (s.setTable fd none) else none
  | s, .stop c =>
      if s.stops c = .idle then
        some ({ s with client := none, listener := none, stopping := true }.setStop c
          (.begin s.client s.listener))
      else none
  | s, .advance c => s.advance c
  | s, label => s.ownStep label

/-! ## Who has a socket -/

/-- Where the number of a socket is kept. -/
inductive Hand (C : Type)
  | setup
  | field
  | caller (c : C)
  | loop
deriving DecidableEq

def SetupPc.listenFd : SetupPc → Option Nat
  | .made fd => some fd
  | .ready fd => some fd
  | _ => none

def StopPc.listenFd : StopPc → Option Nat
  | .idle => none
  | .sending _ listenFd => listenFd
  | .hangingUp _ listenFd => listenFd
  | .closing listenFd => some listenFd

def StopPc.clientFd : StopPc → Option Nat
  | .sending fd _ => some fd
  | .hangingUp fd _ => some fd
  | _ => none

/-- What `acceptLoop` has to close; the field has what it reads from. -/
def LoopPc.clientFd : LoopPc → Option Nat
  | .accepted fd => some fd
  | .closing fd => some fd
  | _ => none

def Session.listenFdIn (s : Session C) : Hand C → Option Nat
  | .setup => s.setup.listenFd
  | .field => s.listener
  | .caller c => (s.stops c).listenFd
  | .loop => none

def Session.clientFdIn (s : Session C) : Hand C → Option Nat
  | .setup => none
  | .field => s.client
  | .caller c => (s.stops c).clientFd
  | .loop => s.loop.clientFd

/-- The connection has yet to be accepted. -/
def LoopPc.beforeAccept : LoopPc → Bool
  | .notStarted => true
  | .begins => true
  | .accepting _ => true
  | _ => false

/-- Nothing but the sockets of the session is closed or sent to.  Only behind a `stop()` may a
number that is accepted on or read from have come to mean something else. -/
def FdUse.Proper (u : FdUse) : Prop :=
  match u.call with
  | .close => u.was = some .listening ∨ u.was = some .connection
  | .send => u.was = some .connection
  | .accept => u.was = some .listening ∨ u.stopping = true
  | .read => u.was = some .connection ∨ u.stopping = true

/-- How often a socket was closed. -/
def Session.closesOf (s : Session C) (sock : Sock) : Nat :=
  s.uses.countP fun u => u.call = .close ∧ u.was = some sock

/-! ## What a step does -/

variable [DecidableEq C]

inductive SocketMoves (s : Session C) : Session C → Prop
  | opens {fd : Nat} (free : s.table fd = none) : SocketMoves s (s.setTable fd (some .foreign))
  | closes {fd : Nat} (foreign : s.table fd = some .foreign) : SocketMoves s (s.setTable fd none)
  | noSocket (fresh : s.setup = .fresh) : SocketMoves s { s with setup := .threw }
  | socket {fd : Nat} (fresh : s.setup = .fresh) (free : s.table fd = none) :
      SocketMoves s { s.setTable fd (some .listening) with setup := .made fd }
  | bound {fd : Nat} (made : s.setup = .made fd) : SocketMoves s { s with setup := .ready fd }
  | unbound {fd : Nat} (made : s.setup = .made fd) :
      SocketMoves s { s.close fd with setup := .threw }
  | published {fd : Nat} (ready : s.setup = .ready fd) :
      SocketMoves s { s with listener := some fd, setup := .published }
  | started (published : s.setup = .published) :
      SocketMoves s { s with setup := .started, loop := .begins }
  | loaded (begins : s.loop = .begins) : SocketMoves s { s with loop := .load s.listener }
  | refused {listenFd : Nat} (accepting : s.loop = .accepting listenFd) :
      SocketMoves s { s.uses_ .accept listenFd with loop := .posting }
  | accepted {listenFd fd : Nat} (accepting : s.loop = .accepting listenFd)
      (free : s.table fd = none) :
      SocketMoves s { (s.uses_ .accept listenFd).setTable fd (some .connection) with
        loop := .accepted fd }
  | stored {fd : Nat} (accepted : s.loop = .accepted fd) :
      SocketMoves s { s with client := some fd, loop := .reading fd }
  | read {fd : Nat} {pc : LoopPc} (reading : s.loop = .reading fd)
      (onward : pc = .reading fd ∨ pc = .leaving fd) :
      SocketMoves s { s.uses_ .read fd with loop := pc }
  | left {fd : Nat} (leaving : s.loop = .leaving fd) (ours : s.client = some fd) :
      SocketMoves s { s with client := none, loop := .closing fd }
  | leftAlone {fd : Nat} (leaving : s.loop = .leaving fd) (other : s.client ≠ some fd) :
      SocketMoves s { s with loop := .posting }
  | closed {fd : Nat} (closing : s.loop = .closing fd) :
      SocketMoves s { s.close fd with loop := .posting }
  | posted (posting : s.loop = .posting) :
      SocketMoves s { s with loop := .done, closedEvents := s.closedEvents + 1 }
  | stops {c : C} (idle : s.stops c = .idle) :
      SocketMoves s ({ s with client := none, listener := none, stopping := true }.setStop c
        (.begin s.client s.listener))
  | sent {c : C} {fd : Nat} {listenFd : Option Nat} (sending : s.stops c = .sending fd listenFd) :
      SocketMoves s ((s.uses_ .send fd).setStop c (.hangingUp fd listenFd))
  | hungUp {c : C} {fd : Nat} {listenFd : Option Nat}
      (hangingUp : s.stops c = .hangingUp fd listenFd) :
      SocketMoves s ((s.close fd).setStop c (.closeListener listenFd))
  | shut {c : C} {listenFd : Nat} (closing : s.stops c = .closing listenFd) :
      SocketMoves s ((s.close listenFd).setStop c .idle)

theorem setupStep_moves {s next : Session C} {label : SocketLabel C}
    (stepped : s.setupStep label = some next) : SocketMoves s next := by
  cases label with
  | socket fd =>
      rw [Session.setupStep] at stepped
      split_ifs at stepped with fresh
      cases fd with
      | none =>
          cases stepped
          exact .noSocket fresh
      | some fd =>
          rw [Session.makeListener] at stepped
          split_ifs at stepped with free
          cases stepped
          exact .socket fresh free
  | bind ok =>
      rw [Session.setupStep] at stepped
      cases made : s.setup with
      | made fd =>
          rw [made] at stepped
          cases stepped
          split_ifs
          · exact .bound made
          · exact .unbound made
      | _ => rw [made] at stepped; cases stepped
  | publish =>
      rw [Session.setupStep] at stepped
      cases ready : s.setup with
      | ready fd =>
          rw [ready] at stepped
          cases stepped
          exact .published ready
      | _ => rw [ready] at stepped; cases stepped
  | startThread =>
      rw [Session.setupStep] at stepped
      split_ifs at stepped with published
      cases stepped
      exact .started published
  | _ => cases stepped

theorem loopStep_moves {s next : Session C} {label : SocketLabel C}
    (stepped : s.loopStep label = some next) : SocketMoves s next := by
  cases label with
  | loadListener =>
      rw [Session.loopStep] at stepped
      split_ifs at stepped with begins
      cases stepped
      exact .loaded begins
  | accept fd =>
      rw [Session.loopStep] at stepped
      cases accepting : s.loop with
      | accepting listenFd =>
          rw [accepting] at stepped
          cases fd with
          | none =>
              cases stepped
              exact .refused accepting
          | some fd =>
              dsimp only at stepped
              split_ifs at stepped with free
              cases stepped
              exact .accepted accepting free
      | _ => rw [accepting] at stepped; cases stepped
  | storeClient =>
      rw [Session.loopStep] at stepped
      cases accepted : s.loop with
      | accepted fd =>
          rw [accepted] at stepped
          cases stepped
          exact .stored accepted
      | _ => rw [accepted] at stepped; cases stepped
  | read more =>
      rw [Session.loopStep] at stepped
      cases reading : s.loop with
      | reading fd =>
          rw [reading] at stepped
          cases stepped
          cases more with
          | true => exact .read reading (.inl rfl)
          | false => exact .read reading (.inr rfl)
      | _ => rw [reading] at stepped; cases stepped
  | leave =>
      rw [Session.loopStep] at stepped
      cases leaving : s.loop with
      | leaving fd =>
          rw [leaving] at stepped
          cases stepped
          split_ifs with ours
          · exact .left leaving ours
          · exact .leftAlone leaving ours
      | _ => rw [leaving] at stepped; cases stepped
  | closeClient =>
      rw [Session.loopStep] at stepped
      cases closing : s.loop with
      | closing fd =>
          rw [closing] at stepped
          cases stepped
          exact .closed closing
      | _ => rw [closing] at stepped; cases stepped
  | post =>
      rw [Session.loopStep] at stepped
      split_ifs at stepped with posting
      cases stepped
      exact .posted posting
  | _ => cases stepped

theorem advance_moves {s next : Session C} {c : C} (stepped : s.advance c = some next) :
    SocketMoves s next := by
  rw [Session.advance] at stepped
  cases pc : s.stops c with
  | idle => rw [pc] at stepped; cases stepped
  | sending fd listenFd =>
      rw [pc] at stepped
      cases stepped
      exact .sent pc
  | hangingUp fd listenFd =>
      rw [pc] at stepped
      cases stepped
      exact .hungUp pc
  | closing listenFd =>
      rw [pc] at stepped
      cases stepped
      exact .shut pc

theorem ownStep_moves {s next : Session C} {label : SocketLabel C}
    (stepped : s.ownStep label = some next) : SocketMoves s next := by
  rw [Session.ownStep] at stepped
  cases setup : s.setupStep label with
  | none =>
      rw [setup] at stepped
      exact loopStep_moves stepped
  | some here =>
      rw [setup] at stepped
      cases stepped
      exact setupStep_moves setup

theorem step_moves {s next : Session C} {label : SocketLabel C}
    (stepped : s.step label = some next) : SocketMoves s next := by
  cases label with
  | opens fd =>
      rw [Session.step] at stepped
      split_ifs at stepped with free
      cases stepped
      exact .opens free
  | closes fd =>
      rw [Session.step] at stepped
      split_ifs at stepped with foreign
      cases stepped
      exact .closes foreign
  | stop c =>
      rw [Session.step] at stepped
      split_ifs at stepped with idle
      cases stepped
      exact .stops idle
  | advance c => exact advance_moves stepped
  | _ =>
      simp only [Session.step] at stepped
      exact ownStep_moves stepped

/-! ## Custody -/

omit [DecidableEq C] in
theorem closesOf_uses (s : Session C) {call : FdCall} (other : call ≠ .close) (fd : Nat)
    (sock : Sock) : (s.uses_ call fd).closesOf sock = s.closesOf sock := by
  rw [Session.closesOf, Session.uses_, List.countP_append, List.countP_singleton,
    if_neg (by simp [other])]
  rfl

theorem closesOf_close (s : Session C) (fd : Nat) (sock : Sock) :
    (s.close fd).closesOf sock = s.closesOf sock + if s.table fd = some sock then 1 else 0 := by
  rw [Session.closesOf, Session.close, Session.setTable, Session.uses_, List.countP_append,
    List.countP_singleton]
  by_cases same : s.table fd = some sock
  · rw [if_pos (by simp [same]), if_pos same]
    rfl
  · rw [if_neg (by simp [same]), if_neg same]
    rfl

theorem setTable_names (s : Session C) (fd : Nat) (new : Option Sock) (sock : Sock) (v : Nat) :
    (s.setTable fd new).table v = some sock ↔
      v = fd ∧ new = some sock ∨ v ≠ fd ∧ s.table v = some sock := by
  rw [Session.setTable]
  by_cases same : v = fd
  · subst same
    simp
  · simp [same]

/-- A number that did not mean the socket is given away and means it no more than before. -/
theorem setTable_other {s : Session C} {fd : Nat} {new : Option Sock} {sock : Sock}
    (was : s.table fd ≠ some sock) (is : new ≠ some sock) (v : Nat) :
    (s.setTable fd new).table v = some sock ↔ s.table v = some sock := by
  rw [setTable_names]
  constructor
  · rintro (⟨-, same⟩ | ⟨-, same⟩)
    · exact absurd same is
    · exact same
  · intro same
    refine .inr ⟨?_, same⟩
    rintro rfl
    exact was same

theorem setStop_listenFdIn (s : Session C) (c : C) (pc : StopPc) (h : Hand C) :
    (s.setStop c pc).listenFdIn h = if h = .caller c then pc.listenFd else s.listenFdIn h := by
  cases h with
  | caller d =>
      by_cases same : d = c
      · subst same
        simp [Session.setStop, Session.listenFdIn]
      · simp [Session.setStop, Session.listenFdIn, same]
  | _ => rfl

theorem setStop_clientFdIn (s : Session C) (c : C) (pc : StopPc) (h : Hand C) :
    (s.setStop c pc).clientFdIn h = if h = .caller c then pc.clientFd else s.clientFdIn h := by
  cases h with
  | caller d =>
      by_cases same : d = c
      · subst same
        simp [Session.setStop, Session.clientFdIn]
      · simp [Session.setStop, Session.clientFdIn, same]
  | _ => rfl

/-- A socket is in one pair of hands, and was closed if it is gone. -/
structure Kept (sock : Sock) (has : Session C → Hand C → Option Nat) (s : Session C)
    (place : Place (Hand C) Nat) : Prop where
  custody : Custody (has s) (fun fd => s.table fd = some sock) place
  closes : s.closesOf sock = place.disposals

namespace Kept

variable {sock : Sock} {has : Session C → Hand C → Option Nat} {s next : Session C}
  {place : Place (Hand C) Nat}

theorem frame (kept : Kept sock has s place) (same : ∀ h, has next h = has s h)
    (names : ∀ fd, next.table fd = some sock ↔ s.table fd = some sock)
    (closes : next.closesOf sock = s.closesOf sock) : Kept sock has next place :=
  ⟨kept.custody.frame same names, closes.trans kept.closes⟩

theorem passed {giver taker : Hand C} {fd : Nat} (kept : Kept sock has s place)
    (here : has s giver = some fd)
    (passes : ∀ h, has next h = if h = taker then some fd else if h = giver then none else has s h)
    (names : ∀ fd, next.table fd = some sock ↔ s.table fd = some sock)
    (closes : next.closesOf sock = s.closesOf sock) : Kept sock has next (.held taker fd) := by
  obtain rfl := kept.custody.place_of_hand here
  exact ⟨kept.custody.passed passes names, closes.trans kept.closes⟩

theorem closed {hand : Hand C} {fd : Nat} (kept : Kept sock has s place)
    (here : has s hand = some fd)
    (gives : ∀ h, has next h = if h = hand then none else has s h)
    (table : next.table = (s.close fd).table) (uses : next.uses = (s.close fd).uses) :
    Kept sock has next .gone := by
  have mine := kept.custody.means_of_hand here
  obtain rfl := kept.custody.place_of_hand here
  refine ⟨kept.custody.disposed gives fun v => ?_, ?_⟩
  · rw [table, Session.close, setTable_names]
    constructor
    · rintro (⟨-, none_⟩ | ⟨other, same⟩)
      · cases none_
      · exact ⟨same, other⟩
    · rintro ⟨same, other⟩
      exact .inr ⟨other, same⟩
  · have count := closesOf_close s fd sock
    rw [if_pos mine, kept.closes] at count
    rw [Session.closesOf, uses]
    exact count

/-- What a hand has was born. -/
theorem born_of_hand {h : Hand C} {fd : Nat} {early : Prop} (kept : Kept sock has s place)
    (here : has s h = some fd) (unborn : early → place = .unborn) : ¬ early := by
  intro isEarly
  rw [unborn isEarly] at kept
  cases kept.custody.place_of_hand here

/-- Another socket is closed. -/
theorem other_closed {fd : Nat} (kept : Kept sock has s place) (other : s.table fd ≠ some sock)
    (same : ∀ h, has next h = has s h) (table : next.table = (s.close fd).table)
    (uses : next.uses = (s.close fd).uses) : Kept sock has next place := by
  refine kept.frame same (fun v => ?_) ?_
  · have gone : (none : Option Sock) ≠ some sock := (Option.some_ne_none sock).symm
    rw [table]
    exact @setTable_other C _ (s.uses_ .close fd) fd none sock other gone v
  · have count := closesOf_close s fd sock
    rw [if_neg other, Nat.add_zero] at count
    rw [Session.closesOf, uses]
    exact count

end Kept

omit [DecidableEq C] in
theorem begin_listenFd (clientFd listenFd : Option Nat) :
    (StopPc.begin clientFd listenFd).listenFd = listenFd := by
  cases clientFd <;> cases listenFd <;> rfl

omit [DecidableEq C] in
theorem begin_clientFd (clientFd listenFd : Option Nat) :
    (StopPc.begin clientFd listenFd).clientFd = clientFd := by
  cases clientFd <;> cases listenFd <;> rfl

/-- A call of `stop()` that changes neither number. -/
theorem setStop_same {s : Session C} {c : C} {pc : StopPc}
    (listen : pc.listenFd = (s.stops c).listenFd) (h : Hand C) :
    (s.setStop c pc).listenFdIn h = s.listenFdIn h := by
  rw [setStop_listenFdIn]
  split_ifs with here
  · subst here
    exact listen
  · rfl

theorem setStop_same_client {s : Session C} {c : C} {pc : StopPc}
    (client : pc.clientFd = (s.stops c).clientFd) (h : Hand C) :
    (s.setStop c pc).clientFdIn h = s.clientFdIn h := by
  rw [setStop_clientFdIn]
  split_ifs with here
  · subst here
    exact client
  · rfl

omit [DecidableEq C] in
/-- A step of `acceptLoop` that neither gets nor gives away the number. -/
theorem clientFdIn_loop {s : Session C} {pc : LoopPc} (same : pc.clientFd = s.loop.clientFd)
    (h : Hand C) : { s with loop := pc }.clientFdIn h = s.clientFdIn h := by
  cases h with
  | loop => exact same
  | _ => rfl

/-- The listener over a step. -/
theorem listener_kept {s next : Session C} {place held : Place (Hand C) Nat}
    (moves : SocketMoves s next) (kept : Kept .listening Session.listenFdIn s place)
    (client : Kept .connection Session.clientFdIn s held)
    (fresh : s.setup = .fresh → place = .unborn) :
    ∃ after, Kept .listening Session.listenFdIn next after ∧
      (next.setup = .fresh → after = .unborn) := by
  have connected {h : Hand C} {fd : Nat} (here : s.clientFdIn h = some fd) :
      s.table fd ≠ some .listening := by
    have mine : s.table fd = some .connection := client.custody.means_of_hand here
    rw [mine]
    decide
  cases moves with
  | opens free =>
      refine ⟨place, kept.frame (fun _ => rfl) (setTable_other ?_ (by decide)) rfl, fresh⟩
      rw [free]
      decide
  | closes foreign =>
      refine ⟨place, kept.frame (fun _ => rfl) (setTable_other ?_ (by decide)) rfl, fresh⟩
      rw [foreign]
      decide
  | noSocket isFresh =>
      refine ⟨place, kept.frame (fun h => ?_) (fun _ => Iff.rfl) rfl, nofun⟩
      cases h with
      | setup => simp [Session.listenFdIn, isFresh, SetupPc.listenFd]
      | _ => rfl
  | @socket fd isFresh free =>
      obtain rfl := fresh isFresh
      refine ⟨.held .setup fd, ⟨kept.custody.born (fun h => ?_) (fun v => ?_), kept.closes⟩, nofun⟩
      · cases h with
        | setup => rfl
        | _ => rfl
      · dsimp only
        rw [setTable_names]
        by_cases same : v = fd
        · simp [same]
        · simp [same]
  | bound made =>
      refine ⟨place, kept.frame (fun h => ?_) (fun _ => Iff.rfl) rfl, nofun⟩
      cases h with
      | setup => simp [Session.listenFdIn, made, SetupPc.listenFd]
      | _ => rfl
  | @unbound fd made =>
      have here : s.listenFdIn .setup = some fd := by
        simp [Session.listenFdIn, made, SetupPc.listenFd]
      refine ⟨.gone, kept.closed here (fun h => ?_) rfl rfl, nofun⟩
      cases h with
      | setup => rfl
      | _ => rfl
  | @published fd ready =>
      have here : s.listenFdIn .setup = some fd := by
        simp [Session.listenFdIn, ready, SetupPc.listenFd]
      refine ⟨.held .field fd, kept.passed here (fun h => ?_) (fun _ => Iff.rfl) rfl, nofun⟩
      cases h with
      | setup => rfl
      | _ => rfl
  | started published =>
      refine ⟨place, kept.frame (fun h => ?_) (fun _ => Iff.rfl) rfl, nofun⟩
      cases h with
      | setup => simp [Session.listenFdIn, published, SetupPc.listenFd]
      | _ => rfl
  | loaded begins => exact ⟨place, kept.frame (fun _ => rfl) (fun _ => Iff.rfl) rfl, fresh⟩
  | refused accepting =>
      exact ⟨place, kept.frame (fun _ => rfl) (fun _ => Iff.rfl)
        (closesOf_uses s (by decide) _ _), fresh⟩
  | accepted accepting free =>
      refine ⟨place, kept.frame (fun _ => rfl) (setTable_other ?_ (by decide))
        (closesOf_uses s (by decide) _ _), fresh⟩
      rw [Session.uses_, free]
      decide
  | stored accepted => exact ⟨place, kept.frame (fun _ => rfl) (fun _ => Iff.rfl) rfl, fresh⟩
  | read reading onward =>
      exact ⟨place, kept.frame (fun _ => rfl) (fun _ => Iff.rfl)
        (closesOf_uses s (by decide) _ _), fresh⟩
  | left leaving ours => exact ⟨place, kept.frame (fun _ => rfl) (fun _ => Iff.rfl) rfl, fresh⟩
  | leftAlone leaving other =>
      exact ⟨place, kept.frame (fun _ => rfl) (fun _ => Iff.rfl) rfl, fresh⟩
  | closed closing =>
      have here : s.clientFdIn .loop = some _ := congrArg LoopPc.clientFd closing
      exact ⟨place, kept.other_closed (connected here) (fun _ => rfl) rfl rfl, fresh⟩
  | posted posting => exact ⟨place, kept.frame (fun _ => rfl) (fun _ => Iff.rfl) rfl, fresh⟩
  | @stops c idle =>
      cases there : s.listener with
      | none =>
          refine ⟨place, kept.frame (fun h => ?_) (fun _ => Iff.rfl) rfl, fresh⟩
          rw [setStop_listenFdIn, begin_listenFd]
          split_ifs with here
          · subst here
            simp [Session.listenFdIn, idle, StopPc.listenFd]
          · cases h with
            | field => exact there.symm
            | _ => rfl
      | some fd =>
          have here : s.listenFdIn .field = some fd := there
          refine ⟨.held (.caller c) fd, kept.passed here (fun h => ?_) (fun _ => Iff.rfl) rfl, ?_⟩
          · rw [setStop_listenFdIn, begin_listenFd]
            split_ifs with caller field
            · rfl
            · subst field
              rfl
            · cases h with
              | field => exact absurd rfl field
              | _ => rfl
          · exact fun isFresh => absurd isFresh (kept.born_of_hand here fresh)
  | @sent c fd listenFd sending =>
      have listen : listenFd = (s.stops c).listenFd := by rw [sending]; rfl
      exact ⟨place, kept.frame (setStop_same listen) (fun _ => Iff.rfl)
        (closesOf_uses s (by decide) _ _), fresh⟩
  | @hungUp c fd listenFd hangingUp =>
      have here : s.clientFdIn (.caller c) = some fd := congrArg StopPc.clientFd hangingUp
      have listen : (StopPc.closeListener listenFd).listenFd = (s.stops c).listenFd := by
        rw [hangingUp]
        cases listenFd <;> rfl
      exact ⟨place, kept.other_closed (connected here) (setStop_same listen) rfl rfl, fresh⟩
  | @shut c listenFd closing =>
      have here : s.listenFdIn (.caller c) = some listenFd := congrArg StopPc.listenFd closing
      refine ⟨.gone, kept.closed here (fun h => ?_) rfl rfl, ?_⟩
      · rw [setStop_listenFdIn]
        rfl
      · exact fun isFresh => absurd isFresh (kept.born_of_hand here fresh)

/-- The connection over a step. -/
theorem client_kept {s next : Session C} {place held : Place (Hand C) Nat}
    (moves : SocketMoves s next) (kept : Kept .connection Session.clientFdIn s place)
    (listener : Kept .listening Session.listenFdIn s held)
    (early : s.loop.beforeAccept = true → place = .unborn)
    (waits : s.setup ≠ .started → s.loop = .notStarted) :
    ∃ after, Kept .connection Session.clientFdIn next after ∧
      (next.loop.beforeAccept = true → after = .unborn) := by
  have listens {h : Hand C} {fd : Nat} (here : s.listenFdIn h = some fd) :
      s.table fd ≠ some .connection := by
    have mine : s.table fd = some .listening := listener.custody.means_of_hand here
    rw [mine]
    decide
  cases moves with
  | opens free =>
      refine ⟨place, kept.frame (fun _ => rfl) (setTable_other ?_ (by decide)) rfl, early⟩
      rw [free]
      decide
  | closes foreign =>
      refine ⟨place, kept.frame (fun _ => rfl) (setTable_other ?_ (by decide)) rfl, early⟩
      rw [foreign]
      decide
  | noSocket isFresh => exact ⟨place, kept.frame (fun _ => rfl) (fun _ => Iff.rfl) rfl, early⟩
  | socket isFresh free =>
      refine ⟨place, kept.frame (fun _ => rfl) (setTable_other ?_ (by decide)) rfl, early⟩
      rw [free]
      decide
  | bound made => exact ⟨place, kept.frame (fun _ => rfl) (fun _ => Iff.rfl) rfl, early⟩
  | unbound made =>
      have here : s.listenFdIn .setup = some _ := congrArg SetupPc.listenFd made
      exact ⟨place, kept.other_closed (listens here) (fun _ => rfl) rfl rfl, early⟩
  | published ready => exact ⟨place, kept.frame (fun _ => rfl) (fun _ => Iff.rfl) rfl, early⟩
  | started published =>
      have waiting := waits (by rw [published]; decide)
      refine ⟨place, kept.frame (clientFdIn_loop ?_) (fun _ => Iff.rfl) rfl, fun _ => ?_⟩
      · rw [waiting]
        rfl
      · exact early (by rw [waiting]; rfl)
  | loaded begins =>
      refine ⟨place, kept.frame (clientFdIn_loop ?_) (fun _ => Iff.rfl) rfl, fun _ => ?_⟩
      · rw [begins]
        cases s.listener <;> rfl
      · exact early (by rw [begins]; rfl)
  | refused accepting =>
      have none_ : LoopPc.posting.clientFd = s.loop.clientFd := by rw [accepting]; rfl
      exact ⟨place, kept.frame (clientFdIn_loop none_) (fun _ => Iff.rfl)
        (closesOf_uses s (by decide) _ _), nofun⟩
  | @accepted listenFd fd accepting free =>
      obtain rfl := early (by rw [accepting]; rfl)
      refine ⟨.held .loop fd, ⟨kept.custody.born (fun h => ?_) (fun v => ?_), ?_⟩, nofun⟩
      · cases h with
        | loop => rfl
        | _ => rfl
      · dsimp only
        rw [setTable_names]
        by_cases same : v = fd
        · simp [same]
        · simp [same, Session.uses_]
      · exact (closesOf_uses s (by decide) _ _).trans kept.closes
  | @stored fd accepted =>
      have here : s.clientFdIn .loop = some fd := congrArg LoopPc.clientFd accepted
      refine ⟨.held .field fd, kept.passed here (fun h => ?_) (fun _ => Iff.rfl) rfl, nofun⟩
      cases h with
      | field => rfl
      | _ => rfl
  | @read fd pc reading onward =>
      have none_ : pc.clientFd = s.loop.clientFd := by
        rw [reading]
        rcases onward with rfl | rfl <;> rfl
      refine ⟨place, kept.frame (clientFdIn_loop none_) (fun _ => Iff.rfl)
        (closesOf_uses s (by decide) _ _), fun isEarly => ?_⟩
      rcases onward with rfl | rfl <;> cases isEarly
  | @left fd leaving ours =>
      have here : s.clientFdIn .field = some fd := ours
      refine ⟨.held .loop fd, kept.passed here (fun h => ?_) (fun _ => Iff.rfl) rfl, nofun⟩
      cases h with
      | field => rfl
      | _ => rfl
  | leftAlone leaving other =>
      refine ⟨place, kept.frame (clientFdIn_loop ?_) (fun _ => Iff.rfl) rfl, nofun⟩
      rw [leaving]
      rfl
  | @closed fd closing =>
      have here : s.clientFdIn .loop = some fd := congrArg LoopPc.clientFd closing
      refine ⟨.gone, kept.closed here (fun h => ?_) rfl rfl, nofun⟩
      cases h with
      | loop => rfl
      | _ => rfl
  | posted posting =>
      refine ⟨place, kept.frame (clientFdIn_loop ?_) (fun _ => Iff.rfl) rfl, nofun⟩
      rw [posting]
      rfl
  | @stops c idle =>
      cases there : s.client with
      | none =>
          refine ⟨place, kept.frame (fun h => ?_) (fun _ => Iff.rfl) rfl, early⟩
          rw [setStop_clientFdIn, begin_clientFd]
          split_ifs with here
          · subst here
            simp [Session.clientFdIn, idle, StopPc.clientFd]
          · cases h with
            | field => exact there.symm
            | _ => rfl
      | some fd =>
          have here : s.clientFdIn .field = some fd := there
          refine ⟨.held (.caller c) fd, kept.passed here (fun h => ?_) (fun _ => Iff.rfl) rfl, ?_⟩
          · rw [setStop_clientFdIn, begin_clientFd]
            split_ifs with caller field
            · rfl
            · subst field
              rfl
            · cases h with
              | field => exact absurd rfl field
              | _ => rfl
          · exact fun isEarly => absurd isEarly (kept.born_of_hand here early)
  | @sent c fd listenFd sending =>
      have client : some fd = (s.stops c).clientFd := by rw [sending]; rfl
      exact ⟨place, kept.frame (setStop_same_client client) (fun _ => Iff.rfl)
        (closesOf_uses s (by decide) _ _), early⟩
  | @hungUp c fd listenFd hangingUp =>
      have here : s.clientFdIn (.caller c) = some fd := congrArg StopPc.clientFd hangingUp
      refine ⟨.gone, kept.closed here (fun h => ?_) rfl rfl, ?_⟩
      · rw [setStop_clientFdIn]
        cases listenFd <;> rfl
      · exact fun isEarly => absurd isEarly (kept.born_of_hand here early)
  | @shut c listenFd closing =>
      have here : s.listenFdIn (.caller c) = some listenFd := congrArg StopPc.listenFd closing
      have client : none = (s.stops c).clientFd := by rw [closing]; rfl
      exact ⟨place, kept.other_closed (listens here) (setStop_same_client client) rfl rfl, early⟩

/-! ## Every run -/

/-- What `acceptLoop` reads from. -/
def LoopPc.serves : LoopPc → Option Nat
  | .reading fd => some fd
  | .leaving fd => some fd
  | _ => none

/-- Where the threads are, against the fields. -/
structure Follows (s : Session C) : Prop where
  waits : s.setup ≠ .started → s.loop = .notStarted
  accepting : ∀ fd, s.loop = .accepting fd → s.listener = some fd ∨ s.stopping = true
  reading : ∀ fd, s.loop = .reading fd → s.client = some fd ∨ s.stopping = true
  stored : ∀ fd, s.client = some fd → s.loop.serves = some fd
  events : s.closedEvents = if s.loop = .done then 1 else 0

omit [DecidableEq C] in
/-- `startListening`, `stop()` and everything else that leaves the loop where it is. -/
theorem Follows.still {s next : Session C} (follows : Follows s) (loop : next.loop = s.loop)
    (setup : next.setup = s.setup ∨ s.loop = .notStarted)
    (listener : next.listener = s.listener ∨ s.loop = .notStarted ∨ next.stopping = true)
    (client : next.client = s.client ∨ next.client = none ∧ next.stopping = true)
    (stopping : s.stopping = true → next.stopping = true)
    (events : next.closedEvents = s.closedEvents) : Follows next where
  waits := by
    intro other
    rw [loop]
    rcases setup with same | waiting
    · exact follows.waits (same ▸ other)
    · exact waiting
  accepting := by
    intro fd here
    rw [loop] at here
    rcases listener with same | waiting | stops
    · rw [same]
      exact (follows.accepting fd here).imp_right stopping
    · rw [waiting] at here
      cases here
    · exact .inr stops
  reading := by
    intro fd here
    rw [loop] at here
    rcases client with same | ⟨-, stops⟩
    · rw [same]
      exact (follows.reading fd here).imp_right stopping
    · exact .inr stops
  stored := by
    intro fd here
    rw [loop]
    rcases client with same | ⟨none_, -⟩
    · exact follows.stored fd (same ▸ here)
    · rw [none_] at here
      cases here
  events := by rw [events, loop, follows.events]

omit [DecidableEq C] in
/-- `acceptLoop` goes on to a place where it neither accepts nor reads. -/
theorem Follows.onward {s next : Session C} (follows : Follows s) (moved : s.loop ≠ .notStarted)
    (setup : next.setup = s.setup) (accepting : ∀ fd, next.loop ≠ .accepting fd)
    (reading : ∀ fd, next.loop ≠ .reading fd) (empty : next.client = none)
    (events : next.closedEvents = if next.loop = .done then 1 else 0) : Follows next where
  waits := fun other => absurd (follows.waits (setup ▸ other)) moved
  accepting := fun fd here => absurd here (accepting fd)
  reading := fun fd here => absurd here (reading fd)
  stored := by
    intro fd here
    rw [empty] at here
    cases here
  events := events

omit [DecidableEq C] in
theorem Follows.empty {s : Session C} (follows : Follows s) (none_ : s.loop.serves = none) :
    s.client = none := by
  cases here : s.client with
  | none => rfl
  | some fd =>
      rw [follows.stored fd here] at none_
      cases none_

theorem follows_kept {s next : Session C} (moves : SocketMoves s next) (follows : Follows s) :
    Follows next := by
  have waiting (setup : s.setup ≠ .started) : s.loop = .notStarted := follows.waits setup
  have silent {pc : LoopPc} (here : s.loop = pc) (more : pc ≠ .done) : s.closedEvents = 0 := by
    rw [follows.events, here, if_neg more]
  have empty {pc : LoopPc} (here : s.loop = pc) (none_ : pc.serves = none) : s.client = none :=
    follows.empty (here ▸ none_)
  cases moves with
  | opens free => exact follows.still rfl (.inl rfl) (.inl rfl) (.inl rfl) id rfl
  | closes foreign => exact follows.still rfl (.inl rfl) (.inl rfl) (.inl rfl) id rfl
  | noSocket isFresh =>
      have here := waiting (by rw [isFresh]; exact SetupPc.noConfusion)
      exact follows.still rfl (.inr here) (.inl rfl) (.inl rfl) id rfl
  | socket isFresh free =>
      have here := waiting (by rw [isFresh]; exact SetupPc.noConfusion)
      exact follows.still rfl (.inr here) (.inl rfl) (.inl rfl) id rfl
  | bound made =>
      have here := waiting (by rw [made]; exact SetupPc.noConfusion)
      exact follows.still rfl (.inr here) (.inl rfl) (.inl rfl) id rfl
  | unbound made =>
      have here := waiting (by rw [made]; exact SetupPc.noConfusion)
      exact follows.still rfl (.inr here) (.inl rfl) (.inl rfl) id rfl
  | published ready =>
      have here := waiting (by rw [ready]; exact SetupPc.noConfusion)
      exact follows.still rfl (.inr here) (.inr (.inl here)) (.inl rfl) id rfl
  | started published =>
      have here := waiting (by rw [published]; decide)
      have none_ := empty here rfl
      have silent_ := silent here (by decide)
      refine ⟨fun other => absurd rfl other, nofun, nofun, fun fd some_ => ?_, silent_⟩
      rw [none_] at some_
      cases some_
  | loaded begins =>
      have none_ := empty begins rfl
      have moved : s.loop ≠ .notStarted := by rw [begins]; decide
      have silent_ := silent begins (by decide)
      cases there : s.listener with
      | none => exact follows.onward moved rfl (fun _ => nofun) (fun _ => nofun) none_ silent_
      | some listenFd =>
          refine ⟨fun other => absurd (follows.waits other) moved, fun fd here => ?_, nofun,
            fun fd some_ => ?_, silent_⟩
          · cases here
            exact .inl rfl
          · rw [none_] at some_
            cases some_
  | refused accepting =>
      have moved : s.loop ≠ .notStarted := by rw [accepting]; exact LoopPc.noConfusion
      exact follows.onward moved rfl (fun _ => nofun) (fun _ => nofun) (empty accepting rfl)
        (silent accepting LoopPc.noConfusion)
  | accepted accepting free =>
      have moved : s.loop ≠ .notStarted := by rw [accepting]; exact LoopPc.noConfusion
      exact follows.onward moved rfl (fun _ => nofun) (fun _ => nofun) (empty accepting rfl)
        (silent accepting LoopPc.noConfusion)
  | stored accepted =>
      have moved : s.loop ≠ .notStarted := by rw [accepted]; exact LoopPc.noConfusion
      refine ⟨fun other => absurd (follows.waits other) moved, nofun, fun fd here => ?_,
        fun fd some_ => some_, silent accepted LoopPc.noConfusion⟩
      cases here
      exact .inl rfl
  | @read fd pc reading onward =>
      have moved : s.loop ≠ .notStarted := by rw [reading]; exact LoopPc.noConfusion
      have silent_ := silent reading LoopPc.noConfusion
      have serves : pc.serves = s.loop.serves := by
        rw [reading]
        rcases onward with rfl | rfl <;> rfl
      refine ⟨fun other => absurd (follows.waits other) moved, ?_, ?_,
        fun fd some_ => serves.trans (follows.stored fd some_), ?_⟩
      · rcases onward with rfl | rfl <;> exact nofun
      · rcases onward with rfl | rfl
        · intro other here
          cases here
          exact follows.reading fd reading
        · exact nofun
      · rcases onward with rfl | rfl <;> exact silent_
  | left leaving ours =>
      have moved : s.loop ≠ .notStarted := by rw [leaving]; exact LoopPc.noConfusion
      exact follows.onward moved rfl (fun _ => nofun) (fun _ => nofun) rfl
        (silent leaving LoopPc.noConfusion)
  | @leftAlone fd leaving other =>
      have moved : s.loop ≠ .notStarted := by rw [leaving]; exact LoopPc.noConfusion
      have none_ : s.client = none := by
        cases here : s.client with
        | none => rfl
        | some there =>
            have same := follows.stored there here
            rw [leaving] at same
            cases same
            exact absurd here other
      exact follows.onward moved rfl (fun _ => nofun) (fun _ => nofun) none_
        (silent leaving LoopPc.noConfusion)
  | closed closing =>
      have moved : s.loop ≠ .notStarted := by rw [closing]; exact LoopPc.noConfusion
      exact follows.onward moved rfl (fun _ => nofun) (fun _ => nofun) (empty closing rfl)
        (silent closing LoopPc.noConfusion)
  | posted posting =>
      have moved : s.loop ≠ .notStarted := by rw [posting]; decide
      refine follows.onward moved rfl (fun _ => nofun) (fun _ => nofun) (empty posting rfl) ?_
      rw [silent posting (by decide)]
      rfl
  | stops idle =>
      exact follows.still rfl (.inl rfl) (.inr (.inr rfl)) (.inr ⟨rfl, rfl⟩) (fun _ => rfl) rfl
  | sent sending => exact follows.still rfl (.inl rfl) (.inl rfl) (.inl rfl) id rfl
  | hungUp hangingUp => exact follows.still rfl (.inl rfl) (.inl rfl) (.inl rfl) id rfl
  | shut closing => exact follows.still rfl (.inl rfl) (.inl rfl) (.inl rfl) id rfl

theorem proper_kept {s next : Session C} {listenerAt clientAt : Place (Hand C) Nat}
    (moves : SocketMoves s next) (listener : Kept .listening Session.listenFdIn s listenerAt)
    (client : Kept .connection Session.clientFdIn s clientAt) (follows : Follows s)
    (proper : ∀ u ∈ s.uses, u.Proper) : ∀ u ∈ next.uses, u.Proper := by
  have listens {h : Hand C} {fd : Nat} (here : s.listenFdIn h = some fd) :
      s.table fd = some .listening := listener.custody.means_of_hand here
  have connected {h : Hand C} {fd : Nat} (here : s.clientFdIn h = some fd) :
      s.table fd = some .connection := client.custody.means_of_hand here
  have more {call : FdCall} {fd : Nat} (is : FdUse.Proper ⟨call, s.table fd, s.stopping⟩) :
      ∀ u ∈ s.uses ++ [⟨call, s.table fd, s.stopping⟩], u.Proper := by
    rw [List.forall_mem_append, List.forall_mem_singleton]
    exact ⟨proper, is⟩
  cases moves with
  | unbound made => exact more (.inl (listens (h := .setup) (congrArg SetupPc.listenFd made)))
  | refused accepting =>
      exact more ((follows.accepting _ accepting).imp_left (listens (h := .field)))
  | accepted accepting free =>
      exact more ((follows.accepting _ accepting).imp_left (listens (h := .field)))
  | read reading onward =>
      exact more ((follows.reading _ reading).imp_left (connected (h := .field)))
  | closed closing => exact more (.inr (connected (h := .loop) (congrArg LoopPc.clientFd closing)))
  | @sent c fd listenFd sending =>
      have sends : FdUse.Proper ⟨.send, s.table fd, s.stopping⟩ :=
        connected (h := .caller c) (congrArg StopPc.clientFd sending)
      exact more sends
  | @hungUp c fd listenFd hangingUp =>
      exact more (.inr (connected (h := .caller c) (congrArg StopPc.clientFd hangingUp)))
  | @shut c listenFd closing =>
      exact more (.inl (listens (h := .caller c) (congrArg StopPc.listenFd closing)))
  | _ => exact proper

structure SocketInv (s : Session C) : Prop where
  listener : ∃ place, Kept .listening Session.listenFdIn s place ∧
    (s.setup = .fresh → place = .unborn)
  client : ∃ place, Kept .connection Session.clientFdIn s place ∧
    (s.loop.beforeAccept = true → place = .unborn)
  follows : Follows s
  proper : ∀ u ∈ s.uses, u.Proper

omit [DecidableEq C] in
theorem start_table (foreign : Nat → Bool) (fd : Nat) {sock : Sock} (own : sock ≠ .foreign) :
    (Session.start (C := C) foreign).table fd ≠ some sock := by
  intro same
  have shape : (if foreign fd then some Sock.foreign else none) = some sock := same
  split_ifs at shape
  cases shape
  exact own rfl

theorem SocketInv.start (foreign : Nat → Bool) : SocketInv (Session.start (C := C) foreign) where
  listener := by
    refine ⟨.unborn, ⟨⟨fun h => ?_, fun fd => ?_⟩, rfl⟩, fun _ => rfl⟩
    · cases h <;> rfl
    · exact iff_of_false (start_table foreign fd (by decide)) nofun
  client := by
    refine ⟨.unborn, ⟨⟨fun h => ?_, fun fd => ?_⟩, rfl⟩, fun _ => rfl⟩
    · cases h <;> rfl
    · exact iff_of_false (start_table foreign fd (by decide)) nofun
  follows := ⟨fun _ => rfl, nofun, nofun, nofun, rfl⟩
  proper := nofun

theorem SocketInv.kept {s next : Session C} {label : SocketLabel C} (inv : SocketInv s)
    (stepped : s.step label = some next) : SocketInv next := by
  have moves := step_moves stepped
  obtain ⟨listenerAt, listener, fresh⟩ := inv.listener
  obtain ⟨clientAt, client, early⟩ := inv.client
  exact ⟨listener_kept moves listener client fresh,
    client_kept moves client listener early inv.follows.waits, follows_kept moves inv.follows,
    proper_kept moves listener client inv.follows inv.proper⟩

/-- The threads have ended and no call of `stop()` is under way; one has taken the listener. -/
structure Session.Ended (s : Session C) : Prop where
  setup : s.setup = .started ∨ s.setup = .threw
  loop : s.loop = .notStarted ∨ s.loop = .done
  listener : s.listener = none
  stops : ∀ c, s.stops c = .idle

omit [DecidableEq C] in
theorem disposals_le (place : Place (Hand C) Nat) : place.disposals ≤ 1 := by
  cases place with
  | gone => exact Nat.le_refl 1
  | _ => exact Nat.zero_le 1

/-- A socket that no hand has is not open. -/
theorem Kept.closed_of_empty {sock : Sock} {has : Session C → Hand C → Option Nat}
    {s : Session C} {place : Place (Hand C) Nat} (kept : Kept sock has s place)
    (empty : ∀ h, has s h = none) (fd : Nat) : s.table fd ≠ some sock := by
  intro here
  have name := (kept.custody.names fd).mp here
  cases place with
  | unborn => cases name
  | gone => cases name
  | held hand own =>
      have there := kept.custody.hands hand
      rw [empty, Place.hands, if_pos rfl] at there
      cases there

/-- In every order of `startListening`, `acceptLoop`, any calls of `stop()` and the rest of the
process: nothing but the two sockets of the session is closed or sent to, each is closed once at
most, the end is reported once, and when all is over both are closed. -/
theorem session_closes_once (foreign : Nat → Bool) {labels : List (SocketLabel C)}
    {s : Session C} (ran : run Session.step (.start foreign) labels = some s) :
    (∀ u ∈ s.uses, u.Proper) ∧ (s.closesOf .listening ≤ 1 ∧ s.closesOf .connection ≤ 1) ∧
      s.closedEvents = (if s.loop = .done then 1 else 0) ∧
      (s.Ended → ∀ fd, s.table fd = none ∨ s.table fd = some .foreign) := by
  have inv : SocketInv s :=
    run_invariant (fun _ _ _ inv stepped => inv.kept stepped) (.start foreign) ran
  obtain ⟨listenerAt, listener, -⟩ := inv.listener
  obtain ⟨clientAt, client, -⟩ := inv.client
  refine ⟨inv.proper, ⟨?_, ?_⟩, inv.follows.events, fun ended fd => ?_⟩
  · rw [listener.closes]
    exact disposals_le listenerAt
  · rw [client.closes]
    exact disposals_le clientAt
  · have noListener : ∀ h, s.listenFdIn h = none := by
      intro h
      cases h with
      | setup => rcases ended.setup with there | there <;> exact congrArg SetupPc.listenFd there
      | field => exact ended.listener
      | caller c => exact congrArg StopPc.listenFd (ended.stops c)
      | loop => rfl
    have noClient : ∀ h, s.clientFdIn h = none := by
      intro h
      cases h with
      | setup => rfl
      | field =>
          apply inv.follows.empty
          rcases ended.loop with there | there <;> rw [there] <;> rfl
      | caller c => exact congrArg StopPc.clientFd (ended.stops c)
      | loop => rcases ended.loop with there | there <;> exact congrArg LoopPc.clientFd there
    have notListening := listener.closed_of_empty noListener fd
    have notConnected := client.closed_of_empty noClient fd
    cases there : s.table fd with
    | none => exact .inl rfl
    | some sock =>
        cases sock with
        | foreign => exact .inr rfl
        | listening => exact absurd there notListening
        | connection => exact absurd there notConnected

/-- The app stops while the engine is connected: the loop finds its socket closed. -/
def stoppedWhileReading : List (SocketLabel Unit) :=
  [.socket (some 4), .bind true, .publish, .startThread, .loadListener, .accept (some 5),
    .storeClient, .read true, .stop (), .advance (), .advance (), .opens 5, .read false,
    .advance (), .leave, .post]

/-- The last read is from a file of somebody else. -/
theorem session_closes_once_stopped :
    ∃ s, run Session.step (.start fun _ => false) stoppedWhileReading = some s ∧
      s.uses.map FdUse.was = [some .listening, some .connection, some .connection,
        some .connection, some .foreign, some .listening] ∧
      (∀ u ∈ s.uses, u.Proper) ∧ s.closedEvents = 1 ∧
      ∀ fd, s.table fd = none ∨ s.table fd = some .foreign := by
  obtain ⟨s, ran⟩ : ∃ s, run Session.step (.start fun _ => false) stoppedWhileReading = some s :=
    Option.isSome_iff_exists.mp (by decide)
  have observed : (run Session.step (.start fun _ => false) stoppedWhileReading).map
      (fun s => (s.setup, s.loop, s.listener, s.stops (), s.uses.map FdUse.was)) =
        some (.started, .done, none, .idle, [some .listening, some .connection, some .connection,
          some .connection, some .foreign, some .listening]) := by
    rfl
  rw [ran, Option.map_some, Option.some.injEq] at observed
  simp only [Prod.mk.injEq] at observed
  obtain ⟨setup, loop, listener, stops, was⟩ := observed
  obtain ⟨proper, -, events, over_⟩ := session_closes_once (fun _ => false) ran
  rw [if_pos loop] at events
  exact ⟨s, ran, was, proper, events, over_ ⟨.inl setup, .inr loop, listener, fun _ => stops⟩⟩

end WiredTethering.App
