import WiredTethering.Engine.DataPath

/-!
# The address of the gateway

`on_eth_from_usb` reads `gw_ip`, decides with `at_eth_learn_gw_mac`, stores the address
and sets `gw_mac_ok`, each in its own step.  A watch on the engine remembers the frame
that the stored address comes from, and what the USB thread has read into its own
`gw_ip`; a run keeps the address that of the gateway exactly if no lease is stored in
between, nor over an address that is marked as learned.
-/

namespace WiredTethering.Engine

open WiredTethering.Memory
open WiredTethering.Common
open WiredTethering.Dhcp
open WiredTethering.Transition

/-! ## Learning from a frame -/

/-- The address is the sender of an ARP reply or an IPv4 packet from `gwIp`, in a frame that
the host has not sent. -/
def TakenFrom (frame : Bytes) (gwIp : UInt32) (hostMac mac : Mac) : Prop :=
  14 ≤ frame.length ∧ macAt frame 6 ≠ hostMac ∧
    (rd16be frame 12 = 0x0806 ∧ 42 ≤ frame.length ∧ rd16be frame 20 = 2 ∧
        rd32le frame 28 = gwIp ∧ mac = macAt frame 22 ∨
      rd16be frame 12 = 0x0800 ∧ 34 ≤ frame.length ∧ byteAt frame 14 >>> 4 = 4 ∧
        rd32le frame 26 = gwIp ∧ mac = macAt frame 6)

theorem atEthLearnGwMac_taken {frame : Bytes} {hostMac mac : Mac} {gwIp : UInt32}
    (learned : atEthLearnGwMac frame hostMac gwIp = some mac) :
    TakenFrom frame gwIp hostMac mac := by
  unfold atEthLearnGwMac at learned
  dsimp only at learned
  split_ifs at learned with short own arp arpShort wrong ip ipShort version other
  · rw [not_or, Nat.not_lt] at short
    rw [not_or, not_not, not_not] at wrong
    exact ⟨short.2, own, .inl ⟨arp, Nat.le_of_not_lt arpShort, wrong.1, wrong.2,
      (Option.some.inj learned).symm⟩⟩
  · rw [not_or, Nat.not_lt] at short
    exact ⟨short.2, own, .inr ⟨ip, Nat.le_of_not_lt ipShort, not_not.mp version, not_not.mp other,
      (Option.some.inj learned).symm⟩⟩

/-- A frame has one sender. -/
theorem TakenFrom.gwIp_eq {frame : Bytes} {hostMac mac hostMac' mac' : Mac} {gwIp gwIp' : UInt32}
    (taken : TakenFrom frame gwIp hostMac mac) (taken' : TakenFrom frame gwIp' hostMac' mac') :
    gwIp = gwIp' := by
  have other : (0x0806 : UInt16) ≠ 0x0800 := by decide
  rcases taken with ⟨-, -, ⟨arp, -, -, sender, -⟩ | ⟨ip, -, -, sender, -⟩⟩
  · rcases taken' with ⟨-, -, ⟨-, -, -, sender', -⟩ | ⟨ip, -, -, -, -⟩⟩
    · exact sender.symm.trans sender'
    · exact absurd (arp.symm.trans ip) other
  · rcases taken' with ⟨-, -, ⟨arp, -, -, -, -⟩ | ⟨-, -, -, sender', -⟩⟩
    · exact absurd (arp.symm.trans ip) other
    · exact sender.symm.trans sender'

/-! ## The watch -/

/-- The engine, the frame that its `gw_mac` was learned from, and the variable `gw_ip` of
`on_eth_from_usb`. -/
structure Watch where
  sys : System
  source : Option Bytes
  gwIp : UInt32

def Watch.start (deviceMac : Mac) (xid : UInt32) : Watch :=
  ⟨System.start deviceMac xid, none, 0⟩

/-- The frame behind `gw_mac` when a step is taken. -/
def Watch.sourceBehind (w : Watch) : Label → Option Bytes
  | .usb _ =>
      match w.sys.usb.pc with
      | .learnStore frame _ => some frame
      | _ => w.source
  | .maint _ =>
      match w.sys.maint.pc with
      | .applyLock _ => none
      | _ => w.source
  | _ => w.source

/-- The variable when a step is taken. -/
def Watch.gwIpBehind (w : Watch) : Label → UInt32
  | .usb _ =>
      match w.sys.usb.pc with
      | .learnRead _ => w.sys.e.gwIp
      | _ => w.gwIp
  | _ => w.gwIp

def watchStep : Step Watch Label :=
  fun w l => (engineStep w.sys l).map fun sys => ⟨sys, w.sourceBehind l, w.gwIpBehind l⟩

/-- An address that is marked as learned was taken from a frame of the gateway. -/
def FromGateway (w : Watch) : Prop :=
  w.sys.e.gwMacOk = true → ∃ frame, w.source = some frame ∧
    TakenFrom frame w.sys.e.gwIp w.sys.e.hostMac w.sys.e.gwMac

/-- No lease is stored over an address marked as learned; and when the USB thread marks one,
none has been stored since it stored the address, and the gateway is still the one that it
compared the frame with. -/
def Undisturbed (w : Watch) : Label → Prop
  | .usb (.run _) =>
      ∀ frame, w.sys.usb.pc = .learnDone frame → w.source ≠ none ∧ w.sys.e.gwIp = w.gwIp
  | .maint (.run _) => ∀ filled, w.sys.maint.pc = .applyLock filled → w.sys.e.gwMacOk = false
  | _ => True

/-! ## Invariants -/

/-- The thread has found `gw_mac_ok` clear and has not set it yet. -/
def UsbPc.Learning : UsbPc → Prop
  | .learnRead _ | .learnStore _ _ | .learnDone _ => True
  | _ => False

/-- What the USB thread knows while it learns an address. -/
structure GatewayInv (w : Watch) : Prop where
  learning : w.sys.usb.pc.Learning → w.sys.e.gwMacOk = false
  decided : ∀ frame learned, w.sys.usb.pc = .learnStore frame learned →
    atEthLearnGwMac frame w.sys.e.hostMac w.gwIp = some learned
  stored : ∀ frame, w.sys.usb.pc = .learnDone frame →
    ∃ learned, atEthLearnGwMac frame w.sys.e.hostMac w.gwIp = some learned ∧
      (w.source = some frame ∧ w.sys.e.gwMac = learned ∨ w.source = none)

/-- A thread that is not learning knows nothing. -/
theorem GatewayInv.away {w : Watch} (away : ¬ w.sys.usb.pc.Learning) : GatewayInv w := by
  refine ⟨fun here => absurd here away, fun frame learned here => absurd ?_ away,
    fun frame here => absurd ?_ away⟩
  · rw [here]
    trivial
  · rw [here]
    trivial

theorem UsbPc.not_learning {pc : UsbPc} (quiet : pc.Quiet) : ¬ pc.Learning := by
  cases pc <;> first | exact not_false | exact quiet.elim

/-! ## Steps that leave the gateway alone -/

/-- The address of the gateway and what it is compared with are as before, and it is not newly
marked as learned. -/
structure SameGateway (e next : AtEngine) : Prop where
  hostMac : next.hostMac = e.hostMac
  gwMac : next.gwMac = e.gwMac
  gwIp : next.gwIp = e.gwIp
  marked : next.gwMacOk = true → e.gwMacOk = true

theorem SameGateway.of_path {e next : AtEngine} (same : next.path = e.path) :
    SameGateway e next where
  hostMac := congrArg DataPath.hostMac same
  gwMac := congrArg DataPath.gwMac same
  gwIp := congrArg DataPath.gwIp same
  marked := (congrArg DataPath.gwMacOk same).symm.trans

/-- So is a step that writes other fields of the data path, or clears the mark. -/
theorem SameGateway.of_fields {e next : AtEngine} {path : DataPath} (sets : next.path = path)
    (hostMac : path.hostMac = e.hostMac) (gwMac : path.gwMac = e.gwMac)
    (gwIp : path.gwIp = e.gwIp) (marked : path.gwMacOk = true → e.gwMacOk = true) :
    SameGateway e next where
  hostMac := (congrArg DataPath.hostMac sets).trans hostMac
  gwMac := (congrArg DataPath.gwMac sets).trans gwMac
  gwIp := (congrArg DataPath.gwIp sets).trans gwIp
  marked := fun ok => marked ((congrArg DataPath.gwMacOk sets).symm.trans ok)

theorem CallMoves.gateway {e next : AtEngine} {c : Call} {rest : Option Call}
    (moves : CallMoves e next c rest) : SameGateway e next := by
  cases moves with
  | failing _ same | ended _ same | recorded _ same | halted same | connected same | passed same =>
      exact .of_path same
  | failed _ _ sets => exact .of_fields sets rfl rfl rfl id
  | unleased sets | paused sets => exact .of_fields sets rfl rfl rfl id
  | unlearned sets => exact .of_fields sets rfl rfl rfl nofun

/-- The maintenance thread stores a lease, or leaves the gateway alone. -/
theorem MaintMoves.gateway {e next : AtEngine} {t after : MaintThread}
    (moves : MaintMoves e next t after) :
    (∃ filled, t.pc = .applyLock filled ∧ next = storeLease e filled) ∨
      (∀ filled, t.pc ≠ .applyLock filled) ∧ SameGateway e next := by
  cases moves with
  | quiet same outside quiet lost =>
      right
      refine ⟨fun filled here => ?_, .of_path same⟩
      rw [here] at outside
      exact outside
  | entered filled same goes lost here => exact .inr ⟨by rw [here]; nofun, .of_path same⟩
  | stored filled here stores goes => exact .inl ⟨filled, here, stores⟩
  | cleared here sets goes =>
      exact .inr ⟨by rw [here]; nofun, .of_fields sets rfl rfl rfl nofun⟩
  | leased here sets goes | saw here sets goes | connected here sets goes =>
      exact .inr ⟨by rw [here]; nofun, .of_fields sets rfl rfl rfl id⟩
  | lostSaw here same goes | lostLease here same goes | lostState here same goes =>
      exact .inr ⟨by rw [here]; nofun, .of_path (congrArg AtEngine.path same)⟩
  | called c back here rest moves goes => exact .inr ⟨by rw [here]; nofun, moves.gateway⟩

/-- The main thread leaves the gateway alone, and the USB thread where it is, or starts it. -/
theorem MainMoves.gateway {s next : System} (moves : MainMoves s next) :
    SameGateway s.e next.e ∧ (next.usb.pc = s.usb.pc ∨ next.usb.pc = .allocate) := by
  cases moves with
  | quiet same usb maint early onward => exact ⟨.of_path same, usb.imp_right And.right⟩
  | created early same usb maint late => exact ⟨.of_path same, .inl usb⟩
  | stopping sets usb maint late =>
      exact ⟨.of_fields sets rfl rfl rfl id, .inl (congrArg UsbThread.pc usb)⟩

/-- What the other threads do leaves the knowledge true. -/
theorem GatewayInv.others {w next : Watch} (inv : GatewayInv w)
    (usb : next.sys.usb.pc = w.sys.usb.pc) (gwIp : next.gwIp = w.gwIp)
    (hostMac : next.sys.e.hostMac = w.sys.e.hostMac)
    (marked : next.sys.e.gwMacOk = true → w.sys.e.gwMacOk = true)
    (source : next.source = w.source ∧ next.sys.e.gwMac = w.sys.e.gwMac ∨ next.source = none) :
    GatewayInv next := by
  refine ⟨?_, ?_, ?_⟩
  · rw [usb]
    intro learning
    cases ok : next.sys.e.gwMacOk with
    | false => rfl
    | true => exact (marked ok).symm.trans (inv.learning learning)
  · rw [usb, gwIp, hostMac]
    exact inv.decided
  · rw [usb, gwIp, hostMac]
    intro frame here
    rcases inv.stored frame here with ⟨learned, found, held⟩
    refine ⟨learned, found, ?_⟩
    rcases source with ⟨same, mac⟩ | none
    · rw [same, mac]
      exact held
    · exact .inr none

/-- An address stays the gateway's in a step that leaves it alone. -/
theorem FromGateway.kept {w next : Watch} (holds : FromGateway w)
    (same : SameGateway w.sys.e next.sys.e) (source : next.source = w.source) :
    FromGateway next := by
  intro marked
  rcases holds (same.marked marked) with ⟨frame, found, taken⟩
  refine ⟨frame, source.trans found, ?_⟩
  rw [same.gwIp, same.hostMac, same.gwMac]
  exact taken

/-- The source behind a step of the USB thread elsewhere. -/
theorem Watch.sourceBehind_usb (w : Watch) (l : UsbLabel)
    (elsewhere : ∀ frame learned, w.sys.usb.pc ≠ .learnStore frame learned) :
    w.sourceBehind (.usb l) = w.source := by
  cases here : w.sys.usb.pc with
  | learnStore frame learned => exact absurd here (elsewhere frame learned)
  | _ => simp [Watch.sourceBehind, here]

theorem Watch.sourceBehind_maint (w : Watch) (l : MaintLabel)
    (elsewhere : ∀ filled, w.sys.maint.pc ≠ .applyLock filled) :
    w.sourceBehind (.maint l) = w.source := by
  cases here : w.sys.maint.pc with
  | applyLock filled => exact absurd here (elsewhere filled)
  | _ => simp [Watch.sourceBehind, here]

/-! ## Steps -/

/-- The invariant, and the law where the step meets its condition. -/
theorem watchStep_usb {w : Watch} {l : UsbLabel} {e : AtEngine} {t : UsbThread}
    (inv : GatewayInv w) (stepped : usbStep w.sys.e w.sys.usb l = some (e, t)) :
    GatewayInv ⟨{ w.sys with e := e, usb := t }, w.sourceBehind (.usb l),
        w.gwIpBehind (.usb l)⟩ ∧
      (FromGateway w → (∀ frame, w.sys.usb.pc = .learnDone frame →
          w.source ≠ none ∧ w.sys.e.gwIp = w.gwIp) →
        FromGateway ⟨{ w.sys with e := e, usb := t }, w.sourceBehind (.usb l),
          w.gwIpBehind (.usb l)⟩) := by
  have moves := usbStep_path stepped
  have same {next : Watch} (sys : next.sys.e = e) (gateway : SameGateway w.sys.e e)
      (source : next.source = w.source) (holds : FromGateway w) : FromGateway next := by
    refine holds.kept ?_ source
    rw [sys]
    exact gateway
  generalize here : w.sys.usb.pc = pc, behind : t.pc = after at moves
  cases moves with
  | quiet path outside quiet =>
      constructor
      · apply GatewayInv.away
        change ¬ t.pc.Learning
        rw [behind]
        exact UsbPc.not_learning quiet
      · intro holds _
        refine same rfl (.of_path path) (w.sourceBehind_usb l ?_) holds
        rw [here]
        rintro frame learned rfl
        exact outside
  | unknown frame path open_ =>
      constructor
      · refine ⟨fun _ => ?_, ?_, ?_⟩
        · exact (congrArg DataPath.gwMacOk path).trans open_
        · change ∀ frame learned, t.pc = _ → _
          rw [behind]
          nofun
        · change ∀ frame, t.pc = _ → _
          rw [behind]
          nofun
      · intro holds _
        exact same rfl (.of_path path) (w.sourceBehind_usb l (by rw [here]; nofun)) holds
  | decided frame learned path found =>
      have gwIp : w.gwIpBehind (.usb l) = w.sys.e.gwIp := by simp [Watch.gwIpBehind, here]
      constructor
      · refine ⟨fun _ => ?_, ?_, ?_⟩
        · refine (congrArg DataPath.gwMacOk path).trans (inv.learning ?_)
          rw [here]
          trivial
        · change ∀ frame learned, t.pc = _ → atEthLearnGwMac frame e.hostMac _ = _
          rw [behind, gwIp, (SameGateway.of_path path).hostMac]
          rintro _ _ ⟨⟩
          exact found
        · change ∀ frame, t.pc = _ → _
          rw [behind]
          nofun
      · intro holds _
        exact same rfl (.of_path path) (w.sourceBehind_usb l (by rw [here]; nofun)) holds
  | stored frame learned stores =>
      have source : w.sourceBehind (.usb l) = some frame := by simp [Watch.sourceBehind, here]
      have gwIp : w.gwIpBehind (.usb l) = w.gwIp := by simp [Watch.gwIpBehind, here]
      have open_ : e.gwMacOk = false := by
        refine (congrArg DataPath.gwMacOk stores).trans (inv.learning ?_)
        rw [here]
        trivial
      constructor
      · refine ⟨fun _ => open_, ?_, ?_⟩
        · change ∀ frame learned, t.pc = _ → _
          rw [behind]
          nofun
        · have hostMac : e.hostMac = w.sys.e.hostMac := congrArg DataPath.hostMac stores
          have gwMac : e.gwMac = learned := congrArg DataPath.gwMac stores
          change ∀ frame, t.pc = _ → ∃ learned, atEthLearnGwMac frame e.hostMac _ = _ ∧
            (_ = _ ∧ e.gwMac = _ ∨ _)
          rw [behind, gwIp, hostMac, gwMac, source]
          rintro _ ⟨⟩
          exact ⟨learned, inv.decided frame learned here, .inl ⟨rfl, rfl⟩⟩
      · intro _ _ marked
        exact absurd marked (Bool.eq_false_iff.mp open_)
  | learned frame sets =>
      constructor
      · apply GatewayInv.away
        change ¬ t.pc.Learning
        rw [behind]
        exact not_false
      · intro _ undisturbed marked
        rcases undisturbed frame rfl with ⟨known, gwIp⟩
        rcases inv.stored frame here with ⟨learned, found, ⟨source, mac⟩ | none⟩
        · refine ⟨frame, (w.sourceBehind_usb l (by rw [here]; nofun)).trans source, ?_⟩
          have path : e.gwIp = w.sys.e.gwIp ∧ e.hostMac = w.sys.e.hostMac ∧
              e.gwMac = w.sys.e.gwMac :=
            ⟨congrArg DataPath.gwIp sets, congrArg DataPath.hostMac sets,
              congrArg DataPath.gwMac sets⟩
          change TakenFrom frame e.gwIp e.hostMac e.gwMac
          rw [path.1, path.2.1, path.2.2, mac, gwIp]
          exact atEthLearnGwMac_taken found
        · exact absurd none known
  | called c rest moves goes =>
      constructor
      · apply GatewayInv.away
        change ¬ t.pc.Learning
        rw [behind, ‹after = _›]
        cases rest <;> exact not_false
      · intro holds _
        exact same rfl moves.gateway (w.sourceBehind_usb l (by rw [here]; nofun)) holds

theorem watchStep_maint {w : Watch} {l : MaintLabel} {e : AtEngine} {t : MaintThread}
    (inv : GatewayInv w) (stepped : maintStep w.sys.e w.sys.maint l = some (e, t)) :
    GatewayInv ⟨{ w.sys with e := e, maint := t }, w.sourceBehind (.maint l), w.gwIp⟩ ∧
      (FromGateway w → (∀ filled, w.sys.maint.pc = .applyLock filled →
          w.sys.e.gwMacOk = false) →
        FromGateway ⟨{ w.sys with e := e, maint := t }, w.sourceBehind (.maint l), w.gwIp⟩) := by
  rcases (maintStep_path stepped).gateway with ⟨filled, here, rfl⟩ | ⟨elsewhere, same⟩
  · have source : w.sourceBehind (.maint l) = none := by simp [Watch.sourceBehind, here]
    constructor
    · exact inv.others rfl rfl rfl id (.inr source)
    · intro _ undisturbed marked
      have open_ : w.sys.e.gwMacOk = false := undisturbed filled here
      exact absurd marked (Bool.eq_false_iff.mp open_)
  · have source := w.sourceBehind_maint l elsewhere
    constructor
    · exact inv.others rfl rfl same.hostMac same.marked (.inl ⟨source, same.gwMac⟩)
    · exact fun holds _ => holds.kept same source

theorem watchStep_main {w : Watch} {l : MainLabel} {sys : System} (inv : GatewayInv w)
    (stepped : mainStep w.sys l = some sys) :
    GatewayInv ⟨sys, w.source, w.gwIp⟩ ∧ (FromGateway w → FromGateway ⟨sys, w.source, w.gwIp⟩) := by
  rcases (mainStep_path stepped).gateway with ⟨same, usb⟩
  constructor
  · rcases usb with kept | started
    · exact inv.others kept rfl same.hostMac same.marked (.inl ⟨rfl, same.gwMac⟩)
    · apply GatewayInv.away
      change ¬ sys.usb.pc.Learning
      rw [started]
      exact not_false
  · exact fun holds => holds.kept same rfl

theorem watchStep_usb_run {w : Watch} {l : UsbLabel} {frame : Bytes} {e : AtEngine}
    {t : UsbThread} (stepped : usbStep w.sys.e w.sys.usb l = some (e, t))
    (here : w.sys.usb.pc = .learnDone frame) : ∃ env, l = .run env := by
  cases l with
  | run env => exact ⟨env, rfl⟩
  | _ => simp [usbStep, here] at stepped

theorem watchStep_maint_run {w : Watch} {l : MaintLabel} {filled : AtNetInfo} {e : AtEngine}
    {t : MaintThread} (stepped : maintStep w.sys.e w.sys.maint l = some (e, t))
    (here : w.sys.maint.pc = .applyLock filled) : ∃ env, l = .run env := by
  cases l with
  | run env => exact ⟨env, rfl⟩
  | _ => simp [maintStep, here] at stepped

/-- Each step keeps what the threads know, and an undisturbed one the address. -/
theorem watchStep_keeps {w next : Watch} {l : Label} (inv : GatewayInv w)
    (stepped : watchStep w l = some next) :
    GatewayInv next ∧ (FromGateway w → Undisturbed w l → FromGateway next) := by
  rcases Option.map_eq_some_iff.mp stepped with ⟨sys, step, rfl⟩
  cases l with
  | usb l =>
      rcases Option.map_eq_some_iff.mp step with ⟨⟨e, t⟩, moved, rfl⟩
      rcases watchStep_usb inv moved with ⟨kept, law⟩
      refine ⟨kept, fun holds undisturbed => law holds fun frame here => ?_⟩
      rcases watchStep_usb_run moved here with ⟨env, rfl⟩
      exact undisturbed frame here
  | utun =>
      rcases Option.map_eq_some_iff.mp step with ⟨pc, moved, rfl⟩
      exact ⟨⟨inv.learning, inv.decided, inv.stored⟩, fun holds _ => holds⟩
  | maint l =>
      rcases Option.map_eq_some_iff.mp step with ⟨⟨e, t⟩, moved, rfl⟩
      rcases watchStep_maint inv moved with ⟨kept, law⟩
      refine ⟨kept, fun holds undisturbed => law holds fun filled here => ?_⟩
      rcases watchStep_maint_run moved here with ⟨env, rfl⟩
      exact undisturbed filled here
  | main l =>
      rcases watchStep_main inv step with ⟨kept, law⟩
      exact ⟨kept, fun holds _ => law holds⟩

/-- A step that disturbs the learning leaves an address that is not the gateway's. -/
theorem watchStep_disturbed (w : Watch) (l : Label) (inv : GatewayInv w)
    (disturbed : ¬ Undisturbed w l) : ∃ next, watchStep w l = some next ∧ ¬ FromGateway next := by
  rcases w with ⟨⟨e, ⟨usbPc, looping⟩, utun, ⟨maintPc, ticks, kaFails, lost, leased, bound⟩, main⟩,
    source, gwIp⟩
  cases l with
  | usb l =>
      cases l with
      | run env =>
          rw [Undisturbed] at disturbed
          push Not at disturbed
          rcases disturbed with ⟨frame, rfl, spoilt⟩
          refine ⟨_, rfl, fun holds => ?_⟩
          rcases holds rfl with ⟨frame', found, taken⟩
          rcases inv.stored frame rfl with ⟨learned, decided, ⟨known, -⟩ | none⟩
          · cases found.symm.trans known
            apply spoilt
            · rw [known]
              nofun
            · exact taken.gwIp_eq (atEthLearnGwMac_taken decided)
          · cases found.symm.trans none
      | _ => exact absurd trivial disturbed
  | maint l =>
      cases l with
      | run env =>
          rw [Undisturbed] at disturbed
          push Not at disturbed
          rcases disturbed with ⟨filled, rfl, marked⟩
          refine ⟨_, rfl, fun holds => ?_⟩
          rcases holds (Bool.eq_true_of_not_eq_false marked) with ⟨frame, found, -⟩
          cases found
      | _ => exact absurd trivial disturbed
  | _ => exact absurd trivial disturbed

/-- **The learned address is the gateway's.**  In every state of a run an address that is
marked as learned was taken from a frame of the current gateway, exactly if no step of the run
disturbs the learning. -/
theorem gateway_mac_iff (deviceMac : Mac) (xid : UInt32) (labels : List Label) :
    Throughout watchStep FromGateway (Watch.start deviceMac xid) labels ↔
      Guarded watchStep Undisturbed (Watch.start deviceMac xid) labels := by
  have start : GatewayInv (Watch.start deviceMac xid) := .away not_false
  have unmarked : FromGateway (Watch.start deviceMac xid) := nofun
  exact throughout_iff_guarded (fun w l next inv stepped => (watchStep_keeps inv stepped).1)
    (fun w l next inv holds undisturbed stepped =>
      (watchStep_keeps inv stepped).2 holds undisturbed)
    (fun w l inv _ disturbed => watchStep_disturbed w l inv disturbed) start unmarked

/-! ## The address of the gateway before -/

/-- The first lease is up.  An ACK brings another address and gateway; while the USB thread
handles a frame of the old gateway, the maintenance thread applies the new lease. -/
def learningFromBefore : List Label :=
  let client := atDhcpCreate (hostMacOf sampleMac) 7
  let ack := buildReply client dhcpAck 0x02e30b0a 0x01e30b0a [0, 0, 0x0e, 0x10]
  leasing ++ [fineMaint, fineMaint, fineMaint, fineMaint, fineMaint, fineMaint, fineMaint,
    fineMaint, fineMaint, .usb (.frame ack), fineUsb, fineUsb, .usb (.dhcpFrame 2100),
    .usb (.frame (sampleReply dhcpOffer)), fineUsb, fineUsb,
    .maint (.lock 2500 ⟨2, 500000⟩), fineMaint, fineMaint, fineMaint, fineUsb, fineUsb]

/-- The address of the old gateway is marked as that of the new one. -/
theorem old_gateway_mac_marked :
    ¬ ∀ deviceMac xid labels, Throughout watchStep FromGateway (Watch.start deviceMac xid) labels := by
  intro claimed
  have facts : (run watchStep (Watch.start sampleMac 7) learningFromBefore).map
      (fun w => (w.source, w.sys.e.gwMacOk, w.sys.e.gwIp)) =
      some (some (sampleReply dhcpOffer), true, 0x01e30b0a) := by
    decide +kernel
  rcases Option.map_eq_some_iff.mp facts with ⟨w, ran, fields⟩
  simp only [Prod.mk.injEq] at fields
  rcases fields with ⟨source, marked, gwIp⟩
  have law := claimed sampleMac 7 learningFromBefore learningFromBefore (List.prefix_refl _) w ran
  rcases law marked with ⟨frame, found, taken⟩
  cases found.symm.trans source
  rw [gwIp] at taken
  rcases taken with ⟨-, -, ⟨arp, -⟩ | ⟨-, -, -, sender, -⟩⟩
  · exact absurd arp (by decide +kernel)
  · exact absurd sender (by decide +kernel)

end WiredTethering.Engine
