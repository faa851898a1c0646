import Mathlib.Data.List.Range
import WiredTethering.Memory.Bytes

/-!
# The pipes of an interface

`classify_pipes` looks at every pipe of an interface and keeps the number of the first bulk IN,
the first bulk OUT and the first interrupt IN pipe; it is called for the data interface and then
for the control interface, which only fills what is still missing.  Its counter is a byte.
-/

namespace WiredTethering.Usb

/-- `kUSBOut`, `kUSBIn`, `kUSBBulk` and `kUSBInterrupt`. -/
def usbOut : UInt8 := 0
def usbIn : UInt8 := 1
def usbBulk : UInt8 := 2
def usbInterrupt : UInt8 := 3

/-- What `GetPipeProperties` says of a pipe. -/
structure PipeProperties where
  dir : UInt8
  xfer : UInt8
deriving DecidableEq, Repr

/-- What `GetNumEndpoints` and `GetPipeProperties` answer; `none` where they fail. -/
structure Endpoints where
  count : Option UInt8
  pipe : UInt8 → Option PipeProperties

structure Pipes where
  bulkIn : UInt8
  bulkOut : UInt8
  interruptIn : UInt8
deriving DecidableEq, Repr

def Pipes.none : Pipes :=
  ⟨0, 0, 0⟩

def PipeProperties.isBulkIn (p : PipeProperties) : Bool :=
  p.xfer = usbBulk ∧ p.dir = usbIn

def PipeProperties.isBulkOut (p : PipeProperties) : Bool :=
  p.xfer = usbBulk ∧ p.dir = usbOut

def PipeProperties.isInterruptIn (p : PipeProperties) : Bool :=
  p.xfer = usbInterrupt ∧ p.dir = usbIn

/-- A pipe number is kept where there is none yet. -/
def keepFirst (kept : UInt8) (wanted : Bool) (i : UInt8) : UInt8 :=
  if wanted ∧ kept = 0 then i else kept

/-- One round of the loop in `classify_pipes`. -/
def Pipes.see (pipes : Pipes) (i : UInt8) : Option PipeProperties → Pipes
  | .none => pipes
  | some p =>
      { bulkIn := keepFirst pipes.bulkIn p.isBulkIn i
        bulkOut := keepFirst pipes.bulkOut p.isBulkOut i
        interruptIn := keepFirst pipes.interruptIn p.isInterruptIn i }

/-- The loop from `i` on, for as many rounds as there is fuel. -/
def classifyFrom (n : UInt8) (pipe : UInt8 → Option PipeProperties) :
    Nat → UInt8 → Pipes → Option Pipes
  | 0, _, _ => none
  | fuel + 1, i, pipes =>
      if i ≤ n then classifyFrom n pipe fuel (i + 1) (pipes.see i (pipe i)) else some pipes

/-- `classify_pipes`. -/
def classifyPipes (fuel : Nat) (endpoints : Endpoints) (pipes : Pipes) : Option Pipes :=
  match endpoints.count with
  | none => some pipes
  | some n => classifyFrom n endpoints.pipe fuel 1 pipes

/-! ## The loop -/

/-- What the rounds for a list of numbers leave. -/
def Pipes.seen (pipe : UInt8 → Option PipeProperties) (pipes : Pipes) (numbers : List UInt8) :
    Pipes :=
  numbers.foldl (fun pipes i => pipes.see i (pipe i)) pipes

theorem classifyFrom_eq (n : UInt8) (pipe : UInt8 → Option PipeProperties) (bounded : n < 255) :
    ∀ (rounds fuel : Nat) (i : UInt8) (pipes : Pipes), i.toNat + rounds = n.toNat + 1 →
      rounds < fuel →
        classifyFrom n pipe fuel i pipes =
          some (pipes.seen pipe ((List.range' i.toNat rounds).map UInt8.ofNat)) := by
  intro rounds
  induction rounds with
  | zero =>
      intro fuel i pipes last enough
      obtain ⟨fuel, rfl⟩ : ∃ f, fuel = f + 1 := ⟨fuel - 1, by omega⟩
      have past : ¬ i ≤ n := by rw [UInt8.le_iff_toNat_le]; omega
      rw [classifyFrom, if_neg past]
      rfl
  | succ rounds ih =>
      intro fuel i pipes last enough
      obtain ⟨fuel, rfl⟩ : ∃ f, fuel = f + 1 := ⟨fuel - 1, by omega⟩
      have within : i ≤ n := by rw [UInt8.le_iff_toNat_le]; omega
      have next : (i + 1).toNat = i.toNat + 1 := by
        have small : n.toNat < 255 := bounded
        rw [UInt8.toNat_add]
        have one : (1 : UInt8).toNat = 1 := rfl
        omega
      rw [classifyFrom, if_pos within, ih fuel (i + 1) _ (by omega) (by omega), next,
        List.range'_succ, List.map_cons, Pipes.seen, Pipes.seen, List.foldl_cons,
        UInt8.ofNat_toNat]

/-- More fuel does not change what the loop returns. -/
theorem classifyFrom_more {n : UInt8} {pipe : UInt8 → Option PipeProperties} {fuel : Nat}
    {i : UInt8} {pipes found : Pipes} (returned : classifyFrom n pipe fuel i pipes = some found)
    (more : Nat) : classifyFrom n pipe (fuel + more) i pipes = some found := by
  induction fuel generalizing i pipes with
  | zero => cases returned
  | succ fuel ih =>
      rw [Nat.succ_add, classifyFrom]
      rw [classifyFrom] at returned
      by_cases within : i ≤ n
      · rw [if_pos within] at returned ⊢
        exact ih returned
      · rw [if_neg within] at returned ⊢
        exact returned

/-- With 255 endpoints the counter goes round. -/
theorem classifyFrom_endless (pipe : UInt8 → Option PipeProperties) (fuel : Nat) (i : UInt8)
    (pipes : Pipes) : classifyFrom 255 pipe fuel i pipes = none := by
  induction fuel generalizing i pipes with
  | zero => rfl
  | succ fuel ih =>
      have within : i ≤ 255 := by
        rw [UInt8.le_iff_toNat_le]
        exact Nat.le_of_lt_succ i.toNat_lt
      rw [classifyFrom, if_pos within, ih]

/-! ## What the loop finds -/

/-- The numbers of the pipes of an interface. -/
def Endpoints.numbers (endpoints : Endpoints) : List UInt8 :=
  (List.range' 1 (endpoints.count.getD 0).toNat).map UInt8.ofNat

/-- A number that was kept before, or else that of the first pipe of the kind. -/
def firstPipe (endpoints : Endpoints) (isKind : PipeProperties → Bool) (kept : UInt8) : UInt8 :=
  if kept = 0 then (endpoints.numbers.find? fun i => (endpoints.pipe i).any isKind).getD 0
  else kept

theorem foldl_keepFirst (wanted : UInt8 → Bool) (numbers : List UInt8)
    (nonzero : ∀ i ∈ numbers, i ≠ 0) (kept : UInt8) :
    numbers.foldl (fun kept i => keepFirst kept (wanted i) i) kept =
      if kept = 0 then (numbers.find? wanted).getD 0 else kept := by
  induction numbers generalizing kept with
  | nil => by_cases zero : kept = 0 <;> simp [zero]
  | cons i rest ih =>
      rw [List.foldl_cons, ih fun j member => nonzero j (List.mem_cons_of_mem i member)]
      by_cases zero : kept = 0
      · cases isWanted : wanted i with
        | true => simp [keepFirst, zero, isWanted, nonzero i List.mem_cons_self]
        | false => simp [keepFirst, zero, isWanted]
      · simp [keepFirst, zero]

theorem seen_eq (pipe : UInt8 → Option PipeProperties) (pipes : Pipes) (numbers : List UInt8) :
    pipes.seen pipe numbers =
      { bulkIn := numbers.foldl
          (fun kept i => keepFirst kept ((pipe i).any PipeProperties.isBulkIn) i) pipes.bulkIn
        bulkOut := numbers.foldl
          (fun kept i => keepFirst kept ((pipe i).any PipeProperties.isBulkOut) i) pipes.bulkOut
        interruptIn := numbers.foldl
          (fun kept i => keepFirst kept ((pipe i).any PipeProperties.isInterruptIn) i)
          pipes.interruptIn } := by
  induction numbers generalizing pipes with
  | nil => rfl
  | cons i rest ih =>
      rw [Pipes.seen, List.foldl_cons, ← Pipes.seen, ih]
      cases seen : pipe i with
      | none => simp [Pipes.see, seen, keepFirst]
      | some p => simp [Pipes.see, seen]

theorem numbers_nonzero (endpoints : Endpoints) : ∀ i ∈ endpoints.numbers, i ≠ 0 := by
  intro i member zero
  obtain ⟨number, inRange, rfl⟩ := List.mem_map.mp member
  have within := List.mem_range'_1.mp inRange
  have small : number < UInt8.size := by
    have := (endpoints.count.getD 0).toNat_lt
    have : UInt8.size = 256 := rfl
    omega
  have reads : (UInt8.ofNat number).toNat = 0 := by rw [zero]; rfl
  rw [UInt8.toNat_ofNat_of_lt' small] at reads
  omega

/-- The pipes of an interface, behind those that were kept before. -/
def Endpoints.classified (endpoints : Endpoints) (pipes : Pipes) : Pipes where
  bulkIn := firstPipe endpoints PipeProperties.isBulkIn pipes.bulkIn
  bulkOut := firstPipe endpoints PipeProperties.isBulkOut pipes.bulkOut
  interruptIn := firstPipe endpoints PipeProperties.isInterruptIn pipes.interruptIn

theorem classifyPipes_eq {endpoints : Endpoints} (bounded : endpoints.count ≠ some 255)
    {fuel : Nat} (enough : 256 ≤ fuel) (pipes : Pipes) :
    classifyPipes fuel endpoints pipes = some (endpoints.classified pipes) := by
  have found : endpoints.classified pipes = pipes.seen endpoints.pipe endpoints.numbers := by
    have nonzero := numbers_nonzero endpoints
    rw [seen_eq, foldl_keepFirst _ _ nonzero, foldl_keepFirst _ _ nonzero,
      foldl_keepFirst _ _ nonzero]
    rfl
  rw [classifyPipes, found, Endpoints.numbers]
  cases count : endpoints.count with
  | none => rfl
  | some n =>
      have small : n < 255 := by
        rw [UInt8.lt_iff_toNat_lt]
        have below := n.toNat_lt
        have differs : n.toNat ≠ 255 := by
          intro same
          have isLast : n = 255 := UInt8.toNat_inj.mp same
          rw [count, isLast] at bounded
          exact bounded rfl
        exact Nat.lt_of_le_of_ne (Nat.le_of_lt_succ below) differs
      exact classifyFrom_eq n endpoints.pipe small n.toNat fuel 1 pipes (Nat.add_comm _ _)
        (by have := n.toNat_lt; omega)

theorem classifyPipes_bounded {endpoints : Endpoints} {pipes found : Pipes} {fuel : Nat}
    (returned : classifyPipes fuel endpoints pipes = some found) :
    endpoints.count ≠ some 255 := by
  intro all
  rw [classifyPipes, all] at returned
  simp only [classifyFrom_endless] at returned
  cases returned

/-- `classify_pipes` returns unless the interface has 255 pipes, and what it returns are the
first pipes of each kind where none was kept before. -/
theorem classifyPipes_returns (endpoints : Endpoints) (pipes : Pipes) :
    ((∃ fuel, (classifyPipes fuel endpoints pipes).isSome) ↔ endpoints.count ≠ some 255) ∧
      ∀ fuel found, classifyPipes fuel endpoints pipes = some found →
        found = endpoints.classified pipes := by
  constructor
  · constructor
    · rintro ⟨fuel, returned⟩
      obtain ⟨found, returned⟩ := Option.isSome_iff_exists.mp returned
      exact classifyPipes_bounded returned
    · intro bounded
      exact ⟨256, by rw [classifyPipes_eq bounded le_rfl]; rfl⟩
  · intro fuel found returned
    have more : classifyPipes (fuel + 256) endpoints pipes = some found := by
      rw [classifyPipes] at returned ⊢
      cases count : endpoints.count with
      | none => exact (count ▸ returned :)
      | some n =>
          rw [count] at returned
          exact classifyFrom_more returned 256
    rw [classifyPipes_eq (classifyPipes_bounded returned) (Nat.le_add_left 256 fuel)] at more
    exact (Option.some.inj more).symm

end WiredTethering.Usb
