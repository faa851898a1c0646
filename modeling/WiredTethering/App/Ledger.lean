import Mathlib.Data.List.Basic
import Mathlib.Logic.Relation

/-!
# The ledger of a controller that tears down before it opens

The controller keeps one record: where its session is, and whether something must be
turned on again behind it.  An attempt writes the record first and then waits for a
teardown, of which only one runs at a time; the teardown clears the record, one half
when it begins and the other when it ends.  The ledger is the record with the history of
its marks and with what every task has still to do.

The invariant `Sound` says what the record is in terms of the history, and that an
attempt of the current generation that has its teardown behind it finds the record
cleared.
-/

namespace WiredTethering.App

/-- The record of a session, and whether a teardown runs. -/
structure Record (α : Type) where
  location : α
  wifi : Bool
  running : Bool
deriving DecidableEq, Repr

/-- What has been done to the record. -/
inductive Mark (α : Type)
  | recorded (location : α) (wifi : Bool)
  | begun
  | ended
deriving DecidableEq, Repr

/-- What a task has still to do. -/
inductive Duty
  | fresh
  | waiting
  | tearing
  | opening
  | finished
deriving DecidableEq, Repr

/-- A task that has its teardown behind it. -/
def Duty.behind : Duty → Bool
  | .opening | .finished => true
  | .fresh | .waiting | .tearing => false

/-- The task does this; `owner` is the generation of an attempt. -/
def Does (duties : List (Option Nat × Duty)) (job : Nat) (owner : Option Nat) (duty : Duty) :
    Prop :=
  duties[job]? = some (owner, duty)

/-- The generation, the record, how often the device was missing, the history with the
newest mark first, and the tasks with the generation of those that are attempts. -/
structure Ledger (α : Type) where
  gen : Nat
  record : Record α
  missing : Nat
  marks : List (Mark α)
  duties : List (Option Nat × Duty)

section

variable {α : Type} [Zero α]

/-- The record that a history leaves. -/
def Record.of : List (Mark α) → Record α
  | [] => ⟨0, false, false⟩
  | .recorded location wifi :: marks => { Record.of marks with location := location, wifi := wifi }
  | .begun :: marks => { Record.of marks with wifi := false, running := true }
  | .ended :: marks => { Record.of marks with location := 0, running := false }

/-- No teardown has ended since the last record. -/
def Stands : List (Mark α) → Bool
  | [] => false
  | .recorded _ _ :: _ => true
  | .begun :: marks => Stands marks
  | .ended :: _ => false

/-- The mark ends the time of the record before it. -/
def Mark.isBoundary : Mark α → Bool
  | .recorded _ _ | .begun => true
  | .ended => false

end

namespace Ledger

variable {α : Type} [Zero α]

def begin (l : Ledger α) : Ledger α :=
  { l with
    record := { l.record with wifi := false, running := true }, marks := .begun :: l.marks }

def finish (l : Ledger α) : Ledger α :=
  { l with
    record := { l.record with location := 0, running := false }
    missing := 0
    marks := .ended :: l.marks }

/-- The task has something else to do. -/
def turn (l : Ledger α) (job : Nat) (duty : Duty) : Ledger α :=
  { l with duties := l.duties.modify job fun d => (d.1, duty) }

def connect (l : Ledger α) (location : α) (wifi : Bool) : Ledger α :=
  { l with
    gen := l.gen + 1
    record := { l.record with location := location, wifi := wifi }
    missing := 0
    marks := .recorded location wifi :: l.marks
    duties := l.duties ++ [(some (l.gen + 1), .fresh)] }

/-- A teardown of its own is asked for, in the generation `gen`. -/
def spawn (l : Ledger α) (gen : Nat) : Ledger α :=
  { l with gen := gen, duties := l.duties ++ [(none, .fresh)] }

inductive Step : Ledger α → Ledger α → Prop
  | connect (l : Ledger α) (location : α) (wifi : Bool) : Step l (l.connect location wifi)
  | spawn (l : Ledger α) (gen : Nat) (later : l.gen ≤ gen) : Step l (l.spawn gen)
  | waits (l : Ledger α) (job : Nat) (owner : Option Nat) (duty : Duty)
      (found : Does l.duties job owner duty) (running : l.record.running = true)
      (outer : duty = .fresh ∨ duty = .waiting) : Step l (l.turn job .waiting)
  | begins (l : Ledger α) (job : Nat) (owner : Option Nat)
      (found : Does l.duties job owner .fresh) (free : l.record.running = false) :
      Step l (l.begin.turn job .tearing)
  | ends (l : Ledger α) (job : Nat) (owner : Option Nat) (next : Duty)
      (found : Does l.duties job owner .tearing) (behind : next.behind = true) :
      Step l (l.finish.turn job next)
  | returns (l : Ledger α) (job : Nat) (owner : Option Nat) (next : Duty)
      (found : Does l.duties job owner .waiting) (free : l.record.running = false)
      (behind : next.behind = true) : Step l (l.turn job next)
  | answers (l : Ledger α) (job : Nat) (owner : Option Nat) (next : Duty)
      (found : Does l.duties job owner .opening) (behind : next.behind = true) :
      Step l (l.turn job next)

structure Sound (l : Ledger α) : Prop where
  tracked : l.record = Record.of l.marks
  gens : ∀ (job gen : Nat) (duty : Duty), Does l.duties job (some gen) duty → gen ≤ l.gen
  opening : ∀ job, Does l.duties job (some l.gen) .opening → Stands l.marks = false
  waiting : ∀ job, Does l.duties job (some l.gen) .waiting →
    l.record.running = true ∨ Stands l.marks = false
  owned : l.record.running = true → ∃ job owner, Does l.duties job owner .tearing
  runs : ∀ job owner, Does l.duties job owner .tearing → l.record.running = true
  alone : ∀ first second owner other, Does l.duties first owner .tearing →
    Does l.duties second other .tearing → first = second

/-- The tasks behind a turn: the one that turned, and the others. -/
theorem turn_does {duties : List (Option Nat × Duty)} {job other : Nat} {next duty : Duty}
    {owner : Option Nat}
    (found : Does (duties.modify job fun d => (d.1, next)) other owner duty) :
    (other = job ∧ duty = next ∧ ∃ before, Does duties job owner before) ∨
      (other ≠ job ∧ Does duties other owner duty) := by
  rw [Does, List.getElem?_modify] at found
  by_cases same : job = other
  · subst same
    obtain ⟨⟨did, before⟩, turned⟩ :
        (∃ did, duties[job]? = some (owner, did)) ∧ next = duty := by
      simpa using found
    exact .inl ⟨rfl, turned.symm, did, before⟩
  · right
    simp only [same, if_false] at found
    exact ⟨Ne.symm same, by simpa [Does] using found⟩

theorem turn_same {duties : List (Option Nat × Duty)} {job : Nat} {next duty : Duty}
    {owner : Option Nat} (found : Does duties job owner duty) :
    Does (duties.modify job fun d => (d.1, next)) job owner next := by
  rw [Does] at found
  simp [Does, found]

theorem turn_other {duties : List (Option Nat × Duty)} {job other : Nat} {next duty : Duty}
    {owner : Option Nat} (different : other ≠ job) (found : Does duties other owner duty) :
    Does (duties.modify job fun d => (d.1, next)) other owner duty := by
  rw [Does] at found
  simp [Does, Ne.symm different, found]

omit [Zero α] in
/-- A task that goes on as it is. -/
theorem turn_self {l : Ledger α} {job : Nat} {owner : Option Nat} {duty : Duty}
    (found : Does l.duties job owner duty) : l.turn job duty = l := by
  have same : l.duties.modify job (fun d => (d.1, duty)) = l.duties := by
    apply List.ext_getElem?
    intro other
    rw [List.getElem?_modify]
    by_cases here : job = other
    · subst here
      rw [Does] at found
      simp [found]
    · simp [here]
  exact congrArg (fun duties => { l with duties := duties }) same

omit [Zero α] in
/-- The last turn counts. -/
theorem turn_turn (l : Ledger α) (job : Nat) (first second : Duty) :
    (l.turn job first).turn job second = l.turn job second := by
  have last : (l.duties.modify job fun d => (d.1, first)).modify job (fun d => (d.1, second)) =
      l.duties.modify job fun d => (d.1, second) := by
    rw [List.modify_modify_eq]
    rfl
  exact congrArg (fun duties => { l with duties := duties }) last

/-- The tasks behind a new one, which has not begun. -/
theorem spawn_does {duties : List (Option Nat × Duty)} {owner new : Option Nat} {duty : Duty}
    {job : Nat} (found : Does (duties ++ [(new, .fresh)]) job owner duty) :
    Does duties job owner duty ∨ (owner = new ∧ duty = .fresh) := by
  rw [Does] at found
  rcases Nat.lt_trichotomy job duties.length with before | rfl | behind
  · exact .inl ((List.getElem?_append_left before).symm.trans found)
  · right
    simpa [eq_comm] using found
  · rw [List.getElem?_append_right (Nat.le_of_lt behind)] at found
    have gap : job - duties.length ≠ 0 := Nat.sub_ne_zero_of_lt behind
    simp [gap] at found

theorem spawn_begun {duties : List (Option Nat × Duty)} {owner new : Option Nat} {duty : Duty}
    {job : Nat} (begun : duty ≠ .fresh)
    (found : Does (duties ++ [(new, .fresh)]) job owner duty) : Does duties job owner duty := by
  rcases spawn_does found with old | ⟨-, fresh⟩
  · exact old
  · exact absurd fresh begun

/-- A teardown that runs still runs when a task is added. -/
theorem spawn_owned {duties : List (Option Nat × Duty)} {new : Option Nat}
    (owned : ∃ job owner, Does duties job owner .tearing) :
    ∃ job owner, Does (duties ++ [(new, .fresh)]) job owner .tearing := by
  obtain ⟨job, owner, found⟩ := owned
  have before : job < duties.length := (List.getElem?_eq_some_iff.mp found).1
  exact ⟨job, owner, (List.getElem?_append_left before).trans found⟩

theorem Sound.connect {l : Ledger α} (sound : l.Sound) (location : α) (wifi : Bool) :
    (l.connect location wifi).Sound := by
  have older {job : Nat} {duty : Duty} (begun : duty ≠ .fresh)
      (found : Does (l.connect location wifi).duties job (some (l.gen + 1)) duty) : False :=
    absurd (sound.gens job _ duty (spawn_begun begun found)) (Nat.not_succ_le_self l.gen)
  constructor
  · exact congrArg (fun r : Record α => { r with location := location, wifi := wifi }) sound.tracked
  · intro job gen duty found
    rcases spawn_does found with old | ⟨new, -⟩
    · exact Nat.le_succ_of_le (sound.gens job gen duty old)
    · exact Nat.le_of_eq (Option.some.inj new)
  · intro job found
    exact absurd found (older nofun)
  · intro job found
    exact absurd found (older nofun)
  · exact fun running => spawn_owned (sound.owned running)
  · exact fun job owner found => sound.runs job owner (spawn_begun nofun found)
  · exact fun first second owner other one two =>
      sound.alone first second owner other (spawn_begun nofun one) (spawn_begun nofun two)

theorem Sound.spawn {l : Ledger α} (sound : l.Sound) {gen : Nat} (later : l.gen ≤ gen) :
    (l.spawn gen).Sound := by
  have current {job : Nat} {duty : Duty} (begun : duty ≠ .fresh)
      (found : Does (l.spawn gen).duties job (some gen) duty) :
      Does l.duties job (some l.gen) duty := by
    have old := spawn_begun begun found
    have same : gen = l.gen := Nat.le_antisymm (sound.gens job gen duty old) later
    exact same ▸ old
  constructor
  · exact sound.tracked
  · intro job older duty found
    rcases spawn_does found with old | ⟨new, -⟩
    · exact Nat.le_trans (sound.gens job older duty old) later
    · contradiction
  · exact fun job found => sound.opening job (current nofun found)
  · exact fun job found => sound.waiting job (current nofun found)
  · exact fun running => spawn_owned (sound.owned running)
  · exact fun job owner found => sound.runs job owner (spawn_begun nofun found)
  · exact fun first second owner other one two =>
      sound.alone first second owner other (spawn_begun nofun one) (spawn_begun nofun two)

/-- A task that does not tear down turns to something else than tearing down. -/
theorem Sound.turn {l : Ledger α} (sound : l.Sound) {job : Nat} {owner : Option Nat}
    {duty next : Duty} (found : Does l.duties job owner duty) (idle : duty ≠ .tearing)
    (calm : next ≠ .tearing)
    (opens : next = .opening → owner = some l.gen → Stands l.marks = false)
    (waits : next = .waiting → owner = some l.gen →
      l.record.running = true ∨ Stands l.marks = false) : (l.turn job next).Sound := by
  have tears {other : Nat} {who : Option Nat}
      (tearing : Does (l.turn job next).duties other who .tearing) :
      Does l.duties other who .tearing := by
    rcases turn_does tearing with ⟨-, same, -⟩ | ⟨-, old⟩
    · exact absurd same.symm calm
    · exact old
  have owns {who : Option Nat} {before : Duty} (does : Does l.duties job who before) :
      owner = who :=
    congrArg Prod.fst (Option.some.inj (found.symm.trans does))
  constructor
  · exact sound.tracked
  · intro other gen what does
    rcases turn_does does with ⟨rfl, -, before, old⟩ | ⟨-, old⟩
    · exact sound.gens other gen before old
    · exact sound.gens other gen what old
  · intro other does
    rcases turn_does does with ⟨-, same, before, old⟩ | ⟨-, old⟩
    · exact opens same.symm (owns old)
    · exact sound.opening other old
  · intro other does
    rcases turn_does does with ⟨-, same, before, old⟩ | ⟨-, old⟩
    · exact waits same.symm (owns old)
    · exact sound.waiting other old
  · intro running
    obtain ⟨other, who, tearing⟩ := sound.owned running
    have different : other ≠ job := by
      rintro rfl
      exact idle (congrArg Prod.snd (Option.some.inj (found.symm.trans tearing)))
    exact ⟨other, who, turn_other different tearing⟩
  · exact fun other who tearing => sound.runs other who (tears tearing)
  · exact fun first second who other one two =>
      sound.alone first second who other (tears one) (tears two)

theorem Sound.begins {l : Ledger α} (sound : l.Sound) {job : Nat} {owner : Option Nat}
    (found : Does l.duties job owner .fresh) (free : l.record.running = false) :
    (l.begin.turn job .tearing).Sound := by
  have tears {other : Nat} {who : Option Nat}
      (tearing : Does (l.begin.turn job .tearing).duties other who .tearing) : other = job := by
    rcases turn_does tearing with ⟨same, -⟩ | ⟨-, old⟩
    · exact same
    · have running := sound.runs other who old
      rw [free] at running
      contradiction
  constructor
  · exact congrArg (fun r : Record α => { r with wifi := false, running := true }) sound.tracked
  · intro other gen what does
    rcases turn_does does with ⟨rfl, -, before, old⟩ | ⟨-, old⟩
    · exact sound.gens other gen before old
    · exact sound.gens other gen what old
  · intro other does
    rcases turn_does does with ⟨-, same, -⟩ | ⟨-, old⟩
    · contradiction
    · exact sound.opening other old
  · exact fun _ _ => .inl rfl
  · exact fun _ => ⟨job, owner, turn_same found⟩
  · exact fun _ _ _ => rfl
  · exact fun first second who other one two => (tears one).trans (tears two).symm

theorem Sound.ends {l : Ledger α} (sound : l.Sound) {job : Nat} {owner : Option Nat}
    {next : Duty} (found : Does l.duties job owner .tearing) (behind : next.behind = true) :
    (l.finish.turn job next).Sound := by
  have none {other : Nat} {who : Option Nat}
      (tearing : Does (l.finish.turn job next).duties other who .tearing) : False := by
    rcases turn_does tearing with ⟨-, same, -⟩ | ⟨different, old⟩
    · rw [← same] at behind
      contradiction
    · exact different (sound.alone other job who owner old found)
  constructor
  · exact congrArg (fun r : Record α => (⟨0, r.wifi, false⟩ : Record α)) sound.tracked
  · intro other gen what does
    rcases turn_does does with ⟨rfl, -, before, old⟩ | ⟨-, old⟩
    · exact sound.gens other gen before old
    · exact sound.gens other gen what old
  · exact fun _ _ => rfl
  · exact fun _ _ => .inr rfl
  · exact nofun
  · exact fun _ _ tearing => (none tearing).elim
  · exact fun _ _ _ _ tearing => (none tearing).elim

/-- The invariant is kept. -/
theorem Sound.step {l next : Ledger α} (sound : l.Sound) (step : Step l next) : next.Sound := by
  cases step with
  | connect location wifi => exact sound.connect location wifi
  | spawn gen later => exact sound.spawn later
  | waits job owner duty found running outer =>
      have idle : duty ≠ .tearing := by
        rintro rfl
        rcases outer with same | same <;> contradiction
      exact sound.turn found idle Duty.noConfusion Duty.noConfusion fun _ _ => .inl running
  | begins job owner found free => exact sound.begins found free
  | ends job owner duty found behind => exact sound.ends found behind
  | returns job owner duty found free behind =>
      have waited (current : owner = some l.gen) : Stands l.marks = false := by
        subst current
        rcases sound.waiting job found with running | cleared
        · rw [free] at running
          contradiction
        · exact cleared
      apply sound.turn found nofun
      · rintro rfl
        contradiction
      · exact fun _ => waited
      · exact fun _ current => .inr (waited current)
  | answers job owner duty found behind =>
      apply sound.turn found nofun
      · rintro rfl
        contradiction
      · rintro - rfl
        exact sound.opening job found
      · rintro rfl
        contradiction

/-- How often the time of a record has ended. -/
def boundaries (l : Ledger α) : Nat :=
  l.marks.countP Mark.isBoundary

omit [Zero α] in
theorem boundaries_cons (marks : List (Mark α)) (mark : Mark α) :
    marks.countP Mark.isBoundary ≤ (mark :: marks).countP Mark.isBoundary := by
  rw [List.countP_cons]
  exact Nat.le_add_right _ _

omit [Zero α] in
theorem boundaries_lt (marks : List (Mark α)) {mark : Mark α} (ends : mark.isBoundary = true) :
    marks.countP Mark.isBoundary < (mark :: marks).countP Mark.isBoundary := by
  rw [List.countP_cons_of_pos ends]
  exact Nat.lt_succ_self _

theorem Step.boundaries_le {l next : Ledger α} (step : Step l next) :
    l.boundaries ≤ next.boundaries := by
  cases step with
  | connect location wifi => exact boundaries_cons l.marks _
  | begins job owner found free => exact boundaries_cons l.marks _
  | ends job owner duty found behind => exact boundaries_cons l.marks _
  | _ => exact Nat.le_refl _

/-- Without a teardown the record stays as it is until its time ends. -/
theorem Step.stays {l next : Ledger α} (step : Step l next) (sound : l.Sound)
    (free : l.record.running = false) :
    l.boundaries < next.boundaries ∨
      (next.record = l.record ∧ next.marks = l.marks ∧ next.missing = l.missing) := by
  cases step with
  | connect location wifi => exact .inl (boundaries_lt l.marks rfl)
  | begins job owner found _ => exact .inl (boundaries_lt l.marks rfl)
  | ends job owner duty found behind =>
      have running := sound.runs job owner found
      rw [free] at running
      contradiction
  | _ => exact .inr ⟨rfl, rfl, rfl⟩

theorem Sound.steps {l next : Ledger α} (sound : l.Sound)
    (steps : Relation.ReflTransGen Step l next) : next.Sound := by
  induction steps with
  | refl => exact sound
  | tail _ last ih => exact ih.step last

theorem steps_boundaries_le {l next : Ledger α} (steps : Relation.ReflTransGen Step l next) :
    l.boundaries ≤ next.boundaries := by
  induction steps with
  | refl => exact Nat.le_refl _
  | tail _ last ih => exact Nat.le_trans ih last.boundaries_le

theorem steps_stay {l next : Ledger α} (steps : Relation.ReflTransGen Step l next)
    (sound : l.Sound) (free : l.record.running = false) :
    l.boundaries < next.boundaries ∨
      (next.record = l.record ∧ next.marks = l.marks ∧ next.missing = l.missing) := by
  induction steps with
  | refl => exact .inr ⟨rfl, rfl, rfl⟩
  | @tail middle next before last ih =>
      rcases ih with passed | ⟨record, marks, missing⟩
      · exact .inl (Nat.lt_of_lt_of_le passed last.boundaries_le)
      · have still : middle.record.running = false := record ▸ free
        rcases last.stays (sound.steps before) still with passed | ⟨same, kept, polled⟩
        · left
          rw [boundaries, ← marks]
          exact passed
        · exact .inr ⟨same.trans record, kept.trans marks, polled.trans missing⟩

/-- How often the device was missing says nothing about the record. -/
theorem Sound.polled {l : Ledger α} (sound : l.Sound) (missing : Nat) :
    ({ l with missing := missing } : Ledger α).Sound :=
  ⟨sound.tracked, sound.gens, sound.opening, sound.waiting, sound.owned, sound.runs, sound.alone⟩

/-- A record that stands is the newest mark, unless a teardown runs. -/
theorem Sound.newest {l : Ledger α} (sound : l.Sound) (free : l.record.running = false)
    (somewhere : l.record.location ≠ 0) :
    l.marks.head? = some (.recorded l.record.location l.record.wifi) := by
  have tracked := sound.tracked
  cases marks : l.marks with
  | nil =>
      rw [marks] at tracked
      rw [tracked] at somewhere
      contradiction
  | cons mark older =>
      rw [marks] at tracked
      cases mark with
      | recorded location wifi =>
          rw [tracked]
          rfl
      | begun =>
          rw [tracked] at free
          contradiction
      | ended =>
          rw [tracked] at somewhere
          contradiction

/-- The newest mark is the record. -/
theorem Sound.of_newest {l : Ledger α} (sound : l.Sound) {location : α} {wifi : Bool}
    (newest : l.marks.head? = some (.recorded location wifi)) :
    l.record.location = location ∧ l.record.wifi = wifi ∧ Stands l.marks = true := by
  obtain ⟨older, marks⟩ := List.head?_eq_some_iff.mp newest
  rw [sound.tracked, marks]
  exact ⟨rfl, rfl, rfl⟩

end Ledger

end WiredTethering.App
