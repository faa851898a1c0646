import WiredTethering.Cli.Connect

/-!
# Where the app and the engine meet

The app listens on a socket path and looks for the engine's process in a file beside it.  The
engine cuts the path to its own arrays.  Both mean the same socket and the same file, and the
file never names another process.
-/

namespace WiredTethering.App

open WiredTethering.Memory
open WiredTethering.Common
open WiredTethering.Status
open WiredTethering.Text
open WiredTethering.Transition
open WiredTethering.Cli

/-! ## The app's side -/

def unixPathCapacity : Nat := 104

/-- `ParseHelpers.writeUnixPath`: what is in the array, if the path fits. -/
def writeUnixPath (path : List Char) (capacity : Nat) : Option Bytes :=
  if capacity ≤ (utf8 path).length then none
  else some (utf8 path ++ List.replicate (capacity - (utf8 path).length) 0)

/-- `CharacterSet.whitespacesAndNewlines`. -/
def inWhitespacesAndNewlines (c : Char) : Bool :=
  inWhitespaces c || isNewline c

/-- `pid_t(_:)` of a text. -/
def int32Number (text : List Char) : Option Int :=
  let (digits, negative) := unsigned text
  if digits = [] ∨ digits.all Char.isDigit = false then none
  else
    let magnitude : Int := Nat.ofDigitChars 10 digits 0
    let value := if negative then -magnitude else magnitude
    if -2 ^ 31 ≤ value ∧ value < 2 ^ 31 then some value else none

/-- `readPidfile`, of what is in the file. -/
def readPidfile (file : Option Bytes) : Int :=
  match file.bind decodeUtf8 with
  | none => 0
  | some raw =>
      let trimmed :=
        (raw.dropWhile inWhitespacesAndNewlines).rdropWhile inWhitespacesAndNewlines
      (int32Number trimmed).getD 0

/-! ## The process id -/

/-- The text of a process id. -/
def pidChars (pid : Int) : List Char :=
  if pid < 0 then '-' :: Nat.toDigits 10 pid.natAbs else Nat.toDigits 10 pid.natAbs

theorem signedStr_pidChars (pid : Int) : signedStr pid = utf8 (pidChars pid) := by
  rw [signedStr, pidChars]
  split_ifs <;> rfl

theorem isDigit_toDigits (n : Nat) : ∀ c ∈ Nat.toDigits 10 n, c.isDigit = true :=
  fun _ mem => Nat.isDigit_of_mem_toDigits (by decide) (by decide) mem

/-- A digit or a minus sign is neither blank nor a newline. -/
theorem not_inWhitespaces {c : Char} (printed : c.isDigit = true ∨ c = '-') :
    inWhitespacesAndNewlines c = false := by
  rcases printed with digit | rfl
  · rw [Char.isDigit, Bool.and_eq_true, decide_eq_true_iff, decide_eq_true_iff] at digit
    have low : 48 ≤ c.toNat := digit.1
    have high : c.toNat ≤ 57 := digit.2
    simp only [inWhitespacesAndNewlines, inWhitespaces, isNewline, Bool.or_eq_false_iff,
      decide_eq_false_iff_not]
    omega
  · decide

theorem pidChars_printed (pid : Int) :
    ∀ c ∈ pidChars pid, inWhitespacesAndNewlines c = false := by
  intro c mem
  apply not_inWhitespaces
  rw [pidChars] at mem
  split_ifs at mem
  · rcases List.mem_cons.mp mem with rfl | mem
    · exact .inr rfl
    · exact .inl (isDigit_toDigits _ c mem)
  · exact .inl (isDigit_toDigits _ c mem)

theorem unsigned_digits {digits : List Char} (all : ∀ c ∈ digits, c.isDigit = true) :
    unsigned digits = (digits, false) := by
  cases digits with
  | nil => rfl
  | cons c digits =>
      have digit := all c List.mem_cons_self
      have plus : c ≠ '+' := by
        rintro rfl
        exact absurd digit (by decide)
      have minus : c ≠ '-' := by
        rintro rfl
        exact absurd digit (by decide)
      rw [unsigned]
      · exact fun _ same => plus (List.cons.inj same).1
      · exact fun _ same => minus (List.cons.inj same).1

/-- A process id is read back. -/
theorem int32Number_pidChars {pid : Int} (low : -2 ^ 31 ≤ pid) (high : pid < 2 ^ 31) :
    int32Number (pidChars pid) = some pid := by
  have digits := isDigit_toDigits pid.natAbs
  have all : (Nat.toDigits 10 pid.natAbs).all Char.isDigit = true := List.all_eq_true.mpr digits
  have some_ : ¬ (Nat.toDigits 10 pid.natAbs = [] ∨
      (Nat.toDigits 10 pid.natAbs).all Char.isDigit = false) := by
    rw [all]
    simp [Nat.toDigits_ne_nil]
  by_cases negative : pid < 0
  · have sign : unsigned ('-' :: Nat.toDigits 10 pid.natAbs) =
        (Nat.toDigits 10 pid.natAbs, true) := rfl
    have value : -((pid.natAbs : Nat) : Int) = pid := by omega
    rw [pidChars, if_pos negative, int32Number, sign]
    dsimp only
    rw [if_neg some_, Nat.ofDigitChars_toDigits (by decide) (by decide), if_pos rfl, value,
      if_pos ⟨low, high⟩]
  · have value : ((pid.natAbs : Nat) : Int) = pid := by omega
    rw [pidChars, if_neg negative, int32Number, unsigned_digits digits]
    dsimp only
    rw [if_neg some_, Nat.ofDigitChars_toDigits (by decide) (by decide),
      if_neg Bool.false_ne_true, value, if_pos ⟨low, high⟩]

/-- Blanks around a text are trimmed. -/
theorem trim_pidChars (pid : Int) :
    ((pidChars pid ++ ['\n']).dropWhile inWhitespacesAndNewlines).rdropWhile
      inWhitespacesAndNewlines = pidChars pid := by
  have printed := pidChars_printed pid
  have some_ : pidChars pid ≠ [] := by
    rw [pidChars]
    split_ifs
    · exact List.cons_ne_nil _ _
    · exact Nat.toDigits_ne_nil
  have front : (pidChars pid ++ ['\n']).dropWhile inWhitespacesAndNewlines =
      pidChars pid ++ ['\n'] := by
    obtain ⟨c, more, shape⟩ := List.exists_cons_of_ne_nil some_
    have first := printed c (shape ▸ List.mem_cons_self)
    rw [shape, List.cons_append, List.dropWhile_cons_of_neg (by rw [first]; decide)]
  have back : (pidChars pid).rdropWhile inWhitespacesAndNewlines = pidChars pid := by
    rw [List.rdropWhile_eq_self_iff]
    intro here
    rw [printed _ (List.getLast_mem here)]
    decide
  rw [front, List.rdropWhile_concat_pos _ _ _ (by decide), back]

theorem readPidfile_pidfileText (pid : Int32) :
    readPidfile (some (pidfileText pid)) = pid.toInt := by
  have text : pidfileText pid = utf8 (pidChars pid.toInt ++ ['\n']) := by
    rw [pidfileText, signedStr_pidChars, utf8_append]
    rfl
  have number := int32Number_pidChars pid.le_toInt pid.toInt_lt
  rw [readPidfile, text, Option.bind_some, decodeUtf8_utf8]
  dsimp only
  rw [trim_pidChars, number]
  rfl

theorem readPidfile_nil : readPidfile (some []) = 0 := by
  decide

/-! ## The socket -/

/-- What a C program is handed of a string. -/
def argument (text : List Char) : Bytes :=
  (utf8 text).takeWhile (· ≠ 0)

theorem argument_eq {text : List Char} (noNul : '\x00' ∉ text) : argument text = utf8 text := by
  rw [argument, List.takeWhile_eq_self_iff]
  intro b mem
  apply decide_eq_true
  rintro rfl
  obtain ⟨c, inside, same⟩ := mem_of_mem_utf8 (by decide) mem
  have nul : c = '\x00' := Char.ext (UInt32.toNat_inj.mp same)
  exact noNul (nul ▸ inside)

/-- `sunPath` of a path that fits is the path. -/
theorem sunPath_fits {path : Bytes} (fits : path.length < 104) :
    sunPath (strlcpy path 512) = path ++ List.replicate (104 - path.length) 0 := by
  have arrives : strlcpy path 512 = path := List.take_of_length_le (by omega)
  have whole : strlcpy path 104 = path := List.take_of_length_le (by omega)
  rw [sunPath, arrives, whole]

theorem length_sunPath (socketPath : Bytes) : (sunPath socketPath).length = 104 := by
  have short : (strlcpy socketPath 104).length ≤ 103 := List.length_take_le _ _
  rw [sunPath, List.length_append, List.length_replicate]
  omega

theorem pidfilePath_fits {path : Bytes} (fits : path.length < 104) :
    pidfilePath (strlcpy path 512) = path ++ cstr ".pid" := by
  have arrives : strlcpy path 512 = path := List.take_of_length_le (by omega)
  have suffix : (cstr ".pid").length = 4 := by decide
  rw [pidfilePath, arrives, List.take_of_length_le]
  rw [List.length_append, suffix]
  omega

/-- The engine connects to the socket that the session listens on, and its pid file is the one
that the app reads, which gives its process id.  A path on which the session does not listen is
one that the engine would cut. -/
theorem engine_meets_session {path : List Char} (noNul : '\x00' ∉ path) :
    (∀ room, writeUnixPath path unixPathCapacity = some room →
      sunPath (strlcpy (argument path) 512) = room ∧
        pidfilePath (strlcpy (argument path) 512) = utf8 (path ++ ".pid".toList)) ∧
      (writeUnixPath path unixPathCapacity = none ↔
        ¬ (argument path ++ [0]) <+: sunPath (strlcpy (argument path) 512)) ∧
      ∀ pid : Int32, readPidfile (some (pidfileText pid)) = pid.toInt := by
  rw [argument_eq noNul]
  refine ⟨fun room listens => ?_, ?_, readPidfile_pidfileText⟩
  · rw [writeUnixPath, unixPathCapacity] at listens
    split_ifs at listens with long
    cases listens
    have fits := Nat.lt_of_not_le long
    refine ⟨sunPath_fits fits, ?_⟩
    rw [pidfilePath_fits fits, utf8_append]
    rfl
  · rw [writeUnixPath, unixPathCapacity]
    split_ifs with long
    · refine iff_of_true rfl fun inside => ?_
      have length := inside.length_le
      rw [length_sunPath, List.length_append, List.length_singleton] at length
      omega
    · have fits := Nat.lt_of_not_le long
      refine iff_of_false id (not_not.mpr ?_)
      have more : 104 - (utf8 path).length = (103 - (utf8 path).length) + 1 := by omega
      rw [sunPath_fits fits, more, List.replicate_succ]
      exact ⟨List.replicate _ 0, List.append_assoc _ _ _⟩

theorem engine_meets_session_tmp :
    ∃ room, writeUnixPath "/tmp/a.sock".toList unixPathCapacity = some room ∧
      sunPath (strlcpy (argument "/tmp/a.sock".toList) 512) = room ∧
      pidfilePath (strlcpy (argument "/tmp/a.sock".toList) 512) = cstr "/tmp/a.sock.pid" := by
  obtain ⟨room, listens⟩ :
      ∃ room, writeUnixPath "/tmp/a.sock".toList unixPathCapacity = some room :=
    Option.isSome_iff_exists.mp (by decide)
  obtain ⟨meets, -, -⟩ :=
    engine_meets_session (by decide : '\x00' ∉ "/tmp/a.sock".toList)
  obtain ⟨socket, pidfile⟩ := meets room listens
  exact ⟨room, listens, socket, pidfile.trans (by decide)⟩

/-! ## The command -/

def aPhone : AtUsbDeviceInfo where
  vid := 0x18d1
  pid := 0x4ee3
  locationId := 0x100000
  name := cstr "Pixel"
  vendor := cstr "Google"
  serial := []
  kind := .rndis
  controlIfc := 0
  dataIfc := 1

/-- In every run of the command: its pid file names no other process, the engine runs only while
the channel is open and before the last status line, and the command ends with the engine
stopped, the channel closed, its pid file removed and, unless the channel could not be opened,
one last status line behind all others, which is an error just where the exit status is. -/
theorem connect_cleans_up {socketPath : Option Bytes} {pid : Int32} {leftover : Option Bytes}
    {labels : List ConnectLabel} {s : Connect}
    (ran : run connectStep (.start socketPath pid leftover) labels = some s) :
    (s.created = true → readPidfile s.file = 0 ∨ readPidfile s.file = pid.toInt) ∧
      (s.engine = .running → s.channel = true ∧ Quiet s.messages) ∧
      ∀ status, s.pc = .exited status →
        s.engine ≠ .running ∧ s.channel = false ∧ s.created = false ∧
          (s.file = none ∨ s.file = leftover) ∧
          (s.messages = [] ∧ status = 1 ∨
            ∃ error, EndsWith s.messages error ∧ status = if error.isSome then 1 else 0) := by
  have stage : ConnectStage pid leftover s := stage_run ran
  refine ⟨fun created => ?_, stage.serving, fun status pc => stage.over_ pc⟩
  rcases stage.own created with empty | whole
  · rw [empty]
    exact .inl readPidfile_nil
  · rw [whole]
    exact .inr (readPidfile_pidfileText pid)

/-- The engine comes up, is reported, hears `stop` and is stopped. -/
def stoppedByApp : List ConnectLabel :=
  [.opened true, .created true, .filled true, .picked (some aPhone), .started true [],
    .reported upEngine true, .checked .connected, .heard (.bytes (cstr "stop\n") []),
    .stopped .connected [], .ended, .closed, .unlinked]

theorem connect_cleans_up_stopped :
    ∃ s, run connectStep (.start (some (cstr "/tmp/a.sock")) 77 none) stoppedByApp = some s ∧
      s.pc = .exited 0 ∧ s.engine ≠ .running ∧ s.channel = false ∧ s.file = none ∧
      EndsWith s.messages none := by
  obtain ⟨s, ran⟩ :
      ∃ s, run connectStep (.start (some (cstr "/tmp/a.sock")) 77 none) stoppedByApp = some s :=
    Option.isSome_iff_exists.mp (by decide +kernel)
  have observed :
      (run connectStep (.start (some (cstr "/tmp/a.sock")) 77 none) stoppedByApp).map Connect.pc =
        some (.exited 0) := by
    decide +kernel
  rw [ran, Option.map_some, Option.some.injEq] at observed
  obtain ⟨-, -, finished⟩ := connect_cleans_up ran
  obtain ⟨stopped, closed, -, removed, last⟩ := finished 0 observed
  refine ⟨s, ran, observed, stopped, closed, removed.elim id id, ?_⟩
  rcases last with ⟨-, status⟩ | ⟨error, ends, status⟩
  · exact absurd status (by decide)
  · cases error with
    | none => exact ends
    | some error => cases status

end WiredTethering.App
