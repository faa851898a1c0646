import WiredTethering.Json.Members
import WiredTethering.Net.Parse
import WiredTethering.Status.Emit

/-!
# The arguments of the engine

`main` reads its arguments by hand: options may stand before and behind the command, and the
last one of a kind counts.
-/

namespace WiredTethering.Cli

open WiredTethering.Memory
open WiredTethering.Common
open WiredTethering.Net
open WiredTethering.Status
open WiredTethering.Text

/-! ## `strtoul` -/

/-- The sign at the front of a number, and what follows it. -/
def takeMinus : Bytes → Bool × Bytes
  | [] => (false, [])
  | c :: rest =>
      if c = 45 then (true, rest)
      else if c = 43 then (false, rest)
      else (false, c :: rest)

/-- `0x` in front of a digit. -/
def startsHex : Bytes → Bool
  | zero :: x :: d :: _ => zero = 48 ∧ (x = 120 ∨ x = 88) ∧ (digitValue 16 d).isSome
  | _ => false

/-- The base of a number, and its digits. -/
def takeBase (base : Nat) (text : Bytes) : Nat × Bytes :=
  if (base = 0 ∨ base = 16) ∧ startsHex text then (16, text.drop 2)
  else if base = 0 then (if text.head? = some 48 then 8 else 10, text)
  else (base, text)

/-- `strtoul` with 64 bits, for the bases 0 and 16. -/
def strtoul (text : Bytes) (base : Nat) : Nat :=
  let (minus, text) := takeMinus (text.dropWhile isSpace)
  let (base, text) := takeBase base text
  let value := (takeDigits base 0 text).1
  if 18446744073709551616 ≤ value then 18446744073709551615
  else if minus then (18446744073709551616 - value) % 18446744073709551616
  else value

/-! ## Decimal numbers -/

theorem utf8_digitChar {d : Nat} (low : d < 10) : utf8 [d.digitChar] = [UInt8.ofNat (48 + d)] := by
  have all : ∀ d < 10, utf8 [d.digitChar] = [UInt8.ofNat (48 + d)] := by decide
  exact all d low

/-- The digits of a number are read back as the number. -/
theorem takeDigits_toDigits (n : Nat) (rest : Bytes) :
    takeDigits 10 0 (utf8 (Nat.toDigits 10 n) ++ rest) = takeDigits 10 n rest := by
  induction n using Nat.strongRecOn generalizing rest with
  | ind n ih =>
      by_cases low : n < 10
      · rw [Nat.toDigits_of_lt_base low, utf8_digitChar low, List.singleton_append,
          takeDigits_digit low, Nat.zero_mul, Nat.zero_add]
      · have last : n % 10 < 10 := Nat.mod_lt n (by decide)
        rw [Nat.toDigits_of_base_le (by decide) (Nat.le_of_not_lt low), utf8_append,
          utf8_digitChar last, List.append_assoc, ih (n / 10) (by omega), List.singleton_append,
          takeDigits_digit last, Nat.div_add_mod']

/-- The bytes of a decimal number: the first is zero only for zero. -/
theorem bytes_toDigits (n : Nat) :
    ∃ d more, utf8 (Nat.toDigits 10 n) = d :: more ∧ isDigit d = true ∧ (d = 48 → n = 0) ∧
      ∀ c ∈ more, isDigit c = true := by
  have digit {d : Nat} (low : d < 10) : isDigit (UInt8.ofNat (48 + d)) = true :=
    isDigit_digit d low
  induction n using Nat.strongRecOn with
  | ind n ih =>
      by_cases low : n < 10
      · refine ⟨UInt8.ofNat (48 + n), [], ?_, digit low, fun zero => ?_, nofun⟩
        · rw [Nat.toDigits_of_lt_base low, utf8_digitChar low]
        · by_contra some_
          exact digit_ne_zero n low some_ zero
      · have last : n % 10 < 10 := Nat.mod_lt n (by decide)
        obtain ⟨d, more, shape, isDigit_, zero, digits⟩ := ih (n / 10) (by omega)
        refine ⟨d, more ++ [UInt8.ofNat (48 + n % 10)], ?_, isDigit_, ?_, ?_⟩
        · rw [Nat.toDigits_of_base_le (by decide) (Nat.le_of_not_lt low), utf8_append,
            utf8_digitChar last, shape, List.cons_append]
        · intro isZero
          have := zero isZero
          omega
        · intro c mem
          rcases List.mem_append.mp mem with mem | mem
          · exact digits c mem
          · rw [List.mem_singleton.mp mem]
            exact digit last

/-- What a digit is not. -/
theorem isDigit_other {c : UInt8} (digit : isDigit c = true) :
    isSpace c = false ∧ c ≠ 45 ∧ c ≠ 43 ∧ c ≠ 120 ∧ c ≠ 88 := by
  have all : ∀ n < 256, isDigit (UInt8.ofNat n) = true →
      isSpace (UInt8.ofNat n) = false ∧ UInt8.ofNat n ≠ 45 ∧ UInt8.ofNat n ≠ 43 ∧
        UInt8.ofNat n ≠ 120 ∧ UInt8.ofNat n ≠ 88 := by decide +kernel
  have here := all c.toNat c.toNat_lt
  rw [UInt8.ofNat_toNat] at here
  exact here digit

theorem strtoul_toDigits {n : Nat} (fits : n < 18446744073709551616) :
    strtoul (utf8 (Nat.toDigits 10 n)) 0 = n := by
  obtain ⟨d, more, shape, isDigit_, zero, digits⟩ := bytes_toDigits n
  have whole := takeDigits_toDigits n []
  rw [List.append_nil] at whole
  obtain ⟨space, minus, plus, -, -⟩ := isDigit_other isDigit_
  have noSpace : (utf8 (Nat.toDigits 10 n)).dropWhile isSpace = utf8 (Nat.toDigits 10 n) := by
    rw [shape, List.dropWhile_cons_of_neg (by rw [space]; exact Bool.false_ne_true)]
  have noSign : takeMinus (utf8 (Nat.toDigits 10 n)) = (false, utf8 (Nat.toDigits 10 n)) := by
    rw [shape, takeMinus, if_neg minus, if_neg plus]
  have noHex : startsHex (utf8 (Nat.toDigits 10 n)) = false := by
    rw [shape]
    cases more with
    | nil => rfl
    | cons x more =>
        obtain ⟨-, -, -, lower, upper⟩ := isDigit_other (digits x List.mem_cons_self)
        cases more with
        | nil => rfl
        | cons e more => simp [startsHex, lower, upper]
  have value : (takeDigits (if d = 48 then 8 else 10) 0 (utf8 (Nat.toDigits 10 n))).1 = n := by
    by_cases isZero : d = 48
    · rw [if_pos isZero, zero isZero]
      rfl
    · rw [if_neg isZero, whole]
      rfl
  have base : takeBase 0 (utf8 (Nat.toDigits 10 n)) =
      (if d = 48 then 8 else 10, utf8 (Nat.toDigits 10 n)) := by
    rw [takeBase, noHex, if_neg (fun hex => Bool.false_ne_true hex.2), if_pos rfl, shape]
    simp
  rw [strtoul, noSpace, noSign]
  dsimp only
  rw [base]
  dsimp only
  rw [value, if_neg (Nat.not_le_of_lt fits), if_neg Bool.false_ne_true]

/-! ## Options -/

structure Options where
  jsonMode : Bool
  defaultRoute : Bool
  haveFilter : Bool
  socketPath : Bytes
  want : AtUsbDeviceInfo
  cmd : Option Bytes
deriving DecidableEq, Repr

def noDevice : AtUsbDeviceInfo where
  vid := 0
  pid := 0
  locationId := 0
  name := []
  vendor := []
  serial := []
  kind := .unknown
  controlIfc := 0
  dataIfc := 0

/-- What `main` begins with. -/
def Options.start : Options where
  jsonMode := false
  defaultRoute := false
  haveFilter := false
  socketPath := []
  want := noDevice
  cmd := none

/-- An option that `take_arg` takes a value for, and what the value does. -/
def valueOption (a : Bytes) (o : Options) : Option (Bytes → Options) :=
  if a = cstr "--location" ∨ a = cstr "-L" then
    some fun value =>
      let location := UInt32.ofNat (strtoul (strlcpy value 32) 0)
      { o with want := { o.want with locationId := location }, haveFilter := true }
  else if a = cstr "--vid" ∨ a = cstr "-v" then
    some fun value =>
      let vid := UInt16.ofNat (strtoul (strlcpy value 16) 16)
      { o with want := { o.want with vid := vid }, haveFilter := true }
  else if a = cstr "--pid" ∨ a = cstr "-p" then
    some fun value =>
      let pid := UInt16.ofNat (strtoul (strlcpy value 16) 16)
      { o with want := { o.want with pid := pid }, haveFilter := true }
  else if a = cstr "--serial" ∨ a = cstr "-s" then
    some fun value =>
      { o with want := { o.want with serial := strlcpy value 64 }, haveFilter := true }
  else if a = cstr "--socket" ∨ a = cstr "-S" then
    some fun value => { o with socketPath := strlcpy value 512 }
  else none

/-- What `main` does at once. -/
inductive Stop
  | usage (status : Int)
  | version
  | unknownOption (a : Bytes)
  | unknownCommand (cmd : Bytes)
deriving DecidableEq, Repr

/-- An argument that takes no value. -/
def plainArgument (a : Bytes) (o : Options) : Except Stop Options :=
  if a = cstr "--json" ∨ a = cstr "-j" then .ok { o with jsonMode := true }
  else if a = cstr "--default-route" ∨ a = cstr "-R" then .ok { o with defaultRoute := true }
  else if a = cstr "--version" ∨ a = cstr "-V" then .error .version
  else if a = cstr "--help" ∨ a = cstr "-h" then .error (.usage 0)
  else if a.head? ≠ some 45 ∧ o.cmd = none then .ok { o with cmd := some a }
  else .error (.unknownOption a)

/-- The loop of `main`, over the arguments behind `argv[0]`. -/
def parseArguments (o : Options) : List Bytes → Except Stop Options
  | [] => .ok o
  | [a] =>
      match valueOption a o with
      | some _ => .error (.usage 2)
      | none => plainArgument a o
  | a :: value :: rest =>
      match valueOption a o with
      | some set => parseArguments (set value) rest
      | none =>
          match plainArgument a o with
          | .ok o => parseArguments o (value :: rest)
          | .error stop => .error stop

/-! ## Commands -/

/-- What `main` goes on to do; `channel` is what `at_status_open` is called with. -/
inductive Run
  | list (channel : Option (Option Bytes)) (json : Bool)
  | connect (want : AtUsbDeviceInfo) (haveFilter defaultRoute : Bool) (socketPath : Option Bytes)
  | restore
  | stop (stop : Stop)
deriving DecidableEq, Repr

/-- The path that is handed on: none where it is empty. -/
def Options.path (o : Options) : Option Bytes :=
  if o.socketPath = [] then none else some o.socketPath

/-- `main` behind its loop. -/
def runCommand (o : Options) : Run :=
  let cmd := o.cmd.getD (cstr "list")
  if cmd = cstr "list" then
    .list
      (if o.socketPath ≠ [] then some (some o.socketPath)
      else if o.jsonMode then some none
      else none)
      (o.jsonMode || o.socketPath ≠ [])
  else if cmd = cstr "connect" then .connect o.want o.haveFilter o.defaultRoute o.path
  else if cmd = cstr "restore" then .restore
  else if cmd = cstr "help" then .stop (.usage 0)
  else .stop (.unknownCommand cmd)

/-- `main`, with its arguments behind `argv[0]`. -/
def main (arguments : List Bytes) : Run :=
  match parseArguments .start arguments with
  | .ok o => runCommand o
  | .error stop => .stop stop

end WiredTethering.Cli
