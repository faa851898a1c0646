import WiredTethering.App.ConnectScript
import WiredTethering.Cli.Arguments
import WiredTethering.Helper.Service
import WiredTethering.Text.ScriptRun
import WiredTethering.Usb.Registry

/-!
# From the app to the engine's arguments

The app starts the engine through a script that runs a command of the shell, or asks the helper
to spawn it with a list of arguments.  Either way the engine's `main` connects to the device
at the location that was asked for, over the socket of the app.
-/

namespace WiredTethering.App

open WiredTethering.Common
open WiredTethering.Status
open WiredTethering.Text
open WiredTethering.Usb

/-! ## The script runs one command -/

/-- `extra` of `launchPrivilegedConnect`. -/
def routeOption (preferDefaultRoute : Bool) : List Char :=
  if preferDefaultRoute then " --default-route".toList else []

/-- The command line that the script puts together. -/
def commandLine (enginePath socketPath : List Char) (location : UInt32)
    (logPath extra : List Char) : List Char :=
  quotedForm enginePath ++ (" --socket ".toList ++ (quotedForm socketPath ++
    (" connect --location ".toList ++ (Nat.toDigits 10 location.toNat ++ (extra ++
      (" >> ".toList ++ (quotedForm logPath ++ " 2>&1".toList)))))))

theorem runScript_connectScript (enginePath socketPath : List Char) (location : UInt32)
    (logPath extra account password : List Char) :
    runScript (connectScript enginePath socketPath location logPath extra account password) =
      some [⟨commandLine enginePath socketPath location logPath extra, account, password⟩] := by
  rw [runScript, readScript_connectScript]
  rfl

/-! ## The shell reads its words -/

theorem isWordOf_toDigits (n : Nat) : IsWordOf (Nat.toDigits 10 n) (Nat.toDigits 10 n) := by
  obtain ⟨d, more, shape⟩ := List.exists_cons_of_ne_nil (@Nat.toDigits_ne_nil n 10)
  rw [shape]
  apply isWordOf_plain
  rw [← shape]
  intro c member
  have digit := Nat.isDigit_of_mem_toDigits (by decide) (by decide) member
  simp [isShellPlain, Char.isAlphanum, digit]

theorem isWordOf_socketOption : IsWordOf "--socket".toList "--socket".toList :=
  isWordOf_plain (by decide)

theorem isWordOf_connect : IsWordOf "connect".toList "connect".toList :=
  isWordOf_plain (by decide)

theorem isWordOf_locationOption : IsWordOf "--location".toList "--location".toList :=
  isWordOf_plain (by decide)

theorem isWordOf_routeOption : IsWordOf "--default-route".toList "--default-route".toList :=
  isWordOf_plain (by decide)

/-- Where the output goes. -/
def outputTo (logPath : List Char) : List Char :=
  '>' :: '>' :: ' ' :: (quotedForm logPath ++ ' ' :: "2>&1".toList)

theorem shellTokens_outputTo {logPath : List Char} (noNul : '\x00' ∉ logPath) :
    shellTokens false .none (outputTo logPath) =
      some [.redirect .append, .word logPath, .number ['2'], .redirect .duplicate,
        .word ['1']] := by
  have last : shellTokens false .none "2>&1".toList =
      some [.number ['2'], .redirect .duplicate, .word ['1']] := by decide +kernel
  rw [outputTo, shellTokens, shellTokens_blank, isWordOf_quotedForm noNul, last]
  rfl

/-- The words of the command. -/
def launchWords (enginePath socketPath : List Char) (location : UInt32)
    (preferDefaultRoute : Bool) : List (List Char) :=
  enginePath :: "--socket".toList :: socketPath :: "connect".toList :: "--location".toList ::
    Nat.toDigits 10 location.toNat ::
      (if preferDefaultRoute then ["--default-route".toList] else [])

theorem readCommand_commandLine {enginePath socketPath logPath : List Char}
    (noNulEngine : '\x00' ∉ enginePath) (noNulSocket : '\x00' ∉ socketPath)
    (noNulLog : '\x00' ∉ logPath) (location : UInt32) (preferDefaultRoute : Bool) :
    readCommand (commandLine enginePath socketPath location logPath
        (routeOption preferDefaultRoute)) =
      some
        { words := launchWords enginePath socketPath location preferDefaultRoute
          redirections := [⟨['1'], .append, logPath⟩, ⟨['2'], .duplicate, ['1']⟩] } := by
  have line : commandLine enginePath socketPath location logPath (routeOption preferDefaultRoute) =
      quotedForm enginePath ++ ' ' :: ("--socket".toList ++ ' ' :: (quotedForm socketPath ++
        ' ' :: ("connect".toList ++ ' ' :: ("--location".toList ++ ' ' ::
          (Nat.toDigits 10 location.toNat ++ ' ' ::
            (if preferDefaultRoute then "--default-route".toList ++ ' ' :: outputTo logPath
            else outputTo logPath)))))) := by
    cases preferDefaultRoute <;> rfl
  rw [readCommand, line, isWordOf_quotedForm noNulEngine, isWordOf_socketOption,
    isWordOf_quotedForm noNulSocket, isWordOf_connect, isWordOf_locationOption,
    isWordOf_toDigits]
  cases preferDefaultRoute with
  | false =>
      rw [if_neg Bool.false_ne_true, shellTokens_outputTo noNulLog]
      rfl
  | true =>
      rw [if_pos rfl, isWordOf_routeOption, shellTokens_outputTo noNulLog]
      rfl

/-! ## The engine reads its arguments -/

/-- What the engine is to do. -/
def connectRun (socketPath : List Char) (location : UInt32) (preferDefaultRoute : Bool) : Cli.Run :=
  .connect { Cli.noDevice with locationId := location } true preferDefaultRoute
    (if strlcpy (utf8 socketPath) 512 = [] then none else some (strlcpy (utf8 socketPath) 512))

theorem strtoul_location (location : UInt32) :
    UInt32.ofNat (Cli.strtoul (strlcpy (utf8 (Nat.toDigits 10 location.toNat)) 32) 0) =
      location := by
  have ascii : ∀ c ∈ Nat.toDigits 10 location.toNat, c.toNat < 0x80 := by
    intro c member
    have digit := Nat.isDigit_of_mem_toDigits (by decide) (by decide) member
    rw [Char.isDigit, Bool.and_eq_true, decide_eq_true_eq, decide_eq_true_eq] at digit
    exact Nat.lt_of_le_of_lt digit.2 (by decide)
  have below : location.toNat < 10 ^ 10 := Nat.lt_trans location.toNat_lt (by decide)
  have short : (utf8 (Nat.toDigits 10 location.toNat)).length ≤ 31 := by
    rw [length_utf8_of_ascii ascii]
    exact Nat.le_trans ((Nat.length_toDigits_le_iff (by decide) (by decide)).mpr below) (by decide)
  rw [strlcpy, List.take_of_length_le short,
    Cli.strtoul_toDigits (Nat.lt_trans location.toNat_lt (by decide)), UInt32.ofNat_toNat]

/-- What `main` has read behind its loop. -/
def readOptions (socketPath : List Char) (location : UInt32) (preferDefaultRoute : Bool) :
    Cli.Options where
  jsonMode := false
  defaultRoute := preferDefaultRoute
  haveFilter := true
  socketPath := strlcpy (utf8 socketPath) 512
  want := { Cli.noDevice with locationId := location }
  cmd := some (cstr "connect")

theorem parseArguments_launchWords (enginePath socketPath : List Char) (location : UInt32)
    (preferDefaultRoute : Bool) :
    Cli.parseArguments .start
        ((launchWords enginePath socketPath location preferDefaultRoute).tail.map utf8) =
      .ok (readOptions socketPath location preferDefaultRoute) := by
  have read : Cli.parseArguments .start
        ((launchWords enginePath socketPath location preferDefaultRoute).tail.map utf8) =
      .ok (readOptions socketPath
        (UInt32.ofNat (Cli.strtoul (strlcpy (utf8 (Nat.toDigits 10 location.toNat)) 32) 0))
        preferDefaultRoute) := by
    cases preferDefaultRoute <;> rfl
  rw [read, strtoul_location]

theorem main_launchWords (enginePath socketPath : List Char) (location : UInt32)
    (preferDefaultRoute : Bool) :
    Cli.main ((launchWords enginePath socketPath location preferDefaultRoute).tail.map utf8) =
      connectRun socketPath location preferDefaultRoute := by
  rw [Cli.main, parseArguments_launchWords]
  rfl

/-- The helper's arguments are the words of the script's command. -/
theorem arguments_eq (enginePath socketPath : List Char) (logPath : String) (location : UInt32)
    (defaultRoute : Bool) :
    (Helper.ConnectArgs.arguments ⟨String.ofList socketPath, location, defaultRoute, logPath⟩).map
        String.toList =
      (launchWords enginePath socketPath location defaultRoute).tail := by
  have digits : (toString location).toList = Nat.toDigits 10 location.toNat := by
    have natural : toString location = toString location.toNat := rfl
    rw [natural, Nat.toString_eq_ofList_toDigits, String.toList_ofList]
  have socket : (String.ofList socketPath).toList = socketPath := String.toList_ofList
  cases defaultRoute <;> simp [Helper.ConnectArgs.arguments, launchWords, digits, socket]

/-- The device that `cmd_connect` picks is the one at the location. -/
theorem connect_picks {registry : List UsbService} (distinct : LocationsDistinct registry)
    {row : AtUsbDeviceInfo} (listed : row ∈ atUsbListDevices registry)
    (located : row.locationId ≠ 0) :
    pickDevice { Cli.noDevice with locationId := row.locationId } true
      (atUsbListDevices registry) = some row :=
  pickDevice_located distinct listed located rfl (by simp [fits, Cli.noDevice])

/-- Whatever stands in the paths and in the account, the script runs one command of the shell as
that account.  Its program is the engine, its output goes to the log, and the engine's `main`
connects to the location over the socket, with the same arguments that the helper would hand to
it; and the device picked there is the one that was listed at that location. -/
theorem launch_connects {enginePath socketPath logPath : List Char}
    (noNulEngine : '\x00' ∉ enginePath) (noNulSocket : '\x00' ∉ socketPath)
    (noNulLog : '\x00' ∉ logPath) (location : UInt32) (preferDefaultRoute : Bool)
    (account password : List Char) :
    (∃ line command,
      runScript (connectScript enginePath socketPath location logPath
        (routeOption preferDefaultRoute) account password) = some [⟨line, account, password⟩] ∧
      readCommand line = some command ∧ command.words.head? = some enginePath ∧
      command.redirections = [⟨['1'], .append, logPath⟩, ⟨['2'], .duplicate, ['1']⟩] ∧
      command.words.tail = (Helper.ConnectArgs.arguments
        ⟨String.ofList socketPath, location, preferDefaultRoute, String.ofList logPath⟩).map
          String.toList ∧
      Cli.main (command.words.tail.map utf8) =
        connectRun socketPath location preferDefaultRoute) ∧
      ∀ registry, LocationsDistinct registry → ∀ row ∈ atUsbListDevices registry,
        row.locationId = location → location ≠ 0 →
          pickDevice { Cli.noDevice with locationId := location } true
            (atUsbListDevices registry) = some row := by
  constructor
  · refine ⟨_, _, runScript_connectScript .., readCommand_commandLine noNulEngine noNulSocket
      noNulLog location preferDefaultRoute, rfl, rfl, ?_, ?_⟩
    · exact (arguments_eq enginePath socketPath (String.ofList logPath) location
        preferDefaultRoute).symm
    · exact main_launchWords enginePath socketPath location preferDefaultRoute
  · rintro registry distinct row listed rfl located
    exact connect_picks distinct listed located

theorem launch_connects_quotes :
    ∃ line command,
      runScript (connectScript "/Applications/It's.app/engine".toList "/tmp/a b.sock".toList 7
        "/tmp/x.log".toList " --default-route".toList "root".toList "a\"b".toList) =
          some [⟨line, "root".toList, "a\"b".toList⟩] ∧
      readCommand line = some command ∧
      command.words.head? = some "/Applications/It's.app/engine".toList ∧
      Cli.main (command.words.tail.map utf8) = connectRun "/tmp/a b.sock".toList 7 true := by
  obtain ⟨⟨line, command, ran, read, program, -, -, connects⟩, -⟩ :=
    launch_connects (by decide : '\x00' ∉ "/Applications/It's.app/engine".toList)
      (by decide : '\x00' ∉ "/tmp/a b.sock".toList) (by decide : '\x00' ∉ "/tmp/x.log".toList) 7 true
      "root".toList "a\"b".toList
  exact ⟨line, command, ran, read, program, connects⟩

end WiredTethering.App
