import WiredTethering.Net.Parse

/-!
# The host that the network configuration acts on

The state that `net_config.c` changes through external commands: the dynamic
store of `scutil`, the default routes, the power of Wi-Fi devices, and the Wi-Fi
marker file.  Interfaces, which `ifconfig` and `networksetup` change, are not part
of it.

A `Host` answers for the commands.  Whether the `n`-th command works at all is
`ok n`; a command that works may still fail in the state it meets, as `route
delete` does when there is no route.  A failed command changes nothing.
-/

namespace WiredTethering.Net

open WiredTethering.Memory
open WiredTethering.Common

/-! ## The dynamic store -/

/-- The subkeys of a network service. -/
inductive ServicePart where
  | whole
  | ipv4
  | dns
  | interface
deriving DecidableEq, Repr

/-- The keys that `net_config.c` names. -/
inductive StoreKey where
  | globalIPv4
  | globalDNS
  | backupValid
  | backupIPv4
  | backupDNS
  | backupRoute
  | backupWifi
  | backup
  | backupRoot
  | stateService (part : ServicePart)
  | setupService (part : ServicePart)
deriving DecidableEq, Repr

inductive Value where
  | str (v : Bytes)
  | array (vs : List Bytes)
deriving DecidableEq, Repr

abbrev Dict := List (Bytes × Value)

abbrev Store := StoreKey → Option Dict

/-- A value as `show` prints it. -/
def Value.printed : Value → Bytes
  | .str v => v
  | .array vs =>
      cstr "<array> \x7b\n" ++
        vs.zipIdx.flatMap (fun (v, i) =>
          cstr "    " ++ octetStr (UInt8.ofNat i) ++ cstr " : " ++ v ++ cstr "\n") ++
        cstr "  \x7d"

def Dict.printed (d : Dict) : Bytes :=
  dump (d.map fun entry => (entry.1, entry.2.printed))

/-- The commands of a `scutil` script that change something. -/
inductive ScutilCmd where
  | dInit
  | dAdd (key : Bytes) (value : Value)
  | get (key : StoreKey)
  | set (key : StoreKey)
  | remove (key : StoreKey)
deriving DecidableEq, Repr

/-- Adding a key to the dictionary at hand replaces the value it had. -/
def Dict.add (d : Dict) (key : Bytes) (value : Value) : Dict :=
  d.filter (fun entry => entry.1 ≠ key) ++ [(key, value)]

/-- One command; the second component is the dictionary at hand. -/
def ScutilCmd.exec : Store × Option Dict → ScutilCmd → Store × Option Dict
  | (store, _), .dInit => (store, some [])
  | (store, d), .dAdd key value => (store, d.map fun d => Dict.add d key value)
  | (store, d), .get key => (store, (store key).orElse fun _ => d)
  | (store, none), .set _ => (store, none)
  | (store, some d), .set key => (Function.update store key (some d), some d)
  | (store, d), .remove key => (Function.update store key none, d)

/-- The store behind a script. -/
def execScript (store : Store) (script : List ScutilCmd) : Store :=
  (script.foldl ScutilCmd.exec (store, none)).1

/-! ## Routes -/

/-- A default route. -/
inductive Route where
  | none
  | gateway (gw : Bytes)
  | interface (ifname : Bytes)
deriving DecidableEq, Repr

inductive Family where
  | inet
  | inet6
deriving DecidableEq, Repr

/-! ## The host -/

structure Host where
  /-- The `n`-th external command does its work. -/
  ok : Nat → Bool
  /-- The order in which a dictionary is printed. -/
  order : Dict → Dict
  /-- `ifconfig -l`. -/
  interfaces : Bytes
  /-- `networksetup -listallhardwareports`. -/
  hardwarePorts : Bytes
  /-- `networksetup -getairportpower` of a device that is on or off. -/
  powerText : Bytes → Bool → Bytes
  /-- The interface that `route get` names for a gateway, if it names one. -/
  reachedBy : Bytes → Bytes
  /-- The link number that `route get` prints as the gateway of an interface. -/
  link : Bytes → Option UInt8
  /-- The home directory of the console user is known. -/
  home : Bool

/-- The state of the host and of the static variables of `net_config.c`. -/
structure NetState where
  store : Store
  route : Route
  route6 : Route
  wifiPower : Bytes → Bool
  wifiMarker : Bool
  /-- How many external commands have been run. -/
  tick : Nat
  sessionOpen : Bool
  wifiWeTurnedOff : Bool
  wifiDev : Bytes

def NetState.defaultRoute (s : NetState) : Family → Route
  | .inet => s.route
  | .inet6 => s.route6

def NetState.setDefaultRoute (s : NetState) (r : Route) : Family → NetState
  | .inet => { s with route := r }
  | .inet6 => { s with route6 := r }

/-- The state behind one more command. -/
def NetState.ticked (s : NetState) : NetState :=
  { s with tick := s.tick + 1 }

/-! ## Commands -/

/-- What a caller sees of a command's output in an array of `n` bytes. -/
def captured (text : Bytes) (n : Nat) : Bytes :=
  (text.take (n - 1)).rdropWhile fun c => c = 10 || c = 13 || c = 32

/-- The next external command, which fails where `effect` does. -/
def runCmd (h : Host) (s : NetState) (effect : NetState → Option NetState) : NetState × Bool :=
  if h.ok s.tick then
    match effect s.ticked with
    | some next => (next, true)
    | none => (s.ticked, false)
  else (s.ticked, false)

/-- A command that changes nothing here. -/
def runPlain (h : Host) (s : NetState) : NetState × Bool :=
  runCmd h s some

/-- A command whose output is captured in an array of `n` bytes. -/
def captureCmd (h : Host) (s : NetState) (output : Option Bytes) (n : Nat) :
    NetState × Option Bytes :=
  let (after, ran) := runPlain h s
  (after, if ran then output.map (captured · n) else none)

/-- `scutil_run`. -/
def scutilRun (h : Host) (s : NetState) (script : List ScutilCmd) : NetState × Bool :=
  runCmd h s fun s => some { s with store := execScript s.store script }

/-- `route delete default`. -/
def routeDelete (h : Host) (s : NetState) (family : Family) : NetState × Bool :=
  runCmd h s fun s =>
    if s.defaultRoute family = .none then none else some (s.setDefaultRoute .none family)

/-- `route add default`. -/
def routeAdd (h : Host) (s : NetState) (r : Route) (family : Family) : NetState × Bool :=
  runCmd h s fun s =>
    if s.defaultRoute family = .none then some (s.setDefaultRoute r family) else none

/-- What `route -n get default` prints before the gateway. -/
def routeFront : Family → Bytes
  | .inet => cstr "   route to: default\ndestination: default\n       mask: default\n"
  | .inet6 => cstr "   route to: ::\ndestination: ::\n       mask: default\n"

/-- What it prints behind the interface. -/
def routeBack : Bytes :=
  cstr "      flags: <UP,GATEWAY,DONE,STATIC,PRCLONING,GLOBAL>\n" ++
    cstr " recvpipe  sendpipe  ssthresh  rtt,msec    rttvar  hopcount      mtu     expire\n" ++
    cstr "       0         0         0         0         0         0      1500         0 \n"

def gatewayLine (gw : Bytes) : Bytes :=
  cstr "    gateway: " ++ gw ++ cstr "\n"

def interfaceLine (ifname : Bytes) : Bytes :=
  cstr "  interface: " ++ ifname ++ cstr "\n"

/-- The line of an interface that may be missing. -/
def interfaceLines (ifname : Bytes) : Bytes :=
  if ifname = [] then [] else interfaceLine ifname

/-- `route -n get default`, which fails when there is no default route. -/
def routeText (h : Host) (family : Family) : Route → Option Bytes
  | .none => none
  | .gateway gw =>
      some (routeFront family ++ gatewayLine gw ++ interfaceLines (h.reachedBy gw) ++ routeBack)
  | .interface ifname =>
      let link := (h.link ifname).map fun n => gatewayLine (cstr "link#" ++ octetStr n)
      some (routeFront family ++ link.getD [] ++ interfaceLine ifname ++ routeBack)

/-- The output of `show` for a key. -/
def showText (h : Host) (store : Store) (key : StoreKey) : Bytes :=
  match store key with
  | some d => Dict.printed (h.order d)
  | none => cstr "  No such key"

end WiredTethering.Net
