import WiredTethering.Net.Config
import WiredTethering.Text.Components
import WiredTethering.Text.Lines

/-!
# The text of the publish script

`at_net_publish_path` writes the addresses of a lease and the name of an interface into a
script that `scutil` runs line by line.  The validator and the writer split the DNS field
on their own; what is written is what was checked.
-/

namespace WiredTethering.Net

open WiredTethering.Memory
open WiredTethering.Common
open WiredTethering.Dhcp
open WiredTethering.Text

/-! ## Commands as lines -/

def ServicePart.path : ServicePart → Bytes
  | .whole => serviceId
  | .ipv4 => serviceId ++ cstr "/IPv4"
  | .dns => serviceId ++ cstr "/DNS"
  | .interface => serviceId ++ cstr "/Interface"

/-- The names of the keys. -/
def StoreKey.path : StoreKey → Bytes
  | .globalIPv4 => cstr "State:/Network/Global/IPv4"
  | .globalDNS => cstr "State:/Network/Global/DNS"
  | .backupValid => cstr "State:/Network/MacOSWiredTethering/Backup/Valid"
  | .backupIPv4 => cstr "State:/Network/MacOSWiredTethering/Backup/GlobalIPv4"
  | .backupDNS => cstr "State:/Network/MacOSWiredTethering/Backup/GlobalDNS"
  | .backupRoute => cstr "State:/Network/MacOSWiredTethering/Backup/DefaultRoute"
  | .backupWifi => cstr "State:/Network/MacOSWiredTethering/Backup/Wifi"
  | .backup => cstr "State:/Network/MacOSWiredTethering/Backup"
  | .backupRoot => cstr "State:/Network/MacOSWiredTethering"
  | .stateService part => cstr "State:/Network/Service/" ++ part.path
  | .setupService part => cstr "Setup:/Network/Service/" ++ part.path

/-- A command without quotes around its value. -/
def ScutilCmd.line : ScutilCmd → Bytes
  | .dInit => cstr "d.init"
  | .dAdd key (.str v) => cstr "d.add " ++ key ++ cstr " " ++ v
  | .dAdd key (.array vs) => cstr "d.add " ++ key ++ cstr " * " ++ [32].intercalate vs
  | .get key => cstr "get " ++ key.path
  | .set key => cstr "set " ++ key.path
  | .remove key => cstr "remove " ++ key.path

/-! ## The script -/

/-- The two templates of `at_net_publish_path`. -/
def publishLines (ifname ip gw dnsLine : Bytes) (asPrimary : Bool) : List Bytes :=
  [cstr "open",
    cstr "d.init",
    cstr "d.add Addresses * " ++ ip,
    cstr "d.add Destinations * " ++ gw,
    cstr "d.add InterfaceName " ++ ifname,
    cstr "d.add Router " ++ gw,
    cstr "set State:/Network/Service/" ++ serviceId ++ cstr "/IPv4",
    cstr "d.init",
    cstr "d.add DeviceName " ++ ifname,
    cstr "d.add Type IPSec",
    cstr "set State:/Network/Service/" ++ serviceId ++ cstr "/Interface",
    cstr "d.init",
    cstr "d.add ServerAddresses * " ++ dnsLine,
    cstr "set State:/Network/Service/" ++ serviceId ++ cstr "/DNS"] ++
  (if asPrimary then
    [cstr "d.init",
      cstr "d.add PrimaryInterface " ++ ifname,
      cstr "d.add PrimaryService " ++ serviceId,
      cstr "d.add Router " ++ gw,
      cstr "set State:/Network/Global/IPv4",
      cstr "d.init",
      cstr "d.add ServerAddresses * " ++ dnsLine,
      cstr "set State:/Network/Global/DNS"]
  else []) ++
  [cstr "close"]

/-- `gw`. -/
def publishGw (lease : AtNetInfo) : Bytes :=
  if lease.gateway ≠ [] then lease.gateway else lease.ip

/-- `dns1` and `dns2`. -/
def publishDns (lease : AtNetInfo) : Bytes × Bytes :=
  let (dns1, dns2) := if lease.dns ≠ [] then scanDns lease.dns else ([], [])
  (if dns1 = [] then strlcpy (publishGw lease) 64 else dns1, dns2)

/-- The addresses of the DNS servers. -/
def dnsEntries (lease : AtNetInfo) : List Bytes :=
  if (publishDns lease).2 ≠ [] then [(publishDns lease).1, (publishDns lease).2]
  else [(publishDns lease).1]

/-- `dns_line`. -/
def publishDnsLine (lease : AtNetInfo) : Bytes :=
  let (dns1, dns2) := publishDns lease
  strlcpy (if dns2 ≠ [] then dns1 ++ cstr " " ++ dns2 else dns1) 160

/-- `at_net_publish_path` up to `scutil_run`: the script that it hands over, if it passes its
checks. -/
def publishPathScript (sessionOpen : Bool) (ifname : Bytes) (lease : AtNetInfo)
    (asPrimary : Bool) : Option Bytes :=
  if !atIfnameOk ifname || !atLeaseAddrsOk lease then none
  else
    let asPrimary := asPrimary && sessionOpen
    some (strlcpy (joinLines 10 (publishLines ifname lease.ip (publishGw lease)
      (publishDnsLine lease) asPrimary)) 4096)

/-! ## What was checked -/

/-- Digits and dots. -/
def Dotted (v : Bytes) : Prop :=
  ∀ c ∈ v, c = 46 ∨ isDigit c = true

/-- An address with nothing else in it. -/
structure IsAddress (v : Bytes) : Prop where
  some_ : v ≠ []
  dotted : Dotted v
  short : v.length ≤ 15

theorem length_of_inetPton {v : Bytes} (accepted : inetPton v = true) : v.length ≤ 15 := by
  rw [inetPton, Bool.and_eq_true, decide_eq_true_eq, List.all_eq_true] at accepted
  obtain ⟨four, octets⟩ := accepted
  have short : ∀ part ∈ v.splitOn 46, part.length ≤ 3 := by
    intro part mem
    have ok := octets part mem
    simp only [octetOk, Bool.and_eq_true, decide_eq_true_eq] at ok
    exact ok.1.1.1.2
  have whole : [46].intercalate (v.splitOn 46) = v := List.intercalate_splitOn 46
  match parts : v.splitOn 46, four with
  | [a, b, c, d], _ =>
      rw [parts] at short whole
      have first := short a (by simp)
      have second := short b (by simp)
      have third := short c (by simp)
      have fourth := short d (by simp)
      rw [← whole, intercalate_cons_eq_flatMap]
      simp only [List.flatMap_cons, List.flatMap_nil, List.length_append, List.length_cons,
        List.length_nil]
      omega

theorem isAddress_of_ok {v : Bytes} (ok : atIpv4DottedOk v = true) : IsAddress v := by
  rw [atIpv4DottedOk, Bool.and_eq_true, Bool.and_eq_true, decide_eq_true_eq,
    List.all_eq_true] at ok
  obtain ⟨⟨some_, dotted⟩, accepted⟩ := ok
  exact ⟨some_, fun c mem => of_decide_eq_true (by simpa using dotted c mem),
    length_of_inetPton accepted⟩

/-- What the validator has looked at. -/
structure CheckedLease (lease : AtNetInfo) : Prop where
  ip : IsAddress lease.ip
  gateway : lease.gateway ≠ [] → IsAddress lease.gateway
  dns1 : lease.dns ≠ [] → IsAddress (scanDns lease.dns).1
  dns2 : lease.dns ≠ [] → (scanDns lease.dns).2 ≠ [] → IsAddress (scanDns lease.dns).2

/-- A field that may be empty. -/
theorem isAddress_of_optional {v : Bytes}
    (checked : ¬ (decide (v ≠ []) && !atIpv4DottedOk v) = true) (some_ : v ≠ []) :
    IsAddress v := by
  apply isAddress_of_ok
  by_contra bad
  apply checked
  rw [decide_eq_true some_, Bool.eq_false_of_not_eq_true bad]
  rfl

theorem checkedLease_of_ok {lease : AtNetInfo} (ok : atLeaseAddrsOk lease = true) :
    CheckedLease lease := by
  rw [atLeaseAddrsOk] at ok
  split_ifs at ok with ip netmask gateway none_
  · rw [Bool.not_eq_true, Bool.not_eq_eq_eq_not, Bool.not_false] at ip
    exact ⟨isAddress_of_ok ip, isAddress_of_optional gateway, fun some_ => absurd none_ some_,
      fun some_ => absurd none_ some_⟩
  · dsimp only at ok
    split_ifs at ok with empty second
    rw [Bool.not_eq_true, Bool.not_eq_eq_eq_not, Bool.not_false] at ip second
    rw [Bool.not_eq_eq_eq_not, Bool.not_true] at ok
    refine ⟨isAddress_of_ok ip, isAddress_of_optional gateway, fun _ => isAddress_of_ok second,
      fun _ => isAddress_of_optional ?_⟩
    rw [ok]
    exact Bool.false_ne_true

/-- An address fits any array of more than fifteen bytes. -/
theorem IsAddress.strlcpy_eq {v : Bytes} (address : IsAddress v) {n : Nat} (room : 15 < n) :
    strlcpy v n = v := by
  have short := address.short
  exact List.take_of_length_le (by omega)

/-- One address, or two with a blank between them. -/
def IsDnsLine (line : Bytes) : Prop :=
  IsAddress line ∨ ∃ one two, IsAddress one ∧ IsAddress two ∧ line = one ++ cstr " " ++ two

namespace CheckedLease

variable {lease : AtNetInfo}

theorem publishGw (checked : CheckedLease lease) : IsAddress (Net.publishGw lease) := by
  rw [Net.publishGw]
  split
  · exact checked.gateway ‹_›
  · exact checked.ip

theorem publishDns (checked : CheckedLease lease) :
    IsAddress (Net.publishDns lease).1 ∧
      ((Net.publishDns lease).2 ≠ [] → IsAddress (Net.publishDns lease).2) := by
  have gw : IsAddress (strlcpy (Net.publishGw lease) 64) := by
    rw [checked.publishGw.strlcpy_eq (by decide)]
    exact checked.publishGw
  rw [Net.publishDns]
  by_cases none_ : lease.dns = []
  · rw [if_neg (not_not.mpr none_)]
    exact ⟨gw, fun some_ => absurd rfl some_⟩
  · rw [if_pos none_]
    have first := checked.dns1 none_
    dsimp only
    rw [if_neg first.some_]
    exact ⟨first, checked.dns2 none_⟩

/-- What is written for the DNS servers is not cut. -/
theorem publishDnsLine_eq (checked : CheckedLease lease) :
    Net.publishDnsLine lease = [32].intercalate (dnsEntries lease) := by
  obtain ⟨first, second⟩ := checked.publishDns
  rw [Net.publishDnsLine, dnsEntries]
  dsimp only
  split
  · rename_i some_
    have short := first.short
    have room := (second some_).short
    rw [List.intercalate_cons_cons, List.intercalate_singleton]
    apply List.take_of_length_le
    rw [List.length_append, List.length_append, show (cstr " ").length = 1 by decide]
    omega
  · rw [first.strlcpy_eq (by decide), List.intercalate_singleton]

theorem publishDnsLine (checked : CheckedLease lease) : IsDnsLine (Net.publishDnsLine lease) := by
  obtain ⟨first, second⟩ := checked.publishDns
  rw [checked.publishDnsLine_eq, dnsEntries]
  split
  · rw [List.intercalate_cons_cons, List.intercalate_singleton]
    exact .inr ⟨_, _, first, second ‹_›, rfl⟩
  · rw [List.intercalate_singleton]
    exact .inl first

end CheckedLease

/-! ## The lines of the script -/

/-- A line that cannot break off, and leaves room for the others. -/
structure Inert (line : Bytes) : Prop where
  whole : 10 ∉ line
  short : line.length ≤ 80

instance (line : Bytes) : Decidable (Inert line) :=
  decidable_of_iff (10 ∉ line ∧ line.length ≤ 80)
    ⟨fun inert => ⟨inert.1, inert.2⟩, fun inert => ⟨inert.whole, inert.short⟩⟩

/-- A value behind the fixed part of its line. -/
theorem Inert.append {front v : Bytes} (front_ : 10 ∉ front ∧ front.length ≤ 40)
    (whole : 10 ∉ v) (short : v.length ≤ 40) : Inert (front ++ v) := by
  constructor
  · rw [List.mem_append, not_or]
    exact ⟨front_.1, whole⟩
  · rw [List.length_append]
    omega

theorem Dotted.whole {v : Bytes} (dotted : Dotted v) : 10 ∉ v := by
  intro mem
  rcases dotted 10 mem with dot | digit
  · cases dot
  · cases digit

theorem IsDnsLine.whole {line : Bytes} (dns : IsDnsLine line) :
    10 ∉ line ∧ line.length ≤ 31 := by
  rcases dns with one | ⟨one, two, first, second, rfl⟩
  · exact ⟨one.dotted.whole, Nat.le_trans one.short (by decide)⟩
  · have room := first.short
    have more := second.short
    constructor
    · rw [List.mem_append, List.mem_append, not_or, not_or]
      exact ⟨⟨first.dotted.whole, by decide⟩, second.dotted.whole⟩
    · rw [List.length_append, List.length_append, show (cstr " ").length = 1 by decide]
      omega

/-- The checks of the name of an interface. -/
structure IsIfname (name : Bytes) : Prop where
  alnum : ∀ c ∈ name, isAlnum c = true
  short : name.length ≤ 15

theorem isIfname_of_ok {name : Bytes} (ok : atIfnameOk name = true) : IsIfname name := by
  rw [atIfnameOk, Bool.and_eq_true, Bool.and_eq_true, decide_eq_true_eq, List.all_eq_true] at ok
  exact ⟨ok.2, ok.1.2⟩

theorem IsIfname.whole {name : Bytes} (ifname : IsIfname name) : 10 ∉ name := by
  intro mem
  have alnum := ifname.alnum 10 mem
  cases alnum

variable {ifname ip gw dnsLine : Bytes} {asPrimary : Bool}

theorem publishLines_inert (name : IsIfname ifname) (ip_ : IsAddress ip) (gw_ : IsAddress gw)
    (dns : IsDnsLine dnsLine) (asPrimary : Bool) :
    ∀ line ∈ publishLines ifname ip gw dnsLine asPrimary, Inert line := by
  have ofName : ∀ front : Bytes, 10 ∉ front ∧ front.length ≤ 40 → Inert (front ++ ifname) :=
    fun front front_ => .append front_ name.whole (Nat.le_trans name.short (by decide))
  have ofAddress : ∀ {v}, IsAddress v → ∀ front : Bytes, 10 ∉ front ∧ front.length ≤ 40 →
      Inert (front ++ v) :=
    fun v front front_ => .append front_ v.dotted.whole (Nat.le_trans v.short (by decide))
  have ofDns : ∀ front : Bytes, 10 ∉ front ∧ front.length ≤ 40 → Inert (front ++ dnsLine) :=
    fun front front_ => .append front_ dns.whole.1 (Nat.le_trans dns.whole.2 (by decide))
  have service : ∀ line ∈ publishLines ifname ip gw dnsLine false, Inert line := by
    simp only [publishLines, List.forall_mem_append, List.forall_mem_cons, List.not_mem_nil,
      false_implies, implies_true, and_true, Bool.false_eq_true, if_false]
    exact ⟨⟨by decide, by decide, ofAddress ip_ _ (by decide), ofAddress gw_ _ (by decide),
      ofName _ (by decide), ofAddress gw_ _ (by decide), by decide, by decide,
      ofName _ (by decide), by decide, by decide, by decide, ofDns _ (by decide), by decide⟩,
      by decide⟩
  cases asPrimary with
  | false => exact service
  | true =>
      simp only [publishLines, List.forall_mem_append, if_true] at service ⊢
      refine ⟨⟨service.1.1, ?_⟩, service.2⟩
      simp only [List.forall_mem_cons, List.not_mem_nil, false_implies, implies_true, and_true]
      exact ⟨by decide, ofName _ (by decide), by decide, ofAddress gw_ _ (by decide), by decide,
        by decide, ofDns _ (by decide), by decide⟩

/-- The number of lines of a template. -/
def templateLines (asPrimary : Bool) : Nat :=
  if asPrimary then 23 else 15

theorem publishLines_length (asPrimary : Bool) :
    (publishLines ifname ip gw dnsLine asPrimary).length = templateLines asPrimary := by
  cases asPrimary <;> rfl

theorem length_joinLines_le {lines : List Bytes} {n : Nat}
    (short : ∀ line ∈ lines, line.length ≤ n) :
    (joinLines 10 lines).length ≤ lines.length * (n + 1) := by
  induction lines with
  | nil => exact Nat.zero_le _
  | cons line lines ih =>
      rw [List.forall_mem_cons] at short
      have rest := ih short.2
      have here := short.1
      rw [joinLines_cons, List.length_append, List.length_cons, List.length_cons, Nat.succ_mul]
      omega

theorem length_publishLines_lt (inert : ∀ line ∈ publishLines ifname ip gw dnsLine asPrimary,
    Inert line) :
    (joinLines 10 (publishLines ifname ip gw dnsLine asPrimary)).length < 4096 := by
  have bound := length_joinLines_le fun line mem => (inert line mem).short
  have count : templateLines asPrimary ≤ 23 := by cases asPrimary <;> decide
  rw [publishLines_length] at bound
  omega

/-! ## What is handed to `scutil` -/

variable {sessionOpen : Bool} {lease : AtNetInfo} {script : Bytes}

/-- The parts of a script that was handed over. -/
structure Handed (sessionOpen asPrimary : Bool) (ifname : Bytes) (lease : AtNetInfo)
    (script : Bytes) : Prop where
  ifname_ : IsIfname ifname
  lease_ : CheckedLease lease
  whole : script = joinLines 10 (publishLines ifname lease.ip (publishGw lease)
    (publishDnsLine lease) (asPrimary && sessionOpen))
  short : script.length < 4096
  cut : cutLines 10 script = (publishLines ifname lease.ip (publishGw lease)
    (publishDnsLine lease) (asPrimary && sessionOpen), [])

theorem handed_of_script
    (handed : publishPathScript sessionOpen ifname lease asPrimary = some script) :
    Handed sessionOpen asPrimary ifname lease script := by
  rw [publishPathScript] at handed
  split_ifs at handed with refused
  rw [Bool.or_eq_true, not_or, Bool.not_eq_true, Bool.not_eq_eq_eq_not, Bool.not_false,
    Bool.not_eq_true, Bool.not_eq_eq_eq_not, Bool.not_false] at refused
  have name := isIfname_of_ok refused.1
  have checked := checkedLease_of_ok refused.2
  have inert := publishLines_inert name checked.ip checked.publishGw checked.publishDnsLine
    (asPrimary && sessionOpen)
  have short := length_publishLines_lt inert
  have whole := Option.some.inj handed
  rw [strlcpy, List.take_of_length_le (by omega)] at whole
  subst whole
  exact ⟨name, checked, rfl, short, cutLines_joinLines fun line mem => (inert line mem).whole⟩

/-- The lines of a template are the commands of the model. -/
theorem publishLines_eq_map (dns : List Bytes) :
    publishLines ifname lease.ip gw ([32].intercalate dns) asPrimary =
      cstr "open" :: ((publishScript ifname lease gw dns asPrimary).map ScutilCmd.line ++
        [cstr "close"]) := by
  have single : ∀ v : Bytes, [32].intercalate [v] = v := fun _ => List.intercalate_singleton
  cases asPrimary with
  | false =>
      simp only [publishScript, publishLines, List.map_append, List.map_cons, List.map_nil,
        Bool.false_eq_true, if_false, ScutilCmd.line, single, addStr]
      rfl
  | true =>
      simp only [publishScript, publishLines, List.map_append, List.map_cons, List.map_nil,
        if_true, ScutilCmd.line, single, addStr]
      rfl

/-- The commands that the model runs are the lines of the script. -/
theorem atNetPublishPath_runs (h : Host) (s : NetState)
    (handed : publishPathScript s.sessionOpen ifname lease asPrimary = some script) :
    ∃ commands : List ScutilCmd,
      (cutLines 10 script).1 = cstr "open" :: (commands.map ScutilCmd.line ++ [cstr "close"]) ∧
      atNetPublishPath h s ifname lease asPrimary =
        ((scutilRun h s commands).1, if (scutilRun h s commands).2 then 0 else -1) := by
  have parts := handed_of_script handed
  rw [publishPathScript] at handed
  split_ifs at handed with refused
  refine ⟨publishScript ifname lease (publishGw lease) (dnsEntries lease)
    (asPrimary && s.sessionOpen), ?_, ?_⟩
  · rw [parts.cut, parts.lease_.publishDnsLine_eq]
    exact publishLines_eq_map _
  · rw [atNetPublishPath, if_neg refused]
    rfl

/-- What is handed to `scutil` is not cut, has the lines of its template, and nothing but
digits and dots, or letters and digits, in their places. -/
theorem publish_script_inert
    (handed : publishPathScript sessionOpen ifname lease asPrimary = some script) :
    script = joinLines 10 (publishLines ifname lease.ip (publishGw lease) (publishDnsLine lease)
        (asPrimary && sessionOpen)) ∧
      (cutLines 10 script).1.length = templateLines (asPrimary && sessionOpen) ∧
      (cutLines 10 script).2 = [] ∧
      (∀ c ∈ ifname, isAlnum c = true) ∧
      Dotted lease.ip ∧ Dotted (publishGw lease) ∧
      (Dotted (publishDnsLine lease) ∨
        ∃ one two, Dotted one ∧ Dotted two ∧ publishDnsLine lease = one ++ cstr " " ++ two) := by
  have parts := handed_of_script handed
  refine ⟨parts.whole, ?_, ?_, parts.ifname_.alnum, parts.lease_.ip.dotted,
    parts.lease_.publishGw.dotted, ?_⟩
  · rw [parts.cut]
    exact publishLines_length _
  · rw [parts.cut]
  · rcases parts.lease_.publishDnsLine with one | ⟨one, two, first, second, line⟩
    · exact .inl one.dotted
    · exact .inr ⟨one, two, first.dotted, second.dotted, line⟩

/-- A lease with two DNS servers. -/
def servedLease : AtNetInfo where
  ip := cstr "10.1.2.3"
  netmask := []
  gateway := cstr "10.1.2.1"
  dns := cstr "10.1.2.1 8.8.8.8"
  ready := true

theorem publish_script_inert_served :
    (cutLines 10 (joinLines 10 (publishLines (cstr "utun7") servedLease.ip
      (publishGw servedLease) (publishDnsLine servedLease) true))).1.length = 23 :=
  (@publish_script_inert (cstr "utun7") true true servedLease _ (by decide +kernel)).2.1

/-- Without a session the script of a primary lease has the lines of the other template. -/
theorem publish_unpromoted :
    (publishPathScript false (cstr "utun7") servedLease true).map
        (fun script => (cutLines 10 script).1.length) = some (templateLines false) ∧
      templateLines false ≠ templateLines true := by
  decide +kernel

end WiredTethering.Net
