import WiredTethering.Dhcp.Ignored
import WiredTethering.Tlv.Complete

/-!
# What the option parser decodes

`parse_options` applies the options of an area in order, and of an arbitrary
byte string the options of its longest prefix made of complete ones.  A second
version of the loop, in which each read may fail, shows that the loop reads only
inside the given length and ends.
-/

namespace WiredTethering.Dhcp

open WiredTethering.Memory
open WiredTethering.Tlv

/-! ## The loop with checked reads -/

/-- A word loaded from inside a buffer. -/
def loadWord? (load : Bytes → Nat → UInt32) (buf : Bytes) (off : Nat) : Option UInt32 :=
  if off + 4 ≤ buf.length then some (load buf off) else none

/-- The `n` bytes of a buffer from an offset inside it. -/
def readBytes? (buf : Bytes) (off n : Nat) : Option Bytes :=
  if off + n ≤ buf.length then some (slice buf off n) else none

/-- `storeOption` with checked reads of the value. -/
def storeOption? (d : AtDhcp) (msgType t : UInt8) (v : Bytes) : Option (AtDhcp × UInt8) :=
  if t = optType ∧ 1 ≤ v.length then v[0]?.map fun b => (d, b)
  else if t = optServer ∧ 4 ≤ v.length then
    (loadWord? rd32le v 0).map fun w => ({ d with server := w }, msgType)
  else if t = optSubnet ∧ 4 ≤ v.length then
    (loadWord? rd32le v 0).map fun w => ({ d with netmask := w }, msgType)
  else if t = optRouter ∧ 4 ≤ v.length then
    (loadWord? rd32le v 0).map fun w => ({ d with router := w }, msgType)
  else if t = optLease ∧ 4 ≤ v.length then
    (loadWord? rd32be v 0).map fun w => ({ d with leaseSecs := w }, msgType)
  else if t = optT1 ∧ 4 ≤ v.length then
    (loadWord? rd32be v 0).map fun w => ({ d with t1Secs := w }, msgType)
  else if t = optT2 ∧ 4 ≤ v.length then
    (loadWord? rd32be v 0).map fun w => ({ d with t2Secs := w }, msgType)
  else if t = optDns ∧ 4 ≤ v.length then
    (loadWord? rd32le v 0).bind fun w =>
      let d := { d with dns0 := w, dnsN := 1 }
      if 8 ≤ v.length then
        (loadWord? rd32le v 4).map fun w => ({ d with dns1 := w, dnsN := 2 }, msgType)
      else some (d, msgType)
  else some (d, msgType)

/-- The loop of `parse_options` for at most `fuel` rounds, with checked reads. -/
def parseOptionsChecked (opt : Bytes) : Nat → Nat → AtDhcp → UInt8 → Option (AtDhcp × UInt8)
  | 0, _, _, _ => none
  | fuel + 1, i, d, msgType =>
      if i < opt.length then
        opt[i]?.bind fun t =>
          if t = optPad then parseOptionsChecked opt fuel (i + 1) d msgType
          else if t = optEnd then some (d, msgType)
          else if opt.length ≤ i + 1 then some (d, msgType)
          else
            opt[i + 1]?.bind fun n =>
              if opt.length < i + 2 + n.toNat then some (d, msgType)
              else
                (readBytes? opt (i + 2) n.toNat).bind fun v =>
                  (storeOption? d msgType t v).bind fun stored =>
                    parseOptionsChecked opt fuel (i + 2 + n.toNat) stored.1 stored.2
      else some (d, msgType)

theorem loadWord?_eq {buf : Bytes} {off : Nat} (inside : off + 4 ≤ buf.length)
    (load : Bytes → Nat → UInt32) : loadWord? load buf off = some (load buf off) :=
  if_pos inside

theorem getElem?_eq_byteAt {buf : Bytes} {off : Nat} (inside : off < buf.length) :
    buf[off]? = some (byteAt buf off) := by
  rw [byteAt, List.getD_eq_getElem?_getD, List.getElem?_eq_getElem inside]
  rfl

/-- A value is read only where it has bytes. -/
theorem storeOption?_eq (d : AtDhcp) (msgType t : UInt8) (v : Bytes) :
    storeOption? d msgType t v = some (storeOption d msgType t v) := by
  have word (load : Bytes → Nat → UInt32) {store : UInt32 → AtDhcp × UInt8} (long : 4 ≤ v.length) :
      (loadWord? load v 0).map store = some (store (load v 0)) := by
    rw [loadWord?_eq long, Option.map_some]
  rw [storeOption?, storeOption]
  by_cases type : t = optType ∧ 1 ≤ v.length
  · rw [if_pos type, if_pos type, getElem?_eq_byteAt type.2, Option.map_some]
  rw [if_neg type, if_neg type]
  by_cases server : t = optServer ∧ 4 ≤ v.length
  · rw [if_pos server, if_pos server, word rd32le server.2]
  rw [if_neg server, if_neg server]
  by_cases subnet : t = optSubnet ∧ 4 ≤ v.length
  · rw [if_pos subnet, if_pos subnet, word rd32le subnet.2]
  rw [if_neg subnet, if_neg subnet]
  by_cases router : t = optRouter ∧ 4 ≤ v.length
  · rw [if_pos router, if_pos router, word rd32le router.2]
  rw [if_neg router, if_neg router]
  by_cases lease : t = optLease ∧ 4 ≤ v.length
  · rw [if_pos lease, if_pos lease, word rd32be lease.2]
  rw [if_neg lease, if_neg lease]
  by_cases t1 : t = optT1 ∧ 4 ≤ v.length
  · rw [if_pos t1, if_pos t1, word rd32be t1.2]
  rw [if_neg t1, if_neg t1]
  by_cases t2 : t = optT2 ∧ 4 ≤ v.length
  · rw [if_pos t2, if_pos t2, word rd32be t2.2]
  rw [if_neg t2, if_neg t2]
  by_cases dns : t = optDns ∧ 4 ≤ v.length
  · rw [if_pos dns, if_pos dns, loadWord?_eq dns.2, Option.bind_some]
    dsimp only
    by_cases second : 8 ≤ v.length
    · rw [if_pos second, if_pos second, loadWord?_eq second, Option.map_some]
    · rw [if_neg second, if_neg second]
  · rw [if_neg dns, if_neg dns]

/-- The loop ends within a round for each byte, and no read of it fails. -/
theorem parseOptionsChecked_eq (opt : Bytes) {fuel i : Nat} (within : i ≤ opt.length)
    (enough : opt.length < i + fuel) (d : AtDhcp) (msgType : UInt8) :
    parseOptionsChecked opt fuel i d msgType = some (parseOptionsFrom opt i d msgType) := by
  induction fuel generalizing i d msgType with
  | zero => exact absurd enough (Nat.not_lt.mpr within)
  | succ fuel ih =>
      rw [parseOptionsChecked, parseOptionsFrom]
      by_cases inside : i < opt.length
      · rw [if_pos inside, if_pos inside, getElem?_eq_byteAt inside, Option.bind_some]
        dsimp only
        by_cases pad : byteAt opt i = optPad
        · rw [if_pos pad, if_pos pad, ih inside (by omega)]
        rw [if_neg pad, if_neg pad]
        by_cases stop : byteAt opt i = optEnd
        · rw [if_pos stop, if_pos stop]
        rw [if_neg stop, if_neg stop]
        by_cases no_length : opt.length ≤ i + 1
        · rw [if_pos no_length, if_pos no_length]
        rw [if_neg no_length, if_neg no_length, getElem?_eq_byteAt (Nat.not_le.mp no_length),
          Option.bind_some]
        by_cases too_long : opt.length < i + 2 + (byteAt opt (i + 1)).toNat
        · rw [if_pos too_long, if_pos too_long]
        have fits := Nat.not_lt.mp too_long
        rw [if_neg too_long, if_neg too_long, readBytes?, if_pos fits, Option.bind_some,
          storeOption?_eq, Option.bind_some, ih fits (by omega)]
      · rw [if_neg inside, if_neg inside]

/-! ## In-order application -/

/-- The value of the last option with a tag and at least `n` bytes. -/
def lastValue (tag : UInt8) (n : Nat) (items : List Item) : Option Bytes :=
  lastWrite (fun item => if item.tag = tag ∧ n ≤ item.value.length then some item.value else none)
    items

/-- The DNS servers in use. -/
def dnsEntries (d : AtDhcp) : List UInt32 :=
  [d.dns0, d.dns1].take d.dnsN

/-- The tags that the parser knows. -/
def knownTags : List UInt8 :=
  [optType, optServer, optSubnet, optRouter, optLease, optT1, optT2, optDns]

/-- `result` is what a list of options makes of a client, with the message type. -/
structure Applied (d : AtDhcp) (items : List Item) (result : AtDhcp × UInt8) : Prop where
  inOrder : result =
    items.foldl (fun s item => storeOption s.1 s.2 item.tag item.value) (d, 0)
  ignored : result = (items.filter (·.tag ∈ knownTags)).foldl
    (fun s item => storeOption s.1 s.2 item.tag item.value) (d, 0)
  message : result.2 = ((lastValue optType 1 items).map (byteAt · 0)).getD 0
  server : result.1.server = ((lastValue optServer 4 items).map (rd32le · 0)).getD d.server
  subnet : result.1.netmask = ((lastValue optSubnet 4 items).map (rd32le · 0)).getD d.netmask
  router : result.1.router = ((lastValue optRouter 4 items).map (rd32le · 0)).getD d.router
  lease : result.1.leaseSecs = ((lastValue optLease 4 items).map (rd32be · 0)).getD d.leaseSecs
  t1 : result.1.t1Secs = ((lastValue optT1 4 items).map (rd32be · 0)).getD d.t1Secs
  t2 : result.1.t2Secs = ((lastValue optT2 4 items).map (rd32be · 0)).getD d.t2Secs
  dnsCount : result.1.dnsN =
    ((lastValue optDns 4 items).map fun v => if 8 ≤ v.length then 2 else 1).getD d.dnsN
  dns : dnsEntries result.1 = ((lastValue optDns 4 items).map fun v =>
    if 8 ≤ v.length then [rd32le v 0, rd32le v 4] else [rd32le v 0]).getD (dnsEntries d)
  others : result.1 = { d with
    server := result.1.server
    netmask := result.1.netmask
    router := result.1.router
    leaseSecs := result.1.leaseSecs
    t1Secs := result.1.t1Secs
    t2Secs := result.1.t2Secs
    dns0 := result.1.dns0
    dns1 := result.1.dns1
    dnsN := result.1.dnsN }

/-- A write that maps the value of an option with a tag. -/
theorem lastWrite_eq_lastValue {β : Type} (tag : UInt8) (n : Nat) (f : Bytes → β)
    (items : List Item) :
    lastWrite (fun item =>
        if item.tag = tag ∧ n ≤ item.value.length then some (f item.value) else none) items =
      (lastValue tag n items).map f := by
  rw [lastValue]
  induction items with
  | nil => rfl
  | cons item items ih =>
      rw [lastWrite_cons, lastWrite_cons, ih, Option.map_or]
      split_ifs <;> rfl

theorem lastWrite_eq_none_iff {β : Type} {write : Item → Option β} {items : List Item} :
    lastWrite write items = none ↔ ∀ item ∈ items, write item = none := by
  rw [lastWrite, List.findSome?_eq_none_iff]
  exact forall_congr' fun item => by rw [List.mem_reverse]

/-- The last option of at least `n` bytes, if it has at least `m`, is the last of
those. -/
theorem lastValue_longer {tag : UInt8} {n m : Nat} (longer : n ≤ m) {items : List Item}
    {v : Bytes} (last : lastValue tag n items = some v) (long : m ≤ v.length) :
    lastValue tag m items = some v := by
  rw [lastValue] at last ⊢
  induction items with
  | nil => exact absurd last nofun
  | cons item items ih =>
      rw [lastWrite_cons] at last ⊢
      rcases Option.or_eq_some_iff.mp last with behind | ⟨none_behind, here⟩
      · rw [ih behind, Option.some_or]
      · have none_longer : lastWrite (fun item =>
            if item.tag = tag ∧ m ≤ item.value.length then some item.value else none) items =
              none := by
          rw [lastWrite_eq_none_iff] at none_behind ⊢
          intro item member
          have unwritten := none_behind item member
          rw [ite_eq_right_iff] at unwritten ⊢
          intro written
          exact unwritten ⟨written.1, Nat.le_trans longer written.2⟩
        rw [none_longer, Option.none_or]
        by_cases tagged : item.tag = tag ∧ n ≤ item.value.length
        · rw [if_pos tagged, Option.some.injEq] at here
          subst here
          rw [if_pos ⟨tagged.1, long⟩]
        · rw [if_neg tagged] at here
          exact absurd here nofun

/-- An option with another tag stores nothing. -/
theorem storeOption_unknown {item : Item} (unknown : item.tag ∉ knownTags) (d : AtDhcp)
    (msgType : UInt8) : storeOption d msgType item.tag item.value = (d, msgType) := by
  simp only [knownTags, List.mem_cons, List.not_mem_nil, or_false, not_or] at unknown
  rcases unknown with ⟨type, server, subnet, router, lease, t1, t2, dns⟩
  simp only [storeOption, type, server, subnet, router, lease, t1, t2, dns, false_and, if_false]

theorem foldl_known (items : List Item) (s : AtDhcp × UInt8) :
    items.foldl (fun s item => storeOption s.1 s.2 item.tag item.value) s =
      (items.filter (·.tag ∈ knownTags)).foldl
        (fun s item => storeOption s.1 s.2 item.tag item.value) s := by
  induction items generalizing s with
  | nil => rfl
  | cons item items ih =>
      by_cases known : item.tag ∈ knownTags
      · have kept : (item :: items).filter (·.tag ∈ knownTags) =
            item :: items.filter (·.tag ∈ knownTags) :=
          List.filter_cons_of_pos (by simpa using known)
        rw [kept, List.foldl_cons, List.foldl_cons, ih]
      · have dropped : (item :: items).filter (·.tag ∈ knownTags) =
            items.filter (·.tag ∈ knownTags) :=
          List.filter_cons_of_neg (by simpa using known)
        rw [dropped, List.foldl_cons, storeOption_unknown known, ih]

/-- The servers in use after some options are those of the last DNS option. -/
theorem dnsEntries_storeWrites (d : AtDhcp) (items : List Item) :
    dnsEntries (storeWrites d fun write => lastWrite write items) =
      ((lastValue optDns 4 items).map fun v =>
        if 8 ≤ v.length then [rd32le v 0, rd32le v 4] else [rd32le v 0]).getD (dnsEntries d) := by
  have first : lastWrite dnsOf items = (lastValue optDns 4 items).map (rd32le · 0) :=
    lastWrite_eq_lastValue optDns 4 (rd32le · 0) items
  have second : lastWrite secondDnsOf items = (lastValue optDns 8 items).map (rd32le · 4) :=
    lastWrite_eq_lastValue optDns 8 (rd32le · 4) items
  have count : lastWrite dnsCountOf items =
      (lastValue optDns 4 items).map fun v => if 8 ≤ v.length then 2 else 1 :=
    lastWrite_eq_lastValue optDns 4 (fun v => if 8 ≤ v.length then 2 else 1) items
  simp only [dnsEntries, storeWrites]
  rw [first, second, count]
  cases last : lastValue optDns 4 items with
  | none =>
      have none_longer : lastValue optDns 8 items = none := by
        rw [lastValue, lastWrite_eq_none_iff] at last ⊢
        intro item member
        have unwritten := last item member
        rw [ite_eq_right_iff] at unwritten ⊢
        intro written
        exact unwritten ⟨written.1, Nat.le_trans (by decide) written.2⟩
      rw [none_longer]
      rfl
  | some v =>
      by_cases long : 8 ≤ v.length
      · rw [lastValue_longer (by decide) last long]
        simp only [Option.map_some, Option.getD_some, if_pos long]
        rfl
      · simp only [Option.map_some, Option.getD_some, if_neg long]
        rfl

/-- Storing options one after the other is applying them in order. -/
theorem applied_foldl (d : AtDhcp) (items : List Item) :
    Applied d items
      (items.foldl (fun s item => storeOption s.1 s.2 item.tag item.value) (d, 0)) where
  inOrder := rfl
  ignored := foldl_known items (d, 0)
  message := by
    rw [foldl_storeOption]
    exact congrArg (·.getD 0) (lastWrite_eq_lastValue optType 1 (byteAt · 0) items)
  server := by
    rw [foldl_storeOption]
    exact congrArg (·.getD d.server) (lastWrite_eq_lastValue optServer 4 (rd32le · 0) items)
  subnet := by
    rw [foldl_storeOption]
    exact congrArg (·.getD d.netmask) (lastWrite_eq_lastValue optSubnet 4 (rd32le · 0) items)
  router := by
    rw [foldl_storeOption]
    exact congrArg (·.getD d.router) (lastWrite_eq_lastValue optRouter 4 (rd32le · 0) items)
  lease := by
    rw [foldl_storeOption]
    exact congrArg (·.getD d.leaseSecs) (lastWrite_eq_lastValue optLease 4 (rd32be · 0) items)
  t1 := by
    rw [foldl_storeOption]
    exact congrArg (·.getD d.t1Secs) (lastWrite_eq_lastValue optT1 4 (rd32be · 0) items)
  t2 := by
    rw [foldl_storeOption]
    exact congrArg (·.getD d.t2Secs) (lastWrite_eq_lastValue optT2 4 (rd32be · 0) items)
  dnsCount := by
    rw [foldl_storeOption]
    exact congrArg (·.getD d.dnsN) (lastWrite_eq_lastValue optDns 4
      (fun v => if 8 ≤ v.length then 2 else 1) items)
  dns := by
    rw [foldl_storeOption]
    exact dnsEntries_storeWrites d items
  others := by
    rw [foldl_storeOption]
    rfl

/-! ## The parser -/

/-- The options of complete areas are applied in order, whatever follows. -/
theorem parseOptions_complete {area tail : Bytes} {items : List Item}
    (complete : Complete optPad optEnd area items) (ends : Ends optEnd tail) (d : AtDhcp) :
    Applied d items (parseOptions d (area ++ tail)) := by
  have different : optEnd ≠ optPad := by decide
  rw [parseOptions, parseOptionsFrom_eq_foldl, complete.decode_append different,
    ends.decode_nil different, List.append_nil]
  exact applied_foldl d items

/-- **Option parsing.**  Options between padding, in front of the end tag or of the
end of the buffer, are applied in order.  Of an arbitrary byte string the options of
the longest complete prefix are, within one round for each byte and without a read
outside. -/
theorem parseOptions_applies :
    (∀ d area items tail, Complete optPad optEnd area items → Ends optEnd tail →
      Applied d items (parseOptions d (area ++ tail))) ∧
    ∀ d opt, parseOptionsChecked opt (opt.length + 1) 0 d 0 = some (parseOptions d opt) ∧
      ∃ front items rest, opt = front ++ rest ∧ Complete optPad optEnd front items ∧
        (∀ other more behind, opt = other ++ behind → Complete optPad optEnd other more →
          other.length ≤ front.length) ∧
        parseOptions d opt = parseOptions d front ∧ Applied d items (parseOptions d opt) := by
  constructor
  · intro d area items tail complete ends
    exact parseOptions_complete complete ends d
  · intro d opt
    have different : optEnd ≠ optPad := by decide
    constructor
    · exact parseOptionsChecked_eq opt (Nat.zero_le _) (by omega) d 0
    rcases exists_stuck optPad optEnd opt with
      ⟨front, items, rest, rfl, complete, stuck⟩
    have whole : parseOptions d (front ++ rest) = parseOptions d front := by
      have decoded := complete.decode_append different []
      rw [List.append_nil, decode_nil] at decoded
      rw [parseOptions, parseOptions, parseOptionsFrom_eq_foldl, parseOptionsFrom_eq_foldl,
        complete.decode_append different, stuck.decode_nil different, decoded]
    refine ⟨front, items, rest, rfl, complete, ?_, whole, ?_⟩
    · intro other more behind split shorter
      exact complete.le_of_stuck stuck shorter split
    · rw [whole, ← List.append_nil front]
      exact parseOptions_complete complete (.inl rfl) d

/-- Two options with padding between them, the end tag and one more byte. -/
theorem parseOptions_applies_padded :
    Applied (atDhcpCreate #v[2, 0, 0, 0, 0, 1] 7) [⟨53, [2]⟩, ⟨6, [8, 8, 8, 8]⟩]
      (parseOptions (atDhcpCreate #v[2, 0, 0, 0, 0, 1] 7)
        ([53, 1, 2, 0, 6, 4, 8, 8, 8, 8] ++ [255, 9])) := by
  apply parseOptions_applies.1
  · exact .option ⟨53, [2]⟩ ⟨by decide, by decide, by decide⟩
      (.pad (.option ⟨6, [8, 8, 8, 8]⟩ ⟨by decide, by decide, by decide⟩ .nil))
  · exact .inr ⟨[9], rfl⟩

end WiredTethering.Dhcp
