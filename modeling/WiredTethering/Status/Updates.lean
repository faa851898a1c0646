import WiredTethering.Status.Channel

/-!
# What the app is told

While no write fails, the events of a session are the messages of all threads, each once, in
the order in which they took the lock.
-/

namespace WiredTethering.Status

open WiredTethering.Memory
open WiredTethering.Common
open WiredTethering.Json
open WiredTethering.Text
open WiredTethering.Transition
open WiredTethering.Concurrent
open WiredTethering.App

/-! ## The lines of `cmd_connect` -/

/-- A status that has nothing but a state and an error. -/
def lastStatus (state : ConnectionState) (error : String) : EngineStatus :=
  { state, error }

theorem statusWord_plain : ∀ c ∈ "status".toList, IsPlain c := by decide

theorem stateKey_plain : ∀ c ∈ "state".toList, IsPlain c := by decide

theorem idleWord_plain : ∀ c ∈ "idle".toList, IsPlain c := by decide

theorem errorWord_plain : ∀ c ∈ "error".toList, IsPlain c := by decide

def statusType : Field :=
  wordField "type" "status".toList typeKey_plain statusWord_plain

def idleLast : Field :=
  wordField "state" "idle".toList stateKey_plain idleWord_plain

def errorState : Field :=
  wordField "state" "error".toList stateKey_plain errorWord_plain

def errorLast (error : List Char) : Field :=
  stringField "error" error errorWord_plain

theorem lastText_idle : lastText none = utf8 (objectText [statusType] idleLast) := by
  rw [lastText, cstr_eq]
  rfl

theorem lastText_error (error : List Char) {src : Bytes}
    (whole : escapeInto src 512 = utf8 (escapedScalars error)) :
    lastText (some src) = utf8 (objectText [statusType, errorState] (errorLast error)) := by
  have shape : objectText [statusType, errorState] (errorLast error) =
      "\x7b\"type\":\"status\",\"state\":\"error\",\"error\":\"".toList ++ escapedScalars error ++
        "\"\x7d".toList := by
    simp only [objectText, statusType, errorState, errorLast, printFront, Field.print,
      stringField, wordField, memberText, List.flatMap_cons, List.flatMap_nil,
      List.append_assoc, List.cons_append, List.nil_append, String.reduceToList]
  rw [lastText, whole, shape, utf8_append, utf8_append, cstr_eq, cstr_eq]

theorem parseStatus_idle (bridge : RealBridge) :
    parseStatus bridge ([statusType].map Field.entry ++ [idleLast.entry]) =
      some (lastStatus .idle "") := by
  simp [parseStatus, statusType, idleLast, Field.entry, wordField, member, List.lookup_cons,
    asString, uint64, ConnectionState.ofRaw, lastStatus]

theorem parseStatus_error (bridge : RealBridge) (error : List Char) :
    parseStatus bridge ([statusType, errorState].map Field.entry ++ [(errorLast error).entry]) =
      some (lastStatus .error (String.ofList error)) := by
  simp [parseStatus, statusType, errorState, errorLast, Field.entry, wordField, stringField,
    member, List.lookup_cons, asString, uint64, ConnectionState.ofRaw, lastStatus]

theorem parseEngineLine_object (bridge : RealBridge) {front : List Field} {last : Field}
    {status : EngineStatus} {blank : List Char} (isBlank : skipSpace blank = [])
    (type : asString (member (front.map Field.entry ++ [last.entry]) "type") = some "status")
    (parsed : parseStatus bridge (front.map Field.entry ++ [last.entry]) = some status) :
    parseEngineLine bridge (String.ofList (objectText front last ++ blank)) =
      some (some (.status status)) := by
  rw [parseEngineLine, String.toList_ofList, jsonObject_objectText _ _ isBlank]
  dsimp only
  rw [type]
  dsimp only
  rw [if_neg (by decide), if_pos rfl, parsed]
  rfl

/-! ## Events -/

/-- What the app shows of a message whose texts leave a byte to spare. -/
inductive Shown : Message → EngineLine → Prop
  | log (level : AtLogLevel) {message : String} (spare : Spare (cstr message) 1024) :
      Shown (.log level (cstr message)) (.log level.name message)
  | engine {e : EngineView} {pid : Int32} {iface ip gateway dns error : String}
      (positive : 0 < pid) (texts : Texts e iface ip gateway dns error) :
      Shown (.engine e pid) (.status (shownStatus e pid.toInt iface ip gateway dns error))
  | idle : Shown (.ended none) (.status (lastStatus .idle ""))
  | failed {error : String} (spare : Spare (cstr error) 512) :
      Shown (.ended (some (cstr error))) (.status (lastStatus .error error))

theorem Shown.read (bridge : RealBridge) {m : Message} {line : EngineLine}
    (shown : Shown m line) :
    ∃ raw, textOf m.text = some raw ∧ parseEngineLine bridge raw = some (some line) := by
  cases shown with
  | log level spare =>
      rw [Message.text, escapeInto_spare spare]
      exact (atStatusLog_readsAs bridge level spare).read
  | engine positive texts =>
      rw [Message.text, escapeInto_spare texts.ifaceSpare, escapeInto_spare texts.ipSpare,
        escapeInto_spare texts.gatewaySpare, escapeInto_spare texts.dnsSpare,
        escapeInto_spare texts.errorSpare]
      exact (atStatusEngine_readsAs bridge positive texts).read
  | idle =>
      have parsed := parseEngineLine_object bridge skipSpace_nil rfl (parseStatus_idle bridge)
      rw [List.append_nil] at parsed
      refine ⟨_, ?_, parsed⟩
      rw [Message.text, lastText_idle, textOf_utf8]
  | @failed error spare =>
      have parsed := parseEngineLine_object bridge skipSpace_nil rfl
        (parseStatus_error bridge error.toList)
      rw [List.append_nil, String.ofList_toList] at parsed
      refine ⟨_, ?_, parsed⟩
      rw [Message.text, lastText_error error.toList (spare_written spare), textOf_utf8]

/-- The line of a shown message gives its event. -/
theorem Shown.dispatch (bridge : RealBridge) {m : Message} {line : EngineLine}
    (shown : Shown m line) :
    ∃ scalars, decodeUtf8 m.text = some scalars ∧
      App.dispatch bridge scalars = some (some line.event) := by
  obtain ⟨raw, decoded, parsed⟩ := shown.read bridge
  obtain ⟨scalars, utf8_, rfl⟩ := Option.map_eq_some_iff.mp decoded
  refine ⟨scalars, utf8_, ?_⟩
  rw [App.dispatch, parsed]
  rfl

theorem lineEvents_shown (bridge : RealBridge) {messages : List Message}
    {lines : List EngineLine} (shown : List.Forall₂ Shown messages lines) :
    lineEvents bridge ((messages.map Message.text).filterMap decodeUtf8) =
      (lines.map EngineLine.event, true) := by
  induction shown with
  | nil => rfl
  | cons here _ ih =>
      obtain ⟨scalars, decoded, event⟩ := here.dispatch bridge
      rw [List.map_cons, List.filterMap_cons_some decoded, lineEvents, event]
      dsimp only
      rw [ih]
      rfl

/-! ## Sessions without a failed write -/

variable {T : Type}

theorem arrivals_accepted {calls : List (T × Message × Reply)} {pieces : List (Piece T)}
    (answered : List.Forall₂ Answered calls pieces)
    (accepted : ∀ call ∈ calls, call.2.2 = .code 0) :
    arrivals [] pieces = calls.map fun call => call.2.1.text := by
  induction answered with
  | nil => rfl
  | @cons call p calls pieces here _ ih =>
      rw [List.forall_mem_cons] at accepted
      obtain ⟨-, message, leaves⟩ := here
      have whole : p.put = p.message.line := by
        rw [accepted.1] at leaves
        exact leaves.whole_of_accepted
      rw [arrivals, if_pos whole, ih accepted.2, List.nil_append, message]
      rfl

/-- The events of the session are the messages of all threads, each once and in the order of
their calls, and then its end. -/
theorem updates_arrive [DecidableEq T] (bridge : RealBridge) (fd : Fd)
    (calls : T → List StatusCall) {turns : List (Turn T Written)}
    {s : Scene Channel StatusCall Sending Reply T} {lines : List EngineLine}
    (ran : run channel.turn (.start (.opened fd) calls) turns = some s) (idle : s.inside = none)
    (accepted : ∀ call ∈ emitted s.returned, call.2.2 = .code 0)
    (shown : List.Forall₂ Shown ((emitted s.returned).map fun call => call.2.1) lines)
    (arrived : Reads s.object.sent) :
    sessionEvents bridge arrived.reads = lines.map EngineLine.event ++ [.closed] := by
  obtain ⟨done, now, delivered⟩ := Delivered.of_explained (Monitor.run_explained ran)
  have alone : now = [] := by
    rcases delivered.current with none_ | ⟨p, at_, inside, -⟩
    · exact none_
    · rw [idle] at inside
      cases inside
  subst alone
  have cut := cutLines_pieces List.not_mem_nil delivered.isPrefix
  rw [List.nil_append, ← delivered.wire, List.append_nil,
    arrivals_accepted delivered.answered accepted] at cut
  have texts : ((emitted s.returned).map fun call => call.2.1.text) =
      ((emitted s.returned).map fun call => call.2.1).map Message.text := by
    rw [List.map_map]
    rfl
  rw [sessionEvents, arrived.readLines, cut, texts, lineEvents_shown bridge shown]
  rfl

/-- Both lines are written, in several pieces, and the channel is closed. -/
def shortWrites : List (Turn Bool Written) :=
  [.lock true, .inside (.wrote 7), .inside .interrupted, .inside (.wrote 38), .unlock,
    .lock false, .inside (.wrote 20), .inside (.wrote 13), .unlock, .lock false, .unlock]

theorem updates_arrive_short :
    ∃ s, run channel.turn (.start (.opened .socket) twoThreads) shortWrites = some s ∧
      ∀ arrived : Reads s.object.sent, sessionEvents noReals arrived.reads =
        [.log "info" "up", .status (lastStatus .idle ""), .closed] := by
  obtain ⟨s, ran⟩ : ∃ s, run channel.turn (.start (.opened .socket) twoThreads) shortWrites =
      some s :=
    Option.isSome_iff_exists.mp (by decide +kernel)
  have observed : (run channel.turn (.start (.opened .socket) twoThreads) shortWrites).map
      (fun s => (s.inside.isNone, emitted s.returned)) =
        some (true, [(true, .log .info (cstr "up"), .code 0), (false, .ended none, .code 0)]) := by
    decide +kernel
  rw [ran, Option.map_some, Option.some.injEq, Prod.mk.injEq] at observed
  obtain ⟨idle, sent⟩ := observed
  refine ⟨s, ran, fun arrived => ?_⟩
  have shown : List.Forall₂ Shown ((emitted s.returned).map fun call => call.2.1)
      [.log "info" "up", .status (lastStatus .idle "")] := by
    rw [sent]
    exact .cons (.log .info (by decide)) (.cons .idle .nil)
  have accepted : ∀ call ∈ emitted s.returned, call.2.2 = .code 0 := by
    rw [sent]
    decide
  exact updates_arrive noReals .socket twoThreads ran (Option.isNone_iff_eq_none.mp idle)
    accepted shown arrived

end WiredTethering.Status
