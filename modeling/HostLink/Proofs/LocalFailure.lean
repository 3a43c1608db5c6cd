import HostLink.Proofs.Registration
import HostLink.Proofs.Timeline

/-!
# Local failures

A call may fail before anything has left for the native side: its arguments are refused, its payload
has no JSON form, or the transport does not take its message.  `Bridge.SendFault` lists these faults
for requests, and `Station.failure_leaves_no_trace` proves that a call which fails in this way
leaves nothing behind but a used-up value of a counter.

Both operations act first and take back later: a request is registered before it is posted, and a
subscription is added before its event is activated.  So the interesting faults are those of the
post.  For a request there is a second one: its timeout starts on a reply that has failed already,
and must neither hide the error nor start a clock in the table.
-/

namespace HostLink

/-- A command that is answered in place takes nothing to the outbox. -/
theorem Transport.outbox_sendSync (transport : Transport) (message : String) :
    (transport.sendSync message).2.outbox = transport.outbox := by
  rcases transport with ⟨id, host | channel⟩
  · rcases host with ⟨outbox, offline, _ | responder⟩ <;> rfl
  · rfl

/-- A payload is refused if it has no JSON form, or one that is neither an object nor null. -/
theorem Datum.payloadFields_eq_error_iff {payload : Datum} {error : BridgeError} :
    payload.payloadFields = .error error ↔
      (∃ cause, payload.toJson = .error cause ∧ error = .serialization (.payload cause)) ∨
      ∃ value, payload.toJson = .ok value ∧ value ≠ .null ∧ (∀ members, value ≠ .obj members) ∧
        error = .invalidArgument (.payloadNotObject value) := by
  unfold payloadFields
  cases payload.toJson with
  | error cause => simp [eq_comm]
  | ok value => cases value <;> simp [eq_comm]

namespace Bridge

variable {κ : Type}

/-- Why a request fails in place, and with which error. -/
inductive SendFault (bridge : Bridge κ) (transport : Transport) (command : String)
    (payload : Datum) : BridgeError → Prop
  | emptyCommand (empty : command = "") :
      SendFault bridge transport command payload (.invalidArgument .emptyCommand)
  | unserializable {cause : PayloadError} (named : command ≠ "")
      (unwritten : payload.toJson = .error cause) :
      SendFault bridge transport command payload (.serialization (.payload cause))
  | notObject {value : Json} (named : command ≠ "") (written : payload.toJson = .ok value)
      (notNull : value ≠ .null) (notObject : ∀ members, value ≠ .obj members) :
      SendFault bridge transport command payload (.invalidArgument (.payloadNotObject value))
  | notPosted {text : String} {error : BridgeError}
      (encoded : encodeRequest bridge.config bridge.nextId command payload = .ok text)
      (refused : (transport.post text).1 = .error error) :
      SendFault bridge transport command payload error

variable {bridge : Bridge κ} {transport : Transport} {command : String} {payload : Datum}
  {error : BridgeError}

/-- A request has no text if its command is empty or its payload is refused. -/
theorem encodeRequest_eq_error_iff {config : Config} {id : CorrelationId} :
    encodeRequest config id command payload = .error error ↔
      command = "" ∧ error = .invalidArgument .emptyCommand ∨
      command ≠ "" ∧ payload.payloadFields = .error error := by
  by_cases named : command = ""
  · have hencoded : encodeRequest config id command payload =
        .error (.invalidArgument .emptyCommand) := by
      subst named
      rfl
    rw [hencoded]
    simp [named, eq_comm]
  · have hnamed : command.isEmpty = false := by simpa using named
    unfold encodeRequest
    rw [hnamed]
    cases payload.payloadFields with
    | error cause => simp [named, bind, Except.bind]
    | ok fields => simp [named, bind, Except.bind]

/-- The error of a request that fails in place is that of its fault. -/
theorem SendFault.sendError? (fault : bridge.SendFault transport command payload error) :
    bridge.sendError? transport command payload = some error := by
  have hunencoded (h : encodeRequest bridge.config bridge.nextId command payload = .error error) :
      bridge.sendError? transport command payload = some error := by
    rw [Bridge.sendError?, h]
  cases fault with
  | emptyCommand empty => exact hunencoded (encodeRequest_eq_error_iff.2 (.inl ⟨empty, rfl⟩))
  | unserializable named unwritten =>
    have hfields := Datum.payloadFields_eq_error_iff.2 (.inl ⟨_, unwritten, rfl⟩)
    exact hunencoded (encodeRequest_eq_error_iff.2 (.inr ⟨named, hfields⟩))
  | notObject named written notNull notObject =>
    have hfields := Datum.payloadFields_eq_error_iff.2
      (.inr ⟨_, written, notNull, notObject, rfl⟩)
    exact hunencoded (encodeRequest_eq_error_iff.2 (.inr ⟨named, hfields⟩))
  | notPosted encoded refused => simp [Bridge.sendError?, encoded, refused]

/-- A request that fails in place leaves the transport as it was. -/
theorem transport_send_of_fault (fault : bridge.sendError? transport command payload = some error)
    (now : Instant) (timeout : Option Nanoseconds) :
    (bridge.send transport now command payload timeout).transport = transport := by
  unfold sendError? at fault
  simp only [send, sendUntimed]
  split at fault
  · next hencoded => rw [hencoded]
  · next text hencoded =>
    rw [hencoded]
    split at fault
    · next hpost =>
      have htransport := Transport.post_of_error hpost
      rcases hposted : transport.post text with ⟨result, after, log⟩
      rw [hposted] at hpost htransport
      obtain rfl : result = _ := hpost
      simp only [postRequest, hposted]
      exact htransport
    · cases fault

/-- A command that is answered in place leaves the outbox as it was, whatever the answer. -/
theorem outbox_sendSync (config : Config) (transport : Transport) (command : String)
    (payload : Datum) :
    (sendSync config transport command payload).2.outbox = transport.outbox := by
  unfold sendSync
  split
  · rfl
  · split
    · rfl
    · next fields _ =>
      have houtbox := transport.outbox_sendSync
        ((Command.notification command fields).text config.wire)
      split
      · next hsent => rwa [hsent] at houtbox
      · next hsent =>
        rw [hsent] at houtbox
        split <;> exact houtbox

end Bridge

namespace Station

variable {κ : Type}

/-- The request fails in place.  There is one more reply, which is ready with the error however late
one looks at it, and an id is used up; all else is as it was. -/
structure FailsInPlace (station : Station κ) (command : String) (payload : Datum)
    (timeout : Option Nanoseconds) (error : BridgeError) : Prop where
  ready : ∀ later : List (Operation κ),
    let final := (station.perform (.send command payload timeout)).run later
    (final.bridge.poll final.now station.bridge.replies.length).1 = some (.error error)
  replies : ∃ reply : Reply, reply.id = station.bridge.nextId ∧
    (station.perform (.send command payload timeout)).bridge =
      { station.bridge with replies := station.bridge.replies ++ [reply] }
  nextId : (station.perform (.send command payload timeout)).bridge.nextId.value =
    station.bridge.nextId.value + 1
  transport : (station.perform (.send command payload timeout)).transport = station.transport
  now : (station.perform (.send command payload timeout)).now = station.now

theorem failsInPlace_of_fault {station : Station κ}
    (fresh : station.bridge.nextId ∉ station.bridge.pending.ids) {command : String}
    {payload : Datum} {error : BridgeError}
    (fault : station.bridge.SendFault station.transport command payload error)
    (timeout : Option Nanoseconds) : station.FailsInPlace command payload timeout error := by
  have herror := fault.sendError?
  have hbridge : (station.perform (.send command payload timeout)).bridge =
      station.bridge.withRequest (some error) (station.bridge.sendDeadline station.now timeout) :=
    herror ▸ Bridge.send_bridge fresh station.transport station.now command payload timeout
  -- The reply is settled when its clock starts, so the deadline that it bears says nothing.
  have hdecided : (station.perform (.send command payload timeout)).Decided
      station.bridge.replies.length (.error error) := by
    rw [Decided, hbridge]
    exact ⟨_, List.getElem?_concat_length, rfl⟩
  refine ⟨fun later => poll_run_of_decided hdecided later, ⟨_, rfl, hbridge⟩, ?_,
    Bridge.transport_send_of_fault herror station.now timeout, rfl⟩
  rw [hbridge]
  simp [Bridge.nextId, Bridge.withRequest]

/-- A subscription under an invalid name changes nothing. -/
theorem subscribe_of_invalid_name (station : Station κ) {event : String} {cause : ArgumentError}
    (invalid : Registry.checkEventName event = .error cause) (callback : κ) :
    (station.bridge.subscribe station.transport event callback).answer =
        .error (.invalidArgument cause) ∧
      station.perform (.subscribe event callback) = station := by
  simp [perform, acted, Bridge.subscribe, invalid]

/-- A subscription whose activation is refused changes nothing but the counter. -/
theorem subscribe_of_refused_activation {station : Station κ}
    (numbered : station.bridge.registry.Numbered) {event : String} {error : BridgeError}
    (valid : Registry.checkEventName event = .ok ()) (first : ¬station.Listens event)
    (refused : (station.transport.post
      (Bridge.activationText station.bridge.config event)).1 = .error error) (callback : κ) :
    (station.bridge.subscribe station.transport event callback).answer = .error error ∧
      station.perform (.subscribe event callback) =
        { station with
          bridge := { station.bridge with
            registry := { station.bridge.registry with
              issued := station.bridge.registry.issued + 1 } } } := by
  have hsilent : station.bridge.registry.hasListener event = false := Bool.not_eq_true _ ▸ first
  obtain ⟨hanswer, hbridge, htransport⟩ :=
    Bridge.subscribe_of_refused station.bridge station.transport callback valid hsilent refused
  refine ⟨hanswer, ?_⟩
  have hregistry : (station.bridge.registry.insert event callback).2.erase
      (station.bridge.registry.insert event callback).1 =
        { station.bridge.registry with issued := station.bridge.registry.issued + 1 } := by
    have hsame := Registry.subscriptions_erase_insert numbered event callback
    exact congrArg (Registry.mk · (station.bridge.registry.issued + 1)) hsame
  simp only [perform, acted]
  rw [hbridge, htransport, hregistry]

/-- In every state that a run can reach: a request that fails in place is ready with its error for
good and uses up one id, a subscription under an invalid name changes nothing, one whose activation
is refused uses up one number, and a command that is answered in place takes nothing from the bridge
and nothing to the outbox, whatever the answer. -/
theorem failure_leaves_no_trace (config : Config) (transport : Transport) (now : Instant)
    (operations : List (Operation κ)) :
    let station : Station κ := (opened config transport now).run operations
    (operations.countP Operation.isSend < UInt64.size →
      ∀ command payload timeout error,
        station.bridge.SendFault station.transport command payload error →
          station.FailsInPlace command payload timeout error) ∧
    (∀ event callback cause, Registry.checkEventName event = .error cause →
      (station.bridge.subscribe station.transport event callback).answer =
          .error (.invalidArgument cause) ∧
        station.perform (.subscribe event callback) = station) ∧
    (∀ event callback error, Registry.checkEventName event = .ok () → ¬station.Listens event →
      (station.transport.post (Bridge.activationText config event)).1 = .error error →
        (station.bridge.subscribe station.transport event callback).answer = .error error ∧
          station.perform (.subscribe event callback) =
            { station with
              bridge := { station.bridge with
                registry := { station.bridge.registry with
                  issued := station.bridge.registry.issued + 1 } } }) ∧
    (∀ command payload,
      (station.perform (.sendSync command payload)).now = station.now ∧
        (station.perform (.sendSync command payload)).bridge = station.bridge ∧
        (station.perform (.sendSync command payload)).transport.outbox =
          station.transport.outbox) := by
  intro station
  refine ⟨fun few command payload timeout error fault => ?_, fun event callback cause invalid => ?_,
    fun event callback error valid first refused => ?_, fun command payload => ⟨rfl, rfl, ?_⟩⟩
  · have hroom : station.bridge.replies.length < UInt64.size := by
      rw [length_replies_run_opened]
      exact few
    have coherent : station.bridge.Coherent :=
      coherent_run_opened config transport now (Nat.le_of_lt few)
    exact failsInPlace_of_fault (coherent.fresh hroom) fault timeout
  · exact station.subscribe_of_invalid_name invalid callback
  · have inOrder : station.InOrder := inOrder_run_opened config transport now operations
    have hconfig : station.bridge.config = config := config_run _ operations
    rw [← hconfig] at refused
    exact subscribe_of_refused_activation inOrder.numbered valid first refused callback
  · exact Bridge.outbox_sendSync station.bridge.config station.transport command payload

/-- The host goes offline while one request waits: the next request fails in place, its timeout of
no length at all does not hide the error, and the first one goes on waiting. -/
theorem failure_leaves_no_trace_of_offline_host :
    let station : Station Unit :=
      (opened {} { id := "host", medium := .memory {} } 0).run
        [.send "first" .absent none,
          .carry { id := "host", medium := .memory { offline := true } }]
    let final := (station.perform (.send "second" .absent (some 0))).run [.advance 5]
    (final.bridge.poll final.now 1).1 = some (.error (.transport (.hostOffline "host"))) ∧
      (station.perform (.send "second" .absent (some 0))).bridge.pending =
        station.bridge.pending := by
  intro station final
  have encoded : Bridge.encodeRequest {} station.bridge.nextId "second" .absent =
      .ok "\x7b\"_promise_id\":\"1\",\"cmd\":\"second\"\x7d" := by
    cbv
  have fault : station.bridge.SendFault station.transport "second" .absent
      (.transport (.hostOffline "host")) := .notPosted encoded rfl
  obtain ⟨fails, -⟩ := failure_leaves_no_trace (κ := Unit) {}
    { id := "host", medium := .memory {} } 0 [.send "first" .absent none,
      .carry { id := "host", medium := .memory { offline := true } }]
  have failed := fails (by decide) "second" .absent (some 0) _ fault
  obtain ⟨reply, -, hbridge⟩ := failed.replies
  exact ⟨failed.ready [.advance 5], by rw [hbridge]⟩

end Station
end HostLink
