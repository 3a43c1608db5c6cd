import HostLink.Bridge.Outbound
import HostLink.Proofs.RequestText

/-!
# The header of an uncorrelated command

A command that is answered in place, or that activates an event, is not a request: its message has a
command and no correlation id.  The payload shares one space of names with the header, so the
question is what a payload can do to it.

To the command it can do nothing, for the command is put in last.  The correlation field, however,
is neither put in nor taken out.  `Command.notification_header` says what the native side reads: the
id is absent exactly if the payload has no field of that name, and two payloads give the same header
exactly if they agree at that one name.  The activation of an event is safe, since its payload is
the event's name alone.  `Command.notification_poses_as_request` is the other side: a payload that
holds an id makes the message of an uncorrelated command the message of a request, character by
character.
-/

namespace HostLink

/-! ## Headers -/

/-- What the native side goes by in a message: the command, and the id that a reply has to
repeat. -/
structure Header where
  command : Option Json
  correlation : Option Json

namespace Header

/-- The header of a message. -/
def ofJson (wire : WireFormat) (message : Json) : Header :=
  ⟨message.member? wire.commandField, message.member? wire.correlationField⟩

/-- The header that a reader who goes `limit` levels deep finds in a text. -/
def read? (wire : WireFormat) (limit : Nat) (text : String) : Option Header :=
  (Json.parseWithin limit text).toOption.map (ofJson wire)

/-- The header of a command that is no request. -/
def uncorrelated (name : String) : Header := ⟨some (.str name), none⟩

end Header

/-- Fields that travel in a message with `limit` further levels: sorted, canonical, and nested no
deeper than that. -/
structure Fields.Fit (limit : Nat) (fields : Fields Json) : Prop where
  sorted : Fields.Sorted fields
  members : ∀ member ∈ fields, member.2.Fits limit

/-! ## The members of an uncorrelated command -/

namespace Command

variable {wire : WireFormat}

theorem lookup_command_notification (wire : WireFormat) (name : String) (payload : Fields Json) :
    Fields.lookup wire.commandField ((notification name payload).members wire) =
      some (.str name) := by
  simp [members, notification, Fields.lookup_insert]

theorem lookup_other_notification {other : String} (hother : wire.commandField ≠ other)
    (name : String) (payload : Fields Json) :
    Fields.lookup other ((notification name payload).members wire) =
      Fields.lookup other payload := by
  simp [members, notification, Fields.lookup_insert, hother]

theorem fits_notification (wire : WireFormat) (name : String) {limit : Nat} {payload : Fields Json}
    (fit : payload.Fit limit) :
    (Json.obj ((notification name payload).members wire)).Fits (limit + 1) := by
  apply Json.fits_obj
  · exact fit.sorted.insert _ _
  · exact Json.fits_insert (Json.fits_str _ _) fit.members

/-- The native side reads the command, and what the payload has in the correlation field. -/
theorem read?_notification (distinct : wire.commandField ≠ wire.correlationField) (name : String)
    {limit : Nat} {payload : Fields Json} (fit : payload.Fit limit) :
    Header.read? wire (limit + 1) ((notification name payload).text wire) =
      some ⟨some (.str name), Fields.lookup wire.correlationField payload⟩ := by
  obtain ⟨canonical, depth⟩ := fits_notification wire name fit
  unfold Header.read? text
  rw [Json.parseWithin_compact canonical depth]
  simp only [Except.toOption, Option.map_some, Header.ofJson, Json.member?,
    lookup_command_notification, lookup_other_notification distinct]

/-- An uncorrelated command whose payload holds an id where a request has it is that request. -/
theorem text_notification_of_id (distinct : wire.commandField ≠ wire.correlationField)
    (name : String) {payload : Fields Json} (sorted : Fields.Sorted payload) {id : CorrelationId}
    (hid : Fields.lookup wire.correlationField payload = some (id.encode wire.idFormat)) :
    (notification name payload).text wire = (request name id payload).text wire := by
  have hmembers : (notification name payload).members wire =
      (request name id payload).members wire := by
    refine Fields.ext_lookup (sorted.insert _ _) (sorted_members wire name id sorted) ?_
    intro other
    by_cases hcorrelation : wire.correlationField = other
    · subst hcorrelation
      rw [lookup_other_notification distinct, lookup_correlationField, hid]
    · by_cases hcommand : wire.commandField = other
      · subst hcommand
        rw [lookup_command_notification, lookup_commandField distinct]
      · rw [lookup_other_notification hcommand,
          lookup_other (Ne.symm hcommand) (Ne.symm hcorrelation)]
  unfold text
  rw [hmembers]

end Command

/-! ## The commands that are no requests -/

namespace Bridge

/-- What the caller of a synchronous command makes of the answer. -/
def readAnswer (answer : String) : Except BridgeError Json :=
  (Json.parse answer).mapError fun error => .serialization (.text error)

/-- A synchronous command hands the text of a notification to the transport. -/
theorem sendSync_eq (config : Config) (transport : Transport) {command : String}
    (hcommand : command ≠ "") {payload : Datum} {fields : Fields Json}
    (hfields : payload.payloadFields = .ok fields) :
    sendSync config transport command payload =
      let answered := transport.sendSync ((Command.notification command fields).text config.wire)
      (answered.1.bind readAnswer, answered.2) := by
  have hempty : command.isEmpty = false := by simpa using hcommand
  simp only [sendSync, hempty, hfields]
  rcases transport.sendSync ((Command.notification command fields).text config.wire) with
    ⟨error | answer, after⟩
  · rfl
  · simp only [Except.bind, readAnswer]
    cases Json.parse answer <;> rfl

end Bridge

/-! ## The law -/

namespace Fields

theorem fit_singleton (name text : String) (limit : Nat) :
    Fit limit [(name, Json.str text)] := by
  refine ⟨List.pairwise_singleton _ _, ?_⟩
  intro member hmem
  rw [List.mem_singleton.1 hmem]
  exact Json.fits_str text limit

end Fields

namespace Command

/-- What the native side reads in the header of a command that is no request.  The command is the
caller's, whatever the payload holds.  The id is absent exactly if the payload has no field of its
name, so of two payloads the headers are equal exactly if the payloads agree there; and with an id
there the text is that of a request.  This is the text that a synchronous command hands to the
transport, and the activation of an event has no id. -/
theorem notification_header (wire : WireFormat)
    (distinct : wire.commandField ≠ wire.correlationField) (name : String) {limit : Nat}
    {p q : Fields Json} (hp : p.Fit limit) (hq : q.Fit limit) :
    let text (payload : Fields Json) := (notification name payload).text wire
    let read := Header.read? wire (limit + 1)
    read (text p) = some ⟨some (.str name), Fields.lookup wire.correlationField p⟩ ∧
    (read (text p) = some (.uncorrelated name) ↔ wire.correlationField ∉ Fields.names p) ∧
    (read (text p) = read (text q) ↔
      Fields.lookup wire.correlationField p = Fields.lookup wire.correlationField q) ∧
    (∀ id : CorrelationId,
      Fields.lookup wire.correlationField p = some (id.encode wire.idFormat) →
        text p = (request name id p).text wire) ∧
    (∀ (config : Config) (transport : Transport) (payload : Datum), config.wire = wire →
      name ≠ "" → payload.payloadFields = .ok p →
        Bridge.sendSync config transport name payload =
          ((transport.sendSync (text p)).1.bind Bridge.readAnswer,
            (transport.sendSync (text p)).2)) ∧
    ∀ (config : Config) (event : String), config.wire = wire →
      wire.eventField ≠ wire.correlationField →
        read (Bridge.activationText config event) =
          some (.uncorrelated config.activationCommand) := by
  intro text read
  have hread {payload : Fields Json} (fit : payload.Fit limit) (command : String) :
      read ((notification command payload).text wire) =
        some ⟨some (.str command), Fields.lookup wire.correlationField payload⟩ :=
    read?_notification distinct command fit
  refine ⟨hread hp name, ?_, ?_, ?_, ?_, ?_⟩
  · rw [hread hp name, ← Fields.lookup_eq_none_iff]
    simp [Header.uncorrelated]
  · rw [hread hp name, hread hq name]
    simp
  · intro id hid
    exact text_notification_of_id distinct name hp.sorted hid
  · intro config transport payload hwire hname hfields
    subst hwire
    exact Bridge.sendSync_eq config transport hname hfields
  · intro config event hwire hevent
    subst hwire
    rw [Bridge.activationText, hread (Fields.fit_singleton _ _ _)]
    simp [Header.uncorrelated, Fields.lookup, hevent]

/-- A payload with a field of either header name beside one with none. -/
theorem notification_header_of_hidden_id :
    let wire : WireFormat := {}
    let p : Fields Json := [("_promise_id", .null), ("cmd", .str "quit")]
    let q : Fields Json := [("storage", .arr [.bool true])]
    Header.read? wire 127 ((notification "getCPUInfo" p).text wire) =
        some ⟨some (.str "getCPUInfo"), some .null⟩ ∧
      Header.read? wire 127 ((notification "getCPUInfo" q).text wire) =
        some (.uncorrelated "getCPUInfo") ∧
      Header.read? wire 127 (Bridge.activationText {} "onattach") =
        some (.uncorrelated "addEventListener") := by
  intro wire p q
  have hp : p.Fit 126 := by
    refine ⟨by simp only [p, Fields.Sorted]; decide, ?_⟩
    simp only [p, List.forall_mem_cons]
    exact ⟨⟨trivial, by decide⟩, ⟨trivial, by decide⟩, List.forall_mem_nil _⟩
  have hq : q.Fit 126 := by
    refine ⟨List.pairwise_singleton _ _, ?_⟩
    simp only [q, List.forall_mem_cons]
    exact ⟨⟨⟨trivial, trivial⟩, by decide⟩, List.forall_mem_nil _⟩
  obtain ⟨hidden, -, -, -, -, activation⟩ :=
    notification_header wire (by decide) "getCPUInfo" hp hq
  obtain ⟨-, plain, -⟩ := notification_header wire (by decide) "getCPUInfo" hq hp
  exact ⟨hidden, plain.2 (by decide), activation {} "onattach" rfl (by decide)⟩

/-- All names of the wire format are distinct, and still a payload gives an uncorrelated command the
header of a request: the host that is to answer in place reads an id, in the very text of the
request. -/
theorem notification_poses_as_request :
    let wire : WireFormat := {}
    let payload : Fields Json := [("_promise_id", .str "0")]
    let host : Transport :=
      { id := "host", medium := .memory { responder := some { answer := .echo } } }
    (∀ a b : WireFormat.Slot, wire.field a = wire.field b → a = b) ∧
      Header.read? wire 127 ((notification "getCPUInfo" []).text wire) =
        some (.uncorrelated "getCPUInfo") ∧
      Header.read? wire 127 ((notification "getCPUInfo" payload).text wire) =
        some ⟨some (.str "getCPUInfo"), some (.str "0")⟩ ∧
      (notification "getCPUInfo" payload).text wire = (request "getCPUInfo" ⟨0⟩ []).text wire ∧
      (Bridge.sendSync {} host "getCPUInfo" (.json (.obj payload))).1 =
        .ok (.obj [("_promise_id", .str "0"), ("cmd", .str "getCPUInfo")]) := by
  intro wire payload host
  have fit : payload.Fit 126 := Fields.fit_singleton _ _ _
  have found : Fields.lookup wire.correlationField payload =
      some (CorrelationId.encode wire.idFormat ⟨0⟩) := by rfl
  refine ⟨?_, ?_, ?_, ?_, ?_⟩
  · intro a b h
    cases a <;> cases b <;> first | rfl | exact absurd h (by decide)
  · exact read?_notification (by decide) "getCPUInfo" ⟨List.Pairwise.nil, List.forall_mem_nil _⟩
  · exact read?_notification (by decide) "getCPUInfo" fit
  · rw [text_notification_of_id (by decide) "getCPUInfo" fit.sorted found]
    unfold text
    rw [members_congr wire "getCPUInfo" ⟨0⟩ List.Pairwise.nil fit.sorted]
    intro other _ hcorrelation
    exact if_neg (Ne.symm hcorrelation)
  · have hmembers : (notification "getCPUInfo" payload).members wire =
        [("_promise_id", .str "0"), ("cmd", .str "getCPUInfo")] := by
      simp only [members, notification, payload, Fields.insert]
      rw [if_neg (by decide), if_neg (by decide)]
    have hanswer : Bridge.readAnswer ((notification "getCPUInfo" payload).text wire) =
        .ok (.obj [("_promise_id", .str "0"), ("cmd", .str "getCPUInfo")]) := by
      obtain ⟨canonical, depth⟩ := fits_notification wire "getCPUInfo" fit
      unfold Bridge.readAnswer text
      rw [Json.parse_compact canonical depth, hmembers]
      rfl
    have hecho (message : String) : (host.sendSync message).1 = .ok message := rfl
    have hfields : (Datum.json (.obj payload)).payloadFields = .ok payload := rfl
    rw [Bridge.sendSync_eq {} host (by decide) hfields]
    simp only [hecho, Except.bind]
    exact hanswer

end Command
end HostLink
