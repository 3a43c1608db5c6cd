import HostLink.Proofs.Settling

/-!
# What sending a request does

Sending allocates an id, registers a request, posts it, takes it back if the post fails, and starts
the clock on the reply.  Of all these steps `Bridge.send_bridge` leaves one: the bridge gets one
more reply, which waits or has failed already, and the table gets one more entry exactly if the
reply waits.

The table must not hold the new id already.  It never does while ids do not repeat, which the
coherence of a bridge says in `HostLink.Proofs.Coherence`.
-/

namespace HostLink

namespace PendingTable

/-- A settler that was just registered is found under its id. -/
theorem entry?_register (table : PendingTable) (settler : Settler) :
    PendingTable.entry? (table.register settler) settler.id = some { settler := settler } := by
  have hnone : List.find? (fun entry => decide (entry.id = settler.id))
      (table.erase settler.id).entries = none := by
    simp [erase]
  unfold entry? register
  rw [List.find?_append, hnone]
  simp [PendingEntry.id]

/-- Registering and taking back leaves the rest of the table. -/
theorem erase_register (table : PendingTable) (settler : Settler) :
    (table.register settler).erase settler.id = table.erase settler.id := by
  simp [register, erase, PendingEntry.id]

theorem entries_register {table : PendingTable} {settler : Settler} (h : settler.id ∉ table.ids) :
    (table.register settler).entries = table.entries ++ [{ settler := settler }] := by
  rw [register, erase_of_not_mem h]

end PendingTable

/-- A reply of a longer list is an old one or the last one. -/
theorem Reply.of_getElem?_append {replies : List Reply} {last reply : Reply} {ticket : Ticket}
    (h : (replies ++ [last])[ticket]? = some reply) :
    replies[ticket]? = some reply ∨ ticket = replies.length ∧ last = reply := by
  rcases Nat.lt_trichotomy ticket replies.length with hlt | rfl | hgt
  · rw [List.getElem?_append_left hlt] at h
    exact .inl h
  · rw [List.getElem?_concat_length] at h
    exact .inr ⟨rfl, Option.some.inj h⟩
  · rw [List.getElem?_eq_none (by rw [List.length_append]; exact hgt)] at h
    cases h

namespace Bridge

variable {κ : Type}

/-- The error with which a request fails in place: it has no text, or the transport refuses it. -/
def sendError? (bridge : Bridge κ) (transport : Transport) (command : String) (payload : Datum) :
    Option BridgeError :=
  match encodeRequest bridge.config bridge.nextId command payload with
  | .error error => some error
  | .ok text =>
    match (transport.post text).1 with
    | .error error => some error
    | .ok () => none

/-- When a request sent at `now` expires. -/
def sendDeadline (bridge : Bridge κ) (now : Instant) (timeout : Option Nanoseconds) :
    Option Instant :=
  (timeout <|> bridge.config.requestTimeout).map (now + ·)

/-- The bridge with one more request.  The request has failed in place or waits; its reply expires
at `deadline`, and so does its entry if it waits. -/
def withRequest (bridge : Bridge κ) (failure : Option BridgeError) (deadline : Option Instant) :
    Bridge κ :=
  match failure with
  | some error =>
    { bridge with
      replies := bridge.replies ++
        [{ id := bridge.nextId, progress := .settled (.error error), deadline }] }
  | none =>
    { bridge with
      replies := bridge.replies ++ [{ id := bridge.nextId, deadline }]
      pending := ⟨bridge.pending.entries ++
        [{ settler := { id := bridge.nextId, ticket := bridge.replies.length }, deadline }]⟩ }

theorem modify_replies_append (bridge : Bridge κ) (reply : Reply) (f : Reply → Reply) :
    (bridge.replies ++ [reply]).modify bridge.replies.length f = bridge.replies ++ [f reply] := by
  rw [List.modify_eq_take_cons_drop (by simp)]
  simp

/-- A request that could not be posted leaves what a request without a text leaves. -/
theorem withdraw_openRequest {bridge : Bridge κ} (fresh : bridge.nextId ∉ bridge.pending.ids)
    (error : BridgeError) :
    (bridge.openRequest.2.withdraw bridge.nextId error).1 = bridge.sendRejected error := by
  have hfound : PendingTable.entry? bridge.openRequest.2.pending bridge.nextId =
      some { settler := { id := bridge.nextId, ticket := bridge.replies.length } } :=
    PendingTable.entry?_register bridge.pending
      { id := bridge.nextId, ticket := bridge.replies.length }
  have hrest := PendingTable.erase_register bridge.pending
    { id := bridge.nextId, ticket := bridge.replies.length }
  rw [PendingTable.erase_of_not_mem fresh] at hrest
  rw [withdraw_eq, answered_of_found hfound rfl]
  simp only [openRequest, Settler.channel, sendRejected]
  rw [modify_replies_append, hrest]
  rfl

/-- A request is open if it was posted, and otherwise has failed. -/
theorem sendUntimed_bridge {bridge : Bridge κ} (fresh : bridge.nextId ∉ bridge.pending.ids)
    (transport : Transport) (command : String) (payload : Datum) :
    (bridge.sendUntimed transport command payload).bridge =
      bridge.withRequest (bridge.sendError? transport command payload) none := by
  have hopened : bridge.openRequest.2 = bridge.withRequest none none := by
    simp only [openRequest, Settler.channel, withRequest]
    rw [← PendingTable.entries_register fresh]
  unfold sendUntimed sendError?
  cases encodeRequest bridge.config bridge.nextId command payload with
  | error error => rfl
  | ok text =>
    dsimp only
    unfold postRequest
    rcases transport.post text with ⟨_ | ⟨⟩, posted, log⟩
    · exact withdraw_openRequest fresh _
    · exact hopened

/-- Starting the clock on the newest request. -/
theorem arm_withRequest {bridge : Bridge κ} (fresh : bridge.nextId ∉ bridge.pending.ids)
    (failure : Option BridgeError) (now : Instant) (timeout : Nanoseconds) :
    (bridge.withRequest failure none).arm now bridge.replies.length timeout =
      bridge.withRequest failure (some (now + timeout)) := by
  have hrest : bridge.pending.setDeadline bridge.nextId (now + timeout) = bridge.pending :=
    PendingTable.setDeadline_of_not_mem fresh
  unfold arm
  cases failure with
  | some error =>
    simp only [withRequest, List.getElem?_concat_length]
    rw [modify_replies_append, hrest]
    rfl
  | none =>
    simp only [withRequest, List.getElem?_concat_length]
    rw [modify_replies_append]
    unfold PendingTable.setDeadline at hrest ⊢
    rw [List.map_append, PendingTable.mk.inj hrest]
    simp [Reply.expireAt, PendingEntry.id]

/-- Whether or not the id is new, sending adds one reply and leaves all but requests alone. -/
theorem sameAround_send (bridge : Bridge κ) (transport : Transport) (now : Instant)
    (command : String) (payload : Datum) (timeout : Option Nanoseconds) :
    SameAround (bridge.withRequest none none)
      (bridge.send transport now command payload timeout).bridge := by
  have huntimed : SameAround (bridge.withRequest none none)
      (bridge.sendUntimed transport command payload).bridge := by
    have hone (error : BridgeError) :
        SameAround (bridge.withRequest none none) (bridge.sendRejected error) :=
      ⟨rfl, rfl, rfl, by simp [withRequest, sendRejected]⟩
    have hopened : SameAround (bridge.withRequest none none) bridge.openRequest.2 :=
      ⟨rfl, rfl, rfl, by simp [withRequest, openRequest, Settler.channel]⟩
    unfold sendUntimed
    split
    · unfold postRequest
      dsimp only
      split
      · exact hopened
      · rw [withdraw_eq]
        exact hopened.trans (sameAround_answered _ _ _)
    · exact hone _
  simp only [send]
  split
  · exact huntimed.trans (sameAround_arm _ _ _ _)
  · exact huntimed

/-- What sending a request does to the bridge. -/
theorem send_bridge {bridge : Bridge κ} (fresh : bridge.nextId ∉ bridge.pending.ids)
    (transport : Transport) (now : Instant) (command : String) (payload : Datum)
    (timeout : Option Nanoseconds) :
    (bridge.send transport now command payload timeout).bridge =
      bridge.withRequest (bridge.sendError? transport command payload)
        (bridge.sendDeadline now timeout) := by
  simp only [send, sendDeadline]
  rw [sendUntimed_bridge fresh]
  cases timeout <|> bridge.config.requestTimeout with
  | none => rfl
  | some time => exact arm_withRequest fresh _ now time

end Bridge
end HostLink
