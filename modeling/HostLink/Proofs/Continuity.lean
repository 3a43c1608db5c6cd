import HostLink.Proofs.Runs

/-!
# Replies go on

A reply is never taken away, and its state only goes on: what has happened to it stays, and a holder
who let go of it stays away.  `Reply.Follows` relates two states of one reply, `Bridge.Continues`
two states of all replies of a bridge, and every operation continues the bridge
(`Station.continues_run`).
-/

namespace HostLink

/-- A later state of a reply: who let go of it stays away, and what has happened to it stays. -/
structure Reply.Follows (earlier later : Reply) : Prop where
  held : later.held = true → earlier.held = true
  progress : earlier.progress ≠ .waiting → later.progress = earlier.progress

namespace Reply.Follows

theorem refl (reply : Reply) : reply.Follows reply := ⟨fun h => h, fun _ => rfl⟩

theorem trans {first second third : Reply} (h : first.Follows second) (h' : second.Follows third) :
    first.Follows third := by
  refine ⟨h.held ∘ h'.held, fun hdecided => ?_⟩
  have hsame := h.progress hdecided
  rw [← hsame]
  exact h'.progress (hsame ▸ hdecided)

theorem settle (reply : Reply) (outcome : Outcome) : reply.Follows (reply.settle outcome) := by
  refine ⟨fun h => by rwa [settle_held] at h, fun hdecided => ?_⟩
  rw [settle_of_ne_waiting hdecided]

theorem abandon (reply : Reply) : reply.Follows reply.abandon := by
  unfold Reply.abandon
  split
  · next hwaiting => exact ⟨fun h => h, fun hdecided => absurd hwaiting hdecided⟩
  · exact refl reply

end Reply.Follows

namespace Bridge

variable {κ : Type}

/-- In the second state of a bridge every reply of the first goes on. -/
def Continues (bridge after : Bridge κ) : Prop :=
  ∀ (ticket : Ticket) (reply : Reply), bridge.replies[ticket]? = some reply →
    ∃ later, after.replies[ticket]? = some later ∧ reply.Follows later

namespace Continues

theorem refl (bridge : Bridge κ) : Continues bridge bridge :=
  fun _ reply h => ⟨reply, h, .refl reply⟩

theorem trans {first second third : Bridge κ} (h : Continues first second)
    (h' : Continues second third) : Continues first third := by
  intro ticket reply hreply
  obtain ⟨middle, hmiddle, hfollows⟩ := h ticket reply hreply
  obtain ⟨last, hlast, hfollows'⟩ := h' ticket middle hmiddle
  exact ⟨last, hlast, hfollows.trans hfollows'⟩

/-- A change of one reply, if the new state follows from the old. -/
theorem of_modify {bridge after : Bridge κ} {ticket : Ticket} {f : Reply → Reply}
    (h : after.replies = bridge.replies.modify ticket f)
    (hf : ∀ reply : Reply, reply.Follows (f reply)) : Continues bridge after := by
  intro other reply hreply
  rw [h, List.getElem?_modify, hreply]
  refine ⟨_, rfl, ?_⟩
  beta_reduce
  split
  · exact hf reply
  · exact .refl reply

theorem settleWith (bridge : Bridge κ) (settler : Settler) (outcome : Outcome) :
    Continues bridge (bridge.settleWith settler outcome).1 := by
  cases hsettled : settler.settled with
  | true => simpa [Bridge.settleWith, Settler.settle, hsettled] using refl bridge
  | false =>
    rw [settleWith_eq hsettled]
    exact of_modify rfl fun reply => .settle reply outcome

theorem expireOverdue (bridge : Bridge κ) (now : Instant) :
    Continues bridge (bridge.expireOverdue now).1 := by
  have hfail (settlers : List Settler) (b : Bridge κ) :
      Continues b (b.failExpired settlers).1 := by
    induction settlers generalizing b with
    | nil => exact refl b
    | cons settler rest ih => exact (settleWith b settler _).trans (ih _)
  exact hfail _ { bridge with pending := (bridge.pending.takeExpired now).2 }

theorem answered (bridge : Bridge κ) (id : CorrelationId) (outcome : Outcome) :
    Continues bridge (bridge.answered id outcome) := by
  unfold Bridge.answered
  split
  · next settler pending _ => exact settleWith { bridge with pending } settler outcome
  · exact refl bridge

theorem poll (bridge : Bridge κ) (now : Instant) (ticket : Ticket) :
    Continues bridge (bridge.poll now ticket).2.1 := by
  cases hreply : bridge.replies[ticket]? with
  | none =>
    rw [poll_of_none hreply]
    exact refl bridge
  | some reply =>
    cases hready : reply.outcome? now with
    | none =>
      rw [poll_of_pending hreply hready]
      exact of_modify rfl fun reply =>
        ⟨fun h => by rwa [Reply.watch_held] at h, fun _ => Reply.watch_progress reply⟩
    | some outcome =>
      rw [poll_of_ready hreply hready]
      exact of_modify rfl fun reply => ⟨fun h => absurd h Bool.false_ne_true, fun _ => rfl⟩

theorem close (bridge : Bridge κ) : Continues bridge bridge.close := by
  have hdrop (entries : List PendingEntry) (b : Bridge κ) :
      Continues b { b with
        replies := entries.foldl (fun replies entry => entry.settler.drop replies) b.replies } := by
    induction entries generalizing b with
    | nil => exact refl b
    | cons entry rest ih =>
      refine trans ?_ (ih { b with replies := entry.settler.drop b.replies })
      cases hsettled : entry.settler.settled with
      | true =>
        simp only [Settler.drop, hsettled]
        exact refl b
      | false =>
        simp only [Settler.drop, hsettled]
        exact of_modify rfl .abandon
  exact hdrop _ bridge

/-- More replies, whatever else changes. -/
theorem of_append {bridge after : Bridge κ} {added : List Reply}
    (h : after.replies = bridge.replies ++ added) : Continues bridge after := by
  intro ticket reply hreply
  have hlt := (List.getElem?_eq_some_iff.1 hreply).1
  exact ⟨reply, by rw [h, List.getElem?_append_left hlt, hreply], .refl reply⟩

theorem arm (bridge : Bridge κ) (now : Instant) (ticket : Ticket) (timeout : Nanoseconds) :
    Continues bridge (bridge.arm now ticket timeout) :=
  of_modify (Bridge.replies_arm _ _ _ _) fun _ => ⟨fun h => h, fun _ => rfl⟩

theorem send (bridge : Bridge κ) (transport : Transport) (now : Instant) (command : String)
    (payload : Datum) (timeout : Option Nanoseconds) :
    Continues bridge (bridge.send transport now command payload timeout).bridge := by
  have huntimed : Continues bridge (bridge.sendUntimed transport command payload).bridge := by
    have hopened : Continues bridge bridge.openRequest.2 := of_append rfl
    unfold sendUntimed
    split
    · unfold postRequest
      dsimp only
      split
      · exact hopened
      · rw [withdraw_eq]
        exact hopened.trans (answered _ _ _)
    · exact of_append rfl
  simp only [Bridge.send]
  split
  · exact huntimed.trans (arm _ _ _ _)
  · exact huntimed

end Continues
end Bridge

namespace Station

variable {κ : Type}

theorem continues_perform (station : Station κ) (operation : Operation κ) :
    station.bridge.Continues (station.perform operation).bridge := by
  cases operation with
  | send command payload timeout => exact .send _ _ _ _ _ _
  | receive text =>
    simp only [perform, Bridge.receive]
    split
    · dsimp only
      rw [Bridge.settle_eq]
      exact (Bridge.Continues.expireOverdue _ _).trans (.answered _ _ _)
    · exact .refl _
    · exact .refl _
    · exact .refl _
  | subscribe event callback =>
    obtain ⟨registry, heq⟩ := subscribe_bridge station.bridge station.transport event callback
    rw [show (station.perform (.subscribe event callback)).bridge = _ from heq]
    exact .refl station.bridge
  | pendingCount => exact .expireOverdue _ _
  | isPending id => exact .expireOverdue _ _
  | poll ticket => exact .poll _ _ _
  | arm ticket timeout => exact .arm _ _ _ _
  | release ticket =>
    exact .of_modify rfl fun reply => ⟨fun h => absurd h Bool.false_ne_true, fun _ => rfl⟩
  | close => exact .close _
  | unsubscribe id => exact .refl station.bridge
  | sendSync command payload => exact .refl _
  | dispatch event payload => exact .refl _
  | advance time => exact .refl _
  | carry transport => exact .refl _

theorem continues_run (station : Station κ) (operations : List (Operation κ)) :
    station.bridge.Continues (station.run operations).bridge := by
  induction operations generalizing station with
  | nil => exact .refl _
  | cons operation rest ih => exact (continues_perform station operation).trans (ih _)

end Station
end HostLink
