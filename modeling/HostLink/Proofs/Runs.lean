import HostLink.Proofs.Coherence

/-!
# Runs of a station

What every operation keeps, and so every run: the configuration stays, the clock never goes back, a
closed bridge stays closed, replies are only added, one by each send, and a coherent bridge stays
coherent while there are ids left.
-/

namespace HostLink
namespace Station

variable {κ : Type}

/-! ## One operation -/

/-- Apart from sending, subscribing and closing, an operation changes nothing around the requests of
the bridge. -/
theorem sameAround_perform (station : Station κ) (operation : Operation κ) :
    match operation with
    | .send .. => Bridge.SameAround (station.bridge.withRequest none none)
        (station.perform operation).bridge
    | .subscribe .. | .unsubscribe .. | .close => True
    | _ => Bridge.SameAround station.bridge (station.perform operation).bridge := by
  cases operation with
  | send command payload timeout => exact Bridge.sameAround_send _ _ _ _ _ _
  | receive text => exact Bridge.sameAround_receive _ _ _
  | pendingCount => exact Bridge.sameAround_expireOverdue _ _
  | isPending id => exact Bridge.sameAround_expireOverdue _ _
  | poll ticket => exact Bridge.sameAround_poll _ _ _
  | arm ticket timeout => exact Bridge.sameAround_arm _ _ _ _
  | release ticket => exact ⟨rfl, rfl, rfl, List.length_modify ..⟩
  | subscribe event callback => trivial
  | unsubscribe id => trivial
  | close => trivial
  | sendSync command payload => exact .refl _
  | dispatch event payload => exact .refl _
  | advance time => exact .refl _
  | carry transport => exact .refl _

/-- Subscribing touches the registry of the bridge alone. -/
theorem subscribe_bridge (bridge : Bridge κ) (transport : Transport) (event : String)
    (callback : κ) :
    ∃ registry, (bridge.subscribe transport event callback).bridge = { bridge with registry } := by
  unfold Bridge.subscribe
  split
  · exact ⟨bridge.registry, rfl⟩
  · dsimp only
    split
    · split <;> exact ⟨_, rfl⟩
    · exact ⟨_, rfl⟩

@[simp] theorem config_perform (station : Station κ) (operation : Operation κ) :
    (station.perform operation).bridge.config = station.bridge.config := by
  have h := station.sameAround_perform operation
  cases operation with
  | subscribe event callback =>
    obtain ⟨registry, heq⟩ := subscribe_bridge station.bridge station.transport event callback
    rw [show (station.perform (.subscribe event callback)).bridge = _ from heq]
  | unsubscribe id => rfl
  | close => rfl
  | _ => exact h.config

theorem live_of_live_perform {station : Station κ} {operation : Operation κ}
    (h : (station.perform operation).bridge.live = true) : station.bridge.live = true := by
  have hsame := station.sameAround_perform operation
  cases operation with
  | subscribe event callback =>
    obtain ⟨registry, heq⟩ := subscribe_bridge station.bridge station.transport event callback
    exact (congrArg Bridge.live heq).symm.trans h
  | unsubscribe id => exact h
  | close => exact absurd h Bool.false_ne_true
  | _ => exact hsame.live.symm.trans h

/-- Each send adds one reply, and nothing else adds or takes away any. -/
theorem length_replies_perform (station : Station κ) (operation : Operation κ) :
    (station.perform operation).bridge.replies.length =
      station.bridge.replies.length + if operation.isSend then 1 else 0 := by
  have hsame := station.sameAround_perform operation
  cases operation with
  | send command payload timeout =>
    rw [hsame.length]
    simp [Bridge.withRequest, Operation.isSend]
  | subscribe event callback =>
    obtain ⟨registry, heq⟩ := subscribe_bridge station.bridge station.transport event callback
    rw [show (station.perform (.subscribe event callback)).bridge = _ from heq]
    rfl
  | unsubscribe id => rfl
  | close => exact Bridge.length_replies_close station.bridge
  | _ => exact hsame.length

theorem now_le_perform (station : Station κ) (operation : Operation κ) :
    station.now ≤ (station.perform operation).now := by
  cases operation with
  | advance time => exact Nat.le_add_right _ _
  | _ => exact Nat.le_refl _

/-- An operation keeps a coherent bridge coherent while there is an id left for what it sends. -/
theorem coherent_perform {station : Station κ} (coherent : station.bridge.Coherent)
    (operation : Operation κ)
    (bound : (station.perform operation).bridge.replies.length ≤ UInt64.size) :
    (station.perform operation).bridge.Coherent := by
  have hlength := station.length_replies_perform operation
  have hbefore : station.bridge.replies.length ≤ UInt64.size := by omega
  cases operation with
  | send command payload timeout =>
    have hroom : station.bridge.replies.length < UInt64.size := by
      rw [hlength] at bound
      exact bound
    rw [show (station.perform (.send command payload timeout)).bridge = _ from
      Bridge.send_bridge (coherent.fresh hroom) _ _ _ _ _]
    exact coherent.withRequest hroom _ _
  | receive text =>
    simp only [perform, Bridge.receive]
    split
    · dsimp only
      rw [Bridge.settle_eq]
      have hsweep := Bridge.sameAround_expireOverdue station.bridge station.now
      exact (coherent.expireOverdue hbefore _).answered (hsweep.length.symm ▸ hbefore) _ _
    · exact coherent
    · exact coherent
    · exact coherent
  | subscribe event callback =>
    obtain ⟨registry, heq⟩ := subscribe_bridge station.bridge station.transport event callback
    rw [show (station.perform (.subscribe event callback)).bridge = _ from heq]
    exact ⟨coherent.reply_id, coherent.nodup, coherent.unsettled, coherent.entry_id,
      coherent.entry_reply, coherent.held_listed, coherent.abandoned, coherent.punctual⟩
  | unsubscribe id =>
    exact ⟨coherent.reply_id, coherent.nodup, coherent.unsettled, coherent.entry_id,
      coherent.entry_reply, coherent.held_listed, coherent.abandoned, coherent.punctual⟩
  | pendingCount => exact coherent.expireOverdue hbefore _
  | isPending id => exact coherent.expireOverdue hbefore _
  | poll ticket => exact coherent.poll hbefore _ _
  | arm ticket timeout => exact coherent.arm hbefore _ _ _
  | release ticket => exact coherent.release _
  | close => exact coherent.close hbefore
  | sendSync command payload => exact coherent
  | dispatch event payload => exact coherent
  | advance time => exact coherent
  | carry transport => exact coherent

/-! ## Runs -/

@[simp] theorem config_run (station : Station κ) (operations : List (Operation κ)) :
    (station.run operations).bridge.config = station.bridge.config := by
  induction operations generalizing station with
  | nil => rfl
  | cons operation rest ih => rw [run_cons, ih, config_perform]

theorem live_of_live_run {station : Station κ} {operations : List (Operation κ)}
    (h : (station.run operations).bridge.live = true) : station.bridge.live = true := by
  induction operations generalizing station with
  | nil => exact h
  | cons operation rest ih => exact live_of_live_perform (ih h)

theorem now_le_run (station : Station κ) (operations : List (Operation κ)) :
    station.now ≤ (station.run operations).now := by
  induction operations generalizing station with
  | nil => exact Nat.le_refl _
  | cons operation rest ih => exact Nat.le_trans (now_le_perform station operation) (ih _)

/-- The bridge has one reply for each request that was sent. -/
theorem length_replies_run (station : Station κ) (operations : List (Operation κ)) :
    (station.run operations).bridge.replies.length =
      station.bridge.replies.length + operations.countP Operation.isSend := by
  induction operations generalizing station with
  | nil => rfl
  | cons operation rest ih =>
    rw [run_cons, ih, length_replies_perform, List.countP_cons]
    omega

theorem coherent_run {station : Station κ} (coherent : station.bridge.Coherent)
    {operations : List (Operation κ)}
    (bound : (station.run operations).bridge.replies.length ≤ UInt64.size) :
    (station.run operations).bridge.Coherent := by
  induction operations generalizing station with
  | nil => exact coherent
  | cons operation rest ih =>
    rw [run_cons] at bound ⊢
    have hgrown := length_replies_run (station.perform operation) rest
    exact ih (coherent_perform coherent operation (by omega)) bound

/-! ## Runs from the start -/

theorem length_replies_run_opened (config : Config) (transport : Transport) (now : Instant)
    (operations : List (Operation κ)) :
    ((opened config transport now).run operations).bridge.replies.length =
      operations.countP Operation.isSend := by
  rw [length_replies_run]
  exact Nat.zero_add _

theorem coherent_run_opened (config : Config) (transport : Transport) (now : Instant)
    {operations : List (Operation κ)} (few : operations.countP Operation.isSend ≤ UInt64.size) :
    ((opened config transport now).run operations).bridge.Coherent := by
  refine coherent_run (Bridge.coherent_of_new config) ?_
  rw [length_replies_run_opened]
  exact few

end Station
end HostLink
