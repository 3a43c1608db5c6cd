import Mathlib.Data.Nat.Init
import HostLink.Proofs.Runs

/-!
# The activation law

The native side sends events of a name only after it was told to.  The first subscription for a name
tells it, with an activation command; later ones ride along, and when the last one has gone the next
one tells it anew.  `Station.activation_law` says that this works out over whole runs: the times in
which someone listens for a name fall into periods, each period is opened by a subscribe that posts
the one activation of that period, and there are no other activations.

Nothing is assumed about the transport, the native side or the order of the operations.  What
carries the proof is that an operation either opens a period and posts the activation, or posts none
and opens none (`Station.step_activation`); that in turn needs that the subscription a failed
activation takes back is the one it had added, for which ids must not repeat (`Registry.Numbered`).
-/

namespace HostLink

/-! ## What a transport has taken -/

namespace Transport

/-- What was posted and not yet taken by the native side, oldest first. -/
def outbox (transport : Transport) : List String :=
  match transport.medium with
  | .memory host => host.outbox
  | .channel channel => channel.outbox

theorem outbox_post_of_ok {transport : Transport} {message : String}
    (h : (transport.post message).1 = .ok ()) :
    (transport.post message).2.1.outbox = transport.outbox ++ [message] := by
  unfold post at h ⊢
  unfold outbox
  cases hmedium : transport.medium with
  | memory host =>
    simp only [hmedium] at h ⊢
    split at h
    · cases h
    · rename_i honline
      rw [if_neg honline]
  | channel channel =>
    simp only [hmedium] at h ⊢
    split at h
    · rename_i hopen
      rw [if_pos hopen]
    · cases h

theorem post_of_error {transport : Transport} {message : String} {error : BridgeError}
    (h : (transport.post message).1 = .error error) :
    (transport.post message).2.1 = transport := by
  unfold post at h ⊢
  cases hmedium : transport.medium with
  | memory host =>
    simp only [hmedium] at h ⊢
    split at h
    · rename_i hoffline
      rw [if_pos hoffline]
    · cases h
  | channel channel =>
    simp only [hmedium] at h ⊢
    split at h
    · cases h
    · rename_i hclosed
      rw [if_neg hclosed]

end Transport

/-! ## Registries -/

namespace Registry

variable {κ : Type} {registry : Registry κ}

/-- The ids in the registry were issued before. -/
def Numbered (registry : Registry κ) : Prop :=
  ∀ subscription ∈ registry.subscriptions, subscription.id.value < registry.issued

theorem numbered_insert (numbered : registry.Numbered) (event : String) (callback : κ) :
    (registry.insert event callback).2.Numbered := by
  intro subscription hmem
  rcases List.mem_append.1 hmem with hold | hnew
  · exact Nat.lt_succ_of_lt (numbered subscription hold)
  · rw [List.mem_singleton.1 hnew]
    exact Nat.lt_succ_self _

theorem numbered_erase (numbered : registry.Numbered) (id : SubscriptionId) :
    (registry.erase id).Numbered := by
  intro subscription hmem
  exact numbered subscription (List.mem_of_mem_eraseP hmem)

@[simp] theorem hasListener_insert (registry : Registry κ) (event other : String) (callback : κ) :
    (registry.insert event callback).2.hasListener other =
      (registry.hasListener other || decide (event = other)) := by
  simp [insert, hasListener]

theorem hasListener_of_erase {id : SubscriptionId} {event : String}
    (h : (registry.erase id).hasListener event = true) : registry.hasListener event = true := by
  obtain ⟨subscription, hmem, hevent⟩ := List.any_eq_true.1 h
  exact List.any_eq_true.2 ⟨subscription, List.mem_of_mem_eraseP hmem, hevent⟩

/-- Taking back the subscription that was just added leaves those that were there. -/
theorem subscriptions_erase_insert (numbered : registry.Numbered) (event : String)
    (callback : κ) :
    ((registry.insert event callback).2.erase (registry.insert event callback).1).subscriptions =
      registry.subscriptions := by
  have hfresh : ∀ subscription ∈ registry.subscriptions,
      ¬decide (subscription.id = SubscriptionId.mk registry.issued) = true := by
    intro subscription hmem hid
    have hlt := numbered subscription hmem
    rw [of_decide_eq_true hid] at hlt
    exact Nat.lt_irrefl _ hlt
  refine (List.eraseP_append_right _ hfresh).trans ?_
  simp

end Registry

/-! ## One subscribe -/

namespace Bridge

variable {κ : Type} (bridge : Bridge κ) (transport : Transport) {event : String} (callback : κ)

theorem subscribe_of_invalid {cause : ArgumentError}
    (h : Registry.checkEventName event = .error cause) :
    (bridge.subscribe transport event callback).bridge = bridge ∧
      (bridge.subscribe transport event callback).transport = transport := by
  simp [subscribe, h]

theorem subscribe_of_listener (hname : Registry.checkEventName event = .ok ())
    (h : bridge.registry.hasListener event = true) :
    (bridge.subscribe transport event callback).bridge =
        { bridge with registry := (bridge.registry.insert event callback).2 } ∧
      (bridge.subscribe transport event callback).transport = transport := by
  simp [subscribe, hname, h]

theorem subscribe_of_posted (hname : Registry.checkEventName event = .ok ())
    (h : bridge.registry.hasListener event = false)
    (hpost : (transport.post (activationText bridge.config event)).1 = .ok ()) :
    (bridge.subscribe transport event callback).bridge =
        { bridge with registry := (bridge.registry.insert event callback).2 } ∧
      (bridge.subscribe transport event callback).transport =
        (transport.post (activationText bridge.config event)).2.1 := by
  unfold subscribe
  rcases hposted : transport.post (activationText bridge.config event) with ⟨result, after, log⟩
  rw [hposted] at hpost
  obtain rfl : result = .ok () := hpost
  simp [hname, h]

/-- A failed activation takes the subscription back and passes the error on. -/
theorem subscribe_of_refused (hname : Registry.checkEventName event = .ok ())
    (h : bridge.registry.hasListener event = false) {error : BridgeError}
    (hpost : (transport.post (activationText bridge.config event)).1 = .error error) :
    (bridge.subscribe transport event callback).answer = .error error ∧
    (bridge.subscribe transport event callback).bridge =
        { bridge with
          registry := (bridge.registry.insert event callback).2.erase
            (bridge.registry.insert event callback).1 } ∧
      (bridge.subscribe transport event callback).transport = transport := by
  have hsame := Transport.post_of_error hpost
  unfold subscribe
  rcases hposted : transport.post (activationText bridge.config event) with ⟨result, after, log⟩
  rw [hposted] at hpost hsame
  obtain rfl : result = .error error := hpost
  obtain rfl : after = transport := hsame
  simp [hname, h]

end Bridge

namespace Station

variable {κ : Type} {station : Station κ} {event : String}

/-- Someone listens for the event. -/
def Listens (station : Station κ) (event : String) : Prop :=
  station.bridge.registry.hasListener event = true

/-- The messages that an operation posts by subscribing to the event. -/
def activations (event : String) (station : Station κ) : Operation κ → List String
  | .subscribe name callback =>
    if name = event then
      (station.perform (.subscribe name callback)).transport.outbox.drop
        station.transport.outbox.length
    else []
  | _ => []

/-- Requests do not touch the registry. -/
theorem registry_perform (station : Station κ) (operation : Operation κ) :
    (∃ event callback, operation = .subscribe event callback) ∨
      (∃ id, (station.perform operation).bridge.registry = station.bridge.registry.erase id) ∨
      (station.perform operation).bridge.registry.subscriptions = [] ∨
      (station.perform operation).bridge.registry = station.bridge.registry := by
  have hsame := station.sameAround_perform operation
  cases operation with
  | subscribe event callback => exact .inl ⟨event, callback, rfl⟩
  | unsubscribe id => exact .inr (.inl ⟨id, rfl⟩)
  | close => exact .inr (.inr (.inl rfl))
  | _ => exact .inr (.inr (.inr hsame.registry))

/-- What subscribing does to the station, as far as subscriptions go: nothing, or a subscription
more beside others for the event, or the first one for the event and its activation. -/
inductive Subscribed (station after : Station κ) (event : String) : Prop where
  | unchanged
      (subscriptions : after.bridge.registry.subscriptions =
        station.bridge.registry.subscriptions)
      (issued : station.bridge.registry.issued ≤ after.bridge.registry.issued)
      (outbox : after.transport.outbox = station.transport.outbox)
  | joined (callback : κ) (listens : station.Listens event)
      (registry : after.bridge.registry = (station.bridge.registry.insert event callback).2)
      (outbox : after.transport.outbox = station.transport.outbox)
  | activated (callback : κ) (silent : ¬station.Listens event)
      (registry : after.bridge.registry = (station.bridge.registry.insert event callback).2)
      (outbox : after.transport.outbox =
        station.transport.outbox ++ [Bridge.activationText station.bridge.config event])

theorem subscribed_perform (numbered : station.bridge.registry.Numbered) (event : String)
    (callback : κ) :
    Subscribed station (station.perform (.subscribe event callback)) event := by
  cases hname : Registry.checkEventName event with
  | error cause =>
    obtain ⟨hbridge, htransport⟩ := Bridge.subscribe_of_invalid station.bridge
      station.transport callback hname
    refine .unchanged ?_ ?_ ?_
    · exact congrArg (fun bridge => bridge.registry.subscriptions) hbridge
    · exact Nat.le_of_eq (congrArg (fun bridge => bridge.registry.issued) hbridge).symm
    · exact congrArg Transport.outbox htransport
  | ok =>
    cases hlistens : station.bridge.registry.hasListener event with
    | true =>
      obtain ⟨hbridge, htransport⟩ := Bridge.subscribe_of_listener station.bridge
        station.transport callback hname hlistens
      refine .joined callback hlistens ?_ ?_
      · exact congrArg Bridge.registry hbridge
      · exact congrArg Transport.outbox htransport
    | false =>
      cases hpost : (station.transport.post
          (Bridge.activationText station.bridge.config event)).1 with
      | ok =>
        obtain ⟨hbridge, htransport⟩ := Bridge.subscribe_of_posted station.bridge
          station.transport callback hname hlistens hpost
        refine .activated callback ?_ ?_ ?_
        · unfold Listens
          rw [hlistens]
          exact Bool.false_ne_true
        · exact congrArg Bridge.registry hbridge
        · exact (congrArg Transport.outbox htransport).trans (Transport.outbox_post_of_ok hpost)
      | error error =>
        obtain ⟨-, hbridge, htransport⟩ := Bridge.subscribe_of_refused station.bridge
          station.transport callback hname hlistens hpost
        refine .unchanged ?_ ?_ ?_
        · exact (congrArg (fun bridge => bridge.registry.subscriptions) hbridge).trans
            (Registry.subscriptions_erase_insert numbered event callback)
        · have hissued := congrArg (fun bridge => bridge.registry.issued) hbridge
          exact Nat.le_of_lt (Nat.lt_of_lt_of_eq (Nat.lt_succ_self _) hissued.symm)
        · exact congrArg Transport.outbox htransport

theorem numbered_perform (numbered : station.bridge.registry.Numbered)
    (operation : Operation κ) : (station.perform operation).bridge.registry.Numbered := by
  rcases registry_perform station operation with
    ⟨event, callback, rfl⟩ | ⟨id, hregistry⟩ | hempty | hregistry
  · cases subscribed_perform numbered event callback with
    | unchanged subscriptions issued outbox =>
      intro subscription hmem
      rw [subscriptions] at hmem
      exact Nat.lt_of_lt_of_le (numbered subscription hmem) issued
    | joined other listens registry outbox =>
      rw [registry]
      exact Registry.numbered_insert numbered event other
    | activated other silent registry outbox =>
      rw [registry]
      exact Registry.numbered_insert numbered event other
  · rw [hregistry]
    exact Registry.numbered_erase numbered id
  · intro subscription hmem
    rw [hempty] at hmem
    cases hmem
  · rw [hregistry]
    exact numbered

/-- Only subscribing brings a listener for a name that has none. -/
theorem listens_of_listens_perform (numbered : station.bridge.registry.Numbered)
    {operation : Operation κ} (h : (station.perform operation).Listens event) :
    station.Listens event ∨ ∃ callback, operation = .subscribe event callback := by
  rcases registry_perform station operation with
    ⟨name, callback, rfl⟩ | ⟨id, hregistry⟩ | hempty | hregistry
  · have hinsert (other : κ) (hregistry :
        (station.perform (.subscribe name callback)).bridge.registry =
          (station.bridge.registry.insert name other).2) :
        station.Listens event ∨ name = event := by
      unfold Listens at h ⊢
      rw [hregistry, Registry.hasListener_insert, Bool.or_eq_true] at h
      exact h.imp_right of_decide_eq_true
    have hname : station.Listens event ∨ name = event := by
      cases subscribed_perform numbered name callback with
      | unchanged subscriptions issued outbox =>
        left
        unfold Listens Registry.hasListener at h ⊢
        rwa [subscriptions] at h
      | joined other listens registry outbox => exact hinsert other registry
      | activated other silent registry outbox => exact hinsert other registry
    rcases hname with hold | rfl
    · exact .inl hold
    · exact .inr ⟨callback, rfl⟩
  · left
    unfold Listens at h ⊢
    rw [hregistry] at h
    exact Registry.hasListener_of_erase h
  · unfold Listens Registry.hasListener at h
    rw [hempty] at h
    cases h
  · left
    unfold Listens at h ⊢
    rwa [hregistry] at h

/-- An operation opens a period of listening and posts the activation of the event, or it does
neither. -/
theorem step_activation (numbered : station.bridge.registry.Numbered) (event : String)
    (operation : Operation κ) :
    (¬station.Listens event ∧ (station.perform operation).Listens event ∧
      (∃ callback, operation = .subscribe event callback) ∧
      activations event station operation =
        [Bridge.activationText station.bridge.config event]) ∨
    (((station.perform operation).Listens event → station.Listens event) ∧
      activations event station operation = []) := by
  by_cases hsubscribe : ∃ callback, operation = .subscribe event callback
  · obtain ⟨callback, rfl⟩ := hsubscribe
    have hposted : activations event station (.subscribe event callback) =
        (station.perform (.subscribe event callback)).transport.outbox.drop
          station.transport.outbox.length := if_pos rfl
    rw [hposted]
    cases subscribed_perform numbered event callback with
    | unchanged subscriptions issued outbox =>
      refine .inr ⟨fun h => ?_, ?_⟩
      · unfold Listens Registry.hasListener at h ⊢
        rwa [subscriptions] at h
      · rw [outbox, List.drop_length]
    | joined other listens registry outbox =>
      refine .inr ⟨fun _ => listens, ?_⟩
      rw [outbox, List.drop_length]
    | activated other silent registry outbox =>
      refine .inl ⟨silent, ?_, ⟨callback, rfl⟩, ?_⟩
      · unfold Listens
        rw [registry, Registry.hasListener_insert, decide_eq_true rfl, Bool.or_true]
      · rw [outbox, List.drop_left]
  · refine .inr ⟨fun h => ?_, ?_⟩
    · exact (listens_of_listens_perform numbered h).resolve_right hsubscribe
    · cases operation with
      | subscribe name callback =>
        refine if_neg ?_
        rintro rfl
        exact hsubscribe ⟨callback, rfl⟩
      | _ => rfl

/-! ## Periods -/

/-- The station behind the first operations of a run. -/
def behind (start : Station κ) (operations : List (Operation κ)) (count : Nat) : Station κ :=
  start.run (operations.take count)

theorem behind_succ (start : Station κ) {operations : List (Operation κ)} {index : Nat}
    {operation : Operation κ} (h : operations[index]? = some operation) :
    start.behind operations (index + 1) = (start.behind operations index).perform operation := by
  unfold behind
  rw [List.take_add_one, h, run_append]
  rfl

/-- The activations that one operation of a run posts for the event. -/
def activationsAt (start : Station κ) (operations : List (Operation κ)) (event : String)
    (index : Nat) : List String :=
  match operations[index]? with
  | some operation => activations event (start.behind operations index) operation
  | none => []

/-- The step law at a place of a run, which holds past its end as well. -/
theorem activationsAt_cases {start : Station κ} {operations : List (Operation κ)}
    (numbered : ∀ index, (start.behind operations index).bridge.registry.Numbered)
    (event : String) (index : Nat) :
    (¬(start.behind operations index).Listens event ∧
      (start.behind operations (index + 1)).Listens event ∧
      (∃ callback, operations[index]? = some (.subscribe event callback)) ∧
      start.activationsAt operations event index =
        [Bridge.activationText (start.behind operations index).bridge.config event]) ∨
    (((start.behind operations (index + 1)).Listens event →
        (start.behind operations index).Listens event) ∧
      start.activationsAt operations event index = []) := by
  unfold activationsAt
  cases hoperation : operations[index]? with
  | some operation =>
    rw [behind_succ start hoperation]
    have hstep := step_activation (numbered index) event operation
    simpa using hstep
  | none =>
    have hover : operations.length ≤ index := List.getElem?_eq_none_iff.1 hoperation
    have hsame : start.behind operations (index + 1) = start.behind operations index := by
      unfold behind
      rw [List.take_of_length_le hover, List.take_of_length_le (Nat.le_succ_of_le hover)]
    rw [hsame]
    exact .inr ⟨id, rfl⟩

/-- A longest stretch of operations, from the first to the last, behind each of which someone
listens for the event. -/
structure Period (start : Station κ) (operations : List (Operation κ)) (event : String)
    (first last : Nat) : Prop where
  first_le : first ≤ last
  last_lt : last < operations.length
  before : ¬(start.behind operations first).Listens event
  during : ∀ index, first ≤ index → index ≤ last →
    (start.behind operations (index + 1)).Listens event
  after : last + 1 < operations.length → ¬(start.behind operations (last + 2)).Listens event

variable {start : Station κ} {operations : List (Operation κ)}

/-- A stretch up to an operation behind which someone listens goes back to one that opened it. -/
theorem exists_first (silent : ¬start.Listens event) {index : Nat}
    (h : (start.behind operations (index + 1)).Listens event) :
    ∃ first ≤ index, ¬(start.behind operations first).Listens event ∧
      ∀ between, first ≤ between → between ≤ index →
        (start.behind operations (between + 1)).Listens event := by
  induction index with
  | zero =>
    refine ⟨0, Nat.le_refl 0, silent, fun between _ hle => ?_⟩
    rwa [Nat.le_zero.1 hle]
  | succ index ih =>
    by_cases hbefore : (start.behind operations (index + 1)).Listens event
    · obtain ⟨first, hfirst, hsilent, hduring⟩ := ih hbefore
      refine ⟨first, Nat.le_succ_of_le hfirst, hsilent, fun between hge hle => ?_⟩
      rcases Nat.le_succ_iff.1 hle with hle | rfl
      · exact hduring between hge hle
      · exact h
    · refine ⟨index + 1, Nat.le_refl _, hbefore, fun between hge hle => ?_⟩
      rwa [Nat.le_antisymm hle hge]

/-- A stretch goes on up to the operation that ends it, or to the end of the run. -/
theorem exists_last {index : Nat} (hlt : index < operations.length)
    (h : (start.behind operations (index + 1)).Listens event) :
    ∃ last, index ≤ last ∧ last < operations.length ∧
      (∀ between, index ≤ between → between ≤ last →
        (start.behind operations (between + 1)).Listens event) ∧
      (last + 1 < operations.length → ¬(start.behind operations (last + 2)).Listens event) := by
  induction hleft : operations.length - index using Nat.strongRecOn generalizing index with
  | _ left ih =>
    by_cases hnext : index + 1 < operations.length ∧
        (start.behind operations (index + 2)).Listens event
    · obtain ⟨hlt', hlistens⟩ := hnext
      obtain ⟨last, hle, hlast, hduring, hafter⟩ := ih _ (by omega) hlt' hlistens rfl
      refine ⟨last, Nat.le_of_succ_le hle, hlast, fun between hge hle' => ?_, hafter⟩
      rcases Nat.eq_or_lt_of_le hge with rfl | hgt
      · exact h
      · exact hduring between hgt hle'
    · refine ⟨index, Nat.le_refl _, hlt, fun between hge hle => ?_, fun hlt' hlistens => ?_⟩
      · rwa [Nat.le_antisymm hle hge]
      · exact hnext ⟨hlt', hlistens⟩

/-- Behind every operation behind which someone listens there is a period. -/
theorem exists_period (silent : ¬start.Listens event) {index : Nat}
    (hlt : index < operations.length) (h : (start.behind operations (index + 1)).Listens event) :
    ∃ first last, Period start operations event first last ∧ first ≤ index ∧ index ≤ last := by
  obtain ⟨first, hfirst, hsilent, hback⟩ := exists_first silent h
  obtain ⟨last, hlast, hbound, hforth, hafter⟩ := exists_last hlt h
  refine ⟨first, last, ⟨Nat.le_trans hfirst hlast, hbound, hsilent, fun between hge hle => ?_,
    hafter⟩, hfirst, hlast⟩
  rcases Nat.le_total between index with hle' | hge'
  · exact hback between hge hle'
  · exact hforth between hge' hle

/-! ## The law -/

/-- A valid name without listeners whose activation goes out has a listener then. -/
theorem activated_of_posted (hname : Registry.checkEventName event = .ok ())
    (silent : ¬station.Listens event)
    (posted : (station.transport.post
      (Bridge.activationText station.bridge.config event)).1 = .ok ()) (callback : κ) :
    (station.perform (.subscribe event callback)).Listens event := by
  have hsilent : station.bridge.registry.hasListener event = false := by
    unfold Listens at silent
    simpa using silent
  obtain ⟨hbridge, -⟩ := Bridge.subscribe_of_posted station.bridge station.transport callback
    hname hsilent posted
  have hregistry : (station.perform (.subscribe event callback)).bridge.registry = _ :=
    congrArg Bridge.registry hbridge
  unfold Listens
  rw [hregistry, Registry.hasListener_insert, decide_eq_true rfl, Bool.or_true]

/-- A name has no listener behind a subscribe whose activation was refused, and the caller is given
the error. -/
theorem silent_of_refused (numbered : station.bridge.registry.Numbered)
    (hname : Registry.checkEventName event = .ok ()) (silent : ¬station.Listens event)
    {error : BridgeError}
    (refused : (station.transport.post
      (Bridge.activationText station.bridge.config event)).1 = .error error) (callback : κ) :
    (station.bridge.subscribe station.transport event callback).answer = .error error ∧
      ¬(station.perform (.subscribe event callback)).Listens event := by
  have hsilent : station.bridge.registry.hasListener event = false := by
    unfold Listens at silent
    simpa using silent
  obtain ⟨hanswer, hbridge, -⟩ :=
    Bridge.subscribe_of_refused station.bridge station.transport callback hname hsilent refused
  refine ⟨hanswer, fun hlistens => silent ?_⟩
  have hregistry : (station.perform (.subscribe event callback)).bridge.registry = _ :=
    congrArg Bridge.registry hbridge
  unfold Listens Registry.hasListener at hlistens ⊢
  rwa [hregistry, Registry.subscriptions_erase_insert numbered event callback] at hlistens

/-- While nobody subscribes to a name that has no listener it goes on having none. -/
theorem silent_behind (numbered : ∀ index, (start.behind operations index).bridge.registry.Numbered)
    {index later : Nat} (hle : index ≤ later)
    (silent : ¬(start.behind operations index).Listens event)
    (untouched : ∀ between, index ≤ between → between < later → ∀ callback,
      operations[between]? ≠ some (.subscribe event callback)) :
    ¬(start.behind operations later).Listens event := by
  induction later, hle using Nat.le_induction with
  | base => exact silent
  | succ later hle ih =>
    have hsilent := ih fun between hge hlt => untouched between hge (Nat.lt_succ_of_lt hlt)
    intro hlistens
    cases hoperation : operations[later]? with
    | none =>
      have hover : operations.length ≤ later := List.getElem?_eq_none_iff.1 hoperation
      unfold behind at hsilent hlistens
      rw [List.take_of_length_le hover] at hsilent
      rw [List.take_of_length_le (Nat.le_succ_of_le hover)] at hlistens
      exact hsilent hlistens
    | some operation =>
      rw [behind_succ start hoperation] at hlistens
      rcases listens_of_listens_perform (numbered later) hlistens with hold | ⟨callback, rfl⟩
      · exact hsilent hold
      · exact untouched later hle (Nat.lt_succ_self later) callback hoperation

/-- In every run of a bridge and for every event: each period is opened by a subscribe that posts
the one activation of the period; outside of the periods there is no activation; a name with a
listener is in a period; and a subscribe whose activation is refused opens none, whereupon the next
subscribe for the name activates it again. -/
theorem activation_law (config : Config) (transport : Transport) (now : Instant)
    (operations : List (Operation κ)) (event : String) :
    let start : Station κ := opened config transport now
    let activation := Bridge.activationText config event
    (∀ first last, Period start operations event first last →
      (∃ callback, operations[first]? = some (.subscribe event callback)) ∧
      start.activationsAt operations event first = [activation] ∧
      ∀ index, first < index → index ≤ last → start.activationsAt operations event index = []) ∧
    (∀ index,
      (∀ first last, Period start operations event first last →
        ¬(first ≤ index ∧ index ≤ last)) →
      start.activationsAt operations event index = []) ∧
    (∀ index ≤ operations.length, (start.behind operations index).Listens event →
      ∃ first last, Period start operations event first last ∧
        first < index ∧ index ≤ last + 1) ∧
    (Registry.checkEventName event = .ok () → ∀ index callback error,
      operations[index]? = some (.subscribe event callback) →
      ¬(start.behind operations index).Listens event →
      ((start.behind operations index).transport.post activation).1 = .error error →
      ((start.behind operations index).bridge.subscribe
        (start.behind operations index).transport event callback).answer = .error error ∧
      ¬(start.behind operations (index + 1)).Listens event ∧
      ∀ next callback', index < next → operations[next]? = some (.subscribe event callback') →
        (∀ between, index < between → between < next → ∀ other,
          operations[between]? ≠ some (.subscribe event other)) →
        ((start.behind operations next).transport.post activation).1 = .ok () →
          start.activationsAt operations event next = [activation] ∧
            ∃ last, Period start operations event next last) := by
  intro start activation
  have hnumbered (index : Nat) : (start.behind operations index).bridge.registry.Numbered :=
    run_induction (motive := fun station => station.bridge.registry.Numbered)
      (fun station operation numbered => numbered_perform numbered operation)
      (by intro subscription hmem; cases hmem) _
  have hconfig (index : Nat) : (start.behind operations index).bridge.config = config :=
    config_run _ _
  have hsilent : ¬start.Listens event := Bool.false_ne_true
  have hstep (index : Nat) := activationsAt_cases hnumbered event index
  simp only [hconfig] at hstep
  have hopens {index : Nat} (hbefore : ¬(start.behind operations index).Listens event)
      (hafter : (start.behind operations (index + 1)).Listens event) :
      (∃ callback, operations[index]? = some (.subscribe event callback)) ∧
        start.activationsAt operations event index = [activation] := by
    rcases hstep index with ⟨-, -, hsubscribe, hposts⟩ | ⟨hkeeps, -⟩
    · exact ⟨hsubscribe, hposts⟩
    · exact absurd (hkeeps hafter) hbefore
  refine ⟨?_, ?_, ?_, ?_⟩
  · intro first last hperiod
    obtain ⟨hsubscribe, hposts⟩ :=
      hopens hperiod.before (hperiod.during first (Nat.le_refl _) hperiod.first_le)
    refine ⟨hsubscribe, hposts, fun index hgt hle => ?_⟩
    rcases hstep index with ⟨hbefore, -⟩ | ⟨-, hnone⟩
    · obtain ⟨before, rfl⟩ := Nat.exists_eq_add_of_lt hgt
      exact absurd (hperiod.during _ (Nat.le_add_right _ _) (by omega)) hbefore
    · exact hnone
  · intro index houtside
    rcases hstep index with ⟨-, hafter, ⟨callback, hsubscribe⟩, -⟩ | ⟨-, hnone⟩
    · have hlt : index < operations.length := (List.getElem?_eq_some_iff.1 hsubscribe).1
      obtain ⟨first, last, hperiod, hinside⟩ := exists_period hsilent hlt hafter
      exact absurd hinside (houtside first last hperiod)
    · exact hnone
  · intro index hle hlistens
    cases index with
    | zero => exact absurd hlistens hsilent
    | succ index =>
      obtain ⟨first, last, hperiod, hfirst, hlast⟩ :=
        exists_period hsilent hle hlistens
      exact ⟨first, last, hperiod, Nat.lt_succ_of_le hfirst, Nat.succ_le_succ hlast⟩
  · intro hname index callback error hsubscribe hbefore hrefused
    have hactivation (index : Nat) :
        Bridge.activationText (start.behind operations index).bridge.config event = activation := by
      rw [hconfig]
    obtain ⟨hanswer, hafter⟩ := silent_of_refused (hnumbered index) hname hbefore
      (by rw [hactivation]; exact hrefused) callback
    rw [← behind_succ start hsubscribe] at hafter
    refine ⟨hanswer, hafter, fun next callback' hlt hnext huntouched hposted => ?_⟩
    have hstill := silent_behind hnumbered hlt hafter fun between hge hlt' =>
      huntouched between hge hlt'
    have hlistens := activated_of_posted hname hstill (by rw [hactivation]; exact hposted) callback'
    rw [← behind_succ start hnext] at hlistens
    have hbound : next < operations.length := (List.getElem?_eq_some_iff.1 hnext).1
    obtain ⟨last, hle, hlast, hduring, hends⟩ := exists_last hbound hlistens
    exact ⟨(hopens hstill hlistens).2, last, hle, hlast, hstill, hduring, hends⟩

/-- The host is offline at the first subscribe, and the third one rides along with the second. -/
example :
    let start : Station Unit := opened {} { id := "host", medium := .memory { offline := true } } 0
    let operations : List (Operation Unit) :=
      [.subscribe "tick" (), .carry { id := "host", medium := .memory {} },
        .subscribe "tick" (), .subscribe "tick" ()]
    (List.range 4).map (start.activationsAt operations "tick") =
      [[], [], [Bridge.activationText {} "tick"], []] := by
  decide +kernel

end Station
end HostLink
