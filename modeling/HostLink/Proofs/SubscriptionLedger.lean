import HostLink.Proofs.Notifications
import HostLink.Proofs.Registration

/-!
# The books of a registry

Along a run of a bridge two books can be kept from the answers alone: which subscriptions were
granted, and which ids were taken back by an unsubscribe that said so.  `Station.registry_law` says
that the registry is at all times what the books say: the granted subscriptions without those that
were taken back, in the order in which they were granted.  So no id is granted twice, none is taken
back twice, and the number of subscriptions is the difference of the two books.

A subscribe whose activation is refused uses up an id and is in neither book.  What carries the
proof is therefore not that the ids are consecutive but that all of them are below the next one to
issue (`Station.Booked.below`).  When nobody holds the bridge any more its subscriptions end without
being taken back, and so the books bind the registry only while the bridge is live.
-/

namespace HostLink

/-! ## Taking one subscription away -/

namespace Registry

variable {κ : Type} {registry : Registry κ} {id : SubscriptionId}

theorem contains_iff :
    registry.contains id = true ↔ ∃ subscription ∈ registry.subscriptions,
      subscription.id = id := by
  simp [contains]

theorem erase_of_not_contains (h : registry.contains id = false) :
    registry.erase id = registry := by
  have hnone : ∀ subscription ∈ registry.subscriptions, ¬decide (subscription.id = id) = true := by
    intro subscription hmem hid
    have := contains_iff.2 ⟨subscription, hmem, of_decide_eq_true hid⟩
    rw [h] at this
    exact Bool.false_ne_true this
  unfold erase
  rw [List.eraseP_of_forall_not hnone]

/-- Erasing cuts one subscription out of the list. -/
theorem exists_split_of_contains (h : registry.contains id = true) :
    ∃ before erased after, registry.subscriptions = before ++ erased :: after ∧ erased.id = id ∧
      registry.erase id = { registry with subscriptions := before ++ after } := by
  obtain ⟨subscription, hmem, hid⟩ := contains_iff.1 h
  obtain ⟨erased, before, after, -, herased, hsplit, hrest⟩ :=
    List.exists_of_eraseP (p := fun subscription => subscription.id = id) hmem (by simpa using hid)
  refine ⟨before, erased, after, hsplit, of_decide_eq_true herased, ?_⟩
  unfold erase
  rw [hrest]

/-- Where no id stands twice, erasing leaves exactly the subscriptions of other ids. -/
theorem subscriptions_erase
    (ascending : registry.subscriptions.Pairwise fun first second =>
      first.id.value < second.id.value) (id : SubscriptionId) :
    (registry.erase id).subscriptions =
      registry.subscriptions.filter fun subscription => subscription.id ≠ id := by
  cases hcontains : registry.contains id with
  | false =>
    rw [erase_of_not_contains hcontains]
    refine (List.filter_eq_self.2 fun subscription hmem => ?_).symm
    refine decide_eq_true fun hid => ?_
    rw [contains_iff.2 ⟨subscription, hmem, hid⟩] at hcontains
    exact Bool.false_ne_true hcontains.symm
  | true =>
    obtain ⟨before, erased, after, hsplit, rfl, herase⟩ := exists_split_of_contains hcontains
    rw [herase, hsplit]
    rw [hsplit, List.pairwise_append, List.pairwise_cons] at ascending
    obtain ⟨-, ⟨habove, -⟩, hbelow⟩ := ascending
    have hbefore : before.filter (fun subscription => subscription.id ≠ erased.id) = before := by
      refine List.filter_eq_self.2 fun subscription hmem => decide_eq_true fun hid => ?_
      exact Nat.ne_of_lt (hbelow subscription hmem erased List.mem_cons_self)
        (congrArg SubscriptionId.value hid)
    have hafter : after.filter (fun subscription => subscription.id ≠ erased.id) = after := by
      refine List.filter_eq_self.2 fun subscription hmem => decide_eq_true fun hid => ?_
      exact Nat.ne_of_gt (habove subscription hmem) (congrArg SubscriptionId.value hid)
    simp only [List.filter_append, List.filter_cons, hbefore, hafter, ne_eq, not_true_eq_false,
      decide_false, Bool.false_eq_true, if_false]

end Registry

/-! ## What a subscribe grants -/

namespace Bridge

variable {κ : Type} (bridge : Bridge κ) (transport : Transport) {event : String} (callback : κ)

/-- A subscribe that succeeds answers with the next id, and the registry issues it. -/
theorem registry_subscribe_of_ok {id : SubscriptionId}
    (h : (bridge.subscribe transport event callback).answer = .ok id) :
    id = ⟨bridge.registry.issued⟩ ∧
      (bridge.subscribe transport event callback).bridge.registry =
        (bridge.registry.insert event callback).2 := by
  unfold subscribe at h ⊢
  split at h
  · cases h
  · dsimp only at h ⊢
    split at h
    · next hfirst =>
      split at h
      · refine ⟨(Except.ok.inj h).symm, ?_⟩
        simp only [hfirst, if_true]
      · cases h
    · next hlistens =>
      refine ⟨(Except.ok.inj h).symm, ?_⟩
      simp only [hlistens, Bool.false_eq_true, if_false]

/-- A subscribe that fails leaves the subscriptions as they were; it may use up an id. -/
theorem registry_subscribe_of_error (numbered : bridge.registry.Numbered) {error : BridgeError}
    (h : (bridge.subscribe transport event callback).answer = .error error) :
    (bridge.subscribe transport event callback).bridge.registry.subscriptions =
        bridge.registry.subscriptions ∧
      bridge.registry.issued ≤
        (bridge.subscribe transport event callback).bridge.registry.issued := by
  unfold subscribe at h ⊢
  split at h
  · exact ⟨rfl, Nat.le_refl _⟩
  · dsimp only at h ⊢
    split at h
    · next hfirst =>
      split at h
      · cases h
      · simp only [hfirst, if_true]
        exact ⟨Registry.subscriptions_erase_insert numbered event callback, Nat.le_succ _⟩
    · cases h

end Bridge

/-! ## The books -/

namespace Station

variable {κ : Type}

/-- The subscription that an operation grants, under the id that it answers with. -/
def granted? (station : Station κ) : Operation κ → Option (Subscription κ)
  | .subscribe event callback =>
    match (station.bridge.subscribe station.transport event callback).answer with
    | .ok id => some { id, event, callback }
    | .error _ => none
  | _ => none

/-- The id that an operation takes back, by an unsubscribe that answers with true. -/
def revoked? (station : Station κ) : Operation κ → Option SubscriptionId
  | .unsubscribe id => if (station.bridge.unsubscribe id).1 then some id else none
  | _ => none

/-- The subscriptions granted along a run, in order. -/
def granted (station : Station κ) : List (Operation κ) → List (Subscription κ)
  | [] => []
  | operation :: rest =>
    (station.granted? operation).toList ++ (station.perform operation).granted rest

/-- The ids taken back along a run, in order. -/
def revoked (station : Station κ) : List (Operation κ) → List SubscriptionId
  | [] => []
  | operation :: rest =>
    (station.revoked? operation).toList ++ (station.perform operation).revoked rest

/-- The granted subscriptions that were not taken back. -/
def standing (granted : List (Subscription κ)) (revoked : List SubscriptionId) :
    List (Subscription κ) :=
  granted.filter fun subscription => subscription.id ∉ revoked

/-- The registry is in keeping with the books. -/
structure Booked (station : Station κ) (granted : List (Subscription κ))
    (revoked : List SubscriptionId) : Prop where
  ascending : granted.Pairwise fun first second => first.id.value < second.id.value
  below : ∀ subscription ∈ granted, subscription.id.value < station.bridge.registry.issued
  listed : station.bridge.registry.subscriptions.Sublist (standing granted revoked)
  complete : station.bridge.live = true →
    station.bridge.registry.subscriptions = standing granted revoked
  once : revoked.Nodup
  granted_of_revoked : ∀ id ∈ revoked, ∃ subscription ∈ granted, subscription.id = id
  count : station.bridge.live = true →
    station.bridge.registry.size + revoked.length = granted.length

namespace Booked

variable {station after : Station κ} {granted : List (Subscription κ)}
  {revoked : List SubscriptionId}

theorem ascending_subscriptions (h : station.Booked granted revoked) :
    station.bridge.registry.subscriptions.Pairwise fun first second =>
      first.id.value < second.id.value :=
  (h.ascending.filter _).sublist h.listed

theorem mem_granted (h : station.Booked granted revoked) {subscription : Subscription κ}
    (hmem : subscription ∈ station.bridge.registry.subscriptions) :
    subscription ∈ granted ∧ subscription.id ∉ revoked := by
  have hstanding := h.listed.subset hmem
  unfold standing at hstanding
  simpa using hstanding

theorem numbered (h : station.Booked granted revoked) : station.bridge.registry.Numbered :=
  fun subscription hmem => h.below subscription (h.mem_granted hmem).1

/-- An operation that neither grants nor takes back a subscription leaves those that stand, unless
nobody holds the bridge any more. -/
theorem keep (h : station.Booked granted revoked)
    (live : after.bridge.live = true → station.bridge.live = true)
    (issued : station.bridge.registry.issued ≤ after.bridge.registry.issued)
    (subscriptions : after.bridge.registry.subscriptions =
      station.bridge.registry.subscriptions) :
    after.Booked granted revoked where
  ascending := h.ascending
  below subscription hmem := Nat.lt_of_lt_of_le (h.below subscription hmem) issued
  listed := subscriptions ▸ h.listed
  complete hlive := subscriptions.trans (h.complete (live hlive))
  once := h.once
  granted_of_revoked := h.granted_of_revoked
  count hlive := by
    unfold Registry.size
    rw [subscriptions]
    exact h.count (live hlive)

theorem grant (h : station.Booked granted revoked) {event : String} {callback : κ}
    (live : after.bridge.live = station.bridge.live)
    (registry : after.bridge.registry = (station.bridge.registry.insert event callback).2) :
    after.Booked (granted ++ [⟨⟨station.bridge.registry.issued⟩, event, callback⟩]) revoked := by
  have hfresh : (⟨station.bridge.registry.issued⟩ : SubscriptionId) ∉ revoked := by
    intro hmem
    obtain ⟨subscription, hgranted, hid⟩ := h.granted_of_revoked _ hmem
    have hlt := h.below subscription hgranted
    rw [hid] at hlt
    exact Nat.lt_irrefl _ hlt
  have hsubscriptions : after.bridge.registry.subscriptions =
      station.bridge.registry.subscriptions ++
        [⟨⟨station.bridge.registry.issued⟩, event, callback⟩] := by
    rw [registry]
    rfl
  have hstanding :
      standing (granted ++ [⟨⟨station.bridge.registry.issued⟩, event, callback⟩]) revoked =
        standing granted revoked ++ [⟨⟨station.bridge.registry.issued⟩, event, callback⟩] := by
    simp [standing, hfresh]
  refine ⟨?_, ?_, ?_, ?_, h.once, ?_, ?_⟩
  · refine List.pairwise_append.2 ⟨h.ascending, List.pairwise_singleton _ _, ?_⟩
    intro subscription hmem new hnew
    rw [List.mem_singleton.1 hnew]
    exact h.below subscription hmem
  · rw [registry]
    intro subscription hmem
    rcases List.mem_append.1 hmem with hold | hnew
    · exact Nat.lt_succ_of_lt (h.below subscription hold)
    · rw [List.mem_singleton.1 hnew]
      exact Nat.lt_succ_self _
  · rw [hsubscriptions, hstanding]
    exact h.listed.append_right _
  · intro hlive
    rw [hsubscriptions, hstanding, h.complete (live ▸ hlive)]
  · intro id hmem
    obtain ⟨subscription, hgranted, hid⟩ := h.granted_of_revoked id hmem
    exact ⟨subscription, List.mem_append_left _ hgranted, hid⟩
  · intro hlive
    have hcount := h.count (live ▸ hlive)
    unfold Registry.size at hcount ⊢
    rw [hsubscriptions, List.length_append, List.length_append]
    omega

theorem revoke (h : station.Booked granted revoked) {id : SubscriptionId}
    (contains : station.bridge.registry.contains id = true)
    (live : after.bridge.live = station.bridge.live)
    (registry : after.bridge.registry = station.bridge.registry.erase id) :
    after.Booked granted (revoked ++ [id]) := by
  have hsubscriptions : after.bridge.registry.subscriptions =
      station.bridge.registry.subscriptions.filter fun subscription => subscription.id ≠ id := by
    rw [registry, Registry.subscriptions_erase h.ascending_subscriptions]
  have hstanding : standing granted (revoked ++ [id]) =
      (standing granted revoked).filter fun subscription => subscription.id ≠ id := by
    unfold standing
    rw [List.filter_filter]
    refine List.filter_congr fun subscription _ => ?_
    simp [and_comm]
  obtain ⟨subscription, hmem, rfl⟩ := Registry.contains_iff.1 contains
  obtain ⟨hgranted, hstands⟩ := h.mem_granted hmem
  refine ⟨h.ascending, ?_, ?_, ?_, ?_, ?_, ?_⟩
  · rw [registry]
    exact h.below
  · rw [hsubscriptions, hstanding]
    exact h.listed.filter _
  · intro hlive
    rw [hsubscriptions, hstanding, h.complete (live ▸ hlive)]
  · refine List.nodup_append.2 ⟨h.once, List.nodup_singleton _, ?_⟩
    rintro other hother _ hlast rfl
    exact hstands (List.mem_singleton.1 hlast ▸ hother)
  · intro other hother
    rcases List.mem_append.1 hother with hold | hlast
    · exact h.granted_of_revoked other hold
    · exact ⟨subscription, hgranted, (List.mem_singleton.1 hlast).symm⟩
  · intro hlive
    have hcount := h.count (live ▸ hlive)
    obtain ⟨before, erased, rest, hsplit, -, herase⟩ :=
      Registry.exists_split_of_contains contains
    unfold Registry.size at hcount ⊢
    rw [hsplit, List.length_append, List.length_cons] at hcount
    rw [registry, herase, List.length_append, List.length_append, List.length_singleton]
    omega

end Booked

/-! ## Along a run -/

variable {station : Station κ} {granted : List (Subscription κ)} {revoked : List SubscriptionId}

theorem booked_opened (config : Config) (transport : Transport) (now : Instant) :
    (opened (κ := κ) config transport now).Booked [] [] :=
  ⟨.nil, nofun, List.Sublist.refl _, fun _ => rfl, List.nodup_nil, nofun, fun _ => rfl⟩

/-- Every operation keeps the books. -/
theorem booked_perform (h : station.Booked granted revoked) (operation : Operation κ) :
    (station.perform operation).Booked (granted ++ (station.granted? operation).toList)
      (revoked ++ (station.revoked? operation).toList) := by
  have hlive (hafter : (station.perform operation).bridge.live = true) :
      station.bridge.live = true :=
    live_of_live_perform hafter
  have hsame := station.sameAround_perform operation
  cases operation with
  | subscribe event callback =>
    obtain ⟨registry, hbridge⟩ := subscribe_bridge station.bridge station.transport event callback
    have hlive : (station.perform (.subscribe event callback)).bridge.live =
        station.bridge.live :=
      (congrArg Bridge.live hbridge :)
    simp only [revoked?, Option.toList_none, List.append_nil]
    cases hanswer : (station.bridge.subscribe station.transport event callback).answer with
    | ok id =>
      obtain ⟨rfl, hregistry⟩ := Bridge.registry_subscribe_of_ok _ _ callback hanswer
      simp only [granted?, hanswer, Option.toList_some]
      exact h.grant hlive hregistry
    | error error =>
      obtain ⟨hsubscriptions, hissued⟩ :=
        Bridge.registry_subscribe_of_error _ _ callback h.numbered hanswer
      simp only [granted?, hanswer, Option.toList_none, List.append_nil]
      exact h.keep (fun hafter => hlive ▸ hafter) hissued hsubscriptions
  | unsubscribe id =>
    simp only [granted?, Option.toList_none, List.append_nil]
    cases hcontains : station.bridge.registry.contains id with
    | true =>
      have hanswer : (station.bridge.unsubscribe id).1 = true := hcontains
      simp only [revoked?, hanswer, if_true, Option.toList_some]
      exact h.revoke hcontains rfl rfl
    | false =>
      have hanswer : (station.bridge.unsubscribe id).1 = false := hcontains
      simp only [revoked?, hanswer, Bool.false_eq_true, if_false, Option.toList_none,
        List.append_nil]
      refine h.keep hlive (Nat.le_refl _) ?_
      exact congrArg Registry.subscriptions (Registry.erase_of_not_contains hcontains)
  | close =>
    refine ⟨?_, ?_, List.nil_sublist _, fun hafter => absurd hafter Bool.false_ne_true, ?_, ?_,
      fun hafter => absurd hafter Bool.false_ne_true⟩
    all_goals simp only [granted?, revoked?, Option.toList_none, List.append_nil]
    · exact h.ascending
    · exact h.below
    · exact h.once
    · exact h.granted_of_revoked
  | _ =>
    simp only [granted?, revoked?, Option.toList_none, List.append_nil]
    refine h.keep hlive ?_ ?_
    · exact Nat.le_of_eq (congrArg Registry.issued hsame.registry).symm
    · exact congrArg Registry.subscriptions hsame.registry

theorem booked_run (h : station.Booked granted revoked) (operations : List (Operation κ)) :
    (station.run operations).Booked (granted ++ station.granted operations)
      (revoked ++ station.revoked operations) := by
  induction operations generalizing station granted revoked with
  | nil =>
    simp only [Station.granted, Station.revoked, List.append_nil]
    exact h
  | cons operation rest ih =>
    simp only [Station.granted, Station.revoked, ← List.append_assoc]
    exact ih (booked_perform h operation)

/-- What the registry of a station is, given the books of the run that led there. -/
structure RegistryLaw (station : Station κ) (granted : List (Subscription κ))
    (revoked : List SubscriptionId) : Prop where
  /-- The list is in the order of its ids, all of which are below the next one. -/
  ascending : station.bridge.registry.subscriptions.Pairwise fun first second =>
    first.id.value < second.id.value
  below : ∀ subscription ∈ station.bridge.registry.subscriptions,
    subscription.id.value < station.bridge.registry.issued
  /-- Later subscribes get greater ids, and so does the next one. -/
  increasing : granted.Pairwise fun first second => first.id.value < second.id.value
  next : ∀ event callback id,
    (station.bridge.subscribe station.transport event callback).answer = .ok id →
      ∀ subscription ∈ granted, subscription.id.value < id.value
  /-- The registry holds what was granted and not taken back. -/
  holds : station.bridge.live = true →
    station.bridge.registry.subscriptions = standing granted revoked
  /-- No id is taken back twice, and an unsubscribe takes back an id exactly if it stands. -/
  once : revoked.Nodup
  answers : ∀ id, (station.bridge.unsubscribe id).1 = true ↔
    ∃ subscription ∈ station.bridge.registry.subscriptions, subscription.id = id
  revocable : station.bridge.live = true → ∀ id, (station.bridge.unsubscribe id).1 = true ↔
    (∃ subscription ∈ granted, subscription.id = id) ∧ id ∉ revoked
  /-- Then that subscription alone is cut out of the list, and else nothing changes. -/
  cuts : ∀ id, (station.bridge.unsubscribe id).1 = true →
    ∃ before erased after,
      station.bridge.registry.subscriptions = before ++ erased :: after ∧ erased.id = id ∧
      (station.bridge.unsubscribe id).2 =
        { station.bridge with
          registry := { station.bridge.registry with subscriptions := before ++ after } }
  idle : ∀ id, (station.bridge.unsubscribe id).1 = false →
    (station.bridge.unsubscribe id).2 = station.bridge
  count : station.bridge.live = true →
    station.bridge.registry.size + revoked.length = granted.length

/-- In every run of a bridge the registry is in order, and while the bridge is held it is what the
answers of the run say: the subscriptions that were granted without those that were taken back. -/
theorem registry_law (config : Config) (transport : Transport) (now : Instant)
    (operations : List (Operation κ)) :
    let start : Station κ := opened config transport now
    RegistryLaw (start.run operations) (start.granted operations) (start.revoked operations) := by
  intro start
  have books : (start.run operations).Booked (start.granted operations)
      (start.revoked operations) :=
    booked_run (booked_opened config transport now) operations
  have hanswers (id : SubscriptionId) : ((start.run operations).bridge.unsubscribe id).1 = true ↔
      ∃ subscription ∈ (start.run operations).bridge.registry.subscriptions,
        subscription.id = id :=
    Registry.contains_iff
  refine ⟨books.ascending_subscriptions, books.numbered, books.ascending, ?_, books.complete,
    books.once, hanswers, ?_, ?_, ?_, books.count⟩
  · intro event callback id hanswer subscription hmem
    obtain ⟨rfl, -⟩ := Bridge.registry_subscribe_of_ok _ _ callback hanswer
    exact books.below subscription hmem
  · intro hlive id
    rw [hanswers, books.complete hlive]
    constructor
    · rintro ⟨subscription, hmem, rfl⟩
      rw [← books.complete hlive] at hmem
      obtain ⟨hgranted, hstands⟩ := books.mem_granted hmem
      exact ⟨⟨subscription, hgranted, rfl⟩, hstands⟩
    · rintro ⟨⟨subscription, hgranted, rfl⟩, hstands⟩
      exact ⟨subscription, List.mem_filter.2 ⟨hgranted, decide_eq_true hstands⟩, rfl⟩
  · intro id hanswer
    obtain ⟨before, erased, after, hsplit, hid, herase⟩ :=
      Registry.exists_split_of_contains hanswer
    refine ⟨before, erased, after, hsplit, hid, ?_⟩
    unfold Bridge.unsubscribe
    rw [herase]
  · intro id hanswer
    unfold Bridge.unsubscribe
    rw [Registry.erase_of_not_contains hanswer]

/-- The second subscribe is refused and uses up an id; the third unsubscribe comes too late. -/
example :
    let start : Station Unit := opened {} { id := "host", medium := .memory {} } 0
    let operations : List (Operation Unit) :=
      [.subscribe "tick" (), .carry { id := "host", medium := .memory { offline := true } },
        .subscribe "tock" (), .subscribe "tick" (), .unsubscribe ⟨0⟩, .unsubscribe ⟨1⟩,
        .unsubscribe ⟨0⟩]
    (start.granted operations).map Subscription.id = [⟨0⟩, ⟨2⟩] ∧
      start.revoked operations = [⟨0⟩] ∧
      (start.run operations).bridge.registry.subscriptions.map Subscription.id = [⟨2⟩] := by
  decide +kernel

end Station
end HostLink
