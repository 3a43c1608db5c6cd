import HostLink.Proofs.Activation

/-!
# Subscriptions come and go in order

A registry only ever loses subscriptions from anywhere in its list and gains new ones at the end,
under numbers that were not given away before.  `Registry.Follows` relates two states of a registry
in this way.  It holds from each state of a run to every later one (`Station.follows_run`), and from
the empty registry at the start it gives the order of the list: the numbers increase
(`Station.inOrder_run_opened`).
-/

namespace HostLink

namespace Registry

variable {κ : Type}

/-- A later state of a registry: some of the earlier subscriptions are kept in their order, and
those that were added stand behind them, in the order of numbers not given away before. -/
structure Follows (earlier later : Registry κ) : Prop where
  issued : earlier.issued ≤ later.issued
  subscriptions : ∃ kept added, later.subscriptions = kept ++ added ∧
    kept.Sublist earlier.subscriptions ∧
    added.Pairwise (fun first second => first.id.value < second.id.value) ∧
    ∀ subscription ∈ added,
      earlier.issued ≤ subscription.id.value ∧ subscription.id.value < later.issued

namespace Follows

variable {earlier later : Registry κ}

/-- No subscription was added. -/
theorem of_sublist (issued : earlier.issued ≤ later.issued)
    (h : later.subscriptions.Sublist earlier.subscriptions) : earlier.Follows later :=
  ⟨issued, later.subscriptions, [], (List.append_nil _).symm, h, .nil, fun _ => nofun⟩

theorem refl (registry : Registry κ) : registry.Follows registry :=
  of_sublist (Nat.le_refl _) (List.Sublist.refl _)

theorem insert (registry : Registry κ) (event : String) (callback : κ) :
    registry.Follows (registry.insert event callback).2 := by
  refine ⟨Nat.le_succ _, registry.subscriptions, _, rfl, List.Sublist.refl _,
    List.pairwise_singleton _ _, fun subscription hmem => ?_⟩
  rw [List.mem_singleton.1 hmem]
  exact ⟨Nat.le_refl _, Nat.lt_succ_self _⟩

theorem trans {first second third : Registry κ} (h : first.Follows second)
    (h' : second.Follows third) : first.Follows third := by
  obtain ⟨hissued, kept, added, hsecond, hkept, hadded, hnew⟩ := h
  obtain ⟨hissued', kept', added', hthird, hkept', hadded', hnew'⟩ := h'
  rw [hsecond] at hkept'
  -- What was kept the second time is partly old, and partly what had been added the first time.
  obtain ⟨old, new, rfl, hold, hnewer⟩ := List.sublist_append_iff.1 hkept'
  refine ⟨Nat.le_trans hissued hissued', old, new ++ added', by rw [hthird, List.append_assoc],
    hold.trans hkept, ?_, fun subscription hmem => ?_⟩
  · refine List.pairwise_append.2
      ⟨hadded.sublist hnewer, hadded', fun early hearly late hlate => ?_⟩
    exact Nat.lt_of_lt_of_le (hnew early (hnewer.subset hearly)).2 (hnew' late hlate).1
  · rcases List.mem_append.1 hmem with hmem | hmem
    · obtain ⟨hge, hlt⟩ := hnew subscription (hnewer.subset hmem)
      exact ⟨hge, Nat.lt_of_lt_of_le hlt hissued'⟩
    · obtain ⟨hge, hlt⟩ := hnew' subscription hmem
      exact ⟨Nat.le_trans hissued hge, hlt⟩

/-- A later subscription was there before or has a number that was not given away before. -/
theorem mem_or_new (h : earlier.Follows later) {subscription : Subscription κ}
    (hmem : subscription ∈ later.subscriptions) :
    subscription ∈ earlier.subscriptions ∨ earlier.issued ≤ subscription.id.value := by
  obtain ⟨-, kept, added, hlater, hkept, -, hnew⟩ := h
  rw [hlater] at hmem
  rcases List.mem_append.1 hmem with hmem | hmem
  · exact .inl (hkept.subset hmem)
  · exact .inr (hnew subscription hmem).1

end Follows
end Registry

namespace Station

variable {κ : Type} {station : Station κ}

theorem follows_perform (numbered : station.bridge.registry.Numbered) (operation : Operation κ) :
    station.bridge.registry.Follows (station.perform operation).bridge.registry := by
  have hsame := station.sameAround_perform operation
  cases operation with
  | subscribe event callback =>
    cases subscribed_perform numbered event callback with
    | unchanged subscriptions issued outbox =>
      refine .of_sublist issued ?_
      rw [subscriptions]
    | joined other listens registry outbox =>
      rw [registry]
      exact .insert _ event other
    | activated other silent registry outbox =>
      rw [registry]
      exact .insert _ event other
  | unsubscribe id => exact .of_sublist (Nat.le_refl _) List.eraseP_sublist
  | close => exact .of_sublist (Nat.le_refl _) (List.nil_sublist _)
  | _ =>
    rw [hsame.registry]
    exact .refl _

theorem follows_run (numbered : station.bridge.registry.Numbered)
    (operations : List (Operation κ)) :
    station.bridge.registry.Follows (station.run operations).bridge.registry := by
  induction operations generalizing station with
  | nil => exact .refl _
  | cons operation rest ih =>
    exact (follows_perform numbered operation).trans (ih (numbered_perform numbered operation))

/-- The subscriptions of a bridge stand in the order of their numbers, none of which is given away
again. -/
structure InOrder (station : Station κ) : Prop where
  ascending : station.bridge.registry.subscriptions.Pairwise fun first second =>
    first.id.value < second.id.value
  numbered : station.bridge.registry.Numbered

theorem inOrder_run_opened (config : Config) (transport : Transport) (now : Instant)
    (operations : List (Operation κ)) :
    ((opened config transport now).run operations).InOrder := by
  have hempty : (opened (κ := κ) config transport now).bridge.registry.Numbered := by
    simp [Registry.Numbered, opened]
  obtain ⟨-, kept, added, hsubscriptions, hkept, hadded, hnew⟩ := follows_run hempty operations
  -- Nothing was there at the start, so all that is there was added.
  obtain rfl : kept = [] := List.sublist_nil.1 hkept
  rw [List.nil_append] at hsubscriptions
  constructor
  · rw [hsubscriptions]
    exact hadded
  · intro subscription hmem
    rw [hsubscriptions] at hmem
    exact (hnew subscription hmem).2

end Station
end HostLink
