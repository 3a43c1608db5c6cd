import HostLink.Proofs.Partition

/-!
# Bridges are isolated

All bridges count their requests from zero and may know the same events, and yet they do not get in
each other's way: replies, settlers and listeners reach a bridge by the link that they were made on,
never by an id.  `Session.bridges_isolated` says so in two ways.

A step leaves a link alone that it does not address, with the bridge on it, its replies and both
queues, but for what callbacks and pumps do to that link in the step; if no callback addresses the
link, nothing happens to it.

And if the names of a session fall into two parts that no step and no callback mixes, each side has
the reports and the links that it would have alone, where nothing but its own steps and the time is
left of the session.
-/

namespace HostLink

/-! ## Links by name -/

/-- The link that a name stands for, with its callbacks themselves instead of their places. -/
def World.linkNamed? (world : World) (name : Name) : Option (Link (Option Callback)) :=
  (world.linkOf? name).bind fun index =>
    (world.links[index]?).map (Link.map fun callback => world.callbacks[callback.index]?)

namespace Side

variable {part : Name → Bool} {places : Places} {own world : World}

/-- A name of a side stands for the same link in both worlds, or for none in either. -/
theorem linkOf?_cases (h : Side part places own.inventory world.inventory) {name : Name}
    (hname : part name = true) :
    own.linkOf? name = none ∧ world.linkOf? name = none ∨
      ∃ index place, own.linkOf? name = some index ∧ world.linkOf? name = some place ∧
        places.Link index place := by
  cases name with
  | transport name => exact h.transports.lookup_cases hname
  | native name => exact h.natives.lookup_cases hname
  | bridge name =>
    obtain ⟨hown, hshared⟩ | ⟨handle, other, hown, hshared, hhandle⟩ := h.bridges.lookup_cases hname
    · exact .inl ⟨congrArg (Option.map _) hown, congrArg (Option.map _) hshared⟩
    · exact .inr ⟨handle.link, other.link, congrArg (Option.map _) hown,
        congrArg (Option.map _) hshared, hhandle.link⟩
  | reply name =>
    obtain ⟨hown, hshared⟩ | ⟨reply, other, hown, hshared, hreply⟩ := h.replies.lookup_cases hname
    · exact .inl ⟨congrArg (Option.bind · _) hown, congrArg (Option.bind · _) hshared⟩
    · cases hreply with
      | ofBridge hlink ticket =>
        exact .inr ⟨_, _, congrArg (Option.bind · _) hown, congrArg (Option.bind · _) hshared,
          hlink⟩
      | detached hticket =>
        exact .inl ⟨congrArg (Option.bind · _) hown, congrArg (Option.bind · _) hshared⟩
  | settler name => exact .inl ⟨rfl, rfl⟩
  | subscription name => exact .inl ⟨rfl, rfl⟩

theorem linkNamed?_eq (h : Side part places own.inventory world.inventory) {name : Name}
    (hname : part name = true) : own.linkNamed? name = world.linkNamed? name := by
  unfold World.linkNamed?
  obtain ⟨hown, hshared⟩ | ⟨index, place, hown, hshared, hlink⟩ := h.linkOf?_cases hname
  · rw [hown, hshared]
    rfl
  · obtain ⟨_, _, hfound, hthere, twins, -, rfl, rfl⟩ := h.links.items index place hlink
    have hcallbacks : (fun callback : CallbackRef => own.callbacks[callback.index]?) ∘
        (Places.Twin.own : places.Twin → CallbackRef) =
          (fun callback : CallbackRef => world.callbacks[callback.index]?) ∘
            Places.Twin.shared := by
      funext twin
      obtain ⟨callback, _, hcallback, hother, rfl⟩ := h.callbacks.items _ _ twin.2
      exact hcallback.trans hother.symm
    rw [hown, hshared, Option.bind_some, Option.bind_some, hfound, hthere, Option.map_some,
      Option.map_some, Link.map_map, Link.map_map, hcallbacks]

end Side

/-! ## Sessions -/

namespace Session

/-- A link that a step does not address gets from one view to the next by the doings in the step
that are about it, and if no callback addresses it either, it stays as it is.  And a side that keeps
to its own names has the same reports and the same links in the session as alone. -/
theorem bridges_isolated :
    (∀ (before : List Step) (step : Step) (index : LinkIndex),
      index < (behind {} before).links.length → ¬step.Addresses (behind {} before) index →
        Relation.ReflTransGen (Moves index (doings (behind {} before) step))
            ((behind {} before).view index) ((behind {} (before ++ [step])).view index) ∧
          ((∀ doing ∈ doings (behind {} before) step, ¬doing.Addresses index) →
            (behind {} (before ++ [step])).links[index]? = (behind {} before).links[index]?)) ∧
    ∀ (part : Name → Bool) (steps : List Step), Interleaves part {} steps →
      reportsWithin part {} (alone part {} steps) = reportsWithin part {} steps ∧
        ∀ name, part name = true →
          (behind {} (alone part {} steps)).linkNamed? name =
            (behind {} steps).linkNamed? name := by
  refine ⟨fun before step index hlt hspared => ?_, fun part steps hinterleaves => ?_⟩
  · have hafter : behind {} (before ++ [step]) = (Session.step (behind {} before) step).2 :=
      List.foldl_append
    rw [hafter]
    have hidle : index ∉ (behind {} before).ready := by
      rw [ready_behind World.sound_empty rfl]
      exact List.not_mem_nil
    exact ⟨(trails_step _ step index).view hspared hlt, link_step hlt hidle hspared⟩
  · obtain ⟨hreports, _, ⟨places, _, hlone, -⟩, -⟩ := (Divided.empty part).alone hinterleaves
    exact ⟨hreports, fun name hname => hlone.side.linkNamed?_eq hname⟩

/-- The names of one of two bridges. -/
def leftNames : Name → Bool
  | .transport name | .native name | .bridge name | .reply name | .settler name
  | .subscription name => name = "left"

/-- Two bridges that both send a request under the id 0 and listen for the same event.  The event
reaches the callback of one of them, and the reply the request of the other. -/
def sameIds : List Step :=
  [.createMemory "left" "l", .createMemory "right" "r",
    .buildBridge "left" "left" [], .buildBridge "right" "right" [],
    .subscribe "left" "left" "tick" [[.pendingCount "left"]],
    .subscribe "right" "right" "tick" [],
    .send "left" "left" "ping" .absent none,
    .send "right" "right" "ping" .absent none,
    .dispatch "left" "tick" .null,
    .deliver "right" "\x7b\"_promise_id\":\"0\",\"data\":1\x7d",
    .poll "left", .poll "right"]

theorem bridges_isolated_of_same_ids :
    (behind {} (sameIds.take 9)).links[1]? = (behind {} (sameIds.take 8)).links[1]? ∧
      reportsWithin leftNames {} (alone leftNames {} sameIds) =
        reportsWithin leftNames {} sameIds ∧
      (behind {} (alone leftNames {} sameIds)).linkNamed? (.bridge "left") =
        (behind {} sameIds).linkNamed? (.bridge "left") := by
  have hleft := bridges_isolated.2 leftNames sameIds (by decide +kernel)
  exact ⟨(bridges_isolated.1 (sameIds.take 8) (.dispatch "left" "tick" .null) 1
    (by decide +kernel) (by decide +kernel)).2 (by decide +kernel), hleft.1, hleft.2 _ rfl⟩

end Session
end HostLink
