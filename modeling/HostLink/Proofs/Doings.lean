import HostLink.Proofs.Bookkeeping
import HostLink.Proofs.Sparing
import Mathlib.Logic.Relation

/-!
# What goes on inside a step

Inside a step of a session callbacks run the steps of their scripts, which may call callbacks again,
and pumps take turns.  `Session.doings` lists all of it, in the order in which it begins, each with
the worlds before and after.  The definitions go along those of `HostLink.Session.Run`.

A link that a step does not address gets from where it was to where it is by those doings alone that
are about it (`Session.trails_step`): between them nothing happens to it.
-/

namespace HostLink

/-- Something that goes on inside a step of a session. -/
inductive Doing where
  /-- A callback runs a step of its script. -/
  | ran (step : Step) (before after : World)
  /-- A pump takes its turn. -/
  | turn (index : LinkIndex) (before after : World)

namespace Doing

def before : Doing → World
  | .ran _ before _ => before
  | .turn _ before _ => before

def after : Doing → World
  | .ran _ _ after => after
  | .turn _ _ after => after

/-- The doing is a step of a callback that addresses the link. -/
def Addresses (index : LinkIndex) : Doing → Prop
  | .ran step before _ => step.Addresses before index
  | .turn _ _ _ => False

instance (doing : Doing) (index : LinkIndex) : Decidable (doing.Addresses index) :=
  match doing with
  | .ran step before _ => inferInstanceAs (Decidable (step.Addresses before index))
  | .turn _ _ _ => isFalse id

/-- A callback's step addresses the link, or the pump of the link was ready and takes its turn. -/
def Concerns (index : LinkIndex) : Doing → Prop
  | .ran step before _ => step.Addresses before index
  | .turn other before _ => other = index ∧ index ∈ before.ready

/-- If the doing is a step of a callback, all its names are in the given part. -/
def within (part : Name → Bool) : Doing → Bool
  | .ran step _ _ => step.within part
  | .turn _ _ _ => true

end Doing

/-! ## Listing what goes on -/

namespace World

/-- What goes on in a call of a callback. -/
abbrev Trace := CallbackRef → Snapshot → World → List Doing

/-- What goes on while callbacks are called one after the other. -/
def fanOutDoings (invoke : Invoke) (trace : Trace) (payload : Snapshot) :
    List CallbackRef → World → List Doing
  | [], _ => []
  | callback :: rest, world =>
    trace callback payload world ++
      fanOutDoings invoke trace payload rest (invoke callback payload world)

/-- What goes on in a delivery, if there is one. -/
def openingDoings (invoke : Invoke) (trace : Trace) : Option Opening → List Doing
  | some opening =>
    fanOutDoings invoke trace opening.calls.payload opening.calls.callbacks opening.world
  | none => []

/-- What goes on in a script. -/
def scriptDoings (invoke : Invoke) (trace : Trace) (subscription : String) :
    World → List Step → List Doing
  | _, [] => []
  | world, step :: rest =>
    let after := (step.perform invoke world).2
    let noted := after.note (.ran subscription (step.perform invoke world).1)
    .ran step world after :: (openingDoings invoke trace (step.opening? world) ++
      scriptDoings invoke trace subscription noted rest)

/-- What goes on in a call of a callback that nests at most `fuel` deep. -/
def callDoings : (fuel : Nat) → Trace
  | 0, _, _, _ => []
  | fuel + 1, ref, payload, world =>
    match world.callbacks[ref.index]? with
    | none => []
    | some callback =>
      match callback.scripts with
      | [] => []
      | script :: later =>
        let noted := world.note (.called callback.subscription payload.toJson)
        let taken := { noted with
          callbacks := noted.callbacks.set ref.index { callback with scripts := later } }
        scriptDoings (call fuel) (callDoings fuel) callback.subscription taken script

/-- What goes on while a queue is drained. -/
def drainDoings : (fuel : Nat) → LinkIndex → World → List Doing
  | 0, _, _ => []
  | fuel + 1, index, world =>
    match world.links[index]? with
    | none => []
    | some link =>
      match link.channel? with
      | none => []
      | some channel =>
        match channel.inbox with
        | message :: rest =>
          let taken := world.setLink index (link.withChannel { channel with inbox := rest })
          openingDoings (call taken.scriptCount) (callDoings taken.scriptCount)
              (taken.hearing? index message) ++
            drainDoings fuel index (deliver (call taken.scriptCount) index message taken)
        | [] => []

/-- What goes on while a pump runs. -/
def pumpDoings (fuel : Nat) (index : LinkIndex) (world : World) : List Doing :=
  match world.links[index]? with
  | none => []
  | some link =>
    match link.channel? with
    | none => []
    | some channel =>
      if channel.pump = .fresh then
        drainDoings fuel index
          ((world.setPump index link channel .awake).write [.pumpStarted link.transport.id])
      else drainDoings fuel index world

/-- What goes on while the pumps that are ready run. -/
def pumpsDoings : (fuel : Nat) → (drainFuel : Nat) → World → List Doing
  | 0, _, _ => []
  | fuel + 1, drainFuel, world =>
    match world.ready with
    | [] => []
    | index :: rest =>
      let after := runPump drainFuel index { world with ready := rest }
      .turn index world after ::
        (pumpDoings drainFuel index { world with ready := rest } ++
          pumpsDoings fuel drainFuel after)

end World

/-- What goes on inside a step of a session and the pumps after it. -/
def Session.doings (world : World) (step : Step) : List Doing :=
  let fresh := { world with events := [], log := [] }
  let fuel := fresh.scriptCount + step.scriptCount
  let performed := (fresh.perform step).2
  World.openingDoings (World.call fuel) (World.callDoings fuel) (step.opening? fresh) ++
    World.pumpsDoings (performed.burden + 1) (performed.burden + 1) performed

/-! ## Following a link -/

/-- One of the doings is about the link, and takes it from one view to the other. -/
def Moves (index : LinkIndex) (doings : List Doing)
    (view after : Option (Link CallbackRef) × Bool) : Prop :=
  ∃ doing ∈ doings, doing.Concerns index ∧
    doing.before.view index = view ∧ doing.after.view index = after

/-- No link goes away between two worlds; and if a link is not addressed itself, it gets from one to
the other by those doings that are about it. -/
structure Trails (index : LinkIndex) (spared : Prop) (doings : List Doing)
    (before after : World) : Prop where
  length : before.links.length ≤ after.links.length
  view : spared → index < before.links.length →
    Relation.ReflTransGen (Moves index doings) (before.view index) (after.view index)

namespace Trails

variable {index : LinkIndex} {spared spared' : Prop} {doings more : List Doing}
  {before middle after : World}

theorem of_spares {touched : LinkIndex → Prop} (h : World.Spares touched before after)
    (hspared : spared → ¬touched index) :
    Trails index spared doings before after :=
  ⟨h.length, fun hsafe hlt => by rw [h.view index hlt (hspared hsafe)]⟩

/-- The links and the turns are the same. -/
theorem of_same (hlinks : after.links = before.links) (hready : after.ready = before.ready) :
    Trails index spared doings before after :=
  of_spares ((World.Spares.refl (fun _ => False) before).of_same hlinks hready) fun _ h => h

theorem mono (h : Trails index spared doings before after) (hdoings : doings ⊆ more)
    (hspared : spared' → spared) : Trails index spared' more before after := by
  have hmoves : Moves index doings ≤ Moves index more :=
    fun view next ⟨doing, hmem, hmove⟩ => ⟨doing, hdoings hmem, hmove⟩
  exact ⟨h.length, fun hsafe hlt =>
    Relation.ReflTransGen.mono hmoves _ _ (h.view (hspared hsafe) hlt)⟩

theorem trans (h : Trails index spared doings before middle)
    (h' : Trails index spared doings middle after) : Trails index spared doings before after :=
  ⟨Nat.le_trans h.length h'.length, fun hsafe hlt =>
    (h.view hsafe hlt).trans (h'.view hsafe (Nat.lt_of_lt_of_le hlt h.length))⟩

theorem append (h : Trails index spared doings before middle)
    (h' : Trails index spared more middle after) :
    Trails index spared (doings ++ more) before after :=
  (h.mono (List.subset_append_left _ _) id).trans (h'.mono (List.subset_append_right _ _) id)

/-- What takes a link by itself from one view to the next is one move, and in it more may go on. -/
theorem wrap {doing : Doing} {rest : List Doing}
    (h : Trails index (¬doing.Concerns index) rest doing.before doing.after) :
    Trails index True (doing :: rest) doing.before doing.after := by
  refine ⟨h.length, fun _ hlt => ?_⟩
  by_cases hconcerns : doing.Concerns index
  · exact .single ⟨doing, List.mem_cons_self, hconcerns, rfl, rfl⟩
  · exact (h.mono (List.subset_cons_self _ _) id).view hconcerns hlt

end Trails

namespace World

variable {index : LinkIndex} {spared : Prop} {invoke : Invoke} {trace : Trace}

/-- Calls that move a link by what goes on in them alone. -/
def Traced (index : LinkIndex) (invoke : Invoke) (trace : Trace) : Prop :=
  ∀ callback payload world,
    Trails index True (trace callback payload world) world (invoke callback payload world)

theorem trails_fanOut (traced : Traced index invoke trace) (calls : FanOut CallbackRef)
    (world : World) :
    Trails index True (fanOutDoings invoke trace calls.payload calls.callbacks world) world
      (fanOut invoke calls world) := by
  unfold fanOut
  induction calls.callbacks generalizing world with
  | nil => exact .of_same rfl rfl
  | cons callback rest ih => exact (traced callback calls.payload world).append (ih _)

/-- A delivery moves other links by the calls in it alone. -/
theorem trails_close {touched : LinkIndex → Prop} {opening : Opening} {world : World}
    (traced : Traced index invoke trace) (spares : Spares touched world opening.world)
    (htouched : touched opening.link) :
    Trails index (¬touched index) (openingDoings invoke trace (some opening)) world
      (opening.close invoke) := by
  have hcalls := trails_fanOut traced opening.calls opening.world
  have hunpin := (Spares.refl touched
    (fanOut invoke opening.calls opening.world)).unpin htouched
  have hcalled := (Trails.of_spares spares id).trans
    (hcalls.mono (List.Subset.refl _) fun _ => trivial)
  exact hcalled.trans (.of_spares hunpin id)

end World

/-- A step moves the links that it does not address by what goes on in it alone. -/
theorem Step.trails_perform {index : LinkIndex} {invoke : World.Invoke} {trace : World.Trace}
    (traced : World.Traced index invoke trace) (step : Step) (world : World) :
    Trails index (¬step.Addresses world index)
      (World.openingDoings invoke trace (step.opening? world)) world
      (step.perform invoke world).2 := by
  cases step.course world with
  | delivery opening opens addressed spares closes =>
    rw [opens, closes]
    exact World.trails_close traced spares addressed
  | plain opens spares => exact .of_spares (spares invoke) id

namespace World

variable {index other : LinkIndex} {invoke : Invoke} {trace : Trace} {world : World}

theorem trails_ran (traced : Traced index invoke trace) (step : Step) (world : World) :
    Trails index True (.ran step world (step.perform invoke world).2 ::
      openingDoings invoke trace (step.opening? world)) world (step.perform invoke world).2 := by
  have hstep : Trails index
      (¬Doing.Concerns index (.ran step world (step.perform invoke world).2)) _ _ _ :=
    step.trails_perform traced world
  exact hstep.wrap

theorem trails_runScript (traced : Traced index invoke trace) (subscription : String)
    (script : List Step) (world : World) :
    Trails index True (scriptDoings invoke trace subscription world script) world
      (runScript invoke subscription world script) := by
  unfold runScript
  induction script generalizing world with
  | nil => exact .of_same rfl rfl
  | cons step rest ih =>
    have hran : Trails index True
        (.ran step world (step.perform invoke world).2 ::
          openingDoings invoke trace (step.opening? world)) world
        ((step.perform invoke world).2.note (.ran subscription (step.perform invoke world).1)) :=
      (trails_ran traced step world).trans (.of_same rfl rfl)
    exact hran.append (ih _)

theorem traced_call (index : LinkIndex) (fuel : Nat) :
    Traced index (call fuel) (callDoings fuel) := by
  induction fuel with
  | zero =>
    intro ref payload world
    unfold call
    split
    · exact .of_same rfl rfl
    · dsimp only
      split
      · contradiction
      · exact .of_same rfl rfl
  | succ fuel ih =>
    intro ref payload world
    unfold call callDoings
    cases world.callbacks[ref.index]? with
    | none => exact .of_same rfl rfl
    | some callback =>
      dsimp only
      cases callback.scripts with
      | nil => exact .of_same rfl rfl
      | cons script later =>
        let taken : World := { world.note (.called callback.subscription payload.toJson) with
          callbacks := world.callbacks.set ref.index { callback with scripts := later } }
        have htaken : Trails index True (scriptDoings (call fuel) (callDoings fuel)
            callback.subscription taken script) world taken := .of_same rfl rfl
        exact htaken.trans (trails_runScript ih callback.subscription script taken)

/-- A message that comes in moves other links by the calls in its delivery alone. -/
theorem trails_deliver (traced : Traced index invoke trace) (other : LinkIndex)
    (message : String) (world : World) :
    Trails index (other ≠ index) (openingDoings invoke trace (world.hearing? other message)) world
      (deliver invoke other message world) := by
  have hself : Spares (other = ·) world world := .refl _ world
  obtain ⟨opening, hopens, hlink, hspares, hcloses⟩ | ⟨-, hspares⟩ := hself.hearing rfl message
  · rw [hopens, hcloses]
    exact (trails_close traced hspares hlink.symm)
  · exact .of_spares (hspares invoke) id

/-! ## Pumps -/

/-- A queue that is drained into its listener moves other links by the calls alone. -/
theorem trails_drain (index other : LinkIndex) (fuel : Nat) (world : World) :
    Trails index (other ≠ index) (drainDoings fuel other world) world (drain fuel other world) := by
  have hspare {world : World} (after : Link CallbackRef) {doings : List Doing} :
      Trails index (other ≠ index) doings world (world.setLink other after) :=
    .of_spares ((Spares.refl (other = ·) world).setLink rfl after) id
  induction fuel generalizing world with
  | zero => exact .of_same rfl rfl
  | succ fuel ih =>
    unfold drain drainDoings
    cases world.links[other]? with
    | none => exact .of_same rfl rfl
    | some link =>
      dsimp only
      cases link.channel? with
      | none => exact .of_same rfl rfl
      | some channel =>
        dsimp only
        cases channel.inbox with
        | nil =>
          dsimp only
          split
          · exact hspare _
          · exact (hspare _).trans (.of_same rfl rfl)
        | cons message rest =>
          let taken := world.setLink other (link.withChannel { channel with inbox := rest })
          have hheard := trails_deliver (traced_call index taken.scriptCount) other message taken
          exact ((hspare _).trans hheard).append (ih _)

theorem trails_runPump (index other : LinkIndex) (fuel : Nat) (world : World) :
    Trails index (other ≠ index) (pumpDoings fuel other world) world
      (runPump fuel other world) := by
  unfold runPump pumpDoings
  cases world.links[other]? with
  | none => exact .of_same rfl rfl
  | some link =>
    dsimp only
    cases link.channel? with
    | none => exact .of_same rfl rfl
    | some channel =>
      dsimp only
      split
      · have hstarted : Spares (other = ·) world
            ((world.setPump other link channel .awake).write [.pumpStarted link.transport.id]) :=
          ((Spares.refl _ world).setLink rfl _).write _
        exact (Trails.of_spares hstarted id).trans (trails_drain index other fuel _)
      · exact trails_drain index other fuel world

theorem trails_runPumpsFor (index : LinkIndex) (fuel drainFuel : Nat) (world : World) :
    Trails index True (pumpsDoings fuel drainFuel world) world
      (runPumpsFor fuel drainFuel world) := by
  induction fuel generalizing world with
  | zero => exact .of_same rfl rfl
  | succ fuel ih =>
    unfold runPumpsFor pumpsDoings
    cases hready : world.ready with
    | nil => exact .of_same rfl rfl
    | cons other rest =>
      have hpopped : Spares (other = ·) world { world with ready := rest } :=
        (Spares.refl _ world).takeTurn rfl hready
      have hran := trails_runPump index other drainFuel { world with ready := rest }
      have hturn : Trails index (¬Doing.Concerns index (.turn other world
          (runPump drainFuel other { world with ready := rest }))) _ _ _ :=
        ((Trails.of_spares hpopped id).trans hran).mono (List.Subset.refl _) fun hother heq =>
          hother ⟨heq, heq ▸ hready ▸ List.mem_cons_self⟩
      exact hturn.wrap.append (ih _)

end World

namespace Session

/-- A step of a session moves a link that it does not address by what goes on in it alone. -/
theorem trails_step (world : World) (step : Step) (index : LinkIndex) :
    Trails index (¬step.Addresses world index) (doings world step) world
      (Session.step world step).2 := by
  let fresh : World := { world with events := [], log := [] }
  have hfresh : Trails index (¬step.Addresses world index) [] world fresh := .of_same rfl rfl
  have hperformed := step.trails_perform
    (World.traced_call index (fresh.scriptCount + step.scriptCount)) fresh
  exact (hfresh.append hperformed).append
    ((World.trails_runPumpsFor index _ _ _).mono (List.Subset.refl _) fun _ => trivial)

/-- A link whose pump is not about to run stays as it is, if neither the step nor any step that a
callback runs in it addresses the link. -/
theorem link_step {world : World} {step : Step} {index : LinkIndex}
    (hlt : index < world.links.length) (hidle : index ∉ world.ready)
    (hspared : ¬step.Addresses world index)
    (hdoings : ∀ doing ∈ doings world step, ¬doing.Addresses index) :
    (Session.step world step).2.links[index]? = world.links[index]? := by
  -- The first move would be a turn of the pump, and that the pump has none is in the view.
  have hchain := (trails_step world step index).view hspared hlt
  obtain hsame | ⟨next, ⟨doing, hmem, hconcerns, hview, -⟩, -⟩ :=
    Relation.ReflTransGen.cases_head hchain
  · exact (congrArg Prod.fst hsame).symm
  · cases doing with
    | ran script before after => exact absurd hconcerns (hdoings _ hmem)
    | turn other before after =>
      have hturn : before.ready.contains index = true := List.contains_iff_mem.2 hconcerns.2
      have hready : before.ready.contains index = world.ready.contains index :=
        congrArg Prod.snd hview
      rw [hturn, eq_comm, List.contains_iff_mem] at hready
      exact absurd hready hidle

end Session
end HostLink
