import HostLink.Proofs.Moments

/-!
# The history of a session

`Session.history` lists the moments of a session.  The definitions go along those of
`HostLink.Session.Run`, one for each of its functions, and call those functions for the worlds in
between.

Each list of moments leads from the world where its function starts to the one where the function
ends, and the work left for the pumps grows by no more than was paid for: a step is worth two, and
the scripts that it brings are worth two for each of their steps, which they spend when they run
(`World.Passage`).  As in `HostLink.Proofs.Sessions`, calls of callbacks come in as an argument, and
what is said of them is proved by induction on how deep they may nest.
-/

namespace HostLink
namespace World

/-! ## Listing the moments -/

/-- The moments of a call of a callback. -/
abbrev Record := CallbackRef → Snapshot → World → List Moment

/-- The moments of calls of callbacks one after the other. -/
def fanOutMoments (invoke : Invoke) (record : Record) (payload : Snapshot) :
    List CallbackRef → World → List Moment
  | [], _ => []
  | callback :: rest, world =>
    record callback payload world ++
      fanOutMoments invoke record payload rest (invoke callback payload world)

/-- The moments of a delivery from where it was opened, if one was. -/
def goOnMoments (invoke : Invoke) (record : Record) (begun : World) : Option Opening → List Moment
  | some opening =>
    fanOutMoments invoke record opening.calls.payload opening.calls.callbacks begun ++
      [⟨.released opening.link, fanOut invoke opening.calls begun⟩]
  | none => []

/-- The moments of a script. -/
def scriptMoments (invoke : Invoke) (record : Record) (subscription : String) :
    World → List Step → List Moment
  | _, [] => []
  | world, step :: rest =>
    let after := (step.perform invoke world).2
    let ran : Deed := .ran subscription (step.perform invoke world).1
    ⟨.began step, world⟩ ::
      (goOnMoments invoke record (step.begin world) (step.opening? world) ++
        ⟨ran, after⟩ :: scriptMoments invoke record subscription (ran.effect after) rest)

/-- The moments of a call that nests at most `fuel` deep. -/
def callMoments : (fuel : Nat) → Record
  | fuel, ref, payload, world =>
    match world.callbacks[ref.index]?, fuel with
    | some ⟨subscription, script :: _⟩, fuel + 1 =>
      let noted := world.noteCall ref payload
      ⟨.called ref payload, world⟩ :: ⟨.scripted ref, noted⟩ ::
        scriptMoments (call fuel) (callMoments fuel) subscription (noted.takeScript ref) script
    | _, _ => [⟨.called ref payload, world⟩]

/-- The moments of draining a queue. -/
def drainMoments : (fuel : Nat) → LinkIndex → World → List Moment
  | 0, _, _ => []
  | fuel + 1, index, world =>
    match world.channel? index with
    | none => []
    | some channel =>
      match channel.inbox with
      | message :: _ =>
        let taken := world.takeText index
        ⟨.pumped index message, world⟩ ::
          (goOnMoments (call taken.scriptCount) (callMoments taken.scriptCount)
              (taken.hear index message) (taken.hearing? index message) ++
            drainMoments fuel index (deliver (call taken.scriptCount) index message taken))
      | [] => [⟨.rested index, world⟩]

/-- The moments of a pump that runs. -/
def pumpMoments (fuel : Nat) (index : LinkIndex) (world : World) : List Moment :=
  match world.channel? index with
  | none => []
  | some channel =>
    if channel.pump = .fresh then
      ⟨.started index, world⟩ :: drainMoments fuel index (world.startPump index)
    else drainMoments fuel index world

/-- The moments of the pumps that are ready. -/
def pumpsMoments : (fuel : Nat) → (drainFuel : Nat) → World → List Moment
  | 0, _, _ => []
  | fuel + 1, drainFuel, world =>
    match world.ready with
    | [] => []
    | index :: rest =>
      ⟨.turn index, world⟩ ::
        (pumpMoments drainFuel index { world with ready := rest } ++
          pumpsMoments fuel drainFuel (runPump drainFuel index { world with ready := rest }))

end World

namespace Session

/-- The moments of a step of a session, and of the pumps after it. -/
def stepMoments (world : World) (step : Step) : List Moment :=
  let fresh := { world with events := [], log := [] }
  let fuel := fresh.scriptCount + step.scriptCount
  let performed := (fresh.perform step).2
  ⟨.performed step, world⟩ ::
    (World.goOnMoments (World.call fuel) (World.callMoments fuel) (step.begin fresh)
        (step.opening? fresh) ++
      World.pumpsMoments (performed.burden + 1) (performed.burden + 1) performed)

/-- The moments of steps that are run from a given world. -/
def historyFrom (world : World) : List Step → List Moment
  | [] => []
  | step :: rest => stepMoments world step ++ historyFrom (Session.step world step).2 rest

/-- The moments of a session. -/
def history (steps : List Step) : List Moment := historyFrom {} steps

end Session

/-! ## What a session reports -/

/-- The step of the session that begins in a moment, if one does, and the answer to it. -/
def Moment.reported? (moment : Moment) : Option (Step × Answer) :=
  match moment.deed with
  | .performed step => some (step, step.answer moment.start)
  | _ => none

namespace World

/-- The moments lie within a step of the session. -/
def Inward (moments : List Moment) : Prop := moments.filterMap Moment.reported? = []

section inward

variable {invoke : Invoke} {record : Record}

theorem inward_nil : Inward [] := rfl

theorem inward_cons {deed : Deed} {before : World} {rest : List Moment}
    (h : Moment.reported? ⟨deed, before⟩ = none) (hrest : Inward rest) :
    Inward (⟨deed, before⟩ :: rest) :=
  (List.filterMap_cons_none h).trans hrest

theorem inward_append {moments more : List Moment} (h : Inward moments) (h' : Inward more) :
    Inward (moments ++ more) := by
  rw [Inward, List.filterMap_append, h, h']
  rfl

theorem inward_goOn (hrecord : ∀ callback payload world, Inward (record callback payload world))
    (begun : World) (opening? : Option Opening) :
    Inward (goOnMoments invoke record begun opening?) := by
  have hfanOut (payload : Snapshot) (callbacks : List CallbackRef) (world : World) :
      Inward (fanOutMoments invoke record payload callbacks world) := by
    induction callbacks generalizing world with
    | nil => exact inward_nil
    | cons callback rest ih => exact inward_append (hrecord callback payload world) (ih _)
  cases opening? with
  | none => exact inward_nil
  | some opening => exact inward_append (hfanOut _ _ begun) (inward_cons rfl inward_nil)

theorem inward_script (hrecord : ∀ callback payload world, Inward (record callback payload world))
    (subscription : String) (world : World) (script : List Step) :
    Inward (scriptMoments invoke record subscription world script) := by
  induction script generalizing world with
  | nil => exact inward_nil
  | cons step rest ih =>
    have hgoOn : Inward (goOnMoments invoke record (step.begin world) (step.opening? world)) :=
      inward_goOn hrecord _ _
    exact inward_cons rfl (inward_append hgoOn (inward_cons rfl (ih _)))

theorem inward_call (fuel : Nat) (ref : CallbackRef) (payload : Snapshot) (world : World) :
    Inward (callMoments fuel ref payload world) := by
  induction fuel generalizing ref payload world with
  | zero =>
    unfold callMoments
    split
    · contradiction
    · exact inward_cons rfl inward_nil
  | succ fuel ih =>
    unfold callMoments
    split
    · next hfuel =>
      obtain rfl := Nat.succ.inj hfuel
      exact inward_cons rfl (inward_cons rfl (inward_script ih _ _ _))
    · exact inward_cons rfl inward_nil

theorem inward_drain (fuel : Nat) (index : LinkIndex) (world : World) :
    Inward (drainMoments fuel index world) := by
  induction fuel generalizing world with
  | zero => exact inward_nil
  | succ fuel ih =>
    unfold drainMoments
    split
    · exact inward_nil
    · split
      · exact inward_cons rfl (inward_append (inward_goOn (inward_call _) _ _) (ih _))
      · exact inward_cons rfl inward_nil

theorem inward_pumps (fuel drainFuel : Nat) (world : World) :
    Inward (pumpsMoments fuel drainFuel world) := by
  have hpump (index : LinkIndex) (world : World) : Inward (pumpMoments drainFuel index world) := by
    unfold pumpMoments
    split
    · exact inward_nil
    · split
      · exact inward_cons rfl (inward_drain _ _ _)
      · exact inward_drain _ _ _
  induction fuel generalizing world with
  | zero => exact inward_nil
  | succ fuel ih =>
    unfold pumpsMoments
    split
    · exact inward_nil
    · exact inward_cons rfl (inward_append (hpump _ _) (ih _))

end inward
end World

/-- A step of a session begins, and all moments after that lie within it. -/
theorem Session.exists_stepMoments (world : World) (step : Step) :
    ∃ inner, stepMoments world step = ⟨.performed step, world⟩ :: inner ∧ World.Inward inner :=
  ⟨_, rfl, World.inward_append (World.inward_goOn (World.inward_call _) _ _)
    (World.inward_pumps _ _ _)⟩

/-- The history of a session shows its steps, and the answers that the session reports. -/
theorem Session.reported_historyFrom (world : World) (steps : List Step) :
    (historyFrom world steps).filterMap Moment.reported? =
      steps.zip ((runFrom world steps).map StepReport.answer) := by
  induction steps generalizing world with
  | nil => rfl
  | cons step rest ih =>
    have hanswer : (Session.step world step).1.answer =
        step.answer { world with events := [], log := [] } := by
      simp only [Session.step, World.perform, Step.perform_eq]
    obtain ⟨inner, hmoments, hinner⟩ := exists_stepMoments world step
    have hnone : inner.filterMap Moment.reported? = [] := hinner
    rw [historyFrom, List.filterMap_append, ih, runFrom, List.map_cons, hanswer, hmoments,
      List.filterMap_cons_some (by rfl), hnone]
    rfl

/-! ## From moment to moment -/

namespace World

/-- The moments lead from one world to another, and bring the pumps no more work than given. -/
structure Passage (busy : Option LinkIndex) (start : World) (moments : List Moment) (spent : Nat)
    (next : Option LinkIndex) (world : World) : Prop where
  chain : Chain busy start moments next world
  burden : world.burden ≤ start.burden + spent

namespace Passage

variable {busy middle next : Option LinkIndex} {start world last : World}
  {moments more : List Moment} {spent cost : Nat}

theorem refl (busy : Option LinkIndex) (world : World) : Passage busy world [] 0 busy world :=
  ⟨.nil _ _, Nat.le_refl _⟩

theorem trans (h : Passage busy start moments spent middle world)
    (h' : Passage middle world more cost next last) :
    Passage busy start (moments ++ more) (spent + cost) next last := by
  refine ⟨h.chain.append h'.chain, ?_⟩
  have hfirst := h.burden
  have hlater := h'.burden
  omega

theorem mono (h : Passage busy start moments spent next world) (hle : spent ≤ cost) :
    Passage busy start moments cost next world :=
  ⟨h.chain, Nat.le_trans h.burden (Nat.add_le_add_left hle _)⟩

/-- One moment that is due. -/
theorem single {deed : Deed} (sound : world.Sound busy) (due : deed.Due busy world) :
    Passage busy world [⟨deed, world⟩] deed.price (deed.next busy) (deed.effect world) :=
  ⟨.single due, (Deed.unfolds sound due).burden⟩

end Passage

/-- The calls are what is recorded of them, and leave the pumps no more work than there was. -/
def Recorded (invoke : Invoke) (record : Record) : Prop :=
  ∀ callback payload busy (world : World), world.Sound busy →
    Passage busy world (record callback payload world) 0 busy (invoke callback payload world)

section calls

variable {invoke : Invoke} {record : Record} (recorded : Recorded invoke record)
  {busy : Option LinkIndex} {world : World}
include recorded

theorem passage_fanOut (sound : world.Sound busy) (calls : FanOut CallbackRef) :
    Passage busy world (fanOutMoments invoke record calls.payload calls.callbacks world) 0 busy
      (fanOut invoke calls world) := by
  unfold fanOut
  induction calls.callbacks generalizing world with
  | nil => exact .refl _ _
  | cons callback rest ih =>
    have hfirst := recorded callback calls.payload busy world sound
    exact hfirst.trans (ih (hfirst.chain.sound sound))

/-- A delivery that was opened goes on to its end. -/
theorem passage_goOn (sound : world.Sound busy) (opening? : Option Opening) :
    Passage busy world (goOnMoments invoke record world opening?) 0 busy
      (goOn invoke world opening?) := by
  cases opening? with
  | none => exact .refl _ _
  | some opening =>
    have hcalled := passage_fanOut recorded sound opening.calls
    have hdue : Deed.Due busy (fanOut invoke opening.calls world) (.released opening.link) :=
      trivial
    exact hcalled.trans (.single (hcalled.chain.sound sound) hdue)

/-- A step of a script. -/
theorem passage_began (sound : world.Sound busy) (step : Step) :
    Passage busy world
      (⟨.began step, world⟩ ::
        goOnMoments invoke record (step.begin world) (step.opening? world))
      (2 * step.stepCount + 2) busy (step.perform invoke world).2 := by
  have hdue : Deed.Due busy world (.began step) := trivial
  have hbegun := Passage.single sound hdue
  rw [step.perform_eq invoke world]
  exact hbegun.trans (passage_goOn recorded (hbegun.chain.sound sound) _)

/-- A script spends what its steps are worth. -/
theorem passage_runScript (sound : world.Sound busy) (subscription : String)
    (script : List Step) :
    Passage busy world (scriptMoments invoke record subscription world script)
      (2 * stepCountOfSteps script) busy (runScript invoke subscription world script) := by
  unfold runScript
  induction script generalizing world with
  | nil => exact .refl _ _
  | cons step rest ih =>
    let ran : Deed := .ran subscription (step.perform invoke world).1
    have hstep := passage_began recorded sound step
    have hdue : Deed.Due busy (step.perform invoke world).2 ran := trivial
    have hran := hstep.trans (.single (hstep.chain.sound sound) hdue)
    have hall := hran.trans (ih (hran.chain.sound sound))
    simp only [List.cons_append, List.append_assoc, List.nil_append] at hall
    refine hall.mono ?_
    simp only [stepCountOfSteps, Deed.price, ran]
    omega

end calls

/-- A call notes that it was made, and then it runs the callback's next script, if there is one and
fuel for it. -/
theorem call_cases (fuel : Nat) (ref : CallbackRef) (payload : Snapshot) (world : World) :
    call fuel ref payload world = world.noteCall ref payload ∧
        callMoments fuel ref payload world = [⟨.called ref payload, world⟩] ∨
      ∃ less callback script later, fuel = less + 1 ∧
        world.callbacks[ref.index]? = some callback ∧ callback.scripts = script :: later ∧
        call fuel ref payload world = runScript (call less) callback.subscription
          ((world.noteCall ref payload).takeScript ref) script ∧
        callMoments fuel ref payload world =
          ⟨.called ref payload, world⟩ :: ⟨.scripted ref, world.noteCall ref payload⟩ ::
            scriptMoments (call less) (callMoments less) callback.subscription
              ((world.noteCall ref payload).takeScript ref) script := by
  unfold call callMoments noteCall
  cases hcallback : world.callbacks[ref.index]? with
  | none => exact .inl ⟨rfl, rfl⟩
  | some callback =>
    obtain ⟨subscription, _ | ⟨script, later⟩⟩ := callback
    · exact .inl ⟨rfl, rfl⟩
    · cases fuel with
      | zero => exact .inl ⟨rfl, rfl⟩
      | succ less =>
        have htaken : (world.note (.called subscription payload.toJson)).takeScript ref =
            { world.note (.called subscription payload.toJson) with
              callbacks := world.callbacks.set ref.index ⟨subscription, later⟩ } := by
          have hstill : (world.note (.called subscription payload.toJson)).callbacks[ref.index]? =
              some ⟨subscription, script :: later⟩ := hcallback
          rw [takeScript, hstill]
          rfl
        refine .inr ⟨less, ⟨subscription, script :: later⟩, script, later, rfl, rfl, rfl, ?_, rfl⟩
        dsimp only
        rw [htaken]
        rfl

/-- Calls of callbacks are what is recorded of them, however deep they nest: what a script adds to
the work of the pumps it was worth before it ran. -/
theorem recorded_call (fuel : Nat) : Recorded (call fuel) (callMoments fuel) := by
  induction fuel with
  | zero =>
    intro ref payload busy world sound
    obtain ⟨hcall, hmoments⟩ | ⟨less, -, -, -, hfuel, -⟩ := call_cases 0 ref payload world
    · rw [hcall, hmoments]
      have hdue : Deed.Due busy world (.called ref payload) := trivial
      exact .single sound hdue
    · cases hfuel
  | succ fuel ih =>
    intro ref payload busy world sound
    have hdue : Deed.Due busy world (.called ref payload) := trivial
    have hcalled := Passage.single sound hdue
    obtain ⟨hcall, hmoments⟩ |
      ⟨less, callback, script, later, hfuel, hcallback, hscripts, hcall, hmoments⟩ :=
        call_cases (fuel + 1) ref payload world
    · rw [hcall, hmoments]
      exact hcalled
    · obtain rfl := Nat.succ.inj hfuel
      have hnoted : world.noteCall ref payload =
          world.note (.called callback.subscription payload.toJson) := by
        rw [noteCall, hcallback]
      have hstill : (world.noteCall ref payload).callbacks[ref.index]? = some callback := by
        rw [hnoted]
        exact hcallback
      have hfreed := burden_takeScript hstill hscripts
      have hscripted : Deed.Due busy (world.noteCall ref payload) (.scripted ref) := trivial
      have htaken := hcalled.trans (.single (hcalled.chain.sound sound) hscripted)
      have ready : ((world.noteCall ref payload).takeScript ref).Sound busy :=
        htaken.chain.sound sound
      have hran := passage_runScript ih ready callback.subscription script
      rw [hcall, hmoments]
      refine ⟨(htaken.trans hran).chain, ?_⟩
      have hburden : (world.noteCall ref payload).burden = world.burden := by
        rw [hnoted]
        rfl
      have hspent := hran.burden
      omega

end World
end HostLink
