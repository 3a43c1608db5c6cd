import HostLink.Proofs.TandemRuns

/-!
# Sessions in two parts

If every step of a session keeps to one of two parts of the names, with what callbacks do in it, the
session is two sessions at once.  Each side goes as if it were alone, but for the clock, which both
sides share: the lone session has the side's own steps, and the clock moves on in it by the time
that passed in the steps of the other side (`Session.alone`).

`Divided` says that a world is made of the worlds of two lone sides.  Both sides have the same
standing in it, so one step lemma does for the steps of either (`Divided.step`).
-/

namespace HostLink

/-- A step in two parts that exclude each other has no names. -/
theorem Step.names_of_within {part : Name → Bool} (step : Step) (h : step.within part = true)
    (hother : step.within (fun name => !part name) = true) : step.names = [] := by
  refine List.eq_nil_iff_forall_not_mem.2 fun name hmem => ?_
  have hname := List.all_eq_true.1 h name hmem
  have hnot := List.all_eq_true.1 hother name hmem
  rw [hname] at hnot
  cases hnot

/-- The bookkeeping does not look at the time or at what was brought. -/
theorem World.Sound.elapse {world : World} {busy : Option LinkIndex} (h : world.Sound busy)
    (now : Instant) (events : List Event) (log : List LogEvent) :
    World.Sound busy { world with now, events, log } :=
  ⟨h.nodup, h.running, h.inlets, h.natives, h.alone, h.held⟩

/-! ## One side -/

/-- Between two steps, the world of one side when it is alone, next to the world of the session. -/
structure Lone (part : Name → Bool) (places : Places) (own world : World) : Prop where
  side : Side part places own.inventory world.inventory
  now : own.now = world.now
  pins : own.pins = []
  ready : own.ready = []
  sound : own.Sound none

namespace Session

variable {world : World}

/-- A step keeps to a part of the names: neither it nor a callback in it has other names. -/
def KeepsTo (part : Name → Bool) (world : World) (step : Step) : Prop :=
  step.within part = true ∧ ∀ doing ∈ doings world step, doing.within part = true

/-- Every step keeps to a part of the names or to the other names. -/
def Interleaves (part : Name → Bool) (world : World) : List Step → Prop
  | [] => True
  | step :: rest =>
    (KeepsTo part world step ∨ KeepsTo (fun name => !part name) world step) ∧
      Interleaves part (Session.step world step).2 rest

instance (part : Name → Bool) (world : World) (step : Step) :
    Decidable (KeepsTo part world step) :=
  inferInstanceAs (Decidable (_ ∧ _))

instance decidableInterleaves (part : Name → Bool) :
    (world : World) → (steps : List Step) → Decidable (Interleaves part world steps)
  | _, [] => isTrue trivial
  | world, step :: rest =>
    have := decidableInterleaves part (Session.step world step).2 rest
    inferInstanceAs (Decidable (_ ∧ _))

/-- A step without names keeps to every part. -/
theorem keepsTo_of_names (hidle : world.ready = []) {step : Step} (hnames : step.names = [])
    (part : Name → Bool) : KeepsTo part world step := by
  cases step with
  | advance time =>
    refine ⟨rfl, fun doing hmem => ?_⟩
    have hnone : doings world (.advance time) = [] := by
      simp [doings, Step.opening?, World.openingDoings, World.pumpsDoings, World.perform,
        Step.perform, hidle]
    rw [hnone] at hmem
    cases hmem
  | openFacade name facade source => cases source <;> cases hnames
  | _ => cases hnames

/-- Between two steps, moving the clock does nothing else. -/
theorem step_advance (hidle : world.ready = []) (time : Nanoseconds) :
    Session.step world (.advance time) =
      (⟨.done, [], []⟩, { world with now := world.now + time, events := [], log := [] }) := by
  have hperform : World.perform { world with events := [], log := [] } (.advance time) =
      (.done, { world with now := world.now + time, events := [], log := [] }) := rfl
  rw [step_of_idle hperform hidle, sortExpiries_nil]

end Session

/-- The world of a session is made of the worlds of two sides. -/
structure Divided (part : Name → Bool) (own other world : World) : Prop where
  sides : ∃ places elsewhere, Lone part places own world ∧
    Lone (fun name => !part name) elsewhere other world ∧ places.Apart elsewhere
  pins : world.pins = []
  ready : world.ready = []

namespace Divided

variable {part : Name → Bool} {own other world : World}

theorem empty (part : Name → Bool) : Divided part {} {} {} := by
  have hlone (part : Name → Bool) : Lone part {} {} {} :=
    ⟨⟨.nil _ _, .nil _ _, .nil _ _, .nil _ _, .nil _ _, .nil _ _, .nil _ _, .nil _ _, .nil _ _⟩,
      rfl, rfl, rfl, World.sound_empty⟩
  exact ⟨⟨{}, {}, hlone _, hlone _, nofun, nofun, nofun⟩, rfl, rfl⟩

theorem symm (h : Divided part own other world) :
    Divided (fun name => !part name) other own world := by
  obtain ⟨⟨places, elsewhere, hown, hother, hapart⟩, hpins, hready⟩ := h
  refine ⟨⟨elsewhere, places, hother, ?_, hapart.symm⟩, hpins, hready⟩
  simpa using hown

/-- What the last step of a side brought does not matter. -/
theorem quiet (h : Divided part own other world) :
    Divided part { own with events := [], log := [] } other world := by
  obtain ⟨⟨places, elsewhere, hown, hother, hapart⟩, hpins, hready⟩ := h
  exact ⟨⟨places, elsewhere, ⟨hown.side, hown.now, hown.pins, hown.ready, hown.sound.elapse _ _ _⟩,
    hother, hapart⟩, hpins, hready⟩

/-- A step of one side brings what it brings to that side alone; for the other side only time
passes. -/
theorem step (h : Divided part own other world) {step : Step}
    (hkeeps : Session.KeepsTo part world step) :
    (Session.step own step).1 = (Session.step world step).1 ∧
      other.now ≤ (Session.step world step).2.now ∧
      Divided part (Session.step own step).2
        { other with now := (Session.step world step).2.now } (Session.step world step).2 := by
  obtain ⟨⟨places, elsewhere, hown, hother, hapart⟩, hpins, hready⟩ := h
  let company : Company := { part, elsewhere, others := other.inventory, since := own.now }
  have htandem : Tandem company own.scriptCount places { own with events := [], log := [] }
      { world with events := [], log := [] } := by
    refine ⟨hown.side, hother.side, hapart, hown.now, Nat.le_refl _, ?_, ?_, rfl, rfl,
      Nat.le_refl _⟩
    · rw [hown.pins, hpins]
      exact .nil
    · rw [hown.ready, hready]
      exact .nil
  obtain ⟨hreport, after, hgrows, hworlds⟩ := htandem.step hkeeps.1 hkeeps.2 hown.sound
  obtain ⟨hpassage, hidle⟩ := Session.passage_step hown.sound step
  have hsound := hpassage.chain.sound hown.sound
  have hunpinned : (Session.step own step).2.pins = [] :=
    (Session.leads_step own step).pins.trans hown.pins
  have hsince : other.now ≤ (Session.step world step).2.now := by
    rw [hother.now, ← hown.now, ← hworlds.now]
    exact hworlds.since
  refine ⟨hreport, hsince,
    ⟨after, elsewhere, ⟨hworlds.side, hworlds.now, hunpinned, hidle, hsound⟩, ?_,
      hworlds.apart⟩, ?_, ?_⟩
  · exact ⟨hworlds.others, rfl, hother.pins, hother.ready, hother.sound.elapse _ _ _⟩
  · exact (Session.leads_step world step).pins.trans hpins
  · have hturns := hworlds.ready
    rw [hidle] at hturns
    exact List.forall₂_nil_left_iff.1 hturns

end Divided

/-! ## Sessions -/

namespace Session

/-- The session of one side alone: its own steps, and the time that passes in the other steps. -/
def alone (part : Name → Bool) (world : World) : List Step → List Step
  | [] => []
  | step :: rest =>
    let after := (Session.step world step).2
    if step.within part then step :: alone part after rest
    else match after.now - world.now with
      | 0 => alone part after rest
      | time + 1 => .advance (time + 1) :: alone part after rest

/-- The reports of the steps that have names, all of them in the part. -/
def reportsWithin (part : Name → Bool) (world : World) (steps : List Step) : List StepReport :=
  ((steps.zip (runFrom world steps)).filter fun step =>
    step.1.within part && !step.1.names.isEmpty).map Prod.snd

variable {part : Name → Bool} {world : World}

theorem reportsWithin_cons (step : Step) (rest : List Step) :
    reportsWithin part world (step :: rest) =
      (if step.within part && !step.names.isEmpty then [(Session.step world step).1] else []) ++
        reportsWithin part (Session.step world step).2 rest := by
  simp only [reportsWithin, runFrom, List.zip_cons_cons, List.filter_cons]
  split <;> rfl

end Session

/-- Each side of a session goes as if it were alone. -/
theorem Divided.alone {part : Name → Bool} {own other world : World} {steps : List Step}
    (h : Divided part own other world)
    (hinterleaves : Session.Interleaves part world steps) :
    Session.reportsWithin part own (Session.alone part world steps) =
        Session.reportsWithin part world steps ∧
      ∃ other', Divided part (Session.behind own (Session.alone part world steps)) other'
        (Session.behind world steps) := by
  induction steps generalizing own other world with
  | nil => exact ⟨rfl, other, h⟩
  | cons step rest ih =>
    obtain ⟨hfirst, hrest⟩ := hinterleaves
    rw [Session.reportsWithin_cons, Session.alone]
    by_cases hpart : step.within part = true
    · have hkeeps : Session.KeepsTo part world step :=
        hfirst.elim id fun hother => Session.keepsTo_of_names h.ready
          (step.names_of_within hpart hother.1) part
      obtain ⟨hreport, -, hafter⟩ := h.step hkeeps
      obtain ⟨hreports, hworlds⟩ := ih hafter hrest
      rw [if_pos hpart, Session.reportsWithin_cons, hreport, hreports]
      exact ⟨rfl, hworlds⟩
    · obtain ⟨-, hsince, hafter⟩ := h.symm.step (hfirst.resolve_left fun hkeeps => hpart hkeeps.1)
      have hswapped := hafter.symm
      simp only [Bool.not_not] at hswapped
      obtain ⟨⟨_, _, hown, -⟩, -⟩ := h
      rw [if_neg hpart, Bool.eq_false_of_not_eq_true hpart, Bool.false_and, if_neg nofun,
        List.nil_append]
      rw [hown.now] at hsince
      cases htime : (Session.step world step).2.now - world.now with
      | zero =>
        have hstill : (Session.step world step).2.now = own.now :=
          (Nat.le_antisymm (Nat.sub_eq_zero_iff_le.1 htime) hsince).trans hown.now.symm
        rw [hstill] at hswapped
        exact ih hswapped hrest
      | succ time =>
        have hmoved : (Session.step world step).2.now = own.now + (time + 1) := by
          rw [hown.now, ← Nat.succ_eq_add_one, ← htime, Nat.add_sub_cancel' hsince]
        have hquiet := hswapped.quiet
        rw [hmoved] at hquiet
        obtain ⟨hreports, hworlds⟩ := ih hquiet hrest
        have hstep := Session.step_advance hown.ready (time + 1)
        dsimp only
        rw [Session.reportsWithin_cons, hstep]
        refine ⟨hreports, ?_⟩
        rw [Session.behind, List.foldl_cons, hstep]
        exact hworlds

end HostLink
