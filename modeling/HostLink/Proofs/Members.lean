import HostLink.Json.Lexer

/-!
# Members read into a draft

A record is read by folding the members of an object into a draft, one step a member.  `Fills` says
what a step has to do with one place of the draft, and `Fills.gives` follows that place through the
whole fold: with distinct names, it ends up with what the member under its name says, or empty.
`exists_foldlM` is the other half, that a fold over acceptable members goes through.

What members say is put without the fold by `Fields.Gives`, which only looks up a name.  Neither
the order of the members nor a member under another name has a part in it.
-/

namespace HostLink

/-! ## What members say -/

namespace Fields

variable {α β γ : Type}

/-- With distinct names, what a name stands for does not depend on the order of the fields. -/
theorem lookup_perm {fields others : Fields α} (h : others.Perm fields)
    (distinct : (names fields).Nodup) (name : String) :
    lookup name others = lookup name fields := by
  have distinctOthers : (names others).Nodup := (h.map Prod.fst).nodup_iff.2 distinct
  cases hvalue : lookup name fields with
  | some value => exact lookup_of_nodup distinctOthers (h.mem_iff.2 (mem_of_lookup hvalue))
  | none =>
    rw [lookup_eq_none_iff] at hvalue ⊢
    exact fun hmem => hvalue ((h.map Prod.fst).mem_iff.1 hmem)

theorem lookup_filter_of_pos {p : String × α → Bool} {name : String}
    (h : ∀ value, p (name, value) = true) (fields : Fields α) :
    lookup name (fields.filter p) = lookup name fields := by
  induction fields with
  | nil => rfl
  | cons field rest ih =>
    obtain ⟨other, value⟩ := field
    by_cases hname : other = name
    · subst hname
      simp [h, lookup]
    · by_cases hp : p (other, value) <;> simp [hp, lookup, hname, ih]

/-- The fields say `value` under `name`: it is what the field there means, or the default where
there is none. -/
def Gives (name : String) (fields : Fields β) (means : β → α → Prop) (default value : α) : Prop :=
  match lookup name fields with
  | none => value = default
  | some given => means given value

/-- The field under `name`, if there is one, means something. -/
def Admits (name : String) (fields : Fields β) (means : β → α → Prop) : Prop :=
  ∀ given, lookup name fields = some given → ∃ value, means given value

theorem exists_gives_iff {name : String} {fields : Fields β} {means : β → α → Prop} (default : α) :
    (∃ value, Gives name fields means default value) ↔ Admits name fields means := by
  unfold Gives Admits
  cases lookup name fields <;> simp

theorem Gives.unique {name : String} {fields : Fields β} {means : β → α → Prop} {default a b : α}
    (functional : ∀ given a b, means given a → means given b → a = b)
    (ha : Gives name fields means default a) (hb : Gives name fields means default b) : a = b := by
  unfold Gives at ha hb
  cases hlookup : lookup name fields with
  | none =>
    rw [hlookup] at ha hb
    exact ha.trans hb.symm
  | some given =>
    rw [hlookup] at ha hb
    exact functional given a b ha hb

theorem Gives.imp {name : String} {fields others : Fields β} {means meant : β → α → Prop}
    {default value : α} (hlookup : lookup name others = lookup name fields)
    (himp : ∀ given, lookup name fields = some given → means given value → meant given value)
    (h : Gives name fields means default value) : Gives name others meant default value := by
  unfold Gives at h ⊢
  rw [hlookup]
  cases hgiven : lookup name fields with
  | none => rwa [hgiven] at h
  | some given =>
    rw [hgiven] at h
    exact himp given hgiven h

end Fields

/-! ## One place of a draft -/

section Fold

variable {σ ε α : Type} {step : σ → String × Json → Except ε σ}

/-- Reading a member under `name` puts its value into a place that was empty, and no other member
touches the place. -/
structure Fills (step : σ → String × Json → Except ε σ) (name : String) (place : σ → Option α)
    (read : Json → Except ε α) : Prop where
  own : ∀ {draft after value}, place draft = none → step draft (name, value) = .ok after →
    ∃ a, read value = .ok a ∧ place after = some a
  other : ∀ {draft after member}, member.1 ≠ name → step draft member = .ok after →
    place after = place draft

namespace Fills

variable {name : String} {place : σ → Option α} {read : Json → Except ε α}

theorem kept (fills : Fills step name place read) {members : Fields Json} {draft after : σ}
    (absent : name ∉ Fields.names members) (h : members.foldlM step draft = .ok after) :
    place after = place draft := by
  induction members generalizing draft with
  | nil =>
    obtain rfl := Except.ok.inj h
    rfl
  | cons member rest ih =>
    obtain ⟨hne, absentRest⟩ := not_or.1 (mt List.mem_cons.2 absent)
    rw [List.foldlM_cons, bind_eq_ok_iff] at h
    obtain ⟨middle, hstep, hrest⟩ := h
    exact (ih absentRest hrest).trans (fills.other (Ne.symm hne) hstep)

/-- After all members, the place holds what the member under its name says. -/
theorem gives (fills : Fills step name place read) {members : Fields Json} {draft after : σ}
    (distinct : (Fields.names members).Nodup) (empty : place draft = none)
    (h : members.foldlM step draft = .ok after) (default : α) :
    Fields.Gives name members (fun value a => read value = .ok a) default
      ((place after).getD default) := by
  induction members generalizing draft with
  | nil =>
    obtain rfl := Except.ok.inj h
    simp [Fields.Gives, Fields.lookup, empty]
  | cons member rest ih =>
    obtain ⟨other, value⟩ := member
    obtain ⟨absent, distinctRest⟩ := List.nodup_cons.1 distinct
    rw [List.foldlM_cons, bind_eq_ok_iff] at h
    obtain ⟨middle, hstep, hrest⟩ := h
    by_cases hname : other = name
    · subst hname
      obtain ⟨a, hread, hfilled⟩ := fills.own empty hstep
      have hafter : place after = some a := (fills.kept absent hrest).trans hfilled
      simp [Fields.Gives, Fields.lookup, hread, hafter]
    · have hgives := ih distinctRest ((fills.other hname hstep).trans empty) hrest
      simpa [Fields.Gives, Fields.lookup, hname] using hgives

end Fills

/-- A fold over members with distinct names goes through, if every step takes an acceptable member
whose name is free and leaves all other names free. -/
theorem exists_foldlM (free : σ → String → Prop) (accepts : String × Json → Prop)
    (hstep : ∀ draft member, free draft member.1 → accepts member →
      ∃ after, step draft member = .ok after ∧
        ∀ name ≠ member.1, free draft name → free after name)
    {members : Fields Json} {draft : σ} (distinct : (Fields.names members).Nodup)
    (hfree : ∀ member ∈ members, free draft member.1)
    (haccepts : ∀ member ∈ members, accepts member) :
    ∃ after, members.foldlM step draft = .ok after := by
  induction members generalizing draft with
  | nil => exact ⟨draft, rfl⟩
  | cons member rest ih =>
    obtain ⟨absent, distinctRest⟩ := List.nodup_cons.1 distinct
    obtain ⟨middle, hmiddle, hleft⟩ :=
      hstep draft member (hfree member List.mem_cons_self) (haccepts member List.mem_cons_self)
    have hfreeRest : ∀ other ∈ rest, free middle other.1 := by
      intro other hother
      have hne : other.1 ≠ member.1 := fun heq => absent (heq ▸ List.mem_map_of_mem hother)
      exact hleft other.1 hne (hfree other (List.mem_cons_of_mem _ hother))
    obtain ⟨after, hafter⟩ := ih distinctRest hfreeRest
      fun other hother => haccepts other (List.mem_cons_of_mem _ hother)
    exact ⟨after, by rw [List.foldlM_cons, hmiddle]; exact hafter⟩

end Fold
end HostLink
