import HostLink.Fields
import HostLink.Proofs.Bookkeeping
import Mathlib.Algebra.GroupWithZero.Nat
import Mathlib.Algebra.Order.BigOperators.Group.List
import Mathlib.Algebra.Order.Group.Nat

/-!
# Lists and names inside larger ones

Two ways in which a small collection is found in a larger one.  The items of a list stand in another
list at given places, each at its own (`Placed`); and the names of one side, with what they stand
for, are found in a table that has other names besides (`Shared`).  Both come in two forms: what
happens to the small collection when the large one changes at its own places, and that nothing
happens to it when the large one changes elsewhere.
-/

namespace HostLink

variable {α β : Type}

/-! ## Items in their places -/

/-- The items of `own` stand in `shared`, the first one at the first of the places and so on, each
of them in the relation `R` to what stands there. -/
structure Placed (R : α → β → Prop) (places : List Nat) (own : List α) (shared : List β) :
    Prop where
  length : places.length = own.length
  nodup : places.Nodup
  items : ∀ index place : Nat, places[index]? = some place →
    ∃ a b, own[index]? = some a ∧ shared[place]? = some b ∧ R a b

theorem foldl_add_eq_sum (f : α → Nat) (items : List α) :
    items.foldl (fun n item => n + f item) 0 = (items.map f).sum := by
  rw [List.sum_eq_foldl, List.foldl_map]

namespace Placed

variable {R S : α → β → Prop} {places : List Nat} {own : List α} {shared : List β}
  {index place : Nat} {a : α} {b : β}

theorem nil (R : α → β → Prop) (shared : List β) : Placed R [] [] shared :=
  ⟨rfl, List.nodup_nil, nofun⟩

theorem mono (h : Placed R places own shared) (hRS : ∀ a b, R a b → S a b) :
    Placed S places own shared := by
  refine ⟨h.length, h.nodup, fun index place hplace => ?_⟩
  obtain ⟨a, b, ha, hb, hab⟩ := h.items index place hplace
  exact ⟨a, b, ha, hb, hRS a b hab⟩

theorem place_lt (h : Placed R places own shared) (hmem : place ∈ places) :
    place < shared.length := by
  obtain ⟨index, hindex⟩ := List.mem_iff_getElem?.1 hmem
  obtain ⟨a, b, -, hb, -⟩ := h.items index place hindex
  exact (List.getElem?_eq_some_iff.1 hb).1

/-- Different items have different places. -/
theorem inj (h : Placed R places own shared) {other there : Nat}
    (hplace : places[index]? = some place) (hother : places[other]? = some there) :
    index = other ↔ place = there := by
  constructor
  · rintro rfl
    exact Option.some.inj (hplace.symm.trans hother)
  · rintro rfl
    have hlt := (List.getElem?_eq_some_iff.1 hplace).1
    exact (List.getElem?_inj hlt h.nodup).1 (hplace.trans hother.symm)

/-- The item and what stands in its place are changed. -/
theorem set (h : Placed R places own shared) (hplace : places[index]? = some place)
    (hab : R a b) : Placed R places (own.set index a) (shared.set place b) := by
  refine ⟨by rw [List.length_set, h.length], h.nodup, fun other there hother => ?_⟩
  obtain ⟨x, y, hx, hy, hxy⟩ := h.items other there hother
  by_cases heq : index = other
  · obtain rfl := (h.inj hplace hother).1 heq
    subst heq
    have hown := (List.getElem?_eq_some_iff.1 hx).1
    have hshared := (List.getElem?_eq_some_iff.1 hy).1
    exact ⟨a, b, List.getElem?_set_self hown, List.getElem?_set_self hshared, hab⟩
  · have hne : place ≠ there := fun hthere => heq ((h.inj hplace hother).2 hthere)
    exact ⟨x, y, by rw [List.getElem?_set_ne heq, hx], by rw [List.getElem?_set_ne hne, hy], hxy⟩

/-- The place of the item that comes next. -/
theorem getElem?_push (h : Placed R places own shared) (place : Nat) :
    (places ++ [place])[own.length]? = some place := by
  rw [← h.length, List.getElem?_concat_length]

/-- Both lists get one more item. -/
theorem push (h : Placed R places own shared) (hab : R a b) :
    Placed R (places ++ [shared.length]) (own ++ [a]) (shared ++ [b]) := by
  refine ⟨by simp [h.length], ?_, fun index place hplace => ?_⟩
  · refine List.nodup_append.2 ⟨h.nodup, List.nodup_singleton _, ?_⟩
    rintro place hmem _ hlast rfl
    exact Nat.ne_of_lt (h.place_lt hmem) (List.mem_singleton.1 hlast)
  · rcases Nat.lt_or_ge index places.length with hlt | hge
    · rw [List.getElem?_append_left hlt] at hplace
      obtain ⟨x, y, hx, hy, hxy⟩ := h.items index place hplace
      have hown := (List.getElem?_eq_some_iff.1 hx).1
      have hshared := (List.getElem?_eq_some_iff.1 hy).1
      exact ⟨x, y, by rw [List.getElem?_append_left hown, hx],
        by rw [List.getElem?_append_left hshared, hy], hxy⟩
    · have hindex : index = places.length := by
        have hbound := (List.getElem?_eq_some_iff.1 hplace).1
        rw [List.length_append, List.length_singleton] at hbound
        omega
      subst hindex
      rw [List.getElem?_concat_length] at hplace
      obtain rfl := Option.some.inj hplace
      exact ⟨a, b, by rw [h.length, List.getElem?_concat_length], List.getElem?_concat_length, hab⟩

/-- A change in another place. -/
theorem set_other (h : Placed R places own shared) (hplace : place ∉ places) (b : β) :
    Placed R places own (shared.set place b) := by
  refine ⟨h.length, h.nodup, fun index there hthere => ?_⟩
  obtain ⟨x, y, hx, hy, hxy⟩ := h.items index there hthere
  have hne : place ≠ there := by
    rintro rfl
    exact hplace (List.mem_of_getElem? hthere)
  exact ⟨x, y, hx, by rw [List.getElem?_set_ne hne, hy], hxy⟩

/-- One more item that is not placed. -/
theorem push_other (h : Placed R places own shared) (b : β) :
    Placed R places own (shared ++ [b]) := by
  refine ⟨h.length, h.nodup, fun index place hplace => ?_⟩
  obtain ⟨x, y, hx, hy, hxy⟩ := h.items index place hplace
  have hshared := (List.getElem?_eq_some_iff.1 hy).1
  exact ⟨x, y, hx, by rw [List.getElem?_append_left hshared, hy], hxy⟩

/-- An item is modified together with what stands in its place. -/
theorem modify {S : α → α → Prop} {own shared : List α} (h : Placed S places own shared)
    (hplace : places[index]? = some place) {f : α → α} (hf : ∀ a b, S a b → S (f a) (f b)) :
    Placed S places (own.modify index f) (shared.modify place f) := by
  obtain ⟨a, b, ha, hb, hab⟩ := h.items index place hplace
  rw [List.modify_eq_set_getElem?, List.modify_eq_set_getElem?, ha, hb]
  exact h.set hplace (hf a b hab)

theorem modify_other {S : α → α → Prop} {own shared : List α} (h : Placed S places own shared)
    (hplace : place ∉ places) (f : α → α) :
    Placed S places own (shared.modify place f) := by
  rw [List.modify_eq_set_getElem?]
  cases hb : shared[place]? with
  | none => exact h
  | some b => exact h.set_other hplace (f b)

/-- What the items add up to, all items together reach. -/
theorem sum_le (h : Placed R places own shared) {f : α → Nat} {g : β → Nat}
    (hfg : ∀ a b, R a b → f a = g b) :
    own.foldl (fun n a => n + f a) 0 ≤ shared.foldl (fun n b => n + g b) 0 := by
  have hown : own.map f = places.map fun place => (shared[place]?.map g).getD 0 := by
    refine List.ext_getElem (by rw [List.length_map, List.length_map, h.length]) ?_
    intro index hindex hplaces
    rw [List.length_map] at hplaces
    obtain ⟨a, b, ha, hb, hab⟩ := h.items index _ (List.getElem?_eq_getElem hplaces)
    obtain ⟨hlt, rfl⟩ := List.getElem?_eq_some_iff.1 ha
    rw [List.getElem_map, List.getElem_map, hb]
    exact hfg _ b hab
  have hshared : shared.map g =
      (List.range shared.length).map fun place => (shared[place]?.map g).getD 0 := by
    refine List.ext_getElem (by simp) fun place hplace hrange => ?_
    rw [List.length_map] at hplace
    simp [List.getElem?_eq_getElem hplace]
  -- The places are different, so they are some of all places, in another order.
  have hsubset : places ⊆ List.range shared.length :=
    fun place hmem => List.mem_range.2 (h.place_lt hmem)
  obtain ⟨some, hperm, hsublist⟩ := List.subperm_of_subset h.nodup hsubset
  rw [foldl_add_eq_sum, foldl_add_eq_sum, hown, hshared, ← (hperm.map _).sum_nat]
  exact (hsublist.map _).sum_le_sum fun n _ => Nat.zero_le n

end Placed

/-! ## Names in a larger table -/

/-- The names of one side, which are those that `mine` accepts, stand in a shared table for what is
in the relation `R` to what they stand for in a table of their own. -/
structure Shared (mine : String → Bool) (R : α → β → Prop) (own : Fields α) (shared : Fields β) :
    Prop where
  sorted_own : own.Sorted
  sorted_shared : shared.Sorted
  lookup : ∀ name, mine name = true →
    Option.Rel R (Fields.lookup name own) (Fields.lookup name shared)
  foreign : ∀ name, mine name = false → Fields.lookup name own = none

namespace Shared

variable {mine : String → Bool} {R S : α → β → Prop} {own : Fields α} {shared : Fields β}
  {name : String} {a : α} {b : β}

theorem nil (mine : String → Bool) (R : α → β → Prop) : Shared mine R [] [] :=
  ⟨List.Pairwise.nil, List.Pairwise.nil, fun _ _ => .none, fun _ _ => rfl⟩

/-- A name of this side stands for nothing in either table, or for related things in both. -/
theorem lookup_cases (h : Shared mine R own shared) (hname : mine name = true) :
    Fields.lookup name own = none ∧ Fields.lookup name shared = none ∨
      ∃ a b, Fields.lookup name own = some a ∧ Fields.lookup name shared = some b ∧ R a b := by
  have hrel := h.lookup name hname
  cases hown : Fields.lookup name own with
  | none =>
    rw [hown] at hrel
    generalize Fields.lookup name shared = y at hrel
    cases hrel
    exact .inl ⟨rfl, rfl⟩
  | some a =>
    rw [hown] at hrel
    generalize Fields.lookup name shared = y at hrel
    cases hrel with
    | some hab => exact .inr ⟨a, _, rfl, rfl, hab⟩

theorem mono (h : Shared mine R own shared) (hRS : ∀ a b, R a b → S a b) :
    Shared mine S own shared := by
  refine ⟨h.sorted_own, h.sorted_shared, fun name hname => ?_, h.foreign⟩
  obtain ⟨hown, hshared⟩ | ⟨a, b, hown, hshared, hab⟩ := h.lookup_cases hname
  · rw [hown, hshared]
    exact .none
  · rw [hown, hshared]
    exact .some (hRS a b hab)

theorem insert (h : Shared mine R own shared) (hname : mine name = true) (hab : R a b) :
    Shared mine R (Fields.insert name a own) (Fields.insert name b shared) := by
  refine ⟨h.sorted_own.insert _ _, h.sorted_shared.insert _ _, fun other hother => ?_,
    fun other hother => ?_⟩
  · rw [Fields.lookup_insert, Fields.lookup_insert]
    by_cases heq : name = other
    · rw [if_pos heq, if_pos heq]
      exact .some hab
    · rw [if_neg heq, if_neg heq]
      exact h.lookup other hother
  · rw [Fields.lookup_insert, if_neg, h.foreign other hother]
    rintro rfl
    rw [hname] at hother
    cases hother

theorem erase (h : Shared mine R own shared) (name : String) :
    Shared mine R (Fields.erase name own) (Fields.erase name shared) := by
  refine ⟨h.sorted_own.erase _, h.sorted_shared.erase _, fun other hother => ?_,
    fun other hother => ?_⟩
  · rw [Fields.lookup_erase, Fields.lookup_erase]
    by_cases heq : name = other
    · rw [if_pos heq, if_pos heq]
      exact .none
    · rw [if_neg heq, if_neg heq]
      exact h.lookup other hother
  · rw [Fields.lookup_erase]
    by_cases heq : name = other
    · rw [if_pos heq]
    · rw [if_neg heq, h.foreign other hother]

/-- A name of another side. -/
theorem insert_other (h : Shared mine R own shared) (hname : mine name = false) (b : β) :
    Shared mine R own (Fields.insert name b shared) := by
  refine ⟨h.sorted_own, h.sorted_shared.insert _ _, fun other hother => ?_, h.foreign⟩
  rw [Fields.lookup_insert, if_neg]
  · exact h.lookup other hother
  · rintro rfl
    rw [hname] at hother
    cases hother

theorem erase_other (h : Shared mine R own shared) (hname : mine name = false) :
    Shared mine R own (Fields.erase name shared) := by
  refine ⟨h.sorted_own, h.sorted_shared.erase _, fun other hother => ?_, h.foreign⟩
  rw [Fields.lookup_erase, if_neg]
  · exact h.lookup other hother
  · rintro rfl
    rw [hname] at hother
    cases hother

/-- The names of one side stand for something in both tables or in neither. -/
theorem contains_eq (h : Shared mine R own shared) (hname : mine name = true) :
    Fields.contains name own = Fields.contains name shared := by
  unfold Fields.contains
  obtain ⟨hown, hshared⟩ | ⟨a, b, hown, hshared, -⟩ := h.lookup_cases hname
  · rw [hown, hshared]
    rfl
  · rw [hown, hshared]
    rfl

/-- Whether some name stands for a thing of this kind is for the names of one side to say, if the
other names stand for no such thing. -/
theorem any_eq {ι : Type} {T : ι → β → Prop} {others : Fields ι}
    (h : Shared mine R own shared) (hothers : Shared (fun name => !mine name) T others shared)
    {f : α → Bool} {g : β → Bool} (hfg : ∀ a b, R a b → f a = g b)
    (hg : ∀ x b, T x b → g b = false) :
    own.any (fun field => f field.2) = shared.any fun field => g field.2 := by
  rw [Bool.eq_iff_iff, List.any_eq_true, List.any_eq_true]
  constructor
  · rintro ⟨⟨name, a⟩, hmem, ha⟩
    have hlookup := Fields.lookup_of_mem h.sorted_own hmem
    cases hname : mine name with
    | false =>
      rw [h.foreign name hname] at hlookup
      cases hlookup
    | true =>
      obtain ⟨hown, -⟩ | ⟨x, b, hown, hshared, hab⟩ := h.lookup_cases hname
      · cases hlookup.symm.trans hown
      · obtain rfl := Option.some.inj (hlookup.symm.trans hown)
        exact ⟨(name, b), Fields.mem_of_lookup hshared, (hfg a b hab).symm.trans ha⟩
  · rintro ⟨⟨name, b⟩, hmem, hb⟩
    have hlookup := Fields.lookup_of_mem h.sorted_shared hmem
    cases hname : mine name with
    | false =>
      obtain ⟨-, hshared⟩ | ⟨x, y, -, hshared, hxy⟩ :=
        hothers.lookup_cases (show (!mine name) = true by rw [hname]; rfl)
      · cases hlookup.symm.trans hshared
      · obtain rfl := Option.some.inj (hlookup.symm.trans hshared)
        rw [hg x b hxy] at hb
        cases hb
    | true =>
      obtain ⟨-, hshared⟩ | ⟨a, y, hown, hshared, hab⟩ := h.lookup_cases hname
      · cases hlookup.symm.trans hshared
      · obtain rfl := Option.some.inj (hlookup.symm.trans hshared)
        exact ⟨(name, a), Fields.mem_of_lookup hown, (hfg a b hab).trans hb⟩

end Shared
end HostLink
