/-!
# Named fields

A finite map from names to values, kept as a list of pairs.  Insertion keeps the list in increasing
order of names (by code point, which is also the order of their UTF-8 bytes) and each name once;
`Fields.Sorted` states that form.  The laws say what `insert` and `erase` do to a look-up.
-/

namespace HostLink

/-- Values under names, in increasing order of names. -/
abbrev Fields (α : Type) := List (String × α)

namespace Fields

variable {α β : Type}

/-- The value under `name`. -/
def lookup (name : String) : Fields α → Option α
  | [] => none
  | (other, value) :: rest => if other = name then some value else lookup name rest

/-- Put `value` under `name`, over a value that was there. -/
def insert (name : String) (value : α) : Fields α → Fields α
  | [] => [(name, value)]
  | (other, old) :: rest =>
    if other = name then (name, value) :: rest
    else if name < other then (name, value) :: (other, old) :: rest
    else (other, old) :: insert name value rest

/-- Take away the field `name`. -/
def erase (name : String) (fields : Fields α) : Fields α :=
  fields.filter fun field => field.1 ≠ name

/-- Whether there is a field `name`. -/
def contains (name : String) (fields : Fields α) : Bool := (lookup name fields).isSome

/-- The names, in order. -/
def names (fields : Fields α) : List String := fields.map Prod.fst

/-- The fields of a list of pairs in any order; of two pairs of one name the later one stays. -/
def ofPairs (pairs : List (String × α)) : Fields α :=
  pairs.foldl (fun fields pair => insert pair.1 pair.2 fields) []

/-- Names strictly increase. -/
def Sorted (fields : Fields α) : Prop := fields.Pairwise fun a b => a.1 < b.1

theorem lookup_insert (name other : String) (value : α) (fields : Fields α) :
    lookup other (insert name value fields) =
      if name = other then some value else lookup other fields := by
  induction fields with
  | nil => simp [insert, lookup]
  | cons field rest ih =>
    obtain ⟨key, old⟩ := field
    by_cases hkey : key = name
    · subst hkey
      by_cases ho : key = other <;> simp [insert, lookup, ho]
    · by_cases hlt : name < key
      · simp [insert, lookup, hkey, hlt]
      · by_cases ho : key = other
        · subst ho
          simp [insert, lookup, hkey, hlt, Ne.symm hkey]
        · simp [insert, lookup, hkey, hlt, ho, ih]

theorem lookup_erase (name other : String) (fields : Fields α) :
    lookup other (erase name fields) = if name = other then none else lookup other fields := by
  induction fields with
  | nil => simp [erase, lookup]
  | cons field rest ih =>
    obtain ⟨key, old⟩ := field
    simp only [erase] at ih ⊢
    by_cases hkey : key = name
    · subst hkey
      by_cases ho : key = other
      · subst ho; simpa using ih
      · simpa [lookup, ho] using ih
    · by_cases ho : key = other
      · subst ho; simp [lookup, hkey, Ne.symm hkey]
      · simpa [lookup, hkey, ho] using ih

theorem mem_of_lookup {name : String} {value : α} {fields : Fields α}
    (h : lookup name fields = some value) : (name, value) ∈ fields := by
  induction fields with
  | nil => cases h
  | cons field rest ih =>
    obtain ⟨other, old⟩ := field
    by_cases hname : other = name
    · simp_all [lookup]
    · simp_all [lookup]

theorem lookup_eq_none_iff {name : String} {fields : Fields α} :
    lookup name fields = none ↔ name ∉ names fields := by
  induction fields with
  | nil => simp [lookup, names]
  | cons field rest ih =>
    obtain ⟨other, value⟩ := field
    by_cases hname : other = name
    · simp [lookup, names, hname]
    · simpa [lookup, names, hname, Ne.symm hname] using ih

/-- With distinct names, every field is found under its name. -/
theorem lookup_of_nodup {fields : Fields α} (distinct : (names fields).Nodup) {name : String}
    {value : α} (h : (name, value) ∈ fields) : lookup name fields = some value := by
  induction fields with
  | nil => cases h
  | cons head rest ih =>
    obtain ⟨other, old⟩ := head
    obtain ⟨absent, distinctRest⟩ := List.nodup_cons.1 distinct
    rcases List.mem_cons.1 h with heq | hrest
    · obtain ⟨rfl, rfl⟩ := Prod.mk.inj heq
      exact if_pos rfl
    · have hne : other ≠ name := by
        rintro rfl
        exact absurd (List.mem_map_of_mem hrest) absent
      rw [lookup, if_neg hne]
      exact ih distinctRest hrest

theorem lookup_map (f : α → β) (name : String) (fields : Fields α) :
    lookup name (fields.map fun field => (field.1, f field.2)) = (lookup name fields).map f := by
  induction fields with
  | nil => rfl
  | cons field rest ih =>
    obtain ⟨other, value⟩ := field
    by_cases hname : other = name
    · simp [lookup, hname]
    · simpa [lookup, hname] using ih

/-! ## Sorted fields -/

theorem lt_of_not_lt {a b : String} (hne : a ≠ b) (h : ¬b < a) : a < b := by
  rcases Decidable.em (a < b) with hlt | hlt
  · exact hlt
  · exact absurd (String.le_antisymm (String.not_lt.1 h) (String.not_lt.1 hlt)) hne

theorem mem_insert {name : String} {value : α} {fields : Fields α} {field : String × α}
    (h : field ∈ insert name value fields) : field = (name, value) ∨ field ∈ fields := by
  induction fields with
  | nil => simpa [insert] using h
  | cons head rest ih =>
    obtain ⟨other, old⟩ := head
    simp only [insert] at h
    split at h
    · rcases List.mem_cons.1 h with h | h
      · exact .inl h
      · exact .inr (List.mem_cons_of_mem _ h)
    · split at h
      · exact List.mem_cons.1 h
      · rcases List.mem_cons.1 h with h | h
        · exact .inr (h ▸ List.mem_cons_self)
        · exact (ih h).imp_right (List.mem_cons_of_mem _)

/-- Insertion keeps fields sorted. -/
theorem Sorted.insert {fields : Fields α} (sorted : Sorted fields) (name : String) (value : α) :
    Sorted (Fields.insert name value fields) := by
  induction fields with
  | nil => simp [Fields.insert, Sorted]
  | cons head rest ih =>
    obtain ⟨other, old⟩ := head
    obtain ⟨above, sortedRest⟩ := List.pairwise_cons.1 sorted
    simp only [Fields.insert]
    split
    · next h => exact List.pairwise_cons.2 ⟨h ▸ above, sortedRest⟩
    · next hne =>
      split
      · next hlt =>
        refine List.pairwise_cons.2 ⟨fun field hfield => ?_, sorted⟩
        rcases List.mem_cons.1 hfield with h | h
        · exact h ▸ hlt
        · exact String.lt_trans hlt (above field h)
      · next hlt =>
        refine List.pairwise_cons.2 ⟨fun field hfield => ?_, ih sortedRest⟩
        rcases mem_insert hfield with h | h
        · exact h ▸ lt_of_not_lt hne hlt
        · exact above field h

/-- Erasure keeps fields sorted. -/
theorem Sorted.erase {fields : Fields α} (sorted : Sorted fields) (name : String) :
    Sorted (Fields.erase name fields) :=
  List.Pairwise.filter _ sorted

/-- Names of sorted fields are in increasing order, so each stands there once. -/
theorem Sorted.names {fields : Fields α} (sorted : Sorted fields) :
    (Fields.names fields).Pairwise (· < ·) :=
  List.pairwise_map.2 sorted

theorem Sorted.nodup_names {fields : Fields α} (sorted : Sorted fields) :
    (Fields.names fields).Nodup :=
  sorted.names.imp fun hlt => String.ne_of_lt hlt

theorem lookup_of_mem {fields : Fields α} (sorted : Sorted fields) {name : String} {value : α}
    (h : (name, value) ∈ fields) : lookup name fields = some value :=
  lookup_of_nodup sorted.nodup_names h

theorem mem_iff_lookup {fields : Fields α} (sorted : Sorted fields) {field : String × α} :
    field ∈ fields ↔ lookup field.1 fields = some field.2 :=
  ⟨lookup_of_mem sorted, mem_of_lookup⟩

end Fields
end HostLink
