import HostLink.Proofs.Freezing

/-!
# Look-ups in a frozen payload

A consumer sees a payload through its snapshot only, and a snapshot has two accessors for a field:
one for plain values and one for records.  A consumer who asks the wrong one is told nothing, so
what decides between the two has to be exact.  `Snapshot.lookups_agree` says that it is: the records
answer for non-empty arrays of objects, the plain value for everything else, and both with what the
payload holds (`Snapshot.Reflects`).

The other half is that the answers stay.  Consumers may try to set fields, of the snapshot and of
records that they have copied out of it, in any order.  Each attempt is refused, and behind all of
them the snapshot reflects the payload as before.
-/

namespace HostLink

/-! ## Arrays of objects -/

namespace Json

theorem canonicalItems_iff {items : List Json} :
    CanonicalItems items ↔ ∀ item ∈ items, item.Canonical := by
  induction items with
  | nil => simp [CanonicalItems]
  | cons item rest ih => simp [CanonicalItems, ih]

/-- The value is a non-empty array of these objects and nothing else. -/
def IsRecords (objects : List (Fields Json)) (value : Json) : Prop :=
  value = .arr (objects.map Json.obj) ∧ objects ≠ []

theorem Canonical.of_member? {v value : Json} (canonical : v.Canonical) {key : String}
    (h : v.member? key = some value) : value.Canonical := by
  cases v with
  | obj members => exact canonicalMembers_iff.1 canonical.2 _ (Fields.mem_of_lookup h)
  | _ => cases h

/-- The objects of a canonical array of objects are sorted. -/
theorem Canonical.sorted_of_isRecords {value : Json} (canonical : value.Canonical)
    {objects : List (Fields Json)} (h : value.IsRecords objects) {members : Fields Json}
    (hmem : members ∈ objects) : Fields.Sorted members := by
  rw [h.1] at canonical
  exact (canonicalItems_iff.1 canonical _ (List.mem_map_of_mem hmem)).1

end Json

/-! ## What is frozen as what -/

namespace Field

/-- Objects without anything else between them are kept as records, and everything else as it is. -/
theorem freeze_cases (value : Json) :
    (∃ objects, value.IsRecords objects ∧ freeze value = .records (objects.map Record.mk)) ∨
      (¬∃ objects, value.IsRecords objects) ∧ freeze value = .value value := by
  cases value with
  | arr items =>
    rw [freeze_arr]
    by_cases hheld : Json.heldAsRecords items = true
    · rw [if_pos hheld]
      simp only [Json.heldAsRecords, Bool.and_eq_true] at hheld
      obtain ⟨objects, rfl, hfrozen⟩ := exists_objects hheld.2
      refine .inl ⟨objects, ⟨rfl, ?_⟩, by rw [hfrozen]⟩
      rintro rfl
      simp at hheld
    · rw [if_neg hheld]
      refine .inr ⟨?_, rfl⟩
      rintro ⟨objects, hvalue, hne⟩
      apply hheld
      rw [Json.arr.inj hvalue]
      simp [Json.heldAsRecords, hne, Json.isObject]
  | _ =>
    refine .inr ⟨?_, rfl⟩
    rintro ⟨objects, hvalue, -⟩
    cases hvalue

end Field

/-! ## The accessors -/

/-- A record shows the members of an object. -/
structure Record.Shows (record : Record) (members : Fields Json) : Prop where
  get : ∀ name, record.get? name = (Json.obj members).member? name
  names : record.names = Fields.names members
  ordered : record.names.Pairwise (· < ·)
  size : record.size = (Fields.names members).length

/-- The record shows an object of an array that is a field of the payload. -/
def Record.Copies (record : Record) (v : Json) : Prop :=
  ∃ (key : String) (objects : List (Fields Json)) (members : Fields Json),
    v.member? key = some (.arr (objects.map Json.obj)) ∧ members ∈ objects ∧ record.Shows members

theorem Record.shows_mk {members : Fields Json} (sorted : Fields.Sorted members) :
    Record.Shows ⟨members⟩ members where
  get _ := rfl
  names := rfl
  ordered := sorted.names
  size := (List.length_map _).symm

namespace Snapshot

/-- The accessors of a snapshot answer by the payload. -/
structure Reflects (v : Json) (s : Snapshot) : Prop where
  /-- A field is there exactly if the payload is an object that holds its name. -/
  present : ∀ key, (s.field? key).isSome = true ↔
    ∃ members, v = .obj members ∧ key ∈ Fields.names members
  /-- Of a field that is there exactly one accessor answers, and of no other field does any. -/
  exclusive : ∀ key, (s.field? key).isSome = true → (s.get? key).isSome = !(s.records? key).isSome
  absent : ∀ key, s.field? key = none → s.get? key = none ∧ s.records? key = none
  /-- Records answer for the non-empty arrays of objects only. -/
  records : ∀ key, (s.records? key).isSome = true ↔
    ∃ value objects, v.member? key = some value ∧ value.IsRecords objects
  /-- A field that is not kept as records has the payload's value. -/
  plain : ∀ key, (s.field? key).isSome = true → s.records? key = none →
    s.get? key = v.member? key
  /-- The records are the objects of the array, one by one. -/
  rows : ∀ key rows, s.records? key = some rows →
    ∃ objects : List (Fields Json), v.member? key = some (.arr (objects.map Json.obj)) ∧
      rows.length = objects.length ∧
      ∀ (i : Nat) members, objects[i]? = some members →
        ∃ row : Record, rows[i]? = some row ∧ row.Shows members
  /-- The names are those of the payload, in increasing order. -/
  names : s.names.Pairwise (· < ·) ∧ s.size = s.names.length ∧
    ∀ key, key ∈ s.names ↔ ∃ members, v = .obj members ∧ key ∈ Fields.names members
  /-- A payload that is no object has no fields. -/
  other : (∀ members, v ≠ .obj members) → s.names = [] ∧ s.size = 0

/-- A field of a frozen payload is the frozen field of the payload. -/
theorem field?_freeze (v : Json) (key : String) :
    (freeze v).field? key = (v.member? key).map Field.freeze := by
  cases v with
  | obj members => exact Fields.lookup_map Field.freeze key members
  | _ => rfl

theorem isSome_member?_iff {v : Json} {key : String} :
    (v.member? key).isSome = true ↔ ∃ members, v = .obj members ∧ key ∈ Fields.names members := by
  cases v with
  | obj members =>
    rw [Option.isSome_iff_ne_none, Ne, Json.member?, Fields.lookup_eq_none_iff]
    simp
  | _ => simp [Json.member?]

/-- What the two accessors answer for a name: nothing if there is no such field, the records of an
array of objects, or the value of anything else. -/
inductive Answers (v : Json) (s : Snapshot) (key : String) : Prop where
  | nothing (member : v.member? key = none) (field : s.field? key = none)
      (get : s.get? key = none) (records : s.records? key = none)
  | rows (value : Json) (objects : List (Fields Json)) (member : v.member? key = some value)
      (array : value.IsRecords objects) (field : (s.field? key).isSome = true)
      (get : s.get? key = none) (records : s.records? key = some (objects.map Record.mk))
  | plain (value : Json) (member : v.member? key = some value)
      (other : ¬∃ objects, value.IsRecords objects) (field : (s.field? key).isSome = true)
      (get : s.get? key = some value) (records : s.records? key = none)

theorem answers_freeze (v : Json) (key : String) : Answers v (freeze v) key := by
  have hfield := field?_freeze v key
  cases hmember : v.member? key with
  | none =>
    rw [hmember, Option.map_none] at hfield
    exact .nothing hmember hfield (by simp [get?, hfield]) (by simp [records?, hfield])
  | some value =>
    rw [hmember, Option.map_some] at hfield
    obtain ⟨objects, harray, hfrozen⟩ | ⟨hother, hfrozen⟩ := Field.freeze_cases value
    · rw [hfrozen] at hfield
      exact .rows value objects hmember harray (by simp [hfield]) (by simp [get?, hfield])
        (by simp [records?, hfield])
    · rw [hfrozen] at hfield
      exact .plain value hmember hother (by simp [hfield]) (by simp [get?, hfield])
        (by simp [records?, hfield])

/-- The names of a frozen object are the object's. -/
theorem names_freeze_obj (members : Fields Json) :
    (freeze (.obj members)).names = Fields.names members := by
  simp [freeze, names, Fields.names]

theorem size_eq_length_names (s : Snapshot) : s.size = s.names.length := by
  cases s with
  | object fields => exact (List.length_map _).symm
  | other value => rfl

theorem reflects_freeze {v : Json} (canonical : v.Canonical) : Reflects v (freeze v) where
  present key := by
    rw [field?_freeze, Option.isSome_map]
    exact isSome_member?_iff
  exclusive key hpresent := by
    cases answers_freeze v key with
    | nothing _ field => simp [field] at hpresent
    | rows _ _ _ _ _ get records => simp [get, records]
    | plain _ _ _ _ get records => simp [get, records]
  absent key habsent := by
    cases answers_freeze v key with
    | nothing _ _ get records => exact ⟨get, records⟩
    | rows _ _ _ _ field => simp [habsent] at field
    | plain _ _ _ field => simp [habsent] at field
  records key := by
    cases answers_freeze v key with
    | nothing member _ _ records => simp [member, records]
    | rows value objects member array _ _ records =>
      simpa [member, records] using ⟨objects, array⟩
    | plain value member other _ _ records => simpa [member, records] using other
  plain key hpresent hnot := by
    cases answers_freeze v key with
    | nothing _ field => simp [field] at hpresent
    | rows _ _ _ _ _ _ records => simp [records] at hnot
    | plain value member _ _ get => rw [get, member]
  rows key rows hrows := by
    cases answers_freeze v key with
    | nothing _ _ _ records => simp [records] at hrows
    | rows value objects member array _ _ records =>
      obtain rfl : objects.map Record.mk = rows := Option.some.inj (records.symm.trans hrows)
      refine ⟨objects, by rw [member, array.1], List.length_map _, ?_⟩
      intro i members hi
      have hsorted := (canonical.of_member? member).sorted_of_isRecords array
        (List.mem_of_getElem? hi)
      exact ⟨⟨members⟩, by rw [List.getElem?_map, hi, Option.map_some], Record.shows_mk hsorted⟩
    | plain _ _ _ _ _ records => simp [records] at hrows
  names := by
    refine ⟨?_, size_eq_length_names _, fun key => ?_⟩
    · cases v with
      | obj members =>
        rw [names_freeze_obj]
        exact Fields.Sorted.names canonical.1
      | _ => exact .nil
    · cases v with
      | obj members => simp [names_freeze_obj]
      | _ => simp [freeze, names]
  other hother := by
    have hnames : (freeze v).names = [] := by
      cases v with
      | obj members => exact absurd rfl (hother members)
      | _ => rfl
    exact ⟨hnames, by rw [size_eq_length_names, hnames, List.length_nil]⟩

end Snapshot

/-! ## Attempts to set fields -/

/-- What a consumer holds: a snapshot, and records copied out of it. -/
structure Holding where
  snapshot : Snapshot
  copies : List Record

/-- What a consumer may do with it: try to set a field of the snapshot, copy a record, or try to set
a field of a copy. -/
inductive Handling where
  | set (name : String) (value : Json)
  | copy (key : String) (row : Nat)
  | setCopy (place : Nat) (name : String) (value : Json)

namespace Holding

/-- The record of a field at a place, if there is one. -/
def row? (holding : Holding) (key : String) (row : Nat) : Option Record :=
  (holding.snapshot.records? key).bind fun rows => rows[row]?

/-- Handle what is held, and tell which field was to be set and how that went. -/
def perform (holding : Holding) :
    Handling → Option (String × Except BridgeError Unit) × Holding
  | .set name value =>
    let attempt := holding.snapshot.set name value
    (some (name, attempt.1), { holding with snapshot := attempt.2 })
  | .copy key row =>
    (none, { holding with copies := holding.copies ++ (holding.row? key row).toList })
  | .setCopy place name value =>
    match holding.copies[place]? with
    | none => (none, holding)
    | some record =>
      let attempt := record.set name value
      (some (name, attempt.1), { holding with copies := holding.copies.set place attempt.2 })

/-- Handle what is held one after the other. -/
def run (holding : Holding) : List Handling → List (String × Except BridgeError Unit) × Holding
  | [] => ([], holding)
  | handling :: rest =>
    let (attempt, next) := holding.perform handling
    let (attempts, last) := next.run rest
    (attempt.toList ++ attempts, last)

/-- The copies are records of the snapshot. -/
def Own (holding : Holding) : Prop :=
  ∀ record ∈ holding.copies, ∃ key rows,
    holding.snapshot.records? key = some rows ∧ record ∈ rows

/-- Whatever is done, a try to set a field is refused, the snapshot is as it was, and of the copies
only further ones are new. -/
theorem perform_intact (holding : Holding) (handling : Handling) :
    (∀ attempt, (holding.perform handling).1 = some attempt →
      attempt.2 = .error (.readOnly attempt.1)) ∧
    (holding.perform handling).2.snapshot = holding.snapshot ∧
    holding.copies <+: (holding.perform handling).2.copies ∧
    (holding.Own → (holding.perform handling).2.Own) := by
  cases handling with
  | set name value =>
    refine ⟨?_, rfl, List.prefix_rfl, id⟩
    rintro attempt ⟨⟩
    rfl
  | copy key row =>
    refine ⟨?_, rfl, List.prefix_append _ _, ?_⟩
    · rintro attempt ⟨⟩
    · intro hown record hrecord
      obtain hold | hnew := List.mem_append.1 hrecord
      · exact hown record hold
      · obtain ⟨rows, hrows, hrow⟩ := Option.bind_eq_some_iff.1 (Option.mem_toList.1 hnew)
        exact ⟨key, rows, hrows, List.mem_of_getElem? hrow⟩
  | setCopy place name value =>
    cases hplace : holding.copies[place]? with
    | none =>
      simp [perform, hplace]
    | some record =>
      obtain ⟨hlt, hrecord⟩ := List.getElem?_eq_some_iff.1 hplace
      have hsame : holding.copies.set place record = holding.copies := by
        rw [← hrecord, List.set_getElem_self]
      have hperform : holding.perform (.setCopy place name value) =
          (some (name, .error (.readOnly name)), holding) := by
        simp [perform, hplace, hsame, Record.set]
      rw [hperform]
      refine ⟨?_, rfl, List.prefix_rfl, id⟩
      rintro attempt ⟨⟩
      rfl

/-- A consumer cannot change what is held, whatever is tried in whatever order. -/
theorem run_intact (holding : Holding) (handlings : List Handling) :
    (∀ attempt ∈ (holding.run handlings).1, attempt.2 = .error (.readOnly attempt.1)) ∧
    (holding.run handlings).2.snapshot = holding.snapshot ∧
    holding.copies <+: (holding.run handlings).2.copies ∧
    (holding.Own → (holding.run handlings).2.Own) := by
  induction handlings generalizing holding with
  | nil => exact ⟨fun attempt h => (List.not_mem_nil h).elim, rfl, List.prefix_rfl, id⟩
  | cons handling rest ih =>
    obtain ⟨hrefused, hsnapshot, hcopies, hown⟩ := perform_intact holding handling
    obtain ⟨hrefusedRest, hsnapshotRest, hcopiesRest, hownRest⟩ := ih (holding.perform handling).2
    refine ⟨?_, hsnapshotRest.trans hsnapshot, hcopies.trans hcopiesRest, hownRest ∘ hown⟩
    intro attempt hattempt
    obtain hfirst | hlater := List.mem_append.1 hattempt
    · exact hrefused attempt (Option.mem_toList.1 hfirst)
    · exact hrefusedRest attempt hlater

end Holding

namespace Snapshot

/-- Look-ups in a snapshot agree with the payload.  Whatever a consumer tries to set, in the
snapshot or in copies of its records, is refused as read-only; the look-ups agree with the payload
as before, and every copy shows an object of the payload and is not touched by what follows. -/
theorem lookups_agree (v : Json) (canonical : v.Canonical) :
    Reflects v (freeze v) ∧
    ∀ handlings : List Handling,
      let done := Holding.run ⟨freeze v, []⟩ handlings
      (∀ attempt ∈ done.1, attempt.2 = .error (.readOnly attempt.1)) ∧
      Reflects v done.2.snapshot ∧
      (∀ record ∈ done.2.copies, record.Copies v) ∧
      ∀ later, done.2.copies <+: (done.2.run later).2.copies := by
  have hreflects := reflects_freeze canonical
  refine ⟨hreflects, fun handlings => ?_⟩
  intro done
  obtain ⟨hrefused, hsnapshot, -, hown⟩ := Holding.run_intact ⟨freeze v, []⟩ handlings
  refine ⟨hrefused, hsnapshot ▸ hreflects, ?_, fun later => (done.2.run_intact later).2.2.1⟩
  intro record hrecord
  obtain ⟨key, rows, hrows, hmem⟩ := hown (fun _ h => (List.not_mem_nil h).elim) record hrecord
  rw [hsnapshot] at hrows
  obtain ⟨objects, hmember, hlength, hshows⟩ := hreflects.rows key rows hrows
  obtain ⟨i, hi, rfl⟩ := List.getElem_of_mem hmem
  have hobject := List.getElem?_eq_getElem (hlength ▸ hi)
  obtain ⟨row, hrow, hshown⟩ := hshows i _ hobject
  rw [List.getElem?_eq_getElem hi] at hrow
  rw [Option.some.inj hrow]
  exact ⟨key, objects, _, hmember, List.getElem_mem _, hshown⟩

/-- Of the fields of a payload only the array of objects is kept as records; its second object,
which has no members, is a record without fields, and trying to set one there changes nothing. -/
theorem lookups_agree_of_mixed_fields :
    let cpus : Json := .arr [.obj [("online", .bool true)], .obj []]
    let v : Json := .obj [("cpus", cpus), ("mixed", .arr [.obj [], .null]), ("none", .arr [])]
    let done := Holding.run ⟨freeze v, []⟩
      [.copy "cpus" 1, .setCopy 0 "online" .null, .set "cpus" .null]
    v.Canonical ∧ Reflects v done.2.snapshot ∧
      done.1.map Prod.fst = ["online", "cpus"] ∧ done.2.copies.map Record.size = [0] ∧
      (done.2.snapshot.records? "cpus").isSome = true ∧
      (done.2.snapshot.get? "mixed").isSome = true ∧
      (done.2.snapshot.get? "none").isSome = true := by
  intro cpus v done
  have canonical : v.Canonical := by
    refine ⟨by simp only [Fields.Sorted]; decide, ?_⟩
    simp [cpus, Json.Canonical, Json.CanonicalMembers, Json.CanonicalItems, Fields.Sorted]
  exact ⟨canonical, ((lookups_agree v canonical).2 _).2.1, rfl, rfl, rfl, rfl, rfl⟩

end Snapshot
end HostLink
