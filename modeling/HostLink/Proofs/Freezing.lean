import HostLink.Decode.Target
import HostLink.Proofs.Envelopes

/-!
# Freezing loses nothing

A snapshot keeps its payload in one of three shapes, and which one is decided by looking at the
contents: an object or another root, and in an object a field as a value or as records.  Neither the
way back nor the equality of snapshots sees the difference.  The payload comes back as it was, so
what is decoded from a snapshot is what would be decoded from the payload, and two snapshots are
equal exactly if their payloads are (`Snapshot.freezing_faithful`).

Equality of values is not identity, for it takes the two float zeros for one.  So snapshots are
compared shape by shape, and what has to be shown is that equal values are frozen in the same shape:
an array of objects is equal only to arrays of objects (`Json.heldAsRecords_of_sameItems`).
-/

namespace HostLink

/-! ## Equality of values -/

namespace Json

theorem sameItems_eq (as bs : List Json) :
    sameItems as bs =
      (as.length == bs.length && (as.zip bs).all fun pair => pair.1.same pair.2) := by
  induction as generalizing bs with
  | nil => cases bs <;> rfl
  | cons a as ih =>
    cases bs with
    | nil => rfl
    | cons b bs =>
      rw [sameItems, ih]
      simp [Bool.and_left_comm]

theorem sameMembers_eq (as bs : List (String × Json)) :
    sameMembers as bs = (as.length == bs.length &&
      (as.zip bs).all fun pair => pair.1.1 == pair.2.1 && pair.1.2.same pair.2.2) := by
  induction as generalizing bs with
  | nil => cases bs <;> rfl
  | cons a as ih =>
    cases bs with
    | nil => rfl
    | cons b bs =>
      rw [sameMembers, ih]
      simp [Bool.and_left_comm]

theorem isObject_of_same {a b : Json} (h : a.same b = true) : a.isObject = b.isObject := by
  cases a <;> cases b <;> first | rfl | cases h

/-- The items are kept as records when they stand in a field. -/
def heldAsRecords (items : List Json) : Bool := !items.isEmpty && items.all isObject

theorem all_isObject_of_sameItems {as bs : List Json} (h : sameItems as bs = true) :
    as.all isObject = bs.all isObject := by
  induction as generalizing bs with
  | nil => cases bs with
    | nil => rfl
    | cons b bs => cases h
  | cons a as ih => cases bs with
    | nil => cases h
    | cons b bs =>
      rw [sameItems, Bool.and_eq_true] at h
      rw [List.all_cons, List.all_cons, isObject_of_same h.1, ih h.2]

/-- Of two equal arrays both are kept as records or neither is. -/
theorem heldAsRecords_of_sameItems {as bs : List Json} (h : sameItems as bs = true) :
    heldAsRecords as = heldAsRecords bs := by
  have hempty : as.isEmpty = bs.isEmpty := by
    cases as <;> cases bs <;> first | rfl | cases h
  rw [heldAsRecords, heldAsRecords, hempty, all_isObject_of_sameItems h]

end Json

/-! ## Equality of fields -/

namespace Field

theorem freeze_arr (items : List Json) :
    freeze (.arr items) =
      if Json.heldAsRecords items then .records (items.filterMap Record.freeze?)
      else .value (.arr items) := rfl

/-- Items that are all objects are frozen one by one. -/
theorem exists_objects {items : List Json} (h : items.all Json.isObject = true) :
    ∃ objects : List (Fields Json), items = objects.map Json.obj ∧
      items.filterMap Record.freeze? = objects.map Record.mk := by
  induction items with
  | nil => exact ⟨[], rfl, rfl⟩
  | cons item rest ih =>
    rw [List.all_cons, Bool.and_eq_true] at h
    obtain ⟨objects, rfl, hfrozen⟩ := ih h.2
    cases item with
    | obj members =>
      refine ⟨members :: objects, rfl, ?_⟩
      rw [List.filterMap_cons_some (show Record.freeze? (.obj members) = some ⟨members⟩ from rfl),
        hfrozen, List.map_cons]
    | _ => cases h.1

/-- Records are compared as the objects that they were. -/
theorem same_records {as bs : List Json} (has : as.all Json.isObject = true)
    (hbs : bs.all Json.isObject = true) :
    (Field.records (as.filterMap Record.freeze?)).same (.records (bs.filterMap Record.freeze?)) =
      Json.sameItems as bs := by
  obtain ⟨xs, rfl, hxs⟩ := exists_objects has
  obtain ⟨ys, rfl, hys⟩ := exists_objects hbs
  rw [hxs, hys, same, Json.sameItems_eq]
  simp only [List.length_map, List.zip_map, List.all_map]
  rfl

/-- Frozen fields are equal exactly if their values are. -/
theorem same_freeze (a b : Json) : (freeze a).same (freeze b) = a.same b := by
  cases a with
  | arr as =>
    cases b with
    | arr bs =>
      rw [freeze_arr, freeze_arr, Json.same]
      by_cases hsame : Json.heldAsRecords as = Json.heldAsRecords bs
      · cases hbs : Json.heldAsRecords bs with
        | true =>
          have has := hsame.trans hbs
          rw [if_pos has, if_pos rfl]
          rw [Json.heldAsRecords, Bool.and_eq_true] at has hbs
          exact same_records has.2 hbs.2
        | false =>
          rw [hsame, hbs]
          rfl
      · -- Arrays of different shapes are different.
        have hdiffer : Json.sameItems as bs = false :=
          Bool.eq_false_iff.2 fun h => hsame (Json.heldAsRecords_of_sameItems h)
        rw [hdiffer]
        cases has : Json.heldAsRecords as <;> cases hbs : Json.heldAsRecords bs <;>
          first | rfl | exact absurd (has.trans hbs.symm) hsame
    | _ =>
      rw [freeze_arr]
      cases Json.heldAsRecords as <;> rfl
  | _ =>
    cases b with
    | arr bs =>
      rw [freeze_arr]
      cases Json.heldAsRecords bs <;> rfl
    | _ => rfl

end Field

/-! ## Snapshots -/

namespace Snapshot

/-- Snapshots are equal exactly if their payloads are. -/
theorem same_freeze (v w : Json) : (freeze v).same (freeze w) = v.same w := by
  cases v with
  | obj as =>
    cases w with
    | obj bs =>
      rw [freeze, freeze, same, Json.same, Json.sameMembers_eq]
      simp only [List.length_map, List.zip_map, List.all_map]
      simp only [Function.comp_def, Prod.map, Field.same_freeze]
    | _ => rfl
  | _ => cases w <;> rfl

/-- Freezing what a snapshot holds gives the same snapshot. -/
theorem freeze_toJson_freeze (v : Json) : freeze (freeze v).toJson = freeze v := by
  rw [toJson_freeze]

/-- Decode the payload with any decoder of values; `failure` reports what the decoder finds
wrong. -/
def decodeBy {ε α : Type} (failure : ε → SerializationError) (decoder : Json → Except ε α)
    (snapshot : Snapshot) : Except BridgeError α :=
  (decoder snapshot.toJson).mapError fun error => .serialization (failure error)

/-- The types that a payload can be decoded into have their decoders. -/
theorem decode_eq_decodeBy (snapshot : Snapshot) (target : DecodeTarget) :
    snapshot.decode target = snapshot.decodeBy .shape fun value => target.decode value := by
  unfold decode decodeBy
  dsimp only
  cases target.decode snapshot.toJson <;> rfl

/-- Freezing is faithful: the payload comes back, and with it the snapshot; a snapshot equals a
value or another snapshot exactly if the payload does; and whatever the type that is asked for,
decoding the snapshot gives what decoding the payload gives, be that a result or an error. -/
theorem freezing_faithful :
    (∀ v : Json, (freeze v).toJson = v) ∧
    freeze empty.toJson = empty ∧
    (∀ v : Json, freeze (freeze v).toJson = freeze v) ∧
    (∀ v w : Json, (freeze v).sameJson w = v.same w ∧ (freeze v).same (freeze w) = v.same w) ∧
    (∀ (ε α : Type) (failure : ε → SerializationError) (decoder : Json → Except ε α) (v : Json),
      (freeze v).decodeBy failure decoder =
        (decoder v).mapError fun error => .serialization (failure error)) ∧
    ∀ (v : Json) (target : DecodeTarget),
      (freeze v).decode target =
        (target.decode v).mapError fun error => .serialization (.shape error) := by
  have hdecode (ε α : Type) (failure : ε → SerializationError) (decoder : Json → Except ε α)
      (v : Json) : (freeze v).decodeBy failure decoder =
        (decoder v).mapError fun error => .serialization (failure error) := by
    rw [decodeBy, toJson_freeze]
  refine ⟨toJson_freeze, rfl, freeze_toJson_freeze, fun v w => ⟨?_, same_freeze v w⟩, hdecode,
    fun v target => ?_⟩
  · rw [sameJson, toJson_freeze]
  · rw [decode_eq_decodeBy, hdecode]

/-- The float zeros are one, in a field as well as in a record, and a mixed array is not one of
records. -/
example :
    let frozen (items : List Json) := freeze (.obj [("rows", .arr items)])
    let zero (negative : Bool) : Json := .obj [("n", .num (.float (.zero negative)))]
    ((frozen [zero true]).same (frozen [zero false]) = true ∧
      (frozen [zero true, .null]).same (frozen [zero true]) = false ∧
      ((frozen [zero true]).records? "rows").isSome = true ∧
      ((frozen [zero true, .null]).get? "rows").isSome = true) := by
  decide

end Snapshot
end HostLink
