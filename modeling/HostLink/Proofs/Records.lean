import HostLink.Decode.Record
import HostLink.Proofs.Members

/-!
# Wire formats and configurations from members

`WireFormat.ofJson_obj_eq_ok_iff` and `Config.ofMembers_eq_ok_iff`: an object with distinct names
decodes into a record exactly if every field of the record is what the member under its name says,
or the default where there is no such member.

Both drafts are followed place by place.  A configuration adds that the members it leaves for its
wire format are those under other names, in their order, and that those say of the wire format what
all members say.  Where the id format is an object, the two records do not read it by the same rule;
`IdFormat.ofJson_eq_ok_iff` says that everywhere else they do.
-/

namespace HostLink

/-! ## What the members mean -/

namespace Json

/-- A text. -/
def IsText (value : Json) (text : String) : Prop := value = .str text

/-- Null, which is no timeout, or a non-negative integer below `2 ^ 64`. -/
inductive IsTimeout : Json → Option UInt64 → Prop
  | never : IsTimeout .null none
  | millis (ms : UInt64) : IsTimeout (.num (.ofUInt64 ms)) (some ms)

/-- The name of an id format. -/
def NamesFormat (value : Json) (format : IdFormat) : Prop := value = .str format.name

theorem toText_head_eq_ok_iff {value : Json} {text : String} :
    value.head.toText = .ok text ↔ value.IsText text := by
  cases value <;> simp [head, Head.toText, IsText]

theorem toNatural_int (limit : Nat) (expected : Expectation) {z : Int}
    (inRange : -9223372036854775808 ≤ z ∧ z < 18446744073709551616) :
    Head.toNatural limit expected (.num (.int z inRange)) =
      if 0 ≤ z ∧ z < limit then .ok z.toNat else .error (.outOfRange z expected) :=
  rfl

theorem toUInt64_num_eq_ok_iff {number : Number} {n : UInt64} :
    Head.toUInt64 (.num number) = .ok n ↔ number = .ofUInt64 n := by
  constructor
  · intro h
    obtain ⟨size, hsize, rfl⟩ := map_eq_ok_iff.1 h
    cases number with
    | float x => cases hsize
    | int z inRange =>
      rw [toNatural_int] at hsize
      split at hsize
      · obtain rfl := Except.ok.inj hsize
        have hvalue : ((UInt64.ofNat z.toNat).toNat : Int) = z := by
          rw [UInt64.toNat_ofNat_of_lt' (by simp only [UInt64.size]; omega)]
          omega
        simp only [Number.ofUInt64, hvalue]
      · cases hsize
  · rintro rfl
    have hrange : (0 : Int) ≤ n.toNat ∧ (n.toNat : Int) < ((18446744073709551616 : Nat) : Int) := by
      have := n.toNat_lt
      omega
    have hsize : Head.toNatural 18446744073709551616 .u64 (.num (.ofUInt64 n)) = .ok n.toNat := by
      rw [Number.ofUInt64, toNatural_int, if_pos hrange, Int.toNat_natCast]
    rw [Head.toUInt64, hsize, Except.map, UInt64.ofNat_toNat]

theorem toUInt64_of_not_num {found : Head} (hnum : ∀ number, found ≠ .num number) :
    found.toUInt64 = .error (.invalidType found .u64) := by
  cases found with
  | num number => exact absurd rfl (hnum number)
  | _ => simp only [Head.toUInt64, Head.toNatural, Except.map]

theorem toOptionalUInt64_head_eq_ok_iff {value : Json} {ms : Option UInt64} :
    value.head.toOptionalUInt64 = .ok ms ↔ value.IsTimeout ms := by
  constructor
  · intro h
    cases value with
    | null =>
      simp only [head, Head.toOptionalUInt64, Except.ok.injEq] at h
      obtain rfl := h
      exact .never
    | num number =>
      simp only [head, Head.toOptionalUInt64] at h
      obtain ⟨n, hn, rfl⟩ := map_eq_ok_iff.1 h
      obtain rfl := toUInt64_num_eq_ok_iff.1 hn
      exact .millis n
    | _ =>
      simp only [head, Head.toOptionalUInt64] at h
      rw [toUInt64_of_not_num (by simp)] at h
      cases h
  · rintro (_ | n)
    · simp only [head, Head.toOptionalUInt64]
    · simp only [head, Head.toOptionalUInt64]
      exact map_eq_ok_iff.2 ⟨n, toUInt64_num_eq_ok_iff.2 rfl, rfl⟩

end Json

/-- Anything but an object stands for an id format only as its name, whatever is thought of empty
objects. -/
theorem IdFormat.ofJson_eq_ok_iff {emptyObject : Bool} {value : Json} {format : IdFormat}
    (plain : ∀ inner, value ≠ .obj inner) :
    IdFormat.ofJson emptyObject value = .ok format ↔ value.NamesFormat format := by
  cases value with
  | obj inner => exact absurd rfl (plain inner)
  | str name =>
    constructor
    · intro h
      have hnamed : IdFormat.ofName? name = some format := by
        simp only [IdFormat.ofJson, Head.formatNamed] at h
        cases hname : IdFormat.ofName? name <;> simp_all
      unfold IdFormat.ofName? at hnamed
      split at hnamed
      · obtain rfl := Option.some.inj hnamed
        rfl
      · obtain rfl := Option.some.inj hnamed
        rfl
      · cases hnamed
    · rintro h
      obtain rfl := Json.str.inj h
      simp [IdFormat.ofJson, Head.formatNamed, IdFormat.ofName?_name]
  | _ => simp [IdFormat.ofJson, Json.NamesFormat]

/-! ## Wire formats -/

namespace WireFormat

/-- The wire format is what the members say, with `means` for what an id format may be. -/
structure ReadFrom (means : Json → IdFormat → Prop) (members : Fields Json) (wire : WireFormat) :
    Prop where
  /-- Every field name is the text under its own name, or the default. -/
  field : ∀ place : Slot,
    Fields.Gives place.key members Json.IsText (({} : WireFormat).field place) (wire.field place)
  /-- The id format is the one under its name, or the default. -/
  idFormat : Fields.Gives "id_format" members means ({} : WireFormat).idFormat wire.idFormat

/-- Two wire formats with the same fields and the same id format are one. -/
theorem eq_of_field {a b : WireFormat} (hfield : ∀ place, a.field place = b.field place)
    (hformat : a.idFormat = b.idFormat) : a = b := by
  have hcommand := hfield .command
  have hcorrelation := hfield .correlation
  have hdata := hfield .data
  have herror := hfield .error
  have hevent := hfield .event
  cases a
  cases b
  simp_all [field]

namespace Key

theorem ofName?_eq_some_iff {name : String} {key : Key} :
    ofName? name = some key ↔ key.name = name := by
  constructor
  · intro h
    exact of_decide_eq_true (p := key.name = name)
      (List.find?_some (p := fun key : Key => key.name = name) h)
  · rintro rfl
    obtain place | _ := key
    · cases place <;> decide
    · decide

theorem name_injective {key other : Key} (h : key.name = other.name) : key = other :=
  Option.some.inj ((ofName?_eq_some_iff.2 h).symm.trans (ofName?_eq_some_iff.2 rfl))

/-- The value under the key is of its type. -/
def Reads (emptyObject : Bool) : Key → Json → Prop
  | .slot _, value => ∃ text, value.IsText text
  | .idFormat, value => ∃ format, IdFormat.ofJson emptyObject value = .ok format

end Key

namespace Draft

variable {emptyObject : Bool} {draft after : Draft} {member : String × Json}

/-- A member that is read is unknown and changes nothing, or is known, new and of its type. -/
theorem addMember_cases (h : draft.addMember emptyObject member = .ok after) :
    ((∀ key : Key, key.name ≠ member.1) ∧ after = draft) ∨
      ∃ key : Key, key.name = member.1 ∧ draft.addValue emptyObject key member.2 = .ok after := by
  unfold addMember at h
  split at h
  · next hunknown =>
    refine .inl ⟨fun key hkey => ?_, (Except.ok.inj h).symm⟩
    rw [Key.ofName?_eq_some_iff.2 hkey] at hunknown
    cases hunknown
  · next key hkey =>
    split at h
    · cases h
    · exact .inr ⟨key, Key.ofName?_eq_some_iff.1 hkey, h⟩

theorem addValue_slot {place : Slot} {value : Json}
    (h : draft.addValue emptyObject (.slot place) value = .ok after) :
    ∃ text, value.head.toText = .ok text ∧ after = draft.withText place text := by
  obtain ⟨text, htext, rfl⟩ := map_eq_ok_iff.1 h
  exact ⟨text, htext, rfl⟩

theorem addValue_idFormat {value : Json}
    (h : draft.addValue emptyObject .idFormat value = .ok after) :
    ∃ format, IdFormat.ofJson emptyObject value = .ok format ∧ after = draft.withFormat format := by
  obtain ⟨format, hformat, rfl⟩ := map_eq_ok_iff.1 h
  exact ⟨format, hformat, rfl⟩

theorem text?_withText (draft : Draft) (place other : Slot) (text : String) :
    (draft.withText place text).text? other =
      if other = place then some text else draft.text? other := by
  by_cases hplace : other = place
  · simp [text?, withText, hplace]
  · simp [text?, withText, List.lookup_cons, beq_eq_false_iff_ne.2 hplace, hplace]

theorem fills_text (emptyObject : Bool) (place : Slot) :
    Fills (addMember emptyObject) place.key (fun draft => draft.text? place)
      (fun value => value.head.toText) where
  own := by
    intro draft after value _ h
    obtain ⟨hunknown, -⟩ | ⟨key, hkey, hadd⟩ := addMember_cases h
    · exact absurd rfl (hunknown (.slot place))
    · obtain rfl : key = .slot place := Key.name_injective hkey
      obtain ⟨text, htext, rfl⟩ := addValue_slot hadd
      exact ⟨text, htext, by rw [text?_withText, if_pos rfl]⟩
  other := by
    intro draft after member hne h
    obtain ⟨-, rfl⟩ | ⟨key, hkey, hadd⟩ := addMember_cases h
    · rfl
    · cases key with
      | slot other =>
        obtain ⟨text, -, rfl⟩ := addValue_slot hadd
        have hother : place ≠ other := by
          rintro rfl
          exact hne hkey.symm
        rw [text?_withText, if_neg hother]
      | idFormat =>
        obtain ⟨format, -, rfl⟩ := addValue_idFormat hadd
        rfl

theorem fills_idFormat (emptyObject : Bool) :
    Fills (addMember emptyObject) "id_format" Draft.idFormat (IdFormat.ofJson emptyObject) where
  own := by
    intro draft after value _ h
    obtain ⟨hunknown, -⟩ | ⟨key, hkey, hadd⟩ := addMember_cases h
    · exact absurd rfl (hunknown .idFormat)
    · obtain rfl : key = .idFormat := Key.name_injective hkey
      obtain ⟨format, hformat, rfl⟩ := addValue_idFormat hadd
      exact ⟨format, hformat, rfl⟩
  other := by
    intro draft after member hne h
    obtain ⟨-, rfl⟩ | ⟨key, hkey, hadd⟩ := addMember_cases h
    · rfl
    · cases key with
      | slot place =>
        obtain ⟨text, -, rfl⟩ := addValue_slot hadd
        rfl
      | idFormat => exact absurd hkey.symm hne

/-- A name under which nothing was read. -/
def Free (draft : Draft) (name : String) : Prop :=
  ∀ key : Key, key.name = name → draft.holds key = false

theorem exists_addMember (hfree : draft.Free member.1)
    (hreads : ∀ key : Key, key.name = member.1 → key.Reads emptyObject member.2) :
    ∃ after, draft.addMember emptyObject member = .ok after ∧
      ∀ name ≠ member.1, draft.Free name → after.Free name := by
  unfold addMember
  cases hfound : Key.ofName? member.1 with
  | none => exact ⟨draft, rfl, fun _ _ hfree => hfree⟩
  | some key =>
    have hname := Key.ofName?_eq_some_iff.1 hfound
    simp only [hfree key hname, Bool.false_eq_true, if_false]
    cases key with
    | slot place =>
      obtain ⟨text, htext⟩ := hreads _ hname
      refine ⟨draft.withText place text, ?_, ?_⟩
      · simp [addValue, Json.toText_head_eq_ok_iff.2 htext, Except.map]
      · rintro name hne hother (other | _) hkey
        · have hplace : other ≠ place := by
            rintro rfl
            exact hne (hkey.symm.trans hname)
          have hheld := hother _ hkey
          simpa only [holds, text?_withText, if_neg hplace] using hheld
        · exact hother _ hkey
    | idFormat =>
      obtain ⟨format, hformat⟩ := hreads _ hname
      refine ⟨draft.withFormat format, ?_, ?_⟩
      · simp [addValue, hformat, Except.map]
      · rintro name hne hother (other | _) hkey
        · exact hother _ hkey
        · exact absurd (hkey.symm.trans hname) hne

theorem field_finish (draft : Draft) (place : Slot) :
    draft.finish.field place = (draft.text? place).getD (({} : WireFormat).field place) := by
  cases place <;> rfl

theorem readFrom_finish {members : Fields Json} (distinct : (Fields.names members).Nodup)
    (h : ({} : Draft).addMembers emptyObject members = .ok draft) :
    ReadFrom (fun value format => IdFormat.ofJson emptyObject value = .ok format) members
      draft.finish where
  field place := by
    rw [field_finish]
    refine Fields.Gives.imp rfl (fun value _ => Json.toText_head_eq_ok_iff.1)
      ((fills_text emptyObject place).gives distinct rfl h _)
  idFormat := (fills_idFormat emptyObject).gives distinct rfl h _

/-- Members with distinct names are read without failure if each known one is of its type. -/
theorem exists_addMembers {members : Fields Json} (distinct : (Fields.names members).Nodup)
    (hreads : ∀ (key : Key) (value : Json), Fields.lookup key.name members = some value →
      key.Reads emptyObject value) :
    ∃ draft, ({} : Draft).addMembers emptyObject members = .ok draft := by
  refine exists_foldlM Free
    (fun member => ∀ key : Key, key.name = member.1 → key.Reads emptyObject member.2)
    (fun draft member => exists_addMember) distinct ?_ ?_
  · rintro member - (place | _) -
    · rfl
    · rfl
  · rintro ⟨name, value⟩ hmember key rfl
    exact hreads key value (Fields.lookup_of_nodup distinct hmember)

end Draft

theorem ReadFrom.unique {means : Json → IdFormat → Prop} {members : Fields Json}
    {a b : WireFormat} (functional : ∀ given a b, means given a → means given b → a = b)
    (ha : ReadFrom means members a) (hb : ReadFrom means members b) : a = b := by
  refine eq_of_field (fun place => ?_) (ha.idFormat.unique functional hb.idFormat)
  refine (ha.field place).unique (fun given a b hgiven hother => ?_) (hb.field place)
  exact Json.str.inj (hgiven.symm.trans hother)

/-- Only what is found under the known names decides. -/
theorem ReadFrom.imp {means meant : Json → IdFormat → Prop} {members others : Fields Json}
    {wire : WireFormat}
    (hlookup : ∀ key : Key, Fields.lookup key.name others = Fields.lookup key.name members)
    (himp : ∀ given, Fields.lookup "id_format" members = some given →
      ∀ format, means given format → meant given format)
    (h : ReadFrom means members wire) : ReadFrom meant others wire where
  field place := (h.field place).imp (hlookup (.slot place)) fun _ _ hgiven => hgiven
  idFormat := h.idFormat.imp (hlookup .idFormat) fun given hgiven => himp given hgiven _

/-- Every known member of what a wire format was read from is of its type. -/
theorem ReadFrom.reads {emptyObject : Bool} {members : Fields Json} {wire : WireFormat}
    (h : ReadFrom (fun value format => IdFormat.ofJson emptyObject value = .ok format) members wire)
    (key : Key) (value : Json) (hvalue : Fields.lookup key.name members = some value) :
    key.Reads emptyObject value := by
  cases key with
  | slot place => exact (Fields.exists_gives_iff _).1 ⟨_, h.field place⟩ value hvalue
  | idFormat => exact (Fields.exists_gives_iff _).1 ⟨_, h.idFormat⟩ value hvalue

/-- Members with distinct names decode into a wire format exactly if it is what they say. -/
theorem finish_addMembers_iff {emptyObject : Bool} {members : Fields Json} {wire : WireFormat}
    (distinct : (Fields.names members).Nodup) :
    (∃ draft, ({} : Draft).addMembers emptyObject members = .ok draft ∧ draft.finish = wire) ↔
      ReadFrom (fun value format => IdFormat.ofJson emptyObject value = .ok format) members
        wire := by
  constructor
  · rintro ⟨draft, hdraft, rfl⟩
    exact Draft.readFrom_finish distinct hdraft
  · intro h
    obtain ⟨draft, hdraft⟩ := Draft.exists_addMembers distinct h.reads
    refine ⟨draft, hdraft, (Draft.readFrom_finish distinct hdraft).unique ?_ h⟩
    intro given a b ha hb
    exact Except.ok.inj (ha.symm.trans hb)

theorem ofJson_obj_eq_ok_iff {members : Fields Json} {wire : WireFormat}
    (distinct : (Fields.names members).Nodup) :
    WireFormat.ofJson (.obj members) = .ok wire ↔
      ReadFrom (fun value format => IdFormat.ofJson false value = .ok format) members wire := by
  rw [← finish_addMembers_iff distinct]
  exact map_eq_ok_iff

/-- With distinct names, the order of the members does not matter. -/
theorem ofJson_perm {members others : Fields Json} (distinct : (Fields.names members).Nodup)
    (h : others.Perm members) {wire : WireFormat} :
    WireFormat.ofJson (.obj others) = .ok wire ↔ WireFormat.ofJson (.obj members) = .ok wire := by
  have hlookup := Fields.lookup_perm h distinct
  have distinctOthers : (Fields.names others).Nodup := (h.map Prod.fst).nodup_iff.2 distinct
  rw [ofJson_obj_eq_ok_iff distinctOthers, ofJson_obj_eq_ok_iff distinct]
  constructor
  · exact fun h => h.imp (fun key => (hlookup key.name).symm) fun _ _ _ h => h
  · exact fun h => h.imp (fun key => hlookup key.name) fun _ _ _ h => h

end WireFormat

/-! ## Configurations -/

namespace Config

/-- The configuration is what the members say, its wire format by the same members. -/
structure ReadFrom (means : Json → IdFormat → Prop) (members : Fields Json) (config : Config) :
    Prop where
  /-- The extension is the text under its name, or the default. -/
  extension :
    Fields.Gives "extension" members Json.IsText ({} : Config).extension config.extension
  /-- The activation command is the text under its name, or the default. -/
  activationCommand : Fields.Gives "activation_command" members Json.IsText
    ({} : Config).activationCommand config.activationCommand
  /-- The timeout is the number of milliseconds under its name; null and nothing are none. -/
  requestTimeoutMs : Fields.Gives "request_timeout_ms" members Json.IsTimeout
    ({} : Config).requestTimeoutMs config.requestTimeoutMs
  /-- The wire format is what the members say. -/
  wire : WireFormat.ReadFrom means members config.wire

namespace Key

theorem ofName?_eq_some_iff {name : String} {key : Key} :
    ofName? name = some key ↔ key.name = name := by
  constructor
  · intro h
    exact of_decide_eq_true (p := key.name = name)
      (List.find?_some (p := fun key : Key => key.name = name) h)
  · rintro rfl
    cases key <;> decide

theorem name_injective {key other : Key} (h : key.name = other.name) : key = other :=
  Option.some.inj ((ofName?_eq_some_iff.2 h).symm.trans (ofName?_eq_some_iff.2 rfl))

/-- The head under the key is of its type. -/
def Reads : Key → Head → Prop
  | .extension, head => ∃ name, head.toText = .ok name
  | .activationCommand, head => ∃ name, head.toText = .ok name
  | .requestTimeout, head => ∃ ms, head.toOptionalUInt64 = .ok ms

end Key

namespace Draft

variable {draft after : Draft} {member : String × Json}

/-- A member that is read is kept for the wire format, or is one of the configuration's own and of
its type. -/
theorem addMember_cases (h : draft.addMember member = .ok after) :
    (Key.ofName? member.1 = none ∧ after = draft.keep member) ∨
      ∃ key : Key, key.name = member.1 ∧ draft.addHead key member.2.head = .ok after := by
  unfold addMember at h
  split at h
  · next hunknown => exact .inl ⟨hunknown, (Except.ok.inj h).symm⟩
  · next key hkey =>
    split at h
    · cases h
    · exact .inr ⟨key, Key.ofName?_eq_some_iff.1 hkey, h⟩

/-- A place that one key fills and no other member touches. -/
theorem fills {α : Type} (key : Key) {place : Draft → Option α}
    {read : Head → Except DataError α}
    (own : ∀ {draft head after}, addHead draft key head = .ok after →
      ∃ a, read head = .ok a ∧ place after = some a)
    (other : ∀ {draft head after} {other : Key}, other ≠ key →
      addHead draft other head = .ok after → place after = place draft)
    (keep : ∀ draft member, place (draft.keep member) = place draft) :
    Fills addMember key.name place (fun value => read value.head) where
  own := by
    intro draft after value _ h
    obtain ⟨hunknown, -⟩ | ⟨found, hfound, hadd⟩ := addMember_cases h
    · rw [Key.ofName?_eq_some_iff.2 rfl] at hunknown
      cases hunknown
    · obtain rfl : found = key := Key.name_injective hfound
      exact own hadd
  other := by
    intro draft after member hne h
    obtain ⟨-, rfl⟩ | ⟨found, hfound, hadd⟩ := addMember_cases h
    · exact keep draft member
    · have hother : found ≠ key := by
        rintro rfl
        exact hne hfound.symm
      exact other hother hadd

theorem fills_extension :
    Fills addMember "extension" Draft.extension (fun value => value.head.toText) := by
  refine fills .extension (fun h => ?_) (fun {_ _ _ other} hne h => ?_) (fun _ _ => rfl)
  · obtain ⟨name, hname, rfl⟩ := map_eq_ok_iff.1 h
    exact ⟨name, hname, rfl⟩
  · cases other with
    | extension => exact absurd rfl hne
    | _ =>
      obtain ⟨_, -, rfl⟩ := map_eq_ok_iff.1 h
      rfl

theorem fills_activationCommand :
    Fills addMember "activation_command" Draft.activationCommand
      (fun value => value.head.toText) := by
  refine fills .activationCommand (fun h => ?_) (fun {_ _ _ other} hne h => ?_) (fun _ _ => rfl)
  · obtain ⟨name, hname, rfl⟩ := map_eq_ok_iff.1 h
    exact ⟨name, hname, rfl⟩
  · cases other with
    | activationCommand => exact absurd rfl hne
    | _ =>
      obtain ⟨_, -, rfl⟩ := map_eq_ok_iff.1 h
      rfl

theorem fills_requestTimeoutMs :
    Fills addMember "request_timeout_ms" Draft.requestTimeoutMs
      (fun value => value.head.toOptionalUInt64) := by
  refine fills .requestTimeout (fun h => ?_) (fun {_ _ _ other} hne h => ?_) (fun _ _ => rfl)
  · obtain ⟨ms, hms, rfl⟩ := map_eq_ok_iff.1 h
    exact ⟨ms, hms, rfl⟩
  · cases other with
    | requestTimeout => exact absurd rfl hne
    | _ =>
      obtain ⟨_, -, rfl⟩ := map_eq_ok_iff.1 h
      rfl

/-- Whether a member is left for the wire format. -/
def foreign (member : String × Json) : Bool := (Key.ofName? member.1).isNone

/-- What is left for the wire format are the members under other names, in their order. -/
theorem others_foldlM {members : Fields Json} (h : members.foldlM addMember draft = .ok after) :
    after.others = draft.others ++ members.filter foreign := by
  induction members generalizing draft with
  | nil =>
    obtain rfl := Except.ok.inj h
    simp
  | cons member rest ih =>
    rw [List.foldlM_cons, bind_eq_ok_iff] at h
    obtain ⟨middle, hstep, hrest⟩ := h
    rw [ih hrest]
    obtain ⟨hunknown, rfl⟩ | ⟨key, hkey, hadd⟩ := addMember_cases hstep
    · have hforeign : foreign member = true := by simp [foreign, hunknown]
      simp [keep, hforeign]
    · have hforeign : foreign member = false := by
        simp [foreign, Key.ofName?_eq_some_iff.2 hkey]
      have hothers : middle.others = draft.others := by
        cases key with
        | _ =>
          obtain ⟨_, -, rfl⟩ := map_eq_ok_iff.1 hadd
          rfl
      simp [hforeign, hothers]

/-- A name of the configuration's own under which nothing was read. -/
def Free (draft : Draft) (name : String) : Prop :=
  ∀ key : Key, key.name = name → draft.holds key = false

theorem exists_addHead (draft : Draft) {key : Key} {head : Head} (hreads : key.Reads head) :
    ∃ after, draft.addHead key head = .ok after ∧
      ∀ other : Key, other ≠ key → after.holds other = draft.holds other := by
  cases key with
  | _ =>
    obtain ⟨a, ha⟩ := hreads
    refine ⟨_, map_eq_ok_iff.2 ⟨a, ha, rfl⟩, fun other hne => ?_⟩
    cases other <;> first | rfl | exact absurd rfl hne

theorem exists_addMember (hfree : draft.Free member.1)
    (hreads : ∀ key : Key, key.name = member.1 → key.Reads member.2.head) :
    ∃ after, draft.addMember member = .ok after ∧
      ∀ name ≠ member.1, draft.Free name → after.Free name := by
  unfold addMember
  cases hfound : Key.ofName? member.1 with
  | none => exact ⟨draft.keep member, rfl, fun _ _ hfree => hfree⟩
  | some key =>
    have hname := Key.ofName?_eq_some_iff.1 hfound
    obtain ⟨after, hafter, hleft⟩ := exists_addHead draft (hreads key hname)
    refine ⟨after, by simp [hfree key hname, hafter], fun name hne hother other hkey => ?_⟩
    have hkeys : other ≠ key := by
      rintro rfl
      exact hne (hkey.symm.trans hname)
    rw [hleft other hkeys]
    exact hother other hkey

end Draft

/-- The members left for the wire format say of it what all members say. -/
theorem readFrom_filter_foreign {means : Json → IdFormat → Prop} {members : Fields Json}
    {wire : WireFormat} :
    WireFormat.ReadFrom means (members.filter Draft.foreign) wire ↔
      WireFormat.ReadFrom means members wire := by
  have hlookup (key : WireFormat.Key) :
      Fields.lookup key.name (members.filter Draft.foreign) = Fields.lookup key.name members :=
    Fields.lookup_filter_of_pos (fun _ => by obtain (_ | _) | _ := key <;> rfl) members
  constructor
  · exact fun h => h.imp (fun key => (hlookup key).symm) fun _ _ _ h => h
  · exact fun h => h.imp hlookup fun _ _ _ h => h

theorem names_filter_nodup {members : Fields Json} (distinct : (Fields.names members).Nodup) :
    (Fields.names (members.filter Draft.foreign)).Nodup :=
  distinct.sublist (List.filter_sublist.map Prod.fst)

/-- A configuration that was decoded is what the members say. -/
theorem readFrom_of_ofMembers {members : Fields Json} {config : Config}
    (distinct : (Fields.names members).Nodup) (h : ofMembers members = .ok config) :
    ReadFrom (fun value format => IdFormat.ofJson true value = .ok format) members config := by
  obtain ⟨draft, hdraft, hfinish⟩ := bind_eq_ok_iff.1 h
  obtain ⟨wire, hwire, hconfig⟩ := bind_eq_ok_iff.1 hfinish
  obtain rfl := Except.ok.inj hconfig
  refine ⟨?_, ?_, ?_, ?_⟩
  · exact (Draft.fills_extension.gives distinct rfl hdraft _).imp rfl
      fun _ _ => Json.toText_head_eq_ok_iff.1
  · exact (Draft.fills_activationCommand.gives distinct rfl hdraft _).imp rfl
      fun _ _ => Json.toText_head_eq_ok_iff.1
  · exact (Draft.fills_requestTimeoutMs.gives distinct rfl hdraft _).imp rfl
      fun _ _ => Json.toOptionalUInt64_head_eq_ok_iff.1
  · rw [Draft.others_foldlM hdraft] at hwire
    exact readFrom_filter_foreign.1
      ((WireFormat.finish_addMembers_iff (names_filter_nodup distinct)).1 ⟨wire, hwire, rfl⟩)

/-- Members that say what a configuration is are decoded without failure. -/
theorem exists_ofMembers {members : Fields Json} {config : Config}
    (distinct : (Fields.names members).Nodup)
    (h : ReadFrom (fun value format => IdFormat.ofJson true value = .ok format) members config) :
    ∃ decoded, ofMembers members = .ok decoded := by
  have hreads (key : Key) (value : Json) (hvalue : Fields.lookup key.name members = some value) :
      key.Reads value.head := by
    cases key with
    | extension =>
      obtain ⟨name, hname⟩ := (Fields.exists_gives_iff _).1 ⟨_, h.extension⟩ value hvalue
      exact ⟨name, Json.toText_head_eq_ok_iff.2 hname⟩
    | activationCommand =>
      obtain ⟨name, hname⟩ := (Fields.exists_gives_iff _).1 ⟨_, h.activationCommand⟩ value hvalue
      exact ⟨name, Json.toText_head_eq_ok_iff.2 hname⟩
    | requestTimeout =>
      obtain ⟨ms, hms⟩ := (Fields.exists_gives_iff _).1 ⟨_, h.requestTimeoutMs⟩ value hvalue
      exact ⟨ms, Json.toOptionalUInt64_head_eq_ok_iff.2 hms⟩
  obtain ⟨draft, hdraft⟩ : ∃ draft, members.foldlM Draft.addMember ({} : Draft) = .ok draft := by
    refine exists_foldlM Draft.Free
      (fun member => ∀ key : Key, key.name = member.1 → key.Reads member.2.head)
      (fun draft member => Draft.exists_addMember) distinct ?_ ?_
    · rintro member - (_ | _ | _) -
      · rfl
      · rfl
      · rfl
    · rintro ⟨name, value⟩ hmember key rfl
      exact hreads key value (Fields.lookup_of_nodup distinct hmember)
  obtain ⟨wire, hwire, -⟩ := (WireFormat.finish_addMembers_iff (names_filter_nodup distinct)).2
    (readFrom_filter_foreign.2 h.wire)
  have hothers : draft.others = members.filter Draft.foreign := Draft.others_foldlM hdraft
  exact ⟨_, bind_eq_ok_iff.2 ⟨draft, hdraft, bind_eq_ok_iff.2 ⟨wire, hothers ▸ hwire, rfl⟩⟩⟩

theorem ReadFrom.unique {means : Json → IdFormat → Prop} {members : Fields Json} {a b : Config}
    (functional : ∀ given a b, means given a → means given b → a = b)
    (ha : ReadFrom means members a) (hb : ReadFrom means members b) : a = b := by
  have htext (given : Json) (a b : String) (ha : given.IsText a) (hb : given.IsText b) : a = b :=
    Json.str.inj (ha.symm.trans hb)
  have htimeout (given : Json) (a b : Option UInt64) (ha : given.IsTimeout a)
      (hb : given.IsTimeout b) : a = b :=
    Except.ok.inj ((Json.toOptionalUInt64_head_eq_ok_iff.2 ha).symm.trans
      (Json.toOptionalUInt64_head_eq_ok_iff.2 hb))
  have hextension := ha.extension.unique htext hb.extension
  have hcommand := ha.activationCommand.unique htext hb.activationCommand
  have hms := ha.requestTimeoutMs.unique htimeout hb.requestTimeoutMs
  have hwire := ha.wire.unique functional hb.wire
  cases a
  cases b
  simp_all

/-- Members with distinct names decode into a configuration exactly if it is what they say. -/
theorem ofMembers_eq_ok_iff {members : Fields Json} {config : Config}
    (distinct : (Fields.names members).Nodup) :
    ofMembers members = .ok config ↔
      ReadFrom (fun value format => IdFormat.ofJson true value = .ok format) members config := by
  constructor
  · exact readFrom_of_ofMembers distinct
  · intro h
    obtain ⟨decoded, hdecoded⟩ := exists_ofMembers distinct h
    have hsame : decoded = config :=
      (readFrom_of_ofMembers distinct hdecoded).unique
        (fun given a b ha hb => Except.ok.inj (ha.symm.trans hb)) h
    exact hsame ▸ hdecoded

/-- Only what is found under the known names decides. -/
theorem ReadFrom.imp {means meant : Json → IdFormat → Prop} {members others : Fields Json}
    {config : Config} (hlookup : ∀ name, Fields.lookup name others = Fields.lookup name members)
    (himp : ∀ given, Fields.lookup "id_format" members = some given →
      ∀ format, means given format → meant given format)
    (h : ReadFrom means members config) : ReadFrom meant others config where
  extension := h.extension.imp (hlookup _) fun _ _ hgiven => hgiven
  activationCommand := h.activationCommand.imp (hlookup _) fun _ _ hgiven => hgiven
  requestTimeoutMs := h.requestTimeoutMs.imp (hlookup _) fun _ _ hgiven => hgiven
  wire := h.wire.imp (fun key => hlookup key.name) himp

/-- With distinct names, the order of the members does not matter. -/
theorem ofMembers_perm {members others : Fields Json} (distinct : (Fields.names members).Nodup)
    (h : others.Perm members) {config : Config} :
    ofMembers others = .ok config ↔ ofMembers members = .ok config := by
  have hlookup := Fields.lookup_perm h distinct
  have distinctOthers : (Fields.names others).Nodup := (h.map Prod.fst).nodup_iff.2 distinct
  rw [ofMembers_eq_ok_iff distinctOthers, ofMembers_eq_ok_iff distinct]
  constructor
  · exact fun h => h.imp (fun name => (hlookup name).symm) fun _ _ _ h => h
  · exact fun h => h.imp hlookup fun _ _ _ h => h

end Config
end HostLink
