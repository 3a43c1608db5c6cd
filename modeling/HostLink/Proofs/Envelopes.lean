import HostLink.Envelope
import HostLink.Proofs.JsonText
import HostLink.Snapshot
import HostLink.Transport

/-!
# Messages between the two sides

What one side writes is what the other side reads.  A correlation id survives either of its two
encodings; the text of a command gives the native side the id and the payload; and the text with
which the native side responds is classified as a reply to that very id, with the outcome that
`Response.outcome` states (`Inbound.parse_response`).

The field names only have to keep the correlation id, the data and the error apart.  The bounds on
nesting are those that a message adds to its parts: `Json.Fits` puts them together with the
canonical form, and so is what a value needs to travel.
-/

namespace HostLink

/-! ## Correlation ids -/

/-- Digits are read into their value while it fits 64 bits. -/
theorem readDigitsFrom_of_lt {digits : List Char} (hdigits : Json.AllDigits digits) {n : Nat}
    (hlt : Nat.ofDigitChars 10 digits n < 18446744073709551616) :
    readDigitsFrom n digits = .ok (Nat.ofDigitChars 10 digits n) := by
  induction digits generalizing n with
  | nil => rfl
  | cons c rest ih =>
    rw [Nat.ofDigitChars_cons] at hlt ⊢
    have hvalue : Nat.ofDigitChars 10 rest (10 * n + (c.toNat - '0'.toNat)) =
        10 ^ rest.length * (10 * n + (c.toNat - '0'.toNat)) + Nat.ofDigitChars 10 rest 0 :=
      Nat.ofDigitChars_eq_ofDigitChars_zero
    have hpower : 0 < 10 ^ rest.length := Nat.pow_pos (by decide)
    have hnext : 10 * n + (c.toNat - 48) < 18446744073709551616 := by
      refine Nat.lt_of_le_of_lt ?_ hlt
      rw [hvalue]
      exact Nat.le_trans (Nat.le_mul_of_pos_left _ hpower) (Nat.le_add_right _ _)
    rw [readDigitsFrom, if_pos (hdigits c List.mem_cons_self)]
    dsimp only
    rw [if_pos hnext]
    exact ih (fun other hmem => hdigits other (List.mem_cons_of_mem _ hmem)) hlt

theorem isBlank_of_isDigit {c : Char} (h : c.isDigit = true) : isBlank c = false := by
  have hrange : 48 ≤ c.toNat ∧ c.toNat ≤ 57 := by
    simpa [Char.isDigit, UInt32.le_iff_toNat_le] using h
  simp only [isBlank, decide_eq_false_iff_not]
  omega

theorem trimBlank_of_allDigits {digits : List Char} (h : Json.AllDigits digits) :
    trimBlank digits = digits := by
  have hkeep {cs : List Char} (hcs : Json.AllDigits cs) : cs.dropWhile isBlank = cs := by
    cases cs with
    | nil => rfl
    | cons c rest =>
      have hblank := isBlank_of_isDigit (hcs c List.mem_cons_self)
      exact List.dropWhile_cons_of_neg (by simp [hblank])
  unfold trimBlank
  rw [hkeep h, hkeep fun c hc => h c (List.mem_reverse.1 hc), List.reverse_reverse]

theorem readNatural_toDigits (n : UInt64) : readNatural (Nat.toDigits 10 n.toNat) = .ok n := by
  have hdigits := Json.allDigits_toDigits n.toNat
  have hread := readDigitsFrom_of_lt (n := 0) hdigits (by
    rw [Nat.ofDigitChars_ten_toDigits]
    exact n.toNat_lt)
  rw [Nat.ofDigitChars_ten_toDigits] at hread
  unfold readNatural
  split
  · rename_i hnil
    exact absurd hnil Nat.toDigits_ne_nil
  · rename_i hplus
    exact absurd (hdigits '+' (by rw [hplus]; exact List.mem_cons_self)) (by decide)
  · rename_i hplus
    exact absurd (hdigits '+' (by rw [hplus]; exact List.mem_cons_self)) (by decide)
  · rw [hread]
    exact congrArg Except.ok (UInt64.ofNat_toNat)

namespace CorrelationId

/-- An id is decoded from what it was encoded to, in either format. -/
theorem decode?_encode (format : IdFormat) (id : CorrelationId) :
    decode? (id.encode format) = some id := by
  cases format with
  | string =>
    have htext : ofText id.text = .ok id := by
      unfold ofText text
      rw [Nat.toList_repr, trimBlank_of_allDigits (Json.allDigits_toDigits _), readNatural_toDigits]
      rfl
    simp only [encode, decode?, htext]
    rfl
  | number =>
    have hword : (Number.ofUInt64 id.value).toUInt64? = some id.value := by
      have hnonneg : (0 : Int) ≤ id.value.toNat := Int.natCast_nonneg _
      simp only [Number.ofUInt64, Number.toUInt64?, if_pos hnonneg, Int.toNat_natCast,
        UInt64.ofNat_toNat]
    simp only [encode, toJson, decode?, hword]
    rfl

end CorrelationId

/-! ## Snapshots -/

/-- The records of objects are those objects. -/
theorem Record.toJson_freeze {items : List Json} (h : ∀ item ∈ items, item.isObject = true) :
    (items.filterMap Record.freeze?).map Record.toJson = items := by
  induction items with
  | nil => rfl
  | cons item rest ih =>
    have hitem := h item List.mem_cons_self
    have hrest := ih fun other hmem => h other (List.mem_cons_of_mem _ hmem)
    cases item with
    | obj members =>
      rw [List.filterMap_cons_some (by rfl), List.map_cons, hrest]
      rfl
    | _ => cases hitem

/-- A frozen field has the value that was frozen. -/
theorem Field.toJson_freeze (value : Json) : (Field.freeze value).toJson = value := by
  cases value with
  | arr items =>
    simp only [Field.freeze]
    by_cases hobjects : (!items.isEmpty && items.all Json.isObject) = true
    · rw [if_pos hobjects]
      rw [Bool.and_eq_true, List.all_eq_true] at hobjects
      exact congrArg Json.arr (Record.toJson_freeze hobjects.2)
    · rw [if_neg hobjects]
      rfl
  | _ => rfl

/-- A snapshot has the payload that was frozen. -/
theorem Snapshot.toJson_freeze (payload : Json) : (Snapshot.freeze payload).toJson = payload := by
  cases payload with
  | obj members =>
    have hfields : (members.map fun member => (member.1, Field.freeze member.2)).map
        (fun field => (field.1, field.2.toJson)) = members := by
      rw [List.map_map]
      refine (List.map_congr_left fun member _ => ?_).trans (List.map_id members)
      exact congrArg (Prod.mk member.1) (Field.toJson_freeze member.2)
    exact congrArg Json.obj hfields
  | _ => rfl

/-! ## Values that can travel -/

namespace Json

/-- The value is canonical and nested at most `limit` deep. -/
structure Fits (limit : Nat) (value : Json) : Prop where
  canonical : value.Canonical
  depth_le : value.depth ≤ limit

theorem canonicalMembers_iff {members : Fields Json} :
    CanonicalMembers members ↔ ∀ member ∈ members, member.2.Canonical := by
  induction members with
  | nil => simp [CanonicalMembers]
  | cons member rest ih => simp [CanonicalMembers, ih]

theorem depthOfMembers_le_iff {members : Fields Json} {limit : Nat} :
    depthOfMembers members ≤ limit ↔ ∀ member ∈ members, member.2.depth ≤ limit := by
  induction members with
  | nil => simp [depthOfMembers]
  | cons member rest ih => simp [depthOfMembers, ih]

/-- An object adds one level to its members. -/
theorem fits_obj {members : Fields Json} {limit : Nat} (sorted : Fields.Sorted members)
    (h : ∀ member ∈ members, member.2.Fits limit) : (Json.obj members).Fits (limit + 1) := by
  refine ⟨⟨sorted, canonicalMembers_iff.2 fun member hmem => (h member hmem).canonical⟩, ?_⟩
  exact Nat.succ_le_succ (depthOfMembers_le_iff.2 fun member hmem => (h member hmem).depth_le)

theorem fits_insert {members : Fields Json} {limit : Nat} {name : String} {value : Json}
    (hvalue : value.Fits limit) (h : ∀ member ∈ members, member.2.Fits limit) :
    ∀ member ∈ Fields.insert name value members, member.2.Fits limit := by
  intro member hmem
  rcases Fields.mem_insert hmem with rfl | hold
  · exact hvalue
  · exact h member hold

theorem fits_str (text : String) (limit : Nat) : (Json.str text).Fits limit :=
  ⟨trivial, Nat.zero_le _⟩

theorem fits_encode (format : IdFormat) (id : CorrelationId) (limit : Nat) :
    (id.encode format).Fits limit := by
  cases format <;> exact ⟨trivial, Nat.zero_le _⟩

end Json

/-! ## Requests -/

namespace Command

variable {wire : WireFormat} {command : Command}

/-- A request's members: the id is under the correlation field, whatever the payload holds. -/
theorem lookup_correlationField (wire : WireFormat) (name : String) (id : CorrelationId)
    (payload : Fields Json) :
    Fields.lookup wire.correlationField ((request name id payload).members wire) =
      some (id.encode wire.idFormat) := by
  simp only [members, request]
  rw [Fields.lookup_insert, if_pos rfl]

theorem fits_members (wire : WireFormat) (name : String) (id : CorrelationId)
    {payload : Fields Json} (sorted : Fields.Sorted payload)
    (hpayload : ∀ member ∈ payload, member.2.Fits 126) :
    (Json.obj ((request name id payload).members wire)).Fits Json.maxDepth :=
  Json.fits_obj ((sorted.insert _ _).insert _ _)
    (Json.fits_insert (Json.fits_encode _ _ _) (Json.fits_insert (Json.fits_str _ _) hpayload))

end Command

/-! ## Responses -/

/-- What the native side answers a request with. -/
inductive Response where
  | data (value : Json)
  | error (value : Json)

namespace Response

/-- What stands in the data field of the message. -/
def payload (wire : WireFormat) : Response → Json
  | .data value => value
  | .error value => .obj [(wire.errorField, value)]

/-- What the response means for the request: a truthy error, also one inside the data, fails it, and
everything else is its result. -/
def outcome (wire : WireFormat) : Response → Except Json Json
  | .data value =>
    match (value.member? wire.errorField).filter Json.isTruthy with
    | some failure => .error failure
    | none => .ok value
  | .error value => if value.isTruthy then .error value else .ok (.obj [(wire.errorField, value)])

/-- The response can travel in a message. -/
def Fits : Response → Prop
  | .data value => value.Fits 126
  | .error value => value.Fits 125

theorem Fits.payload {response : Response} (h : response.Fits) (wire : WireFormat) :
    (response.payload wire).Fits 126 := by
  cases response with
  | data value => exact h
  | error value =>
    refine Json.fits_obj (List.pairwise_singleton _ _) fun member hmem => ?_
    rw [List.mem_singleton.1 hmem]
    exact h

/-- Both kinds of response have the outcome of the data that they send. -/
theorem outcome_eq (wire : WireFormat) (response : Response) :
    response.outcome wire =
      match ((response.payload wire).member? wire.errorField).filter Json.isTruthy with
      | some failure => .error failure
      | none => .ok (response.payload wire) := by
  cases response with
  | data value => rfl
  | error value =>
    have hmember : (Json.obj [(wire.errorField, value)]).member? wire.errorField = some value :=
      if_pos rfl
    unfold outcome payload
    rw [hmember]
    cases htruthy : value.isTruthy <;> simp [Option.filter, htruthy]

end Response

namespace WireFormat

/-- The fields that a reply needs to be told apart. -/
structure Distinct (wire : WireFormat) : Prop where
  correlation_data : wire.correlationField ≠ wire.dataField
  correlation_error : wire.correlationField ≠ wire.errorField
  data_error : wire.dataField ≠ wire.errorField

/-- The message that responds to the request `id`. -/
def responseMessage (wire : WireFormat) (id : CorrelationId) (response : Response) : Json :=
  .obj (Fields.insert wire.dataField (response.payload wire)
    (Fields.insert wire.correlationField (id.encode wire.idFormat) []))

theorem fits_responseMessage (wire : WireFormat) (id : CorrelationId) {response : Response}
    (h : response.Fits) : (wire.responseMessage id response).Fits Json.maxDepth := by
  have hsorted : Fields.Sorted
      (Fields.insert wire.correlationField (id.encode wire.idFormat) []) :=
    Fields.Sorted.insert List.Pairwise.nil _ _
  refine Json.fits_obj (hsorted.insert _ _) (Json.fits_insert (h.payload wire) ?_)
  exact Json.fits_insert (Json.fits_encode _ _ _) nofun

end WireFormat

namespace Inbound

theorem ofJson_responseMessage {wire : WireFormat} (distinct : wire.Distinct) (id : CorrelationId)
    (response : Response) :
    ofJson wire (wire.responseMessage id response) = .ok (.reply id (response.outcome wire)) := by
  have hid : Fields.lookup wire.correlationField (Fields.insert wire.dataField
      (response.payload wire) (Fields.insert wire.correlationField (id.encode wire.idFormat) [])) =
      some (id.encode wire.idFormat) := by
    rw [Fields.lookup_insert, if_neg (Ne.symm distinct.correlation_data), Fields.lookup_insert,
      if_pos rfl]
  unfold WireFormat.responseMessage ofJson
  simp only [hid, CorrelationId.decode?_encode]
  have htop : truthy? wire.errorField (Fields.erase wire.correlationField
      (Fields.insert wire.dataField (response.payload wire)
        (Fields.insert wire.correlationField (id.encode wire.idFormat) []))) = none := by
    unfold truthy?
    rw [Fields.lookup_erase, if_neg distinct.correlation_error, Fields.lookup_insert,
      if_neg distinct.data_error, Fields.lookup_insert, if_neg distinct.correlation_error]
    rfl
  have hdata : Fields.lookup wire.dataField (Fields.erase wire.errorField
      (Fields.erase wire.correlationField (Fields.insert wire.dataField (response.payload wire)
        (Fields.insert wire.correlationField (id.encode wire.idFormat) [])))) =
      some (response.payload wire) := by
    rw [Fields.lookup_erase, if_neg (Ne.symm distinct.data_error), Fields.lookup_erase,
      if_neg distinct.correlation_data, Fields.lookup_insert, if_pos rfl]
  unfold outcomeOf
  simp only [htop, hdata, Option.getD_some]
  exact congrArg (fun outcome => Except.ok (reply id outcome)) (response.outcome_eq wire).symm

/-- The text of a response is a reply to its request, with the outcome of the response. -/
theorem parse_response {wire : WireFormat} (distinct : wire.Distinct) (id : CorrelationId)
    {response : Response} (h : response.Fits) :
    parse wire (wire.responseMessage id response).compact =
      .ok (.reply id (response.outcome wire)) := by
  obtain ⟨hcanonical, hdepth⟩ := wire.fits_responseMessage id h
  unfold parse
  rw [Json.parse_compact hcanonical hdepth]
  exact ofJson_responseMessage distinct id response

end Inbound
end HostLink
