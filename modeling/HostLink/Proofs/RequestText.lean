import HostLink.Proofs.Envelopes
import Mathlib.Data.List.Sort

/-!
# The text of a request

A request is one flat object in which the caller's payload and the two header fields, the command
and the correlation id, share one space of names.  The header is put in last, so a payload field
that has a header name is lost, and nothing else is: `Command.parse_request` says what the native
side finds in the text, and that no payload field of a header name has any part in it.

The obstacle is that the payload is arbitrary: whether a header field displaces a payload field or
lands between two of them depends on the names.  Therefore nothing is said about where a field
stands.  Sorted fields are determined by their look-ups (`Fields.ext_lookup`), and the look-ups of a
request are those of its payload everywhere except at the two header names.
-/

namespace HostLink

/-! ## Fields and their look-ups -/

namespace Fields

variable {α : Type}

/-- Sorted fields are determined by their look-ups. -/
theorem ext_lookup {left right : Fields α} (hleft : Sorted left) (hright : Sorted right)
    (h : ∀ name, lookup name left = lookup name right) : left = right := by
  have : Std.Irrefl fun a b : String × α => a.1 < b.1 := ⟨fun a => String.lt_irrefl a.1⟩
  have : Std.Antisymm fun a b : String × α => a.1 < b.1 :=
    ⟨fun a b hab hba => absurd (String.lt_trans hab hba) (String.lt_irrefl a.1)⟩
  refine List.Pairwise.eq_of_mem_iff hleft hright fun field => ?_
  rw [mem_iff_lookup hleft, mem_iff_lookup hright, h]

end Fields

/-! ## The members of a request -/

namespace Command

variable {wire : WireFormat}

/-- What the members of a request hold: the header, and beside it the payload's fields of all other
names and no further field. -/
structure Carries (wire : WireFormat) (name : String) (id : CorrelationId) (payload : Fields Json)
    (members : Fields Json) : Prop where
  sorted : Fields.Sorted members
  command : Fields.lookup wire.commandField members = some (.str name)
  correlation : (Fields.lookup wire.correlationField members).bind CorrelationId.decode? = some id
  others : ∀ other, other ≠ wire.commandField → other ≠ wire.correlationField →
    Fields.lookup other members = Fields.lookup other payload
  nothingElse : ∀ field ∈ members, field.1 = wire.commandField ∨ field.1 = wire.correlationField ∨
    field ∈ payload

theorem lookup_commandField (distinct : wire.commandField ≠ wire.correlationField) (name : String)
    (id : CorrelationId) (payload : Fields Json) :
    Fields.lookup wire.commandField ((request name id payload).members wire) =
      some (.str name) := by
  simp only [members, request]
  rw [Fields.lookup_insert, if_neg (Ne.symm distinct), Fields.lookup_insert, if_pos rfl]

theorem lookup_other {other : String} (hcommand : other ≠ wire.commandField)
    (hcorrelation : other ≠ wire.correlationField) (name : String) (id : CorrelationId)
    (payload : Fields Json) :
    Fields.lookup other ((request name id payload).members wire) =
      Fields.lookup other payload := by
  simp only [members, request]
  rw [Fields.lookup_insert, if_neg (Ne.symm hcorrelation), Fields.lookup_insert,
    if_neg (Ne.symm hcommand)]

theorem sorted_members (wire : WireFormat) (name : String) (id : CorrelationId)
    {payload : Fields Json} (sorted : Fields.Sorted payload) :
    Fields.Sorted ((request name id payload).members wire) :=
  (sorted.insert _ _).insert _ _

theorem carries_members (distinct : wire.commandField ≠ wire.correlationField) (name : String)
    (id : CorrelationId) {payload : Fields Json} (sorted : Fields.Sorted payload) :
    Carries wire name id payload ((request name id payload).members wire) where
  sorted := sorted_members wire name id sorted
  command := lookup_commandField distinct name id payload
  correlation := by
    rw [lookup_correlationField, Option.bind_some, CorrelationId.decode?_encode]
  others _ hcommand hcorrelation := lookup_other hcommand hcorrelation name id payload
  nothingElse field hmem := by
    by_cases hcommand : field.1 = wire.commandField
    · exact .inl hcommand
    by_cases hcorrelation : field.1 = wire.correlationField
    · exact .inr (.inl hcorrelation)
    have hlookup := Fields.lookup_of_mem (sorted_members wire name id sorted) hmem
    rw [lookup_other hcommand hcorrelation] at hlookup
    exact .inr (.inr (Fields.mem_of_lookup hlookup))

/-- Payloads that agree except at the header names give the same members. -/
theorem members_congr (wire : WireFormat) (name : String) (id : CorrelationId)
    {payload overlay : Fields Json} (sorted : Fields.Sorted payload)
    (sortedOverlay : Fields.Sorted overlay)
    (h : ∀ other, other ≠ wire.commandField → other ≠ wire.correlationField →
      Fields.lookup other overlay = Fields.lookup other payload) :
    (request name id overlay).members wire = (request name id payload).members wire := by
  refine Fields.ext_lookup (sorted_members wire name id sortedOverlay)
    (sorted_members wire name id sorted) fun other => ?_
  simp only [members, request, Fields.lookup_insert]
  split_ifs with hcorrelation hcommand
  · rfl
  · rfl
  · exact h other (Ne.symm hcommand) (Ne.symm hcorrelation)

/-- The text of a request parses to one object that holds the command, the id and the payload's
other fields, and it is the same text whatever the payload has under the header names. -/
theorem parse_request (wire : WireFormat) (distinct : wire.commandField ≠ wire.correlationField)
    (name : String) (id : CorrelationId) (payload : Fields Json) (sorted : Fields.Sorted payload)
    (fits : ∀ member ∈ payload, member.2.Fits 126) :
    (∃ members, Json.parse ((request name id payload).text wire) = .ok (.obj members) ∧
      Carries wire name id payload members) ∧
    ∀ overlay, Fields.Sorted overlay →
      (∀ other, other ≠ wire.commandField → other ≠ wire.correlationField →
        Fields.lookup other overlay = Fields.lookup other payload) →
      (request name id overlay).text wire = (request name id payload).text wire := by
  obtain ⟨hcanonical, hdepth⟩ := fits_members wire name id sorted fits
  refine ⟨⟨(request name id payload).members wire, ?_, ?_⟩, fun overlay sortedOverlay h => ?_⟩
  · exact Json.parse_compact hcanonical hdepth
  · exact carries_members distinct name id sorted
  · unfold text
    rw [members_congr wire name id sorted sortedOverlay h]

/-- A command field without a name and a payload that has fields of both header names. -/
theorem parse_request_of_collision :
    let wire : WireFormat := { commandField := "", idFormat := .number }
    let payload : Fields Json :=
      [("", .null), ("_promise_id", .str "7"), ("data", .arr [.bool true])]
    ∃ members,
      Json.parse ((request "say \"hi\"" ⟨18446744073709551615⟩ payload).text wire) =
        .ok (.obj members) ∧
      Fields.lookup "" members = some (.str "say \"hi\"") ∧
      (Fields.lookup "_promise_id" members).bind CorrelationId.decode? =
        some ⟨18446744073709551615⟩ ∧
      Fields.lookup "data" members = some (.arr [.bool true]) ∧
      (request "say \"hi\"" ⟨18446744073709551615⟩ [("data", .arr [.bool true])]).text wire =
        (request "say \"hi\"" ⟨18446744073709551615⟩ payload).text wire := by
  intro wire payload
  have sorted : Fields.Sorted payload := by
    simp only [payload, Fields.Sorted]
    decide
  have fits : ∀ member ∈ payload, member.2.Fits 126 := by
    simp only [payload, List.forall_mem_cons]
    exact ⟨⟨trivial, by decide⟩, ⟨trivial, by decide⟩, ⟨⟨trivial, trivial⟩, by decide⟩,
      List.forall_mem_nil _⟩
  obtain ⟨⟨members, hparse, hcarries⟩, hsame⟩ := parse_request wire (by decide) "say \"hi\""
    ⟨18446744073709551615⟩ payload sorted fits
  refine ⟨members, hparse, hcarries.command, hcarries.correlation, ?_, ?_⟩
  · exact hcarries.others "data" (by decide) (by decide)
  · refine hsame _ (List.pairwise_singleton _ _) fun other hcommand hcorrelation => ?_
    have hempty : "" ≠ other := Ne.symm hcommand
    have hpromise : "_promise_id" ≠ other := Ne.symm hcorrelation
    simp only [payload, Fields.lookup, if_neg hempty, if_neg hpromise]

end Command
end HostLink
