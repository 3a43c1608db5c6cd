import Mathlib.Tactic.SplitIfs
import HostLink.Proofs.Grammar
import HostLink.Proofs.Numerals

/-!
# Values read back

`Json.parse_compact`: the compact text of a canonical value parses to that value, as long as the
value is nested no deeper than the reader goes.  Canonical is what every value is that was read or
put together from fields; a tree as written, with names twice or out of order, is sorted by reading.

Below that, `Json.reads_render` needs no canonical form: by the grammar, a tree is read as it
stands, whatever follows its text.  The proof is an induction over the tree with its lists of items
and of members.
-/

namespace HostLink
namespace Json

/-! ## Quoted texts -/

theorem hexValue?_hexDigit : ∀ n < 16, hexValue? (hexDigit n) = some n := by decide

theorem readTextFrom_short {letter c : Char} (hletter : letter ≠ 'u')
    (hshort : shortEscape? letter = some c) (done rest : List Char) :
    readTextFrom true .plain done ('\\' :: letter :: rest) =
      readTextFrom true .plain (c :: done) rest := by
  simp [readTextFrom, hletter, hshort]

/-- The escape of a control character by its number. -/
theorem readTextFrom_control {c : Char} (hcontrol : c.toNat < 0x20) (done rest : List Char) :
    readTextFrom true .plain done
      ('\\' :: 'u' :: '0' :: '0' :: hexDigit (c.toNat / 16) :: hexDigit (c.toNat % 16) :: rest) =
      readTextFrom true .plain (c :: done) rest := by
  have hzero : hexValue? '0' = some 0 := by decide
  have hhigh := hexValue?_hexDigit (c.toNat / 16) (by omega)
  have hlow := hexValue?_hexDigit (c.toNat % 16) (by omega)
  have hunit : 16 * (c.toNat / 16) + c.toNat % 16 = c.toNat := Nat.div_add_mod _ _
  have htrail : isTrail c.toNat = false := by
    simp only [isTrail, decide_eq_false_iff_not]
    omega
  have hlead : isLead c.toNat = false := by
    simp only [isLead, decide_eq_false_iff_not]
    omega
  have hdone : hexDone true none c.toNat = .ok (.plain, some c) := by
    simp [hexDone, htrail, hlead, Char.ofNat_toNat]
  simp [readTextFrom, hzero, hhigh, hlow, hunit, hdone]

/-- A character as it stands between quotes is read back. -/
theorem readTextFrom_escapeChar (c : Char) (done rest : List Char) :
    readTextFrom true .plain done (escapeChar c ++ rest) =
      readTextFrom true .plain (c :: done) rest := by
  unfold escapeChar
  split_ifs with hquote hbackslash hbackspace htab hfeed hform hreturn hcontrol
  · exact readTextFrom_short (by decide) (by rw [hquote]; rfl) done rest
  · exact readTextFrom_short (by decide) (by rw [hbackslash]; rfl) done rest
  · exact readTextFrom_short (by decide) (by rw [hbackspace]; rfl) done rest
  · exact readTextFrom_short (by decide) (by rw [htab]; rfl) done rest
  · exact readTextFrom_short (by decide) (by rw [hfeed]; rfl) done rest
  · exact readTextFrom_short (by decide) (by rw [hform]; rfl) done rest
  · exact readTextFrom_short (by decide) (by rw [hreturn]; rfl) done rest
  · exact readTextFrom_control hcontrol done rest
  · simp [readTextFrom, hquote, hbackslash, hcontrol]

theorem readTextFrom_escaped (cs done rest : List Char) :
    readTextFrom true .plain done (cs.flatMap escapeChar ++ '"' :: rest) =
      .ok (String.ofList (done.reverse ++ cs), rest) := by
  induction cs generalizing done with
  | nil => simp [readTextFrom]
  | cons c cs ih =>
    rw [List.flatMap_cons, List.append_assoc, readTextFrom_escapeChar, ih, List.reverse_cons,
      List.append_assoc, List.singleton_append]

/-- A quoted text is read back, from behind its opening quote. -/
theorem readText_renderText (s : String) (rest : List Char) :
    Lexicon.strict.text (s.toList.flatMap escapeChar ++ '"' :: rest) = .ok (s, rest) := by
  have hread := readTextFrom_escaped s.toList [] rest
  rwa [List.reverse_nil, List.nil_append, String.ofList_toList] at hread

/-! ## How values start and end -/

theorem endsNumber_cons {c : Char} (h : c.isDigit = false ∧ c ≠ '.' ∧ c ≠ 'e' ∧ c ≠ 'E')
    (rest : List Char) : EndsNumber (c :: rest) := by
  intro other hother
  rwa [← Option.some.inj hother]

theorem endsNumber_nil : EndsNumber [] := nofun

/-- The text starts with something that is neither a blank nor a closing bracket. -/
def Starts (cs : List Char) : Prop :=
  ∃ c rest, cs = c :: rest ∧ isBlank c = false ∧ c ≠ ']'

theorem Starts.skipBlank {cs : List Char} (h : Starts cs) : skipBlank cs = cs := by
  obtain ⟨c, rest, rfl, hblank, -⟩ := h
  exact List.dropWhile_cons_of_neg (by simp [hblank])

theorem Starts.append {cs : List Char} (h : Starts cs) (rest : List Char) :
    Starts (cs ++ rest) := by
  obtain ⟨c, tail, rfl, hblank, hbracket⟩ := h
  exact ⟨c, tail ++ rest, rfl, hblank, hbracket⟩

/-- A numeral starts with a minus sign or a digit. -/
theorem head_of_readNumeral {atEnd : ReadError} {cs : List Char} {result : Numeral × List Char}
    (h : readNumeral atEnd cs = .ok result) :
    ∃ c rest, cs = c :: rest ∧ (c = '-' ∨ c.isDigit = true) := by
  cases cs with
  | nil => cases h
  | cons c rest =>
    refine ⟨c, rest, rfl, ?_⟩
    by_cases hminus : c = '-'
    · exact .inl hminus
    · right
      by_contra hdigit
      have htake : (c :: rest).takeWhile Char.isDigit = [] := List.takeWhile_cons_of_neg hdigit
      have hdrop : (c :: rest).dropWhile Char.isDigit = c :: rest :=
        List.dropWhile_cons_of_neg hdigit
      have hwhole : readWhole atEnd (c :: rest) = .error .malformed := by
        unfold readWhole readDigits
        rw [htake, hdrop]
        rfl
      unfold readNumeral at h
      split at h
      rename_i hsign
      split at hsign
      · rename_i hsame
        exact hminus (List.cons.inj hsame).1
      · obtain ⟨rfl, rfl⟩ := Prod.mk.inj hsign
        rw [hwhole] at h
        cases h

/-- The texts of numbers start with a minus sign or a digit. -/
theorem head_renderNumber (number : Number) :
    ∃ c rest, number.render = c :: rest ∧ (c = '-' ∨ c.isDigit = true) := by
  have hread := readNumber_render number endsNumber_nil
  rw [List.append_nil] at hread
  unfold Lexicon.strict at hread
  cases hnumeral : readNumeral .ended number.render with
  | ok result => exact head_of_readNumeral hnumeral
  | error error =>
    simp only [hnumeral, bind, Except.bind] at hread
    cases hread

theorem plain_of_digit {c : Char} (h : c = '-' ∨ c.isDigit = true) :
    isBlank c = false ∧ c ≠ ']' ∧ c ≠ 'n' ∧ c ≠ 't' ∧ c ≠ 'f' ∧ c ≠ '"' := by
  rcases h with rfl | h
  · decide
  · refine ⟨?_, ?_, ?_, ?_, ?_, ?_⟩
    · by_contra hblank
      have hcases : c = ' ' ∨ c = '\t' ∨ c = '\n' ∨ c = '\r' :=
        of_decide_eq_true (eq_true_of_ne_false hblank)
      rcases hcases with rfl | rfl | rfl | rfl <;> exact absurd h (by decide)
    all_goals
      rintro rfl
      exact absurd h (by decide)

theorem starts_render (value : Json) : Starts value.render := by
  cases value with
  | null => exact ⟨'n', _, rfl, by decide, by decide⟩
  | bool value => cases value <;> exact ⟨_, _, rfl, by decide, by decide⟩
  | num number =>
    obtain ⟨c, rest, hrender, hhead⟩ := head_renderNumber number
    obtain ⟨hblank, hbracket, -⟩ := plain_of_digit hhead
    exact ⟨c, rest, hrender, hblank, hbracket⟩
  | str text => exact ⟨'"', _, rfl, by decide, by decide⟩
  | arr items => exact ⟨'[', _, rfl, by decide, by decide⟩
  | obj members => exact ⟨'\x7b', _, rfl, by decide, by decide⟩

/-! ## Values -/

theorem reads_number (number : Number) (depth : Nat) {rest : List Char} (hrest : EndsNumber rest) :
    Reads .strict depth (number.render ++ rest) (.value (.num number)) rest := by
  obtain ⟨c, tail, hrender, hhead⟩ := head_renderNumber number
  obtain ⟨hblank, -, hn, ht, hf, hquote⟩ := plain_of_digit hhead
  have hread := readNumber_render number hrest
  rw [hrender, List.cons_append] at hread ⊢
  refine .plain (skipBlank_cons hblank _) ?_
  unfold readPlain
  simp only [hn, ht, hf, hquote, hhead, if_false, if_true, hread, bind, Except.bind]

theorem starts_renderItems (item : Json) (items : List Json) :
    Starts (renderItems (item :: items)) := by
  cases items with
  | nil => exact starts_render item
  | cons next rest => exact (starts_render item).append _

theorem renderMembers_starts (member : String × Json) (members : List (String × Json)) :
    ∃ cs, renderMembers (member :: members) = '"' :: cs := by
  cases members <;> exact ⟨_, rfl⟩

/-- The text of items, which are more than none, is not the end of a list. -/
theorem Starts.not_closed {cs : List Char} (h : Starts cs) (rest : List Char) :
    Json.skipBlank cs ≠ ']' :: rest := by
  rw [h.skipBlank]
  obtain ⟨c, tail, rfl, -, hbracket⟩ := h
  exact fun heq => hbracket (List.cons.inj heq).1

theorem renderText_append (s : String) (rest : List Char) :
    renderText s ++ rest = '"' :: (s.toList.flatMap escapeChar ++ '"' :: rest) := by
  simp [renderText]

theorem endsNumber_comma (rest : List Char) : EndsNumber (',' :: rest) :=
  endsNumber_cons (by decide) rest

mutual
/-- The text of a tree is read as that tree, whatever follows that does not go on a number. -/
theorem reads_render : ∀ (value : Json) (depth : Nat) (rest : List Char),
    value.depth ≤ depth → EndsNumber rest →
      Reads .strict depth (value.render ++ rest) (.value value) rest
  | .null, _, rest, _, _ => .plain (skipBlank_cons (by decide) _) (by rfl)
  | .bool true, _, rest, _, _ => .plain (skipBlank_cons (by decide) _) (by rfl)
  | .bool false, _, rest, _, _ => .plain (skipBlank_cons (by decide) _) (by rfl)
  | .num number, depth, rest, _, hrest => reads_number number depth hrest
  | .str text, depth, rest, _, _ => by
    have htext := readText_renderText text rest
    refine .plain (skipBlank_cons (by decide) _) ?_
    simp [readPlain, htext, bind, Except.bind]
  | .arr _, 0, _, hdepth, _ => by
    simp only [Json.depth] at hdepth
    omega
  | .arr [], _ + 1, _, _, _ =>
    .emptyList (skipBlank_cons (by decide) _) (skipBlank_cons (by decide) _)
  | .arr (item :: items), depth + 1, rest, hdepth, _ => by
    simp only [Json.depth] at hdepth
    have hitems := reads_renderItems (item :: items) (List.cons_ne_nil _ _) depth rest (by omega)
    have hstarts := (starts_renderItems item items).append (']' :: rest)
    simp only [render, List.cons_append, List.append_assoc, List.nil_append]
    refine .list (skipBlank_cons (by decide) _) hstarts.not_closed ?_
    rwa [hstarts.skipBlank]
  | .obj _, 0, _, hdepth, _ => by
    simp only [Json.depth] at hdepth
    omega
  | .obj [], _ + 1, _, _, _ =>
    .emptyObject (skipBlank_cons (by decide) _) (skipBlank_cons (by decide) _)
  | .obj (member :: members), depth + 1, rest, hdepth, _ => by
    simp only [Json.depth] at hdepth
    have hmembers := reads_renderMembers (member :: members) (List.cons_ne_nil _ _) depth rest
      (by omega)
    obtain ⟨cs, hcs⟩ := renderMembers_starts member members
    simp only [render, List.cons_append, List.append_assoc, List.nil_append]
    rw [hcs, List.cons_append] at hmembers ⊢
    have hquote : skipBlank ('"' :: (cs ++ '\x7d' :: rest)) = '"' :: (cs ++ '\x7d' :: rest) :=
      skipBlank_cons (by decide) _
    refine .object (skipBlank_cons (by decide) _) (fun tail hclose => ?_) (hquote.symm ▸ hmembers)
    rw [hquote] at hclose
    exact absurd (List.cons.inj hclose).1 (by decide)

theorem reads_renderItems : ∀ (items : List Json), items ≠ [] →
    ∀ (depth : Nat) (rest : List Char), depthOfItems items ≤ depth →
      Reads .strict depth (renderItems items ++ ']' :: rest) (.items items) rest
  | [], hne, _, _, _ => absurd rfl hne
  | [item], _, depth, rest, hdepth => by
    simp only [depthOfItems] at hdepth
    have hitem := reads_render item depth (']' :: rest) (by omega)
      (endsNumber_cons (by decide) rest)
    exact .lastItem hitem (skipBlank_cons (by decide) _)
  | item :: next :: items, _, depth, rest, hdepth => by
    rw [depthOfItems] at hdepth
    have hitem := reads_render item depth (',' :: (renderItems (next :: items) ++ ']' :: rest))
      (by omega) (endsNumber_comma _)
    have hitems := reads_renderItems (next :: items) (List.cons_ne_nil _ _) depth rest (by omega)
    rw [renderItems, List.append_assoc, List.cons_append]
    exact .moreItems hitem (skipBlank_cons (by decide) _) hitems

theorem reads_renderMembers : ∀ (members : List (String × Json)), members ≠ [] →
    ∀ (depth : Nat) (rest : List Char), depthOfMembers members ≤ depth →
      Reads .strict depth (renderMembers members ++ '\x7d' :: rest) (.members members) rest
  | [], hne, _, _, _ => absurd rfl hne
  | [(name, value)], _, depth, rest, hdepth => by
    simp only [depthOfMembers] at hdepth
    have hvalue := reads_render value depth ('\x7d' :: rest) (by omega)
      (endsNumber_cons (by decide) rest)
    rw [renderMembers, List.append_assoc, List.cons_append, renderText_append]
    exact .lastMember (skipBlank_cons (by decide) _) (readText_renderText name _)
      (skipBlank_cons (by decide) _) hvalue (skipBlank_cons (by decide) _)
  | (name, value) :: next :: members, _, depth, rest, hdepth => by
    rw [depthOfMembers] at hdepth
    have hvalue := reads_render value depth
      (',' :: (renderMembers (next :: members) ++ '\x7d' :: rest)) (by omega) (endsNumber_comma _)
    have hmembers := reads_renderMembers (next :: members) (List.cons_ne_nil _ _) depth rest
      (by omega)
    rw [renderMembers, List.append_assoc, List.cons_append, List.append_assoc, List.cons_append,
      renderText_append]
    exact .moreMembers (skipBlank_cons (by decide) _) (readText_renderText name _)
      (skipBlank_cons (by decide) _) hvalue (skipBlank_cons (by decide) _) hmembers
end

/-- The text of a tree is read as that tree by every reader that goes deep enough. -/
theorem readTree_render {value : Json} {limit : Nat} (depth : value.depth ≤ limit) :
    readTree limit value.render = .ok (value, []) := by
  have hreads := reads_render value limit [] depth endsNumber_nil
  rw [List.append_nil] at hreads
  exact readTree_eq_ok_iff.2 hreads

/-! ## Canonical values -/

/-- Putting a field behind all others. -/
theorem insert_last {α : Type} {fields : Fields α} {name : String} (value : α)
    (h : ∀ field ∈ fields, field.1 < name) :
    Fields.insert name value fields = fields ++ [(name, value)] := by
  induction fields with
  | nil => rfl
  | cons field rest ih =>
    have hlt := h field List.mem_cons_self
    have hne : field.1 ≠ name := fun heq => String.lt_irrefl name (heq ▸ hlt)
    have hnot : ¬name < field.1 := fun hgt => String.lt_irrefl name (String.lt_trans hgt hlt)
    have hrest := ih fun other hmem => h other (List.mem_cons_of_mem _ hmem)
    rw [Fields.insert, if_neg hne, if_neg hnot, hrest]
    rfl

/-- Fields in order are the fields of themselves. -/
theorem ofPairs_of_sorted {α : Type} {fields : Fields α} (sorted : Fields.Sorted fields) :
    Fields.ofPairs fields = fields := by
  suffices hfold : ∀ front : Fields α, Fields.Sorted (front ++ fields) →
      fields.foldl (fun fields pair => Fields.insert pair.1 pair.2 fields) front =
        front ++ fields from
    hfold [] sorted
  induction fields with
  | nil => exact fun front _ => (List.append_nil front).symm
  | cons field rest ih =>
    intro front hsorted
    have hbelow : ∀ other ∈ front, other.1 < field.1 := fun other hmem =>
      (List.pairwise_append.1 hsorted).2.2 other hmem field List.mem_cons_self
    rw [List.append_cons] at hsorted
    rw [List.foldl_cons, insert_last field.2 hbelow, ih (List.Pairwise.of_cons sorted) _ hsorted,
      ← List.append_cons]

mutual
theorem normalize_of_canonical : ∀ value : Json, value.Canonical → value.normalize = value
  | .null, _ => rfl
  | .bool _, _ => rfl
  | .num _, _ => rfl
  | .str _, _ => rfl
  | .arr items, h => congrArg Json.arr (normalizeItems_of_canonical items h)
  | .obj members, h => by
    have hmembers := normalizeMembers_of_canonical members h.2
    rw [normalize, hmembers, ofPairs_of_sorted h.1]

theorem normalizeItems_of_canonical : ∀ items : List Json, CanonicalItems items →
    normalizeItems items = items
  | [], _ => rfl
  | item :: rest, h => by
    rw [normalizeItems, normalize_of_canonical item h.1, normalizeItems_of_canonical rest h.2]

theorem normalizeMembers_of_canonical : ∀ members : List (String × Json),
    CanonicalMembers members → normalizeMembers members = members
  | [], _ => rfl
  | (name, value) :: rest, h => by
    rw [normalizeMembers, normalize_of_canonical value h.1, normalizeMembers_of_canonical rest h.2]
end

/-- The value of a whole text, for a reader that goes at most `limit` levels deep. -/
def parseWithin (limit : Nat) (text : String) : Except ReadError Json := do
  let (tree, rest) ← readTree limit text.toList
  readEnd rest
  .ok tree.normalize

/-- A canonical value is what its compact text is read as by every reader that goes deep enough. -/
theorem parseWithin_compact {value : Json} {limit : Nat} (canonical : value.Canonical)
    (depth : value.depth ≤ limit) :
    parseWithin limit value.compact = .ok value := by
  unfold parseWithin compact
  simp only [String.toList_ofList, readTree_render depth, bind, Except.bind,
    normalize_of_canonical value canonical]
  rfl

/-- A canonical value is what its compact text parses to. -/
theorem parse_compact {value : Json} (canonical : value.Canonical)
    (depth : value.depth ≤ maxDepth) :
    parse value.compact = .ok value :=
  parseWithin_compact canonical depth

end Json
end HostLink
