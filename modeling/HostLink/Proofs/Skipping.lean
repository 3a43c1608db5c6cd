import HostLink.Proofs.Grammar

/-!
# Passing over what could be read

`Json.Reads.skipValue`: a value that can be read, however deep, can be passed over, and the same
text is left behind it.  The two readings differ in their words: passing over takes any number
and any escape of four hexadecimal digits.  So the reader of quoted texts is followed state by
state, a surrogate that waits for its other half being no state of the careless reader, and the rest
is the grammar, phrase by phrase.
-/

namespace HostLink
namespace Json

/-! ## Numbers -/

section Numbers

variable {atEnd : ReadError} {cs rest : List Char}

theorem readDigits_of_ok (other : ReadError) {digits : List Char}
    (h : readDigits atEnd cs = .ok (digits, rest)) : readDigits other cs = .ok (digits, rest) := by
  unfold readDigits at h ⊢
  split at h
  · cases h
  · cases h
  · exact h

theorem readWhole_of_ok (other : ReadError) {digits : List Char}
    (h : readWhole atEnd cs = .ok (digits, rest)) : readWhole other cs = .ok (digits, rest) := by
  obtain ⟨found, hdigits, h⟩ := bind_eq_ok_iff.1 h
  exact bind_eq_ok_iff.2 ⟨found, readDigits_of_ok other hdigits, h⟩

theorem readFraction_of_ok (other : ReadError) {digits : List Char}
    (h : readFraction atEnd cs = .ok (digits, rest)) :
    readFraction other cs = .ok (digits, rest) := by
  unfold readFraction at h ⊢
  split at h
  · exact readDigits_of_ok other h
  · exact h

theorem readExponent_of_ok (other : ReadError) {exponent : Option Int}
    (h : readExponent atEnd cs = .ok (exponent, rest)) :
    readExponent other cs = .ok (exponent, rest) := by
  unfold readExponent at h ⊢
  split at h
  · split_ifs at h ⊢
    · obtain ⟨found, hdigits, h⟩ := bind_eq_ok_iff.1 h
      exact bind_eq_ok_iff.2 ⟨found, readDigits_of_ok other hdigits, h⟩
    · exact h
  · exact h

/-- The error of a text that ends within a number shows only where reading fails. -/
theorem readNumeral_of_ok (other : ReadError) {numeral : Numeral}
    (h : readNumeral atEnd cs = .ok (numeral, rest)) :
    readNumeral other cs = .ok (numeral, rest) := by
  unfold readNumeral at h ⊢
  split at h
  next negative start _ =>
  obtain ⟨whole, hwhole, h⟩ := bind_eq_ok_iff.1 h
  obtain ⟨fraction, hfraction, h⟩ := bind_eq_ok_iff.1 h
  obtain ⟨exponent, hexponent, h⟩ := bind_eq_ok_iff.1 h
  refine bind_eq_ok_iff.2 ⟨whole, readWhole_of_ok other hwhole, ?_⟩
  refine bind_eq_ok_iff.2 ⟨fraction, readFraction_of_ok other hfraction, ?_⟩
  exact bind_eq_ok_iff.2 ⟨exponent, readExponent_of_ok other hexponent, h⟩

end Numbers

/-! ## Quoted texts -/

/-- Where the careless reader stands when the careful one stands here: it knows no surrogates, so
behind the escape of a leading one it is between characters. -/
def TextState.careless : TextState → TextState
  | .plain => .plain
  | .escape => .escape
  | .hex _ count value => .hex none count value
  | .lead _ => .plain
  | .leadEscape _ => .escape

theorem careless_of_hexDone {lead : Option Nat} {unit : Nat} {state : TextState}
    {char : Option Char} (h : hexDone true lead unit = .ok (state, char)) :
    state.careless = .plain := by
  unfold hexDone at h
  simp only [Bool.not_true, Bool.false_eq_true, if_false] at h
  cases lead with
  | none =>
    dsimp only at h
    split_ifs at h
    · obtain ⟨rfl, -⟩ := Prod.mk.inj (Except.ok.inj h)
      rfl
    · obtain ⟨rfl, -⟩ := Prod.mk.inj (Except.ok.inj h)
      rfl
  | some high =>
    dsimp only at h
    split_ifs at h
    obtain ⟨rfl, -⟩ := Prod.mk.inj (Except.ok.inj h)
    rfl

/-- A quoted text that is read with care is read carelessly up to the same quote. -/
theorem exists_readTextFrom_careless {cs rest : List Char} {text : String} {state : TextState}
    {done : List Char} (h : readTextFrom true state done cs = .ok (text, rest))
    (other : List Char) :
    ∃ passed, readTextFrom false state.careless other cs = .ok (passed, rest) := by
  induction cs generalizing state done other with
  | nil => cases state <;> cases h
  | cons c tail ih =>
    cases state with
    | plain =>
      simp only [readTextFrom, TextState.careless] at h ⊢
      split_ifs at h ⊢
      · obtain ⟨-, rfl⟩ := Prod.mk.inj (Except.ok.inj h)
        exact ⟨_, rfl⟩
      · exact ih h other
      · exact ih h (c :: other)
    | escape =>
      simp only [readTextFrom, TextState.careless] at h ⊢
      split_ifs at h ⊢
      · exact ih h other
      · cases hshort : shortEscape? c with
        | none => simp [hshort] at h
        | some short =>
          rw [hshort] at h
          exact ih h (short :: other)
    | hex lead count value =>
      simp only [readTextFrom, TextState.careless] at h ⊢
      cases hdigit : hexValue? c with
      | none =>
        simp only [hdigit] at h
        split_ifs at h
      | some digit =>
        simp only [hdigit] at h ⊢
        split_ifs at h ⊢
        · exact ih h other
        · -- the careless reader takes any four digits for one character
          simp only [hexDone, Bool.not_false, if_true]
          cases hdone : hexDone true lead (16 * value + digit) with
          | error e => simp [hdone] at h
          | ok outcome =>
            obtain ⟨state, char⟩ := outcome
            have hplain := careless_of_hexDone hdone
            rw [hdone] at h
            cases char with
            | none => exact hplain ▸ ih h _
            | some char => exact hplain ▸ ih h _
    | lead unit =>
      simp only [readTextFrom, TextState.careless] at h ⊢
      split_ifs at h with hbackslash
      subst hbackslash
      exact ih h other
    | leadEscape unit =>
      simp only [readTextFrom, TextState.careless] at h ⊢
      split_ifs at h with hu
      subst hu
      exact ih h other

/-! ## Values -/

section Values

variable {depth : Nat} {cs rest : List Char}

theorem exists_text_lenient {name : String} (h : Lexicon.strict.text cs = .ok (name, rest)) :
    ∃ passed, Lexicon.lenient.text cs = .ok (passed, rest) :=
  exists_readTextFrom_careless h []

theorem exists_readPlain_lenient {c : Char} {tree : Json}
    (h : readPlain .strict c cs = .ok (tree, rest)) :
    ∃ passed, readPlain .lenient c cs = .ok (passed, rest) := by
  unfold readPlain at h ⊢
  split_ifs at h ⊢
  · exact ⟨tree, h⟩
  · exact ⟨tree, h⟩
  · exact ⟨tree, h⟩
  · obtain ⟨⟨text, after⟩, htext, h⟩ := bind_eq_ok_iff.1 h
    obtain ⟨-, rfl⟩ := Prod.mk.inj (Except.ok.inj h)
    obtain ⟨passed, hpassed⟩ := exists_text_lenient htext
    exact ⟨_, bind_eq_ok_iff.2 ⟨_, hpassed, rfl⟩⟩
  · obtain ⟨⟨number, after⟩, hnumber, h⟩ := bind_eq_ok_iff.1 h
    obtain ⟨-, rfl⟩ := Prod.mk.inj (Except.ok.inj h)
    obtain ⟨⟨numeral, behind⟩, hnumeral, h⟩ := bind_eq_ok_iff.1 hnumber
    have hrest : behind = after := by
      dsimp only at h
      split at h
      · exact (Prod.mk.inj (Except.ok.inj h)).2
      · cases h
    subst hrest
    have hpassed : Lexicon.lenient.number (c :: cs) = .ok (.float (.zero false), behind) :=
      bind_eq_ok_iff.2 ⟨_, readNumeral_of_ok .malformed hnumeral, rfl⟩
    exact ⟨_, bind_eq_ok_iff.2 ⟨_, hpassed, rfl⟩⟩

/-- The careless reader passes over a phrase of this kind. -/
def Phrase.PassedBy (depth : Nat) (cs : List Char) : Phrase → List Char → Prop
  | .value _, rest => ∃ tree, Reads .lenient depth cs (.value tree) rest
  | .items _, rest => ∃ list, Reads .lenient depth cs (.items list) rest
  | .members _, rest => ∃ fields, Reads .lenient depth cs (.members fields) rest

/-- A phrase that can be read can be passed over, at any depth that the text leaves room for. -/
theorem Reads.passedBy {phrase : Phrase} (h : Reads .strict depth cs phrase rest) :
    ∀ limit, cs.length ≤ limit → phrase.PassedBy limit cs rest := by
  induction h with
  | plain hskip hread =>
    intro limit _
    obtain ⟨passed, hpassed⟩ := exists_readPlain_lenient hread
    exact ⟨passed, .plain hskip hpassed⟩
  | emptyList hskip hclose =>
    intro limit hlimit
    have hlt := length_lt_of_skipBlank hskip
    obtain ⟨limit, rfl⟩ : ∃ less, limit = less + 1 := ⟨limit - 1, by omega⟩
    exact ⟨_, .emptyList hskip hclose⟩
  | @list _ _ after _ _ hskip hopen _ ih =>
    intro limit hlimit
    have hlt := length_lt_of_skipBlank hskip
    have hblank := length_skipBlank_le after
    obtain ⟨limit, rfl⟩ : ∃ less, limit = less + 1 := ⟨limit - 1, by omega⟩
    obtain ⟨list, hlist⟩ := ih limit (by omega)
    exact ⟨_, .list hskip hopen hlist⟩
  | emptyObject hskip hclose =>
    intro limit hlimit
    have hlt := length_lt_of_skipBlank hskip
    obtain ⟨limit, rfl⟩ : ∃ less, limit = less + 1 := ⟨limit - 1, by omega⟩
    exact ⟨_, .emptyObject hskip hclose⟩
  | @object _ _ after _ _ hskip hopen _ ih =>
    intro limit hlimit
    have hlt := length_lt_of_skipBlank hskip
    have hblank := length_skipBlank_le after
    obtain ⟨limit, rfl⟩ : ∃ less, limit = less + 1 := ⟨limit - 1, by omega⟩
    obtain ⟨fields, hfields⟩ := ih limit (by omega)
    exact ⟨_, .object hskip hopen hfields⟩
  | lastItem _ hclose ih =>
    intro limit hlimit
    obtain ⟨item, hitem⟩ := ih limit hlimit
    exact ⟨_, .lastItem hitem hclose⟩
  | moreItems hitem hcomma _ ihItem ihItems =>
    intro limit hlimit
    have hlength := hitem.length_le Lexicon.consumes_strict
    have hlt := length_lt_of_skipBlank hcomma
    obtain ⟨item, hitem⟩ := ihItem limit hlimit
    obtain ⟨list, hlist⟩ := ihItems limit (by omega)
    exact ⟨_, .moreItems hitem hcomma hlist⟩
  | lastMember hquote hname hcolon _ hclose ih =>
    intro limit hlimit
    have hopened := length_lt_of_skipBlank hquote
    have hnamed := Lexicon.consumes_strict.text hname
    have hvalued := length_lt_of_skipBlank hcolon
    obtain ⟨passed, hpassed⟩ := exists_text_lenient hname
    obtain ⟨value, hvalue⟩ := ih limit (by omega)
    exact ⟨_, .lastMember hquote hpassed hcolon hvalue hclose⟩
  | moreMembers hquote hname hcolon hvalue hcomma _ ihValue ihMembers =>
    intro limit hlimit
    have hopened := length_lt_of_skipBlank hquote
    have hnamed := Lexicon.consumes_strict.text hname
    have hvalued := length_lt_of_skipBlank hcolon
    have hlength := hvalue.length_le Lexicon.consumes_strict
    have hlt := length_lt_of_skipBlank hcomma
    obtain ⟨passed, hpassed⟩ := exists_text_lenient hname
    obtain ⟨value, hvalue⟩ := ihValue limit (by omega)
    obtain ⟨fields, hfields⟩ := ihMembers limit (by omega)
    exact ⟨_, .moreMembers hquote hpassed hcolon hvalue hcomma hfields⟩

end Values

/-- A value that is there by the grammar can be passed over. -/
theorem Reads.skipValue {depth : Nat} {cs rest : List Char} {tree : Json}
    (h : Reads .strict depth cs (.value tree) rest) : skipValue cs = .ok ((), rest) := by
  obtain ⟨passed, hpassed⟩ := h.passedBy cs.length (Nat.le_refl _)
  have hread := hpassed.run Lexicon.consumes_lenient (fuelFor cs) (Nat.le_refl _)
  exact bind_eq_ok_iff.2 ⟨(passed, rest), hread, rfl⟩

end Json
end HostLink
