import HostLink.Json.Lexer
import HostLink.Json.Printer
import HostLink.Proofs.Decimals

/-!
# Numbers read back

The text of every JSON number reads back as that number, whatever follows it, as long as that cannot
go on a number (`Json.readNumber_render`).

All layouts of a number are cases of one shape: a sign, digits, perhaps a point with digits behind
it, and perhaps an exponent.  `Json.readNumeral_written` reads that shape; what is left for each
layout is that its parts stand for the right decimal, where the digits that rendering moves across
the point do not matter by `Double.ofDecimal?_shift`.
-/

namespace HostLink
namespace Json

/-! ## The shape of a number -/

/-- A point with digits behind it, or nothing. -/
def fractionText : List Char → List Char
  | [] => []
  | digit :: rest => '.' :: digit :: rest

/-- An exponent with its sign, or nothing. -/
def exponentText : Option Int → List Char
  | none => []
  | some e => 'e' :: (if e < 0 then '-' else '+') :: Nat.toDigits 10 e.natAbs

/-- The text of a number by its parts. -/
def written (negative : Bool) (whole fraction : List Char) (exponent : Option Int) : List Char :=
  (if negative then ['-'] else []) ++ (whole ++ (fractionText fraction ++ exponentText exponent))

/-- The characters are all digits. -/
def AllDigits (cs : List Char) : Prop := ∀ c ∈ cs, c.isDigit = true

/-- Digits that may stand in front of the point. -/
structure WholePart (digits : List Char) : Prop where
  allDigits : AllDigits digits
  nonempty : digits ≠ []
  plain : ∀ second rest, digits ≠ '0' :: second :: rest

/-- Nothing that follows here goes on a number. -/
def EndsNumber (rest : List Char) : Prop :=
  ∀ c ∈ rest.head?, c.isDigit = false ∧ c ≠ '.' ∧ c ≠ 'e' ∧ c ≠ 'E'

/-- Nothing that follows here goes on the digits of a number. -/
def EndsDigits (rest : List Char) : Prop := ∀ c ∈ rest.head?, c.isDigit = false

theorem endsDigits_cons {c : Char} (h : c.isDigit = false) (rest : List Char) :
    EndsDigits (c :: rest) := by
  intro other hother
  rwa [← Option.some.inj hother]

theorem EndsNumber.endsDigits {rest : List Char} (h : EndsNumber rest) : EndsDigits rest :=
  fun c hc => (h c hc).1

theorem allDigits_toDigits (n : Nat) : AllDigits (Nat.toDigits 10 n) :=
  fun _ hc => Nat.isDigit_of_mem_toDigits (by decide) (by decide) hc

/-- The decimal digits of a positive number do not start with a zero. -/
theorem head_toDigits_ne {n : Nat} (hpos : 0 < n) (rest : List Char) :
    Nat.toDigits 10 n ≠ '0' :: rest := by
  induction n using Nat.strongRecOn generalizing rest with
  | _ n ih =>
    intro h
    by_cases hlt : n < 10
    · rw [Nat.toDigits_of_lt_base hlt] at h
      have hzero : n.digitChar = '0' := (List.cons.inj h).1
      have hvalue := Nat.toNat_digitChar_of_lt_ten hlt
      rw [hzero] at hvalue
      have hfortyEight : '0'.toNat = 48 := rfl
      omega
    · rw [Nat.toDigits_of_base_le (by decide) (by omega)] at h
      cases hfront : Nat.toDigits 10 (n / 10) with
      | nil => exact Nat.toDigits_ne_nil hfront
      | cons c front =>
        rw [hfront, List.cons_append] at h
        rw [(List.cons.inj h).1] at hfront
        exact ih (n / 10) (by omega) (by omega) front hfront

theorem wholePart_toDigits (n : Nat) : WholePart (Nat.toDigits 10 n) := by
  refine ⟨allDigits_toDigits n, Nat.toDigits_ne_nil, fun second rest h => ?_⟩
  rcases Nat.eq_zero_or_pos n with rfl | hpos
  · rw [Nat.toDigits_zero] at h
    cases h
  · exact head_toDigits_ne hpos _ h

theorem digitsValue_toDigits (n : Nat) : digitsValue (Nat.toDigits 10 n) = n :=
  Nat.ofDigitChars_ten_toDigits

/-! ## Reading the shape -/

theorem readDigits_append (atEnd : ReadError) {digits rest : List Char} (hdigits : AllDigits digits)
    (hne : digits ≠ []) (hrest : EndsDigits rest) :
    readDigits atEnd (digits ++ rest) = .ok (digits, rest) := by
  have htake : (digits ++ rest).takeWhile Char.isDigit = digits := by
    rw [List.takeWhile_append_of_pos hdigits]
    cases rest with
    | nil => rw [List.takeWhile_nil, List.append_nil]
    | cons c rest =>
      rw [List.takeWhile_cons_of_neg (by simp [hrest c rfl]), List.append_nil]
  have hdrop : (digits ++ rest).dropWhile Char.isDigit = rest := by
    rw [List.dropWhile_append_of_pos hdigits]
    cases rest with
    | nil => rfl
    | cons c rest => exact List.dropWhile_cons_of_neg (by simp [hrest c rfl])
  unfold readDigits
  rw [htake, hdrop]
  split
  · exact absurd rfl hne
  · exact absurd rfl hne
  · rfl

theorem readWhole_append (atEnd : ReadError) {digits rest : List Char} (hdigits : WholePart digits)
    (hrest : EndsDigits rest) :
    readWhole atEnd (digits ++ rest) = .ok (digits, rest) := by
  unfold readWhole
  rw [readDigits_append atEnd hdigits.allDigits hdigits.nonempty hrest]
  simp only [bind, Except.bind]
  split
  · exact absurd rfl (hdigits.plain _ _)
  · rfl

theorem readExponent_text (atEnd : ReadError) (exponent : Option Int) {rest : List Char}
    (hrest : EndsNumber rest) :
    readExponent atEnd (exponentText exponent ++ rest) = .ok (exponent, rest) := by
  cases exponent with
  | none =>
    cases rest with
    | nil => rfl
    | cons c rest =>
      obtain ⟨-, -, he, hE⟩ := hrest c rfl
      exact if_neg (by simp [he, hE])
  | some e =>
    have hdigits := readDigits_append atEnd (allDigits_toDigits e.natAbs)
      Nat.toDigits_ne_nil hrest.endsDigits
    unfold exponentText readExponent
    simp only [List.cons_append]
    rw [if_pos (.inl trivial)]
    by_cases hnegative : e < 0
    · rw [if_pos hnegative]
      simp only [readSign, hdigits, bind, Except.bind, digitsValue_toDigits, if_true]
      rw [show -(e.natAbs : Int) = e by omega]
    · rw [if_neg hnegative]
      simp only [readSign, hdigits, bind, Except.bind, digitsValue_toDigits, Bool.false_eq_true,
        if_false]
      rw [show (e.natAbs : Int) = e by omega]

theorem endsDigits_exponentText (exponent : Option Int) {rest : List Char}
    (hrest : EndsNumber rest) : EndsDigits (exponentText exponent ++ rest) := by
  cases exponent with
  | none => exact hrest.endsDigits
  | some e => exact endsDigits_cons rfl _

theorem readFraction_text (atEnd : ReadError) {fraction rest : List Char}
    (hfraction : AllDigits fraction) (hrest : EndsDigits rest)
    (hpoint : ∀ c ∈ rest.head?, c ≠ '.') :
    readFraction atEnd (fractionText fraction ++ rest) = .ok (fraction, rest) := by
  cases fraction with
  | nil =>
    cases rest with
    | nil => rfl
    | cons c rest =>
      unfold fractionText readFraction
      rw [List.nil_append]
      split
      · rename_i heq
        exact absurd (List.cons.inj heq).1 (hpoint c rfl)
      · rfl
  | cons digit fraction => exact readDigits_append atEnd hfraction (List.cons_ne_nil _ _) hrest

theorem endsDigits_fractionText (fraction : List Char) {rest : List Char}
    (hrest : EndsDigits rest) : EndsDigits (fractionText fraction ++ rest) := by
  cases fraction with
  | nil => exact hrest
  | cons digit fraction => exact endsDigits_cons rfl _

theorem WholePart.head_ne_minus {whole : List Char} (hwhole : WholePart whole)
    (rest tail : List Char) :
    whole ++ rest ≠ '-' :: tail := by
  cases whole with
  | nil => exact absurd rfl hwhole.nonempty
  | cons c whole =>
    intro h
    have hdigit := hwhole.allDigits c List.mem_cons_self
    rw [(List.cons.inj h).1] at hdigit
    exact absurd hdigit (by decide)

/-- A number by its parts is read into those parts. -/
theorem readNumeral_written {atEnd : ReadError} (negative : Bool) {whole fraction : List Char}
    (exponent : Option Int) {rest : List Char} (hwhole : WholePart whole)
    (hfraction : AllDigits fraction) (hrest : EndsNumber rest) :
    readNumeral atEnd (written negative whole fraction exponent ++ rest) =
      .ok ({ negative
             digits := digitsValue (whole ++ fraction)
             exponent := exponent.getD 0 - fraction.length
             whole := fraction.isEmpty && exponent.isNone }, rest) := by
  have hpoint : ∀ c ∈ (exponentText exponent ++ rest).head?, c ≠ '.' := by
    cases exponent with
    | none => exact fun c hc => (hrest c hc).2.1
    | some e =>
      intro c hc
      rw [← Option.some.inj hc]
      decide
  have hreadExponent := readExponent_text atEnd exponent hrest
  have hends := endsDigits_exponentText exponent hrest
  have hreadFraction := readFraction_text atEnd hfraction hends hpoint
  have hreadWhole := readWhole_append atEnd hwhole (endsDigits_fractionText fraction hends)
  unfold readNumeral
  cases negative with
  | true =>
    simp only [written, if_true, List.cons_append, List.nil_append, List.append_assoc, hreadWhole,
      hreadFraction, hreadExponent, bind, Except.bind]
  | false =>
    simp only [written, Bool.false_eq_true, if_false, List.nil_append, List.append_assoc]
    split
    · rename_i hminus
      exact absurd hminus (hwhole.head_ne_minus _ _)
    · simp only [hreadWhole, hreadFraction, hreadExponent, bind, Except.bind]

/-! ## The digits of a number -/

theorem digitsValue_append_zeros (digits : List Char) (count : Nat) :
    digitsValue (digits ++ List.replicate count '0') = digitsValue digits * 10 ^ count := by
  have happend : digitsValue (digits ++ List.replicate count '0') =
      Nat.ofDigitChars 10 (List.replicate count '0') (digitsValue digits) :=
    Nat.ofDigitChars_append 0
  rw [happend, Nat.ofDigitChars_replicate_zero, Nat.mul_comm]

theorem digitsValue_zeros_append (count : Nat) (digits : List Char) :
    digitsValue (List.replicate count '0' ++ digits) = digitsValue digits := by
  have happend : digitsValue (List.replicate count '0' ++ digits) =
      Nat.ofDigitChars 10 digits (Nat.ofDigitChars 10 (List.replicate count '0') 0) :=
    Nat.ofDigitChars_append 0
  rw [happend, Nat.ofDigitChars_replicate_zero, Nat.mul_zero]
  rfl

theorem allDigits_zeros (count : Nat) : AllDigits (List.replicate count '0') := by
  intro c hc
  rw [List.eq_of_mem_replicate hc]
  rfl

theorem AllDigits.append {front back : List Char} (hfront : AllDigits front)
    (hback : AllDigits back) : AllDigits (front ++ back) := by
  intro c hc
  rcases List.mem_append.1 hc with hc | hc
  · exact hfront c hc
  · exact hback c hc

/-- Digits of a positive number: at least one, and no zero at the front. -/
structure Leading (digits : List Char) : Prop where
  allDigits : AllDigits digits
  nonempty : digits ≠ []
  nonzero : ∀ rest, digits ≠ '0' :: rest

theorem Leading.wholePart {digits : List Char} (h : Leading digits) (back : List Char)
    (hback : AllDigits back) : WholePart (digits ++ back) := by
  refine ⟨h.allDigits.append hback, fun hnil => h.nonempty (List.append_eq_nil_iff.1 hnil).1, ?_⟩
  intro second rest heq
  cases digits with
  | nil => exact h.nonempty rfl
  | cons c digits =>
    rw [List.cons_append] at heq
    exact h.nonzero digits (by rw [(List.cons.inj heq).1])

/-- A number without the zeros at its end, which count for its point. -/
theorem significant_spec {d : Decimal} (hd : d.digits ≠ 0) :
    Leading (FloatLayout.significant d).1 ∧
      ∃ zeros : Nat, digitsValue (FloatLayout.significant d).1 * 10 ^ zeros = d.digits ∧
        (FloatLayout.significant d).2 - (FloatLayout.significant d).1.length =
          d.exponent + zeros := by
  simp only [FloatLayout.significant]
  generalize hstripped :
    ((Nat.toDigits 10 d.digits).reverse.dropWhile (· == '0')).reverse = stripped
  have hsplit : ∃ zeros : Nat,
      Nat.toDigits 10 d.digits = stripped ++ List.replicate zeros '0' := by
    have hwhole := List.takeWhile_append_dropWhile (p := (· == '0'))
      (l := (Nat.toDigits 10 d.digits).reverse)
    refine ⟨((Nat.toDigits 10 d.digits).reverse.takeWhile (· == '0')).length, ?_⟩
    have hzeros : (Nat.toDigits 10 d.digits).reverse.takeWhile (· == '0') =
        List.replicate ((Nat.toDigits 10 d.digits).reverse.takeWhile (· == '0')).length '0' := by
      refine List.eq_replicate_of_mem fun c hc => ?_
      exact eq_of_beq (List.all_eq_true.1 List.all_takeWhile c hc)
    rw [← hstripped, ← List.reverse_replicate, ← hzeros, ← List.reverse_append, hwhole,
      List.reverse_reverse]
  obtain ⟨zeros, hdigits⟩ := hsplit
  have hvalue : digitsValue stripped * 10 ^ zeros = d.digits := by
    rw [← digitsValue_append_zeros, ← hdigits, digitsValue_toDigits]
  refine ⟨⟨?_, ?_, ?_⟩, zeros, hvalue, ?_⟩
  · intro c hc
    refine allDigits_toDigits d.digits c ?_
    rw [hdigits]
    exact List.mem_append_left _ hc
  · rintro rfl
    rw [show digitsValue [] = 0 from rfl, Nat.zero_mul] at hvalue
    exact hd hvalue.symm
  · rintro rest rfl
    exact head_toDigits_ne (Nat.pos_of_ne_zero hd) _ hdigits
  · rw [hdigits, List.length_append, List.length_replicate]
    omega

/-! ## Layouts -/

/-- The text stands for the digits with the point at `point`, some zeros perhaps moved across it. -/
def LaysOut (text digits : List Char) (point : Int) : Prop :=
  ∃ whole fraction exponent, ∃ moved : Nat, text = written false whole fraction exponent ∧
    WholePart whole ∧ AllDigits fraction ∧ (fraction.isEmpty && exponent.isNone) = false ∧
    digitsValue (whole ++ fraction) = digitsValue digits * 10 ^ moved ∧
    exponent.getD 0 - fraction.length = point - digits.length - moved

theorem laysOut_positional {digits : List Char} (h : Leading digits) (point : Int) :
    LaysOut (FloatLayout.positional digits point) digits point := by
  unfold FloatLayout.positional
  obtain ⟨first, rest, rfl⟩ := List.exists_cons_of_ne_nil h.nonempty
  split
  · rename_i hpoint
    refine ⟨['0'], List.replicate point.natAbs '0' ++ first :: rest, none, 0,
      ?_, ?_, ?_, ?_, ?_, ?_⟩
    · cases point.natAbs <;> simp [written, fractionText, exponentText, List.replicate_succ]
    · exact wholePart_toDigits 0
    · exact (allDigits_zeros _).append h.allDigits
    · simp
    · rw [Nat.pow_zero, Nat.mul_one]
      exact digitsValue_zeros_append (point.natAbs + 1) (first :: rest)
    · simp only [List.length_append, List.length_replicate, Option.getD_none]
      omega
  · rename_i hpoint
    split
    · rename_i hlong
      refine ⟨first :: rest ++ List.replicate (point.toNat - (first :: rest).length) '0', ['0'],
        none, point.toNat - (first :: rest).length + 1, ?_, ?_, ?_, ?_, ?_, ?_⟩
      · simp [written, fractionText, exponentText]
      · exact h.wholePart _ (allDigits_zeros _)
      · exact allDigits_zeros 1
      · rfl
      · rw [List.append_assoc, ← digitsValue_append_zeros, List.replicate_succ']
      · simp only [List.length_singleton, Option.getD_none]
        omega
    · rename_i hshort
      have hsplit := List.take_append_drop point.toNat (first :: rest)
      have hlength := List.length_drop (i := point.toNat) (l := first :: rest)
      have hnonempty : (first :: rest).drop point.toNat ≠ [] := by
        intro hnil
        rw [hnil, List.length_nil] at hlength
        omega
      obtain ⟨digit, tail, hdrop⟩ := List.exists_cons_of_ne_nil hnonempty
      refine ⟨(first :: rest).take point.toNat, (first :: rest).drop point.toNat, none, 0,
        ?_, ?_, ?_, ?_, ?_, ?_⟩
      · rw [hdrop]
        simp [written, fractionText, exponentText]
      · have htake : (first :: rest).take point.toNat = first :: rest.take (point.toNat - 1) := by
          obtain ⟨count, hcount⟩ : ∃ count, point.toNat = count + 1 :=
            ⟨point.toNat - 1, by omega⟩
          rw [hcount, List.take_succ_cons, Nat.add_sub_cancel]
        have hfirst : Leading [first] := by
          refine ⟨fun c hc => ?_, List.cons_ne_nil _ _, fun other heq => ?_⟩
          · exact h.allDigits c (by rw [List.mem_singleton.1 hc]; exact List.mem_cons_self)
          · exact h.nonzero rest (by rw [(List.cons.inj heq).1])
        rw [htake]
        refine hfirst.wholePart _ fun c hc => ?_
        exact h.allDigits c (List.mem_cons_of_mem _ (List.mem_of_mem_take hc))
      · exact fun c hc => h.allDigits c (List.mem_of_mem_drop hc)
      · rw [hdrop]
        rfl
      · rw [hsplit, Nat.pow_zero, Nat.mul_one]
      · rw [hlength]
        simp only [Option.getD_none]
        omega

theorem laysOut_scientific {digits : List Char} (h : Leading digits) (exponent : Int) :
    LaysOut (FloatLayout.scientific digits exponent) digits (exponent + 1) := by
  obtain ⟨first, rest, rfl⟩ := List.exists_cons_of_ne_nil h.nonempty
  refine ⟨[first], rest, some exponent, 0, ?_, ?_, ?_, ?_, ?_, ?_⟩
  · cases rest <;> simp [FloatLayout.scientific, written, fractionText, exponentText]
  · refine ⟨fun c hc => h.allDigits c ?_, List.cons_ne_nil _ _, nofun⟩
    rw [List.mem_singleton.1 hc]
    exact List.mem_cons_self
  · exact fun c hc => h.allDigits c (List.mem_cons_of_mem _ hc)
  · rw [Option.isNone_some, Bool.and_false]
  · rw [Nat.pow_zero, Nat.mul_one]
    rfl
  · simp only [List.length_cons, Option.getD_some]
    omega

/-! ## Numbers -/

/-- The numeral of a text that lays out the decimal of a float denotes the float. -/
theorem readNumeral_laysOut {atEnd : ReadError} {x : Double} {d : Decimal} {text rest : List Char}
    (hreads : Double.ofDecimal? x.negative d.digits d.exponent = some x) (hd : d.digits ≠ 0)
    (h : LaysOut text (FloatLayout.significant d).1 (FloatLayout.significant d).2)
    (hrest : EndsNumber rest) :
    ∃ numeral : Numeral,
      readNumeral atEnd ((if x.negative then '-' :: text else text) ++ rest) = .ok (numeral, rest) ∧
        numeral.value? = some (.float x) := by
  obtain ⟨-, zeros, hdigits, hpoint⟩ := significant_spec hd
  obtain ⟨whole, fraction, exponent, moved, rfl, hwhole, hfraction, hnotWhole, hvalue,
    hexponent⟩ := h
  have hsigned : (if x.negative then '-' :: written false whole fraction exponent
      else written false whole fraction exponent) = written x.negative whole fraction exponent := by
    cases x.negative <;> rfl
  refine ⟨_, by rw [hsigned]; exact readNumeral_written _ _ hwhole hfraction hrest, ?_⟩
  have hfloat : Double.ofDecimal? x.negative (digitsValue (whole ++ fraction))
      (exponent.getD 0 - fraction.length) = some x := by
    rw [hvalue, hexponent, Double.ofDecimal?_shift, hpoint, ← hreads, ← hdigits,
      ← Double.ofDecimal?_shift x.negative _ (d.exponent + zeros) zeros, Int.add_sub_cancel]
  unfold Numeral.value?
  simp only [hnotWhole, Bool.false_and, Bool.false_eq_true, if_false, hfloat, Option.map_some]

theorem readNumeral_float {atEnd : ReadError} (x : Double) {rest : List Char}
    (hrest : EndsNumber rest) :
    ∃ numeral : Numeral,
      readNumeral atEnd (FloatLayout.json.render x ++ rest) = .ok (numeral, rest) ∧
        numeral.value? = some (.float x) := by
  unfold FloatLayout.render
  by_cases hzero : x.isZero = true
  · have hx : x = .zero x.negative := by
      obtain ⟨negative, mantissa, scale, hmantissa, hscale, hnormal⟩ := x
      obtain rfl : mantissa = 0 := eq_of_beq hzero
      obtain rfl : scale = 0 := by omega
      rfl
    have hwritten : (if x.negative then '-' :: ['0', '.', '0'] else ['0', '.', '0']) =
        written x.negative ['0'] ['0'] none := by
      cases x.negative <;> rfl
    rw [if_pos hzero, hwritten]
    refine ⟨_, readNumeral_written _ none (wholePart_toDigits 0) (allDigits_toDigits 0) hrest, ?_⟩
    have hread : Double.ofDecimal? x.negative (digitsValue (['0'] ++ ['0']))
        (Option.getD none 0 - (['0'].length : Int)) = some x := by
      refine (if_pos (.inl rfl)).trans ?_
      rw [← hx]
    unfold Numeral.value?
    simp only [List.isEmpty_cons, Bool.false_and, Bool.false_eq_true, if_false]
    exact congrArg (Option.map Number.float) hread
  · have hreads := Double.ofDecimal?_shortest x
    have hd : x.shortest.digits ≠ 0 := by
      intro hdigits
      rw [hdigits] at hreads
      have hx : Double.zero x.negative = x := by
        refine Option.some.inj (Eq.trans ?_ hreads)
        exact (if_pos (.inl rfl)).symm
      rw [← hx] at hzero
      exact hzero rfl
    obtain ⟨hleading, -⟩ := significant_spec hd
    rw [if_neg hzero]
    dsimp only
    by_cases hlayout : FloatLayout.json.least ≤ (FloatLayout.significant x.shortest).2 - 1 ∧
        (FloatLayout.significant x.shortest).2 - 1 < FloatLayout.json.limit
    · rw [if_pos hlayout]
      exact readNumeral_laysOut hreads hd (laysOut_positional hleading _) hrest
    · rw [if_neg hlayout]
      have hscientific := laysOut_scientific hleading ((FloatLayout.significant x.shortest).2 - 1)
      rw [Int.sub_add_cancel] at hscientific
      exact readNumeral_laysOut hreads hd hscientific hrest

theorem readNumeral_int {atEnd : ReadError} {z : Int}
    (inRange : -9223372036854775808 ≤ z ∧ z < 18446744073709551616) {rest : List Char}
    (hrest : EndsNumber rest) :
    ∃ numeral : Numeral,
      readNumeral atEnd (Number.renderInt z ++ rest) = .ok (numeral, rest) ∧
        numeral.value? = some (.int z inRange) := by
  have hwritten : Number.renderInt z =
      written (decide (z < 0)) (Nat.toDigits 10 z.natAbs) [] none := by
    unfold Number.renderInt
    by_cases hnegative : z < 0 <;> simp [hnegative, written, fractionText, exponentText]
  rw [hwritten]
  refine ⟨_, readNumeral_written _ none (wholePart_toDigits _) nofun hrest, ?_⟩
  have hvalue : (if decide (z < 0) = true then -(z.natAbs : Int) else z.natAbs) = z := by
    by_cases hnegative : z < 0
    · rw [if_pos (decide_eq_true hnegative)]
      omega
    · rw [if_neg (by simpa using hnegative)]
      omega
  have hplain : (decide (z < 0) && z.natAbs == 0) = false := by
    by_cases hnegative : z < 0
    · have hne : z.natAbs ≠ 0 := by omega
      simp [hne]
    · simp [hnegative]
  unfold Numeral.value?
  simp only [List.append_nil, digitsValue_toDigits, hvalue, hplain, List.isEmpty_nil,
    Option.isNone_none, Bool.and_self, Bool.not_false, if_true, Number.ofInt?, dif_pos inRange]

/-- The text of a number reads back as the number. -/
theorem readNumber_render (number : Number) {rest : List Char} (hrest : EndsNumber rest) :
    Lexicon.strict.number (number.render ++ rest) = .ok (number, rest) := by
  have hnumeral : ∃ numeral : Numeral,
      readNumeral .ended (number.render ++ rest) = .ok (numeral, rest) ∧
        numeral.value? = some number := by
    cases number with
    | int z inRange => exact readNumeral_int inRange hrest
    | float x => exact readNumeral_float x hrest
  obtain ⟨numeral, hread, hvalue⟩ := hnumeral
  unfold Lexicon.strict
  simp only [hread, hvalue, bind, Except.bind]

end Json
end HostLink
