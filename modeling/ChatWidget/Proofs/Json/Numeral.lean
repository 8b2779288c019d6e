import ChatWidget.Json.Reader
import ChatWidget.Proofs.Number.Shortest
import Mathlib.Data.List.TakeWhile
/-!
Numerals as they are written, and what they are read as. A numeral is read up to the first character that
cannot belong to it, so whatever ends it must stand behind it; what the digits, the point and the exponent
come to is the worth of the decimal that was written.
-/
namespace ChatWidget.Json

/-! ### Digits -/

theorem isDigit_toDigits {c : Char} {n : Nat} (member : c ∈ Nat.toDigits 10 n) :
    Text.isDigit c = true := by
  have digit := Nat.isDigit_of_mem_toDigits (by decide) (by decide) member
  rw [Char.isDigit, Bool.and_eq_true, decide_eq_true_eq, decide_eq_true_eq] at digit
  rw [Text.isDigit, Bool.and_eq_true, decide_eq_true_eq, decide_eq_true_eq]
  exact digit

theorem digitsValue_ofDigitChars (digits : List Char) :
    digitsValue digits = Nat.ofDigitChars 10 digits 0 := Nat.ofDigitChars_eq_foldl.symm

theorem digitsValue_toDigits (n : Nat) : digitsValue (Nat.toDigits 10 n) = n := by
  rw [digitsValue_ofDigitChars, Nat.ofDigitChars_ten_toDigits]

theorem digitsValue_append (front back : List Char) :
    digitsValue (front ++ back) = digitsValue front * 10 ^ back.length + digitsValue back := by
  rw [digitsValue_ofDigitChars, digitsValue_ofDigitChars, digitsValue_ofDigitChars,
    Nat.ofDigitChars_append, Nat.ofDigitChars_eq_ofDigitChars_zero, Nat.mul_comm]

theorem digitsValue_zeros (digits : List Char) (k : Nat) :
    digitsValue (List.replicate k '0' ++ digits) = digitsValue digits := by
  rw [digitsValue_ofDigitChars, digitsValue_ofDigitChars, Nat.ofDigitChars_append,
    Nat.ofDigitChars_replicate_zero, Nat.mul_zero]

theorem digitsValue_shift (digits : List Char) (k : Nat) :
    digitsValue (digits ++ List.replicate k '0') = digitsValue digits * 10 ^ k := by
  have zeros := digitsValue_zeros [] k
  rw [List.append_nil] at zeros
  rw [digitsValue_append, zeros, List.length_replicate]
  rfl

theorem digitsValue_lt {digits : List Char} (all : ∀ c ∈ digits, Text.isDigit c = true) :
    digitsValue digits < 10 ^ digits.length := by
  induction digits with
  | nil => decide
  | cons c digits ih =>
    have digit := all c (by simp)
    have less := ih fun d member => all d (by simp [member])
    have single : digitsValue [c] ≤ 9 := by
      rw [Text.isDigit, Bool.and_eq_true, decide_eq_true_eq, decide_eq_true_eq] at digit
      change 10 * 0 + (c.toNat - 0x30) ≤ 9
      omega
    have apart := digitsValue_append [c] digits
    rw [List.singleton_append] at apart
    rw [apart, List.length_cons, Nat.pow_succ]
    have scaled := Nat.mul_le_mul_right (10 ^ digits.length) single
    omega

theorem toDigits_head {n : Nat} (positive : 0 < n) {rest : List Char} :
    Nat.toDigits 10 n ≠ '0' :: rest := by
  intro same
  have all : ∀ c ∈ rest, Text.isDigit c = true := by
    intro c member
    exact isDigit_toDigits (n := n) (by simp [same, member])
  have worth : digitsValue rest = n := by
    have whole := digitsValue_toDigits n
    rw [same] at whole
    exact (digitsValue_zeros rest 1).symm.trans whole
  have small := digitsValue_lt all
  have long := congrArg List.length same
  rw [List.length_cons] at long
  cases rest with
  | nil => exact absurd worth positive.ne
  | cons c rest =>
    have few := Nat.length_toDigits_le_iff (b := 10) (n := n) (k := (c :: rest).length) (by decide)
      (by simp)
    rw [← worth] at few long
    have bound := few.mpr small
    omega

theorem significantDigits_spec {n : Nat} (positive : 0 < n) :
    ∃ k, digitsValue (Binary64.significantDigits n) * 10 ^ k = n ∧
      Binary64.digitCount n = (Binary64.significantDigits n).length + k ∧
      (∀ c ∈ Binary64.significantDigits n, Text.isDigit c = true) ∧
      ∃ c rest, Binary64.significantDigits n = c :: rest ∧ c ≠ '0' := by
  set digits := Binary64.significantDigits n with atDigits
  have zeros : (Nat.toDigits 10 n).reverse.takeWhile (· == '0') =
      List.replicate ((Nat.toDigits 10 n).reverse.takeWhile (· == '0')).length '0' := by
    apply List.eq_replicate_of_mem
    intro c member
    simpa using List.mem_takeWhile_imp member
  have split : Nat.toDigits 10 n = digits ++
      List.replicate ((Nat.toDigits 10 n).reverse.takeWhile (· == '0')).length '0' := by
    have parts := List.takeWhile_append_dropWhile (p := (· == '0')) (l := (Nat.toDigits 10 n).reverse)
    have turned := congrArg List.reverse parts
    rw [List.reverse_append, List.reverse_reverse, zeros, List.reverse_replicate] at turned
    exact turned.symm
  generalize ((Nat.toDigits 10 n).reverse.takeWhile (· == '0')).length = k at split
  have worth : digitsValue digits * 10 ^ k = n := by
    rw [← digitsValue_shift, ← split, digitsValue_toDigits]
  refine ⟨k, worth, ?_, ?_, ?_⟩
  · rw [Binary64.digitCount, split, List.length_append, List.length_replicate]
  · intro c member
    exact isDigit_toDigits (n := n) (by simp [split, member])
  · cases some : digits with
    | nil =>
      rw [some] at worth
      exact absurd worth (by simp [digitsValue, positive.ne])
    | cons c rest =>
      refine ⟨c, rest, rfl, ?_⟩
      rintro rfl
      rw [some, List.cons_append] at split
      exact toDigits_head positive split

/-! ### The end of a numeral -/

def endsNumeral (c : Char) : Bool := !Text.isDigit c && c != '.' && c != 'e' && c != 'E'

def NumeralEnds (rest : List Char) : Prop := ∀ c ∈ rest.head?, endsNumeral c = true

/-- Does no digit follow? -/
def DigitsEnd (rest : List Char) : Prop := ∀ c ∈ rest.head?, Text.isDigit c = false

theorem forall_head {p : Char → Prop} {c : Char} (first : p c) (rest : List Char) :
    ∀ d ∈ (c :: rest).head?, p d := by
  intro d member
  rw [List.head?_cons, Option.mem_some_iff] at member
  exact member ▸ first

theorem NumeralEnds.digits {rest : List Char} (ends : NumeralEnds rest) : DigitsEnd rest := by
  intro c member
  have stops := ends c member
  simp only [endsNumeral, Bool.and_eq_true, Bool.not_eq_true'] at stops
  exact stops.1.1.1

theorem takeWhile_digits {digits rest : List Char} (all : ∀ c ∈ digits, Text.isDigit c = true)
    (ends : DigitsEnd rest) :
    (digits ++ rest).takeWhile Text.isDigit = digits ∧
      (digits ++ rest).dropWhile Text.isDigit = rest := by
  rw [List.takeWhile_append_of_pos all, List.dropWhile_append_of_pos all]
  cases rest with
  | nil => simp
  | cons c rest =>
    have stop : Text.isDigit c = false := ends c rfl
    constructor
    · rw [List.takeWhile_cons_of_neg (by simp [stop]), List.append_nil]
    · rw [List.dropWhile_cons_of_neg (by simp [stop])]

/-- The digits before the point: a zero alone, or digits of which the first is not zero. -/
def IsWhole (whole : List Char) : Prop :=
  whole = ['0'] ∨
    ((∃ c rest, whole = c :: rest ∧ c ≠ '0') ∧ ∀ c ∈ whole, Text.isDigit c = true)

theorem splitWhole_written {whole rest : List Char} (written : IsWhole whole) (ends : DigitsEnd rest) :
    splitWhole (whole ++ rest) = (whole, rest) := by
  cases written with
  | inl zero =>
    subst zero
    rfl
  | inr other =>
    obtain ⟨⟨c, more, rfl, nonzero⟩, all⟩ := other
    obtain ⟨taken, left⟩ := takeWhile_digits all ends
    rw [splitWhole, taken, left]
    intro rest' same
    exact nonzero (List.cons.inj same).1

theorem splitFraction_written {fraction rest : List Char} (nonempty : fraction ≠ [])
    (all : ∀ c ∈ fraction, Text.isDigit c = true) (ends : DigitsEnd rest) :
    splitFraction ('.' :: (fraction ++ rest)) = (fraction, rest) := by
  cases fraction with
  | nil => exact absurd rfl nonempty
  | cons c fraction =>
    have others : ∀ d ∈ fraction, Text.isDigit d = true := fun d member => all d (by simp [member])
    obtain ⟨taken, left⟩ := takeWhile_digits others ends
    rw [List.cons_append, splitFraction, if_pos (all c (by simp)), taken, left]

theorem splitFraction_none {rest : List Char} (ends : ∀ c ∈ rest.head?, c ≠ '.') :
    splitFraction rest = ([], rest) := by
  rw [splitFraction]
  intro d more same
  subst same
  exact ends '.' rfl rfl

theorem splitExponent_none {rest : List Char} (ends : NumeralEnds rest) :
    splitExponent rest = (none, rest) := by
  cases rest with
  | nil => rfl
  | cons c rest =>
    have stops := ends c rfl
    simp only [endsNumeral, Bool.and_eq_true, bne_iff_ne, ne_eq] at stops
    simp [splitExponent, stops.1.2, stops.2]

def exponentSign (exponent : Int) : Char := if exponent < 0 then '-' else '+'

theorem splitExponent_written {size rest : List Char} {exponent : Int} (nonempty : size ≠ [])
    (all : ∀ c ∈ size, Text.isDigit c = true) (worth : digitsValue size = exponent.natAbs)
    (ends : DigitsEnd rest) :
    splitExponent ('e' :: exponentSign exponent :: (size ++ rest)) = (some exponent, rest) := by
  obtain ⟨taken, left⟩ := takeWhile_digits all ends
  have filled : size.isEmpty = false := by
    cases size with
    | nil => exact absurd rfl nonempty
    | cons c size => rfl
  unfold exponentSign
  by_cases negative : exponent < 0
  · rw [if_pos negative]
    have size : -(exponent.natAbs : Int) = exponent := by
      rw [Int.ofNat_natAbs_of_nonpos (Int.le_of_lt negative), Int.neg_neg]
    simp only [splitExponent, decide_true, Bool.true_or, if_true, taken, left, filled, worth]
    simpa using size
  · rw [if_neg negative]
    have size : (exponent.natAbs : Int) = exponent := Int.natAbs_of_nonneg (Int.not_lt.mp negative)
    simp only [splitExponent, decide_true, Bool.true_or, if_true, taken, left, filled, worth]
    simpa using size

/-! ### Numbers -/

theorem readNumber_point (start : Nat) (negative : Bool) {whole fraction rest : List Char}
    (written : IsWhole whole) (nonempty : fraction ≠ [])
    (all : ∀ c ∈ fraction, Text.isDigit c = true) (ends : NumeralEnds rest) :
    readNumber start negative (whole ++ '.' :: (fraction ++ rest)) =
      .ok (.float (.ofDecimal negative (digitsValue (whole ++ fraction)) (-fraction.length)),
        rest) := by
  have point : DigitsEnd ('.' :: (fraction ++ rest)) := forall_head (by decide) _
  have filled : whole.isEmpty = false ∧ fraction.isEmpty = false := by
    constructor
    · obtain rfl | ⟨⟨c, more, rfl, -⟩, -⟩ := written <;> rfl
    · simpa using nonempty
  unfold readNumber
  rw [splitWhole_written written point]
  simp only [filled.1, splitFraction_written nonempty all ends.digits, splitExponent_none ends,
    filled.2, Bool.false_and, Bool.false_eq_true, if_false, Option.getD_none, Int.zero_sub]

theorem readNumber_exponent (start : Nat) (negative : Bool) {whole fraction size rest : List Char}
    {exponent : Int} (written : IsWhole whole) (all : ∀ c ∈ fraction, Text.isDigit c = true)
    (nonempty : size ≠ []) (digits : ∀ c ∈ size, Text.isDigit c = true)
    (worth : digitsValue size = exponent.natAbs) (ends : NumeralEnds rest) :
    readNumber start negative
        (whole ++ ((if fraction = [] then [] else '.' :: fraction) ++
          'e' :: exponentSign exponent :: (size ++ rest))) =
      .ok (.float (.ofDecimal negative (digitsValue (whole ++ fraction))
        (exponent - fraction.length)), rest) := by
  have exponents := splitExponent_written nonempty digits worth ends.digits
  have filled : whole.isEmpty = false := by
    obtain rfl | ⟨⟨c, more, rfl, -⟩, -⟩ := written <;> rfl
  have mark : DigitsEnd ('e' :: exponentSign exponent :: (size ++ rest)) :=
    forall_head (by decide) _
  unfold readNumber
  by_cases short : fraction = []
  · subst short
    have none : splitFraction ('e' :: exponentSign exponent :: (size ++ rest)) =
        ([], 'e' :: exponentSign exponent :: (size ++ rest)) :=
      splitFraction_none (forall_head (by decide) _)
    rw [if_pos rfl, List.nil_append, splitWhole_written written mark]
    simp only [filled, none, exponents]
    simp
  · have point : DigitsEnd ('.' :: (fraction ++ 'e' :: exponentSign exponent :: (size ++ rest))) :=
      forall_head (by decide) _
    rw [if_neg short, List.cons_append, splitWhole_written written point]
    simp only [filled, splitFraction_written short all mark, exponents]
    simp

theorem readNumber_whole (start : Nat) (negative : Bool) {whole rest : List Char}
    (written : IsWhole whole) (few : whole.length ≤ digitLimit) (ends : NumeralEnds rest) :
    readNumber start negative (whole ++ rest) =
      .ok (.int (if negative then -digitsValue whole else digitsValue whole), rest) := by
  have filled : whole.isEmpty = false := by
    obtain rfl | ⟨⟨c, more, rfl, -⟩, -⟩ := written <;> rfl
  have none : splitFraction rest = ([], rest) := by
    apply splitFraction_none
    intro c member same
    subst same
    exact absurd (ends '.' member) (by decide)
  unfold readNumber
  rw [splitWhole_written written ends.digits]
  simp only [filled, none, splitExponent_none ends]
  simp only [Bool.false_eq_true, if_false, List.isEmpty_nil, Option.isNone_none, Bool.and_self,
    if_true, if_neg (Nat.not_lt.mpr few)]

/-! ### What a number is laid out as -/

section Layout

variable {digits rest : List Char} {point : Int}

theorem zeros_isDigit (k : Nat) : ∀ c ∈ List.replicate k '0', Text.isDigit c = true := by
  intro c member
  rw [List.eq_of_mem_replicate member]
  decide

theorem append_isDigit {front back : List Char} (first : ∀ c ∈ front, Text.isDigit c = true)
    (second : ∀ c ∈ back, Text.isDigit c = true) : ∀ c ∈ front ++ back, Text.isDigit c = true := by
  intro c member
  cases List.mem_append.mp member with
  | inl inside => exact first c inside
  | inr inside => exact second c inside

theorem readNumber_below (start : Nat) (negative : Bool) (nonempty : digits ≠ [])
    (all : ∀ c ∈ digits, Text.isDigit c = true) (small : point ≤ 0) (ends : NumeralEnds rest) :
    readNumber start negative
        ('0' :: '.' :: (List.replicate (-point).toNat '0' ++ digits) ++ rest) =
      .ok (.float (.ofDecimal negative (digitsValue digits) (point - digits.length)), rest) := by
  have fraction := append_isDigit (zeros_isDigit (-point).toNat) all
  have read := readNumber_point start negative (.inl rfl) (by simp [nonempty]) fraction ends
  have worth : digitsValue (['0'] ++ (List.replicate (-point).toNat '0' ++ digits)) =
      digitsValue digits := by
    rw [← List.append_assoc]
    exact digitsValue_zeros digits ((-point).toNat + 1)
  have places : -((List.replicate (-point).toNat '0' ++ digits).length : Int) =
      point - digits.length := by
    rw [List.length_append, List.length_replicate]
    omega
  rw [worth, places] at read
  exact read

theorem readNumber_above (start : Nat) (negative : Bool) (written : IsWhole digits)
    (all : ∀ c ∈ digits, Text.isDigit c = true) (first : digits ≠ ['0'])
    (large : (digits.length : Int) ≤ point) (ends : NumeralEnds rest) :
    readNumber start negative
        (digits ++ List.replicate (point.toNat - digits.length) '0' ++ ['.', '0'] ++ rest) =
      .ok (.float (.ofDecimal negative (digitsValue digits) (point - digits.length)), rest) := by
  set more := point.toNat - digits.length with atMore
  have whole : IsWhole (digits ++ List.replicate more '0') := by
    obtain zero | ⟨⟨c, rest, rfl, nonzero⟩, -⟩ := written
    · exact absurd zero first
    · exact .inr ⟨⟨c, rest ++ List.replicate more '0', rfl, nonzero⟩,
        append_isDigit all (zeros_isDigit more)⟩
  have read := readNumber_point start negative whole (by simp) (zeros_isDigit 1) ends
  have worth : digitsValue (digits ++ List.replicate more '0' ++ List.replicate 1 '0') =
      digitsValue digits * 10 ^ (more + 1) := by
    rw [digitsValue_shift, digitsValue_shift, Nat.mul_assoc, ← Nat.pow_add]
  have places : (-((List.replicate 1 '0').length : Int)) + (more + 1 : Nat) =
      point - digits.length := by
    rw [List.length_replicate]
    omega
  rw [worth, Binary64.ofDecimal_shift, places] at read
  rw [List.append_assoc]
  exact read

theorem readNumber_between (start : Nat) (negative : Bool) (written : IsWhole digits)
    (all : ∀ c ∈ digits, Text.isDigit c = true) (first : digits ≠ ['0']) (positive : 0 < point)
    (small : point < digits.length) (ends : NumeralEnds rest) :
    readNumber start negative
        (digits.take point.toNat ++ '.' :: digits.drop point.toNat ++ rest) =
      .ok (.float (.ofDecimal negative (digitsValue digits) (point - digits.length)), rest) := by
  have whole : IsWhole (digits.take point.toNat) := by
    obtain zero | ⟨⟨c, rest, rfl, nonzero⟩, -⟩ := written
    · exact absurd zero first
    · refine .inr ⟨⟨c, rest.take (point.toNat - 1), ?_, nonzero⟩,
        fun d member => all d (List.mem_of_mem_take member)⟩
      rw [List.take_cons (by omega)]
  have nonempty : digits.drop point.toNat ≠ [] := by
    rw [ne_eq, List.drop_eq_nil_iff]
    omega
  have read := readNumber_point start negative whole nonempty
    (fun d member => all d (List.mem_of_mem_drop member)) ends
  have places : -((digits.drop point.toNat).length : Int) = point - digits.length := by
    rw [List.length_drop]
    omega
  rw [List.take_append_drop, places] at read
  rw [List.append_assoc]
  exact read

theorem readNumber_scientific (start : Nat) (negative : Bool) (exponent : Int) {c : Char}
    {more : List Char} (nonzero : c ≠ '0') (all : ∀ d ∈ c :: more, Text.isDigit d = true)
    (ends : NumeralEnds rest) :
    readNumber start negative
        ((c :: if more = [] then [] else '.' :: more) ++ 'e' :: exponentSign exponent ::
          (List.replicate (2 - (Nat.toDigits 10 exponent.natAbs).length) '0' ++
            Nat.toDigits 10 exponent.natAbs) ++ rest) =
      .ok (.float (.ofDecimal negative (digitsValue (c :: more)) (exponent - more.length)), rest) := by
  have others : ∀ d ∈ more, Text.isDigit d = true := fun d member => all d (by simp [member])
  have size := append_isDigit
    (zeros_isDigit (2 - (Nat.toDigits 10 exponent.natAbs).length))
    (fun d member => isDigit_toDigits (n := exponent.natAbs) member)
  have worth : digitsValue (List.replicate (2 - (Nat.toDigits 10 exponent.natAbs).length) '0' ++
      Nat.toDigits 10 exponent.natAbs) = exponent.natAbs := by
    rw [digitsValue_zeros, digitsValue_toDigits]
  have whole : IsWhole [c] := .inr ⟨⟨c, [], rfl, nonzero⟩, fun d member => all d (by simp_all)⟩
  have read := readNumber_exponent start negative whole others (by simp) size worth ends
  rw [List.singleton_append] at read
  simpa using read

end Layout

/-- Significant digits with their point are read as the decimal that they are worth, however they are
laid out. -/
theorem readNumber_layOut (start : Nat) (negative : Bool) {digits rest : List Char} (point : Int)
    (first : ∃ c more, digits = c :: more ∧ c ≠ '0')
    (all : ∀ c ∈ digits, Text.isDigit c = true) (ends : NumeralEnds rest) :
    readNumber start negative (Binary64.layOut digits point ++ rest) =
      .ok (.float (.ofDecimal negative (digitsValue digits) (point - digits.length)), rest) := by
  have written : IsWhole digits := .inr ⟨first, all⟩
  obtain ⟨c, more, same, nonzero⟩ := first
  have other : digits ≠ ['0'] := by
    rintro rfl
    exact nonzero (List.cons.inj same).1.symm
  have nonempty : digits ≠ [] := by simp [same]
  unfold Binary64.layOut
  by_cases positional : -4 < point ∧ point ≤ 16
  · rw [if_pos positional]
    by_cases small : point ≤ 0
    · rw [if_pos small]
      exact readNumber_below start negative nonempty all small ends
    · rw [if_neg small]
      dsimp only
      by_cases whole : digits.length ≤ point.toNat
      · rw [if_pos whole]
        exact readNumber_above start negative written all other (by omega) ends
      · rw [if_neg whole]
        exact readNumber_between start negative written all other (by omega) (by omega) ends
  · rw [if_neg positional]
    subst same
    have read := readNumber_scientific start negative (point - 1) nonzero all ends
    have places : point - 1 - (more.length : Int) = point - (c :: more).length := by
      rw [List.length_cons]
      omega
    rw [places] at read
    unfold exponentSign at read
    cases more with
    | nil => simpa using read
    | cons d more => simpa using read

/-- A magnitude that was written is read. -/
theorem readNumber_magnitudeText (start : Nat) (negative : Bool) (x : Magnitude) {rest : List Char}
    (ends : NumeralEnds rest) :
    readNumber start negative (Binary64.magnitudeText x ++ rest) =
      .ok (.float (.finite negative x), rest) := by
  unfold Binary64.magnitudeText
  by_cases zero : x.significand = 0
  · rw [if_pos zero, Magnitude.eq_zero zero]
    have zero : IsWhole ['0'] := .inl rfl
    exact readNumber_point start negative zero (by simp) (zeros_isDigit 1) ends
  · rw [if_neg zero]
    obtain ⟨k, worth, size, all, first⟩ := significantDigits_spec (Magnitude.shortest_pos zero)
    dsimp only
    rw [readNumber_layOut start negative _ first all ends]
    have exponent : (Binary64.digitCount x.shortest.1 : Int) + x.shortest.2 -
        (Binary64.significantDigits x.shortest.1).length = x.shortest.2 + k := by
      omega
    rw [exponent, ← Binary64.ofDecimal_shift, worth,
      Binary64.ofDecimal_sign (Magnitude.shortest_readsBack zero)]

end ChatWidget.Json
