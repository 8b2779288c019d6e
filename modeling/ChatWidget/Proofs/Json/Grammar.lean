import ChatWidget.Proofs.Json.Numeral
import ChatWidget.Proofs.Op
/-!
The grammar of written values, said without a reader, and the reading of its smallest parts: texts with their escapes
and numbers with fraction and exponent. The numbers are read as far as they go, so what ends one must stand behind it.
-/
namespace ChatWidget.Json

/-! ### The grammar -/

def AreGaps (gaps : List Char) : Prop := ∀ c ∈ gaps, isGap c = true

/-- The numbers of the first halves of surrogate pairs. -/
def IsHigh (unit : Nat) : Prop := 0xD800 ≤ unit ∧ unit ≤ 0xDBFF

def IsLow (unit : Nat) : Prop := 0xDC00 ≤ unit ∧ unit ≤ 0xDFFF

/-- Do the characters begin with the number of a second half, written as an escape? -/
def BeginsLow (cs : List Char) : Prop :=
  ∃ digits rest unit, cs = '\\' :: 'u' :: (digits ++ rest) ∧ fourHexDigits? digits = some (unit, []) ∧ IsLow unit

/-- What stands between the quotes of a text, and the characters that it stands for. -/
inductive AreChars : List Char → List Char → Prop where
  | nil : AreChars [] []
  | plain {c : Char} {cs chars : List Char} (quote : c ≠ '"') (slash : c ≠ '\\') (printed : ¬ c.toNat < 0x20)
      (rest : AreChars cs chars) : AreChars (c :: cs) (c :: chars)
  | letter {c d : Char} {cs chars : List Char} (known : escapedChar? c = some d) (rest : AreChars cs chars) :
      AreChars ('\\' :: c :: cs) (d :: chars)
  | single {digits cs chars : List Char} {unit : Nat} (number : fourHexDigits? digits = some (unit, []))
      (alone : IsHigh unit → ¬ BeginsLow cs) (rest : AreChars cs chars) :
      AreChars ('\\' :: 'u' :: (digits ++ cs)) (charOfUnit unit :: chars)
  | pair {first second cs chars : List Char} {high low : Nat} (number : fourHexDigits? first = some (high, []))
      (isHigh : IsHigh high) (next : fourHexDigits? second = some (low, [])) (isLow : IsLow low)
      (rest : AreChars cs chars) :
      AreChars ('\\' :: 'u' :: (first ++ '\\' :: 'u' :: (second ++ cs))) (joinSurrogates high low :: chars)

/-- The digits behind a point, if there is one. -/
inductive IsFraction : List Char → List Char → Prop where
  | none : IsFraction [] []
  | some {digits : List Char} (nonempty : digits ≠ []) (all : ∀ c ∈ digits, Text.isDigit c = true) :
      IsFraction ('.' :: digits) digits

/-- The power of ten by which a number is multiplied, if there is one. -/
inductive IsExponent : List Char → Option Int → Prop where
  | none : IsExponent [] none
  | some {mark : Char} {sign digits : List Char} {negative : Bool} (marked : mark = 'e' ∨ mark = 'E')
      (signed : sign = ['-'] ∧ negative = true ∨ (sign = ['+'] ∨ sign = []) ∧ negative = false) (nonempty : digits ≠ [])
      (all : ∀ c ∈ digits, Text.isDigit c = true) :
      IsExponent (mark :: (sign ++ digits)) (some (if negative then -digitsValue digits else digitsValue digits))

/-- A number after its sign. It is a whole number if there is neither a point nor an exponent, and then there is a limit
to its digits. -/
inductive IsNumber (negative : Bool) : List Char → Json → Prop where
  | whole {digits : List Char} (whole : IsWhole digits) (few : digits.length ≤ digitLimit) :
      IsNumber negative digits (.int (if negative then -digitsValue digits else digitsValue digits))
  | decimal {digits point fraction power : List Char} {exponent : Option Int} (whole : IsWhole digits)
      (fractional : IsFraction point fraction) (exponential : IsExponent power exponent)
      (more : ¬ (fraction = [] ∧ exponent = .none)) :
      IsNumber negative (digits ++ (point ++ power))
        (.float (.ofDecimal negative (digitsValue (digits ++ fraction)) (exponent.getD 0 - fraction.length)))

/-- A name in a mapping, with what stands between it and its neighbours. -/
def IsName (cs : List Char) (name : String) : Prop :=
  ∃ before text chars after, cs = before ++ '"' :: (text ++ '"' :: after) ∧ AreGaps before ∧ AreChars text chars ∧
    AreGaps after ∧ name = String.ofList chars

mutual

/-- A value. -/
inductive IsValue : List Char → Json → Prop where
  | word {cs : List Char} {value : Json} (known : (cs, value) ∈ wordValues) : IsValue cs value
  | positive {cs : List Char} {value : Json} (number : IsNumber false cs value) : IsValue cs value
  | negative {cs : List Char} {value : Json} (number : IsNumber true cs value) : IsValue ('-' :: cs) value
  | text {cs chars : List Char} (each : AreChars cs chars) : IsValue ('"' :: (cs ++ ['"'])) (.str (String.ofList chars))
  | noItems {gaps : List Char} (each : AreGaps gaps) : IsValue ('[' :: (gaps ++ [']'])) (.arr [])
  | list {cs : List Char} {items : List Json} (each : AreItems cs items) : IsValue ('[' :: (cs ++ [']'])) (.arr items)
  | noFields {gaps : List Char} (each : AreGaps gaps) : IsValue ('{' :: (gaps ++ ['}'])) (.obj [])
  | mapping {cs : List Char} {fields : List (String × Json)} (each : AreFields cs fields) :
      IsValue ('{' :: (cs ++ ['}'])) (.obj (Entries.ofWrites fields))

/-- A value with what stands between it and its neighbours. -/
inductive IsElement : List Char → Json → Prop where
  | mk {before cs after : List Char} {value : Json} (front : AreGaps before) (inner : IsValue cs value)
      (back : AreGaps after) : IsElement (before ++ (cs ++ after)) value

/-- The items of a list. -/
inductive AreItems : List Char → List Json → Prop where
  | last {cs : List Char} {item : Json} (only : IsElement cs item) : AreItems cs [item]
  | more {cs rest : List Char} {item : Json} {items : List Json} (first : IsElement cs item)
      (others : AreItems rest items) : AreItems (cs ++ ',' :: rest) (item :: items)

/-- The entries of a mapping as they are written; a name may come twice. -/
inductive AreFields : List Char → List (String × Json) → Prop where
  | last {front cs : List Char} {name : String} {value : Json} (named : IsName front name) (only : IsElement cs value) :
      AreFields (front ++ ':' :: cs) [(name, value)]
  | more {front cs rest : List Char} {name : String} {value : Json} {fields : List (String × Json)}
      (named : IsName front name) (first : IsElement cs value) (others : AreFields rest fields) :
      AreFields (front ++ ':' :: (cs ++ ',' :: rest)) ((name, value) :: fields)

end

/-! ### Texts -/

theorem fourHexDigits?_eq_some_iff {cs rest : List Char} {unit : Nat} :
    fourHexDigits? cs = some (unit, rest) ↔
      ∃ digits, cs = digits ++ rest ∧ fourHexDigits? digits = some (unit, []) := by
  have read : ∀ {a b c d more found}, fourHexDigits? (a :: b :: c :: d :: more) = some found ↔
      ∃ a' b' c' d', Text.hexValue? a = some a' ∧ Text.hexValue? b = some b' ∧ Text.hexValue? c = some c' ∧
        Text.hexValue? d = some d' ∧ found = (((a' * 16 + b') * 16 + c') * 16 + d', more) := by
    intro a b c d more found
    simp only [fourHexDigits?, Option.bind_eq_bind, Option.bind_eq_some_iff, Option.pure_def, Option.some.injEq]
    grind
  constructor
  · intro found
    match cs, found with
    | a :: b :: c :: d :: more, found =>
      obtain ⟨a', b', c', d', first, second, third, fourth, same⟩ := read.mp found
      cases same
      exact ⟨[a, b, c, d], rfl, read.mpr ⟨a', b', c', d', first, second, third, fourth, rfl⟩⟩
  · rintro ⟨digits, rfl, found⟩
    match digits, found with
    | a :: b :: c :: d :: more, found =>
      obtain ⟨a', b', c', d', first, second, third, fourth, same⟩ := read.mp found
      cases same
      exact read.mpr ⟨a', b', c', d', first, second, third, fourth, rfl⟩

theorem fourHexDigits?_length {digits : List Char} {unit : Nat} (read : fourHexDigits? digits = some (unit, [])) :
    4 ≤ digits.length := by
  match digits, read with
  | _ :: _ :: _ :: _ :: more, _ => simp

theorem fourHexDigits?_followed {digits rest : List Char} {unit : Nat}
    (number : fourHexDigits? digits = some (unit, [])) (more : rest ≠ []) :
    ¬ (digits ++ rest).length ≤ 4 ∧ fourHexDigits? (digits ++ rest) = some (unit, rest) := by
  have size := fourHexDigits?_length number
  have filled := List.length_pos_iff.mpr more
  refine ⟨?_, fourHexDigits?_eq_some_iff.mpr ⟨digits, rfl, number⟩⟩
  rw [List.length_append]
  omega

/-- An escape with a number and with something behind it is read as a second half if its number is one. -/
theorem readLowSurrogate_escape {digits rest : List Char} {unit : Nat}
    (number : fourHexDigits? digits = some (unit, [])) (more : rest ≠ []) :
    (IsLow unit → readLowSurrogate ('\\' :: 'u' :: (digits ++ rest)) = .ok (some (unit, rest))) ∧
      (¬ IsLow unit → readLowSurrogate ('\\' :: 'u' :: (digits ++ rest)) = .ok none) := by
  obtain ⟨long, read⟩ := fourHexDigits?_followed number more
  simp only [readLowSurrogate, if_neg long, read, IsLow, Bool.and_eq_true, decide_eq_true_eq]
  exact ⟨fun isLow => if_pos isLow, fun other => if_neg other⟩

theorem readLowSurrogate_some {cs rest : List Char} {low : Nat} (read : readLowSurrogate cs = .ok (some (low, rest))) :
    ∃ digits, cs = '\\' :: 'u' :: (digits ++ rest) ∧ fourHexDigits? digits = some (low, []) ∧ IsLow low := by
  unfold readLowSurrogate at read
  split at read
  next more =>
    split at read
    next => cases read
    next =>
      split at read
      next => cases read
      next unit after number =>
        split at read
        next isLow =>
          cases read
          obtain ⟨digits, rfl, alone⟩ := fourHexDigits?_eq_some_iff.mp number
          rw [Bool.and_eq_true, decide_eq_true_eq, decide_eq_true_eq] at isLow
          exact ⟨digits, rfl, alone, isLow⟩
        next => cases read
  next => cases read

/-- No second half stands at the front of the rest of a text if none is read there. -/
theorem not_beginsLow {cs rest : List Char} (read : readLowSurrogate (cs ++ '"' :: rest) = .ok none) :
    ¬ BeginsLow cs := by
  rintro ⟨digits, more, unit, rfl, number, isLow⟩
  have behind : more ++ '"' :: rest ≠ [] := by simp
  have found := (readLowSurrogate_escape number behind).1 isLow
  rw [List.cons_append, List.cons_append, List.append_assoc, found] at read
  cases read

/-- What is read as the rest of a text has no second half at its front exactly if none is read there. -/
theorem AreChars.readLowSurrogate {cs chars : List Char} (each : AreChars cs chars) (alone : ¬ BeginsLow cs)
    (rest : List Char) : readLowSurrogate (cs ++ '"' :: rest) = .ok none := by
  cases each with
  | nil => rfl
  | plain quote slash printed others =>
    unfold Json.readLowSurrogate
    split
    next same => exact absurd (List.cons.inj same).1 slash
    next => rfl
  | letter known others =>
    unfold Json.readLowSurrogate
    split
    next same =>
      rw [(List.cons.inj (List.cons.inj same).2).1] at known
      cases known
    next => rfl
  | @single digits cs chars unit number _ others =>
    have other : ¬ IsLow unit := fun isLow => alone ⟨digits, cs, unit, rfl, number, isLow⟩
    rw [List.cons_append, List.cons_append, List.append_assoc]
    exact (readLowSurrogate_escape number (by simp)).2 other
  | @pair first second cs chars high low number isHigh next isLow others =>
    have other : ¬ IsLow high := fun isLow => absurd (isLow.1.trans isHigh.2) (by decide)
    rw [List.cons_append, List.cons_append, List.append_assoc]
    exact (readLowSurrogate_escape number (by simp)).2 other

/-- What a number stands for after the digits that it was read from, and what remains behind it. -/
theorem readUnicodeEscape_ok {cs after : List Char} {c : Char} (read : readUnicodeEscape cs = .ok (c, after)) :
    ∃ digits unit rest, cs = digits ++ rest ∧ fourHexDigits? digits = some (unit, []) ∧
      (c = charOfUnit unit ∧ after = rest ∧ (IsHigh unit → readLowSurrogate rest = .ok none) ∨
        ∃ low, IsHigh unit ∧ readLowSurrogate rest = .ok (some (low, after)) ∧ c = joinSurrogates unit low) := by
  unfold readUnicodeEscape at read
  split at read
  next => cases read
  next =>
    split at read
    next => cases read
    next unit rest number =>
      obtain ⟨digits, rfl, alone⟩ := fourHexDigits?_eq_some_iff.mp number
      refine ⟨digits, unit, rest, rfl, alone, ?_⟩
      split at read
      next high =>
        rw [Bool.and_eq_true, decide_eq_true_eq, decide_eq_true_eq] at high
        obtain ⟨found, next, read⟩ := bind_ok read
        split at read
        next low after =>
          simp only [pure, Except.pure, Except.ok.injEq, Prod.mk.injEq] at read
          obtain ⟨rfl, rfl⟩ := read
          exact .inr ⟨low, high, next, rfl⟩
        next =>
          cases read
          exact .inl ⟨rfl, rfl, fun _ => next⟩
      next other =>
        rw [Bool.and_eq_true, decide_eq_true_eq, decide_eq_true_eq] at other
        cases read
        exact .inl ⟨rfl, rfl, fun high => absurd high other⟩

/-- A number with something behind it is read as what it stands for, with the second half behind it if there is one. -/
theorem readUnicodeEscape_number {digits rest : List Char} {unit : Nat}
    (number : fourHexDigits? digits = some (unit, [])) (more : rest ≠ []) :
    ((IsHigh unit → readLowSurrogate rest = .ok none) →
        readUnicodeEscape (digits ++ rest) = .ok (charOfUnit unit, rest)) ∧
      ∀ low after, IsHigh unit → readLowSurrogate rest = .ok (some (low, after)) →
        readUnicodeEscape (digits ++ rest) = .ok (joinSurrogates unit low, after) := by
  obtain ⟨long, read⟩ := fourHexDigits?_followed number more
  simp only [readUnicodeEscape, if_neg long, read, IsHigh, Bool.and_eq_true, decide_eq_true_eq]
  refine ⟨fun alone => ?_, fun low after high next => ?_⟩
  · split
    next high =>
      rw [alone high]
      rfl
    next => rfl
  · rw [if_pos high, next]
    rfl

/-- What is read as a text stands before a quote and is one. -/
theorem readText_sound {opening fuel : Nat} {read cs rest : List Char} {s : String}
    (found : readText opening fuel read cs = .ok (s, rest)) :
    ∃ text chars, cs = text ++ '"' :: rest ∧ AreChars text chars ∧ s = String.ofList (read.reverse ++ chars) := by
  induction fuel generalizing read cs with
  | zero => cases found
  | succ fuel ih =>
    cases cs with
    | nil => cases found
    | cons c cs =>
      rw [readText.eq_def] at found
      dsimp only at found
      -- Where a character is read, what is read after it is a text, and the character belongs in front of it.
      have step : ∀ {d after}, readText opening fuel (d :: read) after = .ok (s, rest) →
          ∃ text chars, after = text ++ '"' :: rest ∧ AreChars text chars ∧
            s = String.ofList (read.reverse ++ d :: chars) := by
        intro d after found
        obtain ⟨text, chars, same, each, whole⟩ := ih found
        rw [List.reverse_cons, List.append_assoc] at whole
        exact ⟨text, chars, same, each, whole⟩
      split at found
      next quote =>
        cases found
        exact ⟨[], [], by rw [quote]; rfl, .nil, by rw [List.append_nil]⟩
      next quote =>
        split at found
        next slash =>
          split at found
          next => cases found
          next rest' =>
            obtain ⟨⟨d, after⟩, escape, found⟩ := bind_ok found
            obtain ⟨text, chars, rfl, each, whole⟩ := step found
            obtain ⟨digits, unit, more, rfl, number, single | pair⟩ := readUnicodeEscape_ok escape
            · obtain ⟨rfl, rfl, alone⟩ := single
              refine ⟨'\\' :: 'u' :: (digits ++ text), _, ?_, .single number ?_ each, whole⟩
              · rw [slash, List.cons_append, List.cons_append, List.append_assoc]
              · exact fun high => not_beginsLow (alone high)
            · obtain ⟨low, high, next, same⟩ := pair
              obtain ⟨second, rfl, lower, isLow⟩ := readLowSurrogate_some next
              refine ⟨'\\' :: 'u' :: (digits ++ '\\' :: 'u' :: (second ++ text)), _, ?_,
                .pair number high lower isLow each, ?_⟩
              · simp [slash]
              · rw [whole, same]
          next letter rest' other =>
            split at found
            next d known =>
              obtain ⟨text, chars, rfl, each, whole⟩ := step found
              exact ⟨'\\' :: letter :: text, _, by rw [slash]; rfl, .letter known each, whole⟩
            next => cases found
        next slash =>
          split at found
          next => cases found
          next printed =>
            obtain ⟨text, chars, rfl, each, whole⟩ := step found
            exact ⟨c :: text, _, rfl, .plain quote slash printed each, whole⟩

/-- A text is read from the characters that stand for it, up to the quote behind them. -/
theorem readText_complete {cs chars : List Char} (each : AreChars cs chars) {opening fuel : Nat} {read rest : List Char}
    (enough : cs.length < fuel) :
    readText opening fuel read (cs ++ '"' :: rest) = .ok (String.ofList (read.reverse ++ chars), rest) := by
  induction each generalizing fuel read with
  | nil =>
    obtain ⟨fuel, rfl⟩ : ∃ n, fuel = n + 1 := ⟨fuel - 1, by omega⟩
    simp [readText]
  | plain quote slash printed others ih =>
    obtain ⟨fuel, rfl⟩ : ∃ n, fuel = n + 1 := ⟨fuel - 1, by omega⟩
    rw [List.length_cons] at enough
    rw [List.cons_append, readText.eq_def]
    dsimp only
    rw [if_neg quote, if_neg slash, if_neg printed, ih (by omega)]
    simp
  | @letter letter d cs chars known others ih =>
    obtain ⟨fuel, rfl⟩ : ∃ n, fuel = n + 1 := ⟨fuel - 1, by omega⟩
    rw [List.length_cons, List.length_cons] at enough
    have other : letter ≠ 'u' := by
      rintro rfl
      cases known
    rw [List.cons_append, List.cons_append, readText.eq_def]
    dsimp only
    rw [if_neg (by decide), if_pos rfl]
    split
    next same => cases same
    next same => exact absurd (List.cons.inj same).1 other
    next same =>
      cases same
      simp only [known]
      rw [ih (by omega)]
      simp
  | @single digits cs chars unit number alone others ih =>
    obtain ⟨fuel, rfl⟩ : ∃ n, fuel = n + 1 := ⟨fuel - 1, by omega⟩
    rw [List.length_cons, List.length_cons, List.length_append] at enough
    have behind : cs ++ '"' :: rest ≠ [] := by simp
    have escape := (readUnicodeEscape_number number behind).1 fun high => others.readLowSurrogate (alone high) rest
    rw [List.cons_append, List.cons_append, List.append_assoc, readText, if_neg (by decide), if_pos rfl]
    simp only [escape, bind, Except.bind]
    rw [ih (by omega)]
    simp
  | @pair first second cs chars high low number isHigh next isLow others ih =>
    obtain ⟨fuel, rfl⟩ : ∃ n, fuel = n + 1 := ⟨fuel - 1, by omega⟩
    simp only [List.length_cons, List.length_append] at enough
    have behind : cs ++ '"' :: rest ≠ [] := by simp
    have half := (readLowSurrogate_escape next behind).1 isLow
    have escape := (readUnicodeEscape_number number (by simp)).2 _ _ isHigh half
    have shape : '\\' :: 'u' :: (first ++ '\\' :: 'u' :: (second ++ cs)) ++ '"' :: rest =
        '\\' :: 'u' :: (first ++ '\\' :: 'u' :: (second ++ (cs ++ '"' :: rest))) := by simp
    rw [shape, readText, if_neg (by decide), if_pos rfl]
    simp only [escape, bind, Except.bind]
    rw [ih (by omega)]
    simp

/-! ### Numbers -/

theorem splitWhole_sound {cs whole rest : List Char} (split : splitWhole cs = (whole, rest)) (some : whole ≠ []) :
    cs = whole ++ rest ∧ IsWhole whole := by
  unfold splitWhole at split
  split at split
  next =>
    cases split
    exact ⟨rfl, .inl rfl⟩
  next nonzero =>
    cases split
    refine ⟨(List.takeWhile_append_dropWhile ..).symm, .inr ⟨?_, fun c member => List.mem_takeWhile_imp member⟩⟩
    cases cs with
    | nil => exact absurd rfl some
    | cons c cs =>
      by_cases digit : Text.isDigit c = true
      · refine ⟨c, cs.takeWhile Text.isDigit, List.takeWhile_cons_of_pos digit, ?_⟩
        rintro rfl
        exact nonzero cs rfl
      · exact absurd (List.takeWhile_cons_of_neg digit) some

theorem splitFraction_sound {cs fraction rest : List Char} (split : splitFraction cs = (fraction, rest)) :
    ∃ point, cs = point ++ rest ∧ IsFraction point fraction := by
  unfold splitFraction at split
  split at split
  next d more =>
    split at split
    next digit =>
      cases split
      refine ⟨'.' :: d :: more.takeWhile Text.isDigit, by simp, .some (by simp) ?_⟩
      intro c member
      rcases List.mem_cons.mp member with rfl | later
      · exact digit
      · exact List.mem_takeWhile_imp later
    next =>
      cases split
      exact ⟨[], rfl, .none⟩
  next =>
    cases split
    exact ⟨[], rfl, .none⟩

theorem splitExponent_sound {cs rest : List Char} {exponent : Option Int}
    (split : splitExponent cs = (exponent, rest)) :
    ∃ power, cs = power ++ rest ∧ IsExponent power exponent := by
  unfold splitExponent at split
  split at split
  next mark more =>
    split at split
    next marked =>
      split at split
      next negative digits parts =>
        have signs : ∃ sign, more = sign ++ digits ∧
            (sign = ['-'] ∧ negative = true ∨ (sign = ['+'] ∨ sign = []) ∧ negative = false) := by
          split at parts
          next =>
            cases parts
            exact ⟨['-'], rfl, .inl ⟨rfl, rfl⟩⟩
          next =>
            cases parts
            exact ⟨['+'], rfl, .inr ⟨.inl rfl, rfl⟩⟩
          next =>
            cases parts
            exact ⟨[], rfl, .inr ⟨.inr rfl, rfl⟩⟩
        obtain ⟨sign, rfl, signed⟩ := signs
        split at split
        next =>
          cases split
          exact ⟨[], rfl, .none⟩
        next filled =>
          cases split
          refine ⟨mark :: (sign ++ digits.takeWhile Text.isDigit), ?_, .some ?_ signed ?_ ?_⟩
          · rw [List.cons_append, List.append_assoc, List.takeWhile_append_dropWhile]
          · simpa using marked
          · simpa using filled
          · exact fun c member => List.mem_takeWhile_imp member
    next =>
      cases split
      exact ⟨[], rfl, .none⟩
  next =>
    cases split
    exact ⟨[], rfl, .none⟩

theorem readNumber_number {start : Nat} {negative : Bool} {cs rest : List Char} {value : Json}
    (read : readNumber start negative cs = .ok (value, rest)) :
    ∃ text, cs = text ++ rest ∧ IsNumber negative text value := by
  unfold readNumber at read
  cases whole : splitWhole cs with
  | mk digits after =>
    cases fractional : splitFraction after with
    | mk fraction behind =>
      cases exponential : splitExponent behind with
      | mk exponent last =>
        simp only [whole, fractional, exponential] at read
        split at read
        next => cases read
        next some =>
          obtain ⟨rfl, isWhole⟩ := splitWhole_sound whole (by simpa using some)
          obtain ⟨point, rfl, isFraction⟩ := splitFraction_sound fractional
          obtain ⟨power, rfl, isExponent⟩ := splitExponent_sound exponential
          split at read
          next none =>
            rw [Bool.and_eq_true, List.isEmpty_iff, Option.isNone_iff_eq_none] at none
            obtain ⟨rfl, rfl⟩ := none
            split at read
            next => cases read
            next few =>
              cases read
              cases isFraction with
              | some nonempty => exact absurd rfl nonempty
              | none =>
                cases isExponent
                exact ⟨digits, rfl, .whole isWhole (Nat.le_of_not_lt few)⟩
          next more =>
            cases read
            refine ⟨digits ++ (point ++ power), by simp, .decimal isWhole isFraction isExponent ?_⟩
            rintro ⟨rfl, rfl⟩
            exact more rfl

theorem IsExponent.split {power : List Char} {exponent : Option Int} (exponential : IsExponent power exponent)
    {rest : List Char} (ends : NumeralEnds rest) : splitExponent (power ++ rest) = (exponent, rest) := by
  cases exponential with
  | none => exact splitExponent_none ends
  | @some mark sign digits negative marked signed nonempty all =>
    obtain ⟨taken, left⟩ := takeWhile_digits all ends.digits
    have filled : digits.isEmpty = false := by simpa using nonempty
    have isMark : (decide (mark = 'e') || decide (mark = 'E')) = true := by simpa using marked
    rw [List.cons_append, List.append_assoc]
    unfold splitExponent
    simp only [isMark, if_true]
    rcases signed with ⟨rfl, rfl⟩ | ⟨rfl | rfl, rfl⟩
    · simp only [List.singleton_append, taken, left, filled, Bool.false_eq_true, if_false]
    · simp only [List.singleton_append, taken, left, filled, Bool.false_eq_true, if_false]
    · -- The first digit is no sign.
      obtain ⟨c, more, same⟩ := List.exists_cons_of_ne_nil nonempty
      have digit : Text.isDigit c = true := all c (by rw [same]; exact List.mem_cons_self)
      have first : ∀ d more, [] ++ (digits ++ rest) = d :: more → Text.isDigit d = true := by
        intro d more start
        rw [same] at start
        rw [← (List.cons.inj start).1]
        exact digit
      split
      next after start => exact absurd (first '-' after start) (by decide)
      next after start => exact absurd (first '+' after start) (by decide)
      next => simp only [List.nil_append, taken, left, filled, Bool.false_eq_true, if_false]

theorem IsExponent.ends {power : List Char} {exponent : Option Int} (exponential : IsExponent power exponent)
    {rest : List Char} (ends : NumeralEnds rest) :
    ∀ c ∈ (power ++ rest).head?, Text.isDigit c = false ∧ c ≠ '.' := by
  cases exponential with
  | none =>
    intro c member
    have stops := ends c member
    simp only [endsNumeral, Bool.and_eq_true, Bool.not_eq_true', bne_iff_ne] at stops
    exact ⟨stops.1.1.1, stops.1.1.2⟩
  | some marked =>
    apply forall_head
    rcases marked with rfl | rfl
    · decide
    · decide

theorem IsFraction.split {point fraction : List Char} (fractional : IsFraction point fraction) {rest : List Char}
    (ends : ∀ c ∈ rest.head?, Text.isDigit c = false ∧ c ≠ '.') :
    splitFraction (point ++ rest) = (fraction, rest) ∧ DigitsEnd (point ++ rest) := by
  have digits : DigitsEnd rest := fun c member => (ends c member).1
  cases fractional with
  | none => exact ⟨splitFraction_none fun c member => (ends c member).2, digits⟩
  | some nonempty all => exact ⟨splitFraction_written nonempty all digits, forall_head (by decide) _⟩

theorem IsNumber.read {negative : Bool} {text : List Char} {value : Json} (number : IsNumber negative text value)
    (start : Nat) {rest : List Char} (ends : NumeralEnds rest) :
    readNumber start negative (text ++ rest) = .ok (value, rest) := by
  cases number with
  | whole isWhole few => exact readNumber_whole start negative isWhole few ends
  | @decimal digits point fraction power exponent isWhole fractional exponential more =>
    obtain ⟨split, stops⟩ := fractional.split (exponential.ends ends)
    have filled : digits.isEmpty = false := by
      obtain rfl | ⟨⟨c, more, rfl, -⟩, -⟩ := isWhole <;> rfl
    have other : (fraction.isEmpty && exponent.isNone) = false := by
      rw [Bool.eq_false_iff, ne_eq, Bool.and_eq_true, List.isEmpty_iff, Option.isNone_iff_eq_none]
      exact more
    rw [List.append_assoc, List.append_assoc]
    unfold readNumber
    rw [splitWhole_written isWhole stops]
    simp only [filled, split, exponential.split ends, other, Bool.false_eq_true, if_false]

end ChatWidget.Json
