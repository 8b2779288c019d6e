import ChatWidget.Proofs.Json.Grammar
import Mathlib.Data.List.Basic
/-!
A text is read exactly if the grammar derives it for a value, and then as this value. In one direction, what the reader
takes from the front of a text is derived; in the other, the reader takes what is derived if it has fuel for it. Both
hold of values, items and entries at once, from one amount of fuel to the next.
-/
namespace ChatWidget.Json

/-! ### What stands between the parts -/

theorem skipGap_split (cs : List Char) : ∃ gaps, AreGaps gaps ∧ cs = gaps ++ skipGap cs :=
  ⟨cs.takeWhile isGap, fun _ member => List.mem_takeWhile_imp member, (List.takeWhile_append_dropWhile ..).symm⟩

theorem AreGaps.skip {gaps : List Char} (each : AreGaps gaps) (rest : List Char) :
    skipGap (gaps ++ rest) = skipGap rest := List.dropWhile_append_of_pos each

theorem AreGaps.append {first second : List Char} (front : AreGaps first) (back : AreGaps second) :
    AreGaps (first ++ second) := by
  intro c member
  rcases List.mem_append.mp member with member | member
  · exact front c member
  · exact back c member

theorem areGaps_nil : AreGaps [] := nofun

theorem AreGaps.ends {gaps rest : List Char} (each : AreGaps gaps) (ends : NumeralEnds rest) :
    NumeralEnds (gaps ++ rest) := by
  cases gaps with
  | nil => exact ends
  | cons c gaps =>
    refine forall_head ?_ _
    have gap := each c List.mem_cons_self
    simp only [isGap, Bool.or_eq_true, decide_eq_true_eq] at gap
    rcases gap with ((rfl | rfl) | rfl) | rfl
    · decide
    · decide
    · decide
    · decide

theorem IsElement.spaced {gaps cs : List Char} {value : Json} (each : AreGaps gaps) (inner : IsElement cs value) :
    IsElement (gaps ++ cs) value := by
  cases inner with
  | mk front inner back =>
    rw [← List.append_assoc]
    exact .mk (each.append front) inner back

theorem AreItems.spaced {gaps cs : List Char} {items : List Json} (each : AreGaps gaps) (inner : AreItems cs items) :
    AreItems (gaps ++ cs) items := by
  cases inner with
  | last only => exact .last (only.spaced each)
  | more first others =>
    rw [← List.append_assoc]
    exact .more (first.spaced each) others

theorem IsName.spaced {gaps cs : List Char} {name : String} (each : AreGaps gaps) (named : IsName cs name) :
    IsName (gaps ++ cs) name := by
  obtain ⟨before, text, chars, after, rfl, front, inner, back, whole⟩ := named
  exact ⟨gaps ++ before, text, chars, after, (List.append_assoc ..).symm, each.append front, inner, back, whole⟩

theorem AreFields.spaced {gaps cs : List Char} {fields : List (String × Json)} (each : AreGaps gaps)
    (inner : AreFields cs fields) : AreFields (gaps ++ cs) fields := by
  cases inner with
  | last named only =>
    rw [← List.append_assoc]
    exact .last (named.spaced each) only
  | more named first others =>
    rw [← List.append_assoc]
    exact .more (named.spaced each) first others

/-! ### What is read is derived -/

theorem readWord?_word {cs rest : List Char} {value : Json} (read : readWord? cs = some (value, rest)) :
    ∃ word, cs = word ++ rest ∧ (word, value) ∈ wordValues := by
  obtain ⟨⟨word, found⟩, member, here⟩ := List.exists_of_findSome?_eq_some read
  obtain ⟨after, front, same⟩ := Option.map_eq_some_iff.mp here
  cases same
  exact ⟨word, (List.isPrefixOf?_eq_some_iff_append_eq.mp front).symm, member⟩

/-- What the reader takes from the front of a text is derived by the grammar. -/
structure ReadsDerived (fuel : Nat) : Prop where
  value : ∀ {cs value rest}, readValue fuel cs = .ok (value, rest) → ∃ text, cs = text ++ rest ∧ IsValue text value
  items : ∀ {read cs items rest}, readItems fuel read cs = .ok (items, rest) →
    ∃ text others, cs = text ++ ']' :: rest ∧ AreItems text others ∧ items = read.reverse ++ others
  fields : ∀ {read cs fields rest}, readFields fuel read cs = .ok (fields, rest) →
    ∃ text writes, cs = text ++ '}' :: rest ∧ AreFields text writes ∧ fields = read.putAll writes

section

variable {fuel : Nat} (ih : ReadsDerived fuel)

include ih

theorem ReadsDerived.value_step {cs rest : List Char} {value : Json}
    (read : readValue (fuel + 1) cs = .ok (value, rest)) : ∃ text, cs = text ++ rest ∧ IsValue text value := by
  rw [readValue.eq_def] at read
  dsimp only at read
  split at read
  next after =>
    obtain ⟨⟨s, behind⟩, found, same⟩ := bind_ok read
    cases same
    obtain ⟨text, chars, rfl, each, rfl⟩ := readText_sound found
    exact ⟨'"' :: (text ++ ['"']), by simp, .text each⟩
  next after =>
    obtain ⟨gaps, each, split⟩ := skipGap_split after
    split at read
    next behind close =>
      cases read
      exact ⟨'[' :: (gaps ++ [']']), by rw [split, close]; simp, .noItems each⟩
    next =>
      obtain ⟨⟨items, behind⟩, found, same⟩ := bind_ok read
      cases same
      obtain ⟨text, others, inner, derived, rfl⟩ := ih.items found
      exact ⟨'[' :: (gaps ++ text ++ [']']), by rw [split, inner]; simp, .list (derived.spaced each)⟩
  next after =>
    obtain ⟨gaps, each, split⟩ := skipGap_split after
    split at read
    next behind close =>
      cases read
      exact ⟨'{' :: (gaps ++ ['}']), by rw [split, close]; simp, .noFields each⟩
    next =>
      obtain ⟨⟨fields, behind⟩, found, same⟩ := bind_ok read
      cases same
      obtain ⟨text, writes, inner, derived, rfl⟩ := ih.fields found
      exact ⟨'{' :: (gaps ++ text ++ ['}']), by rw [split, inner]; simp, .mapping (derived.spaced each)⟩
  next =>
    split at read
    next found word =>
      cases read
      obtain ⟨text, same, known⟩ := readWord?_word word
      exact ⟨text, same, .word known⟩
    next =>
      split at read
      · obtain ⟨text, rfl, number⟩ := readNumber_number read
        exact ⟨'-' :: text, rfl, .negative number⟩
      · obtain ⟨text, same, number⟩ := readNumber_number read
        exact ⟨text, same, .positive number⟩

theorem ReadsDerived.items_step {before items : List Json} {cs rest : List Char}
    (read : readItems (fuel + 1) before cs = .ok (items, rest)) :
    ∃ text others, cs = text ++ ']' :: rest ∧ AreItems text others ∧ items = before.reverse ++ others := by
  rw [readItems] at read
  obtain ⟨⟨item, after⟩, found, next⟩ := bind_ok read
  obtain ⟨text, rfl, inner⟩ := ih.value found
  obtain ⟨gaps, each, split⟩ := skipGap_split after
  have element : IsElement (text ++ gaps) item := .mk areGaps_nil inner each
  dsimp only at next
  split at next
  next behind close =>
    cases next
    exact ⟨text ++ gaps, [item], by rw [split, close]; simp, .last element, by simp⟩
  next behind comma =>
    obtain ⟨more, others, rest', derived, rfl⟩ := ih.items next
    obtain ⟨later, gap, split'⟩ := skipGap_split behind
    refine ⟨text ++ gaps ++ ',' :: (later ++ more), item :: others, ?_, .more element (derived.spaced gap), ?_⟩
    · rw [split, comma, split', rest']
      simp
    · simp
  next => cases next

theorem ReadsDerived.fields_step {before fields : Entries Json} {cs rest : List Char}
    (read : readFields (fuel + 1) before cs = .ok (fields, rest)) :
    ∃ text writes, cs = text ++ '}' :: rest ∧ AreFields text writes ∧ fields = before.putAll writes := by
  rw [readFields.eq_def] at read
  dsimp only at read
  split at read
  next after =>
    obtain ⟨⟨name, behind⟩, found, next⟩ := bind_ok read
    obtain ⟨text, chars, rfl, letters, rfl⟩ := readText_sound found
    obtain ⟨gaps, each, split⟩ := skipGap_split behind
    have named : IsName ('"' :: (text ++ '"' :: gaps)) (String.ofList chars) :=
      ⟨[], text, chars, gaps, rfl, areGaps_nil, letters, each, rfl⟩
    dsimp only at next
    split at next
    next valued colon =>
      obtain ⟨⟨value, last⟩, found, next⟩ := bind_ok next
      obtain ⟨word, inner, derived⟩ := ih.value found
      obtain ⟨front, gap, split'⟩ := skipGap_split valued
      obtain ⟨back, later, split''⟩ := skipGap_split last
      have element : IsElement (front ++ (word ++ back)) value := .mk gap derived later
      dsimp only at next
      split at next
      next closed close =>
        cases next
        refine ⟨'"' :: (text ++ '"' :: gaps) ++ ':' :: (front ++ (word ++ back)), _, ?_, .last named element, rfl⟩
        rw [split, colon, split', inner, split'', close]
        simp
      next others comma =>
        obtain ⟨more, writes, rest', derived, rfl⟩ := ih.fields next
        obtain ⟨space, wide, apart⟩ := skipGap_split others
        refine ⟨'"' :: (text ++ '"' :: gaps) ++ ':' :: (front ++ (word ++ back) ++ ',' :: (space ++ more)), _, ?_,
          .more named element (derived.spaced wide), rfl⟩
        rw [split, colon, split', inner, split'', comma, apart, rest']
        simp
      next => cases next
    next => cases next
  next => cases read

end

theorem readsDerived (fuel : Nat) : ReadsDerived fuel := by
  induction fuel with
  | zero => exact ⟨nofun, nofun, nofun⟩
  | succ fuel ih => exact ⟨ih.value_step, ih.items_step, ih.fields_step⟩

/-! ### How a value begins -/

/-- A character that a value may begin with: it is no gap, closes nothing and is no byte-order mark. -/
def startsValue (c : Char) : Bool := !isGap c && c != ']' && c != '}' && c != '\uFEFF'

theorem startsValue_digit {c : Char} (digit : Text.isDigit c = true) : startsValue c = true := by
  rw [Text.isDigit, Bool.and_eq_true, decide_eq_true_eq, decide_eq_true_eq] at digit
  have apart : ∀ d : Char, d.toNat < 0x30 ∨ 0x39 < d.toNat → c ≠ d := by
    rintro d outside rfl
    omega
  simp [startsValue, isGap, apart ' ' (by decide), apart '\t' (by decide), apart '\n' (by decide),
    apart '\r' (by decide), apart ']' (by decide), apart '}' (by decide),
    apart '\uFEFF' (by decide)]

theorem skipGap_starts {c : Char} (starts : startsValue c = true) (rest : List Char) :
    skipGap (c :: rest) = c :: rest := by
  simp only [startsValue, Bool.and_eq_true, Bool.not_eq_true'] at starts
  rw [skipGap, List.dropWhile_cons_of_neg (by simp [starts.1.1.1])]

theorem readWord?_other {c : Char} (other : c ∉ ['n', 't', 'f', 'N', 'I', '-']) (rest : List Char) :
    readWord? (c :: rest) = none := by
  simp only [List.mem_cons, List.not_mem_nil, or_false, not_or] at other
  obtain ⟨n, t, f, N, I, minus⟩ := other
  have words : wordValues =
      [(['n', 'u', 'l', 'l'], .null), (['t', 'r', 'u', 'e'], .bool true),
        (['f', 'a', 'l', 's', 'e'], .bool false), (['N', 'a', 'N'], .float .nan),
        (['I', 'n', 'f', 'i', 'n', 'i', 't', 'y'], .float (.infinite false)),
        (['-', 'I', 'n', 'f', 'i', 'n', 'i', 't', 'y'], .float (.infinite true))] := rfl
  simp [readWord?, words, List.isPrefixOf?, Ne.symm n, Ne.symm t, Ne.symm f, Ne.symm N, Ne.symm I,
    Ne.symm minus]

theorem digit_other {c : Char} (digit : Text.isDigit c = true) :
    c ≠ '"' ∧ c ≠ '[' ∧ c ≠ '{' ∧ c ∉ ['n', 't', 'f', 'N', 'I', '-'] := by
  refine ⟨?_, ?_, ?_, ?_⟩
  · rintro rfl
    exact absurd digit (by decide)
  · rintro rfl
    exact absurd digit (by decide)
  · rintro rfl
    exact absurd digit (by decide)
  · intro member
    have letters : ∀ d ∈ ['n', 't', 'f', 'N', 'I', '-'], Text.isDigit d = false := by
      intro d inside
      simp only [List.mem_cons, List.not_mem_nil, or_false] at inside
      obtain rfl | rfl | rfl | rfl | rfl | rfl := inside <;> rfl
    rw [letters c member] at digit
    cases digit

theorem readValue_digit {c : Char} (digit : Text.isDigit c = true) (fuel : Nat) (rest : List Char) :
    readValue (fuel + 1) (c :: rest) = readNumber (c :: rest).length false (c :: rest) := by
  obtain ⟨quote, bracket, brace, other⟩ := digit_other digit
  have minus : c ≠ '-' := fun same => other (by simp [same])
  rw [readValue.eq_def]
  dsimp only
  split
  next same => exact absurd (List.cons.inj same).1 quote
  next same => exact absurd (List.cons.inj same).1 bracket
  next same => exact absurd (List.cons.inj same).1 brace
  next =>
    simp only [readWord?_other other]
    split
    next same => exact absurd (List.cons.inj same).1 minus
    next => rfl

theorem readValue_minus {c : Char} (digit : Text.isDigit c = true) (fuel : Nat) (rest : List Char) :
    readValue (fuel + 1) ('-' :: c :: rest) =
      readNumber ('-' :: c :: rest).length true (c :: rest) := by
  obtain ⟨-, -, -, other⟩ := digit_other digit
  have letter : c ≠ 'I' := fun same => other (by simp [same])
  have words : readWord? ('-' :: c :: rest) = none := by
    simp [readWord?, wordValues, List.isPrefixOf?, Ne.symm letter]
  rw [readValue]
  simp only [words]

theorem IsNumber.first {negative : Bool} {text : List Char} {value : Json} (number : IsNumber negative text value) :
    ∃ c more, text = c :: more ∧ Text.isDigit c = true := by
  have start : ∀ {digits}, IsWhole digits → ∃ c more, digits = c :: more ∧ Text.isDigit c = true := by
    rintro digits (rfl | ⟨⟨c, more, rfl, -⟩, all⟩)
    · exact ⟨'0', [], rfl, by decide⟩
    · exact ⟨c, more, rfl, all c List.mem_cons_self⟩
  cases number with
  | whole isWhole few => exact start isWhole
  | decimal isWhole =>
    obtain ⟨c, more, rfl, digit⟩ := start isWhole
    exact ⟨c, _, rfl, digit⟩

theorem IsValue.starts {cs : List Char} {value : Json} (inner : IsValue cs value) :
    ∃ c more, cs = c :: more ∧ startsValue c = true := by
  cases inner with
  | word known =>
    simp only [wordValues, List.mem_cons, Prod.mk.injEq, List.not_mem_nil, or_false] at known
    obtain ⟨rfl, -⟩ | ⟨rfl, -⟩ | ⟨rfl, -⟩ | ⟨rfl, -⟩ | ⟨rfl, -⟩ | ⟨rfl, -⟩ := known <;> exact ⟨_, _, rfl, rfl⟩
  | positive number =>
    obtain ⟨c, more, rfl, digit⟩ := number.first
    exact ⟨c, more, rfl, startsValue_digit digit⟩
  | negative number => exact ⟨_, _, rfl, rfl⟩
  | text each => exact ⟨_, _, rfl, rfl⟩
  | noItems each => exact ⟨_, _, rfl, rfl⟩
  | list each => exact ⟨_, _, rfl, rfl⟩
  | noFields each => exact ⟨_, _, rfl, rfl⟩
  | mapping each => exact ⟨_, _, rfl, rfl⟩

theorem IsElement.skip {cs : List Char} {value : Json} (element : IsElement cs value) :
    ∃ inner after, IsValue inner value ∧ AreGaps after ∧ inner.length ≤ cs.length ∧
      ∀ rest, skipGap (cs ++ rest) = inner ++ (after ++ rest) := by
  cases element with
  | @mk before inner after value front derived back =>
    refine ⟨inner, after, derived, back, by simp only [List.length_append]; omega, fun rest => ?_⟩
    obtain ⟨c, more, rfl, starts⟩ := derived.starts
    rw [List.append_assoc, front.skip, List.append_assoc, List.cons_append, skipGap_starts starts]

theorem IsElement.starts {cs : List Char} {value : Json} (element : IsElement cs value) (rest : List Char) :
    ∃ c more, skipGap (cs ++ rest) = c :: more ∧ startsValue c = true := by
  obtain ⟨inner, after, derived, -, -, skip⟩ := element.skip
  obtain ⟨c, more, rfl, starts⟩ := derived.starts
  exact ⟨c, _, skip rest, starts⟩

theorem AreItems.starts {cs : List Char} {items : List Json} (each : AreItems cs items) (rest : List Char) :
    ∃ c more, skipGap (cs ++ rest) = c :: more ∧ startsValue c = true := by
  cases each with
  | last only => exact only.starts rest
  | more first others =>
    rw [List.append_assoc]
    exact first.starts _

theorem IsName.skip {cs : List Char} {name : String} (named : IsName cs name) :
    ∃ text chars after, AreChars text chars ∧ AreGaps after ∧ name = String.ofList chars ∧
      ∀ rest, skipGap (cs ++ rest) = '"' :: (text ++ '"' :: (after ++ rest)) := by
  obtain ⟨before, text, chars, after, rfl, front, each, back, whole⟩ := named
  refine ⟨text, chars, after, each, back, whole, fun rest => ?_⟩
  have shape : before ++ '"' :: (text ++ '"' :: after) ++ rest = before ++ '"' :: (text ++ '"' :: (after ++ rest)) := by
    simp
  rw [shape, front.skip]
  exact skipGap_starts rfl _

theorem IsName.read {front : List Char} {name : String} (named : IsName front name) (rest : List Char) :
    ∃ text after, skipGap (front ++ ':' :: rest) = '"' :: text ∧
      (∀ opening, readText opening (text.length + 1) [] text = .ok (name, after)) ∧ skipGap after = ':' :: rest := by
  obtain ⟨text, chars, after, each, back, rfl, skip⟩ := named.skip
  refine ⟨_, after ++ ':' :: rest, skip _, fun opening => ?_, back.skip _⟩
  exact readText_complete each (by rw [List.length_append]; omega)

theorem AreFields.starts {cs : List Char} {fields : List (String × Json)} (each : AreFields cs fields)
    (rest : List Char) : ∃ more, skipGap (cs ++ rest) = '"' :: more := by
  cases each with
  | last named only =>
    obtain ⟨text, chars, after, -, -, -, skip⟩ := named.skip
    rw [List.append_assoc]
    exact ⟨_, skip _⟩
  | more named first others =>
    obtain ⟨text, chars, after, -, -, -, skip⟩ := named.skip
    rw [List.append_assoc]
    exact ⟨_, skip _⟩

/-! ### What is derived is read -/

/-- What the grammar derives is taken by the reader from the front of a text, with fuel enough. -/
structure ReadsAll (fuel : Nat) : Prop where
  value : ∀ {cs value rest}, IsValue cs value → cs.length < fuel → NumeralEnds rest →
    readValue fuel (cs ++ rest) = .ok (value, rest)
  items : ∀ {read cs items rest}, AreItems cs items → cs.length + 1 < fuel →
    readItems fuel read (skipGap (cs ++ ']' :: rest)) = .ok (read.reverse ++ items, rest)
  fields : ∀ {read cs fields rest}, AreFields cs fields → cs.length + 1 < fuel →
    readFields fuel read (skipGap (cs ++ '}' :: rest)) = .ok (Entries.putAll read fields, rest)

theorem ReadsAll.element {fuel : Nat} (all : ReadsAll fuel) {cs rest : List Char} {value : Json}
    (element : IsElement cs value) (enough : cs.length < fuel) (ends : NumeralEnds rest) :
    ∃ after, readValue fuel (skipGap (cs ++ rest)) = .ok (value, after) ∧ skipGap after = skipGap rest := by
  obtain ⟨inner, after, derived, back, short, skip⟩ := element.skip
  refine ⟨after ++ rest, ?_, back.skip rest⟩
  rw [skip]
  exact all.value derived (Nat.lt_of_le_of_lt short enough) (back.ends ends)

section

variable {fuel : Nat} (ih : ReadsAll fuel)

include ih

theorem ReadsAll.value_step {cs rest : List Char} {value : Json} (derived : IsValue cs value)
    (enough : cs.length < fuel + 1) (ends : NumeralEnds rest) :
    readValue (fuel + 1) (cs ++ rest) = .ok (value, rest) := by
  cases derived with
  | word known =>
    simp only [wordValues, List.mem_cons, Prod.mk.injEq, List.not_mem_nil, or_false] at known
    obtain ⟨rfl, rfl⟩ | ⟨rfl, rfl⟩ | ⟨rfl, rfl⟩ | ⟨rfl, rfl⟩ | ⟨rfl, rfl⟩ | ⟨rfl, rfl⟩ := known <;> rfl
  | positive number =>
    obtain ⟨c, more, rfl, digit⟩ := number.first
    rw [List.cons_append, readValue_digit digit]
    exact number.read _ ends
  | negative number =>
    obtain ⟨c, more, rfl, digit⟩ := number.first
    rw [List.cons_append, List.cons_append, readValue_minus digit]
    exact number.read _ ends
  | @text cs chars each =>
    have shape : '"' :: (cs ++ ['"']) ++ rest = '"' :: (cs ++ '"' :: rest) := by simp
    have read : ∀ opening, readText opening ((cs ++ '"' :: rest).length + 1) [] (cs ++ '"' :: rest) =
        .ok (String.ofList chars, rest) :=
      fun opening => readText_complete each (by rw [List.length_append]; omega)
    rw [shape, readValue]
    simp only [read]
    rfl
  | @noItems gaps each =>
    have shape : '[' :: (gaps ++ [']']) ++ rest = '[' :: (gaps ++ ']' :: rest) := by simp
    rw [shape, readValue, each.skip]
    rfl
  | @list cs items each =>
    have shape : '[' :: (cs ++ [']']) ++ rest = '[' :: (cs ++ ']' :: rest) := by simp
    simp only [List.length_cons, List.length_append] at enough
    have read : readItems fuel [] (skipGap (cs ++ ']' :: rest)) = .ok (items, rest) := ih.items each (by omega)
    obtain ⟨c, more, start, starts⟩ := each.starts (']' :: rest)
    rw [start] at read
    rw [shape, readValue, start]
    split
    next same =>
      rw [(List.cons.inj same).1] at starts
      exact absurd starts (by decide)
    next => simp only [read, bind, Except.bind, pure, Except.pure]
  | @noFields gaps each =>
    have shape : '{' :: (gaps ++ ['}']) ++ rest = '{' :: (gaps ++ '}' :: rest) := by simp
    rw [shape, readValue, each.skip]
    rfl
  | @mapping cs fields each =>
    have shape : '{' :: (cs ++ ['}']) ++ rest = '{' :: (cs ++ '}' :: rest) := by simp
    simp only [List.length_cons, List.length_append] at enough
    have read : readFields fuel [] (skipGap (cs ++ '}' :: rest)) = .ok (Entries.ofWrites fields, rest) :=
      ih.fields each (by omega)
    obtain ⟨more, start⟩ := each.starts ('}' :: rest)
    rw [start] at read
    rw [shape, readValue, start]
    split
    next same => exact absurd (List.cons.inj same).1 (by decide)
    next => simp only [read, bind, Except.bind, pure, Except.pure]

theorem ReadsAll.items_step {read items : List Json} {cs rest : List Char} (derived : AreItems cs items)
    (enough : cs.length + 1 < fuel + 1) :
    readItems (fuel + 1) read (skipGap (cs ++ ']' :: rest)) = .ok (read.reverse ++ items, rest) := by
  cases derived with
  | last only =>
    have ends : NumeralEnds (']' :: rest) := forall_head (by decide) rest
    obtain ⟨after, found, skip⟩ := ih.element only (by omega) ends
    have close : skipGap after = ']' :: rest := skip
    rw [readItems, found]
    simp only [bind, Except.bind, close, List.reverse_cons, pure, Except.pure]
  | @more cs others item items first more =>
    simp only [List.length_append, List.length_cons] at enough
    have ends : NumeralEnds (',' :: (others ++ ']' :: rest)) := forall_head (by decide) _
    obtain ⟨after, found, skip⟩ := ih.element first (by omega) ends
    have comma : skipGap after = ',' :: (others ++ ']' :: rest) := skip
    have later : readItems fuel (item :: read) (skipGap (others ++ ']' :: rest)) =
        .ok ((item :: read).reverse ++ items, rest) := ih.items more (by omega)
    rw [List.append_assoc, List.cons_append, readItems, found]
    simp only [bind, Except.bind, comma, later, List.reverse_cons, List.append_assoc, List.singleton_append]

theorem ReadsAll.fields_step {read : Entries Json} {fields : List (String × Json)} {cs rest : List Char}
    (derived : AreFields cs fields) (enough : cs.length + 1 < fuel + 1) :
    readFields (fuel + 1) read (skipGap (cs ++ '}' :: rest)) = .ok (read.putAll fields, rest) := by
  cases derived with
  | @last front cs _ value named only =>
    simp only [List.length_append, List.length_cons] at enough
    have ends : NumeralEnds ('}' :: rest) := forall_head (by decide) rest
    obtain ⟨text, after, start, found, colon⟩ := named.read (cs ++ '}' :: rest)
    obtain ⟨behind, valued, skip⟩ := ih.element only (by omega) ends
    have close : skipGap behind = '}' :: rest := skip
    rw [List.append_assoc, List.cons_append, start, readFields.eq_def]
    simp only [found, bind, Except.bind, colon, valued, close]
    rfl
  | @more front cs others _ value fields named first more =>
    simp only [List.length_append, List.length_cons] at enough
    have ends : NumeralEnds (',' :: (others ++ '}' :: rest)) := forall_head (by decide) _
    obtain ⟨text, after, start, found, colon⟩ := named.read (cs ++ ',' :: (others ++ '}' :: rest))
    obtain ⟨behind, valued, skip⟩ := ih.element first (by omega) ends
    have comma : skipGap behind = ',' :: (others ++ '}' :: rest) := skip
    have shape : front ++ ':' :: (cs ++ ',' :: others) ++ '}' :: rest =
        front ++ ':' :: (cs ++ ',' :: (others ++ '}' :: rest)) := by simp
    rw [shape, start, readFields.eq_def]
    simp only [found, bind, Except.bind, colon, valued, comma]
    exact ih.fields more (by omega)

end

theorem readsAll (fuel : Nat) : ReadsAll fuel := by
  induction fuel with
  | zero => exact ⟨nofun, nofun, nofun⟩
  | succ fuel ih => exact ⟨ih.value_step, ih.items_step, ih.fields_step⟩

/-! ### Whole texts -/

/-- The value of a text is read if the grammar derives the text for it, and otherwise none is. -/
theorem readChars_ok_iff {cs : List Char} {value : Json} : readChars cs = .ok value ↔ IsElement cs value := by
  unfold readChars
  dsimp only
  constructor
  · intro read
    split at read
    next => cases read
    next =>
      obtain ⟨⟨found, rest⟩, first, last⟩ := bind_ok read
      obtain ⟨gaps, front, split⟩ := skipGap_split cs
      obtain ⟨text, inner, derived⟩ := (readsDerived _).value first
      obtain ⟨after, back, behind⟩ := skipGap_split rest
      dsimp only at last
      split at last
      next none =>
        cases last
        rw [none, List.append_nil] at behind
        rw [split, inner, behind]
        exact .mk front derived back
      next => cases last
  · intro element
    have ends : NumeralEnds [] := nofun
    obtain ⟨after, read, skip⟩ := (readsAll (cs.length + 1)).element element (Nat.lt_succ_self _) ends
    have nothing : skipGap after = [] := skip
    rw [List.append_nil] at read
    split
    next more =>
      -- A byte-order mark is no gap, and no value begins with one.
      obtain ⟨inner, after, derived, -, -, front⟩ := element.skip
      obtain ⟨c, others, rfl, starts⟩ := derived.starts
      have mark : skipGap (('\uFEFF' :: more) ++ []) = '\uFEFF' :: (more ++ []) := rfl
      rw [front, List.cons_append] at mark
      rw [(List.cons.inj mark).1] at starts
      exact absurd starts (by decide)
    next =>
      simp only [read, bind, Except.bind, nothing]
      rfl

theorem read_ok_iff {text : String} {value : Json} : read text = .ok value ↔ IsElement text.toList value := by
  rw [← readChars_ok_iff, read]
  cases readChars text.toList with
  | ok found => simp
  | error stop => simp

/-- No text has two values. -/
theorem IsElement.unique {cs : List Char} {first second : Json} (one : IsElement cs first)
    (other : IsElement cs second) : first = second := by
  have same := (readChars_ok_iff.mpr one).symm.trans (readChars_ok_iff.mpr other)
  exact Except.ok.inj same

/-- A text that is not read has no value. -/
theorem read_error_iff {text : String} :
    (∃ message, read text = .error message) ↔ ∀ value, ¬ IsElement text.toList value := by
  constructor
  · rintro ⟨message, failed⟩ value derived
    cases failed.symm.trans (read_ok_iff.mpr derived)
  · intro none
    cases found : read text with
    | ok value => exact absurd (read_ok_iff.mp found) (none value)
    | error message => exact ⟨message, rfl⟩

end ChatWidget.Json
