import ChatWidget.Proofs.Json.Derivation
import ChatWidget.Proofs.Json.Tidy
/-!
A value that was written is read back as itself: the grammar derives its written form for it, texts with all their
escapes, numbers by their worth, lists and mappings in their order.
-/
namespace ChatWidget.Json

/-! ### Texts -/

theorem fourHexDigits?_control : ∀ unit < 0x20, fourHexDigits? (Text.hexDigits 4 unit) = some (unit, []) := by
  decide +kernel

theorem areChars_writtenChar (c : Char) {cs chars : List Char} (rest : AreChars cs chars) :
    AreChars (writtenChar c ++ cs) (c :: chars) := by
  unfold writtenChar
  by_cases quote : c = '"'
  · subst quote
    exact .letter rfl rest
  rw [if_neg quote]
  by_cases slash : c = '\\'
  · subst slash
    exact .letter rfl rest
  rw [if_neg slash]
  by_cases feed : c = '\n'
  · subst feed
    exact .letter rfl rest
  rw [if_neg feed]
  by_cases carriage : c = '\r'
  · subst carriage
    exact .letter rfl rest
  rw [if_neg carriage]
  by_cases tab : c = '\t'
  · subst tab
    exact .letter rfl rest
  rw [if_neg tab]
  by_cases form : c.toNat = 0x0C
  · have same : c = Char.ofNat 12 := by rw [← form, Char.ofNat_toNat]
    subst same
    exact .letter rfl rest
  rw [if_neg form]
  by_cases back : c.toNat = 0x08
  · have same : c = Char.ofNat 8 := by rw [← back, Char.ofNat_toNat]
    subst same
    exact .letter rfl rest
  rw [if_neg back]
  by_cases control : c.toNat < 0x20
  · have whole : charOfUnit c.toNat = c := by
      have outside : ¬ 0xD800 ≤ c.toNat := by omega
      simp [charOfUnit, outside, Char.ofNat_toNat]
    have single : IsHigh c.toNat → ¬ BeginsLow cs := by
      rintro ⟨least, -⟩
      omega
    have escaped := AreChars.single (fourHexDigits?_control c.toNat control) single rest
    rw [whole] at escaped
    rw [if_pos control]
    exact escaped
  rw [if_neg control]
  exact .plain quote slash control rest

theorem areChars_written (chars : List Char) : AreChars (chars.flatMap writtenChar) chars := by
  induction chars with
  | nil => exact .nil
  | cons c chars ih =>
    rw [List.flatMap_cons]
    exact areChars_writtenChar c ih

theorem isValue_str (s : String) : IsValue (writtenText s) (.str s) := by
  have derived := IsValue.text (areChars_written s.toList)
  rwa [String.ofList_toList] at derived

theorem isName_written (name : String) : IsName (writtenText name) name :=
  ⟨[], _, name.toList, [], rfl, areGaps_nil, areChars_written name.toList, areGaps_nil, String.ofList_toList.symm⟩

/-! ### Numbers -/

theorem isValue_number {negative : Bool} {cs : List Char} {value : Json}
    (number : readNumber 0 negative (cs ++ []) = .ok (value, [])) :
    IsValue ((if negative then ['-'] else []) ++ cs) value := by
  obtain ⟨text, same, derived⟩ := readNumber_number number
  rw [List.append_nil, List.append_nil] at same
  rw [same]
  cases negative with
  | true => exact .negative derived
  | false => exact .positive derived

theorem numeralEnds_nil : NumeralEnds [] := nofun

theorem isWhole_toDigits (n : Nat) : IsWhole (Nat.toDigits 10 n) := by
  by_cases zero : n = 0
  · subst zero
    exact .inl rfl
  · cases written : Nat.toDigits 10 n with
    | nil => exact absurd written Nat.toDigits_ne_nil
    | cons c rest =>
      refine .inr ⟨⟨c, rest, rfl, ?_⟩, ?_⟩
      · rintro rfl
        exact toDigits_head (Nat.pos_of_ne_zero zero) written
      · intro d member
        exact isDigit_toDigits (n := n) (by rw [written]; exact member)

theorem toString_int (value : Int) :
    (toString value).toList =
      (if decide (value < 0) then ['-'] else []) ++ Nat.toDigits 10 value.natAbs := by
  cases value with
  | ofNat n =>
    change n.repr.toList = _
    rw [Nat.toList_repr]
    rfl
  | negSucc n =>
    change ("-" ++ (n + 1).repr).toList = _
    rw [String.toList_append, Nat.toList_repr, if_pos (decide_eq_true (Int.negSucc_lt_zero n))]
    rfl

theorem isValue_int {value : Int} (writable : isWritable (.int value) = true) :
    IsValue (toString value).toList (.int value) := by
  have few : (Nat.toDigits 10 value.natAbs).length ≤ digitLimit := of_decide_eq_true writable
  have worth : (if decide (value < 0) then -(value.natAbs : Int) else value.natAbs) = value := by
    by_cases negative : value < 0
    · rw [if_pos (decide_eq_true negative), Int.ofNat_natAbs_of_nonpos (Int.le_of_lt negative), Int.neg_neg]
    · rw [if_neg (by simpa using negative)]
      exact Int.natAbs_of_nonneg (Int.not_lt.mp negative)
  have read := readNumber_whole 0 (decide (value < 0)) (isWhole_toDigits value.natAbs) few numeralEnds_nil
  rw [digitsValue_toDigits, worth] at read
  rw [toString_int]
  exact isValue_number read

theorem isValue_float (value : Binary64) : IsValue (value.textWith "Infinity" "NaN") (.float value) := by
  cases value with
  | finite negative magnitude => exact isValue_number (readNumber_magnitudeText 0 negative magnitude numeralEnds_nil)
  | infinite negative =>
    cases negative with
    | true => exact .word (List.mem_of_getElem? (i := 5) rfl)
    | false => exact .word (List.mem_of_getElem? (i := 4) rfl)
  | nan => exact .word (List.mem_of_getElem? (i := 3) rfl)

/-! ### Lists and mappings -/

theorem IsValue.element {cs : List Char} {value : Json} (derived : IsValue cs value) : IsElement cs value := by
  have element := IsElement.mk areGaps_nil derived areGaps_nil
  rwa [List.append_nil, List.nil_append] at element

theorem areGaps_space : AreGaps [' '] := by
  intro c member
  rw [List.mem_singleton.mp member]
  rfl

theorem writtenItems_later (item : Json) (items : List Json) :
    writtenItems false (item :: items) = ',' :: ' ' :: writtenItems true (item :: items) := by
  simp [writtenItems]

theorem writtenFields_later (field : String × Json) (fields : List (String × Json)) :
    writtenFields false (field :: fields) = ',' :: ' ' :: writtenFields true (field :: fields) := by
  obtain ⟨name, value⟩ := field
  simp [writtenFields]

theorem areItems_written {items : List Json} (each : ∀ item ∈ items, IsValue item.writtenChars item)
    (nonempty : items ≠ []) : AreItems (writtenItems true items) items := by
  induction items with
  | nil => exact absurd rfl nonempty
  | cons item items ih =>
    have first := (each item List.mem_cons_self).element
    cases items with
    | nil =>
      have alone : writtenItems true [item] = item.writtenChars := by simp [writtenItems]
      rw [alone]
      exact .last first
    | cons next items =>
      have apart : writtenItems true (item :: next :: items) =
          item.writtenChars ++ ',' :: ([' '] ++ writtenItems true (next :: items)) := by
        rw [writtenItems, writtenItems_later]
        rfl
      have others := ih (fun other member => each other (List.mem_cons_of_mem _ member)) (by simp)
      rw [apart]
      exact .more first (others.spaced areGaps_space)

theorem areFields_written {fields : List (String × Json)} (each : ∀ field ∈ fields, IsValue field.2.writtenChars field.2)
    (nonempty : fields ≠ []) : AreFields (writtenFields true fields) fields := by
  induction fields with
  | nil => exact absurd rfl nonempty
  | cons field fields ih =>
    obtain ⟨name, value⟩ := field
    have first := (each (name, value) List.mem_cons_self).element.spaced areGaps_space
    cases fields with
    | nil =>
      have alone : writtenFields true [(name, value)] = writtenText name ++ ':' :: ([' '] ++ value.writtenChars) := by
        simp [writtenFields]
      rw [alone]
      exact .last (isName_written name) first
    | cons next fields =>
      have apart : writtenFields true ((name, value) :: next :: fields) = writtenText name ++ ':' ::
          ([' '] ++ value.writtenChars ++ ',' :: ([' '] ++ writtenFields true (next :: fields))) := by
        rw [writtenFields, writtenFields_later]
        simp
      have others := ih (fun other member => each other (List.mem_cons_of_mem _ member)) (by simp)
      rw [apart]
      exact .more (isName_written name) first (others.spaced areGaps_space)

/-- The grammar derives the written form of every value that is sound. -/
theorem isValue_written {value : Json} (sound : value.IsSound) : IsValue value.writtenChars value := by
  induction value using byParts with
  | null => exact .word (List.mem_of_getElem? (i := 0) rfl)
  | bool value =>
    cases value with
    | true => exact .word (List.mem_of_getElem? (i := 1) rfl)
    | false => exact .word (List.mem_of_getElem? (i := 2) rfl)
  | int value => exact isValue_int sound.writable
  | float value => exact isValue_float value
  | str value => exact isValue_str value
  | arr items ih =>
    cases items with
    | nil => exact .noItems areGaps_nil
    | cons item items =>
      have each : ∀ other ∈ item :: items, IsValue other.writtenChars other :=
        fun other member => ih other member (isSound_arr.mp sound other member)
      exact .list (areItems_written each (by simp))
  | obj fields ih =>
    obtain ⟨distinct, inner⟩ := isSound_obj.mp sound
    cases fields with
    | nil => exact .noFields areGaps_nil
    | cons field fields =>
      have each : ∀ other ∈ field :: fields, IsValue other.2.writtenChars other.2 :=
        fun other member => ih other member (inner other member)
      have derived := IsValue.mapping (areFields_written each (by simp))
      rwa [distinct.ofWrites] at derived

theorem writtenChars_ne_nil {value : Json} (sound : value.IsSound) : value.writtenChars ≠ [] := by
  obtain ⟨c, more, same, -⟩ := (isValue_written sound).starts
  rw [same]
  exact List.cons_ne_nil c more

/-- What was written is read back: the value itself, with the order of its entries and the kinds of its
numbers. -/
theorem read_written {value : Json} (sound : value.IsSound) : read value.written = .ok value := by
  rw [read_ok_iff, written, String.toList_ofList]
  exact (isValue_written sound).element

end ChatWidget.Json
