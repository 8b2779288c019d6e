import ChatWidget.Markup.Token
import ChatWidget.Proofs.Text.Pieces
import Mathlib.Data.List.Basic
/-!
Tags as they are usually written, and what they are read as: a name of small letters and digits, and
attributes that each follow a space and have their value in double quotes. Such a tag is read to its end
and nothing beyond it is looked at, whatever follows.
-/
namespace ChatWidget.Markup

/-- A character of a name that needs no care: a small letter or a digit. -/
def isPlainChar (c : Char) : Bool := (0x61 ≤ c.toNat && c.toNat ≤ 0x7A) || Text.isDigit c

/-- A name that begins with a small letter and holds small letters and digits. -/
def IsPlainName (name : List Char) : Prop :=
  ∃ c rest, name = c :: rest ∧ Text.isLetter c = true ∧ ∀ d ∈ name, isPlainChar d = true

/-- An attribute as it is written in a tag. -/
def attributeMarkup (written : List Char × List Char) : List Char :=
  ' ' :: (written.1 ++ '=' :: '"' :: (written.2 ++ ['"']))

/-- The end of a tag, with the slash of one that closes what it opens, and what comes after it. -/
def tagEnd (closed : Bool) (rest : List Char) : List Char :=
  if closed then '/' :: '>' :: rest else '>' :: rest

theorem isPlainChar_inside {c : Char} (plain : isPlainChar c = true) :
    Text.isBlank c = false ∧ c ≠ '/' ∧ c ≠ '>' ∧ c ≠ '=' ∧ endsTagName c = false ∧
      Text.isSmall c = true ∧ isClosingNameChar c = true := by
  have slash : c ≠ '/' := by rintro rfl; exact absurd plain (by decide)
  have angle : c ≠ '>' := by rintro rfl; exact absurd plain (by decide)
  have sign : c ≠ '=' := by rintro rfl; exact absurd plain (by decide)
  have tab : c ≠ '\t' := by rintro rfl; exact absurd plain (by decide)
  have feed : c ≠ '\n' := by rintro rfl; exact absurd plain (by decide)
  have carriage : c ≠ '\r' := by rintro rfl; exact absurd plain (by decide)
  have space : c ≠ ' ' := by rintro rfl; exact absurd plain (by decide)
  simp only [isPlainChar, Text.isDigit, Bool.or_eq_true, Bool.and_eq_true,
    decide_eq_true_eq] at plain
  refine ⟨?_, slash, angle, sign, ?_, ?_, ?_⟩
  · simp only [Text.isBlank, Bool.or_eq_false_iff, Bool.and_eq_false_iff, beq_eq_false_iff_ne,
      decide_eq_false_iff_not]
    omega
  · have form : c.toNat ≠ 0x0C := by omega
    have zero : c.toNat ≠ 0 := by omega
    simp [endsTagName, slash, angle, tab, feed, carriage, space, form, zero]
  · simp only [Text.isSmall, Bool.and_eq_true, decide_eq_true_eq, Bool.not_eq_true',
      Bool.and_eq_false_iff, decide_eq_false_iff_not]
    omega
  · simp only [isClosingNameChar, Text.isLetter, Text.isDigit, Bool.or_eq_true, Bool.and_eq_true,
      decide_eq_true_eq]
    omega

theorem takeWhile_stop {p : Char → Bool} {cs : List Char} {c : Char} (inside : ∀ d ∈ cs, p d = true)
    (stop : p c = false) (rest : List Char) :
    (cs ++ c :: rest).takeWhile p = cs ∧ (cs ++ c :: rest).dropWhile p = c :: rest := by
  constructor
  · rw [List.takeWhile_append_of_pos inside, List.takeWhile_cons_of_neg (by simp [stop]),
      List.append_nil]
  · rw [List.dropWhile_append_of_pos inside, List.dropWhile_cons_of_neg (by simp [stop])]

theorem skipFiller_stop {c : Char} (blank : Text.isBlank c = false) (slash : c ≠ '/')
    (rest : List Char) : skipFiller (c :: rest) = c :: rest := by
  unfold skipFiller
  split
  · rename_i same
    exact absurd (List.cons.inj same).1 slash
  · rename_i same
    obtain ⟨rfl, rfl⟩ := List.cons.inj same
    simp [blank, slash]
  · contradiction

theorem skipFiller_space (rest : List Char) : skipFiller (' ' :: rest) = skipFiller rest := by
  have space : Text.isBlank ' ' = true := by decide
  conv_lhs => unfold skipFiller
  split
  · rename_i same
    exact absurd (List.cons.inj same).1 (by decide)
  · rename_i same
    obtain ⟨rfl, rfl⟩ := List.cons.inj same
    simp [space]
  · contradiction

theorem skipFiller_tagEnd (closed : Bool) (rest : List Char) :
    skipFiller (tagEnd closed rest) = tagEnd closed rest := by
  cases closed with
  | false => exact skipFiller_stop (by decide) (by decide) rest
  | true => rfl

theorem lastRead_append (before : Char) (cs rest : List Char) :
    lastRead before (cs ++ rest) rest = cs.getLast?.getD before := by
  simp [lastRead]

theorem attributeName_plain {name : List Char} (plain : IsPlainName name) (rest : List Char) :
    attributeName ' ' (name ++ '=' :: rest) = some (name, '=' :: rest) := by
  obtain ⟨c, more, rfl, -, inside⟩ := plain
  obtain ⟨blank, slash, angle, -⟩ := isPlainChar_inside (inside c (by simp))
  have passed : ∀ d ∈ more, (!(Text.isBlank d || d = '/' || d = '>') && d ≠ '=') = true := by
    intro d member
    obtain ⟨blank, slash, angle, sign, -⟩ := isPlainChar_inside (inside d (by simp [member]))
    simp [blank, slash, angle, sign]
  obtain ⟨taken, left⟩ := takeWhile_stop passed
    (by decide : (!(Text.isBlank '=' || '=' = '/' || '=' = '>') && '=' ≠ '=') = false) rest
  have space : Text.isBlank ' ' = true := by decide
  simp only [List.cons_append, attributeName, space, blank, slash, angle, Bool.true_or,
    decide_false, Bool.or_self, Bool.not_false, Bool.and_self, if_true]
  rw [← taken, ← left]
  simp only [taken, left]

theorem attributeName_tagEnd (before : Char) (closed : Bool) (rest : List Char) :
    attributeName before (tagEnd closed rest) = none := by
  cases closed <;> simp [attributeName, tagEnd]

theorem attributeValue_quoted {value : List Char} (unquoted : '"' ∉ value) (rest : List Char) :
    attributeValue ('=' :: '"' :: (value ++ '"' :: rest)) = some (value, rest) := by
  have passed : ∀ d ∈ value, decide (d ≠ '"') = true := by
    intro d member
    exact decide_eq_true (fun same => unquoted (same ▸ member))
  obtain ⟨taken, left⟩ := takeWhile_stop passed (by decide : decide ('"' ≠ '"') = false) rest
  have sign : skipBlanks ('=' :: '"' :: (value ++ '"' :: rest)) =
      '=' :: '"' :: (value ++ '"' :: rest) := rfl
  have after : ('"' :: (value ++ '"' :: rest)).dropWhile (· = '=') =
      '"' :: (value ++ '"' :: rest) := rfl
  have quote : skipBlanks ('"' :: (value ++ '"' :: rest)) = '"' :: (value ++ '"' :: rest) := rfl
  simp only [attributeValue, sign, after, quote, decide_true, Bool.or_true, if_true]
  rw [left, taken]

def ArePlain (written : List (List Char × List Char)) : Prop :=
  ∀ pair ∈ written, IsPlainName pair.1 ∧ '"' ∉ pair.2

theorem ArePlain.nil : ArePlain [] := by
  intro pair member
  cases member

/-- What an attribute says: its name, and its value with the references resolved. -/
def attributeRead (written : List Char × List Char) : String × String :=
  (String.ofList written.1, String.ofList (unescape written.2))

theorem skipFiller_attributes {name value : List Char} (plain : IsPlainName name)
    (rest : List Char) :
    skipFiller (attributeMarkup (name, value) ++ rest) =
      name ++ '=' :: '"' :: (value ++ '"' :: rest) := by
  obtain ⟨c, more, rfl, -, inside⟩ := plain
  obtain ⟨blank, slash, -⟩ := isPlainChar_inside (inside c (by simp))
  simp only [attributeMarkup, List.cons_append, List.append_assoc, List.nil_append]
  rw [skipFiller_space, skipFiller_stop blank slash]

theorem lower_plain {name : List Char} (plain : IsPlainName name) : Text.lower name = name := by
  obtain ⟨c, more, rfl, -, inside⟩ := plain
  exact Text.lower_small fun d member => (isPlainChar_inside (inside d member)).2.2.2.2.2.1

theorem lowered_plain {name : String} (plain : IsPlainName name.toList) : name.lowered = name := by
  rw [String.lowered, lower_plain plain, String.ofList_toList]

/-- Attributes as they are usually written are read in order, whatever comes after them. -/
theorem attributes_before {written : List (List Char × List Char)} (plain : ArePlain written) (rest : List Char)
    (fuel : Nat) (before : Char) (spaced : written ≠ [] → before = ' ') :
    ∃ last, attributes (written.length + fuel) before (skipFiller (written.flatMap attributeMarkup ++ rest)) =
      (written.map attributeRead ++ (attributes fuel last (skipFiller rest)).1,
        (attributes fuel last (skipFiller rest)).2) := by
  induction written generalizing before with
  | nil => exact ⟨before, by simp⟩
  | cons first written ih =>
    obtain ⟨name, value⟩ := first
    obtain ⟨named, unquoted⟩ := plain (name, value) (by simp)
    have others : ArePlain written := fun pair member => plain pair (by simp [member])
    rw [spaced (by simp), List.flatMap_cons, List.append_assoc, skipFiller_attributes named,
      List.length_cons, Nat.add_right_comm, attributes, attributeName_plain named]
    simp only [attributeValue_quoted unquoted, Option.getD_some, lower_plain named]
    obtain ⟨last, later⟩ := ih others (lastRead ' ' (name ++ '=' :: '"' :: (value ++ '"' ::
      (written.flatMap attributeMarkup ++ rest))) (skipFiller (written.flatMap attributeMarkup ++ rest))) (by
        -- The space before the next attribute is passed over, so it is what was read last.
        intro more
        obtain ⟨⟨next, content⟩, written, rfl⟩ := List.exists_cons_of_ne_nil more
        have nextNamed := (others (next, content) (by simp)).1
        rw [List.flatMap_cons, List.append_assoc, skipFiller_attributes nextNamed]
        have whole : name ++ '=' :: '"' :: (value ++ '"' :: (attributeMarkup (next, content) ++
              (written.flatMap attributeMarkup ++ rest))) =
            ((name ++ '=' :: '"' :: (value ++ ['"'])) ++ [' ']) ++ (next ++ '=' :: '"' ::
              (content ++ '"' :: (written.flatMap attributeMarkup ++ rest))) := by
          simp [attributeMarkup]
        rw [whole, lastRead_append, List.getLast?_concat]
        rfl)
    refine ⟨last, ?_⟩
    rw [later]
    rfl

/-- All attributes of a tag are read, in order, and reading stops at the end of the tag. -/
theorem attributes_written {written : List (List Char × List Char)} (plain : ArePlain written)
    (closed : Bool) (rest : List Char) (fuel : Nat) (enough : written.length ≤ fuel)
    (before : Char) (spaced : written ≠ [] → before = ' ') :
    attributes fuel before
        (skipFiller (written.flatMap attributeMarkup ++ tagEnd closed rest)) =
      (written.map attributeRead, tagEnd closed rest) := by
  obtain ⟨more, rfl⟩ := Nat.exists_eq_add_of_le enough
  obtain ⟨last, read⟩ := attributes_before plain (tagEnd closed rest) more before spaced
  have none : attributes more last (tagEnd closed rest) = ([], tagEnd closed rest) := by
    cases more with
    | zero => rfl
    | succ more => rw [attributes, attributeName_tagEnd]
  rw [read, skipFiller_tagEnd, none, List.append_nil]

theorem length_le_attributes (written : List (List Char × List Char)) :
    written.length ≤ (written.flatMap attributeMarkup).length := by
  induction written with
  | nil => simp
  | cons first written ih =>
    have one : 1 ≤ (attributeMarkup first).length := by simp [attributeMarkup]
    rw [List.flatMap_cons, List.length_append, List.length_cons]
    omega

theorem lastRead_attributes {written : List (List Char × List Char)} (plain : ArePlain written) (some : written ≠ [])
    (before : Char) (rest : List Char) :
    lastRead before (written.flatMap attributeMarkup ++ rest) (skipFiller (written.flatMap attributeMarkup ++ rest)) =
      ' ' := by
  obtain ⟨⟨first, value⟩, others, rfl⟩ := List.exists_cons_of_ne_nil some
  rw [List.flatMap_cons, List.append_assoc, skipFiller_attributes (plain (first, value) (by simp)).1]
  have whole : attributeMarkup (first, value) ++ (others.flatMap attributeMarkup ++ rest) =
      [' '] ++ (first ++ '=' :: '"' :: (value ++ '"' :: (others.flatMap attributeMarkup ++ rest))) := by
    simp [attributeMarkup]
  rw [whole, lastRead_append]
  rfl

theorem length_le_skipFiller {written : List (List Char × List Char)} (plain : ArePlain written) (rest : List Char) :
    written.length ≤ (skipFiller (written.flatMap attributeMarkup ++ rest)).length := by
  cases written with
  | nil => simp
  | cons first more =>
    obtain ⟨first, value⟩ := first
    rw [List.flatMap_cons, List.append_assoc, skipFiller_attributes (plain (first, value) (by simp)).1]
    have each := length_le_attributes more
    simp only [List.length_append, List.length_cons]
    omega

theorem tagName_cut {name : List Char} (named : IsPlainName name) {c : Char} (ends : endsTagName c = true)
    (after : List Char) :
    (name ++ c :: after).takeWhile (! endsTagName ·) = name ∧
      (name ++ c :: after).dropWhile (! endsTagName ·) = c :: after := by
  obtain ⟨first, more, rfl, -, inside⟩ := named
  refine takeWhile_stop (fun d member => ?_) (by simp [ends]) after
  obtain ⟨-, -, -, -, plain, -⟩ := isPlainChar_inside (inside d member)
  simp [plain]

theorem openingTag_written {name : List Char} (named : IsPlainName name)
    {written : List (List Char × List Char)} (plain : ArePlain written)
    (closed : Bool) (rest : List Char) :
    openingTag (name ++ (written.flatMap attributeMarkup ++ tagEnd closed rest)) =
      .token (.opening (String.ofList name) (written.map attributeRead) closed) rest := by
  -- What follows the name begins with a space or is the end of the tag.
  have follows : ∃ c after, written.flatMap attributeMarkup ++ tagEnd closed rest = c :: after ∧
      endsTagName c = true := by
    cases written with
    | nil =>
      cases closed with
      | false => exact ⟨'>', rest, rfl, by decide⟩
      | true => exact ⟨'/', '>' :: rest, rfl, by decide⟩
    | cons first more => exact ⟨' ', _, rfl, by decide⟩
  obtain ⟨c, after, begins, ends⟩ := follows
  have cut := tagName_cut named ends after
  rw [← begins] at cut
  have found := attributes_written plain closed rest _ (length_le_skipFiller plain (tagEnd closed rest))
    (lastRead ((name.getLast?).getD '<') (written.flatMap attributeMarkup ++ tagEnd closed rest)
      (skipFiller (written.flatMap attributeMarkup ++ tagEnd closed rest)))
    fun some => lastRead_attributes plain some _ _
  rw [openingTag, cut.1, cut.2]
  dsimp only
  rw [found, lower_plain named]
  cases closed <;> rfl

theorem closingTag_written {name : List Char} (named : IsPlainName name) (rest : List Char) :
    closingTag (name ++ '>' :: rest) = .token (.closing (String.ofList name)) rest := by
  have lowered := lower_plain named
  obtain ⟨c, more, rfl, letter, inside⟩ := named
  have passed : ∀ d ∈ c :: more, decide (d ≠ '>') = true := by
    intro d member
    obtain ⟨-, -, angle, -⟩ := isPlainChar_inside (inside d member)
    simpa using angle
  have left := (takeWhile_stop passed (by decide : decide ('>' ≠ '>') = false) rest).2
  have nameChars : ∀ d ∈ more, isClosingNameChar d = true := fun d member =>
    (isPlainChar_inside (inside d (by simp [member]))).2.2.2.2.2.2
  obtain ⟨taken, beyond⟩ := takeWhile_stop nameChars (by decide : isClosingNameChar '>' = false) rest
  have blank := (isPlainChar_inside (inside c (by simp))).1
  have begins : skipBlanks (c :: more ++ '>' :: rest) = c :: (more ++ '>' :: rest) := by
    simp [skipBlanks, blank]
  have angle : skipBlanks ('>' :: rest) = '>' :: rest := rfl
  have plain : plainClosing? (c :: more ++ '>' :: rest) = some (c :: more, rest) := by
    rw [plainClosing?, begins]
    simp only [letter, if_true, beyond, angle, taken]
  rw [closingTag, left, plain]
  simp only [lowered]

theorem construct_letter {c : Char} (letter : Text.isLetter c = true) (rest : List Char) :
    construct? (c :: rest) = .ok (some (openingTag (c :: rest))) := by
  have slash : c ≠ '/' := by rintro rfl; exact absurd letter (by decide)
  have bang : c ≠ '!' := by rintro rfl; exact absurd letter (by decide)
  have query : c ≠ '?' := by rintro rfl; exact absurd letter (by decide)
  unfold construct?
  split
  · rename_i same; exact absurd (List.cons.inj same).1 slash
  · rename_i same; exact absurd (List.cons.inj same).1 bang
  · rename_i same; exact absurd (List.cons.inj same).1 query
  · rename_i same; exact absurd (List.cons.inj same).1 bang
  · rename_i same; exact absurd (List.cons.inj same).1 bang
  · rename_i same
    rw [← (List.cons.inj same).1, if_pos letter]
  · contradiction

theorem construct_named {name : List Char} (named : IsPlainName name) (rest : List Char) :
    construct? (name ++ rest) = .ok (some (openingTag (name ++ rest))) := by
  obtain ⟨c, more, rfl, letter, -⟩ := named
  exact construct_letter letter (more ++ rest)

end ChatWidget.Markup
