import ChatWidget.Net.Response
import ChatWidget.Proofs.Text.Pieces
/-!
Which headers name the media type that is understood. They are told apart by what is written in them: capitals of ASCII
do not matter, nor blanks around the name, nor what follows a semicolon. Lower-casing takes other characters into
account than those of ASCII, but none of them becomes a letter of this name.
-/
namespace ChatWidget

namespace Text

/-! ### Lower case in ASCII -/

theorem toNat_ofNat (n : Nat) : (Char.ofNat n).toNat = n ∨ (Char.ofNat n).toNat = 0 := by
  by_cases valid : n.isValidChar
  · rw [Char.ofNat, dif_pos valid]
    exact .inl rfl
  · rw [Char.ofNat, dif_neg valid]
    exact .inr rfl

/-- The characters of ASCII that nothing else becomes in lower case. The Kelvin sign becomes a letter, and zero stands in
for what is no character. -/
def IsOwn (c : Char) : Prop := c.toNat < 0x80 ∧ c.toNat ≠ 0x6B ∧ c.toNat ≠ 0

theorem lowerChar_ascii {c : Char} (ascii : c.toNat < 0x80) : lowerChar c = c.toLower := by
  have each : ∀ n < 0x80, lowerChar (Char.ofNat n) = (Char.ofNat n).toLower := by decide +kernel
  have known := each c.toNat ascii
  rwa [Char.ofNat_toNat] at known

theorem toLower_other {c : Char} (other : ¬ c.toNat < 0x80) : c.toLower = c := by
  unfold Char.toLower
  rw [dif_neg]
  rintro ⟨-, most⟩
  have small : c.toNat ≤ 0x5A := most
  omega

/-- A range of characters lies in ASCII, or its lower case lies outside, or it is the Kelvin sign. -/
theorem lowerCaseRanges_other : ∀ range ∈ lowerCaseRanges,
    range.2.1 < 0x80 ∨ 0x80 ≤ range.1 + range.2.2.2 ∨ range.1 = 0x212A ∧ range.2.1 = 0x212A := by decide +kernel

theorem lowerChar_other {c : Char} (other : ¬ c.toNat < 0x80) : ¬ IsOwn (lowerChar c) := by
  rintro ⟨ascii, letter, zero⟩
  by_cases kelvin : c.toNat = 0x212A
  · have same : c = Char.ofNat 0x212A := by rw [← kelvin, Char.ofNat_toNat]
    rw [same] at letter
    exact letter (by decide +kernel)
  have form : lowerChar c = c ∨ ∃ range ∈ lowerCaseRanges, range.1 ≤ c.toNat ∧ c.toNat ≤ range.2.1 ∧
      lowerChar c = Char.ofNat (c.toNat + range.2.2.2).toNat := by
    unfold lowerChar
    dsimp only
    rw [if_neg other]
    split
    next first last step shift found =>
      have within := List.find?_some found
      simp only [Bool.and_eq_true, decide_eq_true_eq] at within
      exact .inr ⟨_, List.mem_of_find?_eq_some found, within.1.1, within.1.2, rfl⟩
    next => exact .inl rfl
  rcases form with same | ⟨range, member, least, most, same⟩
  · rw [same] at ascii
    exact other ascii
  · have place := lowerCaseRanges_other range member
    rw [same] at ascii zero
    rcases toNat_ofNat (c.toNat + range.2.2.2).toNat with known | none
    · omega
    · exact zero none

/-- Only what is written in ASCII comes to such characters in lower case, and then capitals are all that changes. -/
theorem lower_eq_iff {cs target : List Char} (own : ∀ c ∈ target, IsOwn c) :
    lower cs = target ↔ cs.map Char.toLower = target := by
  have after : ∀ before, lowerAfter before cs = target ↔ cs.map Char.toLower = target := by
    induction cs generalizing target with
    | nil => exact fun _ => Iff.rfl
    | cons c rest ih =>
      intro before
      by_cases ascii : c.toNat < 0x80
      · have dotted : c.toNat ≠ 0x130 := by omega
        have sigma : c.toNat ≠ 0x3A3 := by omega
        rw [lowerAfter, if_neg dotted, if_neg sigma, lowerChar_ascii ascii, List.map_cons, List.singleton_append]
        cases target with
        | nil => simp
        | cons first others =>
          rw [List.cons.injEq, List.cons.injEq, ih fun d member => own d (List.mem_cons_of_mem _ member)]
      · -- Neither side can be such a text.
        constructor
        · intro same
          rw [lowerAfter] at same
          split at same
          next =>
            have mark : Char.ofNat 0x307 ∈ target := by rw [← same]; simp
            exact absurd (own _ mark).1 (by decide)
          next =>
            split at same
            next =>
              split at same
              next =>
                have sigma : Char.ofNat 0x3C2 ∈ target := by rw [← same]; simp
                exact absurd (own _ sigma).1 (by decide)
              next =>
                have sigma : Char.ofNat 0x3C3 ∈ target := by rw [← same]; simp
                exact absurd (own _ sigma).1 (by decide)
            next =>
              have alone : lowerChar c ∈ target := by rw [← same]; simp
              exact absurd (own _ alone) (lowerChar_other ascii)
        · intro same
          rw [List.map_cons, toLower_other ascii] at same
          have here : c ∈ target := by rw [← same]; simp
          exact absurd (own c here).1 ascii
  exact after []

/-! ### Blanks at either end -/

theorem strip_split (cs : List Char) :
    ∃ before after, cs = before ++ (strip cs ++ after) ∧ (∀ c ∈ before, isBlank c = true) ∧
      ∀ c ∈ after, isBlank c = true := by
  refine ⟨cs.takeWhile isBlank, ((stripLeft cs).reverse.takeWhile isBlank).reverse, ?_,
    fun c member => List.mem_takeWhile_imp member, fun c member => ?_⟩
  · have back : (strip cs) ++ ((stripLeft cs).reverse.takeWhile isBlank).reverse = stripLeft cs := by
      rw [strip, stripRight, ← List.reverse_append, List.takeWhile_append_dropWhile, List.reverse_reverse]
    rw [back, stripLeft, List.takeWhile_append_dropWhile]
  · exact List.mem_takeWhile_imp (List.mem_reverse.mp member)

theorem strip_blanks {before name after : List Char} (front : ∀ c ∈ before, isBlank c = true)
    (inner : ∀ c ∈ name, isBlank c = false) (back : ∀ c ∈ after, isBlank c = true) (some : name ≠ []) :
    strip (before ++ (name ++ after)) = name := by
  have kept : ∀ {cs more : List Char}, cs ≠ [] → (∀ c ∈ cs, isBlank c = false) →
      (cs ++ more).dropWhile isBlank = cs ++ more := by
    intro cs more some inner
    obtain ⟨c, rest, rfl⟩ := List.exists_cons_of_ne_nil some
    rw [List.cons_append, List.dropWhile_cons_of_neg (by simp [inner c List.mem_cons_self])]
  have reversed : ∀ c ∈ name.reverse, isBlank c = false := fun c member => inner c (List.mem_reverse.mp member)
  rw [strip, stripLeft, List.dropWhile_append_of_pos front, kept some inner, stripRight, List.reverse_append,
    List.dropWhile_append_of_pos fun c member => back c (List.mem_reverse.mp member)]
  have whole : (name.reverse ++ []).dropWhile isBlank = _ := kept (List.reverse_ne_nil_iff.mpr some) reversed
  rw [List.append_nil] at whole
  rw [whole, List.reverse_reverse]

end Text

namespace Response

/-! ### The media type that is understood -/

/-- Does a header name the media type that is understood? Blanks may stand around it and parameters behind it. -/
def NamesJson (header : List Char) : Prop :=
  ∃ before name after parameters, header = before ++ (name ++ after) ++ parameters ∧
    (∀ c ∈ before, Text.isBlank c = true) ∧ (∀ c ∈ after, Text.isBlank c = true) ∧
    (∀ c rest, parameters = c :: rest → c = ';') ∧ name.map Char.toLower = jsonType.toList

theorem jsonType_own : ∀ c ∈ jsonType.toList, Text.IsOwn c := by
  unfold Text.IsOwn
  have each : (jsonType.toList.all fun c => decide (c.toNat < 0x80 ∧ c.toNat ≠ 0x6B ∧ c.toNat ≠ 0)) = true := by
    decide
  exact fun c member => of_decide_eq_true (List.all_eq_true.mp each c member)

theorem names_plain {name : List Char} (same : name.map Char.toLower = jsonType.toList) {c : Char} (member : c ∈ name) :
    Text.isBlank c = false ∧ c ≠ ';' := by
  have lowered : c.toLower ∈ jsonType.toList := by
    rw [← same]
    exact List.mem_map_of_mem member
  by_cases ascii : c.toNat < 0x80
  · have each : ∀ n < 0x80, (Char.ofNat n).toLower ∈ jsonType.toList →
        Text.isBlank (Char.ofNat n) = false ∧ Char.ofNat n ≠ ';' := by decide +kernel
    have known := each c.toNat ascii
    rw [Char.ofNat_toNat] at known
    exact known lowered
  · rw [Text.toLower_other ascii] at lowered
    exact absurd (jsonType_own c lowered).1 ascii

theorem bare_eq_iff {header : List Char} : MediaType.bare header = jsonType.toList ↔ NamesJson header := by
  unfold MediaType.bare
  rw [Text.lower_eq_iff jsonType_own]
  constructor
  · intro same
    obtain ⟨before, after, split, front, back⟩ := Text.strip_split (header.takeWhile (· ≠ ';'))
    refine ⟨before, _, after, header.dropWhile (· ≠ ';'), ?_, front, back, ?_, same⟩
    · rw [← split, List.takeWhile_append_dropWhile]
    · intro c rest start
      have first := List.head?_dropWhile_not (fun c => decide (c ≠ ';')) header
      rw [start] at first
      simpa using first
  · rintro ⟨before, name, after, parameters, rfl, front, back, ends, same⟩
    have some : name ≠ [] := by
      rintro rfl
      cases same
    have blank : Text.isBlank ';' = false := by decide
    have apart : ∀ c ∈ before ++ (name ++ after), decide (c ≠ ';') = true := by
      intro c member
      rw [decide_eq_true_eq]
      rintro rfl
      rcases List.mem_append.mp member with inside | inside
      · exact absurd ((front _ inside).symm.trans blank) (by decide)
      rcases List.mem_append.mp inside with inside | inside
      · exact (names_plain same inside).2 rfl
      · exact absurd ((back _ inside).symm.trans blank) (by decide)
    have cut : (before ++ (name ++ after) ++ parameters).takeWhile (· ≠ ';') = before ++ (name ++ after) := by
      rw [List.takeWhile_append_of_pos apart]
      cases parameters with
      | nil => rw [List.takeWhile_nil, List.append_nil]
      | cons c rest =>
        rw [ends c rest rfl, List.takeWhile_cons_of_neg (by decide), List.append_nil]
    rw [cut, Text.strip_blanks front (fun c member => (names_plain same member).1) back some]
    exact same

/-- Is the body of a response in the media type that is understood? It is if no header says otherwise. -/
def IsJson (response : Response) : Prop :=
  response.header? "content-type" = none ∨ response.header? "content-type" = some "" ∨
    ∃ header, response.header? "content-type" = some header ∧ NamesJson header.toList

theorem mediaType_eq_iff (response : Response) : response.mediaType = jsonType ↔ response.IsJson := by
  have bare : ∀ header : String, String.ofList (MediaType.bare header.toList) = jsonType ↔ NamesJson header.toList := by
    intro header
    rw [← bare_eq_iff, ← String.toList_inj, String.toList_ofList]
  have own : String.ofList (MediaType.bare jsonType.toList) = jsonType := by decide +kernel
  unfold mediaType IsJson
  dsimp only
  split
  next none => simp [none, own]
  next empty => simp [empty, own]
  next header filled named =>
    have filled : header ≠ "" := filled
    simp [named, filled, bare]

end Response

end ChatWidget
