import ChatWidget.Markup.Token
import Mathlib.Data.List.TakeWhile
/-!
Reading never makes anything longer. References resolve to no more characters than they are written with, and
what stands in an attribute, with its name and the sign between the two, has room in the markup it is read from.
-/
namespace ChatWidget.Markup

/-! ### References -/

theorem named?_length {name cs : List Char} (known : named? name = some cs) : cs.length ≤ 2 := by
  -- No name in the table stands for more than two characters.
  have short : ∀ entry ∈ namedReferences, entry.2.length ≤ 2 := by decide +kernel
  have found : ∀ key : List Char, (namedReferences.lookup (String.ofList key)).map (·.map Char.ofNat) = some cs →
      cs.length ≤ 2 := by
    intro key some
    obtain ⟨codes, entry, rfl⟩ := Option.map_eq_some_iff.mp some
    obtain ⟨before, after, split, -⟩ := List.lookup_eq_some_iff.mp entry
    rw [List.length_map]
    exact short (String.ofList key, codes) (by rw [split]; simp)
  unfold named? at known
  dsimp only at known
  split at known
  · exact found _ known
  · split at known
    · exact found _ known
    · cases known

theorem longestName?_length {run cs : List Char} {size : Nat} (inside : size ≤ run.length)
    (known : longestName? run size = some cs) : cs.length ≤ run.length := by
  fun_induction longestName? run size with
  | case1 => cases known
  | case2 => cases known
  | case3 size some found named =>
    cases known
    have short := named?_length named
    have one : size ≠ 0 := some
    rw [List.length_append, List.length_drop]
    omega
  | case4 size _ _ ih => exact ih (Nat.le_of_succ_le inside) known

theorem namedRun_length {run : List Char} (some : run ≠ []) : (namedRun run).length ≤ run.length + 1 := by
  have one := List.length_pos_iff.mpr some
  unfold namedRun
  split
  next named =>
    have short := named?_length named
    omega
  next =>
    cases longest : longestName? run (run.length - 1) with
    | none => simp
    | some cs =>
      have short := longestName?_length (Nat.sub_le _ _) longest
      rw [Option.getD_some]
      omega

theorem numbered_length (n : Nat) : (numbered n).length ≤ 1 := by
  unfold numbered
  split_ifs <;> simp

theorem length_takeSemicolon {size : Nat} {cs : List Char} (inside : size ≤ cs.length) :
    size + (takeSemicolon (cs.drop size)).1.length ≤ cs.length := by
  have left := List.length_drop (i := size) (l := cs)
  unfold takeSemicolon
  split
  next begins =>
    rw [begins, List.length_cons] at left
    simp only [List.length_cons, List.length_nil]
    omega
  next => simpa using inside

/-- A reference takes no more than there is, and stands for at most one character more than it takes after the
ampersand. -/
theorem reference?_length {cs read : List Char} {size : Nat} (known : reference? cs = some (read, size)) :
    read.length ≤ size + 1 ∧ size ≤ cs.length := by
  have digits : ∀ (p : Char → Bool) (cs : List Char), (cs.takeWhile p).length ≤ cs.length :=
    fun p cs => (List.takeWhile_sublist p).length_le
  unfold reference? at known
  split at known
  next rest =>
    dsimp only at known
    split at known
    · cases known
      have short := numbered_length (numberOf 10 (rest.takeWhile Text.isDigit))
      have within := length_takeSemicolon (digits Text.isDigit rest)
      rw [List.length_cons]
      omega
    · split at known
      next x rest _ =>
        split at known
        · cases known
          have short := numbered_length (numberOf 16 (rest.takeWhile Text.isHexDigit))
          have within := length_takeSemicolon (digits Text.isHexDigit rest)
          rw [List.length_cons, List.length_cons]
          omega
        · cases known
      next => cases known
  next =>
    dsimp only at known
    split at known
    · cases known
    next some =>
      cases known
      have filled : (cs.takeWhile isNameChar).take 32 ++
          (takeSemicolon (cs.drop ((cs.takeWhile isNameChar).take 32).length)).1 ≠ [] := by
        intro empty
        rw [List.append_eq_nil_iff] at empty
        exact some (by rw [empty.1]; rfl)
      have short := namedRun_length filled
      have taken : ((cs.takeWhile isNameChar).take 32).length ≤ cs.length :=
        Nat.le_trans (List.length_take_le' _ _) (digits isNameChar cs)
      have within := length_takeSemicolon taken
      refine ⟨short, ?_⟩
      rw [List.length_append]
      exact within

theorem length_unescapeFrom (skip : Nat) (cs : List Char) (inside : skip ≤ cs.length) :
    (unescapeFrom skip cs).length + skip ≤ cs.length := by
  -- What a reference stands for is paid for by the characters it took, which are the ones to be passed over.
  fun_induction unescapeFrom skip cs with
  | case1 => simpa using inside
  | case2 skip _ rest ih =>
    have rest := ih (by simpa using inside)
    rw [List.length_cons]
    omega
  | case3 rest cs size found ih =>
    obtain ⟨short, within⟩ := reference?_length found
    have rest := ih within
    rw [List.length_append, List.length_cons]
    omega
  | case4 rest none ih =>
    have rest := ih (Nat.zero_le _)
    simp only [List.length_cons] at rest ⊢
    omega
  | case5 c rest other ih =>
    have rest := ih (Nat.zero_le _)
    simp only [List.length_cons] at rest ⊢
    omega

theorem length_unescape (cs : List Char) : (unescape cs).length ≤ cs.length :=
  length_unescapeFrom 0 cs (Nat.zero_le _)

theorem length_lowerAfter (before cs : List Char) : (Text.lowerAfter before cs).length ≤ 2 * cs.length := by
  induction cs generalizing before with
  | nil => simp [Text.lowerAfter]
  | cons c cs ih =>
    have rest := ih (c :: before)
    rw [Text.lowerAfter, List.length_append, List.length_cons]
    split_ifs
    all_goals
      simp only [List.length_cons, List.length_nil]
      omega

/-! ### Attributes -/

theorem length_dropWhile_le (p : Char → Bool) (cs : List Char) : (cs.dropWhile p).length ≤ cs.length :=
  (List.dropWhile_sublist p).length_le

theorem length_takeWhile_add (p : Char → Bool) (cs : List Char) :
    (cs.takeWhile p).length + (cs.dropWhile p).length = cs.length := by
  rw [← List.length_append, List.takeWhile_append_dropWhile]

theorem length_skipBlanks (cs : List Char) : (skipBlanks cs).length ≤ cs.length := length_dropWhile_le Text.isBlank cs

theorem length_skipFiller (cs : List Char) : (skipFiller cs).length ≤ cs.length := by
  fun_induction skipFiller cs with
  | case1 => exact Nat.le_refl _
  | case2 c rest _ _ ih => exact Nat.le_succ_of_le ih
  | case3 => exact Nat.le_refl _
  | case4 => exact Nat.le_refl _

theorem attributeName_length {before : Char} {cs name rest : List Char}
    (found : attributeName before cs = some (name, rest)) : name.length + rest.length = cs.length := by
  unfold attributeName at found
  split at found
  · cases found
  next c more =>
    dsimp only at found
    split at found
    · cases found
      have whole := length_takeWhile_add (fun c => !(Text.isBlank c || c = '/' || c = '>') && c ≠ '=') more
      simp only [List.length_cons]
      omega
    · cases found

theorem attributeValue_length {cs value rest : List Char} (found : attributeValue cs = some (value, rest)) :
    value.length + rest.length + 1 ≤ cs.length := by
  unfold attributeValue at found
  have blanks := length_skipBlanks cs
  split at found
  next more begins =>
    rw [begins, List.length_cons] at blanks
    have signs := length_takeWhile_add (fun c => decide (c = '=')) more
    have after := length_skipBlanks (more.dropWhile (fun c => decide (c = '=')))
    dsimp only at found
    split at found
    · cases found
      simp only [List.length_nil]
      omega
    next quote inner value =>
      rw [value, List.length_cons] at after
      have bare := fun cs => length_takeWhile_add (fun c => c ≠ '>' && !Text.isBlank c) cs
      split at found
      · have quoted := length_takeWhile_add (fun c => decide (c ≠ quote)) inner
        split at found
        next rest' ends =>
          cases found
          rw [ends, List.length_cons] at quoted
          omega
        next =>
          split at found
          · split at found
            · cases found
            next sign others begins' =>
              cases found
              have whole := bare (sign :: more.dropWhile (fun c => decide (c = '=')))
              rw [begins', List.length_cons] at signs
              rw [List.length_cons] at whole
              omega
          · cases found
            simp only [List.length_cons, List.length_nil]
            omega
      · cases found
        have whole := bare (quote :: inner)
        rw [List.length_cons] at whole
        omega
  · cases found

/-- Does an attribute that was read have no value, or room for its name, its value and the sign between them? -/
def Fits (room : Nat) (entry : String × String) : Prop :=
  entry.2 = "" ∨ entry.1.toList.length + 2 * entry.2.toList.length + 2 ≤ 2 * room

theorem Fits.mono {room more : Nat} {entry : String × String} (fits : Fits room entry) (le : room ≤ more) :
    Fits more entry := by
  rcases fits with blank | small
  · exact .inl blank
  · exact .inr (by omega)

theorem attributes_fit (fuel : Nat) (before : Char) (cs : List Char) :
    (∀ entry ∈ (attributes fuel before cs).1, Fits cs.length entry) ∧
      (attributes fuel before cs).2.length ≤ cs.length := by
  induction fuel generalizing before cs with
  | zero => simp [attributes]
  | succ fuel ih =>
    rw [attributes]
    cases named : attributeName before cs with
    | none => simp
    | some read =>
      obtain ⟨name, afterName⟩ := read
      dsimp only
      have nameLength := attributeName_length named
      have valueLength : ((attributeValue afterName).getD ([], afterName)).2.length ≤ afterName.length ∧
          (((attributeValue afterName).getD ([], afterName)).1 = [] ∨
            ((attributeValue afterName).getD ([], afterName)).1.length + 1 ≤ afterName.length) := by
        cases valued : attributeValue afterName with
        | none => simp
        | some read =>
          have both := attributeValue_length valued
          rw [Option.getD_some]
          omega
      generalize (attributeValue afterName).getD ([], afterName) = read at valueLength ⊢
      obtain ⟨value, afterValue⟩ := read
      obtain ⟨shorter, valueFits⟩ := valueLength
      dsimp only at shorter valueFits ⊢
      have filler := length_skipFiller afterValue
      obtain ⟨others, left⟩ := ih (lastRead before cs (skipFiller afterValue)) (skipFiller afterValue)
      refine ⟨fun entry member => ?_, by omega⟩
      rcases List.mem_cons.mp member with rfl | later
      · rcases valueFits with rfl | short
        · exact .inl rfl
        · -- A name may grow where its letters become small, and there is the factor of two for that.
          have lowered := length_lowerAfter [] name
          have resolved := length_unescape value
          right
          rw [String.toList_ofList, String.toList_ofList, Text.lower]
          omega
      · exact (others entry later).mono (by omega)

end ChatWidget.Markup
