import ChatWidget.Proofs.Json.RoundTrip
import ChatWidget.Proofs.Net.Service
/-!
The marks that end the path of an address stand nowhere before its query: schemes, names of users and of hosts,
ports and paths in normal form hold none of them. A query in normal form may hold question marks but no number
sign, so in the text of an address it is what stands between the first question mark and the number sign that
may follow.
-/
namespace ChatWidget

/-! ### Texts without marks -/

theorem HasNoMarks.subset {part whole : List Char} (noMarks : HasNoMarks whole) (inside : part ⊆ whole) :
    HasNoMarks part := fun c member => noMarks c (inside member)

theorem HasNoMarks.append {first second : List Char} (before : HasNoMarks first) (after : HasNoMarks second) :
    HasNoMarks (first ++ second) := fun c member => (List.mem_append.mp member).elim (before c) (after c)

theorem hasNoMarks_nil : HasNoMarks [] := nofun

theorem HasNoMarks.of_sort (sort : Char → Bool) (question : sort '?' = false) (number : sort '#' = false)
    {cs : List Char} (all : ∀ c ∈ cs, sort c = true) : HasNoMarks cs := by
  intro c member mark
  have kept := all c member
  simp only [List.mem_cons, List.not_mem_nil, or_false] at mark
  rcases mark with rfl | rfl
  · exact Bool.false_ne_true (question.symm.trans kept)
  · exact Bool.false_ne_true (number.symm.trans kept)

theorem HasNoMarks.of_all {cs : List Char} (all : cs.all (fun c => c != '?' && c != '#') = true) : HasNoMarks cs :=
  .of_sort _ rfl rfl (List.all_eq_true.mp all)

/-- A text in percent coding holds the characters that are kept and those that the codes are written with. -/
theorem Text.mem_percentEncode {keep : Char → Bool} {c : Char} {cs : List Char}
    (member : c ∈ Text.percentEncode keep cs) : keep c = true ∨ Text.isSegmentChar c = true := by
  obtain ⟨d, -, member⟩ := List.mem_flatMap.mp member
  split at member
  next kept => exact .inl (List.mem_singleton.mp member ▸ kept)
  next => exact .inr (Text.isSegmentChar_percentChar d c member)

theorem HasNoMarks.percentEncode {keep : Char → Bool} (question : keep '?' = false) (number : keep '#' = false)
    (cs : List Char) : HasNoMarks (Text.percentEncode keep cs) := by
  refine .of_sort (fun c => keep c || Text.isSegmentChar c) ?_ ?_ fun c member => ?_
  · rw [question]
    rfl
  · rw [number]
    rfl
  · rw [Bool.or_eq_true]
    exact Text.mem_percentEncode member

theorem hasNoMarks_toString (value : Int) : HasNoMarks (toString value).toList := by
  refine .of_sort (fun c => c = '-' || Text.isDigit c) rfl rfl fun c member => ?_
  rw [Json.toString_int] at member
  rw [Bool.or_eq_true, decide_eq_true_eq]
  rcases List.mem_append.mp member with sign | digit
  · split at sign
    next => exact .inl (List.mem_singleton.mp sign)
    next => cases sign
  · exact .inr (Json.isDigit_toDigits digit)

theorem HasNoMarks.joinWith {separator : List Char} (between : HasNoMarks separator) {pieces : List (List Char)}
    (each : ∀ piece ∈ pieces, HasNoMarks piece) : HasNoMarks (Text.joinWith separator pieces) := by
  intro c member
  rcases Text.mem_joinWith member with inside | ⟨piece, known, inside⟩
  · exact between c inside
  · exact each piece known c inside

/-! ### Hosts -/

namespace Host

theorem labelDigit_noMark : ∀ n < 36, labelDigit n ∉ ['?', '#'] := by decide

theorem threshold_le (bias k : Nat) : threshold bias k ≤ 26 := by
  unfold threshold
  split_ifs
  all_goals omega

theorem labelNumber_noMarks (bias k n : Nat) : HasNoMarks (labelNumber bias k n) := by
  have most := threshold_le bias k
  fun_induction labelNumber bias k n with
  | case1 k n last =>
    intro c member
    rw [List.mem_singleton.mp member]
    exact labelDigit_noMark n (by omega)
  | case2 k n more past ih =>
    intro c member
    rcases List.mem_cons.mp member with rfl | later
    · have part : past % (36 - threshold bias k) < 36 - threshold bias k := Nat.mod_lt _ (by omega)
      exact labelDigit_noMark _ (by omega)
    · exact ih (threshold_le bias _) c later

theorem writeCodePoint_noMarks {basic n : Nat} {label : List Nat} {state : LabelState}
    (noMarks : HasNoMarks state.written) : HasNoMarks (writeCodePoint basic n label state).written := by
  unfold writeCodePoint
  induction label generalizing state with
  | nil => exact noMarks
  | cons c label ih =>
    rw [List.foldl_cons]
    apply ih
    split_ifs
    · exact noMarks
    · exact noMarks.append (labelNumber_noMarks _ _ _)
    · exact noMarks

theorem encodeLabel_noMarks {label : List Char} (noMarks : HasNoMarks label) : HasNoMarks (encodeLabel label) := by
  have written : ∀ (others codes : List Nat) (basic : Nat) (start : Nat × LabelState),
      HasNoMarks start.2.written →
      HasNoMarks (others.foldl (fun (entry : Nat × LabelState) n =>
        let state := { entry.2 with delta := entry.2.delta + (n - entry.1) * (entry.2.handled + 1) }
        let state := writeCodePoint basic n codes state
        (n + 1, { state with delta := state.delta + 1 })) start).2.written := by
    intro others codes basic
    induction others with
    | nil => exact fun start known => known
    | cons n others ih =>
      intro start known
      rw [List.foldl_cons]
      exact ih _ (writeCodePoint_noMarks known)
  have basics : HasNoMarks (label.filter (·.toNat < 0x80)) := noMarks.subset (List.filter_subset_self _)
  have hyphen : HasNoMarks ['-'] := .of_all rfl
  have front : HasNoMarks "xn--".toList := .of_all rfl
  unfold encodeLabel
  refine (front.append ?_).append (written _ _ _ _ hasNoMarks_nil)
  split
  next => exact hasNoMarks_nil
  next => exact basics.append hyphen

theorem label?_noMarks {label name : List Char} (made : label? label = some name) : HasNoMarks name := by
  unfold label? at made
  split at made
  next => cases made
  next good =>
    simp only [Bool.or_eq_true, not_or, Bool.not_eq_true, List.any_eq_false] at good
    have noMarks : HasNoMarks label :=
      .of_sort (fun c => !isBarred c) (by decide) (by decide) fun c member => by
        rw [Bool.not_eq_true']
        simpa using good.1.1.1.1.2 c member
    dsimp only at made
    split_ifs at made
    · cases made
      exact noMarks
    · cases made
      exact encodeLabel_noMarks noMarks

theorem international?_noMarks {cs name : List Char} (made : international? cs = some name) : HasNoMarks name := by
  have dot : HasNoMarks ['.'] := .of_all rfl
  have labels : ∀ (parts named : List (List Char)), parts.mapM label? = some named →
      ∀ label ∈ named, HasNoMarks label := by
    intro parts
    induction parts with
    | nil =>
      intro named all
      cases all
      exact nofun
    | cons part parts ih =>
      intro named all
      rw [List.mapM_cons] at all
      obtain ⟨first, made, all⟩ := Option.bind_eq_some_iff.mp all
      obtain ⟨others, rest, all⟩ := Option.bind_eq_some_iff.mp all
      cases all
      intro label member
      rcases List.mem_cons.mp member with rfl | later
      · exact label?_noMarks made
      · exact ih others rest label later
  have whole : ∀ (parts : List (List Char)) (ending : List Char), HasNoMarks ending →
      (if parts.isEmpty then none
        else (parts.mapM label?).map fun labels => Text.joinWith ['.'] labels ++ ending) = some name →
      HasNoMarks name := by
    intro parts ending last made
    split at made
    next => cases made
    next =>
      obtain ⟨named, all, rfl⟩ := Option.map_eq_some_iff.mp made
      exact (HasNoMarks.joinWith dot (labels _ _ all)).append last
  unfold international? at made
  dsimp only at made
  split at made
  next => exact whole _ _ dot made
  next => exact whole _ _ hasNoMarks_nil made

theorem normal_noMarks {cs host : List Char} (noMarks : HasNoMarks cs) (named : normal cs = .ok host) :
    HasNoMarks host := by
  unfold normal at named
  dsimp only at named
  split_ifs at named
  · cases named
    exact hasNoMarks_nil
  · cases named
    exact noMarks
  · cases named
    exact noMarks.subset fun c member => List.mem_of_mem_drop ((List.dropLast_sublist _).mem member)
  · cases named
    exact .percentEncode (by decide) (by decide) _
  · split at named
    next name made =>
      cases named
      exact international?_noMarks made
    next => cases named

end Host

/-! ### Addresses -/

namespace RequestUrl

/-- Nothing before the query of an address holds a mark. -/
structure IsClear (url : RequestUrl) : Prop where
  scheme : ∀ c ∈ url.scheme, isSchemeChar c = true
  userInfo : HasNoMarks url.userInfo
  host : HasNoMarks url.host
  path : HasNoMarks url.path

theorem isSchemeChar_ascii {c : Char} (good : isSchemeChar c = true) : c.toNat < 0x80 := by
  simp only [isSchemeChar, Text.isLetter, Text.isDigit, Bool.or_eq_true, Bool.and_eq_true, decide_eq_true_eq] at good
  rcases good with ((((letter | letter) | digit) | rfl) | rfl) | rfl
  · omega
  · omega
  · omega
  all_goals decide

theorem isSchemeChar_lower {scheme : List Char} (good : ∀ c ∈ scheme, isSchemeChar c = true) :
    ∀ c ∈ Text.lower scheme, isSchemeChar c = true := by
  have each : ∀ n < 0x80, isSchemeChar (Char.ofNat n) = true →
      isSchemeChar (Text.lowerChar (Char.ofNat n)) = true := by decide +kernel
  have after : ∀ before, ∀ c ∈ Text.lowerAfter before scheme, isSchemeChar c = true := by
    induction scheme with
    | nil => exact fun _ => nofun
    | cons first rest ih =>
      intro before c member
      have ascii := isSchemeChar_ascii (good first List.mem_cons_self)
      have dotted : first.toNat ≠ 0x130 := by omega
      have sigma : first.toNat ≠ 0x3A3 := by omega
      rw [Text.lowerAfter, if_neg dotted, if_neg sigma] at member
      rcases List.mem_cons.mp member with rfl | later
      · have small := each first.toNat ascii
        rw [Char.ofNat_toNat] at small
        exact small (good first List.mem_cons_self)
      · exact ih (fun d inside => good d (List.mem_cons_of_mem _ inside)) _ c later
  exact after []

theorem splitAuthority_subset (authority : List Char) : (splitAuthority authority).2.1 ⊆ authority := by
  unfold splitAuthority
  intro c member
  have inTail := List.mem_of_mem_take member
  rw [List.mem_reverse] at inTail
  exact List.mem_reverse.mp ((List.takeWhile_sublist _).mem inTail)

theorem ofWritten_clear {written : Written} {url : RequestUrl}
    (scheme : ∀ c ∈ written.scheme, isSchemeChar c = true) (authority : HasNoMarks written.authority)
    (read : ofWritten written = .ok url) : url.IsClear := by
  obtain ⟨host, port, hosted, -, -, rfl⟩ := ofWritten_ok_iff.mp read
  exact {
    scheme := isSchemeChar_lower scheme
    userInfo := .percentEncode (by decide) (by decide) _
    host := Host.normal_noMarks (authority.subset (splitAuthority_subset _)) hosted
    path := .percentEncode (by decide) (by decide) _ }

namespace IsClear

variable {url asked : RequestUrl}

theorem authority (clear : url.IsClear) : HasNoMarks url.authority := by
  have user : HasNoMarks ['@'] := .of_all rfl
  have colon : HasNoMarks [':'] := .of_all rfl
  have closing : HasNoMarks [']'] := .of_all rfl
  have opening : HasNoMarks ['['] := .of_all rfl
  unfold RequestUrl.authority hostText
  refine HasNoMarks.append ?_ (HasNoMarks.append ?_ ?_)
  · split
    next => exact hasNoMarks_nil
    next => exact clear.userInfo.append user
  · split
    next => exact (opening.append clear.host).append closing
    next => exact clear.host
  · split
    next port _ => exact colon.append (hasNoMarks_toString port)
    next => exact hasNoMarks_nil

theorem withQuery (clear : url.IsClear) {query : List Char} (done : url.withQuery query = .ok asked) :
    asked.IsClear :=
  ofWritten_clear clear.scheme clear.authority done

theorem forRequest (clear : url.IsClear) (done : url.forRequest = .ok asked) : asked.IsClear := by
  unfold RequestUrl.forRequest at done
  split at done
  next =>
    cases done
    exact clear
  next =>
    refine ofWritten_clear ?_ hasNoMarks_nil done
    exact nofun

/-- Before its query the text of an address has no marks. -/
theorem text_front (clear : url.IsClear) {query : List Char} (asks : url.query = some query) :
    ∃ front, HasNoMarks front ∧ url.text = front ++ '?' :: query ++
      (match url.fragment with | some fragment => '#' :: fragment | none => []) := by
  have colon : HasNoMarks [':'] := .of_all rfl
  have slashes : HasNoMarks ['/', '/'] := .of_all rfl
  have scheme : HasNoMarks url.scheme := .of_sort _ (by decide) (by decide) clear.scheme
  refine ⟨(if url.scheme.isEmpty then [] else url.scheme ++ [':']) ++
    (if url.authority.isEmpty then [] else '/' :: '/' :: url.authority) ++ url.path, ?_, ?_⟩
  · refine HasNoMarks.append (HasNoMarks.append ?_ ?_) clear.path
    · split
      next => exact hasNoMarks_nil
      next => exact scheme.append colon
    · split
      next => exact hasNoMarks_nil
      next => exact slashes.append clear.authority
  · cases url
    cases asks
    rfl

end IsClear

theorem parse_clear {cs : List Char} {url : RequestUrl} (read : parse cs = .ok url) : url.IsClear := by
  refine ofWritten_clear ?_ ?_ (parse_ok read).2
  · rw [Written.ofText_eq]
    intro c member
    have some : (schemeCut cs).1 ≠ [] := List.ne_nil_of_mem member
    obtain ⟨-, -, first, more, start, good⟩ := schemeCut_some some
    rw [Bool.and_eq_true] at good
    change c ∈ (schemeCut cs).1 at member
    rw [start] at member
    rcases List.mem_cons.mp member with rfl | later
    · unfold isSchemeChar
      rw [good.1]
      rfl
    · exact List.all_eq_true.mp good.2 c later
  · rw [Written.ofText_eq]
    change HasNoMarks (authorityCut _).1
    unfold authorityCut
    split
    next rest =>
      intro c member mark
      exact cutAt_before c member (List.mem_cons_of_mem _ mark)
    next => exact hasNoMarks_nil

theorem cutAt_mark {mark : Char} {before : List Char} (none : mark ∉ before) (rest : List Char) :
    cutAt [mark] (before ++ mark :: rest) = (before, mark :: rest) := by
  apply cutAt_append
  · intro c member is
    exact none (List.mem_singleton.mp is ▸ member)
  · intro c others start
    rw [(List.cons.inj start).1.symm]
    exact List.mem_singleton_self _

/-- The query in the text of an address: what stands between the first question mark and the number sign. -/
def queryOf (cs : List Char) : List Char := (cutAt ['?'] (cutAt ['#'] cs).1).2.drop 1

theorem queryOf_text {url : RequestUrl} (clear : url.IsClear) {query : List Char} (asks : url.query = some query)
    (noFragment : '#' ∉ query) : queryOf url.text = query := by
  obtain ⟨front, noMarks, text⟩ := clear.text_front asks
  have upToFragment : (cutAt ['#'] url.text).1 = front ++ '?' :: query := by
    rw [text, cutAt_append]
    · intro c member mark
      rw [List.mem_singleton.mp mark] at member
      rcases List.mem_append.mp member with inFront | behind
      · exact noMarks '#' inFront (by decide)
      · rcases List.mem_cons.mp behind with other | inQuery
        · cases other
        · exact noFragment inQuery
    · intro c rest start
      split at start
      next =>
        rw [(List.cons.inj start).1.symm]
        exact List.mem_singleton_self _
      next => cases start
  have noQuestion : '?' ∉ front := fun member => noMarks '?' member List.mem_cons_self
  rw [queryOf, upToFragment, cutAt_mark noQuestion]
  rfl

end RequestUrl

end ChatWidget
