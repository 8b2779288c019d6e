import ChatWidget.Markup.Fragment
import ChatWidget.Proofs.Entries
import ChatWidget.Proofs.Op
import ChatWidget.Proofs.Markup.Lengths
import ChatWidget.Proofs.Markup.Tag
/-!
The attributes of the elements that markup is read as. Each has been in a tag, and each that has a value has had
the room for it in the markup, behind whatever was read before.
-/
namespace ChatWidget.Markup

/-! ### Tokens -/

def Token.Holds (such : String × String → Prop) : Token → Prop
  | .opening _ attributes _ => ∀ entry ∈ attributes, such entry
  | _ => True

theorem Token.Holds.mono {such other : String × String → Prop} {token : Token} (holds : token.Holds such)
    (implies : ∀ entry, such entry → other entry) : token.Holds other := by
  cases token with
  | opening name attributes closed => exact fun entry member => implies entry (holds entry member)
  | closing name => trivial
  | text content => trivial

/-- Are the attributes of what is read all such, and is at most so much left? -/
def Construct.Leaves (such : String × String → Prop) (room : Nat) : Construct → Prop
  | .token read rest => read.Holds such ∧ rest.length ≤ room
  | .silent rest => rest.length ≤ room
  | .unfinished => True

theorem Construct.Leaves.imp {such other : String × String → Prop} {room more : Nat} {construct : Construct}
    (leaves : construct.Leaves such room) (implies : ∀ entry, such entry → other entry) (le : room ≤ more) :
    construct.Leaves other more := by
  cases construct with
  | token read rest => exact ⟨leaves.1.mono implies, Nat.le_trans leaves.2 le⟩
  | silent rest => exact Nat.le_trans leaves le
  | unfinished => trivial

theorem Construct.Leaves.mono {room more : Nat} {construct : Construct}
    (leaves : construct.Leaves (Fits room) room) (le : room ≤ more) : construct.Leaves (Fits more) more :=
  leaves.imp (fun _ fits => fits.mono le) le

theorem openingTag_leaves {such : String × String → Prop} {room : Nat} {cs : List Char}
    (read : let after := cs.dropWhile (! endsTagName ·)
      let found := attributes (skipFiller after).length
        (lastRead (((cs.takeWhile (! endsTagName ·)).getLast?).getD '<') after (skipFiller after)) (skipFiller after)
      (∀ entry ∈ found.1, such entry) ∧ found.2.length ≤ room) : (openingTag cs).Leaves such room := by
  unfold openingTag
  dsimp only at read ⊢
  obtain ⟨all, left⟩ := read
  split
  next rest ends =>
    rw [ends, List.length_cons] at left
    exact ⟨all, Nat.le_of_succ_le left⟩
  next rest ends =>
    rw [ends, List.length_cons, List.length_cons] at left
    exact ⟨all, by omega⟩
  next => trivial
  next =>
    split
    · trivial
    · exact ⟨trivial, left⟩

theorem openingTag_fits (cs : List Char) : (openingTag cs).Leaves (Fits cs.length) cs.length := by
  apply openingTag_leaves
  intro after found
  have shorter : (skipFiller after).length ≤ cs.length :=
    Nat.le_trans (length_skipFiller after) (length_dropWhile_le _ _)
  obtain ⟨fits, left⟩ := attributes_fit (skipFiller after).length
    (lastRead (((cs.takeWhile (! endsTagName ·)).getLast?).getD '<') after (skipFiller after)) (skipFiller after)
  exact ⟨fun entry member => (fits entry member).mono shorter, Nat.le_trans left shorter⟩

/-- Attributes written in front of a tag are read whatever follows them, and what is read besides fits into what
follows. -/
theorem construct?_before {name : List Char} (named : IsPlainName name) {written : List (List Char × List Char)}
    (plain : ArePlain written) (some : written ≠ []) (rest : List Char) :
    ∃ construct, construct? (name ++ (written.flatMap attributeMarkup ++ rest)) = .ok (.some construct) ∧
      construct.Leaves (fun entry => entry ∈ written.map attributeRead ∨ Fits rest.length entry) rest.length := by
  refine ⟨_, construct_named named _, ?_⟩
  have begins : ∃ after, written.flatMap attributeMarkup ++ rest = ' ' :: after := by
    obtain ⟨first, others, rfl⟩ := List.exists_cons_of_ne_nil some
    exact ⟨_, rfl⟩
  obtain ⟨after, begins⟩ := begins
  have cut := tagName_cut named (by decide : endsTagName ' ' = true) after
  rw [← begins] at cut
  apply openingTag_leaves
  rw [cut.1, cut.2]
  obtain ⟨fuel, enough⟩ := Nat.exists_eq_add_of_le (length_le_skipFiller plain rest)
  obtain ⟨last, read⟩ := attributes_before plain rest fuel _ fun some =>
    lastRead_attributes plain some ((name.getLast?).getD '<') rest
  have shorter := length_skipFiller rest
  obtain ⟨fits, left⟩ := attributes_fit fuel last (skipFiller rest)
  dsimp only
  rw [enough, read]
  refine ⟨fun entry member => ?_, Nat.le_trans left shorter⟩
  rcases List.mem_append.mp member with early | later
  · exact .inl early
  · exact .inr ((fits entry later).mono shorter)

theorem plainClosing?_length {cs name rest : List Char} (found : plainClosing? cs = some (name, rest)) :
    rest.length ≤ cs.length := by
  unfold plainClosing? at found
  have blanks := length_skipBlanks cs
  split at found
  next c more begins =>
    rw [begins, List.length_cons] at blanks
    have inName := length_dropWhile_le isClosingNameChar more
    have after := length_skipBlanks (more.dropWhile isClosingNameChar)
    split at found
    · split at found
      next ends =>
        cases found
        rw [ends, List.length_cons] at after
        omega
      next => cases found
    · cases found
  next => cases found

theorem closingTag_fits (cs : List Char) : (closingTag cs).Leaves (Fits cs.length) cs.length := by
  have next := length_dropWhile_le (fun c => decide (c ≠ '>')) cs
  unfold closingTag
  split
  · trivial
  next angle afterNext begins =>
    rw [begins, List.length_cons] at next
    have short := Nat.le_of_succ_le next
    split
    next name rest plain => exact ⟨trivial, plainClosing?_length plain⟩
    next =>
      split
      · split
        · exact ⟨trivial, short⟩
        · exact short
      · exact short

theorem afterAngle_fits (cs : List Char) : (afterAngle cs).Leaves (Fits cs.length) cs.length := by
  have next := length_dropWhile_le (fun c => decide (c ≠ '>')) cs
  unfold afterAngle
  split
  next begins =>
    rw [begins, List.length_cons] at next
    exact Nat.le_of_succ_le next
  next => trivial

theorem closedBy?_length {marks cs rest : List Char} (found : closedBy? marks cs = some rest) :
    rest.length ≤ cs.length := by
  induction marks generalizing cs with
  | nil =>
    cases found
    exact Nat.le_refl _
  | cons mark marks ih =>
    cases cs with
    | nil => cases found
    | cons c cs =>
      rw [closedBy?] at found
      split at found
      · have later := ih found
        have blanks := length_skipBlanks cs
        rw [List.length_cons]
        split at later <;> omega
      · cases found

theorem findClose?_length {closes : List Char → Option (List Char)}
    (shrinks : ∀ cs rest, closes cs = some rest → rest.length ≤ cs.length) {cs rest : List Char}
    (found : findClose? closes cs = some rest) : rest.length ≤ cs.length := by
  induction cs with
  | nil => exact shrinks _ _ found
  | cons c cs ih =>
    rw [findClose?] at found
    split at found
    next closed =>
      cases found
      exact shrinks _ _ closed
    next => exact Nat.le_succ_of_le (ih found)

theorem silentIf_fits {room : Nat} {found : Option (List Char)} (fits : ∀ rest ∈ found, rest.length ≤ room) :
    (silentIf found).Leaves (Fits room) room := by
  cases found with
  | none => trivial
  | some rest => exact fits rest rfl

theorem afterComment?_length {cs rest : List Char} (found : afterComment? cs = some rest) :
    rest.length ≤ cs.length := by
  refine findClose?_length ?_ found
  intro cs rest closed
  split at closed
  next more =>
    have blanks := length_skipBlanks more
    have closing := closedBy?_length closed
    simp only [List.length_cons]
    omega
  next => cases closed

theorem markedSection_fits {cs : List Char} {construct : Construct} (found : markedSection cs = .ok construct) :
    construct.Leaves (Fits cs.length) cs.length := by
  unfold markedSection at found
  dsimp only at found
  split at found
  · cases found
    trivial
  · split_ifs at found
    · cases found
      trivial
    · cases found
      exact silentIf_fits fun rest closed => findClose?_length (fun _ _ => closedBy?_length) closed
    · cases found
      exact silentIf_fits fun rest closed => findClose?_length (fun _ _ => closedBy?_length) closed

theorem construct?_fits {cs : List Char} {construct : Construct} (found : construct? cs = .ok (some construct)) :
    construct.Leaves (Fits cs.length) cs.length := by
  unfold construct? at found
  split at found
  next rest =>
    cases found
    exact (closingTag_fits rest).mono (Nat.le_succ _)
  next rest =>
    cases found
    exact silentIf_fits fun after closed => Nat.le_trans (afterComment?_length closed) (by simp; omega)
  next rest =>
    cases found
    exact (afterAngle_fits rest).mono (Nat.le_succ _)
  next rest =>
    cases section? : markedSection rest with
    | error fault =>
      rw [section?] at found
      cases found
    | ok inner =>
      rw [section?] at found
      cases found
      exact (markedSection_fits section?).mono (by simp; omega)
  next rest _ _ =>
    cases found
    exact (afterAngle_fits rest).mono (Nat.le_succ _)
  next c rest _ _ _ _ _ =>
    split at found
    · cases found
      exact openingTag_fits _
    · cases found
  next => cases found

theorem unfinishedText_length (cs : List Char) : (unfinishedText cs).2.length ≤ cs.length := by
  have next := length_dropWhile_le (fun c => decide (c ≠ '>')) cs
  have tag := length_dropWhile_le (fun c => decide (c ≠ '<')) cs
  unfold unfinishedText
  split
  next begins =>
    rw [begins, List.length_cons] at next
    exact Nat.le_of_succ_le next
  next =>
    split
    · exact Nat.le_refl _
    · exact tag

/-- What is read as text because it has no end goes on at least to the next `>`. -/
theorem unfinishedText_past {front rest : List Char} (inside : '>' ∉ front) (ends : '>' ∈ rest) :
    (unfinishedText (front ++ rest)).2.length + 1 ≤ rest.length := by
  have passed : (front ++ rest).dropWhile (fun c => decide (c ≠ '>')) = rest.dropWhile (fun c => decide (c ≠ '>')) :=
    List.dropWhile_append_of_pos fun c member => decide_eq_true fun same => inside (same ▸ member)
  have shorter := length_dropWhile_le (fun c => decide (c ≠ '>')) rest
  unfold unfinishedText
  rw [passed]
  split
  next begins =>
    rw [begins, List.length_cons] at shorter
    exact shorter
  next none =>
    exact absurd (List.dropWhile_eq_nil_iff.mp none '>' ends) (by decide)

theorem beforeClosingTag?_length {name cs text tag : List Char} (found : beforeClosingTag? name cs = some (text, tag)) :
    tag.length ≤ cs.length := by
  induction cs generalizing text with
  | nil => cases found
  | cons c cs ih =>
    rw [beforeClosingTag?] at found
    split at found
    · cases found
      exact Nat.le_refl _
    · obtain ⟨⟨inner, after⟩, later, same⟩ := Option.map_eq_some_iff.mp found
      cases same
      exact Nat.le_succ_of_le (ih later)

theorem rawContent_holds (name : List Char) (fuel : Nat) (cs : List Char) (such : String × String → Prop) :
    (∀ token ∈ (rawContent name fuel cs).1, token.Holds such) ∧ (rawContent name fuel cs).2.length ≤ cs.length := by
  induction fuel generalizing cs with
  | zero => simp [rawContent]
  | succ fuel ih =>
    rw [rawContent]
    cases found : beforeClosingTag? name cs with
    | none => simp
    | some read =>
      obtain ⟨text, tag⟩ := read
      have inside := beforeClosingTag?_length found
      have piece : ∀ token ∈ (if text.isEmpty then [] else [Token.text (String.ofList text)]), token.Holds such := by
        split <;> simp [Token.Holds]
      dsimp only
      split
      next closing rest plain =>
        have after := plainClosing?_length plain
        rw [List.length_drop] at after
        refine ⟨fun token member => ?_, by dsimp only; omega⟩
        rcases List.mem_append.mp member with first | last
        · exact piece token first
        · rw [List.mem_singleton.mp last]
          trivial
      next =>
        have next := length_dropWhile_le (fun c => decide (c ≠ '>')) tag
        obtain ⟨others, left⟩ := ih ((tag.dropWhile (· ≠ '>')).drop 1)
        rw [List.length_drop] at left
        refine ⟨fun token member => ?_, by dsimp only; omega⟩
        rcases List.mem_append.mp member with first | later
        · exact piece token first
        · rcases List.mem_cons.mp later with rfl | more
          · trivial
          · exact others token more

/-- What is read from a mark that may begin a construct, and what remains. Besides the construct's own token there are
at most texts and a closing tag. -/
inductive Begins (cs : List Char) : List Token → List Char → Prop
  | bare (read : construct? cs = .ok none) : Begins cs [.text "<"] cs
  | silent {after : List Char} (read : construct? cs = .ok (some (.silent after))) : Begins cs [] after
  | unfinished (read : construct? cs = .ok (some .unfinished)) (text : String) :
      Begins cs [.text text] (unfinishedText cs).2
  | token {token : Token} {rest after : List Char} {content : List Token}
      (read : construct? cs = .ok (some (.token token rest))) (plain : ∀ token ∈ content, ∀ such, token.Holds such)
      (shorter : after.length ≤ rest.length) : Begins cs (token :: content) after

theorem tokensWithin_begins {fuel : Nat} {cs : List Char} {tokens : List Token}
    (read : tokensWithin (fuel + 1) ('<' :: cs) = .ok tokens) :
    ∃ first after others, Begins cs first after ∧ tokensWithin fuel after = .ok others ∧ tokens = first ++ others := by
  rw [tokensWithin] at read
  obtain ⟨found, begins, read⟩ := bind_ok read
  split at read
  next =>
    obtain ⟨others, later, read⟩ := bind_ok read
    cases read
    exact ⟨_, _, others, .bare begins, later, rfl⟩
  next after => exact ⟨_, _, tokens, .silent begins, read, rfl⟩
  next =>
    obtain ⟨others, later, read⟩ := bind_ok read
    cases read
    exact ⟨_, _, others, .unfinished begins _, later, rfl⟩
  next name attributes rest =>
    have plain : (∀ token ∈ (if isRawTag name then rawContent name.toList (rest.length + 1) rest else ([], rest)).1,
          ∀ such, token.Holds such) ∧
        (if isRawTag name then rawContent name.toList (rest.length + 1) rest else ([], rest)).2.length ≤
          rest.length := by
      split
      · exact ⟨fun token member such => (rawContent_holds _ _ _ such).1 token member,
          (rawContent_holds _ _ _ fun _ => True).2⟩
      · exact ⟨by simp, Nat.le_refl _⟩
    generalize (if isRawTag name then rawContent name.toList (rest.length + 1) rest else ([], rest)) = raw at read plain
    obtain ⟨content, after⟩ := raw
    obtain ⟨others, later, read⟩ := bind_ok read
    cases read
    exact ⟨_, after, others, .token begins plain.1 plain.2, later, rfl⟩
  next token rest _ =>
    obtain ⟨others, later, read⟩ := bind_ok read
    cases read
    exact ⟨[token], rest, others, .token begins (fun _ member => absurd member List.not_mem_nil) (Nat.le_refl _), later,
      rfl⟩

-- The bound is a parameter: behind a tag that is known in part less is left than the whole of its length.
theorem Begins.leaves {cs after : List Char} {first : List Token} (begins : Begins cs first after)
    {such : String × String → Prop} {room : Nat} (bare : construct? cs = .ok none → cs.length ≤ room)
    (unfinished : (unfinishedText cs).2.length ≤ room)
    (read : ∀ construct, construct? cs = .ok (some construct) → construct.Leaves such room) :
    (∀ token ∈ first, token.Holds such) ∧ after.length ≤ room := by
  cases begins with
  | bare none => exact ⟨by simp [Token.Holds], bare none⟩
  | silent silent => exact ⟨by simp, read _ silent⟩
  | unfinished _ text => exact ⟨by simp [Token.Holds], unfinished⟩
  | token opened plain shorter =>
    obtain ⟨holds, left⟩ := read _ opened
    refine ⟨fun token member => ?_, Nat.le_trans shorter left⟩
    rcases List.mem_cons.mp member with rfl | inside
    · exact holds
    · exact plain token inside such

theorem Begins.fits {cs after : List Char} {first : List Token} (begins : Begins cs first after) :
    (∀ token ∈ first, token.Holds (Fits cs.length)) ∧ after.length ≤ cs.length :=
  begins.leaves (fun _ => Nat.le_refl _) (unfinishedText_length cs) fun _ => construct?_fits

/-- Every attribute that is read has had its room in the markup. -/
theorem tokensWithin_fits {fuel : Nat} {cs : List Char} {tokens : List Token}
    (read : tokensWithin fuel cs = .ok tokens) : ∀ token ∈ tokens, token.Holds (Fits cs.length) := by
  induction fuel generalizing cs tokens with
  | zero =>
    rw [tokensWithin] at read
    cases read
    simp
  | succ fuel ih =>
    by_cases tag : ∃ rest, cs = '<' :: rest
    · obtain ⟨rest, rfl⟩ := tag
      obtain ⟨first, after, others, begins, later, rfl⟩ := tokensWithin_begins read
      obtain ⟨fits, left⟩ := begins.fits
      intro token member
      rcases List.mem_append.mp member with early | late
      · exact (fits token early).mono fun _ fits => fits.mono (Nat.le_succ _)
      · exact (ih later token late).mono fun _ fits => fits.mono (Nat.le_succ_of_le left)
    · cases cs with
      | nil =>
        rw [tokensWithin] at read
        · cases read
          simp
        · exact Nat.succ_ne_zero fuel
      | cons c rest =>
        rw [tokensWithin] at read
        · obtain ⟨others, later, read⟩ := bind_ok read
          cases read
          intro token member
          rcases List.mem_cons.mp member with rfl | late
          · trivial
          · exact (ih later token late).mono fun _ fits => fits.mono (length_dropWhile_le _ _)
        · exact List.cons_ne_nil c rest
        · exact fun rest same => tag ⟨rest, same⟩

/-! ### Nodes -/

namespace Building

/-- Are the attributes of all nodes that are there all such? The root itself is none of them. -/
def Holds (such : String × String → Prop) (building : Building) : Prop :=
  ∀ node ∈ building.path ++ building.root.children, ∀ entry ∈ node.attributes, such entry

variable {such : String × String → Prop} {building : Building}

/-- A change of the innermost open element that leaves its attributes alone. Where none is open it is made to the
root, whose children are nodes that are there. -/
theorem Holds.onInnermost (holds : building.Holds such) {change : Node → Node}
    (kept : ∀ node, (change node).attributes = node.attributes)
    (children : ∀ child ∈ (change building.root).children,
      child ∈ building.root.children ∨ ∀ entry ∈ child.attributes, such entry) :
    (building.onInnermost change).Holds such := by
  obtain ⟨root, path⟩ := building
  cases path with
  | nil =>
    intro child member
    rcases children child member with known | new
    · exact holds child known
    · exact new
  | cons innermost path =>
    intro other member
    rcases List.mem_cons.mp member with rfl | further
    · rw [kept]
      exact holds innermost List.mem_cons_self
    · exact holds other (List.mem_cons_of_mem _ further)

theorem Holds.add (holds : building.Holds such) {node : Node} (all : ∀ entry ∈ node.attributes, such entry) :
    (building.onInnermost (·.add node)).Holds such := by
  refine holds.onInnermost (fun _ => rfl) ?_
  intro child member
  rcases List.mem_append.mp member with known | new
  · exact .inl known
  · rw [List.mem_singleton.mp new]
    exact .inr all

theorem Holds.addText (holds : building.Holds such) (text : String) :
    (building.onInnermost (·.addText text)).Holds such :=
  holds.onInnermost (fun _ => rfl) fun _ known => .inl known

theorem Holds.closeMany (holds : building.Holds such) (n : Nat) : (building.closeMany n).Holds such := by
  induction n generalizing building with
  | zero => exact holds
  | succ n ih =>
    refine ih ?_
    obtain ⟨root, path⟩ := building
    cases path with
    | nil => exact holds
    | cons innermost path =>
      have others : Holds such ⟨root, path⟩ := fun other member => holds other (List.mem_cons_of_mem _ member)
      exact others.add (holds innermost List.mem_cons_self)

theorem Holds.take (holds : building.Holds such) {token : Token} (all : token.Holds such) :
    (building.take token).Holds such := by
  cases token with
  | opening name attributes closed =>
    have written : ∀ entry ∈ (Node.ofTag name attributes).attributes, such entry := fun entry member =>
      all entry (Entries.mem_ofWrites (List.mem_of_mem_filter member))
    unfold Building.take
    dsimp only
    split
    · exact holds.add written
    · intro node member
      rcases List.mem_cons.mp member with rfl | known
      · exact written
      · exact holds node known
  | closing name =>
    unfold Building.take
    dsimp only
    split
    · exact holds.closeMany _
    · exact holds
  | text content =>
    unfold Building.take
    dsimp only
    split
    · exact holds
    · exact holds.addText content

theorem Holds.takeAll (holds : building.Holds such) {tokens : List Token} (all : ∀ token ∈ tokens, token.Holds such) :
    (tokens.foldl Building.take building).Holds such := by
  induction tokens generalizing building with
  | nil => exact holds
  | cons token tokens ih =>
    exact ih (holds.take (all token List.mem_cons_self)) fun later member => all later (List.mem_cons_of_mem _ member)

end Building

/-- An element has no attribute that no tag has. -/
theorem parse_holds {such : String × String → Prop} {markup : String} {node : Node} (parsed : parse markup = .ok node)
    (all : ∀ ts, tokens markup = .ok ts → ∀ token ∈ ts, token.Holds such) : ∀ entry ∈ node.attributes, such entry := by
  obtain ⟨root, fragmented, parsed⟩ := bind_ok parsed
  obtain ⟨ts, read, fragmented⟩ := bind_ok fragmented
  cases fragmented
  have holds : (Building.closeMany (ts.foldl Building.take Building.start).path.length
      (ts.foldl Building.take Building.start)).Holds such :=
    (Building.Holds.takeAll (fun node member => absurd member List.not_mem_nil) (all ts read)).closeMany _
  split at parsed
  next first others children =>
    cases parsed
    exact holds node (List.mem_append_right _ (by rw [← Building.finish, children]; exact List.mem_cons_self))
  next => cases parsed

end ChatWidget.Markup
