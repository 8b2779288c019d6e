import ChatWidget.Widget.Fragments
import ChatWidget.Proofs.Markup.Reading
import ChatWidget.Proofs.Markup.Room
/-!
What the link to a stylesheet is read back as. The address is put into the markup as it is, so the link is
one element with the address for an attribute as long as no quote ends that attribute early; references in
the address are resolved on the way. A quote does end it early, and behind it no room is left for the whole
address, however the rest is read.
-/
namespace ChatWidget.Stylesheet

/-- The link to a stylesheet as a node. -/
def node (id address : String) : Markup.Node :=
  ⟨"link", [("id", id), ("rel", "stylesheet"), ("type", "text/css"), ("href", address)], [], "", []⟩

/-- The attributes of a link as they are written. -/
def written (id address : String) : List (List Char × List Char) :=
  [("id".toList, id.toList), ("rel".toList, "stylesheet".toList), ("type".toList, "text/css".toList),
    ("href".toList, address.toList)]

theorem toList_link (id address : String) :
    (link id address).toList =
      '<' :: ("link".toList ++ ((written id address).flatMap Markup.attributeMarkup ++ Markup.tagEnd true [])) := by
  have front : "<link id=\"".toList = '<' :: ("link".toList ++ ' ' :: ("id".toList ++ ['=', '"'])) := rfl
  have middle : "\" rel=\"stylesheet\" type=\"text/css\" href=\"".toList =
      '"' :: ' ' :: ("rel".toList ++ '=' :: '"' :: ("stylesheet".toList ++ '"' :: ' ' ::
        ("type".toList ++ '=' :: '"' :: ("text/css".toList ++ '"' :: ' ' :: ("href".toList ++ ['=', '"']))))) :=
    rfl
  have back : "\"/>".toList = ['"', '/', '>'] := rfl
  change ("<link id=\"" ++ id ++ "\" rel=\"stylesheet\" type=\"text/css\" href=\"" ++ address ++ "\"/>").toList = _
  simp only [String.toList_append, front, middle, back, written, Markup.attributeMarkup, Markup.tagEnd,
    List.flatMap_cons, List.flatMap_nil, List.append_assoc, List.cons_append, List.nil_append, if_true]

theorem isPlainName_link : Markup.IsPlainName "link".toList :=
  ⟨'l', ['i', 'n', 'k'], rfl, by decide, List.all_eq_true.mp (by decide)⟩

theorem written_plain {id address : String} (idUnquoted : '"' ∉ id.toList) (unquoted : '"' ∉ address.toList) :
    Markup.ArePlain (written id address) := by
  have isId : Markup.IsPlainName "id".toList := ⟨'i', ['d'], rfl, by decide, List.all_eq_true.mp (by decide)⟩
  have isRel : Markup.IsPlainName "rel".toList :=
    ⟨'r', ['e', 'l'], rfl, by decide, List.all_eq_true.mp (by decide)⟩
  have isType : Markup.IsPlainName "type".toList :=
    ⟨'t', ['y', 'p', 'e'], rfl, by decide, List.all_eq_true.mp (by decide)⟩
  have isHref : Markup.IsPlainName "href".toList :=
    ⟨'h', ['r', 'e', 'f'], rfl, by decide, List.all_eq_true.mp (by decide)⟩
  intro pair member
  simp only [written, List.mem_cons, List.not_mem_nil, or_false] at member
  rcases member with rfl | rfl | rfl | rfl
  · exact ⟨isId, idUnquoted⟩
  · exact ⟨isRel, by decide⟩
  · exact ⟨isType, by decide⟩
  · exact ⟨isHref, unquoted⟩

theorem written_read {id : String} (literal : Markup.unescape id.toList = id.toList) (address : String) :
    (written id address).map Markup.attributeRead =
      [("id", id), ("rel", "stylesheet"), ("type", "text/css"),
        ("href", String.ofList (Markup.unescape address.toList))] := by
  have rel : Markup.unescape "stylesheet".toList = "stylesheet".toList := by decide
  have type : Markup.unescape "text/css".toList = "text/css".toList := by decide
  simp only [written, Markup.attributeRead, List.map_cons, List.map_nil, literal, rel, type, String.ofList_toList]

theorem ofTag_link (id address : String) :
    Markup.Node.ofTag "link"
      [("id", id), ("rel", "stylesheet"), ("type", "text/css"), ("href", address)] = node id address := by
  simp [Markup.Node.ofTag, Markup.lowered_plain isPlainName_link, Entries.ofWrites, Entries.putAll, Entries.put,
    Entries.erase, Entries.get?, String.blankSeparated, Text.words, node]

/-- A link reads as one element, unless a quote in the address ends the attribute for it. -/
theorem parse_link {id address : String} (idUnquoted : '"' ∉ id.toList)
    (literal : Markup.unescape id.toList = id.toList) (unquoted : '"' ∉ address.toList) :
    Markup.parse (link id address) = .ok (node id (String.ofList (Markup.unescape address.toList))) := by
  have read : Markup.tokens (link id address) =
      .ok [.opening "link" ((written id address).map Markup.attributeRead) true] := by
    apply Markup.Reads.tokens
    rw [toList_link]
    exact Markup.Reads.opening isPlainName_link (written_plain idUnquoted unquoted) true (by decide) .nil
  have added : Markup.Building.start.take (.opening "link" ((written id address).map Markup.attributeRead) true) =
      ⟨{ Markup.Building.start.root with children := [node id (String.ofList (Markup.unescape address.toList))] },
        []⟩ := by
    rw [written_read literal, Markup.Building.take, ofTag_link]
    rfl
  rw [Markup.parse, Markup.fragment, read]
  simp [bind, Except.bind, pure, Except.pure, added, Markup.Building.finish, Markup.Building.closeMany]

theorem node_resolved {id address : String} :
    node id (String.ofList (Markup.unescape address.toList)) = node id address ↔
      Markup.unescape address.toList = address.toList := by
  constructor
  · intro same
    have attributes := congrArg Markup.Node.attributes same
    simp only [node, List.cons.injEq, Prod.mk.injEq, true_and, and_true] at attributes
    conv_rhs => rw [← attributes]
    rw [String.toList_ofList]
  · intro literal
    rw [literal, String.ofList_toList]

theorem toList_link_quoted {id address : String} {front back : List Char}
    (split : address.toList = front ++ '"' :: back) :
    (link id address).toList =
      '<' :: ("link".toList ++ ((written id (String.ofList front)).flatMap Markup.attributeMarkup ++
        (back ++ '"' :: Markup.tagEnd true []))) := by
  rw [toList_link]
  simp [written, Markup.attributeMarkup, split]

theorem unfinished_link {id address : String} (idInside : '>' ∉ id.toList) {cs : List Char}
    (same : (link id address).toList = '<' :: cs) :
    (Markup.unfinishedText cs).2.length ≤ address.toList.length + 2 := by
  have split : cs = ("link".toList ++ ((written id address).take 3).flatMap Markup.attributeMarkup ++
      " href=\"".toList) ++ (address.toList ++ ['"', '/', '>']) := by
    rw [toList_link] at same
    rw [← (List.cons.inj same).2]
    simp [written, Markup.attributeMarkup, Markup.tagEnd]
  have inside : '>' ∉ "link".toList ++ ((written id address).take 3).flatMap Markup.attributeMarkup ++
      " href=\"".toList := by
    simp [written, Markup.attributeMarkup, idInside]
  have ends : '>' ∈ address.toList ++ ['"', '/', '>'] := by simp
  have past := Markup.unfinishedText_past inside ends
  rw [← split, List.length_append] at past
  exact Nat.le_of_succ_le_succ past

theorem ne_of_fits {address : String} (some : address ≠ "") {room : Nat} (small : room ≤ address.toList.length + 2)
    (entry : String × String) (fits : Markup.Fits room entry) : entry ≠ ("href", address) := by
  rintro rfl
  rcases fits with blank | fits
  · exact some blank
  · have four : "href".toList.length = 4 := rfl
    dsimp only at fits
    omega

theorem ne_of_cut {id address : String} {front back : List Char} (split : address.toList = front ++ '"' :: back)
    (entry : String × String) (member : entry ∈ (written id (String.ofList front)).map Markup.attributeRead) :
    entry ≠ ("href", address) := by
  rintro rfl
  simp only [written, Markup.attributeRead, List.map_cons, List.map_nil, List.mem_cons, List.not_mem_nil, or_false,
    Prod.mk.injEq] at member
  obtain ⟨name, -⟩ | ⟨name, -⟩ | ⟨name, -⟩ | ⟨-, value⟩ := member
  · exact absurd name (by decide)
  · exact absurd name (by decide)
  · exact absurd name (by decide)
  · -- The address up to its quote is shorter than the address, and resolving makes nothing longer.
    have short := Markup.length_unescape front
    have whole := congrArg List.length split
    simp only [value, String.toList_ofList, List.length_append, List.length_cons] at whole
    omega

/-- Where the address holds a quote, no tag in the markup has an attribute with the whole address. -/
theorem tokens_link_quoted {id address : String} (idUnquoted : '"' ∉ id.toList) (idInside : '>' ∉ id.toList)
    (quoted : '"' ∈ address.toList) {ts : List Markup.Token} (read : Markup.tokens (link id address) = .ok ts) :
    ∀ token ∈ ts, token.Holds (· ≠ ("href", address)) := by
  have some : address ≠ "" := by
    rintro rfl
    cases quoted
  obtain ⟨front, back, split, unquoted⟩ := List.eq_append_cons_of_mem quoted
  have plain : Markup.ArePlain (written id (String.ofList front)) :=
    written_plain idUnquoted (by rwa [String.toList_ofList])
  obtain ⟨construct, tagged, tag⟩ := Markup.construct?_before isPlainName_link plain (List.cons_ne_nil _ _)
    (back ++ '"' :: Markup.tagEnd true [])
  have begin : (link id address).toList = _ := toList_link_quoted split
  have past := unfinished_link idInside begin
  unfold Markup.tokens at read
  rw [begin] at read
  obtain ⟨first, after, others, begins, later, rfl⟩ := Markup.tokensWithin_begins read
  have upTo : (∀ token ∈ first, token.Holds (· ≠ ("href", address))) ∧ after.length ≤ address.toList.length + 2 := by
    -- The tag may be read to its end, with more attributes behind the quote, or be text for want of an end.
    refine begins.leaves (fun bare => ?_) past fun other found => ?_
    · rw [tagged] at bare
      cases bare
    · rw [tagged, Except.ok.injEq, Option.some.injEq] at found
      subst found
      have room : (back ++ '"' :: Markup.tagEnd true []).length ≤ address.toList.length + 2 := by
        simp only [split, List.length_append, List.length_cons, Markup.tagEnd, if_true, List.length_nil]
        omega
      exact tag.imp (fun entry found => found.elim (ne_of_cut split entry) (ne_of_fits some room entry)) room
  obtain ⟨early, left⟩ := upTo
  intro token member
  rcases List.mem_append.mp member with inTag | behind
  · exact early token inTag
  · exact (Markup.tokensWithin_fits later token behind).mono (ne_of_fits some left)

theorem parse_link_quoted {id address : String} (idUnquoted : '"' ∉ id.toList) (idInside : '>' ∉ id.toList)
    (quoted : '"' ∈ address.toList) {read : Markup.Node} (parsed : Markup.parse (link id address) = .ok read) :
    ("href", address) ∉ read.attributes := fun member =>
  Markup.parse_holds parsed (fun _ => tokens_link_quoted idUnquoted idInside quoted) _ member rfl

/-- A link reads as the one asked for exactly when its address has no quote and nothing to resolve. -/
theorem parse_link_iff {id address : String} (idUnquoted : '"' ∉ id.toList) (idInside : '>' ∉ id.toList)
    (literal : Markup.unescape id.toList = id.toList) :
    Markup.parse (link id address) = .ok (node id address) ↔
      '"' ∉ address.toList ∧ Markup.unescape address.toList = address.toList := by
  constructor
  · intro parsed
    have unquoted : '"' ∉ address.toList := fun quoted =>
      parse_link_quoted idUnquoted idInside quoted parsed (by simp [node])
    rw [parse_link idUnquoted literal unquoted] at parsed
    exact ⟨unquoted, node_resolved.mp (Except.ok.inj parsed)⟩
  · rintro ⟨unquoted, resolved⟩
    rw [parse_link idUnquoted literal unquoted, node_resolved.mpr resolved]

end ChatWidget.Stylesheet
