import ChatWidget.Widget.Fragments
import ChatWidget.Proofs.Markup.Reading
/-!
What the bubble of a message is read back as. Whatever the message, the bubble is one division with its
two classes and in it one span: the message can put text and breaks into the span and nothing else
anywhere. The text is that of the lines which are not blank, as they were typed.
-/
namespace ChatWidget.Bubble

/-- The bubble of a message as a node: what its markup is read as. -/
def node (speaker text : String) : Markup.Node :=
  ⟨"div", [], [messageClass, speaker], "",
    [⟨"span", [], [], Markup.shownLines (Text.splitAt '\n' text.toList),
      List.replicate (text.toList.count '\n') Markup.breakNode⟩]⟩

theorem toList_withText (speaker text : String) :
    (withText speaker text).toList =
      '<' :: ("div".toList ++ ([("class".toList, (messageClass ++ " " ++ speaker).toList)].flatMap
          Markup.attributeMarkup ++ Markup.tagEnd false
        ('<' :: ("span".toList ++ (([] : List (List Char × List Char)).flatMap
            Markup.attributeMarkup ++ Markup.tagEnd false
          (Markup.escape text.toList ++
            '<' :: '/' :: ("span".toList ++ '>' :: '<' :: '/' :: ("div".toList ++ ['>'])))))))) := by
  have front : "<div class=\"".toList = '<' :: ("div".toList ++ ' ' :: ("class".toList ++ ['=', '"'])) :=
    rfl
  have middle : "\"><span>".toList = '"' :: '>' :: '<' :: ("span".toList ++ ['>']) := rfl
  have back : "</span></div>".toList =
      '<' :: '/' :: ("span".toList ++ '>' :: '<' :: '/' :: ("div".toList ++ ['>'])) := rfl
  -- Stated as it stands: unfolding by the equation of `withText` is slow on its literals.
  change ("<div class=\"" ++ messageClass ++ " " ++ speaker ++ "\"><span>" ++ text.escaped ++
    "</span></div>").toList = _
  simp only [String.toList_append, front, middle, back, String.escaped,
    String.toList_ofList, Markup.attributeMarkup, Markup.tagEnd, List.flatMap_cons, List.flatMap_nil,
    List.append_assoc, List.cons_append, List.nil_append, Bool.false_eq_true, if_false]

theorem isPlainName_div : Markup.IsPlainName "div".toList :=
  ⟨'d', ['i', 'v'], rfl, by decide, List.all_eq_true.mp (by decide)⟩

theorem isPlainName_span : Markup.IsPlainName "span".toList :=
  ⟨'s', ['p', 'a', 'n'], rfl, by decide, List.all_eq_true.mp (by decide)⟩

theorem isPlainName_class : Markup.IsPlainName "class".toList :=
  ⟨'c', ['l', 'a', 's', 's'], rfl, by decide, List.all_eq_true.mp (by decide)⟩

def tokens (classes text : String) : List Markup.Token :=
  .opening "div" [("class", classes)] false :: .opening "span" [] false ::
    (Markup.linesTokens (Text.splitAt '\n' text.toList) ++ [.closing "span", .closing "div"])

theorem tokens_withText {speaker : String}
    (unquoted : '"' ∉ (messageClass ++ " " ++ speaker).toList)
    (literal : Markup.unescape (messageClass ++ " " ++ speaker).toList =
      (messageClass ++ " " ++ speaker).toList) (text : String) :
    Markup.tokens (withText speaker text) =
      .ok (tokens (messageClass ++ " " ++ speaker) text) := by
  have read : Markup.attributeRead ("class".toList, (messageClass ++ " " ++ speaker).toList) =
      ("class", messageClass ++ " " ++ speaker) := by
    rw [Markup.attributeRead, literal, String.ofList_toList, String.ofList_toList]
  have plain : Markup.ArePlain [("class".toList, (messageClass ++ " " ++ speaker).toList)] := by
    intro pair member
    rw [List.mem_singleton.mp member]
    exact ⟨isPlainName_class, unquoted⟩
  have outer := Markup.Reads.closing isPlainName_div Markup.Reads.nil
  have inner := Markup.Reads.closing isPlainName_span outer
  have shown := Markup.Reads.escaped text.toList (.inr ⟨_, rfl⟩) inner
  have span := Markup.Reads.opening isPlainName_span Markup.ArePlain.nil false (by decide) shown
  have division := Markup.Reads.opening isPlainName_div plain false (by decide) span
  rw [List.map_cons, List.map_nil, read, String.ofList_toList, String.ofList_toList] at division
  apply Markup.Reads.tokens
  rw [toList_withText]
  exact division

theorem parse_withText {speaker : String}
    (unquoted : '"' ∉ (messageClass ++ " " ++ speaker).toList)
    (literal : Markup.unescape (messageClass ++ " " ++ speaker).toList =
      (messageClass ++ " " ++ speaker).toList)
    (words : (messageClass ++ " " ++ speaker).blankSeparated = [messageClass, speaker])
    (text : String) :
    Markup.parse (withText speaker text) = .ok (node speaker text) := by
  have division : Markup.Node.ofTag "div" [("class", messageClass ++ " " ++ speaker)] =
      ⟨"div", [], [messageClass, speaker], "", []⟩ := by
    simp [Markup.Node.ofTag, Markup.lowered_plain isPlainName_div, Entries.ofWrites, Entries.putAll,
      Entries.put, Entries.erase, Entries.get?, words]
  have span : Markup.Node.ofTag "span" [] = ⟨"span", [], [], "", []⟩ := by
    simp [Markup.Node.ofTag, Markup.lowered_plain isPlainName_span, Entries.ofWrites, Entries.putAll,
      Entries.erase, String.blankSeparated, Text.words]
  have breaks : (Text.splitAt '\n' text.toList).length - 1 = text.toList.count '\n' := by
    rw [Text.length_splitAt, Nat.add_sub_cancel]
  have built : (tokens (messageClass ++ " " ++ speaker) text).foldl Markup.Building.take
      Markup.Building.start =
      ⟨{ Markup.Building.start.root with children := [node speaker text] }, []⟩ := by
    have inside : Markup.Building.voidTags.contains "div" = false := by decide
    have alsoInside : Markup.Building.voidTags.contains "span" = false := by decide
    simp only [tokens, List.foldl_cons, List.foldl_append, Markup.Building.take, inside,
      alsoInside, Bool.or_self, Bool.false_eq_true, if_false, division, span,
      Markup.Building.start]
    rw [Markup.Building.take_linesTokens (Text.splitAt_ne_nil _ _), breaks]
    simp [Markup.Building.closeMany, Markup.Building.closeInnermost,
      Markup.Building.onInnermost, Markup.Node.add, node, List.findIdx?_cons, Markup.Node.ofTag,
      Markup.lowered_plain isPlainName_div, Markup.lowered_plain isPlainName_span, Entries.ofWrites,
      Entries.putAll]
  rw [Markup.parse, Markup.fragment, tokens_withText unquoted literal]
  simp [bind, Except.bind, pure, Except.pure, built, Markup.Building.finish,
    Markup.Building.closeMany]

theorem parse_user (text : String) : Markup.parse (user text) = .ok (node userClass text) :=
  parse_withText (by decide) (by decide) (by decide +kernel) text

theorem parse_bot (text : String) : Markup.parse (bot text) = .ok (node botClass text) :=
  parse_withText (by decide) (by decide) (by decide +kernel) text

/-- Text can never inject markup: a bubble always reads as one division with the two classes of its
speaker, and in it one span that holds the lines of the message which are not blank, as they were typed,
and a break for each line feed. -/
theorem shows_text_only (text : String) :
    Markup.parse (user text) =
        .ok ⟨"div", [], ["pws-cb-message", "pws-cb-user"], "",
          [⟨"span", [], [],
            String.ofList ((Text.splitAt '\n' text.toList).filter (! Text.allBlank ·)).flatten,
            List.replicate (text.toList.count '\n') ⟨"br", [], [], "", []⟩⟩]⟩ ∧
      Markup.parse (bot text) =
        .ok ⟨"div", [], ["pws-cb-message", "pws-cb-bot"], "",
          [⟨"span", [], [],
            String.ofList ((Text.splitAt '\n' text.toList).filter (! Text.allBlank ·)).flatten,
            List.replicate (text.toList.count '\n') ⟨"br", [], [], "", []⟩⟩]⟩ :=
  ⟨parse_user text, parse_bot text⟩

end ChatWidget.Bubble
