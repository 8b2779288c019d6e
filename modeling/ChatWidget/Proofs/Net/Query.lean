import ChatWidget.Proofs.Net.Marks
import ChatWidget.Proofs.Net.Origin
/-!
The parameters of a request, read back from the address that it asks for. Names and values may hold any
characters: the marks that divide a query are coded, and the normal form of the address keeps what is coded. The
parameters stand in the place of whatever query the endpoint had.
-/
namespace ChatWidget

namespace RequestUrl

/-! ### Reading a query -/

/-- The text that a name or a value in a query stands for. A plus sign is a space, and bytes that are no UTF-8 are
replaced. -/
def formDecoded (cs : List Char) : List Char :=
  Text.decodeUtf8Lossy (Text.percentDecode (cs.map fun c => if c = '+' then ' ' else c))

/-- The names and values that a query stands for, in their order. The first equals sign of a piece ends its name, a
piece without one has an empty value, and empty pieces do not count. -/
def formFields (query : List Char) : List (String × String) :=
  ((Text.splitAt '&' query).filter fun piece => !piece.isEmpty).map fun piece =>
    let (name, value) := cutAt ['='] piece
    (String.ofList (formDecoded name), String.ofList (formDecoded (value.drop 1)))

/-! ### Names and values -/

def isFormChar (c : Char) : Bool := Text.isSegmentChar c || c = '+'

theorem isFormChar_formText (cs : List Char) : ∀ c ∈ formText cs, isFormChar c = true := by
  intro c member
  obtain ⟨d, -, member⟩ := List.mem_flatMap.mp member
  split at member
  next =>
    rw [List.mem_singleton.mp member]
    rfl
  next =>
    rw [isFormChar, Text.isSegmentChar_quoted [d] c member]
    rfl

theorem mark_not_mem_formText {mark : Char} (other : isFormChar mark = false) (cs : List Char) :
    mark ∉ formText cs := by
  intro member
  exact Bool.false_ne_true (other.symm.trans (isFormChar_formText cs mark member))

/-- Plus signs come from spaces only, so with spaces in their places the text is percent coded. -/
theorem percentDecode_formText (cs : List Char) :
    Text.percentDecode ((formText cs).map fun c => if c = '+' then ' ' else c) = Text.encodeUtf8 cs := by
  unfold formText Text.encodeUtf8
  induction cs with
  | nil => rfl
  | cons c cs ih =>
    rw [List.flatMap_cons, List.flatMap_cons, List.map_append, ← ih]
    by_cases space : c = ' '
    · rw [if_pos space, space]
      exact Text.percentDecode_cons (by decide) _
    · have noPlus : (Text.quoted [c]).map (fun d => if d = '+' then ' ' else d) = Text.quoted [c] := by
        rw [List.map_congr_left (g := id), List.map_id]
        intro d member
        rw [if_neg, id]
        rintro rfl
        exact Bool.false_ne_true (Text.isSegmentChar_quoted [c] '+' member)
      rw [if_neg space, noPlus, Text.percentDecode_quoted_append]
      simp [Text.encodeUtf8]

theorem formDecoded_formText (cs : List Char) : formDecoded (formText cs) = cs := by
  rw [formDecoded, percentDecode_formText, Text.decodeUtf8Lossy_encodeUtf8]

theorem splitAt_formQuery {fields : List (String × String)} (some : fields ≠ []) :
    Text.splitAt '&' (formQuery fields) =
      fields.map fun (name, value) => formText name.toList ++ '=' :: formText value.toList := by
  apply Text.splitAt_joinWith
  · simpa using some
  · intro piece member
    obtain ⟨⟨name, value⟩, -, rfl⟩ := List.mem_map.mp member
    simp only [List.mem_append, List.mem_cons, not_or]
    exact ⟨mark_not_mem_formText (by decide) _, by decide, mark_not_mem_formText (by decide) _⟩

/-- Names and values are found again in the query that is made of them, in their order. -/
theorem formFields_formQuery (fields : List (String × String)) : formFields (formQuery fields) = fields := by
  cases fields with
  | nil => rfl
  | cons first others =>
    rw [formFields, splitAt_formQuery (List.cons_ne_nil first others), List.filter_eq_self.mpr, List.map_map]
    · refine (List.map_congr_left fun field _ => ?_).trans (List.map_id (first :: others))
      obtain ⟨name, value⟩ := field
      dsimp only [Function.comp]
      rw [cutAt_mark (mark_not_mem_formText (by decide) _)]
      simp only [List.drop_succ_cons, List.drop_zero, formDecoded_formText, String.ofList_toList, id]
    · intro piece member
      obtain ⟨⟨name, value⟩, -, rfl⟩ := List.mem_map.mp member
      simp

/-! ### The query of an address -/

theorem inQuery_formQuery (fields : List (String × String)) :
    ∀ c ∈ formQuery fields, (inQuery c && c != '#') = true := by
  have good : ∀ c, isFormChar c = true → (inQuery c && c != '#') = true := by
    intro c form
    rcases Bool.or_eq_true_iff.mp form with segment | plus
    · exact Text.isSegmentChar_ascii (p := fun c => inQuery c && c != '#') (by decide +kernel) segment
    · rw [of_decide_eq_true plus]
      decide
  have amp : (inQuery '&' && '&' != '#') = true := by decide
  have equals : (inQuery '=' && '=' != '#') = true := by decide
  intro c member
  rcases Text.mem_joinWith member with separator | ⟨piece, inside, member⟩
  · rw [List.mem_singleton.mp separator]
    exact amp
  · obtain ⟨⟨name, value⟩, -, rfl⟩ := List.mem_map.mp inside
    rcases List.mem_append.mp member with inName | behind
    · exact good c (isFormChar_formText _ c inName)
    · rcases List.mem_cons.mp behind with rfl | inValue
      · exact equals
      · exact good c (isFormChar_formText _ c inValue)

theorem withQuery_formFields {url asked : RequestUrl} {fields : List (String × String)} (clear : url.IsClear)
    (done : url.withQuery (formQuery fields) = .ok asked) : formFields (queryOf asked.text) = fields := by
  have kept := inQuery_formQuery fields
  simp only [Bool.and_eq_true, bne_iff_ne] at kept
  obtain ⟨-, asks, -, -⟩ := ofWritten_ok done
  have same : Text.percentEncode inQuery (formQuery fields) = formQuery fields :=
    percentEncode_kept [] fun c member => (kept c member).1
  dsimp only [Option.map_some] at asks
  rw [same] at asks
  rw [queryOf_text (clear.withQuery done) asks fun member => (kept '#' member).2 rfl, formFields_formQuery]

end RequestUrl

/-! ### Requests -/

namespace Exchange

theorem parametersOf_obj {fields : List (String × Json)} (some : fields ≠ [])
    {parameters : Option (List (String × String))} (known : parametersOf (.data (.obj fields)) = .ok parameters) :
    parameters = .some (fields.map fun field => (field.1, field.2.asText)) := by
  have texts : ∀ (fields : List (String × Json)) (found : List (String × String)),
      fields.mapM (fun (field : String × Json) => field.2.toText.map (field.1, ·)) = Except.ok found →
      found = fields.map fun field => (field.1, field.2.asText) := by
    intro fields
    induction fields with
    | nil =>
      intro found all
      cases all
      rfl
    | cons field fields ih =>
      intro found all
      rw [List.mapM_cons] at all
      obtain ⟨first, shown, all⟩ := bind_ok all
      obtain ⟨others, rest, all⟩ := bind_ok all
      cases all
      unfold Json.toText at shown
      split at shown
      next =>
        cases shown
        rw [ih others rest, List.map_cons]
      next => cases shown
  change (if fields.isEmpty then _ else _) = _ at known
  rw [if_neg (by simpa using some)] at known
  cases all : fields.mapM (fun (field : String × Json) => field.2.toText.map (field.1, ·)) with
  | error fault =>
    rw [all] at known
    cases known
  | ok found =>
    rw [all] at known
    cases known
    rw [texts fields found all]

end Exchange

namespace Transport

variable {κ : Type}

/-- Take a call that gets something with parameters. Either it cannot be prepared, and nothing is sent; or one request
is sent, and the query in the text of its address stands for the names and the values of the parameters as text, in
their order, and for nothing else, whatever the endpoint is. -/
theorem query_of_parameters (s : Logged (Transport κ × Wire)) {call : Call} {fields : List (String × Json)}
    (get : Exchange.methodOf call = "GET") (data : call.data = .data (.obj fields)) (some : fields ≠ []) :
    let prepared := Exchange.prepare s.state.1.site s.state.1.jar s.state.2.now call
    let arrived := ((send call).start s).2.state.2.arrived
    (∃ fault, prepared = .error fault ∧ arrived = s.state.2.arrived) ∨
      ∃ exchange, prepared = .ok exchange ∧ arrived = s.state.2.arrived ++ [exchange.request] ∧
        RequestUrl.formFields (RequestUrl.queryOf exchange.request.url.toList) =
          fields.map fun field => (field.1, field.2.asText) := by
  intro prepared arrived
  cases outcome : prepared with
  | error fault => exact .inl ⟨fault, rfl, send_arrived_error outcome⟩
  | ok exchange =>
    refine .inr ⟨exchange, rfl, send_arrived outcome, ?_⟩
    obtain ⟨url, terms, target, accept, contentType, encoding, cookie, -, known, found, -, -, -, -, rfl⟩ :=
      Exchange.prepare_ok_iff.mp outcome
    have parameters : terms.parameters = .some (fields.map fun field => (field.1, field.2.asText)) := by
      unfold Exchange.termsOf at known
      obtain ⟨options, -, known⟩ := bind_ok known
      rw [get, data] at known
      obtain ⟨parameters, asked, known⟩ := bind_ok known
      cases known
      exact Exchange.parametersOf_obj some asked
    obtain ⟨parsed, read, found⟩ := bind_ok found
    obtain ⟨ready, asked, found⟩ := bind_ok found
    rw [parameters] at found
    rw [String.toList_ofList]
    exact RequestUrl.withQuery_formFields ((RequestUrl.parse_clear read).forRequest asked) found

/-- Here names and values hold the marks that divide a query, and the endpoint is an address with a fragment. -/
theorem query_of_parameters_odd :
    let site : Site := ⟨"https://chat.example.com/", "https://chat.example.com/responsio/", .str "me"⟩
    let s : Logged (Transport Unit × Wire) := ⟨({ site }, {}), []⟩
    let fields : List (String × Json) :=
      [("a&b", .str "c=d"), ("+ %41", .str "é#?"), ("", .null), ("n", .arr [.int 1, .bool true])]
    let call : Call := { method := "get", endpoint := "https://Other.example.com/x?y=1#z", data := .data (.obj fields) }
    ((send call).start s).2.state.2.arrived.map (·.url) =
        ["https://other.example.com/x?a%26b=c%3Dd&%2B+%2541=%C3%A9%23%3F&=None&n=%5B1%2C+True%5D#z"] ∧
      ∃ exchange : Exchange, ((send call).start s).2.state.2.arrived = [exchange.request] ∧
        RequestUrl.formFields (RequestUrl.queryOf exchange.request.url.toList) =
          [("a&b", "c=d"), ("+ %41", "é#?"), ("", "None"), ("n", "[1, True]")] := by
  intro site s fields call
  have urls : ((send call).start s).2.state.2.arrived.map (·.url) =
      ["https://other.example.com/x?a%26b=c%3Dd&%2B+%2541=%C3%A9%23%3F&=None&n=%5B1%2C+True%5D#z"] := by
    decide +kernel
  refine ⟨urls, ?_⟩
  have get : Exchange.methodOf call = "GET" := by decide +kernel
  have data : call.data = .data (.obj fields) := rfl
  rcases query_of_parameters s get data (List.cons_ne_nil _ _) with
    ⟨fault, -, none⟩ | ⟨exchange, -, arrived, read⟩
  · rw [none] at urls
    cases urls
  · exact ⟨exchange, arrived, read.trans (by decide +kernel)⟩

/-- A query of the endpoint itself is lost: its parameter does not come with the request. -/
theorem own_query_is_replaced :
    let site : Site := ⟨"https://chat.example.com/", "https://chat.example.com/responsio/", .str "me"⟩
    let s : Logged (Transport Unit × Wire) := ⟨({ site }, {}), []⟩
    let call : Call := { endpoint := "search?lang=en", data := .data (.obj [("q", .str "x")]) }
    let asked := ((send call).start s).2.state.2.arrived.map (·.url)
    asked = ["https://chat.example.com/responsio/search?q=x"] ∧
      (asked.map fun url => RequestUrl.formFields (RequestUrl.queryOf url.toList)) ≠ [[("lang", "en"), ("q", "x")]] := by
  decide +kernel

end Transport

end ChatWidget
