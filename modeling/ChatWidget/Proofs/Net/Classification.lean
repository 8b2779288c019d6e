import ChatWidget.Proofs.Json.Derivation
import ChatWidget.Proofs.Net.Ending
import ChatWidget.Proofs.Net.MediaType
/-!
What a response comes to, said of the response itself: its status, whether its body is in the media type that is
understood, whether there is anything but blanks in it, and which value the grammar derives for it, if any. A response
without content comes to nothing only in that media type; in any other one its text is handed on, blank as it is.
-/
namespace ChatWidget

namespace Response

/-! ### What there is in a response -/

def IsBlank (response : Response) : Prop := ∀ c ∈ response.text.toList, Text.isBlank c = true

def Holds (response : Response) (value : Json) : Prop := Json.IsElement response.text.toList value

/-- Does a response promise a value that is not there? -/
structure IsUndecodable (response : Response) : Prop where
  json : response.IsJson
  status : response.status = 200
  filled : ¬ response.IsBlank
  nothing : ∀ value, ¬ response.Holds value

/-- Is the body a mapping with a message of its own under the name for it? -/
def Complains (response : Response) (message : String) : Prop :=
  ∃ fields, response.Holds (.obj fields) ∧ Entries.get? fields "error" = some (.str message) ∧ message ≠ ""

theorem allBlank_iff {response : Response} : Text.allBlank response.text.toList = true ↔ response.IsBlank :=
  List.all_eq_true

theorem isSuccess_iff {response : Response} :
    response.isSuccess = true ↔ response.status = 200 ∨ response.status = 204 := by
  simp [isSuccess]

theorem Holds.unique {response : Response} {first second : Json} (one : response.Holds first)
    (other : response.Holds second) : first = second := Json.IsElement.unique one other

theorem complaint_spec (response : Response) :
    response.Complains (complaint response.text) ∨
      (∀ message, ¬ response.Complains message) ∧ complaint response.text = defaultComplaint := by
  have known : ∀ {message}, response.Complains message → complaint response.text = message := by
    rintro message ⟨fields, holds, found, filled⟩
    have read := Json.read_ok_iff.mpr holds
    have some : message.isEmpty = false := by simpa using filled
    simp only [complaint, read, Except.toOption, Option.bind_some, Json.field?, found, some, Bool.false_eq_true,
      if_false]
  by_cases said : ∃ message, response.Complains message
  · obtain ⟨message, said⟩ := said
    rw [known said]
    exact .inl said
  · refine .inr ⟨fun message complains => said ⟨message, complains⟩, ?_⟩
    unfold complaint
    split
    next message found =>
      split
      next => rfl
      next filled =>
        obtain ⟨value, read, field⟩ := Option.bind_eq_some_iff.mp found
        have holds : response.Holds value := by
          cases whole : Json.read response.text with
          | error reason =>
            rw [whole] at read
            cases read
          | ok value' =>
            rw [whole] at read
            cases read
            exact Json.read_ok_iff.mp whole
        cases value with
        | obj fields => exact absurd ⟨message, fields, holds, field, by simpa using filled⟩ said
        | _ => cases field
    next => rfl

/-! ### What it comes to -/

/-- The outcomes of a response, one case for each rule. -/
inductive ComesTo (response : Response) : Outcome → Prop where
  | nothing (json : response.IsJson) (empty : response.status = 204 ∨ response.status = 200 ∧ response.IsBlank) :
      ComesTo response (.success .null)
  | value {payload : Json} (json : response.IsJson) (status : response.status = 200) (filled : ¬ response.IsBlank)
      (holds : response.Holds payload) : ComesTo response (.success payload)
  | undecodable (broken : response.IsUndecodable) : ComesTo response (.failure 500 "Internal Error")
  | rejected {message : String} (json : response.IsJson) (refused : response.isSuccess = false)
      (said : response.Complains message ∨
        (∀ other, ¬ response.Complains other) ∧ message = defaultComplaint) :
      ComesTo response (.failure response.status message)
  | text (other : ¬ response.IsJson) (accepted : response.isSuccess = true) :
      ComesTo response (.success (.str response.text))
  | refused (other : ¬ response.IsJson) (refused : response.isSuccess = false) :
      ComesTo response (.failure response.status (if response.text.isEmpty then defaultComplaint else response.text))

theorem verdict_comesTo (response : Response) : response.ComesTo response.verdict.1 := by
  unfold verdict
  dsimp only
  split
  next other =>
    rw [bne_iff_ne, ne_eq, mediaType_eq_iff] at other
    dsimp only
    split
    next accepted => exact .text other accepted
    next refused => exact .refused other (Bool.eq_false_iff.mpr refused)
  next same =>
    rw [bne_iff_ne, ne_eq, not_not, mediaType_eq_iff] at same
    split
    next accepted =>
      have status := isSuccess_iff.mp accepted
      split
      next empty =>
        rw [Bool.or_eq_true, beq_iff_eq, allBlank_iff] at empty
        refine .nothing same ?_
        rcases empty with none | blank
        · exact .inl none
        · exact status.symm.imp_right fun good => ⟨good, blank⟩
      next filled =>
        rw [Bool.or_eq_true, beq_iff_eq, allBlank_iff, not_or] at filled
        have good := status.resolve_right filled.1
        cases read : Json.read response.text with
        | ok payload => exact .value same good filled.2 (Json.read_ok_iff.mp read)
        | error reason => exact .undecodable ⟨same, good, filled.2, Json.read_error_iff.mp ⟨reason, read⟩⟩
    next refused => exact .rejected same (Bool.eq_false_iff.mpr refused) response.complaint_spec

section

variable {response : Response} {outcome : Outcome} (comes : response.ComesTo outcome)

include comes

theorem ComesTo.undecodable_iff :
    response.IsUndecodable ↔ outcome = .failure 500 "Internal Error" ∧ response.isSuccess = true := by
  have good : response.status = 200 → response.isSuccess = true := fun status => isSuccess_iff.mpr (.inl status)
  constructor
  · rintro broken
    refine ⟨?_, good broken.status⟩
    cases comes with
    | nothing json empty =>
      rcases empty with none | ⟨-, blank⟩
      · exact absurd (none.symm.trans broken.status) (by decide)
      · exact absurd blank broken.filled
    | value json status filled holds => exact absurd holds (broken.nothing _)
    | undecodable => rfl
    | rejected json refused said => exact absurd ((good broken.status).symm.trans refused) (by decide)
    | text other accepted => exact absurd broken.json other
    | refused other refused => exact absurd broken.json other
  · rintro ⟨same, accepted⟩
    cases comes with
    | nothing => cases same
    | value => cases same
    | undecodable broken => exact broken
    | rejected json refused => exact absurd (accepted.symm.trans refused) (by decide)
    | text => cases same
    | refused other refused => exact absurd (accepted.symm.trans refused) (by decide)

theorem ComesTo.success_iff :
    (∃ payload, outcome = .success payload) ↔
      (response.status = 200 ∨ response.status = 204) ∧ ¬ response.IsUndecodable := by
  rw [← isSuccess_iff, comes.undecodable_iff]
  cases comes with
  | nothing json empty =>
    have accepted : response.isSuccess = true := isSuccess_iff.mpr (empty.symm.imp_left And.left)
    simp [accepted]
  | value json status => simp [isSuccess_iff.mpr (.inl status)]
  | undecodable broken => simp
  | rejected json refused => simp [refused]
  | text other accepted => simp [accepted]
  | refused other refused => simp [refused]

theorem ComesTo.failure {status : Int} {message : String} (failed : outcome = .failure status message)
    (decodable : ¬ response.IsUndecodable) :
    status = response.status ∧ message ≠ "" ∧
      (response.IsJson → response.Complains message ∨
        (∀ other, ¬ response.Complains other) ∧ message = defaultComplaint) ∧
      (¬ response.IsJson → response.text ≠ "" → message = response.text) := by
  cases comes with
  | nothing => cases failed
  | value => cases failed
  | undecodable broken => exact absurd broken decodable
  | text => cases failed
  | rejected json refused said =>
    cases failed
    refine ⟨rfl, ?_, fun _ => said, fun other => absurd json other⟩
    rcases said with ⟨fields, holds, found, filled⟩ | ⟨-, rfl⟩
    · exact filled
    · decide
  | refused other refused =>
    cases failed
    refine ⟨rfl, ?_, fun json => absurd json other, fun _ filled => if_neg (by simpa using filled)⟩
    split
    next => decide
    next filled => simpa using filled

theorem ComesTo.holds (json : response.IsJson) (status : response.status = 200) (filled : ¬ response.IsBlank)
    (payload : Json) : outcome = .success payload ↔ response.Holds payload := by
  have accepted : response.isSuccess = true := isSuccess_iff.mpr (.inl status)
  cases comes with
  | nothing _ empty =>
    rcases empty with none | ⟨-, blank⟩
    · exact absurd (none.symm.trans status) (by decide)
    · exact absurd blank filled
  | value _ _ _ holds =>
    constructor
    · intro same
      cases same
      exact holds
    · intro other
      rw [holds.unique other]
  | undecodable broken => exact ⟨nofun, fun holds => absurd holds (broken.nothing payload)⟩
  | rejected _ refused => exact absurd (accepted.symm.trans refused) (by decide)
  | text other => exact absurd json other
  | refused other => exact absurd json other

end

/-- Is there no content in a response that is a success? There is none where the status says so, nor where the body is
blank. -/
def HasNoContent (response : Response) : Prop := response.status = 204 ∨ response.status = 200 ∧ response.IsBlank

theorem ComesTo.noContent {response : Response} {outcome : Outcome} (comes : response.ComesTo outcome)
    (empty : response.HasNoContent) :
    (response.IsJson → outcome = .success .null) ∧ (¬ response.IsJson → outcome = .success (.str response.text)) := by
  have accepted : response.isSuccess = true := isSuccess_iff.mpr (empty.symm.imp_left And.left)
  have blank : response.status = 200 → response.IsBlank := by
    intro status
    rcases empty with none | ⟨-, blank⟩
    · exact absurd (none.symm.trans status) (by decide)
    · exact blank
  cases comes with
  | nothing json => exact ⟨fun _ => rfl, fun other => absurd json other⟩
  | value _ status filled => exact absurd (blank status) filled
  | undecodable broken => exact absurd (blank broken.status) broken.filled
  | rejected _ refused => exact absurd (accepted.symm.trans refused) (by decide)
  | text other => exact ⟨fun json => absurd json other, fun _ => rfl⟩
  | refused _ refused => exact absurd (accepted.symm.trans refused) (by decide)

theorem HasNoContent.stays {response : Response} (empty : response.HasNoContent) :
    Exchange.badLocation? response = none := by
  unfold Exchange.badLocation? Exchange.sendsOn
  rcases empty with none | ⟨good, -⟩
  · rw [none]
    rfl
  · rw [good]
    rfl

end Response

namespace Exchange

theorem conclude_response {exchange : Exchange} {response : Response} (absolute : exchange.target.isAbsolute = true)
    (stays : badLocation? response = none) (now : Int) :
    exchange.conclude now (.response response) =
      .ok (response.verdict.1, exchange.cookiesAfter now response, response.verdict.2) := by
  simp [conclude, absolute, stays]

end Exchange

namespace Transport

variable {κ : Type}

section

variable {s : Logged (Transport κ × Wire)} {call : Call} {exchange : Exchange} {response : Response}

/-- A call that is sent and answered ends with what the response to it comes to, and so does a request whose outcome is
put into the queue. -/
theorem send_response (prepared : Exchange.prepare s.state.1.site s.state.1.jar s.state.2.now call = .ok exchange)
    (absolute : exchange.target.isAbsolute = true)
    (answered : s.state.2.answerTo s.state.2.arrived.length = .response response)
    (stays : Exchange.badLocation? response = none) :
    ((send call).start s).1 = .ok response.verdict.1 ∧
      exchange.ending s.state.2.now (.response response) = response.verdict.1 := by
  obtain ⟨⟨transport, wire⟩, log⟩ := s
  have concluded := Exchange.conclude_response absolute stays wire.now
  obtain ⟨events, sent⟩ := start_send call transport wire log
  dsimp only at prepared answered
  rw [prepared] at sent
  dsimp only at sent
  rw [answered, concluded] at sent
  dsimp only [Except.map] at sent
  constructor
  · rw [sent]
  · unfold Exchange.ending
    rw [concluded]

end

def someSite : Site := ⟨"https://chat.example.com/", "https://chat.example.com/responsio/", .str "me"⟩

/-- The requests of this site, with one answer that is there for them. -/
def answeredOnce (response : Response) : Logged (Transport Unit × Wire) :=
  ⟨({ site := someSite }, { answers := [.response response] }), []⟩

def saying : Call := { method := "POST", endpoint := "chat/me", data := .data (.obj [("input", .str "hello")]) }

theorem prepare_saying :
    ∃ exchange, Exchange.prepare someSite {} 0 saying = .ok exchange ∧ exchange.target.isAbsolute = true := by
  have ready : ((Exchange.prepare someSite {} 0 saying).map (·.target.isAbsolute)).toOption = some true := by
    decide +kernel
  cases prepared : Exchange.prepare someSite {} 0 saying with
  | error fault =>
    rw [prepared] at ready
    cases ready
  | ok exchange =>
    rw [prepared] at ready
    exact ⟨exchange, rfl, Option.some.inj ready⟩

end Transport

end ChatWidget
