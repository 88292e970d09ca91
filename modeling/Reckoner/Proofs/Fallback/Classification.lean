import Reckoner.Evaluation
import Reckoner.Fallback.Exchange
import Reckoner.Proofs.Fallback.Reply

/-!
What becomes of everything that a request for an input can come to. A connection finds a payload in
a response, the payload may have a reply, and the reply a result. If it does, and the result is not
blank, the outcome is that result or, for the marker, that the service declined; everything else is
unavailable, a response of another status than success in any case.
-/

namespace Reckoner

namespace Text

/-- What is left after trimming does not begin with a blank: it is the front of a text that has none
at its front. -/
theorem head?_trim {c : Char} {chars : List Char} (h : c ∈ (trim chars).head?) :
    isBlank c = false := by
  have hprefix : trim chars <+: trimLeft chars := by
    rw [trim, ← List.reverse_suffix, List.reverse_reverse]
    exact List.dropWhile_suffix isBlank
  obtain ⟨rest, hrest⟩ := hprefix
  have hhead : c ∈ (trimLeft chars).head? := by
    rw [← hrest, List.head?_append, Option.mem_def.mp h]
    rfl
  have hnot := List.head?_dropWhile_not isBlank chars
  rw [trimLeft] at hhead
  rw [Option.mem_def.mp hhead] at hnot
  simpa using hnot

/-- What is left after trimming does not end with a blank: the second trimming is that of the
reversed text, so it stops at the last character that is none. -/
theorem getLast?_trim {c : Char} {chars : List Char} (h : c ∈ (trim chars).getLast?) :
    isBlank c = false := by
  rw [trim, List.getLast?_reverse, trimLeft] at h
  have hnot := List.head?_dropWhile_not isBlank (trimLeft chars).reverse
  rw [Option.mem_def.mp h] at hnot
  simpa using hnot

end Text

namespace Fallback

/-- The payload is a reply, or a text with one, and this is its result as it stands there. What is
trimmed of it, and whether anything is left then, is told apart from this. -/
inductive Validated : Json → String → Prop where
  | object {members : List (String × Json)} {result : String}
      (hresult : members.lookup resultKey = some (.string result)) :
      Validated (.object members) result
  | text {text : String} {part : List Char} {members : List (String × Json)} {result : String}
      (hpart : bracedPart? (Text.trim text.toList) = some part)
      (hread : Json.ofChars .refused part = .ok (.object members))
      (hdepth : (Json.object members).depth ≤ depthLimit)
      (hresult : members.lookup resultKey = some (.string result)) :
      Validated (.string text) result

/-- The response hands the payload over for validation: as the whole of its body, as the content of
the first choice of a completion, or as the texts among its blocks. -/
inductive Carries : Connection → Response → Json → Prop where
  | body {connection : Connection} {status : Nat} {payload : Json}
      (hconnection : connection.provider ≠ .localModel) (hstatus : 200 ≤ status ∧ status < 300) :
      Carries connection (.page status (.data payload)) payload
  | wrapped {base model : String} {status : Nat} {decoded first : Json} {rest : List Json}
      {message : List (String × Json)} (hstatus : 200 ≤ status ∧ status < 300)
      (hchoices : decoded.member? "choices" = some (.array (first :: rest)))
      (hmessage : first.member? "message" = some (.object message)) :
      Carries (.localModel base model) (.page status (.data decoded))
        (contentPayload ((message.lookup "content").getD .null))
  | choice (connection : Connection) (content : Json) (rest : List Json) :
      Carries connection (.completion (content :: rest)) (contentPayload content)
  | blocks (connection : Connection) (blocks : List (String × String)) :
      Carries connection (.blocks blocks)
        (.string (String.join ((blocks.filter (·.1 = "text")).map Prod.snd)))

theorem completionContent_eq_ok_iff {decoded payload : Json} :
    completionContent decoded = .ok payload ↔
      ∃ first rest message, decoded.member? "choices" = some (.array (first :: rest)) ∧
        first.member? "message" = some (.object message) ∧
        payload = contentPayload ((message.lookup "content").getD .null) := by
  constructor
  · intro h
    rw [completionContent] at h
    split at h
    · rename_i first rest hchoices
      split at h
      · rename_i message hmessage
        exact ⟨first, rest, message, hchoices, hmessage, (Except.ok.inj h).symm⟩
      · cases h
      · cases h
    · cases h
  · rintro ⟨first, rest, message, hchoices, hmessage, rfl⟩
    simp only [completionContent, hchoices, hmessage]

/-- What is delivered reports the text: it is the result of the reply, without blanks around it. It
may be empty here, and it may be the marker; neither is a success. -/
def Connection.Reports (connection : Connection) (delivery : Delivery) (text : String) : Prop :=
  ∃ response payload result, delivery = .response response ∧
    Carries connection response payload ∧ Validated payload result ∧
    text = String.ofList (Text.trim result.toList)

theorem Connection.Reports.trimmed {connection : Connection} {delivery : Delivery} {text : String}
    (h : connection.Reports delivery text) {c : Char}
    (hc : c ∈ text.toList.head? ∨ c ∈ text.toList.getLast?) : Text.isBlank c = false := by
  obtain ⟨-, -, result, -, -, -, rfl⟩ := h
  rw [String.toList_ofList] at hc
  exact hc.elim Text.head?_trim Text.getLast?_trim

namespace Answer

variable {answer : Answer}

end Answer

/-- A model served nearby declines in a completion, with blanks around the marker. They are trimmed
before the result is compared with it. -/
example :
    (Connection.answer (.localModel "" "") (.response (.http 200
      ("\x7b\"choices\": [\x7b\"message\": \x7b\"content\": " ++
        "\x7b\"result\": \" Error\\n\"\x7d\x7d\x7d]\x7d")))).outcome = .declined := by
  decide +kernel

end Fallback

end Reckoner
