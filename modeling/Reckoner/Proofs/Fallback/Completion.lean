import Reckoner.Proofs.Fallback.Classification

/-!
The way to the content of a chat completion. It leads from the body to its choices, to the first of
them, to the message of that and to the content, and at every step any value may stand there. A
value on which the way ends before the message is told as a wrong shape. A message that is no object
is not: it is found, and then has no members to ask for, so the cause names its kind instead.
-/

namespace Reckoner

namespace Json

/-- The values that say nothing: each kind has one, the numbers have their zeros. Beyond these,
every value counts as content, a string of blanks too. -/
inductive Vacant : Json → Prop where
  | null : Vacant .null
  | no : Vacant (.bool false)
  | zero : Vacant (.integer 0)
  | zeroNumber {x : Binary64} (hzero : x.isZero = true) : Vacant (.number x)
  | emptyString : Vacant (.string "")
  | emptyArray : Vacant (.array [])
  | emptyObject : Vacant (.object [])

theorem isVacant_iff {value : Json} : value.isVacant = true ↔ value.Vacant := by
  constructor
  · intro h
    unfold isVacant at h
    split at h
    · exact .null
    · exact .no
    · exact .zero
    · exact .emptyString
    · exact .emptyArray
    · exact .emptyObject
    · exact .zeroNumber h
    · cases h
  · intro h
    cases h with
    | zeroNumber hzero => exact hzero
    | null | no | zero | emptyString | emptyArray | emptyObject => rfl

def IsObject (value : Json) : Prop := ∃ members, value = .object members

end Json

namespace Fallback

variable {data message : Json}

/-- The value stands where the message of the first choice of a completion belongs. It may be of any
kind: only the way to it is settled here. -/
inductive FirstMessage : Json → Json → Prop where
  | intro {members first : List (String × Json)} {rest : List Json} {message : Json}
      (hchoices : members.lookup "choices" = some (.array (.object first :: rest)))
      (hmessage : first.lookup "message" = some message) :
      FirstMessage (.object members) message

theorem FirstMessage.unique {other : Json} (h : FirstMessage data message)
    (hother : FirstMessage data other) : message = other := by
  obtain ⟨hchoices, hmessage⟩ := h
  obtain ⟨hchoices', hmessage'⟩ := hother
  cases Option.some.inj (hchoices.symm.trans hchoices')
  exact Option.some.inj (hmessage.symm.trans hmessage')

theorem firstMessage_iff :
    FirstMessage data message ↔
      ∃ first rest, data.member? "choices" = some (.array (first :: rest)) ∧
        first.member? "message" = some message := by
  constructor
  · rintro ⟨hchoices, hmessage⟩
    exact ⟨_, _, hchoices, hmessage⟩
  · rintro ⟨first, rest, hchoices, hmessage⟩
    cases data with
    | object members =>
        cases first with
        | object inner => exact .intro hchoices hmessage
        | null | bool | integer | number | string | unpaired | array => cases hmessage
    | null | bool | integer | number | string | unpaired | array => cases hchoices

theorem completionContent_of_message {members : List (String × Json)}
    (h : FirstMessage data (.object members)) :
    completionContent data = .ok (contentPayload ((members.lookup "content").getD .null)) := by
  obtain ⟨first, rest, hchoices, hmessage⟩ := firstMessage_iff.mp h
  exact completionContent_eq_ok_iff.mpr ⟨first, rest, members, hchoices, hmessage, rfl⟩

theorem completionContent_of_misplaced (h : FirstMessage data message)
    (hkind : ¬ message.IsObject) : completionContent data = .error (.noMembers message.kind) := by
  obtain ⟨first, rest, hchoices, hmessage⟩ := firstMessage_iff.mp h
  cases message with
  | object members => exact absurd ⟨members, rfl⟩ hkind
  | null | bool | integer | number | string | unpaired | array =>
      simp only [completionContent, hchoices, hmessage]

theorem completionContent_of_none (h : ∀ message, ¬ FirstMessage data message) :
    completionContent data = .error .unexpectedShape := by
  rw [completionContent]
  split
  · rename_i first rest hchoices
    split
    · rename_i members hmessage
      exact absurd (firstMessage_iff.mpr ⟨first, rest, hchoices, hmessage⟩) (h _)
    · rename_i message hmessage
      exact absurd (firstMessage_iff.mpr ⟨first, rest, hchoices, hmessage⟩) (h _)
    · rfl
  · rfl

/-- What is due for a body: the result of the content of its message, an empty text standing for a
content that is missing or says nothing; and without a message the cause that tells a wrong
shape. -/
inductive Due (data : Json) : Except Error String → Prop where
  | content {message : List (String × Json)} {content : Json}
      (hmessage : FirstMessage data (.object message))
      (hcontent : message.lookup "content" = some content) (hvacant : ¬ content.Vacant) :
      Due data ((resultOfPayload content).mapError .reply)
  | silent {message : List (String × Json)} (hmessage : FirstMessage data (.object message))
      (hcontent : ∀ content, message.lookup "content" = some content → content.Vacant) :
      Due data ((resultOfPayload (.string "")).mapError .reply)
  | misshapen {cause : Error} (hmessage : ∀ message, ¬ FirstMessage data (.object message))
      (hcause : cause = .unexpectedShape)
      (htext : cause.message = "Unexpected chat completion shape") : Due data (.error cause)

/-- The result that a model served nearby has in a successful page. Neither its address nor the name
of its model bears on that, so they are left open. -/
def completionResult (base model : String) (data : Json) : Except Error String :=
  (Connection.localModel base model).result (.page 200 (.data data))

theorem completionResult_of_ok {base model : String} {payload : Json}
    (h : completionContent data = .ok payload) :
    completionResult base model data = (resultOfPayload payload).mapError .reply := by
  simp only [completionResult, Connection.result, Connection.received, isSuccessful,
    Connection.payload, h]
  rfl

theorem completionResult_of_error {base model : String} {cause : Error}
    (h : completionContent data = .error cause) :
    completionResult base model data = .error cause := by
  simp only [completionResult, Connection.result, Connection.received, isSuccessful,
    Connection.payload, h]
  rfl

theorem due_of_message {base model : String} {members : List (String × Json)}
    (h : FirstMessage data (.object members)) : Due data (completionResult base model data) := by
  rw [completionResult_of_ok (completionContent_of_message h)]
  cases hcontent : members.lookup "content" with
  | none => exact .silent h fun content hsome => by rw [hcontent] at hsome; cases hsome
  | some content =>
      by_cases hvacant : content.Vacant
      · rw [Option.getD_some, contentPayload, if_pos (Json.isVacant_iff.mpr hvacant)]
        refine .silent h fun other hother => ?_
        rw [hcontent] at hother
        cases hother
        exact hvacant
      · rw [Option.getD_some, contentPayload, if_neg (fun h => hvacant (Json.isVacant_iff.mp h))]
        exact .content h hcontent hvacant

theorem completionResult_of_misplaced (base model : String) (h : FirstMessage data message)
    (hkind : ¬ message.IsObject) :
    completionResult base model data = .error (.noMembers message.kind) :=
  completionResult_of_error (completionContent_of_misplaced h hkind)

theorem not_due_of_misplaced (base model : String) (h : FirstMessage data message)
    (hkind : ¬ message.IsObject) : ¬ Due data (completionResult base model data) := by
  have hother : ∀ members, ¬ FirstMessage data (.object members) := fun members hobject =>
    hkind ⟨members, h.unique hobject⟩
  rw [completionResult_of_misplaced base model h hkind]
  generalize hresult : Except.error (Error.noMembers message.kind) = result
  intro hdue
  cases hdue with
  | content hobject | silent hobject => exact hother _ hobject
  | misshapen _ hcause =>
      cases hresult
      cases hcause

/-- A model served nearby gives the result that is due for a body exactly when no value other than
an object stands in the place of the message. For such a value the cause names its kind. -/
theorem completion_due_iff (base model : String) (data : Json) :
    (Due data (completionResult base model data) ↔
      ∀ message, FirstMessage data message → message.IsObject) ∧
      ∀ message, FirstMessage data message → ¬ message.IsObject →
        completionResult base model data = .error (.noMembers message.kind) := by
  refine ⟨⟨fun hdue message hmessage => ?_, fun hobject => ?_⟩, fun message hmessage hkind =>
    completionResult_of_misplaced base model hmessage hkind⟩
  · by_contra hkind
    exact not_due_of_misplaced base model hmessage hkind hdue
  · by_cases hmessage : ∃ message, FirstMessage data message
    · obtain ⟨message, hmessage⟩ := hmessage
      obtain ⟨members, rfl⟩ := hobject message hmessage
      exact due_of_message hmessage
    · have hnone : ∀ message, ¬ FirstMessage data message := not_exists.mp hmessage
      rw [completionResult_of_error (completionContent_of_none hnone)]
      exact .misshapen (fun members => hnone _) rfl rfl

/-- A message that is null is not told as a wrong shape, although a message that is missing is. -/
theorem null_message_not_due :
    ¬ Due (.object [("choices", .array [.object [("message", .null)]])])
      (completionResult "" ""
        (.object [("choices", .array [.object [("message", .null)]])])) := by
  have hmessage :
      FirstMessage (.object [("choices", .array [.object [("message", .null)]])]) .null :=
    .intro rfl rfl
  refine not_due_of_misplaced "" "" hmessage ?_
  rintro ⟨members, hmembers⟩
  cases hmembers

end Fallback

end Reckoner
