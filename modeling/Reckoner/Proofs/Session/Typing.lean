import Reckoner.Proofs.Session.Run

/-!
Literals typed after a result is shown. Whether a literal replaces the buffer is decided by
comparing the buffer with the displayed result, at every literal. The first literal finds them
equal; a later one finds them equal again when the literals typed so far spell the result once more,
and then what was typed is lost. That is the only way to lose it.
-/

namespace Reckoner.Session

/-- The buffer after a literal, while `shown` is the displayed result. Only equality with it counts,
not how the buffer came to have its text. -/
def typeOver (shown buffer literal : String) : String :=
  if buffer = shown ∧ literal ∉ continuationOperators then literal else buffer ++ literal

/-- The session after some literals were typed one by one. Each finds the buffer as the one before
has left it. -/
def typeLiterals (literals : List String) (session : Session) : Session :=
  literals.foldl (fun session literal => (session.typeLiteral literal).1) session

theorem typeLiteral_of_idle {session : Session} (hidle : session.evaluating = none)
    (hresult : session.result ≠ initialResult) (literal : String) :
    (session.typeLiteral literal).1 =
      { session with buffer := typeOver session.result session.buffer literal } := by
  simp [typeLiteral, edit_of_idle hidle, startsOver, typeOver, hresult]

/-- Typing changes the buffer only, so a run of literals is a fold over it. The displayed result
stays the same all the while. -/
theorem typeLiterals_of_idle {session : Session} (hidle : session.evaluating = none)
    (hresult : session.result ≠ initialResult) (literals : List String) :
    session.typeLiterals literals =
      { session with buffer := literals.foldl (typeOver session.result) session.buffer } := by
  induction literals generalizing session with
  | nil => rfl
  | cons literal rest ih =>
      have hfirst := typeLiteral_of_idle hidle hresult literal
      simp only [typeLiterals, List.foldl_cons] at ih ⊢
      rw [hfirst]
      exact ih hidle hresult

theorem length_foldl_typeOver_le (shown buffer : String) (literals : List String) :
    (literals.foldl (typeOver shown) buffer).length ≤
      buffer.length + (String.join literals).length := by
  induction literals generalizing buffer with
  | nil => simp
  | cons literal rest ih =>
      have hrest := ih (typeOver shown buffer literal)
      have hfirst : (typeOver shown buffer literal).length ≤ buffer.length + literal.length := by
        unfold typeOver
        split <;> simp
      simp only [List.foldl_cons, String.join_cons, String.length_append] at hrest ⊢
      omega

/-- Literals after an operator are appended: the buffer is longer than the result by then, so it
cannot equal it again. -/
theorem foldl_typeOver_of_length_lt {shown buffer : String} (h : shown.length < buffer.length)
    (literals : List String) :
    literals.foldl (typeOver shown) buffer = buffer ++ String.join literals := by
  induction literals generalizing buffer with
  | nil => simp
  | cons literal rest ih =>
      have hne : buffer ≠ shown := by
        rintro rfl
        omega
      have hfirst : typeOver shown buffer literal = buffer ++ literal := by simp [typeOver, hne]
      rw [List.foldl_cons, hfirst, ih (by rw [String.length_append]; omega), String.join_cons,
        String.append_assoc]

/-- Literals after some text are all appended unless that text comes to spell the result, followed
by a literal that is no operator. The literal then takes the place of a text that is not empty. The
replaced text is missing from then on, and so the lengths differ. -/
theorem foldl_typeOver_eq_append_iff {shown : String} (hshown : shown ≠ "") (buffer : String)
    (literals : List String) :
    literals.foldl (typeOver shown) buffer = buffer ++ String.join literals ↔
      ∀ typed next rest, literals = typed ++ next :: rest → buffer ++ String.join typed = shown →
        next ∈ continuationOperators := by
  induction literals generalizing buffer with
  | nil => simp
  | cons literal others ih =>
      by_cases hreplaced : buffer = shown ∧ literal ∉ continuationOperators
      · obtain ⟨rfl, hliteral⟩ := hreplaced
        have hpos : 0 < buffer.length := by
          rw [Nat.pos_iff_ne_zero]
          exact fun hzero => hshown (String.length_eq_zero_iff.mp hzero)
        constructor
        · intro heq
          have hshort := length_foldl_typeOver_le buffer literal others
          have hlength := congrArg String.length heq
          simp only [List.foldl_cons, typeOver, hliteral, not_false_eq_true, and_self, if_true,
            String.join_cons, String.length_append] at hlength hshort
          omega
        · intro hkept
          exact absurd (hkept [] literal others rfl (by simp)) hliteral
      · have hfirst : typeOver shown buffer literal = buffer ++ literal := by
          simp only [typeOver, hreplaced, if_false]
        rw [List.foldl_cons, hfirst, String.join_cons, ← String.append_assoc, ih]
        constructor
        · intro hkept typed next rest hsplit hspelled
          cases typed with
          | nil =>
              obtain ⟨rfl, rfl⟩ := List.cons.inj hsplit
              refine Decidable.byContradiction fun hnext => hreplaced ⟨?_, hnext⟩
              simpa using hspelled
          | cons first typed =>
              obtain ⟨rfl, hothers⟩ := List.cons.inj hsplit
              rw [String.join_cons, ← String.append_assoc] at hspelled
              exact hkept typed next rest hothers hspelled
        · intro hkept typed next rest hsplit hspelled
          apply hkept (literal :: typed) next rest (by rw [hsplit]; rfl)
          rwa [String.join_cons, ← String.append_assoc]

/-- Over an empty result appending and replacing are the same, since only an empty buffer is
replaced. -/
theorem foldl_typeOver_empty (buffer : String) (literals : List String) :
    literals.foldl (typeOver "") buffer = buffer ++ String.join literals := by
  induction literals generalizing buffer with
  | nil => simp
  | cons literal rest ih =>
      have hfirst : typeOver "" buffer literal = buffer ++ literal := by
        unfold typeOver
        split
        · rename_i hempty
          simp [hempty.1]
        · rfl
      rw [List.foldl_cons, hfirst, ih, String.join_cons, String.append_assoc]

/-- What literals typed after the result `shown` should leave in the buffer: an operator continues
from the result, and anything else starts over. -/
def intended (shown : String) (literals : List String) : String :=
  if literals.head?.any (· ∈ continuationOperators) then shown ++ String.join literals
  else String.join literals

/-- Some of the literals, the first of them no operator, spell the result `shown` once more, and
another literal follows that is no operator either. -/
def Respelled (shown : String) (literals : List String) : Prop :=
  shown ≠ "" ∧ (∀ first ∈ literals.head?, first ∉ continuationOperators) ∧
    ∃ typed next rest, literals = typed ++ next :: rest ∧ typed ≠ [] ∧
      String.join typed = shown ∧ next ∉ continuationOperators

theorem pos_length_of_operator {literal : String} (h : literal ∈ continuationOperators) :
    0 < literal.length := by
  revert literal
  decide

/-- Literals typed over a displayed result leave what they should unless they respell it. Where the
first of them is an operator they cannot. -/
theorem foldl_typeOver_eq_intended_iff (shown first : String) (rest : List String) :
    (first :: rest).foldl (typeOver shown) shown = intended shown (first :: rest) ↔
      ¬ Respelled shown (first :: rest) := by
  by_cases hfirst : first ∈ continuationOperators
  · have hlength : shown.length < (shown ++ first).length := by
      have hpos := pos_length_of_operator hfirst
      rw [String.length_append]
      omega
    have hcontinued : typeOver shown shown first = shown ++ first := by simp [typeOver, hfirst]
    simp [List.foldl_cons, hcontinued, foldl_typeOver_of_length_lt hlength, intended, Respelled,
      hfirst, String.append_assoc]
  · have hstart : typeOver shown shown first = first := by simp [typeOver, hfirst]
    have hintended : intended shown (first :: rest) = first ++ String.join rest := by
      simp [intended, hfirst]
    rw [List.foldl_cons, hstart, hintended]
    by_cases hshown : shown = ""
    · subst hshown
      simp [foldl_typeOver_empty, Respelled]
    rw [foldl_typeOver_eq_append_iff hshown]
    constructor
    · rintro hkept ⟨-, -, typed, next, others, hsplit, htyped, hspelled, hnext⟩
      cases typed with
      | nil => exact htyped rfl
      | cons literal typed =>
          obtain ⟨rfl, hrest⟩ := List.cons.inj hsplit
          rw [String.join_cons] at hspelled
          exact hnext (hkept typed next others hrest hspelled)
    · intro hnot typed next others hsplit hspelled
      refine Decidable.byContradiction fun hnext => hnot ⟨hshown, ?_, ?_⟩
      · intro literal member
        cases member
        exact hfirst
      · exact ⟨first :: typed, next, others, by rw [hsplit]; rfl, List.cons_ne_nil _ _,
          by rw [String.join_cons, hspelled], hnext⟩

/-- The result that an operation brought onto the display: that of an evaluation that succeeded, or
of a selected entry. -/
def Response.result? : Response → Option String
  | .started (.finished (.success text _)) => some text
  | .outcome (some (.success text _)) => some text
  | .entry (some selected) => some selected.result
  | _ => none

/-- A key answers whether it was taken, or begins an evaluation. So no key answers with an entry of
the history, or with the end of an evaluation that was under way. -/
theorem press_response (context : Context) (key : String) (session : Session) :
    (∃ accepted, (session.press context key).2 = .accepted accepted) ∨
      ∃ started, (session.press context key).2 = .started started := by
  unfold press
  split
  · exact Or.inl ⟨_, rfl⟩
  split
  · exact Or.inl ⟨_, rfl⟩
  split
  case h_2 => exact Or.inr ⟨_, rfl⟩
  all_goals exact Or.inl ⟨_, rfl⟩

theorem finishEvaluation_success {answer : Fallback.Answer} {before session : Session}
    {text : String} {viaFallback : Bool}
    (h : before.finishEvaluation answer = (session, some (.success text viaFallback))) :
    session.buffer = text ∧ session.result = text := by
  unfold finishEvaluation at h
  split at h
  · cases h
  · simp only [Prod.mk.injEq, Option.some.injEq] at h
    obtain ⟨rfl, houtcome⟩ := h
    rw [houtcome]
    exact commit_success _ _ _ _

theorem selectHistory_some {index : Int} {before session : Session} {entry : Entry}
    (h : before.selectHistory index = (session, some entry)) :
    session.buffer = entry.result ∧ session.result = entry.result := by
  unfold selectHistory at h
  split at h
  · cases h
  · cases h
    exact ⟨rfl, rfl⟩

/-- A result comes into the buffer and onto the display alike. That is why the first literal after
it finds the two equal. -/
theorem perform_result {context : Context} {operation : Operation} {before session : Session}
    {response : Response} {shown : String}
    (h : before.perform context operation = (session, response))
    (hresult : response.result? = some shown) :
    session.buffer = shown ∧ session.result = shown := by
  cases response with
  | started started =>
      have hbegin := perform_started h
      cases started with
      | finished outcome =>
          obtain rfl := beginEvaluation_finished hbegin
          cases outcome with
          | success text viaFallback =>
              cases hresult
              exact commit_success _ _ _ _
          | rejected | declined | unavailable => cases hresult
      | ignored | crashed | waiting => cases hresult
  | outcome outcome =>
      cases operation with
      | answer answer =>
          simp only [perform, Prod.map, id_eq, Prod.mk.injEq, Response.outcome.injEq] at h
          cases outcome with
          | none => cases hresult
          | some outcome =>
              cases outcome with
              | success text viaFallback =>
                  cases hresult
                  exact finishEvaluation_success (Prod.ext h.1 h.2)
              | rejected | declined | unavailable => cases hresult
      | press key =>
          have hresponse := congrArg Prod.snd h
          rcases press_response context key before with ⟨_, heq⟩ | ⟨_, heq⟩ <;>
            simp [perform, heq] at hresponse
      | _ => simp [perform, Prod.map] at h
  | entry entry? =>
      cases operation with
      | selectHistory index =>
          simp only [perform, Prod.map, id_eq, Prod.mk.injEq, Response.entry.injEq] at h
          cases entry? with
          | none => cases hresult
          | some entry =>
              cases hresult
              exact selectHistory_some (Prod.ext h.1 h.2)
      | press key =>
          have hresponse := congrArg Prod.snd h
          rcases press_response context key before with ⟨_, heq⟩ | ⟨_, heq⟩ <;>
            simp [perform, heq] at hresponse
      | _ => simp [perform, Prod.map] at h
  | done | accepted | angleMode | modifier | appended => cases hresult

/-- After an evaluation that succeeded or a selection, with a result other than the initial one on
the display of an idle session, a run of typed literals leaves exactly what was typed (after the
result, if the first literal is an operator) unless the literals respell the result on their way. -/
theorem typed_eq_intended_iff {context : Context} {operation : Operation} {before session : Session}
    {response : Response} {shown : String}
    (hperform : before.perform context operation = (session, response))
    (hresult : response.result? = some shown) (hidle : session.evaluating = none)
    (hshown : shown ≠ initialResult) (first : String) (rest : List String) :
    (session.typeLiterals (first :: rest)).buffer = intended shown (first :: rest) ↔
      ¬ Respelled shown (first :: rest) := by
  obtain ⟨hbuffer, rfl⟩ := perform_result hperform hresult
  rw [typeLiterals_of_idle hidle hshown, ← foldl_typeOver_eq_intended_iff, hbuffer]

/-- A new session whose first evaluation waits for the service. What the service answers is left to
the statements. -/
def beforeFive : Session :=
  (create {} true none).run [⟨answering, .append "("⟩, ⟨answering, .evaluate⟩]

def afterFive : Session := beforeFive.run [⟨answering, .answer (.reply "5")⟩]

theorem typed_eq_intended_after_five :
    (beforeFive.perform answering (.answer (.reply "5")) =
      (afterFive, .outcome (some (.success "5" true)))) ∧
      afterFive.evaluating = none ∧ "5" ≠ initialResult ∧
      ((afterFive.typeLiterals ["7", "5", "3"]).buffer = intended "5" ["7", "5", "3"] ↔
        ¬ Respelled "5" ["7", "5", "3"]) := by
  have hperform : beforeFive.perform answering (.answer (.reply "5")) =
      (afterFive, .outcome (some (.success "5" true))) := by decide +kernel
  have hidle : afterFive.evaluating = none := by decide +kernel
  have hshown : "5" ≠ initialResult := by decide
  exact ⟨hperform, hidle, hshown, typed_eq_intended_iff hperform rfl hidle hshown "7" ["5", "3"]⟩

/-- After the result five the literals five and three leave a three alone. The first starts over,
and then spells the result again. -/
theorem respelled_result_loses_literal :
    beforeFive.perform answering (.answer (.reply "5")) =
        (afterFive, .outcome (some (.success "5" true))) ∧
      afterFive.evaluating = none ∧
      (afterFive.typeLiterals ["5", "3"]).buffer = "3" ∧ intended "5" ["5", "3"] = "53" := by
  decide +kernel

end Reckoner.Session
