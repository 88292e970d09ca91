import Reckoner.Proofs.Keypad.Fusion
import Reckoner.Proofs.Session.Run

/-!
Texts composed by pressing keys. From an empty buffer, while the initial result is displayed, the
keys that insert something leave in the buffer what they insert, one text after the other. The
buffer is read as its pieces are alone if and only if none of them fuses with those after it.
-/

namespace Reckoner

namespace Keypad

/-- The keys that a text is composed with: those that insert something, and the modifier. Keys that
clear, delete, evaluate or listen are not among them. -/
def composingKeys : List String :=
  numericKeys ++ operatorKeys ++ functionKeys.map (·.1) ++ literalKeys.map (·.1) ++ ["2nd"]

/-- The text that a key inserts, of the tables or its own. Digits, points and operators are in no
table and insert themselves. -/
def insertionOf (modifier : Modifier) (key : String) : String :=
  (insertion? key modifier).getD key

/-- The texts that keys insert when they are pressed one after the other. The modifier inserts
nothing; it changes what the keys after it insert. -/
def inserted : Modifier → List String → List String
  | _, [] => []
  | modifier, key :: rest =>
    if key = "2nd" then inserted modifier.toggle rest
    else insertionOf modifier key :: inserted modifier rest

theorem insertionOf_cases (modifier : Modifier) : ∀ key ∈ composingKeys, key ≠ "2nd" →
    insertionOf modifier key ∈ numericKeys ∨ insertionOf modifier key ∈ wholeInsertions := by
  cases modifier <;> decide

theorem inserted_cases {modifier : Modifier} {keys : List String}
    (h : ∀ key ∈ keys, key ∈ composingKeys) :
    ∀ text ∈ inserted modifier keys, text ∈ numericKeys ∨ text ∈ wholeInsertions := by
  induction keys generalizing modifier with
  | nil => simp [inserted]
  | cons key rest ih =>
      have hrest {modifier : Modifier} :=
        @ih modifier fun other hin => h other (List.mem_cons_of_mem key hin)
      unfold inserted
      split
      · exact hrest
      · rename_i hkey
        exact List.forall_mem_cons.mpr
          ⟨insertionOf_cases modifier key (h key (by simp)) hkey, hrest⟩

theorem insertion?_modifier (modifier : Modifier) : insertion? "2nd" modifier = none := by
  cases modifier <;> decide

theorem not_command_of_mem_composingKeys : ∀ key ∈ composingKeys,
    key ∉ ["AC", "=", "DEL", "Deg", "MIC"] := by
  decide

end Keypad

namespace Session

open Keypad Expression

/-- The session with more text in its buffer, and otherwise as it was. Neither the idleness nor the
result changes, so more keys may follow. -/
def extended (text : String) (session : Session) : Session :=
  { session with buffer := session.buffer ++ text }

variable {session : Session}

theorem typeLiteral_of_initial (hidle : session.evaluating = none)
    (hresult : session.result = initialResult) (literal : String) :
    session.typeLiteral literal = (session.extended literal, true) := by
  simp [typeLiteral, edit_of_idle hidle, startsOver, hresult, extended]

theorem press_modifier (hidle : session.evaluating = none) (context : Context) :
    (session.press context "2nd").1 = session.toggleModifier := by
  simp [press, isEvaluating, hidle, insertion?_modifier]

theorem press_inserting (hidle : session.evaluating = none)
    (hresult : session.result = initialResult) (context : Context) {key : String}
    (hkey : key ∈ composingKeys) (hmodifier : key ≠ "2nd") :
    (session.press context key).1 = session.extended (insertionOf session.modifier key) := by
  have hcommand := not_command_of_mem_composingKeys key hkey
  unfold press insertionOf
  simp only [isEvaluating, hidle, Option.isSome_none, Bool.false_eq_true, if_false]
  split
  · rename_i text htext
    rw [htext, Option.getD_some, append, edit_of_idle hidle]
    rfl
  · rename_i htext
    rw [htext, Option.getD_none]
    -- of the keys with a meaning of their own only the modifier is among those that compose
    split
    case h_5 => exact absurd rfl hmodifier
    case h_7 => rw [typeLiteral_of_initial hidle hresult]
    all_goals exact absurd (by simp) hcommand

/-- Keys pressed one after the other append what they insert. While the initial result is displayed
no key starts over, so nothing is replaced. The induction is on the keys, and the modifier changes
along the way. -/
theorem buffer_run_press (hidle : session.evaluating = none)
    (hresult : session.result = initialResult) {steps : List Step} {keys : List String}
    (hsteps : steps.map Step.operation = keys.map .press)
    (hkeys : ∀ key ∈ keys, key ∈ composingKeys) :
    (session.run steps).buffer =
      session.buffer ++ String.join (inserted session.modifier keys) := by
  induction keys generalizing session steps with
  | nil =>
      obtain rfl := List.map_eq_nil_iff.mp hsteps
      simp [run, inserted]
  | cons key rest ih =>
      obtain ⟨step, others, rfl, hstep, hothers⟩ := List.map_eq_cons_iff.mp hsteps
      have hrest := fun other hin => hkeys other (List.mem_cons_of_mem key hin)
      have hfirst : session.run (step :: others) =
          (session.press step.context key).1.run others := by
        rw [run, List.foldl_cons, hstep]
        rfl
      rw [hfirst]
      by_cases hmodifier : key = "2nd"
      · subst hmodifier
        rw [press_modifier hidle, inserted, if_pos rfl]
        exact @ih session.toggleModifier hidle hresult _ hothers hrest
      · rw [press_inserting hidle hresult _ (hkeys key (by simp)) hmodifier, inserted,
          if_neg hmodifier, String.join_cons, ← String.append_assoc]
        exact @ih (session.extended _) hidle hresult _ hothers hrest

/-- A text that is composed with keys whose pieces are read alone is read as those pieces one after
the other if and only if none of them fuses with those after it. -/
theorem lexemes_pressed_iff (hidle : session.evaluating = none) (hbuffer : session.buffer = "")
    (hresult : session.result = initialResult) {steps : List Step} {keys : List String}
    (hsteps : steps.map Step.operation = keys.map .press)
    (hkeys : ∀ key ∈ keys, key ∈ composingKeys) {found : List (List Lexeme)}
    (hfound : (pieces (inserted session.modifier keys)).map lexemes = found.map .ok) :
    lexemes (session.run steps).buffer = .ok found.flatten ↔
      separate (pieces (inserted session.modifier keys)) = true := by
  have hcases := @inserted_cases session.modifier _ hkeys
  have hpieces : ∀ piece ∈ pieces (inserted session.modifier keys), IsPiece piece :=
    fun _ => isPiece_of_mem hcases
  rw [buffer_run_press hidle hresult hsteps hkeys, hbuffer, String.empty_append, ← join_pieces]
  exact lexemes_join_iff hpieces (pieces_apart hcases) hfound

/-- Some keys pressed while a service answers in time. None of them evaluates, so the service is not
asked. -/
def presses (keys : List String) : List Step := keys.map fun key => ⟨answering, .press key⟩

def newlyCreated : Session := create {} true none

/-- Keys under both modifiers. The modifier is pressed twice, so the keys behind it insert what they
did at first. -/
def apartKeys : List String := ["1", "2", "×", "2nd", "ln", "(", "2nd", "sin", "π", ")"]

def apartLexemes : List (List Lexeme) :=
  [[.number 12], [.operator .times], [.name "e", .operator .power], [.opening],
    [.name "sin", .opening], [.name "pi"], [.closing]]

theorem lexemes_pressed_apart :
    newlyCreated.evaluating = none ∧ newlyCreated.buffer = "" ∧
      newlyCreated.result = initialResult ∧ (∀ key ∈ apartKeys, key ∈ composingKeys) ∧
      (pieces (inserted newlyCreated.modifier apartKeys)).map lexemes = apartLexemes.map .ok ∧
      lexemes (newlyCreated.run (presses apartKeys)).buffer = .ok apartLexemes.flatten := by
  have hkeys : ∀ key ∈ apartKeys, key ∈ composingKeys := by decide +kernel
  have hfound : (pieces (inserted newlyCreated.modifier apartKeys)).map lexemes =
      apartLexemes.map .ok := by
    decide +kernel
  have hsteps : (presses apartKeys).map Step.operation = apartKeys.map .press := rfl
  refine ⟨rfl, rfl, rfl, hkeys, hfound, ?_⟩
  exact (lexemes_pressed_iff rfl rfl rfl hsteps hkeys hfound).mpr (by decide +kernel)

/-- The key of the constant between two digits makes an exponent. The three keys are three lexemes
alone and one number together. -/
theorem exponent_key_fuses :
    (∀ key ∈ ["2", "e", "3"], key ∈ composingKeys) ∧
      (pieces (inserted newlyCreated.modifier ["2", "e", "3"])).map lexemes =
        [.ok [.number 2], .ok [.name "e"], .ok [.number 3]] ∧
      lexemes (newlyCreated.run (presses ["2", "e", "3"])).buffer = .ok [.number 2000] ∧
      lexemes (newlyCreated.run (presses ["2", "e", "3"])).buffer ≠
        .ok [.number 2, .name "e", .number 3] := by
  decide +kernel

end Session

end Reckoner
