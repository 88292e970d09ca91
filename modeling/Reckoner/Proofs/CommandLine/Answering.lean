import Reckoner.Proofs.CommandLine.Passage
import Reckoner.Proofs.Evaluation
import Reckoner.Proofs.Session.Failure

/-!
Answering lines of the dialogue. Everything that a line asks for ends normally, as results are
rounded to places that rounding never fails for: the one thing that keeps a line from being answered
is a tag in a text that is printed unescaped, which is the name of an unknown command or the
argument that selects no entry.
-/

namespace Reckoner

/-- No operation crashes while results are rounded to places that rounding never fails for. An
answer never does, and an evaluation only where its result cannot be rounded. -/
theorem Session.complete_ne_crashed {context : Context} (hlow : 0 ≤ context.places)
    (hhigh : context.places ≤ 91) (operation : Operation) (service : Fallback.Service)
    (session : Session) (cause : FormatError) :
    (session.complete context operation service).2.1 ≠ .started (.crashed cause) := by
  unfold complete
  cases hperform : session.perform context operation with
  | mk after response =>
  dsimp only
  split
  · rintro rfl
    obtain ⟨-, -, hprimary, -⟩ := beginEvaluation_crashed_iff.mp (perform_started hperform)
    rcases evaluatePrimary_success_or_rejected session.angleMode hlow hhigh session.buffer with
      ⟨text, hvalue⟩ | ⟨cause, hvalue⟩ <;> rw [hprimary] at hvalue <;> cases hvalue
  · simp [perform]

namespace CommandLine

open Console

namespace Dialogue

variable {context : Session.Context}

theorem press_returns (hlow : 0 ≤ context.places) (hhigh : context.places ≤ 91) (now : String)
    (dialogue : Dialogue) (key : String) (service : Fallback.Service) :
    ∃ after handled, press context now dialogue key service = ⟨"", after, .ok handled⟩ := by
  have hcrashed := dialogue.session.complete_ne_crashed hlow hhigh (.press key) service
  unfold press
  cases hcomplete : dialogue.session.complete context (.press key) service with
  | mk session rest =>
  obtain ⟨response, after⟩ := rest
  rw [hcomplete] at hcrashed
  rw [Report.bind_of_ok (Report.withService_of_eq (by rw [hcomplete]))]
  dsimp only
  split
  · exact absurd rfl (hcrashed _)
  · exact ⟨after, _, rfl⟩

theorem pressAll_returns (hlow : 0 ≤ context.places) (hhigh : context.places ≤ 91) (now : String)
    (keys : List String) (dialogue : Dialogue) (service : Fallback.Service) :
    ∃ after handled,
      keys.foldlM (press context now) dialogue service = ⟨"", after, .ok handled⟩ := by
  induction keys generalizing dialogue service with
  | nil => exact ⟨service, dialogue, rfl⟩
  | cons key keys ih =>
      obtain ⟨middle, pressed, hpress⟩ := press_returns hlow hhigh now dialogue key service
      obtain ⟨after, handled, hkeys⟩ := ih pressed middle
      refine ⟨after, handled, ?_⟩
      rw [List.foldlM_cons, Report.bind_of_ok hpress, hkeys]
      rfl

def helpShown : String :=
  "Keypad\n" ++
  "  Enter keypad tokens separated by spaces, e.g. 2 + 3 = or sin 90 ) =.\n" ++
  "  Special keys: AC = DEL Deg 2nd sin cos tan lg ln √ x^y 1/x ! e π ( ) MIC\n" ++
  "  Any other token is typed as-is.\n" ++
  "\n" ++
  "Commands\n" ++
  "  :say TEXT    dictate TEXT as one utterance\n" ++
  "  :history     list history\n" ++
  "  :select N    load history entry N\n" ++
  "  :help        show this help\n" ++
  "  :quit        leave"

theorem renderMarkup_helpText :
    (renderMarkup helpText).toOption = some helpShown.toList := by
  unfold renderMarkup helpText helpShown
  simp only [String.toList_append, String.reduceToList]
  decide +kernel

theorem prints_help : Prints (.line helpText) True [.text helpShown] := by
  have hshown := renderMarkup_helpText
  cases hrendered : renderMarkup helpText with
  | error cause =>
      rw [hrendered] at hshown
      cases hshown
  | ok shown =>
      rw [hrendered] at hshown
      exact .of_rendered ⟨shown, hrendered, fun _ => Option.some.inj hshown⟩

/-- A remark in red, whose own words `front` stand before a text. The text is not escaped, so it
must not hold a tag together with those words. -/
theorem prints_red {opening front text : String} (hopening : opening = "[" ++ "red" ++ "]" ++ front)
    (h : Untagged (front ++ text).toList) :
    Prints (.line (opening ++ text ++ "[/]")) (BareExact (front ++ text))
      [.text (front ++ text)] := by
  have hmarkup : opening ++ text ++ "[/]" = "[" ++ "red" ++ "]" ++ (front ++ text) ++ "[/]" := by
    simp only [hopening, String.append_assoc]
  rw [hmarkup]
  exact .bare (by decide) h

/-- The entry of the history that an argument selects. An argument that is no whole number selects
none, like an index beyond the entries. -/
def selected? (argument : String) (session : Session) : Option Entry :=
  (integer? argument).bind fun index => session.history.get? index

/-- The text that is printed without being escaped when an instruction is obeyed. There is one in
two cases only: an entry that is not found and a command that is not known. -/
def bareText? (session : Session) : Instruction → Option String
  | .select argument =>
    if (selected? argument session).isNone then some ("No history entry: " ++ argument) else none
  | .unknown name => some ("Unknown command: " ++ name)
  | _ => none

/-- What is to be shown when an instruction is obeyed, before the display is. Most instructions show
nothing of their own. -/
def answers (dialogue : Dialogue) : Instruction → List Passage
  | .help => [.text helpShown]
  | .history => dialogue.listed
  | instruction => (bareText? dialogue.session instruction).toList.map .text

/-- Nothing that is printed unescaped when an instruction is obeyed holds a tag. The times of the
history are such texts, too. -/
structure Unmarked (dialogue : Dialogue) (instruction : Instruction) : Prop where
  text : ∀ text ∈ bareText? dialogue.session instruction, Untagged text.toList
  times : instruction = .history → ∀ time ∈ dialogue.times, Untagged time.toList

/-- The console changes nothing about the texts that are printed when an instruction is obeyed. This
is asked for in addition to printing without fail, which needs less. -/
structure AnswersExactly (dialogue : Dialogue) (instruction : Instruction) : Prop where
  text : ∀ text ∈ bareText? dialogue.session instruction, BareExact text
  history : instruction = .history → dialogue.ListsExactly

theorem select_of_none {argument : String} {session : Session}
    (h : selected? argument session = none) :
    select argument session = (do
      .line ("[red]No history entry: " ++ argument ++ "[/]")
      return session) := by
  unfold selected? at h
  unfold select
  cases hindex : integer? argument with
  | none => rfl
  | some index =>
      rw [hindex, Option.bind_some] at h
      simp only [Session.selectHistory, h]

theorem exists_select_of_some {argument : String} {session : Session} {entry : Entry}
    (h : selected? argument session = some entry) :
    ∃ loaded, select argument session = pure loaded := by
  obtain ⟨index, hindex, hentry⟩ := Option.bind_eq_some_iff.mp h
  simp only [select, hindex, Session.selectHistory, hentry]
  exact ⟨_, rfl⟩

/-- An argument that selects no entry is told, and one that selects an entry prints nothing. Only
the former can fail, if there is a tag in the argument. The service is not asked in either case, so
it is the same afterwards. -/
theorem select_returns {argument : String} {session : Session}
    (h : ∀ text ∈ bareText? session (.select argument), Untagged text.toList)
    (service : Fallback.Service) :
    ∃ answer loaded, select argument session service = ⟨answer, service, .ok loaded⟩ ∧
      ((∀ text ∈ bareText? session (.select argument), BareExact text) →
        ShowsAll ((bareText? session (.select argument)).toList.map .text) answer) := by
  have hopening : "[red]No history entry: " = "[" ++ "red" ++ "]" ++ "No history entry: " := by
    decide
  cases hselected : selected? argument session with
  | none =>
      have hbare :
          bareText? session (.select argument) = some ("No history entry: " ++ argument) := by
        simp only [bareText?, hselected]
        rfl
      obtain ⟨answer, hanswer, hshown⟩ := prints_red hopening (h _ hbare) service
      refine ⟨answer, session, ?_, fun hexact => ?_⟩
      · rw [select_of_none hselected]
        exact Report.bind_pure_of_ok hanswer
      · rw [hbare]
        exact hshown (hexact _ hbare)
  | some entry =>
      obtain ⟨loaded, hselect⟩ := exists_select_of_some hselected
      refine ⟨"", loaded, ?_, fun _ => ?_⟩
      · rw [hselect]
        rfl
      · simp only [bareText?, hselected]
        exact .nil

/-- Every instruction is obeyed, whatever comes of it, if nothing that is printed unescaped holds a
tag. Each instruction has a lemma of its own for what it prints, and they are put together here. -/
theorem obey_returns (hlow : 0 ≤ context.places) (hhigh : context.places ≤ 91) (now : String)
    {dialogue : Dialogue} {instruction : Instruction} (h : dialogue.Unmarked instruction)
    (service : Fallback.Service) :
    ∃ answer after handled,
      dialogue.obey context now instruction service = ⟨answer, after, .ok handled⟩ ∧
        (dialogue.AnswersExactly instruction → ShowsAll (dialogue.answers instruction) answer) := by
  cases instruction with
  | leave => exact ⟨"", service, dialogue, rfl, fun _ => .nil⟩
  | help =>
      obtain ⟨answer, hanswer, hshown⟩ := prints_help service
      exact ⟨answer, service, dialogue, Report.bind_pure_of_ok hanswer, fun _ => hshown trivial⟩
  | history =>
      obtain ⟨answer, hanswer, hshown⟩ := dialogue.prints_history (h.times rfl) service
      exact ⟨answer, service, dialogue, Report.bind_pure_of_ok hanswer,
        fun hexact => hshown (hexact.history rfl)⟩
  | select argument =>
      obtain ⟨answer, loaded, hselect, hshown⟩ := select_returns h.text service
      exact ⟨answer, service, _, Report.bind_pure_of_ok hselect, fun hexact => hshown hexact.text⟩
  | say text => exact ⟨"", service, _, rfl, fun _ => .nil⟩
  | unknown name =>
      have hopening : "[red]Unknown command: " = "[" ++ "red" ++ "]" ++ "Unknown command: " := by
        decide
      obtain ⟨answer, hanswer, hshown⟩ := prints_red hopening (h.text _ rfl) service
      exact ⟨answer, service, dialogue, Report.bind_pure_of_ok hanswer,
        fun hexact => hshown (hexact.text _ rfl)⟩
  | keys keys =>
      obtain ⟨after, handled, hkeys⟩ := pressAll_returns hlow hhigh now keys dialogue service
      exact ⟨"", after, handled, hkeys, fun _ => .nil⟩

/-- A dialogue in which the capture ran while a line was awaited. The line meets the session in this
state, so what it asks for is judged by it. -/
def settled (dialogue : Dialogue) : Dialogue := { dialogue with session := dialogue.session.settle }

/-- What comes of a line that does not leave the dialogue: nothing if it is blank. Otherwise its
instruction is obeyed and the display printed, and both show what they are to show. -/
inductive Responds (context : Session.Context) (now line : String) (dialogue : Dialogue)
    (service : Fallback.Service) : Finished (Option Dialogue) → Prop where
  | blank (hline : Instruction.ofLine? line = none) :
      Responds context now line dialogue service ⟨"", service, .ok (some dialogue.settled)⟩
  | obeyed {instruction : Instruction} (hline : Instruction.ofLine? line = some instruction)
      {answer shown : String} {after : Fallback.Service} {handled : Dialogue}
      (hobey : dialogue.settled.obey context now instruction service = ⟨answer, after, .ok handled⟩)
      (hanswer : dialogue.settled.AnswersExactly instruction →
        ShowsAll (dialogue.settled.answers instruction) answer)
      (hshown : DisplaysExactly handled.session → ShowsAll (displayed handled.session) shown) :
      Responds context now line dialogue service ⟨answer ++ shown, after, .ok (some handled.seen)⟩

/-- A line is answered if nothing that is printed unescaped for it holds a tag. No condition on the
session is needed for that, as its texts are escaped. Behind what the instruction prints comes the
display, and that can always be printed. -/
theorem respond_responds (hlow : 0 ≤ context.places) (hhigh : context.places ≤ 91) (now : String)
    {line : String} {dialogue : Dialogue} (hleave : Instruction.ofLine? line ≠ some .leave)
    (hmarked : ∀ instruction ∈ Instruction.ofLine? line, dialogue.settled.Unmarked instruction)
    (service : Fallback.Service) :
    Responds context now line dialogue service (dialogue.respond context now line service) := by
  unfold respond
  cases hline : Instruction.ofLine? line with
  | none => exact .blank hline
  | some instruction =>
      obtain ⟨answer, after, handled, hobey, hanswer⟩ :=
        obey_returns hlow hhigh now (hmarked instruction hline) service
      obtain ⟨shown, hdisplay, hshown⟩ := handled.display_returns after
      have hreport : (do
          let dialogue ← dialogue.settled.obey context now instruction
          return some (← dialogue.display) : Report (Option Dialogue)) service =
          ⟨answer ++ shown, after, .ok (some handled.seen)⟩ := by
        rw [Report.bind_of_ok hobey, Report.bind_pure_of_ok hdisplay]
      have hresponds : Responds context now line dialogue service _ :=
        .obeyed hline hobey hanswer hshown
      rw [← hreport] at hresponds
      cases instruction with
      | leave => exact absurd hline hleave
      | _ => exact hresponds

end Dialogue

end CommandLine

end Reckoner
