import Reckoner.Proofs.CommandLine.Answering

/-!
What the command line prints of texts that it is given. For every line of the dialogue but those
that leave it, and for every outcome of an evaluation, it returns normally and shows the texts as
they are, up to where lines break, if no text that is printed unescaped holds a tag. A single tag
that closes nothing breaks it.
-/

namespace Reckoner.CommandLine

open Console

/-- What is to be shown of an outcome: its text, or the marker of its failure and what is said about
it. -/
def outcomeTexts : Outcome → List String
  | .success text viaFallback => [text ++ if viaFallback then " (fallback)" else ""]
  | failure => failure.shown :: (failure.detail?.filter (!·.isEmpty)).toList

/-- The console changes nothing about the texts of an outcome. The remark about the service follows
a result directly, so it is part of what must not be changed. -/
def OutcomeExact : Outcome → Prop
  | .success text viaFallback =>
    Verbatim (text ++ if viaFallback then " (fallback)" else "").toList
  | failure => ∀ detail ∈ failure.detail?, BareExact detail

theorem bland_shown {outcome : Outcome} (h : outcome.isSuccess = false) :
    Bland outcome.shown.toList := by
  have hmarkers : Bland Outcome.declinedMarker.toList ∧ Bland Outcome.unavailableMarker.toList := by
    decide
  cases outcome with
  | success text viaFallback => cases h
  | declined => exact hmarkers.1
  | rejected cause => exact hmarkers.2
  | unavailable detail => exact hmarkers.2

/-- The remark that the fallback service gave a result. It is the one style in an outcome that is
not around the whole line. -/
theorem renders_remark :
    Renders (bracketed "dim".toList ++ ("(fallback)".toList ++ (bracketed ['/'] ++ [])))
      ("(fallback)".toList ++ []) := by
  have huntagged : Untagged "(fallback)".toList := untagged_of_not_mem (by decide)
  have hverbatim : Verbatim "(fallback)".toList :=
    verbatim_of_plain (by decide) (by decide) (by decide)
  have hdim : opensStyle "dim".toList = true := by decide
  obtain ⟨shown, hshown, hsame⟩ := exists_renders_bare hdim huntagged renders_nil
  rwa [hsame hverbatim (by simp [Closed])] at hshown

theorem prints_success (text : String) (viaFallback : Bool)
    (h : Untagged (text ++ if viaFallback then " (fallback)" else "").toList) :
    Prints (.line (text ++ if viaFallback then " [dim](fallback)[/]" else ""))
      (OutcomeExact (.success text viaFallback))
      ((outcomeTexts (.success text viaFallback)).map .text) := by
  cases viaFallback with
  | false =>
      exact .of_rendered ⟨_, renderFrom_untagged h [] 0, fun hverbatim =>
        visible_untagged hverbatim h⟩
  | true =>
      have htext :
          (text ++ " (fallback)").toList = (text.toList ++ [' ']) ++ "(fallback)".toList := by
        simp
      have hmarkup : (text ++ " [dim](fallback)[/]").toList = (text.toList ++ [' ']) ++
          (bracketed "dim".toList ++ ("(fallback)".toList ++ (bracketed ['/'] ++ []))) := by
        simp [bracketed]
      simp only [if_true, htext] at h
      have hstretch := h.of_append
      have hshown := renders_before_style hstretch (by simp [Closed]) (by decide) renders_remark
      rw [← hmarkup] at hshown
      refine .of_rendered ⟨_, hshown [] 0, fun hverbatim => ?_⟩
      have hverbatim : Verbatim (text ++ " (fallback)").toList := hverbatim
      rw [htext] at hverbatim
      rw [visible_untagged_append hverbatim hstretch (by decide), List.append_nil, ← htext]
      rfl

theorem prints_detail (detail? : Option String)
    (h : ∀ detail ∈ detail?.filter (!·.isEmpty), Untagged detail.toList) :
    Prints (printDetail detail?) (∀ detail ∈ detail?, BareExact detail)
      ((detail?.filter (!·.isEmpty)).toList.map .text) := by
  cases detail? with
  | none => exact .nothing _
  | some detail =>
      unfold printDetail
      cases hempty : detail.isEmpty with
      | true =>
          simp only [Option.filter_some, hempty]
          exact .nothing _
      | false =>
          have hopening : "[dim]" = "[" ++ "dim" ++ "]" := by decide
          simp only [Option.filter_some, hempty] at h ⊢
          rw [hopening]
          exact (Prints.bare (by decide) (h detail rfl)).weaken fun hexact => hexact detail rfl

theorem printFailure_returns {outcome : Outcome} (hfailure : outcome.isSuccess = false)
    (h : ∀ detail ∈ outcome.detail?.filter (!·.isEmpty), Untagged detail.toList)
    (service : Fallback.Service) :
    ∃ output,
      (do
        .line ("[red]" ++ outcome.shown ++ "[/]")
        printDetail outcome.detail?
        return 1 : Report Nat) service = ⟨output, service, .ok 1⟩ ∧
        ((∀ detail ∈ outcome.detail?, BareExact detail) →
          ShowsAll ((outcome.shown :: (outcome.detail?.filter (!·.isEmpty)).toList).map .text)
            output) := by
  have hopening : "[red]" = "[" ++ "red" ++ "]" := by decide
  have hbland := bland_shown hfailure
  have hred : opensStyle "red".toList = true := by decide
  have hmarker := Prints.bare hred hbland.untagged
  rw [← hopening] at hmarker
  obtain ⟨output, hprinted, hshown⟩ := hmarker service
  obtain ⟨more, hdetail, hshownMore⟩ := prints_detail outcome.detail? h service
  refine ⟨output ++ more, ?_, fun hexact => ?_⟩
  · rw [Report.bind_of_ok hprinted, Report.bind_pure_of_ok hdetail]
  · exact (hshown ⟨hbland.verbatim, hbland.closed⟩).append (hshownMore hexact)

/-- Every outcome is printed, with the status of a success or a failure, if none of its texts holds
a tag. -/
theorem printOutcome_returns {outcome : Outcome}
    (h : ∀ text ∈ outcomeTexts outcome, Untagged text.toList) (service : Fallback.Service) :
    ∃ output,
      printOutcome outcome service =
        ⟨output, service, .ok (if outcome.isSuccess then 0 else 1)⟩ ∧
        (OutcomeExact outcome → ShowsAll ((outcomeTexts outcome).map .text) output) := by
  cases outcome with
  | success text viaFallback =>
      obtain ⟨output, hprinted, hshown⟩ :=
        prints_success text viaFallback (h _ List.mem_cons_self) service
      exact ⟨output, Report.bind_pure_of_ok hprinted, hshown⟩
  | rejected | declined | unavailable =>
      exact printFailure_returns rfl (fun detail hdetail =>
        h detail (List.mem_cons_of_mem _ (Option.mem_toList.mpr hdetail))) service

/-- The command to evaluate comes to an outcome, and prints it if none of its texts holds a tag.
Rounding never fails for the places that are allowed, so there always is an outcome. Whether the
outcome is a success settles the exit code, and nothing else does. -/
theorem execute_evaluate {configuration : Configuration}
    (hlow : 0 ≤ configuration.settings.resultDecimals)
    (hhigh : configuration.settings.resultDecimals ≤ 91) (surroundings : Surroundings)
    (expression : String) (mode : AngleMode) (fallback : Bool) (service : Fallback.Service) :
    ∃ outcome after,
      evaluateInput mode configuration.settings.resultDecimals
          (surroundings.stageOf configuration.settings fallback) expression service =
        .ok (outcome, after) ∧
      ((∀ text ∈ outcomeTexts outcome, Untagged text.toList) → ∃ output,
        execute surroundings configuration (.evaluate expression mode fallback) service =
          ⟨output, after, .ok (.exited (if outcome.isSuccess then 0 else 1))⟩ ∧
        (OutcomeExact outcome → ShowsAll ((outcomeTexts outcome).map .text) output)) := by
  obtain ⟨outcome, after, hevaluated⟩ : ∃ outcome after,
      evaluateInput mode configuration.settings.resultDecimals
        (surroundings.stageOf configuration.settings fallback) expression service =
          .ok (outcome, after) := by
    rcases evaluatePrimary_success_or_rejected mode hlow hhigh expression with
      ⟨text, hprimary⟩ | ⟨cause, hprimary⟩
    all_goals
      rw [evaluateInput, hprimary]
      exact ⟨_, _, rfl⟩
  refine ⟨outcome, after, hevaluated, fun huntagged => ?_⟩
  obtain ⟨output, hprinted, hshown⟩ := printOutcome_returns huntagged after
  have hreport : evaluateAndPrint configuration.settings.resultDecimals
      (surroundings.stageOf configuration.settings fallback) mode expression service =
        ⟨output, after, .ok (if outcome.isSuccess then 0 else 1)⟩ := by
    unfold evaluateAndPrint
    rw [hevaluated]
    exact hprinted
  exact ⟨output, Report.bind_pure_of_ok hreport, hshown⟩

/-- Under the default settings every line that does not leave the dialogue is answered, and every
evaluation is printed with its status, if none of the texts that are printed unescaped holds a tag.
The texts are shown as they are where the console changes nothing else about them. -/
theorem returns_and_shows (service : Fallback.Service) :
    (∀ (stage : Fallback.Stage) (now line : String) (dialogue : Dialogue),
      Instruction.ofLine? line ≠ some .leave →
      (∀ instruction ∈ Instruction.ofLine? line, dialogue.settled.Unmarked instruction) →
      dialogue.Responds (.of {} stage) now line service
        (dialogue.respond (.of {} stage) now line service)) ∧
    ∀ (surroundings : Surroundings) (expression : String) (mode : AngleMode) (fallback : Bool),
      ∃ outcome after,
        evaluateInput mode ({} : Settings).resultDecimals (surroundings.stageOf {} fallback)
          expression service = .ok (outcome, after) ∧
        ((∀ text ∈ outcomeTexts outcome, Untagged text.toList) → ∃ output,
          execute surroundings {} (.evaluate expression mode fallback) service =
            ⟨output, after, .ok (.exited (if outcome.isSuccess then 0 else 1))⟩ ∧
          (OutcomeExact outcome → ShowsAll ((outcomeTexts outcome).map .text) output)) := by
  have hplaces : 0 ≤ ({} : Configuration).settings.resultDecimals ∧
      ({} : Configuration).settings.resultDecimals ≤ 91 := by
    decide
  refine ⟨fun stage now line dialogue hleave hmarked => ?_,
    fun surroundings expression mode fallback => ?_⟩
  · exact Dialogue.respond_responds hplaces.1 hplaces.2 now hleave hmarked service
  · exact execute_evaluate hplaces.1 hplaces.2 surroundings expression mode fallback service

/-- A service that answers in no time. Evaluations that need no service come to the same with it as
with any other. -/
def silent : Fallback.Service := { answer := fun _ _ => .timedOut }

/-- A closing tag that is the name of a command, or the text of an outcome, has nothing to close. So
printing fails for want of a style that is open, and nothing is shown. -/
theorem closing_tag_not_shown :
    (∃ cause, (Dialogue.respond (.of {} (.open true)) "00:00:00" ":[/]" (.create {} .radians)
      silent).result = .error (.markup cause)) ∧
    ∃ cause, (printOutcome (.success "[/]" true) silent).result = .error (.markup cause) :=
  ⟨⟨_, rfl⟩, ⟨_, rfl⟩⟩

theorem bareExact_foo : BareExact "Unknown command: foo" :=
  ⟨verbatim_of_plain (by decide) (by decide) (by decide), by simp [Closed]⟩

/-- An unknown command without a tag is named, and a sum is printed. None of the texts has a
bracket, so nothing is taken for a tag. -/
theorem foo_and_sum_shown :
    (∃ output after, Dialogue.respond (.of {} (.open true)) "00:00:00" ":foo" (.create {} .radians)
        silent = ⟨output, silent, .ok (some after)⟩ ∧
      ShowsAll [.text "Unknown command: foo", .text "   ", .text "  0  radians"] output) ∧
    ∃ output, execute ⟨{}, fun _ => .missing, fun _ => .open true⟩ {}
        (.evaluate "1+1" .radians true) silent = ⟨output, silent, .ok (.exited 0)⟩ ∧
      ShowsAll [.text "2"] output := by
  have hline : Instruction.ofLine? ":foo" = some (.unknown "foo") := by decide
  have hleave : Instruction.ofLine? ":foo" ≠ some .leave := by decide
  have hmarked : ∀ instruction ∈ Instruction.ofLine? ":foo",
      (Dialogue.create {} .radians).settled.Unmarked instruction := by
    intro instruction hinstruction
    obtain rfl := Option.some.inj (hline.symm.trans hinstruction)
    refine ⟨fun text htext => ?_, fun hhistory => by cases hhistory⟩
    obtain rfl := Option.some.inj htext
    exact untagged_of_not_mem (by decide)
  have hprimary : evaluatePrimary .radians 10 "1+1" = .ok (.success "2" false) := by decide +kernel
  obtain ⟨hlines, hevaluations⟩ := returns_and_shows silent
  constructor
  · have hresponds := hlines (.open true) "00:00:00" ":foo" (.create {} .radians) hleave hmarked
    generalize Dialogue.respond (.of {} (.open true)) "00:00:00" ":foo" (.create {} .radians)
      silent = finished at hresponds ⊢
    cases hresponds with
    | blank hblank => cases hline.symm.trans hblank
    | @obeyed instruction hsome answer shown after handled hobey hanswer hshown =>
        obtain rfl := Option.some.inj (hline.symm.trans hsome)
        have hhandled : handled = .create {} .radians :=
          Except.ok.inj (congrArg Finished.result hobey).symm
        have hafter : after = silent := (congrArg Finished.service hobey).symm
        subst hhandled hafter
        refine ⟨_, _, rfl, (hanswer ⟨?_, fun hhistory => by cases hhistory⟩).append (hshown ?_)⟩
        · intro text htext
          obtain rfl := Option.some.inj htext
          exact bareExact_foo
        · have hempty : Bland "".toList := by decide
          have hzero : Bland "0".toList := by decide
          exact ⟨⟨hempty.verbatim, by decide⟩, ⟨hzero.verbatim, by decide⟩,
            fun _ hnone => by cases hnone⟩
  · obtain ⟨outcome, after, hevaluated, hprints⟩ :=
      hevaluations ⟨{}, fun _ => .missing, fun _ => .open true⟩ "1+1" .radians true
    have hsum : evaluateInput .radians ({} : Settings).resultDecimals (.open true) "1+1" silent =
        .ok (.success "2" false, silent) := by
      rw [evaluateInput, show ({} : Settings).resultDecimals = 10 from rfl, hprimary]
    obtain ⟨rfl, rfl⟩ := Prod.mk.inj (Except.ok.inj (hsum.symm.trans hevaluated))
    have htwo : Bland ("2" ++ "").toList := by decide
    obtain ⟨output, hexecuted, hshown⟩ := hprints fun text htext => by
      obtain rfl := List.mem_singleton.mp htext
      exact htwo.untagged
    exact ⟨output, hexecuted, hshown htwo.verbatim⟩

end Reckoner.CommandLine
