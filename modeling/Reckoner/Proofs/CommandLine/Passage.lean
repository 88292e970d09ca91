import Reckoner.CommandLine.Execution
import Reckoner.Proofs.Console.Layout
import Reckoner.Proofs.Console.Markup

/-!
What the command line prints, as passages that a reader is to see. A report prints passages if it
returns normally in any case, and shows them as they are where the console changes nothing about
their texts. The display of a session and its history print every text escaped, so that nothing in a
session keeps them from returning.
-/

namespace Reckoner.CommandLine

open Console

/-- A use of the service prints nothing, so it comes between two reports without a trace in the
output. -/
theorem Report.withService_of_eq {α : Type} {use : Fallback.Service → α × Fallback.Service}
    {service after : Fallback.Service} {a : α} (h : use service = (a, after)) :
    withService use service = ⟨"", after, .ok a⟩ := by
  rw [withService, h]

/-- A report whose result is changed prints the same. Most steps of a dialogue end by putting a
session back into it, which is such a change. -/
theorem Report.bind_pure_of_ok {α β : Type} {report : Report α} {change : α → β}
    {service after : Fallback.Service} {output : String} {a : α}
    (h : report service = ⟨output, after, .ok a⟩) :
    (report >>= fun a => pure (change a)) service = ⟨output, after, .ok (change a)⟩ := by
  have hnothing : (pure (change a) : Report β) after = ⟨"", after, .ok (change a)⟩ := rfl
  rw [bind_of_ok h, hnothing, String.append_empty]

inductive Passage where
  | text (shown : String)
  | table (content : Table)

/-- An output shows a passage: its lines are those of the passage as it is, and what is on them, or
in the cells of a table, are its texts up to where lines break. -/
def Passage.Shown : Passage → String → Prop
  | .text shown, output =>
    output = joinLines (wrap screenWidth .fold shown.toList) ∧
      Wrapping (untabbed shown.toList) (wrap screenWidth .fold shown.toList)
  | .table content, output =>
    output = joinLines (content.lines screenWidth) ∧
      ∀ row ∈ content.rows, ∀ cell ∈ (content.widths screenWidth).zip row,
        Wrapping (untabbed cell.2) (wrap (cell.1 - Table.padding) .ellipsis cell.2)

/-- An output shows passages one after the other. It is split where one passage ends, so that
nothing stands between two of them. -/
inductive ShowsAll : List Passage → String → Prop where
  | nil : ShowsAll [] ""
  | cons {passage : Passage} {passages : List Passage} {output more : String}
      (h : passage.Shown output) (hmore : ShowsAll passages more) :
      ShowsAll (passage :: passages) (output ++ more)

theorem ShowsAll.append {passages others : List Passage} {output more : String}
    (h : ShowsAll passages output) (hmore : ShowsAll others more) :
    ShowsAll (passages ++ others) (output ++ more) := by
  induction h with
  | nil => rwa [List.nil_append, String.empty_append]
  | cons h _ ih =>
      rw [List.cons_append, String.append_assoc]
      exact .cons h ih

theorem ShowsAll.singleton {passage : Passage} {output : String} (h : passage.Shown output) :
    ShowsAll [passage] output := by
  rw [← String.append_empty (s := output)]
  exact .cons h .nil

theorem text_shown (text : String) :
    (Passage.text text).Shown (joinLines (wrap screenWidth .fold text.toList)) :=
  ⟨rfl, wrapping_wrap (by decide) _⟩

/-- A report that always returns normally and leaves the service alone. On a condition it shows
passages. -/
def Prints (report : Report Unit) (condition : Prop) (passages : List Passage) : Prop :=
  ∀ service, ∃ output, report service = ⟨output, service, .ok ()⟩ ∧
    (condition → ShowsAll passages output)

namespace Prints

theorem nothing (condition : Prop) : Prints (pure ()) condition [] :=
  fun _ => ⟨"", rfl, fun _ => .nil⟩

theorem weaken {report : Report Unit} {condition weaker : Prop} {passages : List Passage}
    (h : Prints report weaker passages) (hweaker : condition → weaker) :
    Prints report condition passages := by
  intro service
  obtain ⟨output, hreport, hshown⟩ := h service
  exact ⟨output, hreport, fun hcondition => hshown (hweaker hcondition)⟩

theorem andThen {report next : Report Unit} {condition also : Prop}
    {passages others : List Passage} (h : Prints report condition passages)
    (hnext : Prints next also others) :
    Prints (do report; next) (condition ∧ also) (passages ++ others) := by
  intro service
  obtain ⟨output, hreport, hshown⟩ := h service
  obtain ⟨more, hmore, hshownMore⟩ := hnext service
  refine ⟨output ++ more, ?_, fun hboth => (hshown hboth.1).append (hshownMore hboth.2)⟩
  rw [Report.bind_of_ok hreport, hmore]

theorem of_rendered {markup text : String} {condition : Prop}
    (h : ∃ shown, renderMarkup markup = .ok shown ∧ (condition → shown = text.toList)) :
    Prints (.line markup) condition [.text text] := by
  intro service
  obtain ⟨shown, hshown, hsame⟩ := h
  refine ⟨joinLines (wrap screenWidth .fold shown), ?_, fun hcondition => ?_⟩
  · simp only [Report.line, printed, hshown]
    rfl
  · rw [hsame hcondition]
    exact .singleton (text_shown text)

end Prints

/-- A text that is shown as it is where it is escaped. Two backslashes at its end are excluded,
because escaping leaves them alone and the tag after them halves them. -/
def Exact (text : String) : Prop := Verbatim text.toList ∧ ¬ ['\\', '\\'] <:+ text.toList

/-- A text that is shown as it is where it is not escaped, if it has no tags. A backslash at its end
would escape the tag that comes after it. -/
def BareExact (text : String) : Prop := Verbatim text.toList ∧ Closed text.toList

theorem Prints.bare {style : String} (hstyle : opensStyle style.toList = true) {text : String}
    (h : Untagged text.toList) :
    Prints (.line ("[" ++ style ++ "]" ++ text ++ "[/]")) (BareExact text) [.text text] := by
  obtain ⟨shown, hshown, hsame⟩ := exists_renders_bare hstyle h renders_nil
  have hmarkup : ("[" ++ style ++ "]" ++ text ++ "[/]").toList =
      bracketed style.toList ++ (text.toList ++ (bracketed ['/'] ++ [])) := by
    simp [bracketed]
  rw [← hmarkup, List.append_nil] at hshown
  exact .of_rendered ⟨shown, hshown [] 0, fun hexact => hsame hexact.1 hexact.2⟩

/-- Two spaces before a style are shown. They hold no tag and no backslash, so the style begins as
if nothing stood before it. -/
theorem renders_indented {style rest shown : List Char} (hstyle : opensStyle style = true)
    (h : Renders (bracketed style ++ rest) shown) :
    Renders ([' ', ' '] ++ (bracketed style ++ rest)) ([' ', ' '] ++ shown) := by
  have hspaces : Bland [' ', ' '] := by decide
  have hrenders := renders_before_style hspaces.untagged hspaces.closed hstyle h
  rwa [visible_untagged hspaces.verbatim hspaces.untagged] at hrenders

theorem Prints.escaped {style : String} (hstyle : opensStyle style.toList = true) (text : String) :
    Prints (.line ("  [" ++ style ++ "]" ++ escape text ++ "[/]")) (Exact text)
      [.text ("  " ++ text)] := by
  obtain ⟨shown, hshown, hsame⟩ := exists_renders_escaped hstyle text renders_nil
  have hindented := renders_indented hstyle hshown
  have hmarkup : ("  [" ++ style ++ "]" ++ escape text ++ "[/]").toList =
      [' ', ' '] ++ (bracketed style.toList ++
        ((escape text).toList ++ (bracketed ['/'] ++ []))) := by
    simp [bracketed]
  rw [← hmarkup] at hindented
  refine .of_rendered ⟨_, hindented [] 0, fun hexact => ?_⟩
  rw [hsame hexact.1 hexact.2]
  simp

namespace Dialogue

theorem bland_modes (session : Session) : Bland (" ".intercalate (modes session)).toList := by
  unfold modes
  cases session.angleMode <;> split_ifs <;> decide

/-- What the display shows of the buffer. An empty buffer is shown as one space, so that its line
does not vanish. -/
def shownBuffer (session : Session) : String :=
  if session.buffer.isEmpty then " " else session.buffer

theorem escape_shownBuffer (session : Session) :
    (if (escape session.buffer).isEmpty then " " else escape session.buffer) =
      escape (shownBuffer session) := by
  have hspace : escape " " = " " := by decide
  rw [isEmpty_escape, shownBuffer]
  split
  · rw [hspace]
  · rfl

theorem exact_shownBuffer {session : Session} (h : Exact session.buffer) :
    Exact (shownBuffer session) := by
  have hspace : Bland " ".toList := by decide
  unfold shownBuffer
  split
  · exact ⟨hspace.verbatim, by decide⟩
  · exact h

def shownResult (session : Session) : String :=
  session.result ++ "  " ++ " ".intercalate (modes session)

theorem opensStyle_resultStyle (result : String) :
    opensStyle (resultStyle result).toList = true := by
  unfold resultStyle
  split <;> decide

theorem prints_result (session : Session) :
    Prints (.line ("  [" ++ resultStyle session.result ++ "]" ++ escape session.result ++
        "[/]  [dim]" ++ " ".intercalate (modes session) ++ "[/]")) (Exact session.result)
      [.text ("  " ++ shownResult session)] := by
  have hdim : opensStyle "dim".toList = true := by decide
  have hmodes := renders_bland_styled hdim (bland_modes session) renders_nil
  have hstyle := opensStyle_resultStyle session.result
  obtain ⟨shown, hshown, hsame⟩ := exists_renders_escaped hstyle session.result
    (renders_indented (by decide) hmodes)
  have hindented := renders_indented hstyle hshown
  have hmarkup : ("  [" ++ resultStyle session.result ++ "]" ++ escape session.result ++
      "[/]  [dim]" ++ " ".intercalate (modes session) ++ "[/]").toList =
      [' ', ' '] ++ (bracketed (resultStyle session.result).toList ++
        ((escape session.result).toList ++ (bracketed ['/'] ++ ([' ', ' '] ++
          (bracketed "dim".toList ++ ((" ".intercalate (modes session)).toList ++
            (bracketed ['/'] ++ []))))))) := by
    simp [bracketed]
  rw [← hmarkup] at hindented
  refine .of_rendered ⟨_, hindented [] 0, fun hexact => ?_⟩
  rw [hsame hexact.1 hexact.2]
  simp [shownResult]

/-- What the display of a session is to show: buffer and result on a line each, and the notification
if there is one. -/
def displayed (session : Session) : List Passage :=
  [.text ("  " ++ shownBuffer session), .text ("  " ++ shownResult session)] ++
    session.notification.toList.map fun text => .text ("  " ++ text)

/-- The texts of a session that the display shows as they are. Nothing is asked of the history or of
the modes, which it does not show or which are known words. -/
structure DisplaysExactly (session : Session) : Prop where
  buffer : Exact session.buffer
  result : Exact session.result
  notification : ∀ text ∈ session.notification, Exact text

theorem prints_display (session : Session) :
    Prints (printDisplay session) (Exact session.buffer ∧ Exact session.result)
      [.text ("  " ++ shownBuffer session), .text ("  " ++ shownResult session)] := by
  have hopening : "  [dim]" = "  [" ++ "dim" ++ "]" := by decide
  have hdim : opensStyle "dim".toList = true := by decide
  have hbuffer := Prints.escaped hdim (shownBuffer session)
  rw [← hopening] at hbuffer
  unfold printDisplay
  dsimp only
  rw [escape_shownBuffer]
  exact (hbuffer.weaken exact_shownBuffer).andThen (prints_result session)

theorem prints_notification (notification : Option String) :
    Prints (printNotification notification) (∀ text ∈ notification, Exact text)
      (notification.toList.map fun text => .text ("  " ++ text)) := by
  cases notification with
  | none => exact .nothing _
  | some text =>
      have hopening : "  [yellow]" = "  [" ++ "yellow" ++ "]" := by decide
      have hyellow : opensStyle "yellow".toList = true := by decide
      have hprints := Prints.escaped hyellow text
      rw [← hopening] at hprints
      exact hprints.weaken fun h => h text rfl

/-- A dialogue whose notification was shown. It is what the display leaves behind, and nothing else
about the dialogue has changed. -/
def seen (dialogue : Dialogue) : Dialogue :=
  { dialogue with session := { dialogue.session with notification := none } }

/-- The display of any session can be printed. Whatever texts are in the session, they are escaped,
so no tag of theirs can fail. -/
theorem display_returns (dialogue : Dialogue) (service : Fallback.Service) :
    ∃ output, dialogue.display service = ⟨output, service, .ok dialogue.seen⟩ ∧
      (DisplaysExactly dialogue.session → ShowsAll (displayed dialogue.session) output) := by
  obtain ⟨output, hdisplay, hshown⟩ := prints_display dialogue.session service
  obtain ⟨more, hnotification, hshownMore⟩ :=
    prints_notification dialogue.session.notification service
  refine ⟨output ++ more, ?_, fun h => ?_⟩
  · unfold display
    rw [Report.bind_of_ok hdisplay, Report.bind_pure_of_ok hnotification, seen]
  · exact (hshown ⟨h.buffer, h.result⟩).append (hshownMore h.notification)

/-- A text that is shown as it is where it is escaped in a cell. No style is closed after it there,
so a backslash that is doubled at its end stays doubled. -/
def CellExact (text : String) : Prop :=
  Verbatim text.toList ∧ doubled text.toList = text.toList

/-- What the cells of the history are to show: the index, the input, the result and the time of each
entry, as they are. -/
def historyCells (index : Nat) : List (Entry × String) → List (List (List Char))
  | [] => []
  | (entry, time) :: rest =>
    [(toString index).toList, entry.input.toList, entry.result.toList, time.toList] ::
      historyCells (index + 1) rest

def historyTable (dialogue : Dialogue) : Table :=
  ⟨"History".toList, ["#", "Input", "Result", "Time"].map String.toList,
    historyCells 0 (dialogue.session.history.entries.zip dialogue.times)⟩

theorem renderMarkup_index (index : Nat) :
    renderMarkup (toString index) = .ok (toString index).toList := by
  have hbland : Bland (toString index).toList := by
    intro c hc
    rw [Nat.toString_eq_repr, Nat.toList_repr] at hc
    simp [Char.isAlphanum, Nat.isDigit_of_mem_toDigits (by decide) (by decide) hc]
  have hshown := renderFrom_untagged hbland.untagged [] 0
  rwa [visible_untagged hbland.verbatim hbland.untagged] at hshown

/-- The cells of the history can be rendered if the times hold no tags. Input and result are
escaped, and the index has no bracket. The induction is on the entries, and the index grows along
with it. -/
theorem exists_render_historyRows (index : Nat) (entries : List (Entry × String))
    (htimes : ∀ entry ∈ entries, Untagged entry.2.toList) :
    ∃ cells, (historyRows index entries).mapM (fun row => row.mapM renderMarkup) = .ok cells ∧
      ((∀ entry ∈ entries, CellExact entry.1.input ∧ CellExact entry.1.result ∧
        Verbatim entry.2.toList) → cells = historyCells index entries) := by
  induction entries generalizing index with
  | nil => exact ⟨[], rfl, fun _ => rfl⟩
  | cons entry entries ih =>
      obtain ⟨entry, time⟩ := entry
      obtain ⟨cells, hcells, hsame⟩ := ih (index + 1) fun other hother =>
        htimes other (List.mem_cons_of_mem _ hother)
      obtain ⟨input, hinput, hsameInput⟩ := exists_renders_cell entry.input
      obtain ⟨result, hresult, hsameResult⟩ := exists_renders_cell entry.result
      have htime := htimes _ List.mem_cons_self
      have hinputCell : renderMarkup (escape entry.input) = .ok input := hinput [] 0
      have hresultCell : renderMarkup (escape entry.result) = .ok result := hresult [] 0
      have htimeCell : renderMarkup time = .ok (visible time.toList) :=
        renderFrom_untagged htime [] 0
      refine
        ⟨[(toString index).toList, input, result, visible time.toList] :: cells, ?_, fun h => ?_⟩
      · rw [historyRows]
        simp only [List.mapM_cons, List.mapM_nil, renderMarkup_index, hinputCell, hresultCell,
          htimeCell, hcells]
        rfl
      · obtain ⟨hexactInput, hexactResult, hverbatim⟩ := h _ List.mem_cons_self
        rw [hsameInput hexactInput.1 hexactInput.2, hsameResult hexactResult.1 hexactResult.2,
          visible_untagged hverbatim htime,
          hsame fun other hother => h other (List.mem_cons_of_mem _ hother), historyCells]

/-- The texts of a history that its table shows as they are: no cell is cut. A table with long texts
narrows its columns, so this depends on all of them. -/
structure ListsExactly (dialogue : Dialogue) : Prop where
  entries : ∀ entry ∈ dialogue.session.history.entries,
    CellExact entry.input ∧ CellExact entry.result
  times : ∀ time ∈ dialogue.times, Verbatim time.toList
  uncut : ∀ row ∈ dialogue.historyTable.rows,
    ∀ cell ∈ (dialogue.historyTable.widths screenWidth).zip row,
      Uncut (cell.1 - Table.padding) cell.2

/-- What the history of a dialogue is to show: a table, or a remark if there are no entries. The
table has a row for each entry. -/
def listed (dialogue : Dialogue) : List Passage :=
  if dialogue.session.history.entries.isEmpty then [.text "No history yet"]
  else [.table dialogue.historyTable]

/-- The history can be printed whatever its entries are. Only the times, which are not escaped, must
not hold a tag. -/
theorem prints_history (dialogue : Dialogue)
    (htimes : ∀ time ∈ dialogue.times, Untagged time.toList) :
    Prints dialogue.printHistory (ListsExactly dialogue) dialogue.listed := by
  unfold printHistory listed
  dsimp only
  split
  · have hopening :
        "[yellow]No history yet[/]" = "[" ++ "yellow" ++ "]" ++ "No history yet" ++ "[/]" := by
      decide
    have hbland : Bland "No history yet".toList := by decide
    rw [hopening]
    exact (Prints.bare (by decide) hbland.untagged).weaken fun _ => ⟨hbland.verbatim, hbland.closed⟩
  · intro service
    obtain ⟨cells, hcells, hsame⟩ := exists_render_historyRows 0
      (dialogue.session.history.entries.zip dialogue.times) fun entry hentry =>
        htimes entry.2 (List.of_mem_zip hentry).2
    let headings := ["#", "Input", "Result", "Time"].map String.toList
    refine ⟨joinLines (Table.lines ⟨"History".toList, headings, cells⟩ screenWidth), ?_,
      fun h => ?_⟩
    · simp only [Report.table, printedTable, hcells]
      rfl
    · have hexact := hsame fun entry hentry =>
        have hplaces := List.of_mem_zip hentry
        ⟨(h.entries entry.1 hplaces.1).1, (h.entries entry.1 hplaces.1).2,
          h.times entry.2 hplaces.2⟩
      rw [hexact]
      exact .singleton ⟨rfl, fun row hrow cell hcell => (h.uncut row hrow cell hcell).wrapping⟩

end Dialogue

end Reckoner.CommandLine
