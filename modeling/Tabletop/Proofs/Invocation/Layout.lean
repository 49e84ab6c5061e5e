import Tabletop.Proofs.Command.Case
import Tabletop.Proofs.Invocation.Arguments
import Tabletop.Proofs.Invocation.ExitCodes

/-!
# The layout of a file does not matter

What an invocation prints depends on the commands in its file only. Neither the case of letters, nor
blanks at the ends of lines, nor the way each line is ended, nor a mark in front of the text is seen
in the output (`layout_is_insignificant`).
-/

namespace Tabletop

/-- The arguments ask for a run of the source on the board, with or without a log and a trace. -/
def Options.AskFor (arguments : List Text) (board : Board) (source : Text) : Prop :=
  ∃ trace verbose, read arguments =
    .ok (.run ⟨source, .whole board.width, .whole board.height, trace, verbose⟩)

namespace Invocation

/-- Once its source has been read, such an invocation prints the reports. -/
theorem code?_and_output_of_askFor {arguments : List Text} {board : Board} {source : Text}
    (hAsk : Options.AskFor arguments board source) {around : Surroundings} {lines : List Text}
    (hLines : Source.read around.openFile around.input source = .ok lines) :
    (invoke arguments around).code? = some 0 ∧
      (invoke arguments around).output = Text.unlines (board.reports lines) := by
  obtain ⟨trace, verbose, hRun⟩ := hAsk
  let settings : Settings := ⟨source, .whole board.width, .whole board.height, trace, verbose⟩
  obtain ⟨errors, hFinish, -⟩ := finish_eq settings around (board.run lines)
  rw [invoke_of_read hRun rfl rfl hLines, hFinish]
  exact ⟨rfl, rfl⟩

/-- The case of letters, the blanks at the ends of lines, the line breaks and a mark in front change
nothing: however the lines are laid out in a file, every invocation that asks for a run of that file
on a board ends with exit code zero, and prints what the robot says on the lines as they were. Such
an invocation exists for every board whose sides can be read. -/
theorem layout_is_insignificant {board : Board} (hBoard : board.Fits) {lines relaid : List Text}
    {text source : Text} {bytes : ByteArray} {around : Surroundings}
    (hLines : ∀ line ∈ lines, Text.Unbroken line)
    (hRelaid : List.Forall₂ Text.Relaid lines relaid) (hText : Text.Writes relaid text)
    (hBytes : text.head? ≠ some Utf8.mark ∧ bytes = Utf8.encode text ∨
      bytes = Utf8.marked (Utf8.encode text))
    (hFile : Source.IsFile around.openFile source bytes) :
    Options.AskFor (Options.runArguments board source) board source ∧
      ∀ arguments, Options.AskFor arguments board source →
        (invoke arguments around).code? = some 0 ∧
          (invoke arguments around).output = Text.unlines (board.reports lines) := by
  have hDecode : Utf8.decodeMarked? bytes = some text := by
    rcases hBytes with ⟨hHead, rfl⟩ | rfl
    · exact Utf8.decodeMarked?_encode hHead
    · exact Utf8.decodeMarked?_marked (Utf8.decode?_encode text)
  have hRead : Source.read around.openFile around.input source = .ok text.lines := by
    rw [Source.read_file hFile, hDecode]
    rfl
  have hReports : board.reports text.lines = board.reports lines :=
    board.reports_eq_of_filterMap_eq (Command.filterMap_ofLine?_lines hLines hRelaid hText)
  refine ⟨⟨false, false, Options.read_runArguments hBoard source⟩, fun arguments hAsk => ?_⟩
  rw [← hReports]
  exact code?_and_output_of_askFor hAsk hRead

/-- A file behind a mark, in which the carriage return of one line and the line feed of the empty
line after it are a single line break. -/
theorem layout_is_insignificant_at_merged_breaks :
    let text : Text := "place 1,2,East \r\n\tmovE\r\n\u3000report".toList
    let around : Surroundings :=
      { openFile := Folder.open? ⟨[(["in.txt".toList], Utf8.marked (Utf8.encode text))], []⟩
        input := .interrupted
        styled := true
        columns := 80
        stamp := [] }
    let ended := invoke ["--width".toList, "3".toList, "--trace".toList, "in.txt".toList] around
    text.lines = ["place 1,2,East ".toList, "\tmovE".toList, "\u3000report".toList] ∧
      ended.code? = some 0 ∧ ended.output = "2,2,EAST\n".toList := by
  intro text around ended
  let board : Board := ⟨3, 5, by decide, by decide⟩
  have hBoard : board.Fits := ⟨Numeral.fits_iff.mpr (by decide), Numeral.fits_iff.mpr (by decide)⟩
  have hLine {line line' : Text} (hUnbroken : Text.Unbroken line ∧ Text.Unbroken line')
      (hUpper : Text.upper line.strip = Text.upper line'.strip) : Text.Relaid line line' :=
    (Text.relaid_iff hUnbroken.1 hUnbroken.2).mpr (Text.caseVariant_iff.mpr hUpper)
  have hRelaid : List.Forall₂ Text.Relaid
      ["PLACE 1,2,EAST".toList, "MOVE".toList, [], "REPORT".toList]
      ["place 1,2,East ".toList, "\tmovE".toList, [], "\u3000report".toList] :=
    .cons (hLine (by decide) (by decide)) <| .cons (hLine (by decide) (by decide)) <|
      .cons (hLine (by decide) (by decide)) <| .cons (hLine (by decide) (by decide)) .nil
  have hText : Text.Writes
      ["place 1,2,East ".toList, "\tmovE".toList, [], "\u3000report".toList] text :=
    .cons _ (by decide : ['\r', '\n'] ∈ Text.breaks) <|
      .cons _ (by decide : ['\r'] ∈ Text.breaks) <|
        .cons _ (by decide : ['\n'] ∈ Text.breaks) <| .last _
  have hFile : Source.IsFile around.openFile "in.txt".toList (Utf8.marked (Utf8.encode text)) :=
    ⟨by decide, by decide, rfl⟩
  have hAsk : Options.AskFor ["--width".toList, "3".toList, "--trace".toList, "in.txt".toList]
      board "in.txt".toList := ⟨true, false, rfl⟩
  obtain ⟨-, hEnded⟩ := layout_is_insignificant hBoard (by decide) hRelaid hText (Or.inr rfl) hFile
  obtain ⟨hCode, hOutput⟩ := hEnded _ hAsk
  exact ⟨by decide, hCode, hOutput⟩

end Invocation

end Tabletop
