import RobotPhrase.Path.Replay
import RobotPhrase.Program.Compile
import RobotPhrase.Proofs.Code

/-!
# Previews of sentences and of programs

The path of sentences, replayed report by report, is the path of the main part of the program that they compile to
(`replay_compile_lines`).  The lines are the same, since no code hides the line break behind it; only where no sentence
is understood the main part has two lines of its own, and these do not move the robot.
-/

namespace RobotPhrase

open Text

/-- Every code of a report without a completer ends plainly. -/
private theorem endsPlainly_of_mem_codes {spec : ProgramSpec} {code : String}
    (h : code ∈ spec.reports.filterMap fun r => r.answer.code?) : EndsPlainly code.toList := by
  obtain ⟨report, hreport, hcode⟩ := List.mem_filterMap.1 h
  obtain ⟨command, -, rfl⟩ := List.mem_map.1 hreport
  obtain ⟨c, hc, rfl⟩ := Option.map_eq_some_iff.1 hcode
  have hanswer : interpretWithin maxNesting spec.scene command = .understood c :=
    (isRegular_interpret spec.scene command).eq_understood hc
  exact endsPlainly_code (hasPlainEnd_of_interpretWithin hanswer)

/-- The lines of the reports are those of their codes written one under another. -/
private theorem compile_lines_eq (spec : ProgramSpec) :
    spec.compile.lines = linesOf (joinLines (spec.reports.filterMap fun r => r.answer.code?)) :=
  (linesOf_joinLines fun _ => endsPlainly_of_mem_codes).symm

private theorem compile_main_eq (spec : ProgramSpec) :
    spec.compile.program.main = Program.mainSection (spec.reports.filterMap fun r => r.answer.code?) :=
  rfl

/-- The main part of a program without codes does not move the robot. -/
private theorem replayProgram_mainSection_nil (rates : Rates) (start : Pose) :
    replayProgram rates start (Program.mainSection []) = replay rates start [] := by
  have hlines : linesOf (Program.mainSection []) = ["# Add your commands here", "pass"] := by decide
  have hremark : Motion.ofStatement? "# Add your commands here" = none := rfl
  have hpass : Motion.ofStatement? "pass" = none := rfl
  unfold replayProgram replay
  rw [hlines, replayFrom_cons_of_none hremark, replayFrom_cons_of_none hpass]

/-- The path of the compiled lines is the path of the main part, and if any command is understood the lines are the
same. -/
theorem replay_compile_lines (spec : ProgramSpec) (rates : Rates) (start : Pose) :
    replay rates start spec.compile.lines = replayProgram rates start spec.compile.program.main ∧
      ((∃ report ∈ spec.compile.reports, report.answer.code?.isSome) →
        spec.compile.lines = linesOf spec.compile.program.main) := by
  rw [compile_lines_eq, compile_main_eq]
  by_cases hcodes : (spec.reports.filterMap fun r => r.answer.code?) = []
  · rw [hcodes]
    refine ⟨(replayProgram_mainSection_nil rates start).symm, ?_⟩
    rintro ⟨report, hreport, hcode⟩
    have hnone : report.answer.code? = none := List.filterMap_eq_nil_iff.1 hcodes report hreport
    simp [hnone] at hcode
  · have hmain : Program.mainSection (spec.reports.filterMap fun r => r.answer.code?) =
        joinLines (spec.reports.filterMap fun r => r.answer.code?) := by
      simp [Program.mainSection, hcodes]
    rw [hmain]
    exact ⟨rfl, fun _ => rfl⟩

end RobotPhrase
