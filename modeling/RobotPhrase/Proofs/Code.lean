import RobotPhrase.Proofs.Rules
import RobotPhrase.Proofs.Text

/-!
# How the code of a command ends

The last line of every command that is read from a sentence ends plainly, so its code is not empty and has no line
break at its end.  For a loop this is an induction over the levels of nesting, since the last line of its code is that
of its body.
-/

namespace RobotPhrase

open Text Grammar

/-- The last line of the command ends plainly. -/
def Command.HasPlainEnd (c : Command) : Prop := ∃ line, c.lines.getLast? = some line ∧ EndsPlainly line.toList

private theorem endsPlainly_append (x y : String) (hy : EndsPlainly y.toList) : EndsPlainly (x ++ y).toList := by
  rw [String.toList_append]
  exact hy.append_left _

namespace Command

theorem hasPlainEnd_of_isSimple {c : Command} (h : c.isSimple = true) : c.HasPlainEnd := by
  cases c with
  | move speed distance => cases speed <;> exact ⟨straightLine distance, rfl, endsPlainly_append _ ")" (by decide)⟩
  | turn rate angle => cases rate <;> exact ⟨turnLine angle, rfl, endsPlainly_append _ ")" (by decide)⟩
  | preciseTurn angle => exact ⟨"robot.stop()", rfl, by decide⟩
  | wait duration => exact ⟨waitLine duration, rfl, endsPlainly_append _ ")" (by decide)⟩
  | runMotor motor speed angle => exact ⟨_, rfl, endsPlainly_append _ ")" (by decide)⟩
  | stop motor => exact ⟨_, rfl, endsPlainly_append _ ".stop()" (by decide)⟩
  | set setting value => exact ⟨settingsLine setting value, rfl, endsPlainly_append _ ")" (by decide)⟩
  | watch condition driving =>
    cases driving with
    | none => exact ⟨"    wait(10)", rfl, by decide⟩
    | some speed => exact ⟨"robot.stop()", rfl, by decide⟩
  | followLine ending => exact ⟨"robot.stop()", by rw [lines, followLineLines, List.getLast?_append]; rfl, by decide⟩
  | taskOutline => exact ⟨"await multitask(task1(), task2())", rfl, by decide⟩
  | call routine arguments => exact ⟨callLine routine arguments, rfl, endsPlainly_append _ ")" (by decide)⟩
  | loop | tasks | completed => simp [isSimple] at h

private theorem hasPlainEnd_loop {count : Int} {body : Option Block}
    (h : ∀ ls, body = some (.code ls) → ∃ line, ls.getLast? = some line ∧ EndsPlainly line.toList) :
    (loop count body).HasPlainEnd := by
  cases body with
  | none => exact ⟨"    pass", rfl, by decide⟩
  | some block =>
    cases block with
    | remark phrase => exact ⟨"    pass", rfl, by decide⟩
    | code ls =>
      obtain ⟨line, hline, hend⟩ := h ls rfl
      have hne : ls ≠ [] := by rintro rfl; simp at hline
      refine ⟨indent line, ?_, endsPlainly_append _ line hend⟩
      simp only [lines, loopBodyLines]
      rw [List.getLast?_cons_of_ne_nil (by simpa using hne), List.getLast?_map, hline]
      rfl

/-- A command has a plain end if the commands in its phrases have one. -/
theorem BuiltBy.hasPlainEnd {inner : Option (String → Answer)} {c : Command} (h : c.BuiltBy inner)
    (hinner : ∀ read, inner = some read → ∀ phrase c, (read phrase).command? = some c → c.HasPlainEnd) :
    c.HasPlainEnd := by
  cases h with
  | simple h => exact hasPlainEnd_of_isSimple h
  | @loop read hread count phrase =>
    apply hasPlainEnd_loop
    -- code in the body is that of a command which `read` found in the phrase
    intro ls hls
    obtain ⟨text, -, hblock⟩ := Option.map_eq_some_iff.1 hls
    unfold blockOf at hblock
    cases hcommand : (read text).command? with
    | none => simp [hcommand] at hblock
    | some c =>
      obtain rfl : c.lines = ls := by simpa [hcommand] using hblock
      exact hinner read hread text c hcommand
  | tasks =>
    refine ⟨"await multitask(task1(), task2())", ?_, by decide⟩
    rw [lines, taskLines, ← List.cons_append, List.getLast?_append]
    rfl

end Command

/-- Every command that is read from a sentence has a plain end. -/
theorem hasPlainEnd_of_interpretWithin {budget : Nat} {scene : Scene} {text : String} {c : Command}
    (h : interpretWithin budget scene text = .understood c) : c.HasPlainEnd := by
  induction budget generalizing scene text c with
  | zero =>
    refine (builtBy_of_answerWith h).hasPlainEnd ?_
    intro read hread
    simp at hread
  | succ n ih =>
    refine (builtBy_of_answerWith h).hasPlainEnd ?_
    intro read hread phrase c hc
    obtain rfl := Option.some.inj hread
    exact ih ((isRegular_interpretWithin n _ phrase).eq_understood hc)

theorem endsPlainly_code {c : Command} (h : c.HasPlainEnd) : EndsPlainly c.code.toList := by
  obtain ⟨line, hlast, hend⟩ := h
  exact endsPlainly_joinLines hlast hend

theorem code_ne_empty {c : Command} (h : c.HasPlainEnd) : c.code ≠ "" := by
  intro he
  have := (endsPlainly_code h).ne_nil
  simp [he] at this

end RobotPhrase
