import RobotPhrase.Interpreter
import RobotPhrase.Proofs.Answers

/-!
# Reading without stops

Wrapping arithmetic has a result for every number, so a sentence that is read with it needs no computation that may
stop: each rule declines or answers, and the first answer counts (`answerWith_eq_findSome?`).  The rules are given here
in this plain form, with regular answers.
-/

namespace RobotPhrase

open Text Vocabulary Grammar

namespace Grammar

/-- A phrase read on its own: its code, or else the phrase as a remark. -/
def blockOf (inner : String → Answer) (phrase : String) : Block :=
  match (inner phrase).command? with
  | some c => .code c.lines
  | none => .remark phrase

/-- Two tasks, read by `inner`; without it they are refused. -/
def twoTasks (inner : Option (String → Answer)) : Rule := fun _ s =>
  (halves? (lower s.text.toList)).map fun (first, second) =>
    match inner with
    | none => .refused .nested
    | some inner => .understood (.tasks first second (blockOf inner first) (blockOf inner second))

/-- A loop, with the body read by `inner`; without it a loop is refused. -/
def loop (inner : Option (String → Answer)) : Rule := fun _ s =>
  if s.has .repetition then
    match inner with
    | none => some (.refused .nested)
    | some inner =>
      match s.firstNumeral? with
      | none => some (.ask .loopCount)
      | some n =>
        let phrase := loopBody s.text.toList
        let body := if phrase.isEmpty then none else some (blockOf inner (String.ofList phrase))
        some (.understood (.loop (wholeOr n 1) body))
  else none

def preciseTurn : Rule := fun _ s =>
  let direction := s.direction?
  if !s.hasVerb turnVerbs || !s.has .precise then none
  else if direction.any fun d => d ≠ "left" && d ≠ "right" then none
  else match s.firstNumeral? with
    | none => some (.ask .preciseAngle)
    | some n =>
      let angle := truncate n.value
      some (.understood (.preciseTurn (if direction = some "left" then Arithmetic.wrapping.negate angle else angle)))

theorem blockM_eq_blockOf (inner : String → Answer) (phrase : String) :
    (blockM inner phrase : Id Block) = blockOf inner phrase := by
  unfold blockM blockOf
  dsimp only [bind, pure]
  cases (inner phrase).command? <;> rfl

theorem twoTasksM_eq_twoTasks (inner : Option (String → Answer)) (scene : Scene) (s : Sentence) :
    (twoTasksM inner scene s : Id (Option Answer)) = twoTasks inner scene s := by
  unfold twoTasksM twoTasks
  cases halves? (lower s.text.toList) with
  | none => rfl
  | some halves =>
    cases inner with
    | none => rfl
    | some read =>
      show some (Answer.success (.tasks _ _ (blockM read halves.1 : Id Block) (blockM read halves.2 : Id Block)) _ _) = _
      rw [blockM_eq_blockOf, blockM_eq_blockOf]
      rfl

theorem loopM_eq_loop (inner : Option (String → Answer)) (scene : Scene) (s : Sentence) :
    (loopM inner scene s : Id (Option Answer)) = loop inner scene s := by
  unfold loopM loop
  cases s.has .repetition with
  | false => rfl
  | true =>
    cases inner with
    | none => rfl
    | some read =>
      cases s.firstNumeral? with
      | none => rfl
      | some n =>
        dsimp only [if_true, bind, pure]
        cases (loopBody s.text.toList).isEmpty with
        | true => rfl
        | false =>
          rw [blockM_eq_blockOf]
          cases blockOf read (String.ofList (loopBody s.text.toList)) <;> rfl

theorem preciseTurnM_eq_preciseTurn (scene : Scene) (s : Sentence) :
    preciseTurnM Arithmetic.wrapping scene s = preciseTurn scene s := by
  unfold preciseTurnM preciseTurn
  dsimp only
  cases !s.hasVerb turnVerbs || !s.has .precise with
  | true => rfl
  | false =>
    cases s.direction?.any fun d => d ≠ "left" && d ≠ "right" with
    | true => rfl
    | false =>
      cases s.firstNumeral? with
      | none => rfl
      | some n =>
        by_cases hleft : s.direction? = some "left"
        · simp only [hleft, if_true]
          rfl
        · simp only [hleft, if_false]
          rfl

end Grammar

/-- The rules in order of precedence.  Phrases inside a sentence are read by `inner`. -/
def rules (inner : Option (String → Answer)) : List Rule := [
  routineCall, twoTasks inner, loop inner, watch, followLine, taskOutline, stop, setSpeed, runMotor, preciseTurn, turn,
  move, wait]

theorem rulesM_eq_rules (inner : Option (String → Answer)) : rulesM Arithmetic.wrapping inner = rules inner := by
  have htasks : (twoTasksM inner : RuleM Id) = twoTasks inner :=
    funext fun scene => funext fun s => twoTasksM_eq_twoTasks inner scene s
  have hloop : (loopM inner : RuleM Id) = loop inner := funext fun scene => funext fun s => loopM_eq_loop inner scene s
  have hturn : preciseTurnM Arithmetic.wrapping = preciseTurn :=
    funext fun scene => funext fun s => preciseTurnM_eq_preciseTurn scene s
  unfold rulesM rules
  rw [htasks, hloop, hturn]
  rfl

/-- The answer to a sentence whose phrases are read by `inner`. -/
def answerWith (inner : Option (String → Answer)) (scene : Scene) (text : String) : Answer :=
  answerM .wrapping inner scene text

/-- The answer to a sentence in which compound commands may be nested `budget` levels deep. -/
def interpretWithin (budget : Nat) (scene : Scene) (text : String) : Answer := interpretM .wrapping budget scene text

theorem exists_interpretWithin_eq (budget : Nat) (scene : Scene) (text : String) :
    ∃ inner, interpretWithin budget scene text = answerWith inner scene text := by
  cases budget with
  | zero => exact ⟨none, rfl⟩
  | succ n => exact ⟨some _, rfl⟩

/-- A sentence is read with one level of phrases inside it. -/
theorem interpret_eq_answerWith (scene : Scene) (text : String) :
    interpret scene text = answerWith (some (interpretWithin 0 { scene with routines := [] })) scene text :=
  rfl

/-- The first rule that does not decline answers. -/
theorem answerWith_eq_findSome? (inner : Option (String → Answer)) (scene : Scene) (text : String) :
    answerWith inner scene text =
      if tokenize text = [] then .refused .empty
      else ((rules inner).findSome? fun rule => rule scene (.ofText text)).getD (.refused .unrecognized) := by
  have hfirst : ((rulesM Arithmetic.wrapping inner).findSomeM? fun rule => rule scene (.ofText text) :
      Id (Option Answer)) = (rules inner).findSome? fun rule => rule scene (.ofText text) := by
    rw [rulesM_eq_rules]
    exact List.idRun_findSomeM? _ _
  unfold answerWith answerM
  dsimp only [bind, pure]
  rw [hfirst]
  by_cases hempty : tokenize text = []
  · simp [Sentence.ofText, hempty]
    rfl
  · simp [Sentence.ofText, hempty]
    rfl

end RobotPhrase
