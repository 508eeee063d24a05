import RobotPhrase.Proofs.Kinds

/-!
# Phrases inside compound commands

`interpretAt` reads a sentence that stands inside a number of compound commands.  The depth matters for compound
commands only: inside another command they are refused, and every other sentence is answered as it is on its own
(`interpretWithin_zero`).  So a phrase gives its compound command the code that it would have on its own, or a
remark takes its place.
-/

namespace RobotPhrase

open Text Grammar

/-! ### Depth -/

/-- The answer to a sentence that stands inside `depth` compound commands, if the phrases in it are read by `read`. -/
def answerAt (depth : Nat) (read : String → Answer) (scene : Scene) (text : String) : Answer :=
  answerWith (if depth < maxNesting then some read else none) scene text

/-- The answer to a sentence that stands inside `depth` compound commands. -/
def interpretAt (depth : Nat) (scene : Scene) (text : String) : Answer := interpretWithin (maxNesting - depth) scene text

/-- The phrases in a sentence are read one level deeper, where no routines are known. -/
theorem interpretAt_eq_answerAt (depth : Nat) (scene : Scene) (text : String) :
    interpretAt depth scene text = answerAt depth (interpretAt (depth + 1) { scene with routines := [] }) scene text := by
  unfold interpretAt answerAt
  by_cases h : depth < maxNesting
  · have hbudget : maxNesting - depth = maxNesting - (depth + 1) + 1 := by omega
    rw [if_pos h, hbudget]
    rfl
  · have hbudget : maxNesting - depth = 0 := by omega
    rw [if_neg h, hbudget]
    rfl

theorem interpretAt_succ (depth : Nat) (scene : Scene) (text : String) :
    interpretAt (depth + 1) scene text = interpretWithin 0 scene text := by
  have hbudget : maxNesting - (depth + 1) = 0 := by unfold maxNesting; omega
  rw [interpretAt, hbudget]

section

variable {scene : Scene} {s : Sentence}

/-- Without a reader the rule for two tasks refuses what it would answer. -/
private theorem twoTasks_none (read : String → Answer) :
    twoTasks none scene s = (twoTasks (some read) scene s).map fun _ => .refused .nested := by
  unfold twoTasks
  cases halves? (lower s.text.toList) <;> rfl

private theorem loop_none (read : String → Answer) :
    loop none scene s = (loop (some read) scene s).map fun _ => .refused .nested := by
  unfold loop
  cases s.has .repetition with
  | false => rfl
  | true => cases s.firstNumeral? <;> rfl

/-- Without a reader compound commands are refused, and nothing else changes. -/
theorem answerWith_none (read : String → Answer) (scene : Scene) (text : String) :
    answerWith none scene text =
      if (answerWith (some read) scene text).isCompound then .refused .nested
      else answerWith (some read) scene text := by
  rw [answerWith_eq none, answerWith_eq (some read)]
  by_cases hempty : tokenize text = []
  · simp [hempty, Answer.isCompound]
  simp only [hempty, if_false, twoTasks_none read, loop_none read]
  -- the first rule that answers is the same one on both sides
  cases hcall : routineCall scene (.ofText text) with
  | some a => simp [isCompound_of_routineCall hcall]
  | none =>
    cases htasks : twoTasks (some read) scene (.ofText text) with
    | some a => simp [Answer.isCompound, kind?_of_twoTasks htasks]
    | none =>
      cases hloop : loop (some read) scene (.ofText text) with
      | some a => simp [Answer.isCompound, kind?_of_loop hloop]
      | none =>
        cases hplain : plainAnswer? scene (.ofText text) with
        | none => simp [Answer.isCompound]
        | some a =>
          obtain ⟨rule, hrule, ha⟩ := List.exists_of_findSome?_eq_some hplain
          simp [isCompound_of_mem_plainRules hrule ha]

end

/-- Inside a compound command a sentence without routines is answered as on its own, unless it is a compound command
itself. -/
theorem interpretWithin_zero (robot : Robot) (motors : List String) (text : String) :
    interpretWithin 0 ⟨robot, motors, []⟩ text =
      if (interpret ⟨robot, motors, []⟩ text).isCompound then .refused .nested
      else interpret ⟨robot, motors, []⟩ text := by
  rw [interpret_eq_answerWith]
  exact answerWith_none _ _ _

/-! ### The code of a phrase -/

/-- A loop asks for its count, or else repeats what is read of the phrase behind its mark. -/
theorem loop_cases {read : String → Answer} {scene : Scene} {s : Sentence} {a : Answer}
    (h : loop (some read) scene s = some a) :
    a = .ask .loopCount ∨
      ∃ n, s.firstNumeral? = some n ∧ a = .understood (.loop (wholeOr n 1)
        (if (loopBody s.text.toList).isEmpty then none
        else some (blockOf read (String.ofList (loopBody s.text.toList))))) := by
  unfold loop at h
  split at h
  · simp only at h
    split at h
    · exact .inl (Option.some.inj h).symm
    · rename_i n hn
      exact .inr ⟨n, hn, (Option.some.inj h).symm⟩
  · simp at h

/-- The lines that a phrase gives to the compound command around it: those it has on its own, where no routines are
known, if it is understood and is no compound command. -/
def phraseLines? (robot : Robot) (motors : List String) (phrase : String) : Option (List String) :=
  let a := interpret ⟨robot, motors, []⟩ phrase
  if a.kind? = some .loop ∨ a.kind? = some .multitask then none else a.command?.map Command.lines

/-- The body of a task, or a remark in its place. -/
def phraseInTask (robot : Robot) (motors : List String) (phrase : String) : List String :=
  match phraseLines? robot motors phrase with
  | some lines => lines.map indent
  | none => ["    # TODO: " ++ phrase]

/-- The body of a loop, or a remark in its place. -/
def phraseInLoop (robot : Robot) (motors : List String) (phrase : String) : List String :=
  match phraseLines? robot motors phrase with
  | some lines => lines.map indent
  | none => ["    # " ++ phrase, "    pass"]

section

variable {robot : Robot} {motors routines : List String} {text : String}

private theorem command?_interpretWithin_zero (phrase : String) :
    (interpretWithin 0 ⟨robot, motors, []⟩ phrase).command?.map Command.lines = phraseLines? robot motors phrase := by
  have hcompound := Answer.isCompound_iff (interpret ⟨robot, motors, []⟩ phrase)
  unfold phraseLines?
  rw [interpretWithin_zero]
  by_cases h : (interpret ⟨robot, motors, []⟩ phrase).isCompound = true
  · rw [if_pos h, if_pos (hcompound.1 h)]
    rfl
  · rw [if_neg h, if_neg (mt hcompound.2 h)]

/-- A phrase is read as code exactly if it gives lines to the command around it. -/
theorem blockOf_interpretWithin_zero (phrase : String) :
    blockOf (interpretWithin 0 ⟨robot, motors, []⟩) phrase =
      ((phraseLines? robot motors phrase).map Block.code).getD (.remark phrase) := by
  rw [← command?_interpretWithin_zero]
  unfold blockOf
  cases (interpretWithin 0 ⟨robot, motors, []⟩ phrase).command? <;> rfl

private theorem taskBodyLines_blockOf (phrase : String) :
    taskBodyLines (blockOf (interpretWithin 0 ⟨robot, motors, []⟩) phrase) = phraseInTask robot motors phrase := by
  rw [blockOf_interpretWithin_zero]
  unfold phraseInTask
  cases phraseLines? robot motors phrase <;> rfl

private theorem loopBodyLines_blockOf (phrase : String) :
    loopBodyLines (some (blockOf (interpretWithin 0 ⟨robot, motors, []⟩) phrase)) =
      phraseInLoop robot motors phrase := by
  rw [blockOf_interpretWithin_zero]
  unfold phraseInLoop
  cases phraseLines? robot motors phrase <;> rfl

/-- The code of two tasks. -/
private theorem code?_of_multitask (h : (interpret ⟨robot, motors, routines⟩ text).kind? = some .multitask) :
    ∃ first second, halves? (lower text.toList) = some (first, second) ∧
      (interpret ⟨robot, motors, routines⟩ text).code? = some (joinLines
        (["# Parallel execution: " ++ first ++ " AND " ++ second, "async def task1():"]
          ++ phraseInTask robot motors first ++ ["", "async def task2():"] ++ phraseInTask robot motors second
          ++ ["", "await multitask(task1(), task2())"])) := by
  rw [interpret_eq_answerWith] at h ⊢
  obtain ⟨⟨first, second⟩, hhalves, ha⟩ := Option.map_eq_some_iff.1 (twoTasks_of_kind? h)
  refine ⟨first, second, hhalves, ?_⟩
  rw [← ha]
  simp only [Answer.code?, Answer.command?_understood, Option.map_some, Command.code, Command.lines, taskLines,
    taskBodyLines_blockOf]
  simp

/-- The code of a loop. -/
private theorem code?_of_loop (h : (interpret ⟨robot, motors, routines⟩ text).kind? = some .loop)
    (hunderstood : (interpret ⟨robot, motors, routines⟩ text).isUnderstood = true) :
    ∃ count : Int, (interpret ⟨robot, motors, routines⟩ text).code? = some (joinLines
      (("for i in range(" ++ toString count ++ "):") ::
        if loopBody text.toList = [] then ["    # Add commands here", "    pass"]
        else phraseInLoop robot motors (String.ofList (loopBody text.toList)))) := by
  rw [interpret_eq_answerWith] at h hunderstood ⊢
  rcases loop_cases (loop_of_kind? h) with ha | ⟨n, -, ha⟩
  · rw [ha] at hunderstood
    simp at hunderstood
  · refine ⟨wholeOr n 1, ?_⟩
    rw [ha]
    simp only [Answer.code?, Answer.command?_understood, Option.map_some, Command.code, Command.lines, Sentence.ofText]
    by_cases hbody : loopBody text.toList = []
    · simp only [hbody, List.isEmpty_nil, if_true, loopBodyLines]
    · simp only [List.isEmpty_iff, hbody, if_false, loopBodyLines_blockOf]

end

/-- (1) A sentence inside a compound command is refused if on its own it is a loop or two tasks, and else answered as
it is on its own.  (2) Inside a compound command no phrase is read, so that it does not matter how phrases would be
read.  (3, 4) The code of two tasks and of a loop holds the code of each phrase on its own, or a remark. -/
theorem interpretAt_nested (robot : Robot) (motors : List String) :
    (∀ depth text,
      let onItsOwn := interpret ⟨robot, motors, []⟩ text
      let inside := interpretAt (depth + 1) ⟨robot, motors, []⟩ text
      if onItsOwn.kind? = some .loop ∨ onItsOwn.kind? = some .multitask then
        inside = .refused .nested ∧ inside.errorMessage? = some "Nested compound commands are not supported"
      else inside = onItsOwn) ∧
    (∀ depth routines text read,
      interpretAt (depth + 1) ⟨robot, motors, routines⟩ text =
        answerAt (depth + 1) read ⟨robot, motors, routines⟩ text) ∧
    (∀ routines text, (interpret ⟨robot, motors, routines⟩ text).kind? = some .multitask →
      ∃ first second, halves? (lower text.toList) = some (first, second) ∧
        (interpret ⟨robot, motors, routines⟩ text).code? = some (joinLines
          (["# Parallel execution: " ++ first ++ " AND " ++ second, "async def task1():"]
            ++ phraseInTask robot motors first ++ ["", "async def task2():"] ++ phraseInTask robot motors second
            ++ ["", "await multitask(task1(), task2())"]))) ∧
    (∀ routines text, (interpret ⟨robot, motors, routines⟩ text).kind? = some .loop →
      (interpret ⟨robot, motors, routines⟩ text).isUnderstood = true →
      ∃ count : Int, (interpret ⟨robot, motors, routines⟩ text).code? = some (joinLines
        (("for i in range(" ++ toString count ++ "):") ::
          if loopBody text.toList = [] then ["    # Add commands here", "    pass"]
          else phraseInLoop robot motors (String.ofList (loopBody text.toList))))) := by
  refine ⟨?_, ?_, fun _ _ => code?_of_multitask, fun _ _ => code?_of_loop⟩
  · intro depth text
    have hcompound := Answer.isCompound_iff (interpret ⟨robot, motors, []⟩ text)
    simp only
    rw [interpretAt_succ, interpretWithin_zero]
    split
    · rename_i h
      rw [if_pos (hcompound.2 h)]
      exact ⟨rfl, rfl⟩
    · rename_i h
      rw [if_neg (mt hcompound.1 h)]
  · intro depth routines text read
    have hdeep : ¬ depth + 1 < maxNesting := by unfold maxNesting; omega
    rw [interpretAt_eq_answerAt]
    unfold answerAt
    rw [if_neg hdeep, if_neg hdeep]

end RobotPhrase
