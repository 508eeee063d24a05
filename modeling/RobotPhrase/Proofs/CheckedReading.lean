import RobotPhrase.Proofs.Nesting

/-!
# Reading with checked arithmetic

The least whole number is the only one whose opposite does not fit into 64 bits, and only a precise turn to the left
negates a whole number.  So checked arithmetic stops at such a turn by the least number, in the sentence itself or in a
phrase that is read inside it, and nowhere else; every other sentence has the answer that wrapping arithmetic gives
(`interpretChecked_eq`).

Whether a rule stops shows in the answer that it gives with wrapping arithmetic (`Answer.stops`), so the rules with
checked arithmetic are the plain ones with some of their answers taken away (`guarded`), and the first of them that
stops or answers is the first plain one that answers.
-/

namespace RobotPhrase

open Text Vocabulary Grammar

/-! ### Where checked arithmetic stops -/

/-- The angle of a turn to the left is the least whole number. -/
def Sentence.negatesLeast (s : Sentence) : Bool :=
  s.direction? == some "left" && s.firstNumeral?.any fun n => truncate n.value == leastWhole

/-- The phrases of a sentence that were read on their own for the answer. -/
def Answer.phrases (a : Answer) (text : String) : List String :=
  match a.command? with
  | some (.tasks first second _ _) => [first, second]
  | some (.loop _ (some _)) => [String.ofList (loopBody text.toList)]
  | _ => []

/-- Whether checked arithmetic stops on the way to the answer, if it stops inside the given phrases. -/
def Answer.stops (inside : String → Bool) (s : Sentence) (a : Answer) : Bool :=
  (a.kind? == some .preciseTurn && s.negatesLeast) || (a.phrases s.text).any inside

/-- Answers, of which some are taken away. -/
def guarded (stops : Answer → Bool) (a? : Option Answer) : Option (Option Answer) :=
  if a?.any stops then none else some a?

/-- Phrases are read by `read`, but in some of them there is a stop. -/
def stoppedBy (inside : String → Bool) (read : String → Answer) (phrase : String) : Option Answer :=
  if inside phrase then none else some (read phrase)

theorem Arithmetic.negate_checked {n : Int} (h : leastWhole ≤ n ∧ n ≤ greatestWhole) :
    Arithmetic.checked.negate n = if n = leastWhole then none else some (Arithmetic.wrapping.negate n) := by
  unfold checked wrapping
  dsimp only
  unfold leastWhole greatestWhole at *
  by_cases hleast : n = -9223372036854775808
  · rw [if_pos hleast, if_neg (by omega)]
  · have hfits : (-n).bmod wordBound = -n := by
      unfold wordBound
      apply Int.bmod_eq_of_le <;> omega
    rw [if_neg hleast, if_pos (by omega), hfits]

/-! ### The rules -/

section

variable {inside : String → Bool} {scene : Scene} {s : Sentence}

private theorem stops_preciseTurn (angle : Int) :
    (Answer.understood (.preciseTurn angle)).stops inside s = s.negatesLeast := by
  simp [Answer.stops, Answer.phrases, Command.kind]

private theorem stops_tasks (first second : String) (x y : Block) :
    (Answer.understood (.tasks first second x y)).stops inside s = (inside first || inside second) := by
  simp [Answer.stops, Answer.phrases, Command.kind]

private theorem stops_loop (count : Int) (body : Option Block) :
    (Answer.understood (.loop count body)).stops inside s =
      (body.isSome && inside (String.ofList (loopBody s.text.toList))) := by
  cases body <;> simp [Answer.stops, Answer.phrases, Command.kind]

private theorem guarded_none (stops : Answer → Bool) : guarded stops none = some none := rfl

private theorem guarded_some (stops : Answer → Bool) (a : Answer) :
    guarded stops (some a) = if stops a then none else some (some a) := rfl

/-- A simple command and a question stand for no phrases. -/
private theorem phrases_eq_nil {rule : Rule} {kinds : List CommandKind} {a : Answer} (h : Gives none rule kinds s a) :
    a.phrases s.text = [] := by
  cases h with
  | @understood c hc =>
    cases hc with
    | simple hsimple => cases c <;> first | rfl | simp [Command.isSimple] at hsimple
    | loop hread => simp at hread
    | tasks hread => simp at hread
  | asked | nested => rfl

/-- A rule that reads no phrases and turns by no angle never stops. -/
private theorem lift_eq_guarded {rule : Rule} {kinds : List CommandKind}
    (hgives : ∀ a, rule scene s = some a → Gives none rule kinds s a) (hkinds : .preciseTurn ∉ kinds) :
    (Rule.lift rule scene s : Option (Option Answer)) = guarded (Answer.stops inside s) (rule scene s) := by
  cases ha : rule scene s with
  | none => simp [Rule.lift, ha, guarded_none]
  | some a =>
    have hgive := hgives a ha
    have hkind : a.kind? ≠ some .preciseTurn := by
      intro hprecise
      cases hgive with
      | understood _ hmem => exact hkinds (Option.some.inj hprecise ▸ hmem)
      | asked _ hmem => exact hkinds (Option.some.inj hprecise ▸ hmem)
      | nested => simp at hprecise
    simp [Rule.lift, ha, guarded_some, Answer.stops, phrases_eq_nil hgive, hkind]

private theorem preciseTurnM_checked :
    preciseTurnM Arithmetic.checked scene s = guarded (Answer.stops inside s) (preciseTurn scene s) := by
  unfold preciseTurnM preciseTurn
  dsimp only
  cases !s.hasVerb turnVerbs || !s.has .precise with
  | true => rfl
  | false =>
    cases s.direction?.any fun d => d ≠ "left" && d ≠ "right" with
    | true => rfl
    | false =>
      cases hn : s.firstNumeral? with
      | none =>
        have hstops : (Answer.ask .preciseAngle).stops inside s = false := by
          simp [Answer.stops, Answer.phrases, Sentence.negatesLeast, hn]
        simp [guarded_some, hstops]
        rfl
      | some n =>
        simp only [Bool.false_eq_true, if_false, guarded_some, stops_preciseTurn]
        by_cases hleft : s.direction? = some "left"
        · simp only [Sentence.negatesLeast, hleft, hn, if_true, Arithmetic.negate_checked (truncate_mem_range n.value)]
          by_cases hleast : truncate n.value = leastWhole
          · simp [hleast]
          · simp [hleast]
            rfl
        · simp [Sentence.negatesLeast, hleft]
          rfl

private theorem blockM_stoppedBy (read : String → Answer) (phrase : String) :
    blockM (stoppedBy inside read) phrase = if inside phrase then none else some (blockOf read phrase) := by
  unfold blockM blockOf stoppedBy
  cases inside phrase with
  | true => rfl
  | false => cases hcommand : (read phrase).command? <;> simp [hcommand]

private theorem twoTasksM_checked (read : Option (String → Answer)) :
    twoTasksM (read.map (stoppedBy inside)) scene s = guarded (Answer.stops inside s) (twoTasks read scene s) := by
  unfold twoTasksM twoTasks
  cases halves? (lower s.text.toList) with
  | none => rfl
  | some halves =>
    cases read with
    | none => rfl
    | some read =>
      simp only [Option.map_some, guarded_some, stops_tasks, blockM_stoppedBy]
      cases inside halves.1 <;> cases inside halves.2 <;> rfl

private theorem loopM_checked (read : Option (String → Answer)) :
    loopM (read.map (stoppedBy inside)) scene s = guarded (Answer.stops inside s) (loop read scene s) := by
  unfold loopM loop
  cases s.has .repetition with
  | false => rfl
  | true =>
    cases read with
    | none => rfl
    | some read =>
      cases s.firstNumeral? with
      | none => rfl
      | some n =>
        simp only [if_true, Option.map_some, guarded_some, stops_loop, blockM_stoppedBy]
        cases (loopBody s.text.toList).isEmpty with
        | true => rfl
        | false =>
          cases inside (String.ofList (loopBody s.text.toList)) with
          | true => rfl
          | false => cases blockOf read (String.ofList (loopBody s.text.toList)) <;> rfl

/-! ### The rules in order -/

/-- One more rule in front of others. -/
private theorem findSomeM?_cons_guarded {stops : Answer → Bool} {rule : RuleM Option} {rest : List (RuleM Option)}
    {plain : Rule} {plains : List Rule} (hrule : rule scene s = guarded stops (plain scene s))
    (hrest : (rest.findSomeM? fun r => r scene s) = guarded stops (plains.findSome? fun r => r scene s)) :
    ((rule :: rest).findSomeM? fun r => r scene s) =
      guarded stops ((plain :: plains).findSome? fun r => r scene s) := by
  rw [List.findSomeM?_cons, List.findSome?_cons, hrule]
  cases plain scene s with
  | none => exact hrest
  | some a =>
    rw [guarded_some]
    cases stops a <;> rfl

private theorem findSomeM?_rulesM (read : Option (String → Answer)) :
    ((rulesM Arithmetic.checked (read.map (stoppedBy inside))).findSomeM? fun r => r scene s) =
      guarded (Answer.stops inside s) ((rules read).findSome? fun r => r scene s) := by
  unfold rulesM rules
  refine findSomeM?_cons_guarded (lift_eq_guarded (fun _ => routineCall_gives) (by decide)) ?_
  refine findSomeM?_cons_guarded (twoTasksM_checked read) ?_
  refine findSomeM?_cons_guarded (loopM_checked read) ?_
  refine findSomeM?_cons_guarded (lift_eq_guarded (fun _ => watch_gives) (by decide)) ?_
  refine findSomeM?_cons_guarded (lift_eq_guarded (fun _ => followLine_gives) (by decide)) ?_
  refine findSomeM?_cons_guarded (lift_eq_guarded (fun _ => taskOutline_gives) (by decide)) ?_
  refine findSomeM?_cons_guarded (lift_eq_guarded (fun _ => stop_gives) (by decide)) ?_
  refine findSomeM?_cons_guarded (lift_eq_guarded (fun _ => setSpeed_gives) (by decide)) ?_
  refine findSomeM?_cons_guarded (lift_eq_guarded (fun _ => runMotor_gives) (by decide)) ?_
  refine findSomeM?_cons_guarded preciseTurnM_checked ?_
  refine findSomeM?_cons_guarded (lift_eq_guarded (fun _ => turn_gives) (by decide)) ?_
  refine findSomeM?_cons_guarded (lift_eq_guarded (fun _ => move_gives) (by decide)) ?_
  refine findSomeM?_cons_guarded (lift_eq_guarded (fun _ => wait_gives) (by decide)) ?_
  rfl

/-- One level of reading. -/
private theorem answerM_checked (read : Option (String → Answer)) (text : String) :
    answerM Arithmetic.checked (read.map (stoppedBy inside)) scene text =
      if (answerWith read scene text).stops inside (.ofText text) then none else some (answerWith read scene text) := by
  rw [answerWith_eq_findSome?]
  unfold answerM
  dsimp only
  rw [findSomeM?_rulesM]
  by_cases hempty : tokenize text = []
  · simp [Sentence.ofText, hempty, Answer.stops, Answer.phrases]
    rfl
  · rw [if_neg hempty, if_neg (by simpa [Sentence.ofText] using hempty)]
    cases (rules read).findSome? fun r => r scene (.ofText text) with
    | none => rfl
    | some a =>
      rw [guarded_some, Option.getD_some]
      cases a.stops inside (.ofText text) <;> rfl

end

/-! ### Levels -/

/-- Whether checked arithmetic stops at a sentence in which compound commands may be nested `budget` levels deep. -/
def stopsWithin (budget : Nat) (scene : Scene) (text : String) : Bool :=
  match budget with
  | 0 => (interpretWithin 0 scene text).stops (fun _ => false) (.ofText text)
  | n + 1 =>
    (interpretWithin (n + 1) scene text).stops (stopsWithin n { scene with routines := [] }) (.ofText text)

theorem interpretM_checked (budget : Nat) (scene : Scene) (text : String) :
    interpretM Arithmetic.checked budget scene text =
      if stopsWithin budget scene text then none else some (interpretWithin budget scene text) := by
  induction budget generalizing scene text with
  | zero => exact answerM_checked none text
  | succ n ih =>
    have hinner : interpretM Arithmetic.checked n { scene with routines := [] } =
        stoppedBy (stopsWithin n { scene with routines := [] }) (interpretWithin n { scene with routines := [] }) :=
      funext fun phrase => ih _ phrase
    unfold interpretM
    rw [hinner]
    exact answerM_checked (some _) text

/-- Whether a sentence is a precise turn to the left by the least whole number. -/
def turnsByLeast (scene : Scene) (text : String) : Bool :=
  (interpret scene text).kind? == some .preciseTurn && (Sentence.ofText text).negatesLeast

/-- Whether a sentence or a phrase that is read inside it is a precise turn to the left by the least whole number. -/
def overflows (scene : Scene) (text : String) : Bool :=
  turnsByLeast scene text || ((interpret scene text).phrases text).any (turnsByLeast { scene with routines := [] })

private theorem stopsWithin_zero (robot : Robot) (motors : List String) (phrase : String) :
    stopsWithin 0 ⟨robot, motors, []⟩ phrase = turnsByLeast ⟨robot, motors, []⟩ phrase := by
  unfold stopsWithin turnsByLeast Answer.stops
  rw [interpretWithin_zero]
  by_cases hcompound : (interpret ⟨robot, motors, []⟩ phrase).isCompound = true
  · rw [if_pos hcompound]
    rcases (Answer.isCompound_iff _).1 hcompound with hkind | hkind <;> simp [hkind, Answer.phrases]
  · rw [if_neg hcompound]
    simp

/-- A sentence that does not overflow has the same answer in checked and in wrapping arithmetic. -/
theorem interpretChecked_eq (scene : Scene) (text : String) :
    interpretChecked scene text = if overflows scene text then none else some (interpret scene text) := by
  have hinside : stopsWithin 0 { scene with routines := [] } = turnsByLeast { scene with routines := [] } :=
    funext fun phrase => stopsWithin_zero scene.robot scene.motors phrase
  have hstops : stopsWithin maxNesting scene text = overflows scene text := by
    show Answer.stops (stopsWithin 0 { scene with routines := [] }) (.ofText text) (interpretWithin 1 scene text) = _
    rw [hinside]
    rfl
  rw [← hstops]
  exact interpretM_checked maxNesting scene text

example : interpretChecked ⟨{ }, [], []⟩ "turn left precisely -9223372036854775808" = none := by decide +kernel

end RobotPhrase
