import RobotPhrase.Proofs.Kinds
import RobotPhrase.Proofs.MotionCalls
import RobotPhrase.Proofs.PreviewLines
import RobotPhrase.Proofs.Tokenize

/-!
# Commands and the motions of their statements

The grammar writes statements and the preview reads them, and they share the text only.  A command to move, turn or wait
is one statement with a whole number, perhaps below a change of a rate.  The statement is read back as the motion that
was written, with the value of that number (`ofStatement?_statement`), except that a wait with a minus sign is no
motion; the change of a rate is none either, although it may speak of going straight (`ofStatement?_settingsLine`).
-/

namespace RobotPhrase

open Text Grammar

/-! ### Statements -/

namespace MotionKind

/-- The kind of the commands that are such a motion. -/
def command : MotionKind → CommandKind
  | straight => .move
  | turn => .turn
  | wait => .wait

def statement (kind : MotionKind) (n : Int) : String := kind.opening ++ toString n ++ ")"

/-- The command for such a motion, perhaps at a new rate; a wait has none. -/
def order : MotionKind → Option Int → Int → Command
  | straight, rate, n => .move rate n
  | turn, rate, n => .turn rate n
  | wait, _, n => .wait n

/-- The line that changes the rate. -/
def rateLines : MotionKind → Option Int → List String
  | straight, rate => rate.toList.map (settingsLine .straightSpeed)
  | turn, rate => rate.toList.map (settingsLine .turnRate)
  | wait, _ => []

/-- The lines of the command: a statement with a number, perhaps below a change of a rate. -/
def statementLines (kind : MotionKind) (rate : Option Int) (n : Int) : List String :=
  kind.rateLines rate ++ [kind.statement n]

theorem lines_order (kind : MotionKind) (rate : Option Int) (n : Int) :
    (kind.order rate n).lines = kind.statementLines rate n := by
  cases kind <;> cases rate <;> rfl

end MotionKind

/-- The statement of a wait that has a minus sign. -/
def IsNegativeWait (kind : MotionKind) (n : Int) : Prop := kind = .wait ∧ n < 0

instance (kind : MotionKind) (n : Int) : Decidable (IsNegativeWait kind n) := inferInstanceAs (Decidable (_ ∧ _))

private theorem toList_statement (kind : MotionKind) (n : Int) :
    (kind.statement n).toList = kind.opening.toList ++ ((Numeral.ofInt n).text ++ [')']) := by
  simp [MotionKind.statement, Numeral.text_ofInt]

/-- There are no letters in a number. -/
private theorem not_mem_number {c : Char} (hc : isSmallLetter c = true) (n : Int) :
    c ∉ (Numeral.ofInt n).text ++ [')'] := by
  rw [Numeral.text_ofInt, List.mem_append, not_or]
  constructor
  · intro hmem
    rcases Numeral.mem_toString hmem with rfl | hdigit
    · exact absurd hc (by decide)
    · rw [isDigit_of_isSmallLetter hc] at hdigit
      simp at hdigit
  · intro hmem
    obtain rfl : c = ')' := by simpa using hmem
    exact absurd hc (by decide)

/-- A letter that stands in the opening of one statement only. -/
private def letter : MotionKind → Char
  | .straight => 's'
  | .turn => 'n'
  | .wait => 'w'

private theorem isSmallLetter_letter (kind : MotionKind) : isSmallLetter (letter kind) = true := by
  cases kind <;> decide

private theorem letter_mem_opening (kind : MotionKind) : letter kind ∈ kind.opening.toList := by
  cases kind <;> decide

private theorem not_hasCall_of_not_mem {kind : MotionKind} {c : Char} {cs : List Char} (hc : c ∈ kind.opening.toList)
    (h : c ∉ cs) : ¬ kind.HasCall cs := by
  rintro ⟨before, m, hcall⟩
  exact h (hcall.opening_infix.subset hc)

private theorem not_hasCall_statement {kind other : MotionKind} (h : other ≠ kind) (n : Int) :
    ¬ other.HasCall (kind.statement n).toList := by
  have hkind : letter other ∉ kind.opening.toList := by
    revert h
    cases other <;> cases kind <;> decide
  rw [toList_statement]
  refine not_hasCall_of_not_mem (letter_mem_opening other) ?_
  rw [List.mem_append, not_or]
  exact ⟨hkind, not_mem_number (isSmallLetter_letter other) n⟩

private theorem isCall_statement {kind : MotionKind} {n : Int} (h : ¬ IsNegativeWait kind n) :
    kind.IsCall [] (Numeral.ofInt n) (kind.statement n).toList where
  literal := Numeral.isLiteral_ofInt n
  unsigned hwait := decide_eq_false fun hn => h ⟨hwait, hn⟩
  written := ⟨[], by simp [toList_statement]⟩

private theorem not_hasCall_negativeWait {n : Int} (h : n < 0) :
    ¬ MotionKind.wait.HasCall (MotionKind.wait.statement n).toList := by
  have htext : (MotionKind.wait.statement n).toList = 'w' :: ("ait(".toList ++ ((Numeral.ofInt n).text ++ [')'])) :=
    toList_statement .wait n
  rintro ⟨before, m, hcall⟩
  cases before with
  | nil =>
    -- the argument begins with a minus sign, which is not read
    have hread : Numeral.readUnsigned? ((Numeral.ofInt n).text ++ [')']) = none := by
      simp [Numeral.text, Numeral.ofInt, h, Numeral.readUnsigned?]
    have hat := argumentAt?_eq_some_iff.2 hcall
    rw [toList_statement, argumentAt?, after?_eq_some_iff.2 rfl] at hat
    simp [MotionKind.read, hread] at hat
  | cons d before =>
    have hletter : 'w' ∉ "ait(".toList ++ ((Numeral.ofInt n).text ++ [')']) := by
      rw [List.mem_append, not_or]
      exact ⟨by decide, not_mem_number (by decide) n⟩
    rw [htext, MotionKind.IsCall.cons_iff] at hcall
    exact not_hasCall_of_not_mem (letter_mem_opening .wait) hletter ⟨before, m, hcall.2⟩

/-- A statement is read back as the motion that was written. -/
theorem ofStatement?_statement (kind : MotionKind) (n : Int) :
    Motion.ofStatement? (kind.statement n) =
      if IsNegativeWait kind n then none else some (kind.motion (Numeral.wholeValue n)) := by
  by_cases h : IsNegativeWait kind n
  · rw [if_pos h, ofStatement?_eq_none_iff]
    obtain ⟨rfl, hn⟩ := h
    intro other
    by_cases hother : other = .wait
    · rw [hother]
      exact not_hasCall_negativeWait hn
    · exact not_hasCall_statement hother n
  · rw [if_neg h, ofStatement?_eq_some_iff, ← Numeral.value_ofInt]
    have hearlier : ∀ other ∈ kind.earlier, other ≠ kind := by cases kind <;> decide
    exact ⟨kind, [], Numeral.ofInt n, (isCall_statement h).isFirstCall, rfl,
      fun other hother => not_hasCall_statement (hearlier other hother) n⟩

private theorem toList_settingsLine (setting : Setting) (value : Int) :
    (settingsLine setting value).toList =
      ("robot.settings(" ++ setting.name).toList ++ '=' :: ((Numeral.ofInt value).text ++ [')']) := by
  unfold settingsLine
  rw [String.toList_append, String.toList_append, String.toList_append, Numeral.text_ofInt, List.append_assoc,
    List.append_assoc]
  rfl

/-- A change of a rate is no motion, whatever it speaks of. -/
theorem ofStatement?_settingsLine (setting : Setting) (value : Int) :
    Motion.ofStatement? (settingsLine setting value) = none := by
  rw [ofStatement?_eq_none_iff]
  rintro kind ⟨before, m, hcall⟩
  have hequals : '=' ∉ kind.opening.toList := by cases kind <;> decide
  have hname : occurs kind.opening.toList ("robot.settings(" ++ setting.name).toList = false := by
    cases kind <;> cases setting <;> decide +kernel
  have hfound := hcall.opening_infix
  -- the call stands neither before the sign nor in the number behind it
  rw [toList_settingsLine, infix_append_cons_iff hequals] at hfound
  rcases hfound with hfound | hfound
  · rw [← occurs_iff, hname] at hfound
    simp at hfound
  · exact not_mem_number (isSmallLetter_letter kind) value (hfound.subset (letter_mem_opening kind))

/-! ### Commands to move, turn or wait -/

/-- A number within a line. -/
private theorem isLine_around {a b : String} (ha : '\n' ∉ a.toList) (n : Int) (hb : IsLine b) :
    IsLine (a ++ toString n ++ b) := by
  refine IsLine.append ?_ hb
  rw [String.toList_append, List.mem_append, not_or]
  refine ⟨ha, fun hfeed => ?_⟩
  rcases Numeral.mem_toString hfeed with hsign | hdigit
  · exact absurd hsign (by decide)
  · exact absurd hdigit (by decide)

private theorem exists_setting_of_mem {kind : MotionKind} {rate : Option Int} {l : String}
    (h : l ∈ kind.rateLines rate) : ∃ setting value, l = settingsLine setting value := by
  cases kind with
  | straight =>
    obtain ⟨value, -, rfl⟩ := List.mem_map.1 h
    exact ⟨_, value, rfl⟩
  | turn =>
    obtain ⟨value, -, rfl⟩ := List.mem_map.1 h
    exact ⟨_, value, rfl⟩
  | wait => cases h

private theorem isLine_of_mem_statementLines {kind : MotionKind} {rate : Option Int} {n : Int} {l : String}
    (h : l ∈ kind.statementLines rate n) : IsLine l := by
  rcases List.mem_append.1 h with h | h
  · obtain ⟨setting, value, rfl⟩ := exists_setting_of_mem h
    exact isLine_around (by cases setting <;> decide) value (by decide)
  · obtain rfl : l = kind.statement n := by simpa using h
    exact isLine_around (by cases kind <;> decide) n (by decide)

namespace MotionKind

/-- The rule of the grammar that gives such commands. -/
def rule : MotionKind → Rule
  | straight => Grammar.move
  | turn => Grammar.turn
  | wait => Grammar.wait

variable {kind : MotionKind} {scene : Scene} {s : Sentence} {c : Command}

/-- No other rule gives them. -/
private theorem rule_of_kind? {read : String → Answer} {rule : Rule} {a : Answer} (hrule : rule ∈ rules (some read))
    (h : rule scene s = some a) (hkind : a.kind? = some kind.command) : kind.rule scene s = some a := by
  have hnot {other : CommandKind} (ha : a.kind? = some other) (hother : other ∉ [.move, .turn, .wait]) :
      kind.rule scene s = some a := by
    obtain rfl : other = kind.command := Option.some.inj (ha.symm.trans hkind)
    cases kind <;> simp [command] at hother
  have hone (other : MotionKind) (ha : a.kind? = some other.command) (hother : other.rule scene s = some a) :
      kind.rule scene s = some a := by
    have hsame : other.command = kind.command := Option.some.inj (ha.symm.trans hkind)
    obtain rfl : other = kind := by cases other <;> cases kind <;> simp [command] at hsame ⊢
    exact hother
  simp only [rules, List.mem_cons, List.not_mem_nil, or_false] at hrule
  rcases hrule with rfl | rfl | rfl | rfl | rfl | rfl | rfl | rfl | rfl | rfl | rfl | rfl | rfl
  · exact hnot (kind?_of_routineCall h) (by decide)
  · exact hnot (kind?_of_twoTasks h) (by decide)
  · exact hnot (kind?_of_loop h) (by decide)
  · rcases kind?_of_watch h with hsensor | hsensor
    · exact hnot hsensor (by decide)
    · exact hnot hsensor (by decide)
  · exact hnot (kind?_of_followLine h) (by decide)
  · exact hnot (kind?_of_taskOutline h) (by decide)
  · exact hnot (kind?_of_stop h) (by decide)
  · exact hnot (kind?_of_setSpeed h) (by decide)
  · exact hnot (kind?_of_runMotor h) (by decide)
  · exact hnot (kind?_of_preciseTurn h) (by decide)
  · exact hone .turn (kind?_of_turn h) h
  · exact hone .straight (kind?_of_move h) h
  · exact hone .wait (kind?_of_wait h) h

/-- The number of such a command has 64 bits. -/
private theorem order_of_rule (h : kind.rule scene s = some (.understood c)) :
    ∃ rate n, leastWhole ≤ n ∧ n ≤ greatestWhole ∧ c = kind.order rate n := by
  cases kind with
  | straight =>
    have hrule : Drive.straight.rule scene s = some (.understood c) := h
    obtain ⟨n, i, -, rfl⟩ := Drive.straight.command_of_rule hrule
    exact ⟨_, _, (truncate_mem_range _).1, (truncate_mem_range _).2, rfl⟩
  | turn =>
    have hrule : Drive.turn.rule scene s = some (.understood c) := h
    obtain ⟨n, i, -, rfl⟩ := Drive.turn.command_of_rule hrule
    exact ⟨_, _, (truncate_mem_range _).1, (truncate_mem_range _).2, rfl⟩
  | wait =>
    have hrule : Grammar.wait scene s = some (.understood c) := h
    rcases wait_eq_some hrule with ⟨-, ha⟩ | ⟨n, -, ha⟩
    · exact absurd ha.symm (Answer.ask_ne_understood _ c)
    · exact ⟨none, _, (truncate_mem_range _).1, (truncate_mem_range _).2, Answer.understood.inj ha⟩

end MotionKind

/-- The path of one motion on its own.  Time starts from zero, and the motion takes as long as it does elsewhere. -/
def MotionKind.path (kind : MotionKind) (n : Int) (rates : Rates) (start : Pose) : Path :=
  let destination := kind.destination (Numeral.wholeValue n) rates start
  let stop := { destination with timestamp := 0 + (destination.timestamp - start.timestamp) }
  ⟨[⟨kind, { start with timestamp := 0 }, stop, kind.statement n⟩], stop.timestamp, stop⟩

private theorem replay_statementLines (kind : MotionKind) (rate : Option Int) (n : Int) (rates : Rates) (start : Pose) :
    replay rates start (kind.statementLines rate n) =
      if IsNegativeWait kind n then ⟨[], 0, start⟩ else kind.path n rates start := by
  have hrate : replay rates start (kind.statementLines rate n) = replay rates start [kind.statement n] := by
    have hpassed : ∀ l ∈ kind.rateLines rate, Motion.ofStatement? l = none := by
      intro l hl
      obtain ⟨setting, value, rfl⟩ := exists_setting_of_mem hl
      exact ofStatement?_settingsLine setting value
    unfold replay MotionKind.statementLines
    generalize kind.rateLines rate = ls at hpassed ⊢
    induction ls with
    | nil => rfl
    | cons l ls ih =>
      rw [List.cons_append, replayFrom_cons_of_none (hpassed l (by simp)), ih fun x hx => hpassed x (by simp [hx])]
  have hmotion := ofStatement?_statement kind n
  rw [hrate]
  unfold replay
  by_cases h : IsNegativeWait kind n
  · rw [if_pos h] at hmotion ⊢
    rw [replayFrom_cons_of_none hmotion]
    rfl
  · rw [if_neg h] at hmotion ⊢
    simp only [replayFrom, segment?, hmotion, Option.map_some, MotionKind.kind_motion, MotionKind.apply_motion]
    rfl

/-- A sentence that is understood as a command to move, turn or wait becomes one statement with a whole number of 64
bits, perhaps below a change of a rate, and replaying its code makes exactly the motion of that statement, which leads
where the value of the number says; only a wait of negative duration is passed over. -/
theorem replay_code_of_interpret (scene : Scene) (text : String) (kind : MotionKind) (c : Command)
    (h : (interpret scene text).outcome = .success c) (hkind : (interpret scene text).kind? = some kind.command) :
    ∃ rate n, leastWhole ≤ n ∧ n ≤ greatestWhole ∧ c = kind.order rate n ∧
      c.code = joinLines (kind.statementLines rate n) ∧ linesOf c.code = kind.statementLines rate n ∧
      ∀ rates start, replay rates start (linesOf c.code) =
        if IsNegativeWait kind n then ⟨[], 0, start⟩ else kind.path n rates start := by
  have hanswer : interpret scene text = .understood c :=
    (isRegular_interpret scene text).eq_understood (by rw [Answer.command?, h])
  rw [hanswer] at hkind
  rw [interpret_eq_answerWith] at hanswer
  generalize interpretWithin 0 { scene with routines := [] } = read at hanswer
  have hrule : kind.rule scene (.ofText text) = some (.understood c) := by
    rcases answerWith_cases (some read) scene text with ⟨-, he⟩ | ⟨-, rule, hmem, a, ha, he⟩ | ⟨-, -, he⟩
    · simp [he] at hanswer
    · obtain rfl : a = .understood c := he.symm.trans hanswer
      exact MotionKind.rule_of_kind? hmem ha hkind
    · simp [he] at hanswer
  obtain ⟨rate, n, hleast, hgreatest, rfl⟩ := MotionKind.order_of_rule hrule
  have hcode : (kind.order rate n).code = joinLines (kind.statementLines rate n) := by
    rw [Command.code, kind.lines_order]
  have hself : linesOf (kind.order rate n).code = kind.statementLines rate n := by
    rw [hcode, linesOf_joinLines_eq_self fun l => isLine_of_mem_statementLines]
  refine ⟨rate, n, hleast, hgreatest, rfl, hcode, hself, ?_⟩
  intro rates start
  rw [hself, replay_statementLines]

/-- Five backwards at a given speed. -/
theorem replay_code_back_five :
    interpret ⟨{ }, [], []⟩ "back 5 at 9" = .success (.move (some 9) (-5)) .move ⟨95⟩ ∧
      (Command.move (some 9) (-5)).code = "robot.settings(straight_speed=9)\nrobot.straight(-5)" ∧
      ∀ rates start, replay rates start ["robot.settings(straight_speed=9)", "robot.straight(-5)"] =
        MotionKind.straight.path (-5) rates start := by
  have hanswer : interpret ⟨{ }, [], []⟩ "back 5 at 9" = .success (.move (some 9) (-5)) .move ⟨95⟩ := by decide +kernel
  have hlines : linesOf (Command.move (some 9) (-5)).code =
      ["robot.settings(straight_speed=9)", "robot.straight(-5)"] := by decide +kernel
  obtain ⟨rate, n, -, -, horder, -, -, hreplay⟩ := replay_code_of_interpret ⟨{ }, [], []⟩ "back 5 at 9" .straight
    (.move (some 9) (-5)) (by rw [hanswer]; rfl) (by rw [hanswer]; rfl)
  obtain ⟨rfl, rfl⟩ := Command.move.inj horder
  refine ⟨hanswer, by decide, ?_⟩
  intro rates start
  rw [← hlines, hreplay, if_neg (by simp [IsNegativeWait])]

end RobotPhrase
