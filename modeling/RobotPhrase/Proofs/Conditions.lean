import RobotPhrase.Proofs.Lexicon
import RobotPhrase.Proofs.Sensing
import RobotPhrase.Proofs.Tokenize

/-!
# The conditions of waiting loops

A program that waits for a reading has one loop, whose condition is read back as the comparison that was written
(`loopConditions_watch`, `conditionHolds?_text`).  A sentence with "until" names the comparison that ends the loop, so
the loop should go on exactly while it fails.  For "greater" and "less" it does.  For "equals" the loop goes on while
the reading is at least the number, as it does for "less", and this is right only above the number.
-/

namespace RobotPhrase

open Text Vocabulary Grammar

/-! ### Reading a condition -/

/-- The relation that an operator of a program stands for. -/
def Relation.ofOperator? (operator : String) : Option Relation :=
  [(">", greater), ("<", less), ("==", equal), ("<=", atMost), (">=", atLeast)].lookup operator

/-- A text that is a whole number in decimal. -/
def wholeNumber? (cs : List Char) : Option Int :=
  match Numeral.read? cs with
  | some (⟨negative, whole, []⟩, []) =>
    some (if negative then -(Numeral.digitsValue whole : Int) else Numeral.digitsValue whole)
  | _ => none

/-- Whether a condition holds if the expression on its left reads as `reading`; on the right there is a whole number. -/
def conditionHolds? (expression : String) (reading : Int) (condition : String) : Option Bool :=
  match wordsOf condition with
  | [left, operator, number] =>
    if left = expression then do
      let relation ← Relation.ofOperator? operator
      let value ← wholeNumber? number.toList
      return relation.holds reading value
    else none
  | _ => none

/-- The condition of the loop that a line opens. -/
def loopCondition? (line : String) : Option String :=
  (after? "while ".toList line.toList).bind fun rest =>
    if rest.getLast? = some ':' then some (String.ofList rest.dropLast) else none

/-- The conditions of the loops at the margin of a program. -/
def loopConditions (code : String) : List String := (linesOf code).filterMap loopCondition?

theorem Relation.ofOperator?_symbol (r : Relation) : ofOperator? r.symbol = some r := by
  cases r <;> rfl

theorem wholeNumber?_toString (n : Int) : wholeNumber? (toString n).toList = some n := by
  have hread : Numeral.read? (toString n).toList = some (Numeral.ofInt n, []) := by
    have h := Numeral.read?_text_append (Numeral.isLiteral_ofInt n) Numeral.stops_nil
    rwa [List.append_nil, Numeral.text_ofInt] at h
  have hdigits : Numeral.digitsValue (Nat.toDigits 10 n.natAbs) = n.natAbs :=
    Nat.ofDigitChars_toDigits (by decide) (by decide)
  unfold wholeNumber?
  rw [hread]
  simp only [Numeral.ofInt, hdigits, decide_eq_true_eq]
  congr 1
  split <;> omega

/-- A text that is one word. -/
private def IsWord (w : String) : Prop := w ≠ "" ∧ ∀ c ∈ w.toList, isBlank c = false

private instance (w : String) : Decidable (IsWord w) :=
  decidable_of_iff (w ≠ "" ∧ w.toList.all (fun c => !isBlank c) = true) (by simp [IsWord])

private theorem isWord_toString (n : Int) : IsWord (toString n) := by
  have hne : (toString n).toList ≠ [] := by
    rw [← Numeral.text_ofInt]
    exact Numeral.text_ne_nil (Numeral.isLiteral_ofInt n)
  refine ⟨by simpa using hne, fun c hc => ?_⟩
  rcases Numeral.mem_toString hc with rfl | hdigit
  · decide
  · exact (isKept_digit hdigit).2.2

private theorem wordsOf_spaced {a b c : String} (ha : IsWord a) (hb : IsWord b) (hc : IsWord c) :
    wordsOf (a ++ " " ++ b ++ " " ++ c) = [a, b, c] := by
  have hword {w : String} (hw : IsWord w) : words w.toList = [w.toList] :=
    words_eq_singleton (by simpa using hw.1) hw.2
  have htext : (a ++ " " ++ b ++ " " ++ c).toList = a.toList ++ ' ' :: (b.toList ++ ' ' :: c.toList) := by
    simp
  unfold wordsOf
  rw [htext, words_append_blank, words_append_blank, hword ha, hword hb, hword hc]
  simp

private theorem conditionHolds?_of_words {expression operator number condition : String} {relation : Relation}
    {value : Int} (hwords : wordsOf condition = [expression, operator, number])
    (hoperator : Relation.ofOperator? operator = some relation) (hnumber : wholeNumber? number.toList = some value)
    (x : Int) : conditionHolds? expression x condition = some (relation.holds x value) := by
  unfold conditionHolds?
  rw [hwords]
  simp [hoperator, hnumber]

/-- The condition of a waiting loop is the comparison that it was written for. -/
theorem conditionHolds?_text (sensor : String) (relation : Relation) (value x : Int) :
    conditionHolds? (sensorReading sensor) x (Watch.reading (sensorReading sensor) relation value).text =
      some (relation.holds x value) := by
  have hreading : IsWord (sensorReading sensor) := by
    have hall : ∀ r ∈ sensorReadings, IsWord r := by decide
    exact hall _ (sensorReading_mem sensor)
  have hsymbol : IsWord relation.symbol := by cases relation <;> decide
  exact conditionHolds?_of_words (wordsOf_spaced hreading hsymbol (isWord_toString value))
    (Relation.ofOperator?_symbol relation) (wholeNumber?_toString value) x

/-! ### The loop of a program -/

theorem loopCondition?_loop (condition : String) : loopCondition? ("while " ++ condition ++ ":") = some condition := by
  have hafter : after? "while ".toList ("while " ++ condition ++ ":").toList = some (condition.toList ++ [':']) := by
    rw [after?_eq_some_iff, String.toList_append, String.toList_append, List.append_assoc]
    rfl
  unfold loopCondition?
  rw [hafter, Option.bind_some, if_pos (by simp), List.dropLast_concat, String.ofList_toList]

private theorem loopCondition?_append {a : String} {c : Char} {cs : List Char} (ha : a.toList = c :: cs) (hc : 'w' ≠ c)
    (b : String) : loopCondition? (a ++ b) = none := by
  have hafter : after? "while ".toList (a ++ b).toList = none := by
    rw [String.toList_append, ha]
    exact if_neg hc
  unfold loopCondition?
  rw [hafter, Option.bind_none]

private theorem isLine_of_mem_lines {w : Watch} (hline : '\n' ∉ w.text.toList) (driving : Option Int) :
    ∀ l ∈ (Command.watch w driving).lines, IsLine l := by
  have hloop : ∀ l ∈ w.lines, IsLine l := by
    have hwhile : IsLine ("while " ++ w.text ++ ":") := IsLine.append (not_mem_append (by decide) hline) (by decide)
    simpa [Watch.lines, hwhile] using (by decide : IsLine "    wait(10)")
  cases driving with
  | none => exact hloop
  | some speed =>
    have hheading : IsLine w.heading := by cases w <;> simp only [Watch.heading] <;> decide
    have hspeed : '\n' ∉ (toString speed).toList := Numeral.not_mem_toString (by decide) (by decide) speed
    have hdrive : IsLine ("robot.drive(" ++ toString speed ++ ", 0)") :=
      IsLine.append (not_mem_append (by decide) hspeed) (by decide)
    intro l hl
    simp only [Command.lines, List.mem_append, List.mem_cons, List.not_mem_nil, or_false] at hl
    rcases hl with ((rfl | rfl) | hl) | rfl
    · exact hheading
    · exact hdrive
    · exact hloop l hl
    · decide

/-- A program that waits has one loop. -/
theorem loopConditions_watch {w : Watch} (hline : '\n' ∉ w.text.toList) (driving : Option Int) :
    loopConditions (Command.watch w driving).code = [w.text] := by
  have hloop : w.lines.filterMap loopCondition? = [w.text] := by
    have hwait : loopCondition? "    wait(10)" = none := by decide
    rw [Watch.lines, List.filterMap_cons_some (loopCondition?_loop w.text), List.filterMap_cons_none hwait]
    rfl
  unfold loopConditions Command.code
  rw [linesOf_joinLines_eq_self (isLine_of_mem_lines hline driving)]
  cases driving with
  | none => exact hloop
  | some speed =>
    have hheading : loopCondition? w.heading = none := by cases w <;> simp only [Watch.heading] <;> decide
    have hdrive : loopCondition? ("robot.drive(" ++ toString speed ++ ", 0)") = none := by
      have hfirst : "robot.drive(".toList = 'r' :: "obot.drive(".toList := rfl
      rw [String.append_assoc]
      exact loopCondition?_append hfirst (by decide) _
    have hstop : loopCondition? "robot.stop()" = none := by decide
    rw [Command.lines, List.filterMap_append, List.filterMap_append, hloop, List.filterMap_cons_none hheading,
      List.filterMap_cons_none hdrive, List.filterMap_cons_none hstop]
    rfl

/-! ### Until -/

/-- The operator of the comparison that a sentence asks for. -/
def askedOperator (s : Sentence) : String := ((s.first? .comparison).map Token.text).getD ">"

theorem text_of_comparison {text : String} {t : Token} (ht : t ∈ tokenize text) (h : t.is .comparison = true) :
    t.text ∈ [">", "<", "=="] := by
  have hwords : ∀ word ∈ comparisonWords, comparisonOperator word ∈ [">", "<", "=="] := by decide
  have hlisted : t.raw ∈ comparisonWords := raw_mem_words ht h (by decide) (by decide)
  rcases listed_or_mistyped ht h (by decide) with ⟨-, htext⟩ | ⟨hunlisted, -⟩
  · rw [htext]
    exact hwords t.raw hlisted
  · exact absurd hlisted (hunlisted.not_mem .comparison (by decide))

theorem askedOperator_mem (text : String) : askedOperator (.ofText text) ∈ [">", "<", "=="] := by
  unfold askedOperator
  cases hfirst : (Sentence.ofText text).first? .comparison with
  | none => decide
  | some t => exact text_of_comparison (List.mem_of_find?_eq_some hfirst) (List.find?_some hfirst)

/-- What the robot watches for if the sentence names a sensor, a number and no colour. -/
theorem watched?_reading {s : Sentence} {sensor : Token} {n : Numeral} (hcolor : s.first? .color = none)
    (hsensor : s.first? .sensor = some sensor) (hnumber : s.firstNumeral? = some n) :
    watched? s = some (.reading (sensorReading sensor.text)
      ((Relation.ofSymbol (askedOperator s)).waiting (s.has .whileMark)) (wholeOr n 50)) := by
  have hasked : ((s.first? .comparison).map fun t => Relation.ofSymbol t.text).getD .greater =
      Relation.ofSymbol (askedOperator s) := by
    unfold askedOperator
    cases s.first? .comparison <;> rfl
  unfold watched?
  rw [hcolor, hsensor, hnumber]
  simp only [hasked, Option.bind_eq_bind, Option.bind_some]
  rfl

theorem holds_waiting_iff (asked : Relation) (hasked : asked ∈ [.greater, .less, .equal]) (x value : Int) :
    ((asked.waiting false).holds x value = true ↔ asked.holds x value = false) ↔ asked ≠ .equal ∨ value < x := by
  simp only [List.mem_cons, List.not_mem_nil, or_false] at hasked
  rcases hasked with rfl | rfl | rfl
  · simp [Relation.waiting, Relation.holds]
  · simp [Relation.waiting, Relation.holds]
  · simp [Relation.waiting, Relation.holds]
    omega

/-- The loop for "until" goes on exactly while the comparison fails, except that for "equals" it does so only above the
number. -/
theorem until_goes_on_iff (scene : Scene) (text : String) (sensor : Token) (n : Numeral)
    (huntil : (Sentence.ofText text).has .untilMark = true) (hwhile : (Sentence.ofText text).has .whileMark = false)
    (hcolor : (Sentence.ofText text).first? .color = none)
    (hsensor : (Sentence.ofText text).first? .sensor = some sensor)
    (hnumber : (Sentence.ofText text).firstNumeral? = some n) :
    ∃ answer code condition asked, watch scene (.ofText text) = some answer ∧ answer.code? = some code ∧
      loopConditions code = [condition] ∧ Relation.ofOperator? (askedOperator (.ofText text)) = some asked ∧
      ∀ x, ∃ goesOn, conditionHolds? (sensorReading sensor.text) x condition = some goesOn ∧
        ((goesOn = true ↔ asked.holds x (wholeOr n 50) = false) ↔
          askedOperator (.ofText text) ≠ "==" ∨ wholeOr n 50 < x) := by
  have hoperators : ∀ operator ∈ [">", "<", "=="], Relation.ofOperator? operator = some (.ofSymbol operator) ∧
      Relation.ofSymbol operator ∈ [.greater, .less, .equal] ∧
      (Relation.ofSymbol operator ≠ .equal ↔ operator ≠ "==") := by decide
  obtain ⟨hasked, hrelation, hequal⟩ := hoperators _ (askedOperator_mem text)
  have hwatched := watched?_reading hcolor hsensor hnumber
  rw [hwhile] at hwatched
  generalize hw : Watch.reading (sensorReading sensor.text) _ _ = w at hwatched
  have hanswer : watch scene (.ofText text) = some (.understood (.watch w (drivingSpeed? (.ofText text)))) := by
    have hhas : (Sentence.ofText text).has .sensor = true :=
      List.any_eq_true.2 ⟨sensor, List.mem_of_find?_eq_some hsensor, List.find?_some hsensor⟩
    simp [watch, huntil, hhas, hwatched]
    cases drivingSpeed? (.ofText text) <;> rfl
  have hline : '\n' ∉ w.text.toList := by
    rw [← hw]
    exact not_mem_reading (by decide) (by decide) (by decide) _ _ _
  refine ⟨_, _, w.text, _, hanswer, rfl, loopConditions_watch hline _, hasked, fun x => ?_⟩
  rw [← hw]
  refine ⟨_, conditionHolds?_text sensor.text _ _ x, ?_⟩
  rw [holds_waiting_iff _ hrelation, hequal]

private theorem ofText_go_back_until :
    Sentence.ofText "go back until light below 40" = ⟨"go back until light below 40",
      [.word .verb "go" (some "go"), .word .direction "back" (some "backward"),
        .word .untilMark "until" (some "until"), .word .sensor "light" (some "light"),
        .word .comparison "below" (some "<"), .number ⟨false, ['4', '0'], []⟩]⟩ :=
  congrArg (Sentence.mk _) (by decide +kernel)

theorem until_goes_on_go_back :
    (Sentence.ofText "go back until light below 40").has .untilMark = true ∧
    ∃ answer code condition, watch ⟨{ }, [], []⟩ (.ofText "go back until light below 40") = some answer ∧
      answer.code? = some code ∧ loopConditions code = [condition] ∧
      ∀ x : Int, conditionHolds? "color_sensor.reflection()" x condition = some (decide (40 ≤ x)) := by
  have huntil : (Sentence.ofText "go back until light below 40").has .untilMark = true := by
    rw [ofText_go_back_until]; rfl
  have hvalue : wholeOr ⟨false, ['4', '0'], []⟩ 50 = 40 := by decide +kernel
  obtain ⟨answer, code, condition, asked, hanswer, hcode, hconditions, hasked, hgoesOn⟩ :=
    until_goes_on_iff ⟨{ }, [], []⟩ "go back until light below 40" (.word .sensor "light" (some "light"))
      ⟨false, ['4', '0'], []⟩ huntil (by rw [ofText_go_back_until]; rfl) (by rw [ofText_go_back_until]; rfl)
      (by rw [ofText_go_back_until]; rfl) (by rw [ofText_go_back_until]; rfl)
  have hoperator : askedOperator (.ofText "go back until light below 40") = "<" := by
    rw [ofText_go_back_until]; rfl
  refine ⟨huntil, answer, code, condition, hanswer, hcode, hconditions, fun x => ?_⟩
  obtain ⟨goesOn, hholds, hiff⟩ := hgoesOn x
  rw [hoperator] at hasked hiff
  obtain rfl : Relation.less = asked := Option.some.inj hasked
  have hless : goesOn = true ↔ Relation.less.holds x 40 = false := by
    rw [hvalue] at hiff
    exact hiff.2 (.inl (by decide))
  refine hholds.trans (congrArg some ?_)
  rw [Bool.eq_iff_iff, hless]
  simp [Relation.holds]

private theorem ofText_until_equals :
    Sentence.ofText "wait until distance sensor equals 100" = ⟨"wait until distance sensor equals 100",
      [.word .verb "wait" (some "wait"), .word .untilMark "until" (some "until"),
        .word .sensor "distance" (some "distance"), .word .sensor "sensor" (some "sensor"),
        .word .comparison "equals" (some "=="), .number ⟨false, ['1', '0', '0'], []⟩]⟩ :=
  congrArg (Sentence.mk _) (by decide +kernel)

/-- Below the number the loop for "equals" ends, although the reading is not the number. -/
theorem not_until_goes_on_equals :
    ((Sentence.ofText "wait until distance sensor equals 100").has .untilMark = true ∧
      (Sentence.ofText "wait until distance sensor equals 100").has .whileMark = false ∧
      askedOperator (.ofText "wait until distance sensor equals 100") = "==") ∧
    (watch ⟨{ }, [], []⟩ (.ofText "wait until distance sensor equals 100")).bind Answer.code? =
      some "while distance_sensor.distance() >= 100:\n    wait(10)" ∧
    loopConditions "while distance_sensor.distance() >= 100:\n    wait(10)" = ["distance_sensor.distance() >= 100"] ∧
    conditionHolds? "distance_sensor.distance()" 99 "distance_sensor.distance() >= 100" = some false ∧
    Relation.equal.holds 99 100 = false := by
  rw [ofText_until_equals]
  exact ⟨⟨rfl, rfl, rfl⟩, by decide +kernel, by decide +kernel, by decide +kernel, rfl⟩

end RobotPhrase
