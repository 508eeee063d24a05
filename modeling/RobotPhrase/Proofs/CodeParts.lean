import RobotPhrase.Proofs.Kinds
import RobotPhrase.Proofs.Lexicon
import RobotPhrase.Proofs.Numeral
import RobotPhrase.Proofs.Sensing

/-!
# The parts of code

The code of a command without phrases has fixed lines, and lines that are put together from fixed parts, whole numbers
and names (`Command.lines_cases`).  So a character that no part has is in such a line only if it is in a name
(`Composed.not_mem`).  The names that the plain rules put into code are constants of colours, readings of sensors and
motors (`mem_names_of_mem_plainRules`).
-/

namespace RobotPhrase

open Text Vocabulary Grammar

/-- The fixed parts of lines with numbers or names in them. -/
def lineParts : List String :=
  ["", "    ", "robot.settings(", "straight_speed", "turn_rate", "=", ")", "robot.straight(", "robot.turn(", "wait(",
    "target_angle = hub.imu.heading() + ", ".run_angle(", ", ", "robot", ".stop()", "while ", ":",
    "color_sensor.color() != Color.", " ", ">", "<", "==", "<=", ">=", "robot.drive(", ", 0)",
    "if robot.distance() >= ", "("]

/-- A line put together from fixed parts, whole numbers and names. -/
inductive Composed (names : List String) : String → Prop
  | part {text : String} (h : text ∈ lineParts) : Composed names text
  | number (n : Int) : Composed names (toString n)
  | name {text : String} (h : text ∈ names) : Composed names text
  | append {a b : String} (ha : Composed names a) (hb : Composed names b) : Composed names (a ++ b)

/-- A character that is neither in a fixed part nor in a whole number. -/
def IsForeign (c : Char) : Prop := c ≠ '-' ∧ c.isDigit = false ∧ ∀ part ∈ lineParts, c ∉ part.toList

instance (c : Char) : Decidable (IsForeign c) := inferInstanceAs (Decidable (_ ∧ _ ∧ _))

theorem Composed.not_mem {names : List String} {line : String} {c : Char} (h : Composed names line) (hc : IsForeign c)
    (hnames : ∀ name ∈ names, c ∉ name.toList) : c ∉ line.toList := by
  obtain ⟨hsign, hdigit, hparts⟩ := hc
  induction h with
  | part h => exact hparts _ h
  | number n => exact Numeral.not_mem_toString hsign hdigit n
  | name h => exact hnames _ h
  | append _ _ iha ihb => exact not_mem_append iha ihb

/-- The lines that are the same in all commands of their kind. -/
def fixedLines : List String :=
  (preciseTurnLines 0).eraseIdx 1 ++ followLineLines .never ++
    ["    # Add stop condition", "        break", "# Drive until color detected", "# Drive until sensor condition met"]

namespace Command

/-- The texts that a command puts into its code besides fixed texts and whole numbers. -/
def names : Command → List String
  | runMotor motor _ _ => [motor]
  | stop motor => motor.toList
  | watch (.colorMissing constant) _ => [constant]
  | watch (.reading expression _ _) _ => [expression]
  | call routine arguments => routine :: arguments.map fun n => String.ofList n.text
  | _ => []

theorem eq_taskOutline {c : Command} (h : c.kind = .parallel) : c = .taskOutline := by
  cases c with
  | taskOutline => rfl
  | watch condition driving => cases driving <;> simp [kind] at h
  | _ => simp [kind] at h

section

variable {texts : List String}

/-- A number between two texts. -/
private theorem composed_around {a b : String} (ha : Composed texts a) (n : Int) (hb : b ∈ lineParts) :
    Composed texts (a ++ toString n ++ b) :=
  .append (.append ha (.number n)) (.part hb)

private theorem composed_settingsLine (setting : Setting) (value : Int) : Composed texts (settingsLine setting value) := by
  have hname : setting.name ∈ lineParts := by cases setting <;> decide
  exact composed_around (.append (.append (.part (by decide)) (.part hname)) (.part (by decide))) value (by decide)

private theorem composed_withRate {line : String} (hline : Composed texts line) (setting : Setting) (rate : Option Int) :
    ∀ l ∈ withRate setting rate line, Composed texts l := by
  cases rate with
  | none => simpa [withRate] using hline
  | some value => simpa [withRate] using ⟨composed_settingsLine setting value, hline⟩

private theorem composed_intercalate (ls : List String) (h : ∀ l ∈ ls, l ∈ texts) :
    Composed texts (", ".intercalate ls) := by
  induction ls with
  | nil => exact .part (by decide)
  | cons a ls ih =>
    have ha : Composed texts a := .name (h a (by simp))
    cases ls with
    | nil => simpa using ha
    | cons b ls =>
      rw [String.intercalate_cons_cons]
      exact .append (.append ha (.part (by decide))) (ih fun l hl => h l (by simp [hl]))

end

private theorem lines_cases_preciseTurn (angle : Int) :
    ∀ l ∈ preciseTurnLines angle, l ∈ fixedLines ∨ Composed [] l := by
  have hfixed : ∀ l ∈ (preciseTurnLines 0).eraseIdx 1, l ∈ fixedLines := by
    intro l hl
    simp [fixedLines, hl]
  intro l hl
  -- Only the second line has a number in it.
  rcases List.mem_cons.1 hl with rfl | hl
  · exact .inl (hfixed _ (by simp [preciseTurnLines]))
  rcases List.mem_cons.1 hl with rfl | hl
  · exact .inr (.append (.part (by decide)) (.number angle))
  · exact .inl (hfixed l (List.mem_cons_of_mem _ hl))

private theorem composed_watch_text (w : Watch) (driving : Option Int) : Composed (watch w driving).names w.text := by
  cases w with
  | colorMissing constant => exact .append (.part (by decide)) (.name (by simp [names]))
  | reading expression relation value =>
    have hsymbol : relation.symbol ∈ lineParts := by cases relation <;> decide
    have hreading : Composed (watch (.reading expression relation value) driving).names expression :=
      .name (by simp [names])
    exact .append (.append (.append (.append hreading (.part (by decide))) (.part hsymbol)) (.part (by decide)))
      (.number value)

private theorem lines_cases_watch (w : Watch) (driving : Option Int) :
    ∀ l ∈ (watch w driving).lines, l ∈ fixedLines ∨ Composed (watch w driving).names l := by
  have hloop : ∀ l ∈ w.lines, l ∈ fixedLines ∨ Composed (watch w driving).names l := by
    intro l hl
    rcases List.mem_cons.1 hl with rfl | hl
    · exact .inr (.append (.append (.part (by decide)) (composed_watch_text w driving)) (.part (by decide)))
    · obtain rfl := List.mem_singleton.1 hl
      exact .inl (by decide)
  cases driving with
  | none => exact hloop
  | some speed =>
    have hheading : w.heading ∈ fixedLines := by cases w <;> simp only [Watch.heading] <;> decide
    intro l hl
    simp only [lines, List.mem_append, List.mem_cons, List.not_mem_nil, or_false] at hl
    rcases hl with ((rfl | rfl) | hl) | rfl
    · exact .inl hheading
    · exact .inr (composed_around (.part (by decide)) speed (by decide))
    · exact hloop l hl
    · exact .inl (by decide)

private theorem lines_cases_followLine (ending : LineEnd) :
    ∀ l ∈ followLineLines ending, l ∈ fixedLines ∨ Composed [] l := by
  have hnever : ∀ l ∈ followLineLines .never, l ∈ fixedLines := by
    intro l hl
    simp [fixedLines, hl]
  have hending : ∀ l ∈ ending.lines.map indent, l ∈ fixedLines ∨ Composed [] l := by
    cases ending with
    | afterDistance distance =>
      intro l hl
      rcases List.mem_cons.1 hl with rfl | hl
      · exact .inr (.append (.part (by decide)) (composed_around (.part (by decide)) distance (by decide)))
      · obtain rfl := List.mem_singleton.1 hl
        exact .inl (by decide)
    | onCondition =>
      intro l hl
      obtain rfl := List.mem_singleton.1 hl
      exact .inl (by decide)
    | never => exact fun l hl => .inl (by simp [fixedLines, followLineLines, hl])
  intro l hl
  simp only [followLineLines, List.mem_append] at hnever hl
  rcases hl with (hl | hl) | hl
  · exact .inl (hnever l (.inl (.inl hl)))
  · exact hending l hl
  · exact .inl (hnever l (.inr hl))

/-- A line of a command without phrases, which is no outline, is fixed or put together. -/
theorem lines_cases {c : Command} (h : c.isSimple = true) (hc : c.kind ≠ .parallel) :
    ∀ l ∈ c.lines, l ∈ fixedLines ∨ Composed c.names l := by
  have hsingle {line : String} (hline : Composed c.names line) : ∀ l ∈ [line], l ∈ fixedLines ∨ Composed c.names l := by
    intro l hl
    obtain rfl := List.mem_singleton.1 hl
    exact .inr hline
  cases c with
  | move speed distance =>
    exact fun l hl => .inr (composed_withRate (composed_around (.part (by decide)) distance (by decide)) _ speed l hl)
  | turn rate angle =>
    exact fun l hl => .inr (composed_withRate (composed_around (.part (by decide)) angle (by decide)) _ rate l hl)
  | preciseTurn angle => exact lines_cases_preciseTurn angle
  | wait duration => exact hsingle (composed_around (.part (by decide)) duration (by decide))
  | runMotor motor speed angle =>
    have hmotor : Composed [motor] motor := .name (by simp)
    exact hsingle (composed_around (composed_around (.append hmotor (.part (by decide))) speed (by decide)) angle (by decide))
  | stop motor =>
    cases motor with
    | none => exact hsingle (.append (.part (by decide)) (.part (by decide)))
    | some motor => exact hsingle (.append (.name (by simp [names])) (.part (by decide)))
  | set setting value => exact hsingle (composed_settingsLine setting value)
  | watch condition driving => exact lines_cases_watch condition driving
  | followLine ending => exact lines_cases_followLine ending
  | taskOutline => exact absurd rfl hc
  | call routine arguments =>
    have hroutine : Composed (call routine arguments).names routine := .name (by simp [names])
    have harguments : Composed (call routine arguments).names
        (", ".intercalate (arguments.map fun n => String.ofList n.text)) :=
      composed_intercalate _ fun l hl => List.mem_cons_of_mem routine hl
    exact hsingle (.append (.append (.append hroutine (.part (by decide))) harguments) (.part (by decide)))
  | loop | tasks | completed => simp [isSimple] at h

end Command

/-! ### Names -/

section

variable {scene : Scene} {text : String} {c : Command}

theorem isSimple_of_mem_plainRules {rule : Rule} (hrule : rule ∈ plainRules)
    (h : rule scene (.ofText text) = some (.understood c)) : c.isSimple = true := by
  obtain ⟨kind, hkind, hc⟩ := exists_plainKind hrule h
  obtain rfl : c.kind = kind := Option.some.inj hc
  cases c with
  | loop | tasks | completed => exact absurd hkind (by simp [Command.kind, plainKinds])
  | _ => rfl

private theorem names_eq_nil (h : c.kind ∈ [.move, .turn, .preciseTurn, .wait, .setSpeed, .lineFollow, .parallel]) :
    c.names = [] := by
  cases c with
  | watch condition driving => cases driving <;> simp [Command.kind] at h
  | runMotor | stop | call => simp [Command.kind] at h
  | _ => rfl

private theorem mem_names_of_watch (h : watch scene (.ofText text) = some (.understood c)) :
    ∀ name ∈ c.names, name ∈ colors.map (String.map Char.toUpper) ∨ name ∈ sensorReadings := by
  obtain ⟨w, hw, he⟩ := watch_eq_some h
  obtain rfl := Answer.understood.inj he
  intro name hname
  rcases watched?_cases hw with ⟨t, ht, rfl⟩ | ⟨-, t, n, -, -, relation, rfl⟩
  · have hcolor := (color_sound (List.mem_of_find?_eq_some ht) (List.find?_some ht)).1
    obtain rfl := List.mem_singleton.1 hname
    exact .inl (List.mem_map_of_mem hcolor)
  · obtain rfl := List.mem_singleton.1 hname
    exact .inr (sensorReading_mem t.text)

private theorem motor?_of_stop (h : stop scene (.ofText text) = some (.understood c)) :
    ∀ name ∈ c.names, (Sentence.ofText text).motor? scene.motors = some name := by
  obtain rfl := Answer.understood.inj (stop_eq_some h)
  intro name hname
  exact Option.mem_toList.1 hname

private theorem motor?_of_runMotor (h : runMotor scene (.ofText text) = some (.understood c)) :
    ∀ name ∈ c.names, (Sentence.ofText text).motor? scene.motors = some name := by
  obtain ⟨motor, hmotor, ⟨-, he⟩ | ⟨n, -, he⟩⟩ := runMotor_eq_some h
  · exact absurd he.symm (Answer.ask_ne_understood _ c)
  · obtain rfl := Answer.understood.inj he
    intro name hname
    rw [List.mem_singleton.1 hname, hmotor]

/-- The names that a rule other than those for routines, two tasks and loops puts into code. -/
theorem mem_names_of_mem_plainRules {rule : Rule} (hrule : rule ∈ plainRules)
    (h : rule scene (.ofText text) = some (.understood c)) :
    ∀ name ∈ c.names, (name ∈ colors.map (String.map Char.toUpper) ∨ name ∈ sensorReadings) ∨
      (Sentence.ofText text).motor? scene.motors = some name := by
  have hnone {kind : CommandKind} (hkind : (Answer.understood c).kind? = some kind)
      (hmem : kind ∈ [.move, .turn, .preciseTurn, .wait, .setSpeed, .lineFollow, .parallel]) :
      ∀ name ∈ c.names, (name ∈ colors.map (String.map Char.toUpper) ∨ name ∈ sensorReadings) ∨
        (Sentence.ofText text).motor? scene.motors = some name := by
    obtain rfl : c.kind = kind := Option.some.inj hkind
    rw [names_eq_nil hmem]
    simp
  simp only [plainRules, List.mem_cons, List.not_mem_nil, or_false] at hrule
  rcases hrule with rfl | rfl | rfl | rfl | rfl | rfl | rfl | rfl | rfl | rfl
  · exact fun name hname => .inl (mem_names_of_watch h name hname)
  · exact hnone (kind?_of_followLine h) (by decide)
  · exact hnone (kind?_of_taskOutline h) (by decide)
  · exact fun name hname => .inr (motor?_of_stop h name hname)
  · exact hnone (kind?_of_setSpeed h) (by decide)
  · exact fun name hname => .inr (motor?_of_runMotor h name hname)
  · exact hnone (kind?_of_preciseTurn h) (by decide)
  · exact hnone (kind?_of_turn h) (by decide)
  · exact hnone (kind?_of_move h) (by decide)
  · exact hnone (kind?_of_wait h) (by decide)

end

end RobotPhrase
