import RobotPhrase.Program.Compile
import RobotPhrase.Proofs.CodeParts
import RobotPhrase.Proofs.Layout

/-!
# Running tasks and importing them

The import of `multitask` goes by the kinds of the commands: it is there exactly if one of them is a pair of tasks.  But
the call of `multitask` is written by other commands too.  Most commands cannot write it, since their code is made of
fixed texts, whole numbers and a few names (`isSilent_of_mem_plainRules`); an outline of tasks always writes it, and a
loop or a call of a routine may.  So the import is complete exactly if there is a pair of tasks, or else no outline and
neither a loop nor a call that runs tasks (`taskImport_complete_iff`).
-/

namespace RobotPhrase

open Text Vocabulary Grammar

/-- The call that runs tasks. -/
def taskCall : List Char := "multitask(".toList

/-- Whether a line runs tasks; a remark does not. -/
def lineRunsTasks (line : List Char) : Bool := occurs taskCall line && !startsWith ['#'] (trim line)

/-- Whether some line of the code runs tasks. -/
def Answer.runsTasks (a : Answer) : Bool := a.code?.any fun code => (lines code.toList).any lineRunsTasks

/-! ### Texts without the call -/

/-- A text in which no tasks are run. -/
def IsSilent (text : String) : Prop := occurs taskCall text.toList = false

instance (text : String) : Decidable (IsSilent text) := inferInstanceAs (Decidable (_ = _))

theorem isSilent_iff {text : String} : IsSilent text ↔ ¬ taskCall <:+: text.toList := by
  rw [← occurs_iff, Bool.not_eq_true]
  rfl

/-- A text is silent if it lacks a letter of the call.  The letter is one that numbers and names do not have. -/
theorem isSilent_of_not_mem {text : String} (h : 'k' ∉ text.toList) : IsSilent text := by
  rw [isSilent_iff]
  intro hfound
  exact h (hfound.subset (by decide))

/-! ### Commands without the call -/

namespace Command

/-- A command in whose code no tasks are run. -/
def IsSilent (c : Command) : Prop := ∀ line ∈ c.lines, RobotPhrase.IsSilent line

/-- A command that is no outline is silent if the letter is not in its names. -/
theorem isSilent_of_names {c : Command} (h : c.isSimple = true) (hc : c.kind ≠ .parallel)
    (hnames : ∀ name ∈ c.names, 'k' ∉ name.toList) : c.IsSilent := by
  have hfixed : ∀ l ∈ fixedLines, RobotPhrase.IsSilent l := by decide +kernel
  intro l hl
  rcases lines_cases h hc l hl with hl | hl
  · exact hfixed l hl
  · exact isSilent_of_not_mem (hl.not_mem (by decide) hnames)

end Command

/-! ### Rules without the call -/

section

variable {scene : Scene} {text : String}

/-- A motor that a sentence names is a word for a motor, or a motor of the scene. -/
theorem mem_of_motor? {motors : List String} {motor : String}
    (h : (Sentence.ofText text).motor? motors = some motor) : motor ∈ motorWords ∨ motor ∈ motors := by
  unfold Sentence.motor? at h
  split at h
  · rename_i t ht
    obtain rfl := Option.some.inj h
    exact .inl (raw_mem_motorWords (List.mem_of_find?_eq_some ht) (List.find?_some ht))
  · obtain ⟨t, -, ht⟩ := List.exists_of_findSome?_eq_some h
    exact .inr (List.mem_of_find?_eq_some ht)

private theorem not_mem_motor? (hmotors : ∀ m ∈ scene.motors, 'k' ∉ m.toList) {motor : String}
    (h : (Sentence.ofText text).motor? scene.motors = some motor) : 'k' ∉ motor.toList := by
  have hwords : ∀ m ∈ motorWords, 'k' ∉ m.toList := by decide
  rcases mem_of_motor? h with h | h
  · exact hwords motor h
  · exact hmotors motor h

/-- Apart from outlines, a command that is not compound and calls no routine does not run tasks. -/
theorem isSilent_of_mem_plainRules {rule : Rule} {c : Command} (hmotors : ∀ m ∈ scene.motors, 'k' ∉ m.toList)
    (hrule : rule ∈ plainRules) (h : rule scene (.ofText text) = some (.understood c)) (hc : c.kind ≠ .parallel) :
    c.IsSilent := by
  have hconstants : ∀ constant ∈ colors.map (String.map Char.toUpper), 'k' ∉ constant.toList := by decide +kernel
  have hreadings : ∀ reading ∈ sensorReadings, 'k' ∉ reading.toList := by decide
  apply Command.isSilent_of_names (isSimple_of_mem_plainRules hrule h) hc
  intro name hname
  rcases mem_names_of_mem_plainRules hrule h name hname with (hcolor | hreading) | hmotor
  · exact hconstants name hcolor
  · exact hreadings name hreading
  · exact not_mem_motor? hmotors hmotor

/-! ### The kinds of commands that run tasks -/

private theorem not_isSilent_of_runsTasks {c : Command} (h : (Answer.understood c).runsTasks = true) :
    ¬ c.IsSilent := by
  obtain ⟨line, hline, hruns⟩ := List.any_eq_true.1 h
  have hoccurs : occurs taskCall line = true := (Bool.and_eq_true_iff.1 hruns).1
  have hcode : taskCall <:+: c.code.toList := (occurs_iff.1 hoccurs).trans (infix_of_mem_lines hline)
  obtain ⟨l, hl, hfound⟩ := (infix_joinLines_iff (by decide) (by decide)).1 hcode
  intro hsilent
  exact isSilent_iff.1 (hsilent l hl) hfound

/-- Tasks are run by a pair of tasks, by an outline, by a loop, or by a call of a routine. -/
theorem kind?_of_runsTasks (hmotors : ∀ m ∈ scene.motors, 'k' ∉ m.toList)
    (h : (interpret scene text).runsTasks = true) :
    (interpret scene text).kind? ∈ [some .multitask, some .parallel, some .loop, some .routineCall] := by
  rw [interpret_eq_answerWith] at h ⊢
  generalize interpretWithin 0 { scene with routines := [] } = read at h ⊢
  rcases answerWith_cases (some read) scene text with ⟨-, he⟩ | ⟨-, rule, hrule, a, ha, he⟩ | ⟨-, -, he⟩
  · simp [he, Answer.runsTasks, Answer.code?] at h
  · have hregular := isRegular_answerWith (some read) scene text
    rw [he] at h hregular ⊢
    rw [rules_eq, List.mem_cons, List.mem_cons, List.mem_cons] at hrule
    rcases hrule with rfl | rfl | rfl | hplain
    · simp [kind?_of_routineCall ha]
    · simp [kind?_of_twoTasks ha]
    · simp [kind?_of_loop ha]
    · obtain ⟨c, rfl⟩ | ⟨v, rfl⟩ | ⟨r, rfl⟩ := hregular
      · by_cases hc : c.kind = .parallel
        · simp [hc]
        · exact absurd (isSilent_of_mem_plainRules hmotors hplain ha hc) (not_isSilent_of_runsTasks h)
      · simp [Answer.runsTasks, Answer.code?] at h
      · simp [Answer.runsTasks, Answer.code?] at h
  · simp [he, Answer.runsTasks, Answer.code?] at h

/-- An outline always runs tasks. -/
theorem runsTasks_of_kind?_parallel {a : Answer} (ha : a.IsRegular) (h : a.kind? = some .parallel) :
    a.runsTasks = true := by
  have houtline : (Answer.understood .taskOutline).runsTasks = true := by decide +kernel
  obtain ⟨c, rfl⟩ | ⟨v, rfl⟩ | ⟨r, rfl⟩ := ha
  · cases c with
    | taskOutline => exact houtline
    | watch condition driving => cases driving <;> simp [Command.kind] at h
    | move | turn | preciseTurn | wait | runMotor | stop | set | followLine | loop | tasks | call | completed =>
      simp [Command.kind] at h
  · cases v <;> simp [MissingValue.kind] at h
  · simp at h

end

/-! ### The import -/

namespace ProgramSpec

private theorem isRegular_of_mem_reports {spec : ProgramSpec} {r : Report} (hr : r ∈ spec.compile.reports) :
    r.answer.IsRegular := by
  obtain ⟨text, -, rfl⟩ := List.mem_map.1 hr
  exact isRegular_interpret spec.scene text

/-- Nothing is asked about a pair of tasks. -/
private theorem isUnderstood_of_kind?_multitask {a : Answer} (ha : a.IsRegular) (h : a.kind? = some .multitask) :
    a.isUnderstood = true := by
  obtain ⟨c, rfl⟩ | ⟨v, rfl⟩ | ⟨r, rfl⟩ := ha
  · rfl
  · cases v <;> simp [MissingValue.kind] at h
  · simp at h

theorem taskImport_mem_compile_iff (spec : ProgramSpec) :
    Program.taskImport ∈ linesOf spec.compile.program.imports ↔
      ∃ r ∈ spec.compile.reports, r.answer.kind? = some .multitask := by
  have hflag : (spec.reports.any fun r => r.answer.isUnderstood && r.answer.kind? == some .multitask) = true ↔
      ∃ r ∈ spec.reports, r.answer.kind? = some .multitask := by
    rw [List.any_eq_true]
    refine exists_congr fun r => and_congr_right fun hr => ?_
    rw [Bool.and_eq_true, beq_iff_eq]
    exact ⟨fun h => h.2, fun h => ⟨isUnderstood_of_kind?_multitask (isRegular_of_mem_reports hr) h, h⟩⟩
  unfold compile assemble Program.assemble
  rw [Program.taskImport_mem_iff, hflag]

private theorem not_mem_motorNames (spec : ProgramSpec) : ∀ m ∈ spec.scene.motors, 'k' ∉ m.toList := by
  have hnames : ∀ m ∈ ["attachment1", "attachment2"], 'k' ∉ m.toList := by decide
  intro m hm
  apply hnames
  unfold scene Robot.motorNames at hm
  grind

private theorem kind?_of_mem_reports {spec : ProgramSpec} {r : Report} (hr : r ∈ spec.compile.reports)
    (hruns : r.answer.runsTasks = true) :
    r.answer.kind? ∈ [some .multitask, some .parallel, some .loop, some .routineCall] := by
  obtain ⟨text, -, rfl⟩ := List.mem_map.1 hr
  dsimp only at hruns ⊢
  exact kind?_of_runsTasks (not_mem_motorNames spec) hruns

/-- The import of `multitask` is there whenever some command runs tasks exactly if one of the commands is a pair of
tasks, or none is an outline and no loop and no call of a routine runs tasks. -/
theorem taskImport_complete_iff (spec : ProgramSpec) :
    ((∃ r ∈ spec.compile.reports, r.answer.runsTasks = true) →
      Program.taskImport ∈ linesOf spec.compile.program.imports) ↔
    (∃ r ∈ spec.compile.reports, r.answer.kind? = some .multitask) ∨
      ∀ r ∈ spec.compile.reports, r.answer.kind? ≠ some .parallel ∧
        (r.answer.kind? = some .loop ∨ r.answer.kind? = some .routineCall → r.answer.runsTasks = false) := by
  rw [taskImport_mem_compile_iff]
  constructor
  · intro h
    by_cases hruns : ∃ r ∈ spec.compile.reports, r.answer.runsTasks = true
    · exact .inl (h hruns)
    · refine .inr fun r hr => ⟨fun hkind => hruns ⟨r, hr, ?_⟩, fun _ => ?_⟩
      · exact runsTasks_of_kind?_parallel (isRegular_of_mem_reports hr) hkind
      · exact Bool.eq_false_iff.2 fun htrue => hruns ⟨r, hr, htrue⟩
  · rintro (h | h) ⟨r, hr, hruns⟩
    · exact h
    · obtain ⟨hparallel, hsilent⟩ := h r hr
      have hkind := kind?_of_mem_reports hr hruns
      simp only [List.mem_cons, List.not_mem_nil, or_false] at hkind
      rcases hkind with htasks | houtline | hrest
      · exact ⟨r, hr, htasks⟩
      · exact absurd houtline hparallel
      · rw [hsilent hrest] at hruns
        simp at hruns

/-- An outline is all of a program, and `multitask` is not imported. -/
theorem not_taskImport_spin_together :
    (∃ r ∈ ({ commands := ["spin together"] } : ProgramSpec).compile.reports, r.answer.runsTasks = true) ∧
      Program.taskImport ∉ linesOf ({ commands := ["spin together"] } : ProgramSpec).compile.program.imports := by
  have hreports : ({ commands := ["spin together"] } : ProgramSpec).compile.reports =
      [⟨"spin together", .understood .taskOutline⟩] := by
    decide +kernel
  rw [taskImport_mem_compile_iff, hreports]
  refine ⟨⟨_, List.mem_singleton.2 rfl, runsTasks_of_kind?_parallel (.inl ⟨_, rfl⟩) rfl⟩, ?_⟩
  rintro ⟨r, hr, hkind⟩
  rw [List.mem_singleton.1 hr] at hkind
  exact absurd hkind (by decide)

end ProgramSpec

end RobotPhrase
