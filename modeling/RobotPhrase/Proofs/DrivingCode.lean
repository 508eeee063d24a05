import RobotPhrase.Program.Compile
import RobotPhrase.Proofs.Blocks
import RobotPhrase.Proofs.Layout

/-!
# Driving code is found

Whether a program needs the drive base is read off its code: some line begins with `robot.`, up to blanks.  Every
command that drives writes such a line (`Command.drives_code`).  The blanks in front of it when it stands in a block are
trimmed again (`drives_indent`), and neither numbers nor remarks in the code can take the line away, since each line is
looked at on its own (`drives_joinLines_iff`).  So the drive base is set up for every sentence that is understood as
driving, alone or inside a compound command.
-/

namespace RobotPhrase

open Text Grammar

/-! ### Lines that drive -/

/-- A word in front of a text stays in front when the text is trimmed. -/
theorem Text.prefix_trim_append {w : List Char} (hw : ∀ c ∈ w, isBlank c = false) (cs : List Char) :
    w <+: trim (w ++ cs) := by
  have hback : w.reverse.dropWhile isBlank = w.reverse := by
    cases hlast : w.reverse with
    | nil => rfl
    | cons c ds =>
      have hc : isBlank c = false := hw c (List.mem_reverse.1 (hlast ▸ List.mem_cons_self))
      rw [List.dropWhile_cons_of_neg (by simp [hc])]
  cases w with
  | nil => exact List.nil_prefix
  | cons c w =>
    have hstart : trimStart (c :: w ++ cs) = c :: w ++ cs :=
      List.dropWhile_cons_of_neg (by simp [hw c (by simp)])
    rw [trim, hstart, trimEnd, List.reverse_append, List.dropWhile_append]
    split
    · exact ⟨[], by rw [hback, List.reverse_reverse, List.append_nil]⟩
    · rw [List.reverse_append, List.reverse_reverse]
      exact List.prefix_append _ _

theorem prefix_toList_append {w : List Char} {a : String} (h : w <+: a.toList) (b : String) :
    w <+: (a ++ b).toList := by
  rw [String.toList_append]
  exact h.trans (List.prefix_append _ _)

/-- A text without line feeds in front of a code is in front of its first line. -/
theorem exists_codeLine_of_prefix {w : List Char} (hw : '\n' ∉ w) {code : String} (h : w <+: code.toList) :
    ∃ rest, w ++ rest ∈ codeLines code := by
  obtain ⟨rest, hrest⟩ := h
  obtain rfl : code = String.ofList w ++ String.ofList rest := by
    rw [← String.toList_inj, ← hrest]
    simp
  obtain ⟨first, -, hlines⟩ := codeLines_append (a := String.ofList w) (by simpa using hw) (String.ofList rest)
  refine ⟨first, ?_⟩
  rw [hlines, String.toList_ofList]
  exact List.mem_cons_self

namespace Program

theorem drives_iff {part : String} : Drives part ↔ ∃ line ∈ codeLines part, "robot.".toList <+: trim line := by
  unfold Drives codeLines lines
  rw [exists_endLines_iff (q := fun line => startsWith "robot.".toList line = true) (by decide)]
  simp only [startsWith_iff]

theorem drives_of_prefix {l : String} (h : "robot.".toList <+: l.toList) : Drives l := by
  have hunbroken : IsUnbroken "robot." := by decide
  obtain ⟨rest, hline⟩ := exists_codeLine_of_prefix (by decide) h
  exact drives_iff.2 ⟨_, hline, prefix_trim_append hunbroken rest⟩

theorem drives_indent {l : String} (h : Drives l) : Drives (indent l) := by
  obtain ⟨first, hl, hindent⟩ := codeLines_append (a := "    ") (by decide) l
  rw [drives_iff] at h ⊢
  obtain ⟨line, hline, hdrives⟩ := h
  rw [hl] at hline
  rw [indent, hindent]
  rcases List.mem_cons.1 hline with rfl | hbehind
  · have hblank : AllBlank "    ".toList := List.all_eq_true.1 (by decide)
    have hempty : AllBlank [] := by simp [AllBlank]
    have htrim : trim ("    ".toList ++ line) = trim line := by simpa using trim_around hblank hempty line
    exact ⟨_, List.mem_cons_self, htrim ▸ hdrives⟩
  · exact ⟨line, List.mem_cons_of_mem _ hbehind, hdrives⟩

end Program

open Program

/-! ### Commands that drive -/

/-- The kinds of commands that drive the robot base or set its rates. -/
def drivingKinds : List CommandKind := [.move, .turn, .preciseTurn, .setSpeed, .sensorMove, .lineFollow]

theorem drives_settingsLine (setting : Setting) (value : Int) : Drives (settingsLine setting value) := by
  have hfront : "robot.".toList <+: "robot.settings(".toList := by decide
  unfold settingsLine
  simp only [String.append_assoc]
  exact drives_of_prefix (prefix_toList_append hfront _)

theorem mem_withRate (setting : Setting) (rate : Option Int) (line : String) : line ∈ withRate setting rate line := by
  cases rate <;> simp [withRate]

/-- A command of one of these kinds has a line that drives. -/
theorem Command.drives_code {c : Command} (h : c.kind ∈ drivingKinds) : Drives c.code := by
  have hcall {front : String} (hfront : "robot.".toList <+: front.toList) (argument close : String) :
      Drives (front ++ argument ++ close) := by
    rw [String.append_assoc]
    exact drives_of_prefix (prefix_toList_append hfront _)
  have hstop : Drives "robot.stop()" := drives_of_prefix (by decide)
  unfold Command.code
  rw [drives_joinLines_iff]
  cases c with
  | move speed distance => exact ⟨_, mem_withRate _ speed _, hcall (by decide) (toString distance) ")"⟩
  | turn rate angle => exact ⟨_, mem_withRate _ rate _, hcall (by decide) (toString angle) ")"⟩
  | preciseTurn angle => exact ⟨_, by simp [lines, preciseTurnLines], hstop⟩
  | set setting value => exact ⟨_, by simp [lines], drives_settingsLine setting value⟩
  | watch condition driving =>
    cases driving with
    | none => exact absurd h (by simp [kind, drivingKinds])
    | some speed => exact ⟨_, by simp [lines], hstop⟩
  | followLine ending => exact ⟨_, by simp [lines, followLineLines], hstop⟩
  | wait | runMotor | stop | loop | tasks | taskOutline | call | completed => simp [kind, drivingKinds] at h

/-- Code that drives also drives in a block. -/
theorem exists_drives_indent {d : Command} (h : Drives d.code) : ∃ l ∈ d.lines.map indent, Drives l := by
  obtain ⟨l, hl, hdrives⟩ := drives_joinLines_iff.1 h
  exact ⟨indent l, List.mem_map_of_mem hl, drives_indent hdrives⟩

theorem drives_loop {d : Command} (h : Drives d.code) (count : Int) :
    Drives (Command.loop count (some (.code d.lines))).code := by
  obtain ⟨l, hl, hdrives⟩ := exists_drives_indent h
  exact drives_joinLines_iff.2 ⟨l, List.mem_cons_of_mem _ hl, hdrives⟩

theorem drives_tasks {d : Command} (h : Drives d.code) {firstBlock secondBlock : Block}
    (hblock : firstBlock = .code d.lines ∨ secondBlock = .code d.lines) (first second : String) :
    Drives (Command.tasks first second firstBlock secondBlock).code := by
  obtain ⟨l, hl, hdrives⟩ := exists_drives_indent h
  refine drives_joinLines_iff.2 ⟨l, List.mem_cons_of_mem _ ?_, hdrives⟩
  rcases hblock with rfl | rfl <;> simp [taskLines, taskBodyLines, List.mem_map.1 hl]

/-! ### Sentences that drive -/

/-- A sentence is understood as a command that drives, or as a loop or two tasks around a phrase that is. -/
inductive UnderstoodAsDriving (scene : Scene) (text : String) (c : Command) : Prop
  | plain (understood : interpret scene text = .understood c) (driving : c.kind ∈ drivingKinds)
  | loop (understood : interpret scene text = .understood c) (kind : c.kind = .loop) (d : Command)
    (body : interpretAt 1 { scene with routines := [] } (String.ofList (loopBody text.toList)) = .understood d)
    (driving : d.kind ∈ drivingKinds)
  | tasks (understood : interpret scene text = .understood c) (kind : c.kind = .multitask) (first second : String)
    (halves : halves? (lower text.toList) = some (first, second)) (d : Command)
    (half : interpretAt 1 { scene with routines := [] } first = .understood d ∨
      interpretAt 1 { scene with routines := [] } second = .understood d)
    (driving : d.kind ∈ drivingKinds)

section

variable {scene : Scene} {text : String} {c d : Command}

/-- An empty sentence is refused at every level. -/
theorem ne_empty_of_understood {budget : Nat} (h : interpretWithin budget scene text = .understood c) : text ≠ "" := by
  have hempty : tokenize "" = [] := rfl
  rintro rfl
  obtain ⟨inner, he⟩ := exists_interpretWithin_eq budget scene ""
  rw [he, answerWith_eq, if_pos hempty] at h
  simp at h

theorem phraseBlock_of_understood {phrase : String}
    (h : interpretAt 1 { scene with routines := [] } phrase = .understood d) :
    phraseBlock scene.robot scene.motors phrase = .code d.lines := by
  rw [interpretAt_succ] at h
  rw [phraseBlock, ← blockOf_interpretWithin_zero, blockOf, h]
  rfl

/-- A loop whose phrase is understood repeats the code of the phrase. -/
theorem exists_eq_loop (h : interpret scene text = .understood c) (hkind : c.kind = .loop)
    (hbody : interpretAt 1 { scene with routines := [] } (String.ofList (loopBody text.toList)) = .understood d) :
    ∃ count, c = .loop count (some (.code d.lines)) := by
  have hkind? : (interpret scene text).kind? = some .loop := by
    rw [h]
    exact congrArg some hkind
  have hne : (loopBody text.toList).isEmpty = false := by
    simpa using ne_empty_of_understood hbody
  obtain ⟨n, -, hloop⟩ := interpret_of_kind?_loop hkind? (by rw [h]; rfl)
  refine ⟨wholeOr n 1, (Answer.understood.inj (h.symm.trans hloop)).trans ?_⟩
  rw [hne, phraseBlock_of_understood hbody]
  rfl

/-- Two tasks are made of the two phrases of the sentence. -/
theorem eq_tasks (h : interpret scene text = .understood c) (hkind : c.kind = .multitask) {first second : String}
    (hhalves : halves? (lower text.toList) = some (first, second)) :
    c = .tasks first second (phraseBlock scene.robot scene.motors first)
      (phraseBlock scene.robot scene.motors second) := by
  have hkind? : (interpret scene text).kind? = some .multitask := by
    rw [h]
    exact congrArg some hkind
  obtain ⟨first', second', hhalves', htasks⟩ := interpret_of_kind?_multitask hkind?
  obtain ⟨rfl, rfl⟩ : first = first' ∧ second = second' := Prod.mk.inj (Option.some.inj (hhalves.symm.trans hhalves'))
  exact Answer.understood.inj (h.symm.trans htasks)

theorem UnderstoodAsDriving.understood (h : UnderstoodAsDriving scene text c) :
    interpret scene text = .understood c := by
  cases h with
  | plain hunderstood | loop hunderstood | tasks hunderstood => exact hunderstood

/-- The code of such a sentence has a line that drives. -/
theorem UnderstoodAsDriving.drives_code (h : UnderstoodAsDriving scene text c) : Drives c.code := by
  cases h with
  | plain _ hdriving => exact Command.drives_code hdriving
  | loop hunderstood hkind d hbody hdriving =>
    obtain ⟨count, rfl⟩ := exists_eq_loop hunderstood hkind hbody
    exact drives_loop (Command.drives_code hdriving) count
  | tasks hunderstood hkind first second hhalves d hhalf hdriving =>
    obtain rfl := eq_tasks hunderstood hkind hhalves
    refine drives_tasks (Command.drives_code hdriving) ?_ first second
    exact hhalf.imp phraseBlock_of_understood phraseBlock_of_understood

end

/-! ### Programs that drive -/

theorem Program.exists_setupLine (r : Robot) :
    ∃ line ∈ codeLines (setupSection r true), "robot = DriveBase(".toList <+: line := by
  have hfront : "robot = DriveBase(".toList <+:
      "robot = DriveBase(left_motor, right_motor, wheel_diameter=".toList := by
    decide
  obtain ⟨rest, hline⟩ := exists_codeLine_of_prefix (by decide) (prefix_toList_append hfront
    (lengthText r.wheelDiameter ++ (", axle_track=" ++ (lengthText r.axleTrack ++ ")"))))
  unfold setupSection
  rw [codeLines_joinLines (by simp)]
  exact ⟨_, List.mem_flatMap.2 ⟨_, by simp [driveBaseLines, String.append_assoc], hline⟩, List.prefix_append _ rest⟩

/-- The code of a command that is understood is one of those of which the program is made. -/
theorem ProgramSpec.code_mem_of_understood {spec : ProgramSpec} {text : String}
    (htext : text ∈ spec.commands.map trimmed) {c : Command} (h : interpret spec.scene text = .understood c) :
    c.code ∈ spec.reports.filterMap fun r => r.answer.code? := by
  have hne : text ≠ "" := ne_empty_of_understood h
  have hspoken : text ∈ spec.spoken := List.mem_filter.2 ⟨htext, by simpa using hne⟩
  refine List.mem_filterMap.2 ⟨⟨text, interpret spec.scene text⟩, List.mem_map_of_mem hspoken, ?_⟩
  rw [h]
  rfl

/-- Wherever the code of a sentence stands that is understood as driving, the drive base is needed.  So a program with
such a sentence among its commands sets up the drive base and imports it. -/
theorem driving_sets_up_driveBase {scene : Scene} {text : String} {c : Command}
    (h : UnderstoodAsDriving scene text c) :
    (∀ codes : List String, c.code ∈ codes → needsDriveBase codes = true) ∧
    ∀ spec : ProgramSpec, spec.scene = scene → text ∈ spec.commands.map trimmed →
      (∃ line ∈ codeLines spec.compile.program.setup, "robot = DriveBase(".toList <+: line) ∧
        driveBaseImport ∈ linesOf spec.compile.program.imports := by
  have hneeds : ∀ codes : List String, c.code ∈ codes → needsDriveBase codes = true :=
    fun codes hcode => needsDriveBase_of_mem hcode h.drives_code
  refine ⟨hneeds, ?_⟩
  rintro spec rfl htext
  have hcodes := hneeds _ (ProgramSpec.code_mem_of_understood htext h.understood)
  constructor
  · show ∃ line ∈ codeLines (setupSection spec.robot (needsDriveBase _)), _
    rw [hcodes]
    exact exists_setupLine spec.robot
  · show driveBaseImport ∈ linesOf (importSection spec.robot _ (needsDriveBase _) _)
    rw [driveBaseImport_mem_iff, hcodes]

/-- The base is driven by the body of the loop only, from its last line. -/
theorem driving_sets_up_driveBase_repeat_follow :
    let spec : ProgramSpec := { commands := [" Repeat 3 times: follow the line"] }
    UnderstoodAsDriving spec.scene "Repeat 3 times: follow the line"
      (.loop 3 (some (.code (Command.followLine .never).lines))) ∧
    (∃ line ∈ codeLines spec.compile.program.setup, "robot = DriveBase(".toList <+: line) ∧
      driveBaseImport ∈ linesOf spec.compile.program.imports := by
  intro spec
  have h : UnderstoodAsDriving spec.scene "Repeat 3 times: follow the line"
      (.loop 3 (some (.code (Command.followLine .never).lines))) :=
    .loop (by decide +kernel) rfl (.followLine .never) (by decide +kernel) (by decide)
  exact ⟨h, (driving_sets_up_driveBase h).2 spec rfl (by decide +kernel)⟩

end RobotPhrase
