import RobotPhrase.Program.Layout
import RobotPhrase.Proofs.Search

/-!
# Imports and the drive base

The import section has the line for the drive base exactly if it is told to, and likewise the line for tasks.  The
setup of the drive base and its import go together: a program has both exactly if one of its codes needs them
(`setsUpDriveBase_iff`).  The routines are not looked at, so a program whose routines alone drive the robot has no
drive base (`setsUpDriveBase_of_drives_iff`).
-/

namespace RobotPhrase.Program

open Text

/-! ### The import section -/

section

variable {r : Robot} {multitask driveBase color : Bool} {l : String}

private theorem isLine_of_mem_importLines (h : l ∈ importLines r multitask driveBase color) : IsLine l := by
  have hcomma : '\n' ∉ ", ".toList := by decide
  have hdevice : ∀ d ∈ ["Motor", "ColorSensor", "UltrasonicSensor", "ForceSensor"], IsLine d := by decide
  have hparameter : ∀ d ∈ ["Port", "Direction", "Stop", "Color"], IsLine d := by decide
  simp only [importLines, List.mem_append, List.mem_cons, List.not_mem_nil, or_false] at h
  rcases h with ((rfl | rfl | rfl) | h) | rfl
  · decide
  · refine IsLine.append (by decide) (isLine_intercalate hcomma (by simp) fun d hd => hdevice d ?_)
    grind
  · refine IsLine.append (by decide) (isLine_intercalate hcomma (by simp) fun d hd => hparameter d ?_)
    grind
  · obtain ⟨-, rfl⟩ : driveBase = true ∧ l = driveBaseImport := by
      cases driveBase <;> simp_all
    decide
  · split <;> decide

/-- The first three import lines are always there, and the others by what the program uses. -/
theorem mem_importSection_iff
    (hl : ∀ front ∈ ["from pybricks.hubs import ", "from pybricks.pupdevices import ",
      "from pybricks.parameters import "], ¬ front.toList <+: l.toList) :
    l ∈ linesOf (importSection r multitask driveBase color) ↔
      (driveBase = true ∧ l = driveBaseImport) ∨
        l = if multitask then taskImport else "from pybricks.tools import wait" := by
  have hne {front : String} (hfront : ¬ front.toList <+: l.toList) (rest : String) : l ≠ front ++ rest := by
    rintro rfl
    exact hfront (by simp)
  have hhub : l ≠ "from pybricks.hubs import PrimeHub" := hne (hl "from pybricks.hubs import " (by simp)) "PrimeHub"
  have hdevices := hne (hl "from pybricks.pupdevices import " (by simp))
  have hparameters := hne (hl "from pybricks.parameters import " (by simp))
  unfold importSection
  rw [linesOf_joinLines_eq_self fun l => isLine_of_mem_importLines]
  simp only [importLines, List.mem_append, List.mem_cons, List.not_mem_nil, hhub, hdevices, hparameters]
  cases driveBase <;> simp

theorem driveBaseImport_mem_iff (r : Robot) (multitask driveBase color : Bool) :
    driveBaseImport ∈ linesOf (importSection r multitask driveBase color) ↔ driveBase = true := by
  have htools : driveBaseImport ≠ if multitask then taskImport else "from pybricks.tools import wait" := by
    cases multitask <;> decide
  rw [mem_importSection_iff (by decide)]
  simp [htools]

theorem taskImport_mem_iff (r : Robot) (multitask driveBase color : Bool) :
    taskImport ∈ linesOf (importSection r multitask driveBase color) ↔ multitask = true := by
  have hbase : taskImport ≠ driveBaseImport := by decide
  have hplain : taskImport ≠ "from pybricks.tools import wait" := by decide
  rw [mem_importSection_iff (by decide)]
  cases multitask <;> simp [hbase, hplain]

end

/-! ### The drive base -/

/-- The drive base is set up, and imported. -/
def SetsUpDriveBase (p : Program) : Prop :=
  mentions "robot = DriveBase(" p.setup = true ∧ driveBaseImport ∈ linesOf p.imports

/-- Some line of a section drives the robot base. -/
def Drives (part : String) : Prop := ∃ line ∈ lines part.toList, startsWith "robot.".toList (trim line) = true

theorem mentions_setupSection (r : Robot) : mentions "robot = DriveBase(" (setupSection r true) = true := by
  unfold mentions setupSection
  rw [occurs_iff, infix_joinLines_iff (by decide) (by decide)]
  refine ⟨"robot = DriveBase(left_motor, right_motor, wheel_diameter=" ++ lengthText r.wheelDiameter
    ++ ", axle_track=" ++ lengthText r.axleTrack ++ ")", by simp [driveBaseLines], ?_⟩
  simp only [String.toList_append, List.append_assoc]
  exact (List.prefix_append_of_prefix (by decide)).isInfix

/-- A program sets up the drive base exactly if one of its codes needs it. -/
theorem setsUpDriveBase_iff (r : Robot) (codes : List String) (routines : List Routine) (multitask : Bool) :
    (assemble r codes routines multitask).SetsUpDriveBase ↔ needsDriveBase codes = true := by
  have himport := driveBaseImport_mem_iff r multitask (needsDriveBase codes) (codes.any (mentions "Color."))
  constructor
  · rintro ⟨-, h⟩
    exact himport.1 h
  · intro h
    refine ⟨?_, himport.2 h⟩
    show mentions "robot = DriveBase(" (setupSection r (needsDriveBase codes)) = true
    rw [h]
    exact mentions_setupSection r

theorem drives_joinLines_iff {ls : List String} : Drives (joinLines ls) ↔ ∃ l ∈ ls, Drives l :=
  exists_line_joinLines_iff (q := fun line => startsWith "robot.".toList line = true) (by decide) ls

theorem needsDriveBase_of_mem {codes : List String} {code : String} (hcode : code ∈ codes) (h : Drives code) :
    needsDriveBase codes = true := by
  obtain ⟨line, hline, hdrives⟩ := h
  unfold needsDriveBase
  refine List.any_eq_true.2 ⟨code, hcode, List.any_eq_true.2 ⟨line, hline, ?_⟩⟩
  rw [usesDriveBase, hdrives]
  rfl

/-- A main part that drives the robot base comes from a code that needs it. -/
theorem needsDriveBase_of_drives {codes : List String} (h : Drives (mainSection codes)) :
    needsDriveBase codes = true := by
  by_cases hcodes : codes = []
  · have hnone : ∀ line ∈ lines (mainSection []).toList, startsWith "robot.".toList (trim line) = false := by
      decide +kernel
    obtain ⟨line, hline, hdrives⟩ := hcodes ▸ h
    rw [hnone line hline] at hdrives
    simp at hdrives
  · have hmain : mainSection codes = joinLines codes := by simp [mainSection, hcodes]
    rw [hmain, drives_joinLines_iff] at h
    obtain ⟨code, hcode, hdrives⟩ := h
    exact needsDriveBase_of_mem hcode hdrives

/-- The drive base is there for every line that drives the robot base exactly if no routine needs it more than the
codes do: lines of the main part are always served, lines of routines only if some code drives too. -/
theorem setsUpDriveBase_of_drives_iff (r : Robot) (codes : List String) (routines : List Routine) (multitask : Bool) :
    (Drives (assemble r codes routines multitask).main ∨ Drives (assemble r codes routines multitask).routines →
      (assemble r codes routines multitask).SetsUpDriveBase) ↔
    (Drives (assemble r codes routines multitask).routines → needsDriveBase codes = true) := by
  rw [setsUpDriveBase_iff]
  constructor
  · intro h hroutines
    exact h (.inr hroutines)
  · rintro h (hmain | hroutines)
    · exact needsDriveBase_of_drives hmain
    · exact h hroutines

/-- A routine that drives is called, and no drive base is set up. -/
theorem not_setsUpDriveBase_square :
    let p := assemble { } ["square(150)"] [⟨"square", ["size"], "robot.straight(size)\nrobot.turn(90)"⟩] false
    Drives p.routines ∧ ¬ p.SetsUpDriveBase := by
  have hline : "    robot.straight(size)".toList ∈
      lines (routineSection [⟨"square", ["size"], "robot.straight(size)\nrobot.turn(90)"⟩]).toList := by
    decide +kernel
  have hneeds : needsDriveBase ["square(150)"] = false := by decide +kernel
  refine ⟨⟨_, hline, by decide +kernel⟩, ?_⟩
  rw [setsUpDriveBase_iff, hneeds]
  simp

end RobotPhrase.Program
