import RobotPhrase.Proofs.Actions

/-!
# What a run does to files

A run of the command line reads files, and writes at most one.  Nothing can fail any more when it has been written, so
a run that fails leaves all files as they were.  Only compiling writes, and only if a path is given; the file then holds
the program, and every other file is as it was, whichever of the files that were read it may be
(`run_changes_target_only`).  It does not matter where the program runs, in which format the files are, and where
writing is refused.
-/

namespace RobotPhrase

/-! ### Writing a file -/

namespace Directory

private theorem lookup_cons_eq (name : String) (bytes : ByteArray) (files : List (String × ByteArray)) (q : String) :
    ((name, bytes) :: files).lookup q = if q = name then some bytes else files.lookup q := by
  by_cases h : q = name
  · simp [h]
  · have hbeq : (q == name) = false := by simpa using h
    simp only [List.lookup_cons, hbeq, if_neg h]

theorem lookup_put (place : String) (content : ByteArray) (files : List (String × ByteArray)) (q : String) :
    (put place content files).lookup q = if q = place then some content else files.lookup q := by
  induction files with
  | nil => exact lookup_cons_eq place content [] q
  | cons file rest ih =>
    obtain ⟨name, bytes⟩ := file
    unfold put
    rw [lookup_cons_eq]
    by_cases hname : name = place
    · rw [if_pos (by simpa using hname), lookup_cons_eq, hname]
      by_cases hq : q = place <;> simp [hq]
    · rw [if_neg (by simpa using hname), lookup_cons_eq, ih]
      -- the file that is passed is not the one that is written
      by_cases hq : q = name
      · simp [hq, hname]
      · simp [hq]

variable {d d' : Directory}

theorem step_name {name : String} (h : name ≠ "" ∧ name ≠ "." ∧ name ≠ "..") (names : List String) :
    step names name = names ++ [name] := by
  unfold step
  split
  · exact absurd rfl h.1
  · exact absurd rfl h.2.1
  · exact absurd rfl h.2.2
  · rfl

/-- A path that leads into a folder and back is another spelling of the path without this detour. -/
theorem follow?_into_and_back {here names : List String} {name : String} (hname : name ≠ "" ∧ name ≠ "." ∧ name ≠ "..")
    (hhere : d.isFolder here names) (hinner : d.isFolder here (names ++ [name])) (rest : List String) :
    d.follow? here names (name :: ".." :: rest) = d.follow? here names rest := by
  rw [follow?, if_pos hhere, step_name hname, follow?, if_pos hinner]
  show d.follow? here (names ++ [name]).dropLast rest = _
  rw [List.dropLast_concat]

theorem follow?_of_folders (h : d'.folders = d.folders) (here names parts : List String) :
    d'.follow? here names parts = d.follow? here names parts := by
  have hfolder (names : List String) : d'.isFolder here names = d.isFolder here names := by
    unfold isFolder
    rw [h]
  induction parts generalizing names with
  | nil => rfl
  | cons part rest ih =>
    unfold follow?
    rw [hfolder, ih]

/-- Where a path leads depends on folders only. -/
theorem place?_of_folders (h : d'.folders = d.folders) (path : String) (here : List String) :
    d'.place? path here = d.place? path here := by
  have hnames : d'.names? path here = d.names? path here := by
    unfold names?
    split <;> first | rfl | exact follow?_of_folders h here _ _
  unfold place? isFolder
  rw [hnames, h]

variable {path text : String} {here : List String} {refuses : String → Bool}

theorem write?_eq_some (h : d.write? path text here refuses = some d') :
    ∃ place, d.place? path here = some place ∧ d' = { d with files := put place text.toUTF8 d.files } := by
  obtain ⟨place, hplace, hwrite⟩ := Option.bind_eq_some_iff.1 h
  split at hwrite
  · simp at hwrite
  · exact ⟨place, hplace, (Option.some.inj hwrite).symm⟩

theorem folders_of_write? (h : d.write? path text here refuses = some d') : d'.folders = d.folders := by
  obtain ⟨place, -, rfl⟩ := write?_eq_some h
  rfl

/-- After a text has been written to a file, it is in that file, and the others are as they were. -/
theorem bytes?_of_write? (h : d.write? path text here refuses = some d') (q : String) :
    d'.bytes? q here = if d.place? q here = d.place? path here then some text.toUTF8 else d.bytes? q here := by
  have hplace := place?_of_folders (folders_of_write? h) q here
  obtain ⟨place, hpath, rfl⟩ := write?_eq_some h
  unfold bytes?
  rw [hplace, hpath]
  cases d.place? q here with
  | none => rfl
  | some p =>
    rw [Option.bind_some, Option.bind_some, lookup_put]
    by_cases hp : p = place <;> simp [hp]

end Directory

namespace Cli

/-! ### What is compiled -/

namespace CompileOptions

variable {s : Surroundings} {o : CompileOptions} {d d' : Directory}

private theorem bind_eq_ok {ε α β : Type} {x : Except ε α} {f : α → Except ε β} {b : β} (h : (x >>= f) = .ok b) :
    ∃ a, x = .ok a ∧ f a = .ok b := by
  cases x with
  | ok a => exact ⟨a, rfl, h⟩
  | error e => cases h

private theorem spec_eq (s : Surroundings) (o : CompileOptions) (d : Directory) :
    o.spec s d = do
      let base ← o.file.elim (.ok { }) (d.loadProgram · s)
      let robot ← o.robot.resolve s d base.robot
      let routines ← o.robot.resolveRoutines s d base.routines
      return ⟨robot, routines, base.commands ++ o.commands⟩ := by
  unfold spec
  cases o.file <;> rfl

theorem spec_eq_ok {spec : ProgramSpec} (h : o.spec s d = .ok spec) :
    ∃ base robot routines, o.file.elim (.ok { }) (d.loadProgram · s) = .ok base ∧
      o.robot.resolve s d base.robot = .ok robot ∧ o.robot.resolveRoutines s d base.routines = .ok routines ∧
      spec = ⟨robot, routines, base.commands ++ o.commands⟩ := by
  rw [spec_eq] at h
  obtain ⟨base, hbase, h⟩ := bind_eq_ok h
  obtain ⟨robot, hrobot, h⟩ := bind_eq_ok h
  obtain ⟨routines, hroutines, h⟩ := bind_eq_ok h
  exact ⟨base, robot, routines, hbase, hrobot, hroutines, (Except.ok.inj h).symm⟩

theorem compiled_eq (o : CompileOptions) (spec : ProgramSpec) :
    o.compiled spec =
      o.reply.elim spec.compile fun reply => (spec.compileWith (Completer.canned (some reply)) 0).1 := by
  unfold compiled
  cases o.reply <;> rfl

theorem write?_of_save {program : Program} {path : String} (hout : o.out = some path)
    (h : (o.save s program).outcome d = (.ok (), d')) : d.write? path program.full s.here s.refuses = some d' := by
  unfold save at h
  rw [hout] at h
  exact Action.write?_of_write h

theorem stdout_of_report {c : Compiled} {path : String} {output : Output} (hout : o.out = some path)
    (h : (o.report false c).outcome d = (.ok output, d')) : output.stdout = "" := by
  unfold report at h
  rw [hout] at h
  obtain rfl := Except.ok.inj (Prod.mk.inj h).1
  rfl

end CompileOptions

/-! ### Runs -/

namespace Run

variable (x : Except Failure Output × Directory)

theorem directory_ofOutcome : (ofOutcome x).directory = x.2 := by
  rcases x with ⟨_ | _, _⟩ <;> rfl

theorem exitCode_ofOutcome_eq_zero {x : Except Failure Output × Directory} (h : (ofOutcome x).exitCode = 0) :
    x = (.ok (ofOutcome x).output, x.2) := by
  rcases x with ⟨_ | _, _⟩
  · cases h
  · rfl

theorem exitCode_ofOutcome_ne_zero {x : Except Failure Output × Directory} (h : (ofOutcome x).exitCode ≠ 0) :
    ∃ e, x = (.error e, x.2) := by
  rcases x with ⟨e | _, _⟩
  · exact ⟨e, rfl⟩
  · exact absurd rfl h

end Run

/-- A run carries out a request, or leaves the directory as it is. -/
theorem runIn_cases (s : Surroundings) (d : Directory) (args : List String) :
    (∃ json request, Invocation.ofArguments? args = some (.run json request) ∧
      runIn s d args = .ofOutcome ((request.perform s json).outcome d)) ∨
    ((∀ json request, Invocation.ofArguments? args ≠ some (.run json request)) ∧ (runIn s d args).directory = d) := by
  unfold runIn
  cases hargs : Invocation.ofArguments? args with
  | none => exact .inr ⟨by simp, rfl⟩
  | some invocation =>
    cases invocation with
    | version | help => exact .inr ⟨by simp, rfl⟩
    | run json request => exact .inl ⟨json, request, rfl, rfl⟩

/-- A run that fails leaves all files as they were, and so does a run that is not asked to write a program to a file.
A run that is, and succeeds, changes exactly that file: it holds the program compiled from the program that was loaded,
with the robot, the routines and the commands of the options, and with a completer that gives the reply of the options
if there is one.  As text, nothing else is printed then. -/
theorem run_changes_target_only (s : Surroundings) (d : Directory) (args : List String) :
    ((runIn s d args).exitCode ≠ 0 → (runIn s d args).directory = d) ∧
    ((∀ json o, Invocation.ofArguments? args = some (.run json (.compile o)) → o.out = none) →
      (runIn s d args).directory = d) ∧
    ∀ json o path, Invocation.ofArguments? args = some (.run json (.compile o)) → o.out = some path →
      (runIn s d args).exitCode = 0 →
      ∃ base robot routines spec, o.file.elim (.ok { }) (d.loadProgram · s) = .ok base ∧
        o.robot.resolve s d base.robot = .ok robot ∧ o.robot.resolveRoutines s d base.routines = .ok routines ∧
        spec = (⟨robot, routines, base.commands ++ o.commands⟩ : ProgramSpec) ∧
        (d.place? path s.here).isSome ∧
        (∀ q, (runIn s d args).directory.bytes? q s.here =
          if d.place? q s.here = d.place? path s.here then
            some (o.reply.elim spec.compile fun reply =>
              (spec.compileWith (Completer.canned (some reply)) 0).1).program.full.toUTF8
          else d.bytes? q s.here) ∧
        (runIn s d args).directory.folders = d.folders ∧ (json = false → (runIn s d args).output.stdout = "") := by
  rcases runIn_cases s d args with ⟨json, request, hargs, hrun⟩ | ⟨hnone, hsame⟩
  · rw [hrun, Run.directory_ofOutcome]
    refine ⟨?_, ?_, ?_⟩
    · intro hfail
      obtain ⟨e, he⟩ := Run.exitCode_ofOutcome_ne_zero hfail
      exact Request.isSafe_perform s json request d e _ he
    · intro hcompile
      refine Request.keeps_perform s json ?_ d
      cases request with
      | compile o => exact hcompile json o hargs
      | tokenize | parse | validate | suggest | preview => rfl
    · intro json' o path hcompile hout hexit
      rw [hargs] at hcompile
      obtain ⟨rfl, rfl⟩ := Invocation.run.inj (Option.some.inj hcompile)
      obtain ⟨spec, hspec, hsave, hreport⟩ := CompileOptions.perform_eq_ok (Run.exitCode_ofOutcome_eq_zero hexit)
      obtain ⟨base, robot, routines, hbase, hrobot, hroutines, hparts⟩ := CompileOptions.spec_eq_ok hspec
      have hwrite := CompileOptions.write?_of_save hout hsave
      rw [CompileOptions.compiled_eq] at hwrite
      obtain ⟨place, hplace, -⟩ := Directory.write?_eq_some hwrite
      refine ⟨base, robot, routines, spec, hbase, hrobot, hroutines, hparts, by rw [hplace]; rfl,
        Directory.bytes?_of_write? hwrite, Directory.folders_of_write? hwrite, ?_⟩
      rintro rfl
      exact CompileOptions.stdout_of_report hout hreport
  · exact ⟨fun _ => hsame, fun _ => hsame, fun json o path h => absurd h (hnone json _)⟩

/-- A folder next to a file without routines. -/
def noRoutines : Directory := { files := [("r.json", "[]".toUTF8)], folders := ["sub"] }

/-- Arguments that send a program to the file that its routines are read from, by another path. -/
def ontoRoutines : List String := ["compile", "-cstop", "--routines", "r.json", "--out", "sub/../r.json"]

/-- The program goes to the file that its routines were read from. -/
theorem run_replaces_routines :
    (runIn { } noRoutines ontoRoutines).exitCode = 0 ∧
      ∀ q, (runIn { } noRoutines ontoRoutines).directory.bytes? q =
        if noRoutines.place? q = some "r.json" then
          some (ProgramSpec.compile { commands := ["stop"] }).program.full.toUTF8
        else none := by
  have hargs : Invocation.ofArguments? ontoRoutines = some (.run false (.compile
      { commands := ["stop"], robot := { routines := some "r.json" }, out := some "sub/../r.json" })) := rfl
  have hexit : (runIn { } noRoutines ontoRoutines).exitCode = 0 := by decide +kernel
  have hplace : noRoutines.place? "sub/../r.json" = some "r.json" := by decide +kernel
  have hloaded : noRoutines.loadRoutines "r.json" = .ok [] := rfl
  obtain ⟨base, robot, routines, spec, hbase, hrobot, hroutines, hspec, -, hbytes, -, -⟩ :=
    (run_changes_target_only { } noRoutines ontoRoutines).2.2 false _ _ hargs rfl hexit
  obtain rfl : { } = base := Except.ok.inj hbase
  obtain rfl : { } = robot := Except.ok.inj hrobot
  obtain rfl : [] = routines := Except.ok.inj (hloaded.symm.trans hroutines)
  refine ⟨hexit, fun q => ?_⟩
  rw [hbytes, hplace, hspec]
  by_cases hq : noRoutines.place? q = some "r.json"
  · rw [if_pos hq, if_pos hq]
    rfl
  · rw [if_neg hq, if_neg hq]
    -- no other file was there
    unfold Directory.bytes?
    cases hr : noRoutines.place? q with
    | none => rfl
    | some r =>
      rw [hr, Option.some_inj] at hq
      rw [Option.bind_some, noRoutines, Directory.lookup_cons_eq, if_neg hq]
      rfl

end Cli

end RobotPhrase
