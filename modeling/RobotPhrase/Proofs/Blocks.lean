import RobotPhrase.Proofs.Loops

/-!
# Blocks of a program

A line that ends in a colon opens a block, which are the lines below it that are indented deeper.  The block must have
a statement in it; blank lines and remarks do not count.  Blocks are filled in the code of every command without
phrases (`Command.blocksFilled_lines`), and it stays so one level deeper (`blocksFilled_map_deeper`).  What a phrase
leaves in the block of a compound command is a statement if the phrase is understood, and a remark if not.
-/

namespace RobotPhrase

open Text Vocabulary Grammar

/-! ### Lines and blocks -/

/-- The number of blanks in front of a line. -/
def indentation (line : List Char) : Nat := (line.takeWhile (· == ' ')).length

/-- Whether a line is neither blank nor a remark. -/
def isStatement (line : List Char) : Bool := (trimStart line).head?.any (· != '#')

/-- Whether a line opens a block. -/
def opensBlock (line : List Char) : Bool := line.getLast? == some ':' && isStatement line

/-- Whether a statement stands below a line of the given indentation, before the next line that is not deeper. -/
def hasBody (depth : Nat) (rest : List (List Char)) : Bool :=
  (rest.takeWhile fun line => depth < indentation line).any isStatement

/-- Every block has a statement in it. -/
def BlocksFilled : List (List Char) → Prop
  | [] => True
  | line :: rest => (opensBlock line = true → hasBody (indentation line) rest = true) ∧ BlocksFilled rest

instance decidableBlocksFilled : (ls : List (List Char)) → Decidable (BlocksFilled ls)
  | [] => .isTrue trivial
  | _ :: rest =>
    have := decidableBlocksFilled rest
    inferInstanceAs (Decidable (_ ∧ _))

theorem blocksFilled_cons_of_not {line : List Char} (h : opensBlock line = false) (rest : List (List Char)) :
    BlocksFilled (line :: rest) ↔ BlocksFilled rest := by
  simp [BlocksFilled, h]

theorem hasBody_append_cons {depth : Nat} {line : List Char} (h : indentation line ≤ depth)
    (above below : List (List Char)) : hasBody depth (above ++ line :: below) = hasBody depth above := by
  unfold hasBody
  induction above with
  | nil =>
    have hstop : ¬ depth < indentation line := by omega
    simp [hstop]
  | cons l above ih =>
    by_cases hl : depth < indentation l
    · simp [hl, ih]
    · simp [hl]

/-- A line that is not indented ends all blocks. -/
theorem blocksFilled_append_cons {line : List Char} (h : indentation line = 0) (above below : List (List Char)) :
    BlocksFilled (above ++ line :: below) ↔ BlocksFilled above ∧ BlocksFilled (line :: below) := by
  induction above with
  | nil => simp [BlocksFilled]
  | cons l above ih =>
    have hbody : hasBody (indentation l) (above ++ line :: below) = hasBody (indentation l) above :=
      hasBody_append_cons (by omega) above below
    rw [List.cons_append, BlocksFilled, ih, hbody, ← and_assoc]
    rfl

theorem BlocksFilled.append {ls ms : List (List Char)} (hls : BlocksFilled ls) (hms : BlocksFilled ms) :
    BlocksFilled (ls ++ ms) := by
  -- What is below a block takes nothing away from it.
  have hmore (depth : Nat) (rest : List (List Char)) (h : hasBody depth rest = true) :
      hasBody depth (rest ++ ms) = true := by
    unfold hasBody at h ⊢
    induction rest with
    | nil => simp at h
    | cons l rest ih =>
      by_cases hl : depth < indentation l
      · simp only [List.cons_append, List.takeWhile_cons, hl, decide_true, if_true, List.any_cons, Bool.or_eq_true] at h ⊢
        exact h.imp_right ih
      · simp [hl] at h
  induction ls with
  | nil => exact hms
  | cons l ls ih => exact ⟨fun hopens => hmore _ _ (hls.1 hopens), ih hls.2⟩

/-! ### One level deeper -/

/-- A line one level deeper. -/
def deeper (line : List Char) : List Char := "    ".toList ++ line

@[simp]
theorem indentation_deeper (line : List Char) : indentation (deeper line) = indentation line + 4 := rfl

@[simp]
theorem isStatement_deeper (line : List Char) : isStatement (deeper line) = isStatement line := rfl

@[simp]
theorem opensBlock_deeper (line : List Char) : opensBlock (deeper line) = opensBlock line := by
  have hlast {c : Char} (blanks line : List Char) : (blanks ++ c :: line).getLast? = (c :: line).getLast? := by
    rw [List.getLast?_append, List.getLast?_cons]
    rfl
  unfold opensBlock
  rw [isStatement_deeper]
  cases line with
  | nil => rfl
  | cons c line =>
    unfold deeper
    rw [hlast]

theorem hasBody_map_deeper (depth : Nat) (ls : List (List Char)) :
    hasBody (depth + 4) (ls.map deeper) = hasBody depth ls := by
  unfold hasBody
  induction ls with
  | nil => rfl
  | cons l ls ih =>
    by_cases hl : depth < indentation l
    · simp [hl, ih]
    · simp [hl]

theorem blocksFilled_map_deeper (ls : List (List Char)) : BlocksFilled (ls.map deeper) ↔ BlocksFilled ls := by
  induction ls with
  | nil => exact Iff.rfl
  | cons l ls ih =>
    rw [List.map_cons, BlocksFilled, BlocksFilled, opensBlock_deeper, indentation_deeper, hasBody_map_deeper, ih]

/-- All lines that are indented belong to a block which is not. -/
theorem hasBody_zero_map_deeper (ls : List (List Char)) : hasBody 0 (ls.map deeper) = ls.any isStatement := by
  unfold hasBody
  induction ls with
  | nil => rfl
  | cons l ls ih => simp [ih]

/-! ### What a line begins and ends with -/

theorem indentation_append {a : List Char} (h : a.any (· != ' ') = true) (b : List Char) :
    indentation (a ++ b) = indentation a := by
  unfold indentation
  induction a with
  | nil => simp at h
  | cons c a ih =>
    by_cases hc : c = ' '
    · have ha : a.any (· != ' ') = true := by simpa [hc] using h
      simp [hc, ih ha]
    · simp [hc]

private theorem head?_trimStart_append {a : List Char} {c : Char} (h : (trimStart a).head? = some c) (b : List Char) :
    (trimStart (a ++ b)).head? = some c := by
  unfold trimStart at h ⊢
  rw [List.dropWhile_append]
  cases hdrop : a.dropWhile isBlank with
  | nil => simp [hdrop] at h
  | cons d ds =>
    rw [hdrop] at h
    exact h

theorem isStatement_append {a : List Char} (h : isStatement a = true) (b : List Char) : isStatement (a ++ b) = true := by
  unfold isStatement at h ⊢
  cases hc : (trimStart a).head? with
  | none => simp [hc] at h
  | some c =>
    rw [hc] at h
    rwa [head?_trimStart_append hc]

theorem isStatement_remark {a : List Char} (h : (trimStart a).head? = some '#') (b : List Char) :
    isStatement (a ++ b) = false := by
  unfold isStatement
  rw [head?_trimStart_append h]
  rfl

theorem opensBlock_remark {a : List Char} (h : (trimStart a).head? = some '#') (b : List Char) :
    opensBlock (a ++ b) = false := by
  rw [opensBlock, isStatement_remark h, Bool.and_false]

theorem opensBlock_append {b : List Char} (h : b.getLast?.any (· != ':') = true) (a : List Char) :
    opensBlock (a ++ b) = false := by
  unfold opensBlock
  rw [List.getLast?_append]
  cases hlast : b.getLast? with
  | none => simp [hlast] at h
  | some c =>
    have hc : c ≠ ':' := by simpa [hlast] using h
    simp [hc]

theorem opensBlock_of_colon {a b : List Char} (ha : isStatement a = true) (hb : b.getLast? = some ':') :
    opensBlock (a ++ b) = true := by
  simp [opensBlock, hb, isStatement_append ha]

theorem opensBlock_of_not_mem {line : List Char} (h : ':' ∉ line) : opensBlock line = false := by
  have hlast : line.getLast? ≠ some ':' := fun hlast => h (List.mem_of_getLast? hlast)
  simp [opensBlock, hlast]

/-- A name without blanks at the front of a line. -/
theorem isStatement_name {name : String} (hname : IsUnbroken name) {rest : List Char} (hrest : isStatement rest = true) :
    isStatement (name.toList ++ rest) = !(name.toList.head? == some '#') := by
  unfold IsUnbroken at hname
  cases hchars : name.toList with
  | nil => simpa using hrest
  | cons c cs =>
    have hc : isBlank c = false := hname c (by simp [hchars])
    simp [isStatement, trimStart, hc, bne]

/-! ### The code of a command -/

namespace Command

/-- The name at the front of the code. -/
def leadingName? : Command → Option String
  | runMotor motor _ _ => some motor
  | stop motor => motor
  | call routine _ => some routine
  | _ => none

/-- Whether the name at the front of the code makes a remark of it. -/
def isRemark (c : Command) : Bool := c.leadingName?.any fun name => name.toList.head? == some '#'

private theorem blocksFilled_line {l : List Char} (h : opensBlock l = false) : BlocksFilled [l] :=
  (blocksFilled_cons_of_not h []).2 trivial

private theorem blocksFilled_call (l : String) {ending : String} (h : ending.toList.getLast?.any (· != ':') = true) :
    BlocksFilled [(l ++ ending).toList] := by
  rw [String.toList_append]
  exact blocksFilled_line (opensBlock_append h l.toList)

private theorem blocksFilled_withRate (setting : Setting) (rate : Option Int) (l : String) :
    BlocksFilled ((withRate setting rate (l ++ ")")).map String.toList) := by
  cases rate with
  | none => exact blocksFilled_call l (by decide)
  | some value => exact (blocksFilled_call _ (by decide)).append (blocksFilled_call l (by decide))

private theorem blocksFilled_preciseTurn (angle : Int) : BlocksFilled ((preciseTurnLines angle).map String.toList) := by
  have htarget : opensBlock ("target_angle = hub.imu.heading() + " ++ toString angle).toList = false :=
    opensBlock_of_not_mem (not_mem_append (by decide) (Numeral.not_mem_toString (by decide) (by decide) angle))
  have hrest : BlocksFilled (((preciseTurnLines 0).drop 2).map String.toList) := by decide +kernel
  have hremark : BlocksFilled ["# Precise turn using gyro feedback".toList] := by decide
  exact (hremark.append (blocksFilled_line htarget)).append hrest

/-- A block of one statement. -/
private theorem blocksFilled_pair {front body : String} (x : String) (hfront : front.toList.any (· != ' ') = true)
    (hdeep : indentation front.toList < indentation body.toList) (hbody : isStatement body.toList = true)
    (hflat : opensBlock body.toList = false) : BlocksFilled [(front ++ x).toList, body.toList] := by
  refine ⟨fun _ => ?_, blocksFilled_line hflat⟩
  rw [String.toList_append, indentation_append hfront]
  simp [hasBody, hdeep, hbody]

private theorem blocksFilled_watch (w : Watch) (driving : Option Int) :
    BlocksFilled ((watch w driving).lines.map String.toList) := by
  have hloop : BlocksFilled (w.lines.map String.toList) := by
    unfold Watch.lines
    rw [String.append_assoc]
    exact blocksFilled_pair _ (by decide) (by decide) (by decide) (by decide)
  cases driving with
  | none => exact hloop
  | some speed =>
    have hheading : BlocksFilled [w.heading.toList] := by
      cases w <;> simp only [Watch.heading] <;> decide
    have hdrive : BlocksFilled [("robot.drive(" ++ toString speed ++ ", 0)").toList] := blocksFilled_call _ (by decide)
    have hstop : BlocksFilled ["robot.stop()".toList] := by decide
    have hall := ((hheading.append hdrive).append hloop).append hstop
    simpa [lines] using hall

private theorem blocksFilled_followLine (ending : LineEnd) :
    BlocksFilled ((followLineLines ending).map String.toList) := by
  have habove : BlocksFilled (((followLineLines .never).take 7).map String.toList) := by decide +kernel
  have hbelow : BlocksFilled (((followLineLines .never).drop 8).map String.toList) := by decide +kernel
  have hending : BlocksFilled ((ending.lines.map indent).map String.toList) := by
    cases ending with
    | afterDistance distance =>
      simp only [LineEnd.lines, List.map_cons, List.map_nil, indent, String.append_assoc]
      rw [← String.append_assoc]
      exact blocksFilled_pair _ (by decide) (by decide) (by decide) (by decide)
    | onCondition => decide
    | never => decide
  have hall := (habove.append hending).append hbelow
  unfold followLineLines
  rw [List.map_append, List.map_append]
  exact hall

/-- The blocks in the code of a command without phrases are filled. -/
theorem blocksFilled_lines {c : Command} (h : c.isSimple = true) : BlocksFilled (c.lines.map String.toList) := by
  cases c with
  | move speed distance => exact blocksFilled_withRate _ speed _
  | turn rate angle => exact blocksFilled_withRate _ rate _
  | preciseTurn angle => exact blocksFilled_preciseTurn angle
  | wait duration => exact blocksFilled_call _ (by decide)
  | runMotor motor speed angle => exact blocksFilled_call _ (by decide)
  | stop motor => exact blocksFilled_call _ (by decide)
  | set setting value => exact blocksFilled_call _ (by decide)
  | watch condition driving => exact blocksFilled_watch condition driving
  | followLine ending => exact blocksFilled_followLine ending
  | taskOutline => decide +kernel
  | call routine arguments => exact blocksFilled_call _ (by decide)
  | loop | tasks | completed => simp [isSimple] at h

private theorem isStatement_text {front : String} (h : isStatement front.toList = true) (x : String) :
    isStatement (front ++ x).toList = true := by
  rw [String.toList_append]
  exact isStatement_append h x.toList

private theorem isStatement_call {name front : String} (hname : IsUnbroken name) (hfront : isStatement front.toList = true)
    (x : String) : isStatement (name ++ (front ++ x)).toList = !(name.toList.head? == some '#') := by
  rw [String.toList_append]
  exact isStatement_name hname (isStatement_text hfront x)

private theorem any_isStatement_of_mem {ls : List String} {l : String} (hl : l ∈ ls) (h : isStatement l.toList = true) :
    (ls.map String.toList).any isStatement = true :=
  List.any_eq_true.2 ⟨l.toList, List.mem_map_of_mem hl, h⟩

/-- The code of a command without phrases is more than a remark, unless a name makes it one. -/
theorem any_isStatement_lines {c : Command} (h : c.isSimple = true) (hnames : ∀ name ∈ c.names, IsUnbroken name) :
    (c.lines.map String.toList).any isStatement = !c.isRemark := by
  have hrate {setting : Setting} {rate : Option Int} {line : String} (hline : isStatement line.toList = true) :
      ((withRate setting rate line).map String.toList).any isStatement = true :=
    any_isStatement_of_mem (by cases rate <;> simp [withRate]) hline
  cases c with
  | move speed distance => exact hrate (isStatement_text (isStatement_text (by decide) _) _)
  | turn rate angle => exact hrate (isStatement_text (isStatement_text (by decide) _) _)
  | preciseTurn angle =>
    have hstop : "robot.stop()" ∈ preciseTurnLines angle := by simp [preciseTurnLines]
    exact any_isStatement_of_mem hstop (by decide)
  | wait duration =>
    exact any_isStatement_of_mem (List.mem_singleton_self _) (isStatement_text (isStatement_text (by decide) _) _)
  | runMotor motor speed angle =>
    have hmotor := hnames motor (by simp [names])
    have hline := isStatement_call hmotor (by decide : isStatement ".run_angle(".toList = true)
      (toString speed ++ ", " ++ toString angle ++ ")")
    simpa [lines, isRemark, leadingName?, String.append_assoc] using hline
  | stop motor =>
    cases motor with
    | none => decide
    | some motor =>
      have hline := isStatement_call (hnames motor (by simp [names])) (by decide : isStatement ".stop()".toList = true) ""
      simpa [lines, isRemark, leadingName?] using hline
  | set setting value =>
    have hline : isStatement (settingsLine setting value).toList = true :=
      isStatement_text (isStatement_text (isStatement_text (isStatement_text (by decide) _) _) _) _
    exact any_isStatement_of_mem (List.mem_singleton_self _) hline
  | watch condition driving =>
    have hwait : "    wait(10)" ∈ (watch condition driving).lines := by cases driving <;> simp [lines, Watch.lines]
    exact any_isStatement_of_mem hwait (by decide)
  | followLine ending =>
    have hstop : "robot.stop()" ∈ followLineLines ending := by simp [followLineLines]
    exact any_isStatement_of_mem hstop (by decide)
  | taskOutline => decide +kernel
  | call routine arguments =>
    have hline := isStatement_call (hnames routine (by simp [names])) (by decide : isStatement "(".toList = true)
      (", ".intercalate (arguments.map fun n => String.ofList n.text) ++ ")")
    simpa [lines, callLine, isRemark, leadingName?, String.append_assoc] using hline
  | loop | tasks | completed => simp [isSimple] at h

end Command

/-! ### Blocks of phrases -/

/-- Lines that fill a block, which is opened by a line that is not indented. -/
def FillsBlock (body : List (List Char)) : Prop := hasBody 0 body = true ∧ BlocksFilled body

instance (body : List (List Char)) : Decidable (FillsBlock body) := inferInstanceAs (Decidable (_ ∧ _))

theorem blocksFilled_cons_iff {line : List Char} (hopens : opensBlock line = true) (hflat : indentation line = 0)
    (body : List (List Char)) : BlocksFilled (line :: body) ↔ FillsBlock body := by
  simp [BlocksFilled, FillsBlock, hopens, hflat]

/-- Code fills a block if it is more than a remark. -/
theorem fillsBlock_code {c : Command} (h : c.isSimple = true) (hnames : ∀ name ∈ c.names, IsUnbroken name) :
    FillsBlock ((c.lines.map indent).flatMap codeLines) ↔ c.isRemark = false := by
  have hfeed : ∀ l ∈ c.lines, '\n' ∉ l.toList :=
    Command.feed_not_mem_lines h fun name hname hfeed => absurd (hnames name hname '\n' hfeed) (by decide)
  have hlines : (c.lines.map indent).flatMap codeLines = (c.lines.map String.toList).map deeper := by
    rw [flatMap_codeLines_indent hfeed, List.map_map]
    rfl
  have hfilled := (blocksFilled_map_deeper _).2 (Command.blocksFilled_lines h)
  unfold FillsBlock
  rw [hlines, hasBody_zero_map_deeper, Command.any_isStatement_lines h hnames, Bool.not_eq_true']
  exact and_iff_left hfilled

/-- An indented remark adds nothing to a block. -/
theorem fillsBlock_remark {mark : List Char} (hmark : (trimStart mark).head? = some '#') (hdeep : 0 < indentation mark)
    (first : List Char) (rest : List (List Char)) : FillsBlock ((mark ++ first) :: rest) ↔ FillsBlock rest := by
  have hremark : isStatement (mark ++ first) = false := isStatement_remark hmark first
  have hmem : '#' ∈ mark := (List.dropWhile_suffix _).subset (List.mem_of_head? hmark)
  have hindent : 0 < indentation (mark ++ first) := by
    rwa [indentation_append (List.any_eq_true.2 ⟨'#', hmem, by decide⟩)]
  have hbody : hasBody 0 ((mark ++ first) :: rest) = hasBody 0 rest := by
    simp [hasBody, hindent, hremark]
  unfold FillsBlock
  rw [hbody, blocksFilled_cons_of_not (opensBlock_remark hmark first)]

section

variable (robot : Robot) (motors : List String)

/-- Whether a phrase fills its block in a compound command.  If it is not understood, what stands in the block are the
further lines of the phrase, behind the remark, and the lines that close the block. -/
def PhraseFills (closing : List (List Char)) (phrase : String) : Prop :=
  match phraseCommand? robot motors phrase with
  | some c => c.isRemark = false
  | none => FillsBlock ((codeLines phrase).tail ++ closing)

theorem phraseBlock_eq (phrase : String) : phraseBlock robot motors phrase =
    ((phraseCommand? robot motors phrase).map fun c => Block.code c.lines).getD (.remark phrase) := by
  unfold phraseBlock
  rw [phraseLines?_eq, Option.map_map]
  rfl

theorem fillsBlock_loopBodyLines (phrase : String) :
    FillsBlock ((loopBodyLines (some (phraseBlock robot motors phrase))).flatMap codeLines) ↔
      PhraseFills robot motors ["    pass".toList] phrase := by
  unfold PhraseFills
  rw [phraseBlock_eq]
  cases hc : phraseCommand? robot motors phrase with
  | some c =>
    obtain ⟨hsimple, hnames⟩ := isSimple_of_phraseCommand? hc
    exact fillsBlock_code hsimple hnames
  | none =>
    obtain ⟨first, -, hlines⟩ := codeLines_remark phrase
    rw [Option.map_none, Option.getD_none, hlines]
    exact fillsBlock_remark (by decide) (by decide) first _

theorem fillsBlock_taskBodyLines (phrase : String) :
    FillsBlock ((taskBodyLines (phraseBlock robot motors phrase)).flatMap codeLines) ↔
      PhraseFills robot motors [] phrase := by
  unfold PhraseFills
  rw [phraseBlock_eq]
  cases hc : phraseCommand? robot motors phrase with
  | some c =>
    obtain ⟨hsimple, hnames⟩ := isSimple_of_phraseCommand? hc
    exact fillsBlock_code hsimple hnames
  | none =>
    obtain ⟨first, -, hlines⟩ := codeLines_append (by decide : '\n' ∉ "    # TODO: ".toList) phrase
    rw [Option.map_none, Option.getD_none, taskBodyLines, List.flatMap_singleton, hlines, List.append_nil]
    exact fillsBlock_remark (by decide) (by decide) first _

variable {robot motors}

/-- A phrase of one line fills the block of a loop unless its code is a remark. -/
theorem phraseFills_loop_iff {phrase : String} (h : '\n' ∉ phrase.toList) :
    PhraseFills robot motors ["    pass".toList] phrase ↔
      ∀ c, phraseCommand? robot motors phrase = some c → c.isRemark = false := by
  have hpass : FillsBlock ["    pass".toList] := by decide
  unfold PhraseFills
  cases phraseCommand? robot motors phrase with
  | some c => simp
  | none => simpa [codeLines_of_line h] using hpass

/-- A phrase of one line fills the block of a task only if it is understood. -/
theorem phraseFills_task_iff {phrase : String} (h : '\n' ∉ phrase.toList) :
    PhraseFills robot motors [] phrase ↔ ∃ c, phraseCommand? robot motors phrase = some c ∧ c.isRemark = false := by
  have hnothing : ¬ FillsBlock [] := by decide
  unfold PhraseFills
  cases phraseCommand? robot motors phrase with
  | some c => simp
  | none => simpa [codeLines_of_line h] using hnothing

end

/-! ### Blocks of compound commands -/

theorem blocksFilled_loop_iff (count : Int) (body : Option Block) :
    BlocksFilled (codeLines (Command.loop count body).code) ↔ FillsBlock ((loopBodyLines body).flatMap codeLines) := by
  have hopens : opensBlock (loopHead count).toList = true := by
    unfold loopHead
    rw [String.toList_append, String.toList_append]
    exact opensBlock_of_colon (isStatement_append (by decide) _) (by decide)
  have hflat : indentation (loopHead count).toList = 0 := by
    unfold loopHead
    rw [String.append_assoc, String.toList_append, indentation_append (by decide)]
    rfl
  rw [codeLines_loop, blocksFilled_cons_iff hopens hflat]

theorem codeLines_tasks (first second : String) (firstBlock secondBlock : Block) :
    ∃ line, codeLines (Command.tasks first second firstBlock secondBlock).code =
      (("# Parallel execution: ".toList ++ line) :: (codeLines (first ++ " AND " ++ second)).tail)
        ++ ("async def task1():".toList :: (taskBodyLines firstBlock).flatMap codeLines)
        ++ ([] :: "async def task2():".toList :: (taskBodyLines secondBlock).flatMap codeLines)
        ++ [[], "await multitask(task1(), task2())".toList] := by
  obtain ⟨line, -, hheading⟩ :=
    codeLines_append (by decide : '\n' ∉ "# Parallel execution: ".toList) (first ++ " AND " ++ second)
  have hempty : codeLines "" = [[]] := codeLines_of_line (by decide)
  have hfirst : codeLines "async def task1():" = ["async def task1():".toList] := codeLines_of_line (by decide)
  have hsecond : codeLines "async def task2():" = ["async def task2():".toList] := codeLines_of_line (by decide)
  have hawait : codeLines "await multitask(task1(), task2())" = ["await multitask(task1(), task2())".toList] :=
    codeLines_of_line (by decide)
  have htext : "# Parallel execution: " ++ first ++ " AND " ++ second =
      "# Parallel execution: " ++ (first ++ " AND " ++ second) := by
    simp only [String.append_assoc]
  refine ⟨line, ?_⟩
  unfold Command.code
  rw [codeLines_joinLines (by simp [Command.lines]), Command.lines, taskLines, List.flatMap_cons, htext, hheading]
  simp only [List.flatMap_append, List.flatMap_cons, List.flatMap_nil, hempty, hfirst, hsecond, hawait, List.append_assoc,
    List.cons_append, List.nil_append]

theorem blocksFilled_tasks_iff (first second : String) (firstBlock secondBlock : Block) :
    BlocksFilled (codeLines (Command.tasks first second firstBlock secondBlock).code) ↔
      BlocksFilled (codeLines (first ++ " AND " ++ second)).tail ∧
        FillsBlock ((taskBodyLines firstBlock).flatMap codeLines) ∧
        FillsBlock ((taskBodyLines secondBlock).flatMap codeLines) := by
  obtain ⟨line, hlines⟩ := codeLines_tasks first second firstBlock secondBlock
  have hremark : opensBlock ("# Parallel execution: ".toList ++ line) = false := opensBlock_remark (by decide) line
  have hfirst (body : List (List Char)) : BlocksFilled ("async def task1():".toList :: body) ↔ FillsBlock body :=
    blocksFilled_cons_iff (by decide) (by decide) body
  have hsecond (body : List (List Char)) : BlocksFilled ("async def task2():".toList :: body) ↔ FillsBlock body :=
    blocksFilled_cons_iff (by decide) (by decide) body
  have hempty (rest : List (List Char)) : BlocksFilled ([] :: rest) ↔ BlocksFilled rest :=
    blocksFilled_cons_of_not (by decide) rest
  have hend : BlocksFilled [[], "await multitask(task1(), task2())".toList] := by decide
  -- No line around the two bodies is indented, so the code is cut there from its end on.
  rw [hlines, blocksFilled_append_cons (by decide), and_iff_left hend, blocksFilled_append_cons (by decide),
    blocksFilled_append_cons (by decide), blocksFilled_cons_of_not hremark, hfirst, hempty, hsecond, and_assoc]

section

variable {robot : Robot} {motors routines : List String} {text : String}

theorem interpret_of_kind?_multitask (h : (interpret ⟨robot, motors, routines⟩ text).kind? = some .multitask) :
    ∃ first second, halves? (lower text.toList) = some (first, second) ∧
      interpret ⟨robot, motors, routines⟩ text =
        .understood (.tasks first second (phraseBlock robot motors first) (phraseBlock robot motors second)) := by
  rw [interpret_eq_answerWith] at h ⊢
  obtain ⟨⟨first, second⟩, hhalves, ha⟩ := Option.map_eq_some_iff.1 (twoTasks_of_kind? h)
  refine ⟨first, second, hhalves, ?_⟩
  rw [← ha]
  simp only [blockOf_interpretWithin_zero]
  rfl

end

/-- Which sentences give code with an empty block: those where a phrase leaves no statement in its block.  That is a phrase
of two tasks that is not understood; a line feed in a phrase that is kept as a remark may also end the block or open
another. -/
theorem blocks_filled_iff (robot : Robot) (motors routines : List String) (text code : String)
    (hcode : (interpret ⟨robot, motors, routines⟩ text).code? = some code) :
    ((interpret ⟨robot, motors, routines⟩ text).kind? = some .parallel → BlocksFilled (codeLines code)) ∧
      ((interpret ⟨robot, motors, routines⟩ text).kind? = some .loop →
        (BlocksFilled (codeLines code) ↔ loopBody text.toList = [] ∨
          PhraseFills robot motors ["    pass".toList] (String.ofList (loopBody text.toList)))) ∧
      ((interpret ⟨robot, motors, routines⟩ text).kind? = some .multitask →
        ∃ first second, halves? (lower text.toList) = some (first, second) ∧
          (BlocksFilled (codeLines code) ↔ BlocksFilled (codeLines (first ++ " AND " ++ second)).tail ∧
            PhraseFills robot motors [] first ∧ PhraseFills robot motors [] second)) := by
  obtain ⟨c, hc, rfl⟩ := Option.map_eq_some_iff.1 hcode
  have hanswer := (isRegular_interpret _ text).eq_understood hc
  refine ⟨fun hkind => ?_, fun hkind => ?_, fun hkind => ?_⟩
  · rw [hanswer] at hkind
    obtain rfl := Command.eq_taskOutline (Option.some.inj hkind)
    have hfeed : ∀ l ∈ Command.taskOutline.lines, '\n' ∉ l.toList := Command.feed_not_mem_lines rfl (by simp [Command.names])
    unfold Command.code
    rw [codeLines_joinLines (by simp [Command.lines, taskLines]), flatMap_codeLines hfeed]
    exact Command.blocksFilled_lines rfl
  · have hunderstood : (interpret ⟨robot, motors, routines⟩ text).isUnderstood = true := by
      rw [hanswer]
      rfl
    obtain ⟨n, -, ha⟩ := interpret_of_kind?_loop hkind hunderstood
    obtain rfl := Answer.understood.inj (hanswer.symm.trans ha)
    rw [blocksFilled_loop_iff]
    by_cases hbody : loopBody text.toList = []
    · have hnone : FillsBlock ((loopBodyLines none).flatMap codeLines) := by decide
      rw [if_pos (List.isEmpty_iff.2 hbody)]
      exact iff_of_true hnone (.inl hbody)
    · rw [if_neg (mt List.isEmpty_iff.1 hbody), fillsBlock_loopBodyLines]
      exact (or_iff_right hbody).symm
  · obtain ⟨first, second, hhalves, ha⟩ := interpret_of_kind?_multitask hkind
    refine ⟨first, second, hhalves, ?_⟩
    obtain rfl := Answer.understood.inj (hanswer.symm.trans ha)
    rw [blocksFilled_tasks_iff, fillsBlock_taskBodyLines, fillsBlock_taskBodyLines]

theorem blocks_filled_follow_line :
    (∃ code, (interpret ⟨{}, [], []⟩ "repeat 2 times: beep").code? = some code ∧ BlocksFilled (codeLines code)) ∧
      ∃ code, (interpret ⟨{}, [], []⟩ "follow the line and move 5").code? = some code ∧
        BlocksFilled (codeLines code) := by
  constructor
  · have hanswer : interpret ⟨{}, [], []⟩ "repeat 2 times: beep" = .understood (.loop 2 (some (.remark "beep"))) := by
      decide +kernel
    have hkind : (interpret ⟨{}, [], []⟩ "repeat 2 times: beep").kind? = some .loop := by
      rw [hanswer]
      rfl
    have hbody : String.ofList (loopBody "repeat 2 times: beep".toList) = "beep" := by decide +kernel
    have hbeep : phraseCommand? {} [] "beep" = none := by decide +kernel
    obtain ⟨code, hcode⟩ : ∃ code, (interpret ⟨{}, [], []⟩ "repeat 2 times: beep").code? = some code := by
      rw [hanswer]
      exact ⟨_, rfl⟩
    refine ⟨code, hcode, ((blocks_filled_iff {} [] [] _ code hcode).2.1 hkind).2 (.inr ?_)⟩
    rw [hbody, phraseFills_loop_iff (by decide), hbeep]
    simp
  · have hanswer : interpret ⟨{}, [], []⟩ "follow the line and move 5" = .understood (.tasks "follow the line" "move 5"
        (.code (Command.followLine .never).lines) (.code (Command.move none 5).lines)) := by decide +kernel
    have hkind : (interpret ⟨{}, [], []⟩ "follow the line and move 5").kind? = some .multitask := by
      rw [hanswer]
      rfl
    have hparts : halves? (lower "follow the line and move 5".toList) = some ("follow the line", "move 5") := by
      decide +kernel
    have hline : phraseCommand? {} [] "follow the line" = some (.followLine .never) := by decide +kernel
    have hmove : phraseCommand? {} [] "move 5" = some (.move none 5) := by decide +kernel
    obtain ⟨code, hcode⟩ : ∃ code, (interpret ⟨{}, [], []⟩ "follow the line and move 5").code? = some code := by
      rw [hanswer]
      exact ⟨_, rfl⟩
    obtain ⟨first, second, hhalves, hiff⟩ := (blocks_filled_iff {} [] [] _ code hcode).2.2 hkind
    obtain ⟨rfl, rfl⟩ := Prod.mk.inj (Option.some.inj (hparts.symm.trans hhalves))
    refine ⟨code, hcode, hiff.2 ⟨by decide, ?_, ?_⟩⟩
    · rw [phraseFills_task_iff (by decide)]
      exact ⟨_, hline, rfl⟩
    · rw [phraseFills_task_iff (by decide)]
      exact ⟨_, hmove, rfl⟩

theorem not_blocks_filled_wait :
    (interpret ⟨{}, [], []⟩ "move 5 and wait").kind? = some .multitask ∧
      (interpret ⟨{}, [], []⟩ "move 5 and wait").code? = some ("# Parallel execution: move 5 AND wait\n" ++
        "async def task1():\n    robot.straight(5)\n\nasync def task2():\n    # TODO: wait\n\n" ++
        "await multitask(task1(), task2())") ∧
      ¬ BlocksFilled (codeLines ("# Parallel execution: move 5 AND wait\n" ++
        "async def task1():\n    robot.straight(5)\n\nasync def task2():\n    # TODO: wait\n\n" ++
        "await multitask(task1(), task2())")) := by
  have hanswer : interpret ⟨{}, [], []⟩ "move 5 and wait" = .understood (.tasks "move 5" "wait"
      (.code (Command.move none 5).lines) (.remark "wait")) := by decide +kernel
  have hcode : (Command.tasks "move 5" "wait" (.code (Command.move none 5).lines) (.remark "wait")).code =
      "# Parallel execution: move 5 AND wait\n" ++
        "async def task1():\n    robot.straight(5)\n\nasync def task2():\n    # TODO: wait\n\n" ++
        "await multitask(task1(), task2())" := by decide +kernel
  rw [hanswer, ← hcode]
  refine ⟨rfl, rfl, ?_⟩
  rw [blocksFilled_tasks_iff]
  decide +kernel

end RobotPhrase
