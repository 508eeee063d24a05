import RobotPhrase.Proofs.Capitals
import RobotPhrase.Proofs.Code
import RobotPhrase.Proofs.CodeParts
import RobotPhrase.Proofs.RoutineCalls
import RobotPhrase.Proofs.WordTokens

/-!
# The lines of a program

The code of a command is written line by line, and read again it falls into the lines between its line feeds
(`codeLines_joinLines`).  The code of a phrase inside a compound command has the lines that were written, since neither
the fixed texts nor the names that a sentence can put into them have a line feed (`feed_not_mem_of_phraseLines?`).  So
indenting the lines is the same as putting blanks behind every line feed (`joinLines_map_indent`).
-/

namespace RobotPhrase

open Text Vocabulary Grammar

/-! ### Lines and line feeds -/

/-- The lines of a program, between its line feeds. -/
def codeLines (code : String) : List (List Char) := pieces (· == '\n') code.toList

theorem codeLines_of_line {l : String} (h : '\n' ∉ l.toList) : codeLines l = [l.toList] := by
  apply pieces_eq_singleton
  intro c hc
  have hne : c ≠ '\n' := by
    rintro rfl
    exact h hc
  simpa using hne

theorem codeLines_joinLines {ls : List String} (hne : ls ≠ []) : codeLines (joinLines ls) = ls.flatMap codeLines := by
  induction ls with
  | nil => exact absurd rfl hne
  | cons a ls ih =>
    cases ls with
    | nil => simp [joinLines]
    | cons b ls =>
      rw [List.flatMap_cons, ← ih (by simp), codeLines, toList_joinLines_cons_cons, pieces_append (by decide)]
      rfl

theorem flatMap_codeLines {ls : List String} (h : ∀ l ∈ ls, '\n' ∉ l.toList) :
    ls.flatMap codeLines = ls.map String.toList := by
  induction ls with
  | nil => rfl
  | cons a ls ih =>
    rw [List.flatMap_cons, codeLines_of_line (h a (by simp)), ih fun l hl => h l (by simp [hl])]
    rfl

theorem flatMap_codeLines_indent {ls : List String} (h : ∀ l ∈ ls, '\n' ∉ l.toList) :
    (ls.map indent).flatMap codeLines = ls.map fun l => "    ".toList ++ l.toList := by
  have hindent : ∀ l ∈ ls.map indent, '\n' ∉ l.toList := by
    intro l hl
    obtain ⟨m, hm, rfl⟩ := List.mem_map.1 hl
    exact not_mem_append (by decide) (h m hm)
  rw [flatMap_codeLines hindent, List.map_map]
  exact List.map_congr_left fun l _ => String.toList_append

private theorem pieces_append_left {p : Char → Bool} {w : List Char} (hw : ∀ c ∈ w, p c = false) (cs : List Char) :
    ∃ first, pieces p cs = first :: (pieces p cs).tail ∧ pieces p (w ++ cs) = (w ++ first) :: (pieces p cs).tail := by
  obtain ⟨first, rest, hcs⟩ := List.exists_cons_of_ne_nil (pieces_ne_nil p cs)
  refine ⟨first, by rw [hcs]; rfl, ?_⟩
  induction w with
  | nil => rw [List.nil_append, List.nil_append, hcs]; rfl
  | cons c w ih =>
    have hc : p c = false := hw c (by simp)
    rw [List.cons_append, pieces, ih fun d hd => hw d (by simp [hd])]
    simp [hc]

/-- A text without line feeds goes to the front of the first line. -/
theorem codeLines_append {a : String} (ha : '\n' ∉ a.toList) (b : String) :
    ∃ first, codeLines b = first :: (codeLines b).tail ∧ codeLines (a ++ b) = (a.toList ++ first) :: (codeLines b).tail := by
  have hfeed : ∀ c ∈ a.toList, (c == '\n') = false := by
    intro c hc
    have hne : c ≠ '\n' := by
      rintro rfl
      exact ha hc
    simpa using hne
  unfold codeLines
  rw [String.toList_append]
  exact pieces_append_left hfeed b.toList

/-- A text with four blanks behind every line feed. -/
def indentFeeds (cs : List Char) : List Char := cs.flatMap fun c => if c = '\n' then ['\n', ' ', ' ', ' ', ' '] else [c]

private theorem indentFeeds_of_line {cs : List Char} (h : '\n' ∉ cs) : indentFeeds cs = cs := by
  induction cs with
  | nil => rfl
  | cons c cs ih =>
    rw [List.mem_cons, not_or] at h
    have ih' := ih h.2
    unfold indentFeeds at ih' ⊢
    rw [List.flatMap_cons, ih', if_neg (Ne.symm h.1)]
    rfl

theorem joinLines_map_indent {ls : List String} (hne : ls ≠ []) (h : ∀ l ∈ ls, '\n' ∉ l.toList) :
    (joinLines (ls.map indent)).toList = "    ".toList ++ indentFeeds (joinLines ls).toList := by
  induction ls with
  | nil => exact absurd rfl hne
  | cons a ls ih =>
    have ha := indentFeeds_of_line (h a (by simp))
    cases ls with
    | nil => simp [joinLines, indent, ha]
    | cons b ls =>
      have ih' := ih (by simp) fun l hl => h l (by simp [hl])
      have hcut : indentFeeds (a.toList ++ '\n' :: (joinLines (b :: ls)).toList) =
          a.toList ++ '\n' :: ("    ".toList ++ indentFeeds (joinLines (b :: ls)).toList) := by
        unfold indentFeeds at ha ⊢
        rw [List.flatMap_append, ha, List.flatMap_cons]
        rfl
      rw [List.map_cons, List.map_cons, toList_joinLines_cons_cons, ← List.map_cons, ih', toList_joinLines_cons_cons,
        hcut, indent, String.toList_append, List.append_assoc]

/-- A line feed can get into the code by a name only. -/
theorem Command.feed_not_mem_lines {c : Command} (h : c.isSimple = true) (hnames : ∀ name ∈ c.names, '\n' ∉ name.toList) :
    ∀ l ∈ c.lines, '\n' ∉ l.toList := by
  by_cases hc : c.kind = .parallel
  · obtain rfl := eq_taskOutline hc
    decide +kernel
  · have hfixed : ∀ l ∈ fixedLines, '\n' ∉ l.toList := by decide +kernel
    intro l hl
    rcases lines_cases h hc l hl with hl | hl
    · exact hfixed l hl
    · exact hl.not_mem (by decide) hnames

/-! ### Names in the code of a phrase -/

/-- A text without blanks. -/
def IsUnbroken (name : String) : Prop := ∀ c ∈ name.toList, isBlank c = false

instance (name : String) : Decidable (IsUnbroken name) :=
  decidable_of_iff (name.toList.all (fun c => !isBlank c) = true) (by simp [IsUnbroken])

section

variable {scene : Scene} {text : String}

theorem isUnbroken_motor? {motors : List String} {motor : String}
    (h : (Sentence.ofText text).motor? motors = some motor) : IsUnbroken motor := by
  have hraw {t : Token} (ht : t ∈ tokenize text) {c : Char} (hc : c ∈ t.raw.toList) : isBlank c = false :=
    (Bool.or_eq_false_iff.1 (isSeparator_of_mem_raw ht hc)).1
  unfold Sentence.motor? at h
  split at h
  · rename_i t ht
    obtain rfl := Option.some.inj h
    exact fun c hc => hraw (List.mem_of_find?_eq_some ht) hc
  · obtain ⟨t, ht, hfind⟩ := List.exists_of_findSome?_eq_some h
    have hsame : motor.toList.map Char.toLower = t.raw.toList.map Char.toLower := by
      simpa [eqIgnoreAsciiCase] using List.find?_some hfind
    intro c hc
    have hlower : c.toLower ∈ t.raw.toList.map Char.toLower := hsame ▸ List.mem_map_of_mem hc
    obtain ⟨d, hd, heq⟩ := List.mem_map.1 hlower
    rw [← isBlank_toLower, ← heq, isBlank_toLower]
    exact hraw ht hd

/-- Where no routines are known, the name of a routine is one word. -/
private theorem isUnbroken_of_routineCall {c : Command} (hroutines : scene.routines = [])
    (h : routineCall scene (.ofText text) = some (.understood c)) : ∀ name ∈ c.names, IsUnbroken name := by
  obtain ⟨routine, rest, arguments, hcall, hholds, he⟩ := exists_call_of_routineCall h
  obtain rfl := Answer.understood.inj he
  rw [hroutines] at hcall
  have hroutine : IsUnbroken routine := by
    cases hcall with
    | known hname => simp at hname
    | unknown _ _ hname => exact fun c hc => (isKept_of_isName hname c hc).2.2
  have harguments : ∀ n ∈ arguments, n.IsLiteral := by
    clear hcall h
    induction hholds with
    | none => simp
    | next _ _ hn _ _ ih => simpa [hn] using ih
  intro name hname
  rcases List.mem_cons.1 hname with rfl | hname
  · exact hroutine
  · obtain ⟨n, hn, rfl⟩ := List.mem_map.1 hname
    intro c hc
    rw [String.toList_ofList] at hc
    exact (isKept_literal (harguments n hn) hc).2.2

private theorem isUnbroken_of_mem_plainRules {rule : Rule} {c : Command} (hrule : rule ∈ plainRules)
    (h : rule scene (.ofText text) = some (.understood c)) : ∀ name ∈ c.names, IsUnbroken name := by
  have hconstants : ∀ constant ∈ colors.map (String.map Char.toUpper), IsUnbroken constant := by decide +kernel
  have hreadings : ∀ reading ∈ sensorReadings, IsUnbroken reading := by decide
  intro name hname
  rcases mem_names_of_mem_plainRules hrule h name hname with (hcolor | hreading) | hmotor
  · exact hconstants name hcolor
  · exact hreadings name hreading
  · exact isUnbroken_motor? hmotor

/-- Of the names in a command only those of known routines may have blanks. -/
private theorem isUnbroken_of_answerWith {read : String → Answer} {c : Command} (hroutines : scene.routines = [])
    (h : answerWith (some read) scene text = .understood c) (hloop : c.kind ≠ .loop) (htasks : c.kind ≠ .multitask) :
    ∀ name ∈ c.names, IsUnbroken name := by
  rcases answerWith_cases (some read) scene text with ⟨-, he⟩ | ⟨-, rule, hrule, a, ha, he⟩ | ⟨-, -, he⟩
  · simp [he] at h
  · obtain rfl : a = .understood c := he.symm.trans h
    rw [rules_eq, List.mem_cons, List.mem_cons, List.mem_cons] at hrule
    rcases hrule with rfl | rfl | rfl | hplain
    · exact isUnbroken_of_routineCall hroutines ha
    · exact absurd (Option.some.inj (kind?_of_twoTasks ha)) htasks
    · exact absurd (Option.some.inj (kind?_of_loop ha)) hloop
    · exact isUnbroken_of_mem_plainRules hplain ha
  · simp [he] at h

end

/-! ### The command of a phrase -/

section

variable {robot : Robot} {motors : List String} {phrase : String}

/-- The command that a phrase gives to the compound command around it. -/
def phraseCommand? (robot : Robot) (motors : List String) (phrase : String) : Option Command :=
  let a := interpret ⟨robot, motors, []⟩ phrase
  if a.kind? = some .loop ∨ a.kind? = some .multitask then none else a.command?

theorem phraseLines?_eq : phraseLines? robot motors phrase = (phraseCommand? robot motors phrase).map Command.lines := by
  unfold phraseLines? phraseCommand?
  dsimp only
  split <;> rfl

/-- Such a command has no phrases in it, and there are no blanks in its names. -/
theorem isSimple_of_phraseCommand? {c : Command} (h : phraseCommand? robot motors phrase = some c) :
    c.isSimple = true ∧ ∀ name ∈ c.names, IsUnbroken name := by
  unfold phraseCommand? at h
  rw [interpret_eq_answerWith] at h
  dsimp only at h
  split at h
  · simp at h
  · rename_i hcompound
    rw [not_or] at hcompound
    have hanswer := (isRegular_answerWith _ _ phrase).eq_understood h
    rw [hanswer] at hcompound
    have hloop : c.kind ≠ .loop := fun hkind => hcompound.1 (congrArg some hkind)
    have htasks : c.kind ≠ .multitask := fun hkind => hcompound.2 (congrArg some hkind)
    refine ⟨?_, isUnbroken_of_answerWith rfl hanswer hloop htasks⟩
    cases builtBy_of_answerWith hanswer with
    | simple hsimple => exact hsimple
    | loop => exact absurd rfl hloop
    | tasks => exact absurd rfl htasks

theorem feed_not_mem_of_phraseLines? {ls : List String} (h : phraseLines? robot motors phrase = some ls) :
    ∀ l ∈ ls, '\n' ∉ l.toList := by
  rw [phraseLines?_eq] at h
  obtain ⟨c, hc, rfl⟩ := Option.map_eq_some_iff.1 h
  obtain ⟨hsimple, hnames⟩ := isSimple_of_phraseCommand? hc
  apply Command.feed_not_mem_lines hsimple
  intro name hname hfeed
  exact absurd (hnames name hname '\n' hfeed) (by decide)

theorem phraseLines?_ne_nil {ls : List String} (h : phraseLines? robot motors phrase = some ls) : ls ≠ [] := by
  rw [phraseLines?_eq] at h
  obtain ⟨c, hc, rfl⟩ := Option.map_eq_some_iff.1 h
  obtain ⟨line, hlast, -⟩ := Command.hasPlainEnd_of_isSimple (isSimple_of_phraseCommand? hc).1
  intro hnil
  simp [hnil] at hlast

end

end RobotPhrase
