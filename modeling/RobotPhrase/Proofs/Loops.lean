import RobotPhrase.Proofs.CodeLines

/-!
# Loops

The code of a loop is its head and, indented, the code of its phrase or a remark with the phrase (`codeLines_loop`).
The lines of code stay indented; in a remark only the first line of the phrase does (`codeLines_remark`).  A sentence
"repeat n times: phrase" is a loop around what the phrase is on its own (`interpret_repeatSentence`), since the mark
"times:" of the sentence is the first one in it (`loopBody_repeatSentence`).
-/

namespace RobotPhrase

open Text Vocabulary Grammar

/-! ### The lines of a loop -/

/-- The line that opens a loop. -/
def loopHead (count : Int) : String := "for i in range(" ++ toString count ++ "):"

section

variable {robot : Robot} {motors routines : List String} {text : String}

/-- What becomes of a phrase in a compound command. -/
def phraseBlock (robot : Robot) (motors : List String) (phrase : String) : Block :=
  ((phraseLines? robot motors phrase).map Block.code).getD (.remark phrase)

theorem interpret_of_kind?_loop (h : (interpret ⟨robot, motors, routines⟩ text).kind? = some .loop)
    (hunderstood : (interpret ⟨robot, motors, routines⟩ text).isUnderstood = true) :
    ∃ n, (Sentence.ofText text).firstNumeral? = some n ∧
      interpret ⟨robot, motors, routines⟩ text = .understood (.loop (wholeOr n 1)
        (if (loopBody text.toList).isEmpty then none
        else some (phraseBlock robot motors (String.ofList (loopBody text.toList))))) := by
  rw [interpret_eq_answerWith] at h hunderstood ⊢
  rcases loop_cases (loop_of_kind? h) with ha | ⟨n, hn, ha⟩
  · rw [ha] at hunderstood
    simp at hunderstood
  · refine ⟨n, hn, ?_⟩
    rw [blockOf_interpretWithin_zero] at ha
    exact ha

end

theorem codeLines_loop (count : Int) (body : Option Block) :
    codeLines (Command.loop count body).code = (loopHead count).toList :: (loopBodyLines body).flatMap codeLines := by
  have hhead : '\n' ∉ (loopHead count).toList :=
    not_mem_append (not_mem_append (by decide) (Numeral.not_mem_toString (by decide) (by decide) count)) (by decide)
  unfold Command.code
  rw [codeLines_joinLines (by simp [Command.lines]), Command.lines, List.flatMap_cons]
  have hline := codeLines_of_line hhead
  unfold loopHead at hline ⊢
  rw [hline]
  rfl

/-- The lines of a remark: the mark stands in front of the first line of the phrase only. -/
theorem codeLines_remark (phrase : String) :
    ∃ first, codeLines phrase = first :: (codeLines phrase).tail ∧
      (loopBodyLines (some (.remark phrase))).flatMap codeLines =
        ("    # ".toList ++ first) :: ((codeLines phrase).tail ++ ["    pass".toList]) := by
  have hpass : codeLines "    pass" = ["    pass".toList] := codeLines_of_line (by decide)
  obtain ⟨first, hfirst, hlines⟩ := codeLines_append (by decide : '\n' ∉ "    # ".toList) phrase
  refine ⟨first, hfirst, ?_⟩
  rw [loopBodyLines, List.flatMap_cons, hlines, List.flatMap_singleton, hpass]
  rfl

theorem code_loop_code (count : Int) {ls : List String} (hne : ls ≠ []) (hfeed : ∀ l ∈ ls, '\n' ∉ l.toList) :
    (Command.loop count (some (.code ls))).code =
      "for i in range(" ++ toString count ++ "):\n    " ++ String.ofList (indentFeeds (joinLines ls).toList) := by
  have hindent := joinLines_map_indent hne hfeed
  obtain ⟨m, ms, hms⟩ := List.exists_cons_of_ne_nil (mt List.map_eq_nil_iff.1 hne : ls.map indent ≠ [])
  rw [hms] at hindent
  apply String.toList_inj.1
  unfold Command.code
  rw [Command.lines, loopBodyLines, hms, toList_joinLines_cons_cons, hindent]
  simp

theorem code_loop_remark (count : Int) (phrase : String) :
    (Command.loop count (some (.remark phrase))).code =
      "for i in range(" ++ toString count ++ "):\n    # " ++ phrase ++ "\n    pass" := by
  apply String.toList_inj.1
  unfold Command.code
  rw [Command.lines, loopBodyLines, toList_joinLines_cons_cons, toList_joinLines_cons_cons]
  simp [joinLines]

/-! ### Lines that leave a loop -/

/-- A line that begins with four blanks. -/
def IsIndented (line : List Char) : Prop := "    ".toList <+: line

instance (line : List Char) : Decidable (IsIndented line) := inferInstanceAs (Decidable (_ <+: _))

private theorem isIndented_append (cs : List Char) : IsIndented ("    ".toList ++ cs) := List.prefix_append _ _

private theorem isIndented_code {ls : List String} (h : ∀ l ∈ ls, '\n' ∉ l.toList) :
    ∀ line ∈ (loopBodyLines (some (.code ls))).flatMap codeLines, IsIndented line := by
  rw [loopBodyLines, flatMap_codeLines_indent h]
  intro line hline
  obtain ⟨l, -, rfl⟩ := List.mem_map.1 hline
  exact isIndented_append l.toList

private theorem isIndented_remark_iff (phrase : String) :
    (∀ line ∈ (loopBodyLines (some (.remark phrase))).flatMap codeLines, IsIndented line) ↔
      ∀ line ∈ (codeLines phrase).tail, IsIndented line := by
  obtain ⟨first, -, hlines⟩ := codeLines_remark phrase
  have hmark : "    # ".toList = "    ".toList ++ "# ".toList := rfl
  have hfirst : IsIndented ("    # ".toList ++ first) := by
    rw [hmark, List.append_assoc]
    exact isIndented_append _
  have hpass : IsIndented "    pass".toList := by decide
  rw [hlines]
  constructor
  · intro h line hline
    exact h line (List.mem_cons_of_mem _ (List.mem_append_left _ hline))
  · intro h line hline
    rcases List.mem_cons.1 hline with rfl | hline
    · exact hfirst
    · rcases List.mem_append.1 hline with hline | hline
      · exact h line hline
      · obtain rfl := List.mem_singleton.1 hline
        exact hpass

/-- The lines of a loop behind its head are indented, except that a phrase which is kept as a remark keeps its line feeds,
and what follows them is not indented. -/
theorem loop_body_indented_iff (robot : Robot) (motors routines : List String) (text : String)
    (hkind : (interpret ⟨robot, motors, routines⟩ text).kind? = some .loop)
    (hunderstood : (interpret ⟨robot, motors, routines⟩ text).isUnderstood = true) :
    ∃ n code rest, (Sentence.ofText text).firstNumeral? = some n ∧
      (interpret ⟨robot, motors, routines⟩ text).code? = some code ∧
      codeLines code = ("for i in range(" ++ toString (wholeOr n 1) ++ "):").toList :: rest ∧
      ((∀ line ∈ rest, IsIndented line) ↔
        (phraseLines? robot motors (String.ofList (loopBody text.toList)) = none →
          ∀ line ∈ (codeLines (String.ofList (loopBody text.toList))).tail, IsIndented line)) := by
  obtain ⟨n, hn, ha⟩ := interpret_of_kind?_loop hkind hunderstood
  rw [ha]
  refine ⟨n, _, _, hn, rfl, codeLines_loop _ _, ?_⟩
  by_cases hbody : loopBody text.toList = []
  · have hnone : ∀ line ∈ (loopBodyLines none).flatMap codeLines, IsIndented line := by decide
    rw [if_pos (List.isEmpty_iff.2 hbody), hbody]
    refine iff_of_true hnone fun _ line hline => ?_
    simp [codeLines, pieces] at hline
  · rw [if_neg (mt List.isEmpty_iff.1 hbody)]
    generalize String.ofList (loopBody text.toList) = phrase
    unfold phraseBlock
    cases hlines : phraseLines? robot motors phrase with
    | some ls => exact iff_of_true (isIndented_code (feed_not_mem_of_phraseLines? hlines)) (by simp)
    | none => exact (isIndented_remark_iff phrase).trans ⟨fun h _ => h, fun h => h rfl⟩

theorem loop_body_indented_follow_line :
    (interpret ⟨{}, [], []⟩ "repeat 3 times: follow the line").kind? = some .loop ∧
      ∃ code rest, (interpret ⟨{}, [], []⟩ "repeat 3 times: follow the line").code? = some code ∧
        codeLines code = "for i in range(3):".toList :: rest ∧ ∀ line ∈ rest, IsIndented line := by
  have hanswer : interpret ⟨{}, [], []⟩ "repeat 3 times: follow the line" =
      .understood (.loop 3 (some (.code (Command.followLine .never).lines))) := by decide +kernel
  have hkind : (interpret ⟨{}, [], []⟩ "repeat 3 times: follow the line").kind? = some .loop := by
    rw [hanswer]
    rfl
  have hunderstood : (interpret ⟨{}, [], []⟩ "repeat 3 times: follow the line").isUnderstood = true := by
    rw [hanswer]
    rfl
  have hcount : (Sentence.ofText "repeat 3 times: follow the line").firstNumeral? = some ⟨false, ['3'], []⟩ := by
    decide +kernel
  have hthree : wholeOr ⟨false, ['3'], []⟩ 1 = 3 := by decide +kernel
  have hphrase : (phraseLines? {} [] (String.ofList (loopBody "repeat 3 times: follow the line".toList))).isSome = true := by
    decide +kernel
  obtain ⟨n, code, rest, hn, hcode, hlines, hiff⟩ :=
    loop_body_indented_iff {} [] [] "repeat 3 times: follow the line" hkind hunderstood
  obtain rfl := Option.some.inj (hcount.symm.trans hn)
  rw [hthree] at hlines
  refine ⟨hkind, code, rest, hcode, hlines, hiff.2 fun hnone => ?_⟩
  rw [hnone] at hphrase
  simp at hphrase

theorem not_loop_body_indented_beep :
    (interpret ⟨{}, [], []⟩ "repeat 2 times: beep\nbeep").kind? = some .loop ∧
      (interpret ⟨{}, [], []⟩ "repeat 2 times: beep\nbeep").code? =
        some "for i in range(2):\n    # beep\nbeep\n    pass" ∧
      "beep".toList ∈ (codeLines "for i in range(2):\n    # beep\nbeep\n    pass").tail ∧ ¬ IsIndented "beep".toList := by
  have hanswer : interpret ⟨{}, [], []⟩ "repeat 2 times: beep\nbeep" =
      .understood (.loop 2 (some (.remark "beep\nbeep"))) := by decide +kernel
  rw [hanswer]
  exact ⟨rfl, by decide +kernel, by decide +kernel, by decide⟩

/-! ### A sentence that repeats a phrase -/

/-- "repeat n times: phrase". -/
def repeatSentence (digits : List Char) (phrase : String) : String :=
  "repeat" ++ " " ++ (String.ofList digits ++ " " ++ ("times:" ++ " " ++ phrase))

theorem bodyOffset?_of_cut {lowered source before rest : List Char}
    (h : cut "times:".toList lowered = some (before, rest)) :
    bodyOffset? lowered source = some (byteSize before + byteSize "times:".toList) := by
  unfold bodyOffset? offsetAfter?
  rw [h]
  rfl

section

variable {digits : List Char} {phrase : String}

private theorem toList_repeatSentence : (repeatSentence digits phrase).toList =
    "repeat".toList ++ ' ' :: (digits ++ ' ' :: ("times:".toList ++ ' ' :: phrase.toList)) := by
  simp [repeatSentence]

private theorem lower_repeatSentence (hdigits : ∀ c ∈ digits, c.isDigit = true) :
    lower (repeatSentence digits phrase).toList =
      "repeat".toList ++ ' ' :: (digits ++ ' ' :: ("times:".toList ++ ' ' :: lower phrase.toList)) := by
  have hrepeat : lower "repeat".toList = "repeat".toList := by decide
  have htimes : lower "times:".toList = "times:".toList := by decide
  have hnumber : lower digits = digits := lower_eq_self fun c hc => (isKept_digit (hdigits c hc)).1
  rw [toList_repeatSentence, lower_append_blank, lower_append_blank, lower_append_blank, hrepeat, htimes, hnumber]

private theorem loopBody_repeatSentence (hdigits : ∀ c ∈ digits, c.isDigit = true) (hascii : IsAscii phrase.toList) :
    loopBody (repeatSentence digits phrase).toList = trim phrase.toList := by
  have hlower : lower (repeatSentence digits phrase).toList = _ := lower_repeatSentence hdigits
  have hsize : byteSize (lower (repeatSentence digits phrase).toList) = byteSize (repeatSentence digits phrase).toList := by
    have hphrase : byteSize (lower phrase.toList) = byteSize phrase.toList := by
      rw [lower_eq_map hascii, byteSize_map_toLower]
    rw [hlower, toList_repeatSentence]
    simp only [byteSize_append, byteSize, hphrase]
  -- Neither the verb nor the number has a part of the mark, so it is found in front of the phrase.
  have hcut : cut "times:".toList (lower (repeatSentence digits phrase).toList) =
      some ("repeat".toList ++ ' ' :: (digits ++ [' ']), ' ' :: lower phrase.toList) := by
    have hverb : ¬ "times:".toList <:+: "repeat".toList := fun h => absurd (h.subset (by decide : ':' ∈ _)) (by decide)
    have hnumber : ¬ "times:".toList <:+: digits := by
      intro h
      exact absurd (hdigits ':' (h.subset (by decide))) (by decide)
    rw [hlower, cut_append_cons (by decide) hverb, cut_append_cons (by decide) hnumber, cut_append_self (by decide)]
    rfl
  have hdrop : dropBytes? (byteSize ("repeat".toList ++ ' ' :: (digits ++ [' '])) + byteSize "times:".toList)
      (repeatSentence digits phrase).toList = some (' ' :: phrase.toList) := by
    have hfront : (repeatSentence digits phrase).toList =
        ("repeat".toList ++ ' ' :: (digits ++ [' ']) ++ "times:".toList) ++ ' ' :: phrase.toList := by
      simp [toList_repeatSentence]
    rw [← byteSize_append, hfront, dropBytes?_append]
  unfold loopBody
  simp only [hsize, if_true, bodyOffset?_of_cut hcut, hdrop, Option.getD_some]
  have hblank : AllBlank [' '] := by simp [AllBlank]; decide
  have hnone : AllBlank [] := by simp [AllBlank]
  simpa using trim_around hblank hnone phrase.toList

private theorem tokenize_repeatSentence (hne : digits ≠ []) (hdigits : ∀ c ∈ digits, c.isDigit = true) :
    tokenize (repeatSentence digits phrase) =
      .word .repetition "repeat" (some "repeat") :: .number ⟨false, digits, []⟩ :: tokenize ("times:" ++ " " ++ phrase) := by
  have hliteral : (Numeral.mk false digits []).IsLiteral := ⟨hne, hdigits, by simp⟩
  have hrepeat : tokenize "repeat" = [.word .repetition "repeat" (some "repeat")] := by decide +kernel
  have hnumber : tokenize (String.ofList digits) = [.number ⟨false, digits, []⟩] := by
    simpa [Numeral.text] using tokenize_literal hliteral
  unfold repeatSentence
  rw [tokenize_append_blank, tokenize_append_blank, hrepeat, hnumber, List.singleton_append, List.singleton_append]

/-- The verb of such a sentence opens no call. -/
private theorem routineCall_repeatSentence (hdigits : ∀ c ∈ digits, c.isDigit = true) (robot : Robot)
    (motors : List String) : routineCall ⟨robot, motors, []⟩ (.ofText (repeatSentence digits phrase)) = none := by
  obtain ⟨before, after, hbefore, hafter, htrim⟩ := exists_append_trim_append (repeatSentence digits phrase).toList
  have hfront : before = [] := by
    cases before with
    | nil => rfl
    | cons b before =>
      have hfirst : b = 'r' := by
        have hchars : "repeat".toList = 'r' :: "epeat".toList := rfl
        rw [toList_repeatSentence, hchars] at htrim
        exact (List.cons.inj htrim).1.symm
      exact absurd (hbefore b (by simp)) (by rw [hfirst]; decide)
  have hprefix : lower (trim (repeatSentence digits phrase).toList) <+: lower (repeatSentence digits phrase).toList := by
    conv => rhs; rw [htrim]
    rw [lower_around hbefore hafter, hfront, List.nil_append]
    exact List.prefix_append _ _
  have hopening : afterOpening? (lower (trim (repeatSentence digits phrase).toList)) = none := by
    have hdiffer : ∀ opening ∈ callOpenings, ¬ opening.toList.take 2 <+: "repeat".toList := by decide
    rw [afterOpening?, List.findSome?_eq_none_iff]
    intro opening hmem
    cases hafter : after? opening.toList (lower (trim (repeatSentence digits phrase).toList)) with
    | none => rfl
    | some rest =>
      have hbegins : opening.toList <+: lower (repeatSentence digits phrase).toList :=
        List.IsPrefix.trans ⟨rest, (after?_eq_some_iff.1 hafter).symm⟩ hprefix
      obtain ⟨more, hmore⟩ : "repeat".toList <+: lower (repeatSentence digits phrase).toList := by
        rw [lower_repeatSentence hdigits]
        exact List.prefix_append _ _
      have hshort : (opening.toList.take 2).length ≤ "repeat".toList.length :=
        Nat.le_trans (List.length_take_le 2 _) (by decide)
      exact absurd (List.prefix_of_prefix_length_le ((List.take_prefix 2 _).trans hbegins) ⟨more, hmore⟩ hshort)
        (hdiffer opening hmem)
  simp [routineCall, knownCall?, unknownCall?, Sentence.ofText, hopening]

/-- A sentence that repeats a phrase is a loop around the phrase without the blanks around it. -/
theorem interpret_repeatSentence (robot : Robot) (motors : List String) (hne : digits ≠ [])
    (hdigits : ∀ c ∈ digits, c.isDigit = true) (hascii : IsAscii phrase.toList) (hphrase : ¬ AllBlank phrase.toList)
    (hsingle : halves? (lower (repeatSentence digits phrase).toList) = none) :
    interpret ⟨robot, motors, []⟩ (repeatSentence digits phrase) =
      .understood (.loop (wholeOr ⟨false, digits, []⟩ 1) (some (phraseBlock robot motors (trimmed phrase)))) := by
  have htokens : tokenize (repeatSentence digits phrase) = _ := tokenize_repeatSentence hne hdigits
  have htasks (inner : Option (String → Answer)) :
      twoTasks inner ⟨robot, motors, []⟩ (.ofText (repeatSentence digits phrase)) = none := by
    simp [twoTasks, Sentence.ofText, hsingle]
  have hbody : loopBody (Sentence.ofText (repeatSentence digits phrase)).text.toList = trim phrase.toList :=
    loopBody_repeatSentence hdigits hascii
  have hempty : (trim phrase.toList).isEmpty = false := by
    rw [← Bool.not_eq_true, List.isEmpty_iff, trim_eq_nil_iff]
    exact hphrase
  have hloop : loop (some (interpretWithin 0 ⟨robot, motors, []⟩)) ⟨robot, motors, []⟩
      (.ofText (repeatSentence digits phrase)) =
        some (.understood (.loop (wholeOr ⟨false, digits, []⟩ 1) (some (phraseBlock robot motors (trimmed phrase))))) := by
    have hhas : (Sentence.ofText (repeatSentence digits phrase)).has .repetition = true := by
      simp [Sentence.has, Sentence.ofText, htokens, Token.is]
    have hcount : (Sentence.ofText (repeatSentence digits phrase)).firstNumeral? = some ⟨false, digits, []⟩ := by
      simp [Sentence.firstNumeral?, Sentence.numerals, Sentence.ofText, htokens]
    unfold loop
    simp only [hhas, if_true, hcount, hbody, hempty, Bool.false_eq_true, if_false, blockOf_interpretWithin_zero]
    rfl
  rw [interpret_eq_answerWith, answerWith_eq, if_neg (by simp [htokens]), routineCall_repeatSentence hdigits, htasks, hloop]
  rfl

end

/-- A sentence that repeats a phrase gives a loop around the code that the phrase has on its own, or around a remark with
the phrase as it was typed. -/
theorem interpret_repeat (robot : Robot) (motors : List String) (digits : List Char) (phrase : String)
    (hne : digits ≠ []) (hdigits : ∀ c ∈ digits, c.isDigit = true) (hascii : IsAscii phrase.toList)
    (hphrase : ¬ AllBlank phrase.toList)
    (hsingle : halves? (lower ("repeat " ++ String.ofList digits ++ " times: " ++ phrase).toList) = none) :
    let a := interpret ⟨robot, motors, []⟩ ("repeat " ++ String.ofList digits ++ " times: " ++ phrase)
    let body := interpret ⟨robot, motors, []⟩ (trimmed phrase)
    let value := Numeral.value ⟨false, digits, []⟩
    let count := if value == 0 then 1 else truncate value
    a.status = .parsed ∧ a.kind? = some .loop ∧
      (∀ code, body.code? = some code → body.kind? ≠ some .loop → body.kind? ≠ some .multitask →
        a.code? = some ("for i in range(" ++ toString count ++ "):\n    " ++ String.ofList (indentFeeds code.toList)) ∧
          a.confidence = ⟨90⟩) ∧
      (body.code? = none ∨ body.kind? = some .loop ∨ body.kind? = some .multitask →
        a.code? = some ("for i in range(" ++ toString count ++ "):\n    # " ++ trimmed phrase ++ "\n    pass") ∧
          a.confidence = ⟨75⟩) := by
  have hsentence : "repeat " ++ String.ofList digits ++ " times: " ++ phrase = repeatSentence digits phrase := by
    apply String.toList_inj.1
    simp [toList_repeatSentence]
  rw [hsentence] at hsingle ⊢
  rw [interpret_repeatSentence robot motors hne hdigits hascii hphrase hsingle]
  intro a body value count
  refine ⟨rfl, rfl, ?_, ?_⟩
  · intro code hcode hloop htasks
    obtain ⟨c, hc, rfl⟩ := Option.map_eq_some_iff.1 hcode
    have hlines : phraseLines? robot motors (trimmed phrase) = some c.lines := by
      unfold phraseLines?
      rw [if_neg (not_or.2 ⟨hloop, htasks⟩), hc]
      rfl
    unfold a phraseBlock
    rw [hlines]
    refine ⟨congrArg some ?_, rfl⟩
    exact code_loop_code _ (phraseLines?_ne_nil hlines) (feed_not_mem_of_phraseLines? hlines)
  · intro hnone
    have hlines : phraseLines? robot motors (trimmed phrase) = none := by
      unfold phraseLines?
      dsimp only
      split
      · rfl
      · rename_i hplain
        exact Option.map_eq_none_iff.2 (Option.map_eq_none_iff.1 (hnone.resolve_right hplain))
    unfold a phraseBlock
    rw [hlines]
    exact ⟨congrArg some (code_loop_remark _ _), rfl⟩

theorem interpret_repeat_wait_until :
    (interpret ⟨{}, [], []⟩ "repeat 03 times: Wait until Light below 40 ").code? =
        some "for i in range(3):\n    while color_sensor.reflection() >= 40:\n        wait(10)" ∧
      (interpret ⟨{}, [], []⟩ "repeat 0 times:  Do 5 times: Go").code? =
        some "for i in range(1):\n    # Do 5 times: Go\n    pass" := by
  constructor
  · have hbody : interpret ⟨{}, [], []⟩ (trimmed "Wait until Light below 40 ") =
        .understood (.watch (.reading "color_sensor.reflection()" .atLeast 40) none) := by decide +kernel
    have hphrase : ¬ AllBlank "Wait until Light below 40 ".toList := fun h => absurd (h 'W' (by decide)) (by decide)
    have hdigits : ∀ c ∈ ['0', '3'], c.isDigit = true := List.all_eq_true.1 (by decide)
    have hrepeat := (interpret_repeat {} [] ['0', '3'] "Wait until Light below 40 " (by decide) hdigits (by decide)
      hphrase (by decide +kernel)).2.2.1
    rw [hbody] at hrepeat
    exact (hrepeat _ rfl (by decide) (by decide)).1.trans (by decide +kernel)
  · have hbody : (interpret ⟨{}, [], []⟩ (trimmed " Do 5 times: Go")).kind? = some .loop := by decide +kernel
    have hphrase : ¬ AllBlank " Do 5 times: Go".toList := fun h => absurd (h 'D' (by decide)) (by decide)
    have hdigits : ∀ c ∈ ['0'], c.isDigit = true := List.all_eq_true.1 (by decide)
    exact ((interpret_repeat {} [] ['0'] " Do 5 times: Go" (by decide) hdigits (by decide)
      hphrase (by decide +kernel)).2.2.2 (.inr (.inl hbody))).1.trans (by decide +kernel)

end RobotPhrase
