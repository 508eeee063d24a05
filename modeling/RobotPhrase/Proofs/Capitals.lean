import RobotPhrase.Proofs.CaseFolding
import RobotPhrase.Proofs.Nesting

/-!
# Capital letters

Sentences of ASCII characters that differ in capitals only get the same answer, except for the words of a remark.  All
rules but one look at a sentence in lowercase.  The rule for loops goes back to the sentence as it was typed to find the
phrase it repeats; the offset it uses is the same for both sentences, so the two phrases again differ in capitals only
(`SameLetters.loopBody`).  Inside a loop no rule looks at capitals at all (`SameLetters.interpretWithin_zero`), hence
the phrases have the same code, and only a phrase that is kept as a remark shows its capitals
(`SameLetters.interpret_cases`).
-/

namespace RobotPhrase

open Text Grammar

/-! ### One letter -/

namespace Text

/-- The characters of the marks in front of the body of a loop that are no letters. -/
private def plainMarks : List Char := [':', ' ']

private theorem eq_toLower_iff {m : Char} (hm : m ∈ plainMarks) (c : Char) : m = c.toLower ↔ m = c := by
  rcases toLower_cases c with h | h
  · rw [h]
  · have hletters : c.toLower ∉ plainMarks ∧ c ∉ plainMarks :=
      of_codes (p := fun c => c.toLower ∉ plainMarks ∧ c ∉ plainMarks) (by decide) h.1 h.2
    exact iff_of_false (fun he => hletters.1 (he ▸ hm)) (fun he => hletters.2 (he ▸ hm))

/-! ### Texts -/

private theorem dropBytes?_getD {cs : List Char} (h : IsAscii cs) (n : Nat) :
    (dropBytes? n cs).getD [] = cs.drop n := by
  induction cs generalizing n with
  | nil => cases n <;> rfl
  | cons c cs ih =>
    cases n with
    | zero => rfl
    | succ n =>
      have hsmall : c.toNat < 128 := h c (by simp)
      have hsize : c.utf8Size = 1 := by
        rw [Char.utf8Size_eq_one_iff, UInt32.le_iff_toNat_le]
        exact Nat.le_of_lt_succ hsmall
      have ih' := ih (fun d hd => h d (by simp [hd])) n
      simpa [dropBytes?, hsize] using ih'

end Text

/-! ### Sentences with the same letters -/

/-- Two texts of ASCII characters that differ in capitals only. -/
structure SameLetters (cs ds : List Char) : Prop where
  left : IsAscii cs
  right : IsAscii ds
  lower_eq : lower cs = lower ds

namespace SameLetters

section

variable {cs ds : List Char}

theorem map_toLower (h : SameLetters cs ds) : cs.map Char.toLower = ds.map Char.toLower := by
  rw [← lower_eq_map h.left, ← lower_eq_map h.right, h.lower_eq]

theorem of_map_toLower (hcs : IsAscii cs) (hds : IsAscii ds) (h : cs.map Char.toLower = ds.map Char.toLower) :
    SameLetters cs ds :=
  ⟨hcs, hds, by rw [lower_eq_map hcs, lower_eq_map hds, h]⟩

theorem isEmpty_eq (h : SameLetters cs ds) : cs.isEmpty = ds.isEmpty := by
  rw [← List.isEmpty_map (f := Char.toLower), h.map_toLower, List.isEmpty_map]

theorem drop (h : SameLetters cs ds) (n : Nat) : SameLetters (cs.drop n) (ds.drop n) := by
  refine of_map_toLower (fun c hc => h.left c (List.mem_of_mem_drop hc))
    (fun c hc => h.right c (List.mem_of_mem_drop hc)) ?_
  rw [List.map_drop, List.map_drop, h.map_toLower]

theorem trim (h : SameLetters cs ds) : SameLetters (Text.trim cs) (Text.trim ds) := by
  have hmem {es : List Char} (hes : IsAscii es) : IsAscii (Text.trim es) := by
    obtain ⟨before, after, -, -, htrim⟩ := exists_append_trim_append es
    intro c hc
    apply hes
    rw [htrim]
    simp [hc]
  refine of_map_toLower (hmem h.left) (hmem h.right) ?_
  rw [← trim_map isBlank_toLower, ← trim_map isBlank_toLower, h.map_toLower]

end

/-- The body of a loop is found at the same place in both texts. -/
private theorem loopBody_eq {cs : List Char} (h : IsAscii cs) :
    Grammar.loopBody cs =
      match bodyOffset? (cs.map Char.toLower) (cs.map Char.toLower) with
      | some n => Text.trim (cs.drop n)
      | none => [] := by
  have hoffset (mark : List Char) (hmark : ∀ m ∈ mark, m ∈ plainMarks) :
      offsetAfter? mark (cs.map Char.toLower) = offsetAfter? mark cs := by
    unfold offsetAfter?
    rw [cut_map fun m hm => eq_toLower_iff (hmark m hm)]
    cases cut mark cs with
    | none => rfl
    | some p => simp [byteSize_map_toLower]
  have hbody : bodyOffset? (cs.map Char.toLower) cs = bodyOffset? (cs.map Char.toLower) (cs.map Char.toLower) := by
    unfold bodyOffset?
    rw [hoffset ": ".toList (by simp [plainMarks]), hoffset ":".toList (by simp [plainMarks])]
  unfold Grammar.loopBody
  simp only [lower_eq_map h, byteSize_map_toLower, if_true, hbody]
  cases bodyOffset? (cs.map Char.toLower) (cs.map Char.toLower) with
  | none => rfl
  | some n => simp only [dropBytes?_getD h]

theorem loopBody {cs ds : List Char} (h : SameLetters cs ds) :
    SameLetters (Grammar.loopBody cs) (Grammar.loopBody ds) := by
  rw [loopBody_eq h.left, loopBody_eq h.right, h.map_toLower]
  split
  · exact (h.drop _).trim
  · exact ⟨by simp [IsAscii], by simp [IsAscii], rfl⟩

/-! ### What the rules see -/

section

variable {scene : Scene} {x y : String}

theorem tokenize_eq (h : SameLetters x.toList y.toList) : tokenize x = tokenize y := by
  unfold tokenize sentenceWords
  rw [h.lower_eq]

theorem has_eq (h : SameLetters x.toList y.toList) (kind : WordClass) :
    (Sentence.ofText x).has kind = (Sentence.ofText y).has kind := by
  simp only [Sentence.has, Sentence.ofText, h.tokenize_eq]

theorem firstNumeral?_eq (h : SameLetters x.toList y.toList) :
    (Sentence.ofText x).firstNumeral? = (Sentence.ofText y).firstNumeral? := by
  simp only [Sentence.firstNumeral?, Sentence.numerals, Sentence.ofText, h.tokenize_eq]

theorem routineCall_eq (h : SameLetters x.toList y.toList) :
    routineCall scene (.ofText x) = routineCall scene (.ofText y) :=
  routineCall_eq_of_tokens h.tokenize_eq h.trim.lower_eq

theorem twoTasks_eq (h : SameLetters x.toList y.toList) (inner : Option (String → Answer)) :
    twoTasks inner scene (.ofText x) = twoTasks inner scene (.ofText y) := by
  simp only [twoTasks, Sentence.ofText, h.lower_eq]

theorem plainAnswer?_eq (h : SameLetters x.toList y.toList) :
    plainAnswer? scene (.ofText x) = plainAnswer? scene (.ofText y) :=
  plainAnswer?_eq_of_tokens h.tokenize_eq

/-- Where no loop is allowed, capitals make no difference at all. -/
theorem interpretWithin_zero (h : SameLetters x.toList y.toList) :
    interpretWithin 0 scene x = interpretWithin 0 scene y := by
  have hloop : loop none scene (.ofText x) = loop none scene (.ofText y) := by
    unfold loop
    rw [h.has_eq]
  show answerWith none scene x = answerWith none scene y
  rw [answerWith_eq, answerWith_eq, h.tokenize_eq, h.routineCall_eq, h.twoTasks_eq, hloop, h.plainAnswer?_eq]

/-- What a phrase becomes in the body of a loop; an empty phrase is none. -/
private def bodyBlock? (read : String → Answer) (phrase : List Char) : Option Block :=
  if phrase.isEmpty then none else some (blockOf read (String.ofList phrase))

private theorem loop_some_eq (read : String → Answer) (scene : Scene) (s : Sentence) :
    loop (some read) scene s =
      if s.has .repetition then
        some (match s.firstNumeral? with
          | none => .ask .loopCount
          | some n => .understood (.loop (wholeOr n 1) (bodyBlock? read (Grammar.loopBody s.text.toList))))
      else none := by
  unfold loop
  cases s.firstNumeral? <;> rfl

private theorem bodyBlock?_cases {read : String → Answer}
    (hread : ∀ p q : String, SameLetters p.toList q.toList → read p = read q) {p q : List Char} (h : SameLetters p q) :
    bodyBlock? read p = bodyBlock? read q ∨
      (bodyBlock? read p = some (.remark (String.ofList p)) ∧
        bodyBlock? read q = some (.remark (String.ofList q))) := by
  have hphrase : read (String.ofList p) = read (String.ofList q) := hread _ _ (by simpa using h)
  unfold bodyBlock? blockOf
  rw [h.isEmpty_eq, hphrase]
  cases q.isEmpty with
  | true => exact .inl rfl
  | false =>
    -- a phrase that is understood leaves its words behind
    cases (read (String.ofList q)).command? with
    | none => exact .inr ⟨rfl, rfl⟩
    | some c => exact .inl rfl

/-- Loops are the same up to capitals in a remark. -/
private theorem loop_cases (scene : Scene) {read : String → Answer}
    (hread : ∀ p q : String, SameLetters p.toList q.toList → read p = read q) (h : SameLetters x.toList y.toList) :
    loop (some read) scene (.ofText x) = loop (some read) scene (.ofText y) ∨
      ∃ count p q, loop (some read) scene (.ofText x) = some (.understood (.loop count (some (.remark p)))) ∧
        loop (some read) scene (.ofText y) = some (.understood (.loop count (some (.remark q)))) ∧
        SameLetters p.toList q.toList := by
  have hbody : SameLetters (Grammar.loopBody (Sentence.ofText x).text.toList)
      (Grammar.loopBody (Sentence.ofText y).text.toList) := h.loopBody
  rw [loop_some_eq, loop_some_eq, h.has_eq, h.firstNumeral?_eq]
  by_cases hloop : (Sentence.ofText y).has .repetition = true
  · rw [if_pos hloop, if_pos hloop]
    cases (Sentence.ofText y).firstNumeral? with
    | none => exact .inl rfl
    | some n =>
      rcases bodyBlock?_cases hread hbody with hblock | ⟨hp, hq⟩
      · simp only [hblock]
        exact .inl trivial
      · simp only [hp, hq]
        exact .inr ⟨_, _, _, rfl, rfl, by simpa using hbody⟩
  · rw [if_neg hloop, if_neg hloop]
    exact .inl rfl

/-- Sentences that differ in capitals only get the same answer, or are loops around remarks that differ in capitals
only. -/
theorem interpret_cases (scene : Scene) (h : SameLetters x.toList y.toList) :
    interpret scene x = interpret scene y ∨
      ∃ count p q, interpret scene x = .understood (.loop count (some (.remark p))) ∧
        interpret scene y = .understood (.loop count (some (.remark q))) ∧ SameLetters p.toList q.toList := by
  have hread : ∀ p q : String, SameLetters p.toList q.toList →
      interpretWithin 0 { scene with routines := [] } p = interpretWithin 0 { scene with routines := [] } q :=
    fun p q hpq => hpq.interpretWithin_zero
  rw [interpret_eq_answerWith, interpret_eq_answerWith]
  generalize interpretWithin 0 { scene with routines := [] } = read at hread ⊢
  rw [answerWith_eq, answerWith_eq, h.tokenize_eq, h.routineCall_eq, h.twoTasks_eq, h.plainAnswer?_eq]
  by_cases hempty : tokenize y = []
  · rw [if_pos hempty, if_pos hempty]
    exact .inl rfl
  rw [if_neg hempty, if_neg hempty]
  -- the rule for loops has its turn only if the two before it decline
  cases routineCall scene (.ofText y) with
  | some a => exact .inl (by simp only [Option.some_or])
  | none =>
    cases twoTasks (some read) scene (.ofText y) with
    | some a => exact .inl (by simp only [Option.none_or, Option.some_or])
    | none =>
      rcases loop_cases scene hread h with hloop | ⟨count, p, q, hx, hy, hpq⟩
      · rw [hloop]
        exact .inl rfl
      · rw [hx, hy]
        exact .inr ⟨count, p, q, rfl, rfl, hpq⟩

end

end SameLetters

/-! ### Answers -/

private theorem lowercase_code_remark (count : Int) {p q : String} (h : SameLetters p.toList q.toList) :
    lowercase (Command.loop count (some (.remark p))).code =
      lowercase (Command.loop count (some (.remark q))).code := by
  have hcode (phrase : String) : (Command.loop count (some (.remark phrase))).code.toList =
      ("for i in range(" ++ toString count ++ "):").toList ++ '\n' ::
        (("    #".toList ++ ' ' :: phrase.toList) ++ '\n' :: "    pass".toList) := by
    unfold Command.code Command.lines loopBodyLines
    rw [toList_joinLines_cons_cons, toList_joinLines_cons_cons]
    simp [joinLines]
  -- the phrase stands between blanks, and lowercasing does not look past them
  have hlower (phrase : String) : lower (Command.loop count (some (.remark phrase))).code.toList =
      lower ("for i in range(" ++ toString count ++ "):").toList ++ '\n' ::
        ((lower "    #".toList ++ ' ' :: lower phrase.toList) ++ '\n' :: lower "    pass".toList) := by
    rw [hcode, lower_append_cons (by decide), lower_append_cons (by decide), lower_append_blank]
  unfold lowercase
  rw [hlower, hlower, h.lower_eq]

/-- Sentences of ASCII characters that are equal in lowercase get the same answer.  Only the code of a loop around a
phrase that is not understood may differ, and it is equal in lowercase. -/
theorem interpret_ignores_capitals (scene : Scene) (x y : String) (hx : IsAscii x.toList) (hy : IsAscii y.toList)
    (h : lowercase x = lowercase y) :
    (interpret scene x).status = (interpret scene y).status ∧
      (interpret scene x).kind? = (interpret scene y).kind? ∧
      (interpret scene x).confidence = (interpret scene y).confidence ∧
      (interpret scene x).needsModel = (interpret scene y).needsModel ∧
      (interpret scene x).clarification? = (interpret scene y).clarification? ∧
      (interpret scene x).errorMessage? = (interpret scene y).errorMessage? ∧
      if (interpret scene x).kind? = some .loop ∧ (interpret scene x).confidence = ⟨75⟩ then
        (interpret scene x).code?.map lowercase = (interpret scene y).code?.map lowercase
      else (interpret scene x).code? = (interpret scene y).code? := by
  have hletters : SameLetters x.toList y.toList := ⟨hx, hy, String.ofList_injective h⟩
  rcases hletters.interpret_cases scene with heq | ⟨count, p, q, hp, hq, hpq⟩
  · rw [heq]
    simp
  · rw [hp, hq]
    have hcode := lowercase_code_remark count hpq
    simp [Answer.clarification?, Answer.errorMessage?, Answer.code?, Command.kind, Command.confidence,
      Command.needsModel, hcode]

/-- The remark keeps its capital. -/
theorem interpret_do_hi :
    IsAscii "Do 2: Hi".toList ∧ IsAscii "do 2: hi".toList ∧ lowercase "Do 2: Hi" = lowercase "do 2: hi" ∧
      (interpret ⟨{ }, [], []⟩ "Do 2: Hi").confidence = ⟨75⟩ ∧
      (interpret ⟨{ }, [], []⟩ "Do 2: Hi").code? = some "for i in range(2):\n    # Hi\n    pass" ∧
      (interpret ⟨{ }, [], []⟩ "Do 2: Hi").code?.map lowercase =
        (interpret ⟨{ }, [], []⟩ "do 2: hi").code?.map lowercase := by
  have hx : IsAscii "Do 2: Hi".toList := by decide
  have hy : IsAscii "do 2: hi".toList := by decide
  have hlower : lowercase "Do 2: Hi" = lowercase "do 2: hi" := by decide
  have hanswer : interpret ⟨{ }, [], []⟩ "Do 2: Hi" = .understood (.loop 2 (some (.remark "Hi"))) := by
    decide +kernel
  obtain ⟨-, -, -, -, -, -, hcode⟩ := interpret_ignores_capitals ⟨{ }, [], []⟩ _ _ hx hy hlower
  rw [hanswer] at hcode ⊢
  rw [if_pos ⟨rfl, rfl⟩] at hcode
  exact ⟨hx, hy, hlower, rfl, by decide, hcode⟩

end RobotPhrase
