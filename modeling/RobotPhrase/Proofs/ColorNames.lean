import RobotPhrase.Interpreter
import RobotPhrase.Proofs.Lexicon
import RobotPhrase.Proofs.Search
import RobotPhrase.Proofs.Sensing

/-!
# Colours in programs

A program that waits for a colour names one constant, the colour of the sentence in capitals, and no other program of
the rule for sensors names any (`colorsNamed_of_watch`).  A colour that is spelled as listed has a constant; "grey" is
spelled "gray" for that.  A misspelled colour becomes the nearest one of the list as it stands there, and so a word that
is nearest to "grey" gives a constant that does not exist.
-/

namespace RobotPhrase

open Vocabulary Text Grammar

/-! ### The constants that a text names -/

/-- What a constant of a colour begins with. -/
def colorMark : List Char := ['C', 'o', 'l', 'o', 'r', '.']

def isNameCharacter (c : Char) : Bool := c.isAlphanum || c == '_'

/-- The constants of colours that a text names, from left to right. -/
def colorsNamed : List Char → List String
  | [] => []
  | c :: cs =>
    match after? colorMark (c :: cs) with
    | some rest => String.ofList (rest.takeWhile isNameCharacter) :: colorsNamed cs
    | none => colorsNamed cs

/-- The constants that there are. -/
def colorConstants : List String :=
  ["RED", "ORANGE", "YELLOW", "GREEN", "CYAN", "BLUE", "VIOLET", "MAGENTA", "WHITE", "GRAY", "BLACK", "NONE"]

private theorem colorsNamed_cons_of_none {c : Char} {cs : List Char} (h : after? colorMark (c :: cs) = none) :
    colorsNamed (c :: cs) = colorsNamed cs := by
  rw [colorsNamed, h]

private theorem colorsNamed_cons_of_some {c : Char} {cs rest : List Char} (h : after? colorMark (c :: cs) = some rest) :
    colorsNamed (c :: cs) = String.ofList (rest.takeWhile isNameCharacter) :: colorsNamed cs := by
  rw [colorsNamed, h]

/-- No name reaches across a character that is part neither of names nor of the mark. -/
theorem colorsNamed_append_cons {c : Char} (hc : c ∉ colorMark) (hname : isNameCharacter c = false) (a b : List Char) :
    colorsNamed (a ++ c :: b) = colorsNamed a ++ colorsNamed b := by
  induction a with
  | nil => exact colorsNamed_cons_of_none (after?_append_cons hc [] b)
  | cons x a ih =>
    have hafter := after?_append_cons hc (x :: a) b
    rw [List.cons_append] at hafter ⊢
    cases hx : after? colorMark (x :: a) with
    | none =>
      rw [hx, Option.map_none] at hafter
      rw [colorsNamed_cons_of_none hafter, colorsNamed_cons_of_none hx, ih]
    | some rest =>
      rw [hx, Option.map_some] at hafter
      have htake : (rest ++ c :: b).takeWhile isNameCharacter = rest.takeWhile isNameCharacter := by
        rw [List.takeWhile_append, List.takeWhile_cons_of_neg (by simp [hname]), List.append_nil]
        split
        · rename_i hall
          exact ((List.takeWhile_prefix isNameCharacter).eq_of_length hall).symm
        · rfl
      rw [colorsNamed_cons_of_some hafter, colorsNamed_cons_of_some hx, htake, ih]
      rfl

theorem colorsNamed_of_not_mem {cs : List Char} (h : 'C' ∉ cs) : colorsNamed cs = [] := by
  induction cs with
  | nil => rfl
  | cons c cs ih =>
    rw [List.mem_cons, not_or] at h
    rw [colorsNamed_cons_of_none (if_neg h.1), ih h.2]

theorem colorsNamed_joinLines (ls : List String) :
    colorsNamed (joinLines ls).toList = ls.flatMap fun l => colorsNamed l.toList := by
  induction ls with
  | nil => rfl
  | cons a ls ih =>
    cases ls with
    | nil => simp [joinLines]
    | cons b ls =>
      rw [toList_joinLines_cons_cons, colorsNamed_append_cons (by decide) (by decide), ih]
      rfl

/-! ### The constants of a waiting loop -/

/-- The lines around the loop name no colour. -/
theorem colorsNamed_watch (w : Watch) (driving : Option Int) :
    colorsNamed (Command.watch w driving).code.toList = w.lines.flatMap fun l => colorsNamed l.toList := by
  unfold Command.code
  rw [colorsNamed_joinLines]
  cases driving with
  | none => rfl
  | some speed =>
    have hheading : colorsNamed w.heading.toList = [] := by
      apply colorsNamed_of_not_mem
      cases w <;> simp only [Watch.heading] <;> decide
    have hdrive : colorsNamed ("robot.drive(" ++ toString speed ++ ", 0)").toList = [] := by
      have hspeed : 'C' ∉ (toString speed).toList := Numeral.not_mem_toString (by decide) (by decide) speed
      exact colorsNamed_of_not_mem (not_mem_append (not_mem_append (by decide) hspeed) (by decide))
    have hstop : colorsNamed "robot.stop()".toList = [] := colorsNamed_of_not_mem (by decide)
    rw [Command.lines, List.flatMap_append, List.flatMap_append, List.flatMap_cons, List.flatMap_cons, hheading, hdrive,
      List.flatMap_singleton, hstop]
    simp

/-- The loop names what its condition names. -/
theorem colorsNamed_lines (w : Watch) :
    w.lines.flatMap (fun l => colorsNamed l.toList) = colorsNamed w.text.toList := by
  have hline : ("while " ++ w.text ++ ":").toList = "while".toList ++ ' ' :: (w.text.toList ++ ':' :: []) := by
    simp
  have hblank := colorsNamed_append_cons (by decide : ' ' ∉ colorMark) (by decide) "while".toList
    (w.text.toList ++ ':' :: [])
  have hcolon := colorsNamed_append_cons (by decide : ':' ∉ colorMark) (by decide) w.text.toList []
  have hwhile : colorsNamed "while".toList = [] := colorsNamed_of_not_mem (by decide)
  have hwait : colorsNamed "    wait(10)".toList = [] := colorsNamed_of_not_mem (by decide)
  rw [Watch.lines, List.flatMap_cons, List.flatMap_singleton, hline, hblank, hcolon, hwhile, hwait]
  simp [colorsNamed]

private theorem colorsNamed_spaced {whole a b : String} (h : whole.toList = a.toList ++ ' ' :: b.toList) (k : String) :
    colorsNamed (whole ++ k).toList = colorsNamed a.toList ++ colorsNamed (b ++ k).toList := by
  have htext : (whole ++ k).toList = a.toList ++ ' ' :: (b ++ k).toList := by
    rw [String.toList_append, h, String.toList_append, List.append_assoc, List.cons_append]
  rw [htext, colorsNamed_append_cons (by decide) (by decide)]

private theorem colorsNamed_colorMissing {color : String} (h : color ∈ colors) :
    colorsNamed (Watch.colorMissing (color.map Char.toUpper)).text.toList = [color.map Char.toUpper] := by
  have hconstants : ∀ c ∈ colors, colorsNamed ("Color." ++ c.map Char.toUpper).toList = [c.map Char.toUpper] := by
    decide +kernel
  have hfixed : "color_sensor.color() != Color.".toList =
      "color_sensor.color() !=".toList ++ ' ' :: "Color.".toList := by
    decide +kernel
  have hsensor : colorsNamed "color_sensor.color() !=".toList = [] := colorsNamed_of_not_mem (by decide)
  calc colorsNamed (Watch.colorMissing (color.map Char.toUpper)).text.toList
    _ = colorsNamed "color_sensor.color() !=".toList ++ colorsNamed ("Color." ++ color.map Char.toUpper).toList :=
      colorsNamed_spaced hfixed _
    _ = [color.map Char.toUpper] := by rw [hsensor, hconstants color h, List.nil_append]

/-- A program of the rule for sensors names the first colour of the sentence, if there is one, and nothing else. -/
theorem colorsNamed_of_watch {scene : Scene} {text : String} {a : Answer} (h : watch scene (.ofText text) = some a) :
    ∃ code, a.code? = some code ∧ colorsNamed code.toList =
      ((Sentence.ofText text).first? .color).toList.map fun t => t.text.map Char.toUpper := by
  obtain ⟨w, hw, rfl⟩ := watch_eq_some h
  refine ⟨(Command.watch w (drivingSpeed? (.ofText text))).code, rfl, ?_⟩
  rw [colorsNamed_watch, colorsNamed_lines]
  rcases watched?_cases hw with ⟨t, ht, rfl⟩ | ⟨hnone, t, n, -, -, relation, rfl⟩
  · have hcolor : t.text ∈ colors := (color_sound (List.mem_of_find?_eq_some ht) (List.find?_some ht)).1
    rw [ht, colorsNamed_colorMissing hcolor]
    rfl
  · rw [hnone, colorsNamed_of_not_mem (not_mem_reading (by decide) (by decide) (by decide) _ _ _)]
    rfl

/-! ### Gray and grey -/

/-- A misspelled word that is nearest to "grey" of all colours. -/
def IsMisspelledGrey (word : String) : Prop := word ∉ colors ∧ IsNearest word 2 colors "grey"

theorem text_eq_grey_iff {text : String} {t : Token} (ht : t ∈ tokenize text) (h : t.is .color = true) :
    t.text = "grey" ↔ IsMisspelledGrey t.raw := by
  rcases color_cases ht h with ⟨hlisted, htext⟩ | ⟨hunlisted, hnear⟩
  · refine iff_of_false ?_ fun hgrey => hgrey.1 hlisted
    rw [htext]
    unfold canonicalColor
    split
    · decide
    · assumption
  · constructor
    · intro hgrey
      rw [hgrey] at hnear
      exact ⟨hunlisted, hnear⟩
    · rintro ⟨-, hgrey⟩
      exact hnear.unique hgrey

/-- Just the misspelled words that are nearest to "grey" become the colour "grey", and just they lead to a program that
names a constant that does not exist. -/
theorem grey_named_iff (text : String) :
    (∀ t ∈ tokenize text, t.is .color = true → (t.text = "grey" ↔ IsMisspelledGrey t.raw)) ∧
    ∀ (scene : Scene) (a : Answer), watch scene (.ofText text) = some a →
      ∃ code, a.code? = some code ∧
        (∀ name ∈ colorsNamed code.toList, name ∈ colorConstants ∨ name = "GREY") ∧
        ("GREY" ∈ colorsNamed code.toList ↔
          ∃ t, (Sentence.ofText text).first? .color = some t ∧ IsMisspelledGrey t.raw) := by
  refine ⟨fun t ht h => text_eq_grey_iff ht h, fun scene a ha => ?_⟩
  have hconstants : ∀ c ∈ colors, c.map Char.toUpper ∈ colorConstants ∨ c.map Char.toUpper = "GREY" := by
    decide +kernel
  have hgrey : ∀ c ∈ colors, "GREY" = c.map Char.toUpper ↔ c = "grey" := by decide +kernel
  obtain ⟨code, hcode, hnamed⟩ := colorsNamed_of_watch ha
  refine ⟨code, hcode, ?_⟩
  rw [hnamed]
  cases hfirst : (Sentence.ofText text).first? .color with
  | none => simp
  | some t =>
    have hmem : t ∈ tokenize text := List.mem_of_find?_eq_some hfirst
    have hkind : t.is .color = true := List.find?_some hfirst
    have hcolor : t.text ∈ colors := (color_sound hmem hkind).1
    constructor
    · intro name hname
      obtain rfl : name = t.text.map Char.toUpper := by simpa using hname
      exact hconstants t.text hcolor
    · rw [Option.toList_some, List.map_singleton, List.mem_singleton, hgrey t.text hcolor, text_eq_grey_iff hmem hkind]
      simp

private theorem ofText_wait_until_greyy :
    Sentence.ofText "wait until greyy" = ⟨"wait until greyy", [.word .verb "wait" (some "wait"),
      .word .untilMark "until" (some "until"), .word .color "greyy" (some "grey")]⟩ :=
  congrArg (Sentence.mk "wait until greyy") (by decide +kernel)

private theorem watch_wait_until_greyy :
    watch ⟨{ }, [], []⟩ (.ofText "wait until greyy") = some (.understood (.watch (.colorMissing "GREY") none)) := by
  rw [ofText_wait_until_greyy]
  decide +kernel

private theorem greyy_mem_tokenize :
    Token.word .color "greyy" (some "grey") ∈ tokenize "wait until greyy" := by
  have htokens : tokenize "wait until greyy" = _ := congrArg Sentence.tokens ofText_wait_until_greyy
  rw [htokens]
  decide

theorem grey_named_wait_until_greyy :
    IsMisspelledGrey "greyy" ∧ ∃ a code, watch ⟨{ }, [], []⟩ (.ofText "wait until greyy") = some a ∧
      a.code? = some code ∧ "GREY" ∈ colorsNamed code.toList := by
  have hgrey : IsMisspelledGrey "greyy" := ((grey_named_iff "wait until greyy").1 _ greyy_mem_tokenize rfl).1 rfl
  have hfirst : (Sentence.ofText "wait until greyy").first? .color = some (.word .color "greyy" (some "grey")) := by
    rw [ofText_wait_until_greyy]
    rfl
  obtain ⟨code, hcode, -, hnamed⟩ := (grey_named_iff "wait until greyy").2 _ _ watch_wait_until_greyy
  exact ⟨hgrey, _, code, watch_wait_until_greyy, hcode, hnamed.2 ⟨_, hfirst, hgrey⟩⟩

/-- A colour may be spelled "grey", and a program may name a constant that does not exist. -/
theorem not_gray_wait_until_greyy :
    (∃ t ∈ tokenize "wait until greyy", t.is .color = true ∧ t.text = "grey") ∧
      (watch ⟨{ }, [], []⟩ (.ofText "wait until greyy")).bind Answer.code? =
        some "while color_sensor.color() != Color.GREY:\n    wait(10)" ∧
      "GREY" ∉ colorConstants := by
  refine ⟨⟨_, greyy_mem_tokenize, rfl, rfl⟩, ?_, by decide⟩
  rw [watch_wait_until_greyy]
  decide +kernel

end RobotPhrase
