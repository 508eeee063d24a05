import RobotPhrase.Proofs.NumeralScan
import RobotPhrase.Proofs.RoutineNames

/-!
# Calls of routines

The arguments of a call are the numerals in what follows the name (`scan_argumentText`), and `IsCall` says what the name
can be and where it stands.  So the code of a call holds every digit behind the name, once and in order.
-/

namespace RobotPhrase

open Text Vocabulary Grammar Numeral

/-! ### The text behind a name -/

private theorem digitless_of_allBlank {cs : List Char} (h : AllBlank cs) : Digitless cs ∧ '-' ∉ cs := by
  constructor
  · intro c hc
    rw [Bool.eq_false_iff]
    intro hdigit
    have hblank := (isKept_digit hdigit).2.2
    rw [h c hc] at hblank
    simp at hblank
  · intro hc
    exact absurd (h '-' hc) (by decide)

/-- Leaving out "with" and blanks loses no numeral. -/
theorem scan_argumentText (rest : List Char) : scan (argumentText rest) = scan rest := by
  have htrim (cs : List Char) : scan (trim cs) = scan cs := by
    obtain ⟨before, after, hbefore, hafter, hcs⟩ := exists_append_trim_append cs
    conv => rhs; rw [hcs]
    obtain ⟨hdigits, hminus⟩ := digitless_of_allBlank hbefore
    rw [scan_around hdigits hminus (digitless_of_allBlank hafter).1]
  unfold argumentText
  simp only
  split
  · rename_i arguments harguments
    have hwith : Digitless "with ".toList ∧ '-' ∉ "with ".toList := by decide
    have hlast : "with ".toList.getLast? ≠ some '-' := fun h => hwith.2 (List.mem_of_getLast? h)
    rw [htrim, ← htrim rest, after?_eq_some_iff.1 harguments, scan_digitless_append hwith.1 fun h => absurd h hlast]
  · exact htrim rest

/-! ### Where a name is found -/

/-- A text that starts with a name, at once or behind an opening. -/
def OpensWith (name input : List Char) : Prop :=
  name <+: input ∨ ∃ opening ∈ callOpenings, ∃ rest, input = opening.toList ++ rest ∧ name <+: rest

theorem afterName?_cases {name input rest : List Char} (h : afterName? name input = some rest) :
    input = name ++ rest ∨
      ¬ name <+: input ∧ ∃ opening ∈ callOpenings, input = opening.toList ++ (name ++ rest) := by
  rcases Option.or_eq_some_iff.1 h with h | ⟨hnone, h⟩
  · exact .inl (after?_eq_some_iff.1 h)
  · right
    constructor
    · rintro ⟨more, hmore⟩
      rw [after?_eq_some_iff.2 hmore.symm] at hnone
      simp at hnone
    · obtain ⟨opening, hopening, hsome⟩ := List.exists_of_findSome?_eq_some h
      obtain ⟨behind, hbehind, hrest⟩ := Option.bind_eq_some_iff.1 hsome
      refine ⟨opening, hopening, ?_⟩
      rw [after?_eq_some_iff.1 hbehind, after?_eq_some_iff.1 hrest]

theorem isSome_afterName?_iff {name input : List Char} :
    (afterName? name input).isSome = true ↔ OpensWith name input := by
  constructor
  · intro h
    obtain ⟨rest, hrest⟩ := Option.isSome_iff_exists.1 h
    rcases afterName?_cases hrest with rfl | ⟨-, opening, hopening, rfl⟩
    · exact .inl (List.prefix_append name rest)
    · exact .inr ⟨opening, hopening, name ++ rest, rfl, List.prefix_append name rest⟩
  · unfold afterName?
    rw [Option.isSome_or, Bool.or_eq_true]
    rintro (⟨rest, hrest⟩ | ⟨opening, hopening, behind, hbehind, rest, hrest⟩)
    · simp [after?_eq_some_iff.2 hrest.symm]
    · right
      rw [List.isSome_findSome?, List.any_eq_true]
      refine ⟨opening, hopening, ?_⟩
      rw [after?_eq_some_iff.2 hbehind, Option.bind_some, after?_eq_some_iff.2 hrest.symm]
      rfl

instance (name input : List Char) : Decidable (OpensWith name input) :=
  decidable_of_iff _ isSome_afterName?_iff

/-! ### The code of a call -/

/-- A character that can continue a name. -/
def isNamePart (c : Char) : Bool := isSmallLetter c || c.isDigit || c == '_'

private theorem isNamePart_of_isBlank {c : Char} (h : isBlank c = true) : isNamePart c = false := by
  rw [Bool.eq_false_iff]
  intro hpart
  rcases (by simpa [isNamePart] using hpart : (isSmallLetter c = true ∨ c.isDigit = true) ∨ c = '_')
    with (hletter | hdigit) | rfl
  · simp [(isKept_of_isSmallLetter hletter).2.2] at h
  · simp [(isKept_digit hdigit).2.2] at h
  · exact absurd h (by decide)

/-- The text calls the routine `name`, and `rest` is what follows the name: a known routine at the front or right behind
an opening, or else the whole name behind an opening, if it is free. -/
inductive IsCall (routines : List String) (input : List Char) : String → List Char → Prop
  | known {name : String} {before rest : List Char} (hname : name ∈ routines) (hne : name ≠ "")
      (hbefore : before = [] ∨ ∃ opening ∈ callOpenings, before = opening.toList)
      (hinput : input = before ++ lower name.toList ++ rest) : IsCall routines input name rest
  | unknown {opening name : String} {blanks rest : List Char} (hopening : opening ∈ callOpenings)
      (hblanks : AllBlank blanks) (hname : isName name = true) (hfree : name ∉ reservedNames)
      (hends : ∀ c, rest.head? = some c → isNamePart c = false)
      (hinput : input = opening.toList ++ blanks ++ name.toList ++ rest) : IsCall routines input name rest

private theorem isCall_of_knownCall? {routines : List String} {input rest : List Char} {name : String}
    (h : knownCall? routines input = some (name, rest)) : IsCall routines input name rest := by
  obtain ⟨routine, hroutine, hsome⟩ := List.exists_of_findSome?_eq_some h
  simp only at hsome
  split at hsome
  · simp at hsome
  · rename_i hempty
    obtain ⟨behind, hbehind, heq⟩ := Option.map_eq_some_iff.1 hsome
    obtain ⟨rfl, rfl⟩ := by simpa using heq
    have hne : routine ≠ "" := by
      rintro rfl
      exact hempty rfl
    rcases afterName?_cases hbehind with hinput | ⟨-, opening, hopening, hinput⟩
    · exact .known hroutine hne (.inl rfl) hinput
    · exact .known hroutine hne (.inr ⟨opening, hopening, rfl⟩) (by rw [hinput, List.append_assoc])

private theorem nameAt?_eq_some {cs name : List Char} (h : nameAt? cs = some name) :
    isName (String.ofList name) = true ∧
      ∃ rest, cs = name ++ rest ∧ ∀ c, rest.head? = some c → isNamePart c = false := by
  cases cs with
  | nil => simp [nameAt?] at h
  | cons c cs =>
    have hat : nameAt? (c :: cs) = if isSmallLetter c then some (c :: cs.takeWhile isNamePart) else none := rfl
    rw [hat] at h
    split at h
    · rename_i hc
      obtain rfl := Option.some.inj h
      constructor
      · have hpart : (cs.takeWhile isNamePart).all isNamePart = true := List.all_takeWhile
        unfold isName
        rw [String.toList_ofList]
        exact Bool.and_eq_true_iff.2 ⟨hc, hpart⟩
      · refine ⟨cs.dropWhile isNamePart, by simp [List.takeWhile_append_dropWhile], ?_⟩
        intro d hd
        have hhead := List.head?_dropWhile_not isNamePart cs
        rwa [hd] at hhead
    · simp at h

/-- What follows the name of an unknown routine has lost the blanks at the end of the text only. -/
private theorem isCall_of_unknownCall? {routines motors : List String} {s : Sentence} {input rest : List Char}
    {name : String} (h : unknownCall? motors s input = some (name, rest)) :
    ∃ blanks, AllBlank blanks ∧ IsCall routines input name (rest ++ blanks) := by
  simp only [unknownCall?, Option.bind_eq_bind, Option.bind_eq_some_iff] at h
  obtain ⟨behind, hbehind, letters, hletters, h⟩ := h
  split at h
  · simp at h
  rename_i hfree
  obtain ⟨rfl, rfl⟩ : String.ofList letters = name ∧ (trim behind).drop letters.length = rest := by
    simpa using h
  obtain ⟨hname, rest, hrest, hends⟩ := nameAt?_eq_some hletters
  obtain ⟨opening, hopening, hafter⟩ := List.exists_of_findSome?_eq_some hbehind
  obtain ⟨before, after, hbefore, hblank, htrim⟩ := exists_append_trim_append behind
  have hdrop : (trim behind).drop letters.length = rest := by rw [hrest, List.drop_left]
  refine ⟨after, hblank, .unknown hopening hbefore hname ?_ ?_ ?_⟩
  · intro hreserved
    exact hfree (by simp [hreserved])
  · intro c hc
    rw [hdrop] at hc
    cases rest with
    | cons d rest => exact hends c hc
    | nil => exact isNamePart_of_isBlank (hblank c (List.mem_of_head? hc))
  · rw [hdrop, after?_eq_some_iff.1 hafter, String.toList_ofList]
    conv => lhs; rw [htrim, hrest]
    simp only [List.append_assoc]

theorem exists_call_of_routineCall {scene : Scene} {text : String} {a : Answer}
    (h : routineCall scene (.ofText text) = some a) :
    ∃ name rest arguments, IsCall scene.routines (lower (trim text.toList)) name rest ∧ Holds rest arguments ∧
      a = .understood (.call name arguments) := by
  obtain ⟨⟨name, rest⟩, hcall, rfl⟩ := Option.map_eq_some_iff.1 h
  rcases Option.or_eq_some_iff.1 hcall with hknown | ⟨-, hunknown⟩
  · exact ⟨name, rest, _, isCall_of_knownCall? hknown, scan_eq_iff.1 (scan_argumentText rest).symm, rfl⟩
  · obtain ⟨blanks, hblanks, hparts⟩ := isCall_of_unknownCall? hunknown
    have hblank := digitless_of_allBlank hblanks
    refine ⟨name, rest ++ blanks, _, hparts, scan_eq_iff.1 ?_, rfl⟩
    have haround : scan ([] ++ rest ++ blanks) = scan rest := scan_around (by decide) (by simp) hblank.1 rest
    rw [scan_argumentText, ← haround]
    rfl

/-- The code of a call is the name with the literals behind it, none of which is lost, cut short or made up. -/
theorem code_of_routineCall (scene : Scene) (text : String)
    (h : (interpret scene text).kind? = some .routineCall) :
    ∃ name rest arguments, IsCall scene.routines (lower (trim text.toList)) name rest ∧ Holds rest arguments ∧
      (interpret scene text).code? =
        some (name ++ "(" ++ ", ".intercalate (arguments.map fun n => String.ofList n.text) ++ ")") := by
  rw [interpret_eq_answerWith] at h ⊢
  obtain ⟨name, rest, arguments, hparts, hholds, hanswer⟩ := exists_call_of_routineCall (routineCall_of_kind? h)
  refine ⟨name, rest, arguments, hparts, hholds, ?_⟩
  rw [hanswer]
  exact congrArg some (code_call name arguments)

/-- Two numbers side by side, and a point that belongs to none. -/
theorem code_of_routineCall_run_a1 :
    interpret ⟨{ }, [], ["a1"]⟩ "run a1 7-2.5.3" =
        .understood (.call "a1" [⟨false, ['7'], []⟩, ⟨true, ['2'], ['5']⟩, ⟨false, ['3'], []⟩]) ∧
      ∃ name rest arguments, IsCall ["a1"] (lower (trim "run a1 7-2.5.3".toList)) name rest ∧ Holds rest arguments ∧
        "a1(7, -2.5, 3)" = name ++ "(" ++ ", ".intercalate (arguments.map fun n => String.ofList n.text) ++ ")" := by
  have hanswer : interpret ⟨{ }, [], ["a1"]⟩ "run a1 7-2.5.3" =
      .understood (.call "a1" [⟨false, ['7'], []⟩, ⟨true, ['2'], ['5']⟩, ⟨false, ['3'], []⟩]) := by decide +kernel
  obtain ⟨name, rest, arguments, hcall, hholds, hcode⟩ :=
    code_of_routineCall ⟨{ }, [], ["a1"]⟩ "run a1 7-2.5.3" (by rw [hanswer]; rfl)
  rw [hanswer] at hcode
  exact ⟨hanswer, name, rest, arguments, hcall, hholds, Option.some.inj hcode⟩

end RobotPhrase
