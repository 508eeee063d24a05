import RobotPhrase.Proofs.Kinds
import RobotPhrase.Proofs.Tokenize

/-!
# Routines called by their own names

A sentence that is the name of a routine calls the first routine of the list whose name it starts with, whether a word
ends there or not (`knownCall?_name`).  So a routine can be called by its own name exactly if no routine listed before
it has a name that its own name starts with.
-/

namespace RobotPhrase

open Text Vocabulary Grammar

/-! ### Names -/

/-- Whether a text is a small letter and then small letters, digits and underscores. -/
def isName (name : String) : Bool :=
  match name.toList with
  | [] => false
  | c :: cs => isSmallLetter c && cs.all fun d => isSmallLetter d || d.isDigit || d == '_'

section

variable {name : String} (h : isName name = true)

include h

private theorem exists_cons_of_isName : ∃ c cs, name.toList = c :: cs ∧ isSmallLetter c = true := by
  unfold isName at h
  split at h
  · simp at h
  · rename_i c cs hname
    exact ⟨c, cs, hname, (Bool.and_eq_true_iff.1 h).1⟩

private theorem mem_of_isName {c : Char} (hc : c ∈ name.toList) :
    isSmallLetter c = true ∨ c.isDigit = true ∨ c = '_' := by
  unfold isName at h
  split at h
  · simp at h
  · rename_i d ds hname
    rw [hname] at hc
    obtain ⟨hd, hds⟩ := Bool.and_eq_true_iff.1 h
    rcases List.mem_cons.1 hc with rfl | hc
    · exact .inl hd
    · simpa [or_assoc] using List.all_eq_true.1 hds c hc

theorem isKept_of_isName : ∀ c ∈ name.toList, IsKept c := by
  intro c hc
  rcases mem_of_isName h hc with hletter | hdigit | rfl
  · exact isKept_of_isSmallLetter hletter
  · exact isKept_digit hdigit
  · unfold IsKept; decide

private theorem lower_name : lower name.toList = name.toList :=
  lower_eq_self fun c hc => (isKept_of_isName h c hc).1

private theorem trim_name : trim name.toList = name.toList := by
  apply trim_eq_self
  · intro c hc
    exact (isKept_of_isName h c (List.mem_of_head? hc)).2.2
  · intro c hc
    exact (isKept_of_isName h c (List.mem_of_getLast? hc)).2.2

private theorem blank_not_mem_name : ' ' ∉ name.toList := by
  intro hc
  have hkept := (isKept_of_isName h ' ' hc).2.2
  simp [show isBlank ' ' = true by decide] at hkept

private theorem tokenize_name_ne_nil : tokenize name ≠ [] := by
  obtain ⟨c, cs, hname, hc⟩ := exists_cons_of_isName h
  refine tokenize_ne_nil (isKept_of_isSmallLetter hc) ?_
  rw [lower_name h, hname]
  simp

end

/-! ### The routine that is called -/

/-- Without a blank there is no opening. -/
private theorem afterName?_of_no_blank {input : List Char} (h : ' ' ∉ input) (name : List Char) :
    afterName? name input = after? name input := by
  have hopenings : ∀ opening ∈ callOpenings, ' ' ∈ opening.toList := by decide
  have hnone : (callOpenings.findSome? fun opening => (after? opening.toList input).bind (after? name)) = none := by
    rw [List.findSome?_eq_none_iff]
    intro opening hopening
    cases hafter : after? opening.toList input with
    | none => rfl
    | some rest =>
      rw [after?_eq_some_iff.1 hafter] at h
      exact absurd (List.mem_append_left rest (hopenings opening hopening)) h
  unfold afterName?
  rw [hnone, Option.or_none]

/-- What a list of routines makes of a name: the first routine whose name it starts with is called. -/
theorem knownCall?_name {routines : List String} (hnames : ∀ q ∈ routines, isName q = true) {name : String}
    (h : isName name = true) :
    knownCall? routines name.toList =
      routines.findSome? fun q => (after? q.toList name.toList).map fun rest => (q, rest) := by
  unfold knownCall?
  induction routines with
  | nil => rfl
  | cons q qs ih =>
    have hq := hnames q (by simp)
    have hempty : q.toList.isEmpty = false := by
      obtain ⟨c, cs, hcons, -⟩ := exists_cons_of_isName hq
      rw [hcons]
      rfl
    rw [List.findSome?_cons, List.findSome?_cons, ih fun p hp => hnames p (by simp [hp])]
    simp only [lower_name hq, hempty, Bool.false_eq_true, if_false, afterName?_of_no_blank (blank_not_mem_name h)]

/-- A known routine is called before any other rule is tried. -/
theorem interpret_of_knownCall? {scene : Scene} {text q : String} {rest : List Char} (htokens : tokenize text ≠ [])
    (h : knownCall? scene.routines (lower (trim text.toList)) = some (q, rest)) :
    interpret scene text = .understood (.call q (Numeral.scan (argumentText rest))) := by
  have hcall : routineCall scene (.ofText text) = some (.understood (.call q (Numeral.scan (argumentText rest)))) := by
    unfold routineCall
    simp only [Sentence.ofText, h, Option.some_or, Option.map_some]
    rfl
  rw [interpret_eq_answerWith, answerWith_eq, if_neg htokens, hcall, Option.some_or, Option.getD_some]

private theorem interpret_name {scene : Scene} {name q : String} {rest : List Char} (hname : isName name = true)
    (h : knownCall? scene.routines name.toList = some (q, rest)) :
    interpret scene name = .understood (.call q (Numeral.scan (argumentText rest))) := by
  refine interpret_of_knownCall? (tokenize_name_ne_nil hname) ?_
  rwa [trim_name hname, lower_name hname]

section

variable {scene : Scene} {earlier later : List String} {name : String}
  (hroutines : scene.routines = earlier ++ name :: later) (hnames : ∀ q ∈ scene.routines, isName q = true)

include hroutines hnames

/-- The name of a routine calls it, or else one that is listed earlier. -/
theorem interpret_name_cases :
    ((∀ q ∈ earlier, ¬ q.toList <+: name.toList) ∧ interpret scene name = .understood (.call name [])) ∨
      ∃ q ∈ earlier, q.toList <+: name.toList ∧ ∃ arguments, interpret scene name = .understood (.call q arguments) := by
  have hname : isName name = true := hnames name (by simp [hroutines])
  have hknown := knownCall?_name hnames hname
  conv at hknown => rhs; rw [hroutines, List.findSome?_append]
  cases hearlier : earlier.findSome? fun q => (after? q.toList name.toList).map fun rest => (q, rest) with
  | none =>
    left
    have hself : after? name.toList name.toList = some [] := after?_eq_some_iff.2 (by simp)
    rw [hearlier, List.findSome?_cons, hself] at hknown
    have hnothing : Numeral.scan (argumentText []) = [] := by decide +kernel
    refine ⟨?_, (interpret_name hname hknown).trans (by rw [hnothing])⟩
    rintro q hq ⟨rest, hrest⟩
    have hnone := List.findSome?_eq_none_iff.1 hearlier q hq
    rw [after?_eq_some_iff.2 hrest.symm] at hnone
    simp at hnone
  | some p =>
    right
    obtain ⟨q, hq, hp⟩ := List.exists_of_findSome?_eq_some hearlier
    obtain ⟨rest, hrest, rfl⟩ := Option.map_eq_some_iff.1 hp
    rw [hearlier, Option.some_or] at hknown
    exact ⟨q, hq, ⟨rest, (after?_eq_some_iff.1 hrest).symm⟩, _, interpret_name hname hknown⟩

end

/-! ### The code of a call -/

theorem code_call (routine : String) (arguments : List Numeral) :
    (Command.call routine arguments).code = callLine routine arguments := by
  simp [Command.code, Command.lines, joinLines]

private theorem callLine_nil (routine : String) : callLine routine [] = routine ++ "()" := by
  simp [callLine, String.append_assoc]

/-- Calls of routines with different names have different codes. -/
private theorem eq_of_callLine_eq {p q : String} (hp : isName p = true) (hq : isName q = true)
    {ps qs : List Numeral} (h : callLine p ps = callLine q qs) : p = q := by
  have hname {r : String} (hr : isName r = true) (rs : List Numeral) :
      (callLine r rs).toList.takeWhile (· != '(') = r.toList := by
    have hnot : ∀ c ∈ r.toList, (c != '(') = true := by
      intro c hc
      rw [bne_iff_ne]
      rintro rfl
      exact absurd (mem_of_isName hr hc) (by decide)
    simp only [callLine, String.toList_append, List.append_assoc, List.takeWhile_append_of_pos hnot]
    simp
  have heq : p.toList = q.toList := by rw [← hname hp ps, h, hname hq qs]
  simpa using congrArg String.ofList heq

/-- A routine is called by its own name exactly if its name starts with no name that is listed earlier. -/
theorem calls_own_name_iff (scene : Scene) (earlier later : List String) (name : String)
    (hroutines : scene.routines = earlier ++ name :: later) (hnames : ∀ q ∈ scene.routines, isName q = true)
    (hdistinct : scene.routines.Nodup) :
    ((interpret scene name).kind? = some .routineCall ∧ (interpret scene name).code? = some (name ++ "()")) ↔
      ∀ q ∈ earlier, ¬ q.toList <+: name.toList := by
  rcases interpret_name_cases hroutines hnames with ⟨hnone, hanswer⟩ | ⟨q, hq, hbegins, arguments, hanswer⟩
  · rw [hanswer]
    refine ⟨fun _ => hnone, fun _ => ⟨rfl, ?_⟩⟩
    change some (Command.call name []).code = _
    rw [code_call, callLine_nil]
  · rw [hanswer]
    constructor
    · rintro ⟨-, hcode⟩
      have hsame : callLine q arguments = callLine name [] := by
        rw [callLine_nil, ← code_call]
        exact Option.some.inj hcode
      have hqname : isName q = true := hnames q (by simp [hroutines, hq])
      have hname : isName name = true := hnames name (by simp [hroutines])
      obtain rfl := eq_of_callLine_eq hqname hname hsame
      -- an earlier routine of the same name is excluded
      rw [hroutines] at hdistinct
      exact absurd rfl ((List.nodup_append.1 hdistinct).2.2 q hq q (by simp))
    · intro hnone
      exact absurd hbegins (hnone q hq)

/-- A longer name that is listed earlier does no harm. -/
theorem calls_own_name_square :
    (∀ q ∈ ["square2", "square"], isName q = true) ∧ ["square2", "square"].Nodup ∧
      (interpret ⟨{ }, [], ["square2", "square"]⟩ "square").code? = some ("square" ++ "()") := by
  have hnames : ∀ q ∈ ["square2", "square"], isName q = true := by decide +kernel
  have hdistinct : ["square2", "square"].Nodup := by decide
  have hiff := calls_own_name_iff ⟨{ }, [], ["square2", "square"]⟩ ["square2"] [] "square" rfl hnames hdistinct
  exact ⟨hnames, hdistinct, (hiff.2 (by decide)).2⟩

/-- A shorter one takes the call, and the rest of the name for an argument. -/
theorem not_calls_own_name_square2 :
    (∀ q ∈ ["square", "square2"], isName q = true) ∧ ["square", "square2"].Nodup ∧
      interpret ⟨{ }, [], ["square", "square2"]⟩ "square2" = .understood (.call "square" [⟨false, ['2'], []⟩]) ∧
      (Command.call "square" [⟨false, ['2'], []⟩]).code = "square(2)" := by
  exact ⟨by decide +kernel, by decide, by decide +kernel, by decide⟩

end RobotPhrase
