import RobotPhrase.Proofs.Capitals
import RobotPhrase.Proofs.RoutineCalls

/-!
# Calls as they are written

A call that is written out with its arguments is understood as this call.  The name may begin an opening, as "r" begins
"run ", and is then found there, before its proper place; but no digit is passed on the way, so the arguments are the
same (`exists_afterName?`).
-/

namespace RobotPhrase

open Text Vocabulary Grammar Numeral

/-! ### Identifiers -/

/-- Whether a text is an ASCII letter or an underscore, and then ASCII letters, digits and underscores. -/
def isIdentifier (name : String) : Bool :=
  match name.toList with
  | [] => false
  | c :: cs => (c.isAlpha || c == '_') && cs.all fun d => d.isAlphanum || d == '_'

section

variable {routine : String} (h : isIdentifier routine = true)

include h

private theorem mem_of_isIdentifier {c : Char} (hc : c ∈ routine.toList) : c.isAlphanum = true ∨ c = '_' := by
  unfold isIdentifier at h
  split at h
  · simp at h
  · rename_i d ds hroutine
    rw [hroutine] at hc
    obtain ⟨hd, hds⟩ := Bool.and_eq_true_iff.1 h
    rcases List.mem_cons.1 hc with rfl | hc
    · rcases (by simpa using hd : c.isAlpha = true ∨ c = '_') with hletter | hline
      · exact .inl (Bool.or_eq_true_iff.2 (.inl hletter))
      · exact .inr hline
    · simpa using List.all_eq_true.1 hds c hc

private theorem isAscii_of_isIdentifier : IsAscii routine.toList := by
  intro c hc
  have hhigh : c.toNat ≤ 122 := by
    rcases mem_of_isIdentifier h hc with hpart | rfl
    · rcases Bool.or_eq_true_iff.1 hpart with hletter | hdigit
      · rcases Bool.or_eq_true_iff.1 hletter with hupper | hlower
        · have hle : c.val ≤ 'Z'.val := (of_decide_eq_true hupper).2
          exact Nat.le_trans (UInt32.le_iff_toNat_le.1 hle) (by decide)
        · have hle : c.val ≤ 'z'.val := of_decide_eq_true (Bool.and_eq_true_iff.1 hlower).2
          exact UInt32.le_iff_toNat_le.1 hle
      · exact Nat.le_trans (Char.isDigit_iff_toNat.1 hdigit).2 (by decide)
    · decide
  omega

private theorem isKept_lower {c : Char} (hc : c ∈ lower routine.toList) : IsKept c := by
  have hall : ∀ k, k ≤ 127 → 0 ≤ k →
      (Char.ofNat k).isAlphanum = true ∨ Char.ofNat k = '_' → IsKept (Char.ofNat k).toLower := by
    unfold IsKept
    decide
  rw [lower_eq_map (isAscii_of_isIdentifier h)] at hc
  obtain ⟨d, hd, rfl⟩ := List.mem_map.1 hc
  have hsmall : d.toNat < 128 := isAscii_of_isIdentifier h d hd
  exact of_codes (p := fun d => d.isAlphanum = true ∨ d = '_' → IsKept d.toLower) hall (Nat.zero_le _) (by omega)
    (mem_of_isIdentifier h hd)

private theorem lower_identifier_ne_nil : lower routine.toList ≠ [] := by
  rw [lower_eq_map (isAscii_of_isIdentifier h)]
  intro hnil
  rw [List.map_eq_nil_iff] at hnil
  simp [isIdentifier, hnil] at h

end

/-! ### What is written behind the name -/

/-- A call written out: perhaps an opening, the name, perhaps "with", and the arguments, each behind a blank. -/
def callSentence (opening name : String) (introduced : Bool) (arguments : List Numeral) : String :=
  opening ++ name ++ (if introduced then " with" else "") ++
    String.join (arguments.map fun n => " " ++ String.ofList n.text)

/-- What follows the name in a call. -/
private def behindName (introduced : Bool) (arguments : List Numeral) : List Char :=
  (if introduced then " with".toList else []) ++ arguments.flatMap fun n => ' ' :: n.text

private theorem toList_callSentence (opening name : String) (introduced : Bool) (arguments : List Numeral) :
    (callSentence opening name introduced arguments).toList =
      opening.toList ++ (name.toList ++ behindName introduced arguments) := by
  unfold callSentence behindName
  cases introduced <;> simp [String.toList_join, List.flatMap_map]

section

variable {arguments : List Numeral} (h : ∀ n ∈ arguments, n.IsLiteral)

include h

private theorem scan_behindName (introduced : Bool) : scan (behindName introduced arguments) = arguments := by
  unfold behindName
  rw [scan_digitless_append, scan_spaced h]
  · cases introduced <;> decide
  · cases introduced <;> simp

private theorem mem_behindName {introduced : Bool} {c : Char} (hc : c ∈ behindName introduced arguments) :
    c = ' ' ∨ IsKept c := by
  rcases List.mem_append.1 hc with hc | hc
  · have hwith : " with".toList = ' ' :: "with".toList := rfl
    have hletters : "with".toList.all isSmallLetter = true := by decide
    cases introduced with
    | false => simp at hc
    | true =>
      rw [if_pos rfl, hwith] at hc
      rcases List.mem_cons.1 hc with rfl | hc
      · exact .inl rfl
      · exact .inr (isKept_of_letters hletters c hc)
  · obtain ⟨n, hn, hc⟩ := List.mem_flatMap.1 hc
    rcases List.mem_cons.1 hc with rfl | hc
    · exact .inl rfl
    · exact .inr (isKept_literal (h n hn) hc)

private theorem getLast?_spaced {c : Char} (hc : (arguments.flatMap fun n => ' ' :: n.text).getLast? = some c) :
    isBlank c = false := by
  induction arguments with
  | nil => simp at hc
  | cons n ns ih =>
    rw [List.flatMap_cons, List.getLast?_append, Option.or_eq_some_iff] at hc
    rcases hc with hc | ⟨-, hc⟩
    · exact ih (fun m hm => h m (by simp [hm])) hc
    · have hn := h n (by simp)
      rw [List.getLast?_cons_of_ne_nil (text_ne_nil hn)] at hc
      exact (isKept_literal hn (List.mem_of_getLast? hc)).2.2

private theorem getLast?_behindName {introduced : Bool} {c : Char}
    (hc : (behindName introduced arguments).getLast? = some c) : isBlank c = false := by
  unfold behindName at hc
  rw [List.getLast?_append, Option.or_eq_some_iff] at hc
  rcases hc with hc | ⟨-, hc⟩
  · exact getLast?_spaced h hc
  · cases introduced with
    | false => simp at hc
    | true =>
      obtain rfl : 'h' = c := by simpa using hc
      decide

end

/-! ### Where the name is found -/

/-- A name that begins an opening is found there, but no digit is passed on the way to its proper place. -/
private theorem scan_of_name_in_opening {opening : String} (hopening : opening ∈ callOpenings)
    {name tail rest : List Char} (hblank : ' ' ∉ name) (h : opening.toList ++ (name ++ tail) = name ++ rest) :
    scan rest = scan tail := by
  have hopenings : ∀ o ∈ callOpenings, ' ' ∈ o.toList ∧ Digitless o.toList ∧ '-' ∉ o.toList := by decide
  obtain ⟨hspace, hdigits, hminus⟩ := hopenings opening hopening
  have hname : name <+: opening.toList ++ (name ++ tail) := ⟨rest, h.symm⟩
  have hfront : opening.toList <+: opening.toList ++ (name ++ tail) := List.prefix_append _ _
  -- the opening ends in a blank and the name has none, so the name ends within the opening
  obtain ⟨more, hmore⟩ : name <+: opening.toList := by
    by_cases hlength : name.length ≤ opening.toList.length
    · exact List.prefix_of_prefix_length_le hname hfront hlength
    · have hlonger : opening.toList <+: name := List.prefix_of_prefix_length_le hfront hname (by omega)
      exact absurd (hlonger.subset hspace) hblank
  have hrest : rest = more ++ name ++ tail := by
    rw [← hmore, List.append_assoc, List.append_cancel_left_eq] at h
    rw [← h, List.append_assoc]
  have hgap : ∀ c ∈ more ++ name, c ∈ opening.toList := by
    intro c hc
    rw [← hmore]
    simpa [or_comm] using hc
  rw [hrest, scan_digitless_append]
  · intro c hc
    exact hdigits c (hgap c hc)
  · intro hlast
    exact absurd (hgap '-' (List.mem_of_getLast? hlast)) hminus

private theorem eq_of_openings {o p : String} (ho : o ∈ callOpenings) (hp : p ∈ callOpenings) {a b : List Char}
    (h : o.toList ++ a = p.toList ++ b) : o = p := by
  have hheads : ∀ o ∈ callOpenings, ∀ p ∈ callOpenings, o.toList.head? = p.toList.head? → o = p := by decide
  have hne : ∀ o ∈ callOpenings, o.toList ≠ [] := by decide
  obtain ⟨c, cs, hc⟩ := List.exists_cons_of_ne_nil (hne o ho)
  obtain ⟨d, ds, hd⟩ := List.exists_cons_of_ne_nil (hne p hp)
  rw [hc, hd] at h
  apply hheads o ho p hp
  rw [hc, hd, List.head?_cons, List.head?_cons, (List.cons.inj h).1]

private theorem exists_afterName? {opening : String} (hopening : opening = "" ∨ opening ∈ callOpenings)
    {name : List Char} (hblank : ' ' ∉ name) (tail : List Char) :
    ∃ rest, afterName? name (opening.toList ++ (name ++ tail)) = some rest ∧ scan rest = scan tail := by
  have hopens : OpensWith name (opening.toList ++ (name ++ tail)) := by
    rcases hopening with rfl | hopening
    · exact .inl (List.prefix_append name tail)
    · exact .inr ⟨opening, hopening, name ++ tail, rfl, List.prefix_append name tail⟩
  obtain ⟨rest, hrest⟩ := Option.isSome_iff_exists.1 (isSome_afterName?_iff.2 hopens)
  refine ⟨rest, hrest, ?_⟩
  rcases afterName?_cases hrest with hfront | ⟨hnot, p, hp, hbehind⟩
  · rcases hopening with rfl | hopening
    · obtain rfl : tail = rest := List.append_cancel_left hfront
      rfl
    · exact scan_of_name_in_opening hopening hblank hfront
  · rcases hopening with rfl | hopening
    · exact absurd (List.prefix_append name tail) hnot
    · obtain rfl := eq_of_openings hopening hp hbehind
      rw [List.append_cancel_left (List.append_cancel_left hbehind)]

private theorem knownCall?_of_afterName? {earlier later : List String} {routine : String} {input rest : List Char}
    (hearlier : ∀ q ∈ earlier, q ≠ "" → ¬ OpensWith (lower q.toList) input) (hne : lower routine.toList ≠ [])
    (h : afterName? (lower routine.toList) input = some rest) :
    knownCall? (earlier ++ routine :: later) input = some (routine, rest) := by
  have hnone : knownCall? earlier input = none := by
    unfold knownCall?
    rw [List.findSome?_eq_none_iff]
    intro q hq
    simp only
    split
    · rfl
    · rename_i hempty
      have hq' : q ≠ "" := by
        rintro rfl
        exact hempty rfl
      have hnot := hearlier q hq hq'
      rw [← isSome_afterName?_iff, Bool.not_eq_true, Option.isSome_eq_false_iff, Option.isNone_iff_eq_none] at hnot
      rw [hnot]
      rfl
  unfold knownCall? at hnone ⊢
  rw [List.findSome?_append, hnone, Option.none_or, List.findSome?_cons]
  simp [hne, h]

/-! ### The call in lowercase -/

section

variable {routine spelled opening : String} {introduced : Bool} {arguments : List Numeral}
  (hidentifier : isIdentifier routine = true) (hspelled : SameLetters spelled.toList routine.toList)
  (hopening : opening = "" ∨ opening ∈ callOpenings) (harguments : ∀ n ∈ arguments, n.IsLiteral)

/-- A call in lowercase. -/
private def loweredCall (opening routine : String) (introduced : Bool) (arguments : List Numeral) : List Char :=
  opening.toList ++ (lower routine.toList ++ behindName introduced arguments)

include hidentifier hopening harguments

private theorem isLower_loweredCall {c : Char} (hc : c ∈ loweredCall opening routine introduced arguments) :
    c.toNat < 128 ∧ c.toLower = c := by
  have hopenings : ∀ o ∈ callOpenings, o.toList.all (fun c => c.toNat < 128 && c.toLower == c) = true := by decide
  rcases List.mem_append.1 hc with hc | hc
  · rcases hopening with rfl | hopening
    · simp at hc
    · simpa using List.all_eq_true.1 (hopenings opening hopening) c hc
  · rcases List.mem_append.1 hc with hc | hc
    · exact (isKept_lower hidentifier hc).1
    · rcases mem_behindName harguments hc with rfl | hkept
      · decide
      · exact hkept.1

private theorem trim_loweredCall :
    trim (loweredCall opening routine introduced arguments) = loweredCall opening routine introduced arguments := by
  have hopenings : ∀ o ∈ callOpenings, o.toList ≠ [] ∧ o.toList.head?.any isBlank = false := by decide
  have hne := lower_identifier_ne_nil hidentifier
  obtain ⟨d, ds, hname⟩ := List.exists_cons_of_ne_nil hne
  apply trim_eq_self
  · intro c hc
    rcases hopening with rfl | hopening
    · obtain rfl : d = c := by simpa [loweredCall, hname] using hc
      exact (isKept_lower hidentifier (by simp [hname])).2.2
    · obtain ⟨hne', hblank⟩ := hopenings opening hopening
      obtain ⟨e, es, hfirst⟩ := List.exists_cons_of_ne_nil hne'
      obtain rfl : e = c := by simpa [loweredCall, hfirst] using hc
      simpa [hfirst] using hblank
  · intro c hc
    unfold loweredCall at hc
    rw [← List.append_assoc, List.getLast?_append, List.getLast?_append, Option.or_eq_some_iff,
      Option.or_eq_some_iff] at hc
    rcases hc with hc | ⟨-, hc | ⟨hnone, -⟩⟩
    · exact getLast?_behindName harguments hc
    · exact (isKept_lower hidentifier (List.mem_of_getLast? hc)).2.2
    · exact absurd (List.getLast?_eq_none_iff.1 hnone) hne

include hspelled

private theorem sameLetters_callSentence :
    SameLetters (callSentence opening spelled introduced arguments).toList
      (loweredCall opening routine introduced arguments) := by
  have hlowered {c : Char} (hc : c ∈ loweredCall opening routine introduced arguments) :=
    isLower_loweredCall hidentifier hopening harguments hc
  rw [toList_callSentence]
  refine .of_map_toLower ?_ (fun c hc => (hlowered hc).1) ?_
  · intro c hc
    rcases List.mem_append.1 hc with hc | hc
    · exact (hlowered (List.mem_append_left _ hc)).1
    · rcases List.mem_append.1 hc with hc | hc
      · exact hspelled.left c hc
      · exact (hlowered (List.mem_append_right _ (List.mem_append_right _ hc))).1
  · have hname : (lower routine.toList).map Char.toLower = lower routine.toList := by
      refine (List.map_congr_left fun c hc => ?_).trans (List.map_id _)
      exact (isKept_lower hidentifier hc).1.2
    unfold loweredCall
    rw [List.map_append, List.map_append, List.map_append, List.map_append, hname, hspelled.map_toLower,
      lower_eq_map hspelled.right]

private theorem lower_callSentence :
    lower (callSentence opening spelled introduced arguments).toList =
        loweredCall opening routine introduced arguments ∧
      lower (trim (callSentence opening spelled introduced arguments).toList) =
        loweredCall opening routine introduced arguments := by
  have hsame : SameLetters (callSentence opening spelled introduced arguments).toList
      (loweredCall opening routine introduced arguments) :=
    sameLetters_callSentence hidentifier hspelled hopening harguments
  have hself : lower (loweredCall opening routine introduced arguments) =
      loweredCall opening routine introduced arguments :=
    lower_eq_self fun c hc => isLower_loweredCall hidentifier hopening harguments hc
  constructor
  · rw [hsame.lower_eq, hself]
  · rw [hsame.trim.lower_eq, trim_loweredCall hidentifier hopening harguments, hself]

end

/-- A call written out, with the name in any capitals, is understood as this call. -/
theorem interpret_callSentence (scene : Scene) (earlier later : List String) (routine spelled opening : String)
    (introduced : Bool) (arguments : List Numeral) (hroutines : scene.routines = earlier ++ routine :: later)
    (hidentifier : isIdentifier routine = true) (hspelled : SameLetters spelled.toList routine.toList)
    (hopening : opening = "" ∨ opening ∈ callOpenings) (harguments : ∀ n ∈ arguments, n.IsLiteral)
    (hearlier : ∀ q ∈ earlier, q ≠ "" →
      ¬ OpensWith (lower q.toList) (lower (callSentence opening spelled introduced arguments).toList)) :
    let answer := interpret scene (callSentence opening spelled introduced arguments)
    answer.status = .parsed ∧ answer.kind? = some .routineCall ∧ answer.confidence = ⟨95⟩ ∧
      answer.code? =
        some (routine ++ "(" ++ ", ".intercalate (arguments.map fun n => String.ofList n.text) ++ ")") := by
  obtain ⟨hlower, htrimmed⟩ := lower_callSentence hidentifier hspelled hopening harguments
  have hne := lower_identifier_ne_nil hidentifier
  have htokens : tokenize (callSentence opening spelled introduced arguments) ≠ [] := by
    obtain ⟨c, cs, hname⟩ := List.exists_cons_of_ne_nil hne
    have hc : c ∈ lower routine.toList := by simp [hname]
    refine tokenize_ne_nil (isKept_lower hidentifier hc) ?_
    rw [hlower]
    exact List.mem_append_right _ (List.mem_append_left _ hc)
  have hblank : ' ' ∉ lower routine.toList := by
    intro hc
    exact absurd (isKept_lower hidentifier hc).2.2 (by decide)
  obtain ⟨rest, hrest, hscan⟩ := exists_afterName? hopening hblank (behindName introduced arguments)
  have hknown : knownCall? scene.routines (lower (trim (callSentence opening spelled introduced arguments).toList)) =
      some (routine, rest) := by
    rw [hlower] at hearlier
    rw [htrimmed, hroutines]
    exact knownCall?_of_afterName? hearlier hne hrest
  have hanswer := interpret_of_knownCall? htokens hknown
  rw [scan_argumentText, hscan, scan_behindName harguments] at hanswer
  simp only [hanswer]
  exact ⟨rfl, rfl, rfl, congrArg some (code_call routine arguments)⟩

/-- A name that begins its opening, behind a routine that is not called. -/
theorem interpret_callSentence_run :
    callSentence "run " "rUN" true [⟨false, ['1'], ['5']⟩, ⟨true, ['2', '0'], []⟩] = "run rUN with 1.5 -20" ∧
      (interpret ⟨{ }, [], ["run2", "Run"]⟩ "run rUN with 1.5 -20").code? = some "Run(1.5, -20)" := by
  have hsentence : callSentence "run " "rUN" true [⟨false, ['1'], ['5']⟩, ⟨true, ['2', '0'], []⟩] =
      "run rUN with 1.5 -20" := by decide +kernel
  have hspelled : SameLetters "rUN".toList "Run".toList := ⟨by decide, by decide, by decide +kernel⟩
  have hanswer := interpret_callSentence ⟨{ }, [], ["run2", "Run"]⟩ ["run2"] [] "Run" "rUN" "run " true
    [⟨false, ['1'], ['5']⟩, ⟨true, ['2', '0'], []⟩] rfl (by decide) hspelled (.inr (by decide)) (by decide)
    (by rw [hsentence]; decide +kernel)
  rw [hsentence] at hanswer
  exact ⟨hsentence, hanswer.2.2.2⟩

end RobotPhrase
