import RobotPhrase.Program.Completer
import RobotPhrase.Proofs.Search

/-!
# Code inside fences

A reply may hold its code between two fences, and the opening one may name the language.  The code comes back from such
a reply whatever blanks stand around and inside the fences (`stripFences_roundTrip`), even code that begins or ends with
a fence itself, since only one fence is taken off at each end.  There is one thing to mind: behind a fence without the
name of the language and without a blank, code that begins with that name loses it.  Code without fences must not begin
or end with one.
-/

namespace RobotPhrase

open Text

/-! ### Trimmed texts -/

namespace Text

/-- A text that neither begins nor ends with a blank. -/
def IsTrimmed (cs : List Char) : Prop :=
  (∀ c, cs.head? = some c → isBlank c = false) ∧ ∀ c, cs.getLast? = some c → isBlank c = false

theorem length_trim_le (cs : List Char) : (trim cs).length ≤ cs.length := by
  obtain ⟨before, after, -, -, hcs⟩ := exists_append_trim_append cs
  have hlength := congrArg List.length hcs
  simp only [List.length_append] at hlength
  omega

theorem isTrimmed_trim (cs : List Char) : IsTrimmed (trim cs) := by
  -- a blank at one end would make the text shorter when it is trimmed again
  have hagain := congrArg List.length (trim_trim cs)
  constructor
  · intro c hc
    obtain ⟨rest, hrest⟩ := List.head?_eq_some_iff.1 hc
    rw [hrest] at hagain
    refine Bool.eq_false_iff.2 fun hblank => ?_
    have hdrop : trim (c :: rest) = trim rest := by
      simpa using trim_around (show AllBlank [c] by simpa [AllBlank]) (show AllBlank [] by simp [AllBlank]) rest
    have hle := length_trim_le rest
    rw [hdrop, List.length_cons] at hagain
    omega
  · intro c hc
    obtain ⟨front, hfront⟩ := List.getLast?_eq_some_iff.1 hc
    rw [hfront] at hagain
    refine Bool.eq_false_iff.2 fun hblank => ?_
    have hle := length_trim_le front
    rw [trim_concat hblank, List.length_append, List.length_singleton] at hagain
    omega

theorem IsTrimmed.trim_around {cs : List Char} (h : IsTrimmed cs) {before after : List Char} (hbefore : AllBlank before)
    (hafter : AllBlank after) : trim (before ++ cs ++ after) = cs := by
  rw [Text.trim_around hbefore hafter, trim_eq_self h.1 h.2]

end Text

/-! ### A fence at one end -/

theorem dropOpeningFence_language (cs : List Char) : dropOpeningFence (fence ++ "python".toList ++ cs) = cs := by
  unfold dropOpeningFence
  rw [after?_eq_some_iff.2 rfl]
  rfl

theorem dropOpeningFence_plain {cs : List Char} (h : ¬ "python".toList <+: cs) : dropOpeningFence (fence ++ cs) = cs := by
  have hlanguage : after? (fence ++ "python".toList) (fence ++ cs) = none := by
    rw [after?_eq_none_iff, List.prefix_append_right_inj]
    exact h
  unfold dropOpeningFence
  rw [hlanguage, after?_eq_some_iff.2 rfl]
  rfl

theorem dropOpeningFence_of_not {cs : List Char} (h : ¬ fence <+: cs) : dropOpeningFence cs = cs := by
  have hlanguage : after? (fence ++ "python".toList) cs = none :=
    after?_eq_none_iff.2 fun hfound => h ((List.prefix_append fence _).trans hfound)
  unfold dropOpeningFence
  rw [hlanguage, after?_eq_none_iff.2 h]
  rfl

theorem dropClosingFence_append (cs : List Char) : dropClosingFence (cs ++ fence) = cs := by
  have hreverse : (cs ++ fence).reverse = fence ++ cs.reverse := List.reverse_append
  unfold dropClosingFence
  rw [hreverse, after?_eq_some_iff.2 rfl]
  exact List.reverse_reverse cs

theorem dropClosingFence_of_not {cs : List Char} (h : ¬ fence <:+ cs) : dropClosingFence cs = cs := by
  have hreverse : ¬ fence <+: cs.reverse := by
    rw [← List.reverse_suffix, List.reverse_reverse]
    exact h
  unfold dropClosingFence
  rw [after?_eq_none_iff.2 hreverse]

/-! ### Replies -/

theorem isTrimmed_fenced (cs : List Char) : IsTrimmed (fence ++ cs ++ fence) := by
  constructor
  · intro c hc
    obtain rfl : '\x60' = c := Option.some.inj hc
    decide
  · intro c hc
    rw [List.getLast?_append] at hc
    obtain rfl : '\x60' = c := Option.some.inj hc
    decide

theorem stripFences_of_isTrimmed {reply before after : List Char} (h : IsTrimmed reply) (hbefore : AllBlank before)
    (hafter : AllBlank after) :
    stripFences (before ++ reply ++ after) = trim (dropClosingFence (dropOpeningFence reply)) := by
  rw [stripFences, h.trim_around hbefore hafter]

theorem isTrimmed_stripFences (reply : List Char) : IsTrimmed (stripFences reply) := isTrimmed_trim _

section

variable {before inner code outer after : List Char} (hinner : AllBlank inner) (houter : AllBlank outer)

include hinner houter

/-- Behind a fence the name of the language can only be read from the code, and only if no blank stands between. -/
theorem not_language_of_code (h : inner ≠ [] ∨ ¬ "python".toList <+: code) :
    ¬ "python".toList <+: inner ++ code ++ outer ++ fence := by
  have hblank {b : Char} (hb : isBlank b = true) : b ∉ "python".toList := by
    have hletters : "python".toList.all (fun c => !isBlank c) = true := by decide
    intro hmem
    simpa [hb] using List.all_eq_true.1 hletters b hmem
  have houtside : "python".toList <+: inner ++ code ++ outer ++ fence ↔ "python".toList <+: inner ++ code := by
    cases outer with
    | nil =>
      rw [List.append_nil]
      exact prefix_append_cons_iff (by decide)
    | cons b outer =>
      rw [List.append_assoc, List.cons_append]
      exact prefix_append_cons_iff (hblank (houter b (by simp)))
  rw [houtside]
  cases inner with
  | nil => exact h.resolve_left (by simp)
  | cons b inner =>
    intro hfound
    have hnil : "python".toList <+: [] := (prefix_append_cons_iff (a := []) (hblank (hinner b (by simp)))).1 hfound
    exact absurd (List.prefix_nil.1 hnil) (by decide)

/-- Code comes back from between two fences if what is written behind the opening one is taken off with it. -/
theorem stripFences_fenced {label : List Char} (hbefore : AllBlank before) (hcode : IsTrimmed code)
    (hafter : AllBlank after)
    (hopening : dropOpeningFence (fence ++ label ++ (inner ++ code ++ outer ++ fence)) = inner ++ code ++ outer ++ fence) :
    stripFences (before ++ fence ++ label ++ inner ++ code ++ outer ++ fence ++ after) = code := by
  have hreply : before ++ fence ++ label ++ inner ++ code ++ outer ++ fence ++ after =
      before ++ (fence ++ (label ++ inner ++ code ++ outer) ++ fence) ++ after := by
    simp only [List.append_assoc]
  have hrest : fence ++ (label ++ inner ++ code ++ outer) ++ fence =
      fence ++ label ++ (inner ++ code ++ outer ++ fence) := by
    simp only [List.append_assoc]
  rw [hreply, stripFences_of_isTrimmed (isTrimmed_fenced _) hbefore hafter, hrest, hopening, dropClosingFence_append,
    hcode.trim_around hinner houter]

end

theorem Completion.ofReply_eq_error {reply : String} (h : stripFences reply.toList = []) (tokensUsed : Nat) :
    ofReply reply tokensUsed = .error .emptyResponse := by
  unfold ofReply
  rw [h]
  rfl

theorem Completion.ofReply_eq_ok {reply : String} (h : stripFences reply.toList ≠ []) (tokensUsed : Nat) :
    ofReply reply tokensUsed = .ok ⟨String.ofList (stripFences reply.toList), tokensUsed⟩ := by
  unfold ofReply
  exact if_neg (by rwa [List.isEmpty_iff])

/-- Code without blanks at its ends comes back from between two fences, with blanks inside and around them; if the
opening fence does not name the language, a blank must stand behind it or the code must not begin with that name.
Without fences around it code comes back if it neither begins nor ends with one.  A reply is empty exactly if nothing
is left of it, and otherwise what is left, which has no blanks at its ends, is the code of the completion. -/
theorem stripFences_roundTrip :
    (∀ before inner code outer after : List Char,
      AllBlank before → AllBlank inner → IsTrimmed code → AllBlank outer → AllBlank after →
        stripFences (before ++ fence ++ "python".toList ++ inner ++ code ++ outer ++ fence ++ after) = code ∧
        (inner ≠ [] ∨ ¬ "python".toList <+: code →
          stripFences (before ++ fence ++ inner ++ code ++ outer ++ fence ++ after) = code) ∧
        (¬ fence <+: code ∧ ¬ fence <:+ code → stripFences (before ++ code ++ after) = code)) ∧
    ∀ (reply : String) (tokensUsed : Nat),
      (Completion.ofReply reply tokensUsed = .error .emptyResponse ↔ stripFences reply.toList = []) ∧
      (stripFences reply.toList ≠ [] →
        Completion.ofReply reply tokensUsed = .ok ⟨String.ofList (stripFences reply.toList), tokensUsed⟩ ∧
        IsTrimmed (stripFences reply.toList)) := by
  constructor
  · intro before inner code outer after hbefore hinner hcode houter hafter
    refine ⟨?_, fun hlanguage => ?_, fun hfence => ?_⟩
    · exact stripFences_fenced hinner houter hbefore hcode hafter (dropOpeningFence_language _)
    · have hopening : dropOpeningFence (fence ++ [] ++ (inner ++ code ++ outer ++ fence)) =
          inner ++ code ++ outer ++ fence := by
        rw [List.append_nil]
        exact dropOpeningFence_plain (not_language_of_code hinner houter hlanguage)
      simpa only [List.append_nil] using stripFences_fenced hinner houter hbefore hcode hafter hopening
    · rw [stripFences_of_isTrimmed hcode hbefore hafter, dropOpeningFence_of_not hfence.1,
        dropClosingFence_of_not hfence.2, trim_eq_self hcode.1 hcode.2]
  · intro reply tokensUsed
    refine ⟨⟨fun herror => ?_, fun hnil => Completion.ofReply_eq_error hnil tokensUsed⟩, fun hne => ?_⟩
    · refine Decidable.byContradiction fun hne => ?_
      rw [Completion.ofReply_eq_ok hne] at herror
      cases herror
    · exact ⟨Completion.ofReply_eq_ok hne tokensUsed, isTrimmed_stripFences _⟩

/-- Code that begins with the name of the language comes back from behind a line break and without fences. -/
theorem stripFences_roundTrip_python :
    (stripFences ("\u00A0".toList ++ fence ++ "python".toList ++ "\n".toList ++ "python = 3".toList ++ "\n".toList ++
        fence ++ " ".toList) = "python = 3".toList ∧
      stripFences ("\u00A0".toList ++ fence ++ "\n".toList ++ "python = 3".toList ++ "\n".toList ++ fence ++
        " ".toList) = "python = 3".toList ∧
      stripFences ("\u00A0".toList ++ "python = 3".toList ++ " ".toList) = "python = 3".toList) ∧
    Completion.ofReply "```\nwait(10)```" 3 = .ok ⟨"wait(10)", 3⟩ := by
  have hcode : IsTrimmed "python = 3".toList := by
    constructor
    · intro c hc
      obtain rfl : 'p' = c := Option.some.inj hc
      decide
    · intro c hc
      obtain rfl : '3' = c := Option.some.inj hc
      decide
  have hleft : stripFences "```\nwait(10)```".toList = "wait(10)".toList := by decide
  obtain ⟨hlanguage, hplain, hbare⟩ := stripFences_roundTrip.1 "\u00A0".toList "\n".toList "python = 3".toList
    "\n".toList " ".toList (List.all_eq_true.1 (by decide)) (List.all_eq_true.1 (by decide)) hcode
    (List.all_eq_true.1 (by decide)) (List.all_eq_true.1 (by decide))
  refine ⟨⟨hlanguage, hplain (.inl (by decide)), hbare (by decide)⟩, ?_⟩
  rw [((stripFences_roundTrip.2 "```\nwait(10)```" 3).2 (by rw [hleft]; decide)).1, hleft, String.ofList_toList]

-- directly behind the fence the name is taken for that of the language
example : stripFences "```python = 3```".toList = "= 3".toList := by decide

end RobotPhrase
