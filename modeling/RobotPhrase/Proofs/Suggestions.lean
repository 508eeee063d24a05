import RobotPhrase.Proofs.Lowercase
import RobotPhrase.Suggestion

/-!
# What is suggested behind a text

The first context whose words stand in a text decides what is offered behind it; if there is none, the last word does
(`offered_eq`).  The offers of two contexts differ, and no context offers commands, so what is offered tells the context
(`context?_eq_of_offered_eq`).

When a little more is typed, the offers stay the same in two cases only (`isSettled_iff`).  Either the first context that
the new letters could complete is in the text already.  Or no context can be completed, there is room for a single
byte, which cannot begin another word, and the last word begins no command, so that it cannot begin one when it goes on.
-/

namespace RobotPhrase

open Text

namespace Suggestion

/-! ### Contexts -/

/-- Words that call for a value, and the values that are offered for it. -/
structure Context where
  words : List String
  values : List Suggestion
  deriving DecidableEq

/-- The contexts in the order in which they are looked for. -/
def contexts : List Context := [
  ⟨["move", "forward", "backward", "straight"], distances⟩,
  ⟨["turn", "rotate", "spin"], angles⟩,
  ⟨["wait", "pause", "delay"], durations⟩]

namespace Context

/-- Whether a word of the context stands in a text. -/
def isIn (context : Context) (cs : List Char) : Bool := context.words.any fun w => occurs w.toList cs

theorem isIn_iff {context : Context} {cs : List Char} :
    context.isIn cs = true ↔ ∃ w ∈ context.words, w.toList <:+: cs := by
  simp [isIn, occurs_iff]

theorem isIn_append {context : Context} {cs : List Char} (h : context.isIn cs = true) (ds : List Char) :
    context.isIn (cs ++ ds) = true := by
  obtain ⟨w, hw, hfound⟩ := isIn_iff.1 h
  exact isIn_iff.2 ⟨w, hw, hfound.trans (List.prefix_append cs ds).isInfix⟩

section

variable {context : Context} (hcontext : context ∈ contexts) {w : String} (hw : w ∈ context.words)

include hcontext hw

theorem ne_nil_of_mem_words : w.toList ≠ [] := by
  have htable : contexts.all (fun context => context.words.all fun w => !w.toList.isEmpty) = true := by decide +kernel
  simpa using List.all_eq_true.1 (List.all_eq_true.1 htable context hcontext) w hw

/-- The words of a context are written in small letters. -/
theorem letter_of_mem_words {c : Char} (hc : c ∈ w.toList) : 97 ≤ c.toNat ∧ c.toNat ≤ 122 := by
  have htable : contexts.all (fun context => context.words.all fun w =>
      w.toList.all fun c => 97 ≤ c.toNat && c.toNat ≤ 122) = true := by decide +kernel
  simpa using List.all_eq_true.1 (List.all_eq_true.1 (List.all_eq_true.1 htable context hcontext) w hw) c hc

theorem isBlank_of_mem_words {c : Char} (hc : c ∈ w.toList) : isBlank c = false := by
  obtain ⟨hlow, hhigh⟩ := letter_of_mem_words hcontext hw hc
  exact of_codes (p := fun c => isBlank c = false) (by decide) hlow hhigh

theorem isLowercase_of_mem_words {c : Char} (hc : c ∈ w.toList) : IsLowercase c := by
  obtain ⟨hlow, hhigh⟩ := letter_of_mem_words hcontext hw hc
  exact of_codes (p := IsLowercase) (by decide) hlow hhigh

theorem sigma_not_mem_words : 'σ' ∉ w.toList ∧ 'ς' ∉ w.toList := by
  constructor
  · intro hc
    exact absurd (letter_of_mem_words hcontext hw hc).2 (by decide)
  · intro hc
    exact absurd (letter_of_mem_words hcontext hw hc).2 (by decide)

end

section

variable {context : Context} (hcontext : context ∈ contexts)

include hcontext

theorem isIn_trim (cs : List Char) : context.isIn (trim cs) = context.isIn cs := by
  rw [Bool.eq_iff_iff, isIn_iff, isIn_iff]
  refine exists_congr fun w => and_congr_right fun hw => ?_
  constructor
  · intro hfound
    obtain ⟨before, after, -, -, hcs⟩ := exists_append_trim_append cs
    exact hfound.trans ⟨before, after, hcs.symm⟩
  · intro hfound
    -- it lies within a word of the text, and the text has the same words when it is trimmed
    obtain ⟨v, hv, hinside⟩ := exists_mem_words_of_infix (ne_nil_of_mem_words hcontext hw)
      (fun c hc => isBlank_of_mem_words hcontext hw hc) hfound
    rw [← words_trim] at hv
    exact hinside.trans (infix_of_mem_pieces (List.mem_of_mem_filter hv))

theorem isIn_map_plainSigma (cs : List Char) : context.isIn (cs.map plainSigma) = context.isIn cs := by
  rw [Bool.eq_iff_iff, isIn_iff, isIn_iff]
  refine exists_congr fun w => and_congr_right fun hw => ?_
  exact infix_map_iff (eq_plainSigma_iff (sigma_not_mem_words hcontext hw))

end

end Context

/-- The first context in a text. -/
def context? (cs : List Char) : Option Context := contexts.find? (·.isIn cs)

theorem mem_of_context? {cs : List Char} {context : Context} (h : context? cs = some context) : context ∈ contexts :=
  List.mem_of_find?_eq_some h

theorem isIn_of_context? {cs : List Char} {context : Context} (h : context? cs = some context) :
    context.isIn cs = true := (List.find?_eq_some_iff_append.1 h).1

/-- What is found first is found first among fewer things too. -/
private theorem find?_of_imp {α : Type} {l : List α} {p q : α → Bool} (himp : ∀ x ∈ l, p x = true → q x = true) {x : α}
    (hq : l.find? q = some x) (hp : p x = true) : l.find? p = some x := by
  obtain ⟨-, front, rest, rfl, hfront⟩ := List.find?_eq_some_iff_append.1 hq
  refine List.find?_eq_some_iff_append.2 ⟨hp, front, rest, rfl, fun y hy => ?_⟩
  have hnot := hfront y hy
  cases hpy : p y with
  | false => rfl
  | true => simp [himp y (by simp [hy]) hpy] at hnot

theorem context?_congr {cs ds : List Char} (h : ∀ context ∈ contexts, context.isIn cs = context.isIn ds) :
    context? cs = context? ds := by
  cases hds : context? ds with
  | none =>
    refine List.find?_eq_none.2 fun context hcontext => ?_
    rw [h context hcontext]
    exact List.find?_eq_none.1 hds context hcontext
  | some context =>
    refine find?_of_imp (fun context hcontext hin => h context hcontext ▸ hin) hds ?_
    rw [h context (mem_of_context? hds)]
    exact isIn_of_context? hds

/-! ### The last word -/

def lastWord (cs : List Char) : List Char := (words cs).getLast?.getD []

/-- Whether a text ends with a character that is no blank. -/
def endsVisibly (cs : List Char) : Bool := cs.getLast?.any isVisible

/-- A word behind a text that is empty or ends with a blank is the last one. -/
theorem lastWord_append {front w : List Char} (hfront : endsVisibly front = false) (hne : w ≠ [])
    (hw : ∀ c ∈ w, isBlank c = false) : lastWord (front ++ w) = w := by
  rcases List.eq_nil_or_concat front with rfl | ⟨front, b, rfl⟩
  · rw [List.nil_append, lastWord, words_eq_singleton hne hw]
    rfl
  · have hb : isBlank b = true := by simpa [endsVisibly, isVisible] using hfront
    rw [List.concat_eq_append, List.append_assoc, List.singleton_append, lastWord, words_append_cons hb,
      words_eq_singleton hne hw, List.getLast?_concat]
    rfl

theorem exists_append_word {cs : List Char} (h : endsVisibly cs = true) :
    ∃ front w, cs = front ++ w ∧ endsVisibly front = false ∧ w ≠ [] ∧ ∀ c ∈ w, isBlank c = false := by
  refine ⟨(cs.reverse.dropWhile isVisible).reverse, (cs.reverse.takeWhile isVisible).reverse, ?_, ?_, ?_, ?_⟩
  · rw [← List.reverse_append, List.takeWhile_append_dropWhile, List.reverse_reverse]
  · have hhead := List.head?_dropWhile_not isVisible cs.reverse
    unfold endsVisibly
    rw [List.getLast?_reverse]
    cases hc : (cs.reverse.dropWhile isVisible).head? with
    | none => rfl
    | some c =>
      rw [hc] at hhead
      exact hhead
  · unfold endsVisibly at h
    rw [← List.head?_reverse] at h
    cases hcs : cs.reverse with
    | nil => simp [hcs] at h
    | cons c rest =>
      have hc : isVisible c = true := by simpa [hcs] using h
      simp [hc]
  · intro c hc
    have hvisible := List.all_eq_true.1 List.all_takeWhile c (List.mem_reverse.1 hc)
    simpa [isVisible] using hvisible

/-- A character that is no blank goes on with the last word. -/
theorem lastWord_concat {cs : List Char} (h : endsVisibly cs = true) {c : Char} (hc : isBlank c = false) :
    lastWord cs ≠ [] ∧ lastWord (cs ++ [c]) = lastWord cs ++ [c] := by
  obtain ⟨front, w, rfl, hfront, hne, hw⟩ := exists_append_word h
  have hlonger : ∀ d ∈ w ++ [c], isBlank d = false := by
    intro d hd
    rcases List.mem_append.1 hd with hd | hd
    · exact hw d hd
    · rw [List.mem_singleton.1 hd, hc]
  rw [lastWord_append hfront hne hw, List.append_assoc, lastWord_append hfront (by simp) hlonger]
  exact ⟨hne, rfl⟩

theorem lastWord_concat_blank (cs : List Char) {b : Char} (hb : isBlank b = true) :
    lastWord (cs ++ [b]) = lastWord cs := by
  rw [lastWord, words_append_cons hb]
  exact congrArg (fun ws => ws.getLast?.getD []) (List.append_nil (words cs))

/-! ### Commands for the last word -/

/-- The commands that begin with a word. -/
def begunBy (word : List Char) : List Suggestion := templates.filter fun t => startsWith word t.text.toList

/-- What is offered behind a word without a context. -/
def commandsFor (word : List Char) : List Suggestion := if (begunBy word).isEmpty then usual else begunBy word

theorem isEmpty_begunBy_iff {word : List Char} :
    (begunBy word).isEmpty = true ↔ ∀ t ∈ templates, ¬ word <+: t.text.toList := by
  rw [List.isEmpty_iff, begunBy, List.filter_eq_nil_iff]
  simp only [startsWith_iff]

theorem isEmpty_begunBy_append {word : List Char} (h : (begunBy word).isEmpty = true) (cs : List Char) :
    (begunBy (word ++ cs)).isEmpty = true := by
  rw [isEmpty_begunBy_iff] at h ⊢
  exact fun t ht hbegins => h t ht ((List.prefix_append word cs).trans hbegins)

/-- The commands are written in ASCII, and none of them has a z. -/
theorem not_mem_text {t : Suggestion} (ht : t ∈ templates) {c : Char} (hc : 'z'.toNat ≤ c.toNat) :
    c ∉ t.text.toList := by
  have htable : templates.all (fun t => t.text.toList.all fun c => c.toNat < 'z'.toNat) = true := by decide +kernel
  intro hmem
  have hlt := List.all_eq_true.1 (List.all_eq_true.1 htable t ht) c hmem
  exact Nat.not_lt.2 hc (of_decide_eq_true hlt)

theorem isEmpty_begunBy_concat (word : List Char) : (begunBy (word ++ ['z'])).isEmpty = true := by
  rw [isEmpty_begunBy_iff]
  intro t ht hbegins
  exact not_mem_text ht (Nat.le_refl _) (hbegins.subset (by simp))

theorem begunBy_map_plainSigma (word : List Char) : begunBy (word.map plainSigma) = begunBy word := by
  refine List.filter_congr fun t ht => ?_
  have hsigma : 'σ' ∉ t.text.toList ∧ 'ς' ∉ t.text.toList :=
    ⟨not_mem_text ht (by decide), not_mem_text ht (by decide)⟩
  rw [Bool.eq_iff_iff, startsWith_iff, startsWith_iff, map_isPrefix_iff (eq_plainSigma_iff hsigma)]

/-- What is offered behind a last word without a context, as far as it is shown. -/
def offeredCommands (word : List Char) : List Suggestion := (commandsFor word).take maxCount

theorem offeredCommands_subset (word : List Char) : offeredCommands word ⊆ templates := by
  intro s hs
  have hmem := List.mem_of_mem_take hs
  unfold commandsFor at hmem
  split at hmem
  · exact List.mem_of_mem_take hmem
  · exact List.mem_of_mem_filter hmem

theorem offeredCommands_of_isEmpty {word : List Char} (h : (begunBy word).isEmpty = true) :
    offeredCommands word = usual := by
  rw [offeredCommands, commandsFor, if_pos h]
  rfl

/-- The usual commands are not those that begin with a certain word, since they begin with different letters. -/
theorem isEmpty_begunBy_of_usual {word : List Char} (hne : word ≠ []) (h : offeredCommands word = usual) :
    (begunBy word).isEmpty = true := by
  refine Decidable.byContradiction fun hbegun => ?_
  rw [offeredCommands, commandsFor, if_neg hbegun] at h
  have hbegins (t : Suggestion) (ht : t ∈ usual) : word <+: t.text.toList := by
    rw [← h] at ht
    exact startsWith_iff.1 (List.mem_filter.1 (List.mem_of_mem_take ht)).2
  have hmove := hbegins ⟨"move forward ", "move forward [distance]", .movement⟩ (by decide)
  have harc := hbegins ⟨"arc left ", "arc left [radius] [angle]", .movement⟩ (by decide)
  cases word with
  | nil => exact hne rfl
  | cons c word =>
    have hm : c = 'm' := (List.cons_prefix_cons.1 hmove).1
    have ha : c = 'a' := (List.cons_prefix_cons.1 harc).1
    exact absurd (hm.symm.trans ha) (by decide)

/-! ### What is offered -/

/-- What is offered behind a text in lowercase. -/
def offered (before : List Char) : List Suggestion := (behind (trim before)).take maxCount

theorem offered_of_allBlank {cs : List Char} (h : AllBlank cs) : offered cs = usual := by
  rw [offered, trim_eq_nil_iff.2 h]
  rfl

theorem behind_eq {before : List Char} (hne : before ≠ []) :
    behind before = ((context? before).map (·.values)).getD (commandsFor (lastWord before)) := by
  have hempty : ¬ before.isEmpty = true := by rwa [List.isEmpty_iff]
  have hfirst (context : Context) (rest : List Context) (other : List Suggestion) :
      (((context :: rest).find? (·.isIn before)).map (·.values)).getD other =
        if context.isIn before then context.values else ((rest.find? (·.isIn before)).map (·.values)).getD other := by
    rw [List.find?_cons]
    cases context.isIn before <;> rfl
  unfold behind context? contexts
  rw [if_neg hempty, hfirst, hfirst, hfirst]
  rfl

/-- The first context decides what is offered, and the last word if there is none. -/
theorem offered_eq {cs : List Char} (h : ¬ AllBlank cs) :
    offered cs = ((context? cs).map (·.values)).getD (offeredCommands (lastWord cs)) := by
  have hne : trim cs ≠ [] := mt trim_eq_nil_iff.1 h
  have hcontext : context? (trim cs) = context? cs := context?_congr fun context hmem => context.isIn_trim hmem cs
  have hlast : lastWord (trim cs) = lastWord cs := by rw [lastWord, words_trim, lastWord]
  rw [offered, behind_eq hne, hcontext, hlast]
  cases hfound : context? cs with
  | none => rfl
  | some context =>
    have htable : contexts.all (fun context => context.values.take maxCount = context.values) = true := by decide
    simpa using List.all_eq_true.1 htable context (mem_of_context? hfound)

/-- What is offered tells the context. -/
theorem context?_eq_of_offered_eq {cs ds : List Char} (hcs : ¬ AllBlank cs) (hds : ¬ AllBlank ds)
    (h : offered cs = offered ds) : context? cs = context? ds := by
  have hvalues : ∀ context ∈ contexts, ∀ other ∈ contexts, context.values = other.values → context = other := by decide
  have hforeign : ∀ context ∈ contexts, ∀ word, context.values ≠ offeredCommands word := by
    intro context hcontext word heq
    have htable : contexts.all (fun context => context.values.any fun s => s ∉ templates) = true := by
      decide +kernel
    obtain ⟨s, hs, hnot⟩ := List.any_eq_true.1 (List.all_eq_true.1 htable context hcontext)
    exact of_decide_eq_true hnot (offeredCommands_subset word (heq ▸ hs))
  rw [offered_eq hcs, offered_eq hds] at h
  cases hc : context? cs with
  | none =>
    cases hd : context? ds with
    | none => rfl
    | some other =>
      rw [hc, hd] at h
      exact absurd h.symm (hforeign other (mem_of_context? hd) _)
  | some context =>
    cases hd : context? ds with
    | none =>
      rw [hc, hd] at h
      exact absurd h (hforeign context (mem_of_context? hc) _)
    | some other =>
      rw [hc, hd] at h
      rw [hvalues context (mem_of_context? hc) other (mem_of_context? hd) h]

/-- The form of a sigma has no influence on what is offered. -/
theorem offered_map_plainSigma (cs : List Char) : offered (cs.map plainSigma) = offered cs := by
  have hisBlank : ∀ c, isBlank (plainSigma c) = isBlank c := apply_plainSigma rfl
  have hblank : AllBlank (cs.map plainSigma) ↔ AllBlank cs := by
    rw [← trim_eq_nil_iff, trim_map hisBlank, List.map_eq_nil_iff, trim_eq_nil_iff]
  by_cases hcs : AllBlank cs
  · rw [offered_of_allBlank hcs, offered_of_allBlank (hblank.2 hcs)]
  · have hcontext : context? (cs.map plainSigma) = context? cs :=
      context?_congr fun context hmem => context.isIn_map_plainSigma hmem cs
    have hlast : lastWord (cs.map plainSigma) = (lastWord cs).map plainSigma := by
      unfold lastWord
      rw [words_map hisBlank, List.getLast?_map]
      cases (words cs).getLast? <;> rfl
    have hcommands : offeredCommands ((lastWord cs).map plainSigma) = offeredCommands (lastWord cs) := by
      rw [offeredCommands, commandsFor, begunBy_map_plainSigma, offeredCommands, commandsFor]
    rw [offered_eq (mt hblank.1 hcs), offered_eq hcs, hcontext, hlast, hcommands]

/-! ### What can still be typed -/

/-- A text in lowercase of at most `room` bytes. -/
structure Fits (room : Nat) (cs : List Char) : Prop where
  isLowercase : ∀ c ∈ cs, IsLowercase c
  byteSize_le : byteSize cs ≤ room

namespace Context

/-- Whether a word of the context stands in a text, or would with at most `room` more bytes. -/
def isWithin (context : Context) (room : Nat) (cs : List Char) : Bool :=
  context.isIn cs || context.words.any fun w => (List.range (w.toList.length + 1)).any fun n =>
    (w.toList.take n).isSuffixOf cs && byteSize (w.toList.drop n) ≤ room

variable {context : Context} {room : Nat} {cs : List Char}

theorem isWithin_iff :
    context.isWithin room cs = true ↔
      context.isIn cs = true ∨
        ∃ w ∈ context.words, ∃ front rest, w.toList = front ++ rest ∧ front <:+ cs ∧ byteSize rest ≤ room := by
  unfold isWithin
  simp only [Bool.or_eq_true, List.any_eq_true, Bool.and_eq_true, List.isSuffixOf_iff_suffix, decide_eq_true_eq,
    List.mem_range]
  refine or_congr_right (exists_congr fun w => and_congr_right fun _ => ?_)
  constructor
  · rintro ⟨n, -, hfront, hrest⟩
    exact ⟨_, _, (List.take_append_drop n w.toList).symm, hfront, hrest⟩
  · rintro ⟨front, rest, hw, hfront, hrest⟩
    refine ⟨front.length, ?_, ?_⟩
    · rw [hw, List.length_append]
      omega
    · rw [hw, List.take_left, List.drop_left]
      exact ⟨hfront, hrest⟩

theorem isWithin_of_isIn_append {ds : List Char} (h : context.isIn (cs ++ ds) = true) (hds : byteSize ds ≤ room) :
    context.isWithin room cs = true := by
  obtain ⟨w, hw, hfound⟩ := isIn_iff.1 h
  rw [isWithin_iff]
  rcases List.infix_append_iff.1 hfound with hcs | ⟨s, t, rfl⟩ | ⟨front, rest, hsplit, hfront, t, rfl⟩
  · exact .inl (isIn_iff.2 ⟨w, hw, hcs⟩)
  · rw [byteSize_append, byteSize_append] at hds
    exact .inr ⟨w, hw, [], w.toList, rfl, List.nil_suffix, by omega⟩
  · rw [byteSize_append] at hds
    exact .inr ⟨w, hw, front, rest, hsplit, hfront, by omega⟩

/-- What a text lacks of a context that is within reach can be typed. -/
theorem exists_of_isWithin (hcontext : context ∈ contexts) (h : context.isWithin room cs = true) :
    ∃ d, Fits room d ∧ context.isIn (cs ++ d) = true := by
  rcases isWithin_iff.1 h with hin | ⟨w, hw, front, rest, hsplit, ⟨before, rfl⟩, hroom⟩
  · exact ⟨[], ⟨by simp, Nat.zero_le room⟩, isIn_append hin []⟩
  · have hlower : ∀ c ∈ rest, IsLowercase c := by
      intro c hc
      exact isLowercase_of_mem_words hcontext hw (by rw [hsplit]; exact List.mem_append_right front hc)
    exact ⟨rest, ⟨hlower, hroom⟩, isIn_iff.2 ⟨w, hw, before, [], by rw [hsplit]; simp⟩⟩

end Context

/-- Whether nothing of at most `room` bytes that is typed behind a text changes what is offered: the first context within
reach is in the text already, or none is within reach and a single byte neither begins a word nor goes on with one that
begins a command. -/
def isSettled (room : Nat) (before : List Char) : Bool :=
  match contexts.find? (·.isWithin room before) with
  | some context => context.isIn before
  | none => room ≤ 1 && endsVisibly before && (begunBy (lastWord before)).isEmpty

section

variable {room : Nat} (hroom : 0 < room) {before : List Char}

/-- If the commands for the last word stay the same, no other word can be begun: its first letter could be an r or
an a. -/
private theorem endsVisibly_append
    (hsame : ∀ d, Fits room d → offeredCommands (lastWord (before ++ d)) = offeredCommands (lastWord before))
    {gap : List Char} (hlower : ∀ c ∈ gap, IsLowercase c) (hsize : byteSize gap + 1 ≤ room) :
    endsVisibly (before ++ gap) = true := by
  refine Decidable.byContradiction fun hend => ?_
  have hletter {c : Char} (hc : isBlank c = false ∧ IsLowercase c ∧ c.utf8Size = 1) :
      offeredCommands [c] = offeredCommands (lastWord before) := by
    have hlast : lastWord (before ++ (gap ++ [c])) = [c] := by
      rw [← List.append_assoc]
      exact lastWord_append (by simpa using hend) (by simp) (by simpa using hc.1)
    have hfits : Fits room (gap ++ [c]) := by
      refine ⟨fun x hx => ?_, ?_⟩
      · rcases List.mem_append.1 hx with hx | hx
        · exact hlower x hx
        · rw [List.mem_singleton.1 hx]
          exact hc.2.1
      · rw [byteSize_append, byteSize, byteSize, hc.2.2]
        omega
    rw [← hlast]
    exact hsame _ hfits
  have hra : offeredCommands ['r'] = offeredCommands ['a'] := (hletter (by decide)).trans (hletter (by decide)).symm
  exact absurd hra (by decide +kernel)

include hroom

/-- The commands for the last word stay the same exactly if no other word can be begun and the last one begins no
command. -/
theorem offeredCommands_settled_iff :
    (∀ d, Fits room d → offeredCommands (lastWord (before ++ d)) = offeredCommands (lastWord before)) ↔
      room ≤ 1 ∧ endsVisibly before = true ∧ (begunBy (lastWord before)).isEmpty = true := by
  constructor
  · intro hsame
    have hends : endsVisibly before = true := by
      have hnil := endsVisibly_append hsame (by simp : ∀ c ∈ [], IsLowercase c) hroom
      rwa [List.append_nil] at hnil
    refine ⟨?_, hends, ?_⟩
    · refine Nat.le_of_not_lt fun hlt => ?_
      have hblank : endsVisibly (before ++ [' ']) = false := by
        rw [endsVisibly, List.getLast?_concat]
        decide
      have hvisible := endsVisibly_append hsame (List.forall_mem_singleton.2 (by decide : IsLowercase ' ')) hlt
      exact Bool.false_ne_true (hblank.symm.trans hvisible)
    · -- behind a z the usual commands are offered, so they are offered without it
      obtain ⟨hne, hlonger⟩ := lastWord_concat hends (by decide : isBlank 'z' = false)
      have hz := hsame ['z'] ⟨List.forall_mem_singleton.2 (by decide), hroom⟩
      rw [hlonger, offeredCommands_of_isEmpty (isEmpty_begunBy_concat _)] at hz
      exact isEmpty_begunBy_of_usual hne hz.symm
  · rintro ⟨hone, hends, hnone⟩ d ⟨-, hd⟩
    cases d with
    | nil => rw [List.append_nil]
    | cons c d =>
      have hpos : 0 < c.utf8Size := c.utf8Size_pos
      obtain rfl : d = [] := by
        cases d with
        | nil => rfl
        | cons x d =>
          have := x.utf8Size_pos
          rw [byteSize, byteSize] at hd
          omega
      cases hc : isBlank c with
      | true => rw [lastWord_concat_blank before hc]
      | false =>
        rw [(lastWord_concat hends hc).2, offeredCommands_of_isEmpty hnone,
          offeredCommands_of_isEmpty (isEmpty_begunBy_append hnone [c])]

theorem isSettled_iff (hvisible : ¬ AllBlank before) :
    isSettled room before = true ↔ ∀ d, Fits room d → offered (before ++ d) = offered before := by
  have hstill (d : List Char) : ¬ AllBlank (before ++ d) := fun h => hvisible h.of_append_left
  have hwithin {d : List Char} (hd : Fits room d) :
      ∀ context ∈ contexts, context.isIn (before ++ d) = true → context.isWithin room before = true :=
    fun _ _ h => Context.isWithin_of_isIn_append h hd.byteSize_le
  have hnil : Fits room [] := ⟨by simp, Nat.zero_le room⟩
  unfold isSettled
  cases hfirst : contexts.find? (·.isWithin room before) with
  | some context =>
    have hcontext : context ∈ contexts := List.mem_of_find?_eq_some hfirst
    have hthere {d : List Char} (hd : Fits room d) (hin : context.isIn (before ++ d) = true) :
        context? (before ++ d) = some context := find?_of_imp (hwithin hd) hfirst hin
    constructor
    · intro hin d hd
      have hbefore := hthere hnil (Context.isIn_append hin [])
      rw [List.append_nil] at hbefore
      rw [offered_eq (hstill d), offered_eq hvisible, hthere hd (Context.isIn_append hin d), hbefore]
      rfl
    · intro hsame
      obtain ⟨d, hd, hin⟩ := Context.exists_of_isWithin hcontext (List.find?_eq_some_iff_append.1 hfirst).1
      have hcontext? := context?_eq_of_offered_eq (hstill d) hvisible (hsame d hd)
      rw [hthere hd hin] at hcontext?
      exact isIn_of_context? hcontext?.symm
  | none =>
    have hoffered {d : List Char} (hd : Fits room d) :
        offered (before ++ d) = offeredCommands (lastWord (before ++ d)) := by
      have hnone : context? (before ++ d) = none := List.find?_eq_none.2 fun context hcontext hin =>
        List.find?_eq_none.1 hfirst context hcontext (hwithin hd context hcontext hin)
      rw [offered_eq (hstill d), hnone]
      rfl
    have hbefore := hoffered hnil
    rw [List.append_nil] at hbefore
    simp only [Bool.and_eq_true, decide_eq_true_eq, and_assoc]
    rw [← offeredCommands_settled_iff hroom, hbefore]
    refine forall_congr' fun d => forall_congr' fun hd => ?_
    rw [hoffered hd]

end

end Suggestion

end RobotPhrase
