import RobotPhrase.Program.Compile

/-!
# What a completer can change

A completer is called once for each report that is left open, in order, and for no other, and it changes a report only
by an answer to the call for it (`Settled`).  This is shown for every completer, with states of any type: `recording`
lets it write down its calls, which changes nothing else, and `compileWith_settled` compares the program with the one
that is compiled without a completer.
-/

namespace RobotPhrase

/-- A prompt that was put to a completer, and its answer. -/
structure Call where
  prompt : String
  answer : Except CompleterError Completion

/-- A completer that also writes down its calls. -/
def Completer.recording {σ : Type} (c : Completer σ) : Completer (σ × List Call) where
  complete prompt s :=
    let (answer, next) := c.complete prompt s.1
    (answer, next, s.2 ++ [⟨prompt, answer⟩])

/-- The prompt for a report that is left open: it asks for code if the command is not understood, and for a hint if a
value is missing. -/
def Report.prompt? (r : Robot) (report : Report) : Option String :=
  match report.answer.status, report.answer.clarification? with
  | .needsModel, _ => some (fallbackPrompt report.command r)
  | .needsClarification, some c => some (clarificationPrompt report.command c.question.field)
  | _, _ => none

/-- What becomes of a report when the call for it is answered. -/
inductive Amended (report : Report) : Except CompleterError Completion → Report → Prop
  | failed (e : CompleterError) : Amended report (.error e) report
  | completed {completion : Completion} {result : Report} (hopen : report.answer.status = .needsModel)
    (hcommand : result.command = report.command) (hstatus : result.answer.status = .parsed)
    (hkind : result.answer.kind? = some .completed) (hconfidence : result.answer.confidence = ⟨85⟩)
    (hmodel : result.answer.needsModel = false) (hcode : result.answer.code? = some completion.code) :
    Amended report (.ok completion) result
  | reworded {completion : Completion} {asked : Clarification}
    (hopen : report.answer.outcome = .needsClarification asked) :
    Amended report (.ok completion) ⟨report.command, { report.answer with
      outcome := .needsClarification { asked with message := Text.trimmed completion.code } }⟩

/-- Reports, the calls made for them one after another, and the reports that result. -/
inductive Settled (r : Robot) : List Report → List Call → List Report → Prop
  | nil : Settled r [] [] []
  | kept {report : Report} {reports results : List Report} {calls : List Call} (h : report.prompt? r = none)
    (rest : Settled r reports calls results) : Settled r (report :: reports) calls (report :: results)
  | called {report result : Report} {reports results : List Report} {call : Call} {calls : List Call}
    (h : report.prompt? r = some call.prompt) (ha : Amended report call.answer result)
    (rest : Settled r reports calls results) : Settled r (report :: reports) (call :: calls) (result :: results)

theorem Amended.command_eq {report result : Report} {answer : Except CompleterError Completion}
    (h : Amended report answer result) : result.command = report.command := by
  cases h with
  | failed => rfl
  | completed _ hcommand => exact hcommand
  | reworded => rfl

theorem Amended.eq_of_error {report result : Report} {e : CompleterError} (h : Amended report (.error e) result) :
    result = report := by
  cases h
  rfl

namespace Settled

variable {r : Robot} {reports results : List Report} {calls : List Call}

/-- Every report that is left open is called for once, in order. -/
theorem map_prompt (h : Settled r reports calls results) :
    calls.map Call.prompt = reports.filterMap (Report.prompt? r) := by
  induction h with
  | nil => rfl
  | kept h _ ih => rw [List.filterMap_cons_none h, ih]
  | called h _ _ ih => rw [List.filterMap_cons_some h, List.map_cons, ih]

theorem map_command (h : Settled r reports calls results) :
    results.map Report.command = reports.map Report.command := by
  induction h with
  | nil => rfl
  | kept _ _ ih => rw [List.map_cons, List.map_cons, ih]
  | called _ ha _ ih => rw [List.map_cons, List.map_cons, ih, ha.command_eq]

/-- Nothing changes if every call fails. -/
theorem eq_of_errors (h : Settled r reports calls results)
    (hcalls : ∀ call ∈ calls, ∃ e, call.answer = .error e) : results = reports := by
  induction h with
  | nil => rfl
  | kept _ _ ih => rw [ih hcalls]
  | called _ ha _ ih =>
    obtain ⟨e, he⟩ := hcalls _ (List.mem_cons_self ..)
    rw [he] at ha
    rw [ha.eq_of_error, ih (fun call hcall => hcalls call (List.mem_cons_of_mem _ hcall))]

end Settled

/-- The answer of a report when the call for it is answered. -/
private def Report.amend (report : Report) : Except CompleterError Completion → Answer
  | .error _ => report.answer
  | .ok completion =>
    match report.answer.outcome with
    | .needsClarification asked =>
      { report.answer with outcome := .needsClarification { asked with message := Text.trimmed completion.code } }
    | _ => .success (.completed completion.code) .completed ⟨85⟩

/-- Only an error is left to a completer. -/
private theorem Answer.status_eq_needsModel_iff {a : Answer} :
    a.status = .needsModel ↔ ∃ message, a.outcome = .error message ∧ a.needsModel = true := by
  unfold status
  cases a.outcome <;> simp

/-- The two sorts of reports that are left open. -/
private theorem Report.open_cases {r : Robot} {report : Report} {prompt : String}
    (h : report.prompt? r = some prompt) :
    (report.answer.status = .needsModel ∧ prompt = fallbackPrompt report.command r) ∨
    ∃ asked, report.answer.outcome = .needsClarification asked ∧
      prompt = clarificationPrompt report.command asked.question.field := by
  cases houtcome : report.answer.outcome with
  | success c => simp [prompt?, Answer.status, houtcome] at h
  | needsClarification asked =>
    exact .inr ⟨asked, rfl, by simpa [prompt?, Answer.status, Answer.clarification?, houtcome, eq_comm] using h⟩
  | error message =>
    cases hmodel : report.answer.needsModel with
    | true =>
      have hopen := Answer.status_eq_needsModel_iff.2 ⟨message, houtcome, hmodel⟩
      exact .inl ⟨hopen, by simpa [prompt?, hopen, eq_comm] using h⟩
    | false => simp [prompt?, Answer.status, houtcome, hmodel] at h

private theorem amended_amend {r : Robot} {report : Report} {prompt : String} (h : report.prompt? r = some prompt)
    (answer : Except CompleterError Completion) : Amended report answer ⟨report.command, report.amend answer⟩ := by
  cases answer with
  | error e => exact .failed e
  | ok completion =>
    rcases Report.open_cases h with ⟨hopen, -⟩ | ⟨asked, hopen, -⟩
    · obtain ⟨message, houtcome, -⟩ := Answer.status_eq_needsModel_iff.1 hopen
      simp only [Report.amend, houtcome]
      refine .completed hopen rfl rfl rfl rfl rfl ?_
      simp [Answer.code?, Answer.command?, Answer.success, Command.code, Command.lines, Text.joinLines]
    · simp only [Report.amend, hopen]
      exact .reworded hopen

namespace Completer

variable {σ : Type} (c : Completer σ) (r : Robot)

private theorem complete_recording (prompt : String) (s : σ) (log : List Call) :
    c.recording.complete prompt (s, log) =
      ((c.complete prompt s).1, (c.complete prompt s).2, log ++ [⟨prompt, (c.complete prompt s).1⟩]) :=
  rfl

private theorem settle_of_prompt?_eq_none {report : Report} (h : report.prompt? r = none) (s : σ) :
    c.settle r report.command report.answer s = (report.answer, s) := by
  have hmodel : report.answer.status ≠ .needsModel := by
    intro hopen
    simp [Report.prompt?, hopen] at h
  unfold settle
  simp only [if_neg hmodel]
  cases houtcome : report.answer.outcome with
  | success c => rfl
  | needsClarification asked => simp [Report.prompt?, Answer.status, Answer.clarification?, houtcome] at h
  | error message => rfl

/-- One call for a report that is left open. -/
private theorem settle_of_prompt?_eq_some {report : Report} {prompt : String} (h : report.prompt? r = some prompt)
    (s : σ) : c.settle r report.command report.answer s =
      (report.amend (c.complete prompt s).1, (c.complete prompt s).2) := by
  rcases Report.open_cases h with ⟨hopen, rfl⟩ | ⟨asked, hopen, rfl⟩
  · obtain ⟨message, houtcome, -⟩ := Answer.status_eq_needsModel_iff.1 hopen
    unfold settle fallback
    rw [if_pos hopen]
    rcases hcall : c.complete (fallbackPrompt report.command r) s with ⟨_ | completion, next⟩ <;>
      simp [Report.amend, houtcome, Answer.success]
  · have hmodel : report.answer.status ≠ .needsModel := by simp [Answer.status, hopen]
    unfold settle explain
    simp only [if_neg hmodel, hopen]
    rcases hcall : c.complete (clarificationPrompt report.command asked.question.field) s with
      ⟨_ | completion, next⟩
    · -- the question is put in the words that it had
      simp only [Report.amend, Prod.mk.injEq, and_true]
      rw [← hopen]
    · simp [Report.amend, hopen]

/-- The calls for a list of reports, and what becomes of it; to record them changes nothing. -/
private theorem settleAll_recording (reports : List Report) (s : σ) (log : List Call) :
    ∃ calls, c.recording.settleAll r reports (s, log) =
        ((c.settleAll r reports s).1, (c.settleAll r reports s).2, log ++ calls) ∧
      Settled r reports calls (c.settleAll r reports s).1 := by
  induction reports generalizing s log with
  | nil => exact ⟨[], by simp [settleAll], .nil⟩
  | cons report reports ih =>
    cases hprompt : report.prompt? r with
    | none =>
      -- no call: the rest is settled from the same state
      obtain ⟨calls, hrun, hsettled⟩ := ih s log
      refine ⟨calls, ?_, ?_⟩
      · simp only [settleAll, settle_of_prompt?_eq_none _ r hprompt, hrun]
      · simp only [settleAll, settle_of_prompt?_eq_none _ r hprompt]
        exact .kept hprompt hsettled
    | some prompt =>
      -- one call, and the rest is settled from the state and the log behind it
      obtain ⟨calls, hrun, hsettled⟩ :=
        ih (c.complete prompt s).2 (log ++ [⟨prompt, (c.complete prompt s).1⟩])
      refine ⟨⟨prompt, (c.complete prompt s).1⟩ :: calls, ?_, ?_⟩
      · simp only [settleAll, settle_of_prompt?_eq_some _ r hprompt, complete_recording, hrun, List.append_assoc,
          List.singleton_append]
      · simp only [settleAll, settle_of_prompt?_eq_some _ r hprompt]
        exact .called hprompt (amended_amend hprompt _) hsettled

end Completer

/-- A completer changes only what is left open without it.  The calls that it gets are recorded; a call that fails
leaves its report as it is, so that a completer that always fails gives the program without one. -/
theorem compileWith_settled {σ : Type} (spec : ProgramSpec) (c : Completer σ) (s : σ) :
    ∃ calls,
      spec.compileWith c.recording (s, []) = ((spec.compileWith c s).1, (spec.compileWith c s).2, calls) ∧
      calls.map Call.prompt = spec.compile.reports.filterMap (Report.prompt? spec.robot) ∧
      (spec.compileWith c s).1.reports.map Report.command = spec.compile.reports.map Report.command ∧
      Settled spec.robot spec.compile.reports calls (spec.compileWith c s).1.reports ∧
      (spec.compileWith c s).1.program =
        Program.assemble spec.robot ((spec.compileWith c s).1.reports.filterMap fun r => r.answer.code?) spec.routines
          ((spec.compileWith c s).1.reports.any fun r => r.answer.isUnderstood && r.answer.kind? == some .multitask) ∧
      ((∀ call ∈ calls, ∃ e, call.answer = .error e) → (spec.compileWith c s).1 = spec.compile) := by
  obtain ⟨calls, hrun, hsettled⟩ := c.settleAll_recording spec.robot spec.reports s []
  refine ⟨calls, ?_, hsettled.map_prompt, hsettled.map_command, hsettled, rfl, ?_⟩
  · simp only [ProgramSpec.compileWith, hrun, List.nil_append]
  · intro herrors
    simp only [ProgramSpec.compileWith, hsettled.eq_of_errors herrors]
    rfl

end RobotPhrase
