import RobotPhrase.Cli.Run

/-!
# Steps that may fail

What steps on a directory do to it.  Some leave it as it is, whether they fail or not (`Keeps`); some may change it, and
leave it as it is if they fail (`IsSafe`); and some cannot fail (`Succeeds`).  Steps that keep the directory, then a safe
one, and then steps that cannot fail are safe together.  Writing a file is safe, and reporting a compiled program cannot
fail, since the values of the report hold nothing that JSON cannot write.
-/

namespace RobotPhrase

/-! ### Values that can be written -/

namespace Json

theorem isSome_prettyItems?_iff (level : Nat) (items : List Value) :
    (prettyItems? level items).isSome ↔ ∀ v ∈ items, (prettyAt? level v).isSome := by
  induction items with
  | nil => simp [prettyItems?]
  | cons v rest ih =>
    unfold prettyItems?
    cases hv : prettyAt? level v with
    | none => simp [hv]
    | some text =>
      rw [List.forall_mem_cons, ← ih, hv]
      cases prettyItems? level rest <;> simp

theorem isSome_prettyMembers?_iff (level : Nat) (members : List (String × Value)) :
    (prettyMembers? level members).isSome ↔ ∀ m ∈ members, (prettyAt? level m.2).isSome := by
  induction members with
  | nil => simp [prettyMembers?]
  | cons m rest ih =>
    obtain ⟨name, v⟩ := m
    unfold prettyMembers?
    cases hv : prettyAt? level v with
    | none => simp [hv]
    | some text =>
      rw [List.forall_mem_cons, ← ih, hv]
      cases prettyMembers? level rest <;> simp

/-- Whether a value can be written, at whatever level. -/
def Value.IsWritable (v : Value) : Prop := ∀ level, (prettyAt? level v).isSome

namespace Value

@[simp]
theorem isWritable_null : null.IsWritable := fun _ => rfl

@[simp]
theorem isWritable_text (s : String) : (text s).IsWritable := fun _ => rfl

@[simp]
theorem isWritable_float (x : Float) : (float x).IsWritable := by
  intro level
  unfold float
  split <;> rfl

@[simp]
theorem isWritable_optionalText (s : Option String) : (optionalText s).IsWritable := by
  cases s <;> exact fun _ => rfl

theorem isWritable_list {items : List Value} (h : ∀ v ∈ items, v.IsWritable) : (list items).IsWritable := by
  intro level
  unfold prettyAt?
  rw [Option.isSome_map, isSome_prettyItems?_iff]
  exact fun v hv => h v hv (level + 1)

theorem isWritable_object {members : List (String × Value)} (h : ∀ m ∈ members, m.2.IsWritable) :
    (object members).IsWritable := by
  intro level
  unfold prettyAt?
  rw [Option.isSome_map, isSome_prettyMembers?_iff]
  exact fun m hm => h m hm (level + 1)

end Value

end Json

namespace Cli

open Json (Value)

theorem isWritable_clarificationJson (c : Option Clarification) : (clarificationJson c).IsWritable := by
  cases c with
  | none => exact Value.isWritable_null
  | some c => exact Value.isWritable_object (by simp [clarificationMembers])

theorem isWritable_reportJson (r : Report) : (reportJson r).IsWritable :=
  Value.isWritable_object (by simp [kindJson, isWritable_clarificationJson])

theorem isWritable_compiledJson (c : Compiled) : (compiledJson c).IsWritable := by
  have hresults : (Value.list (c.reports.map reportJson)).IsWritable := by
    refine Value.isWritable_list fun v hv => ?_
    obtain ⟨r, -, rfl⟩ := List.mem_map.1 hv
    exact isWritable_reportJson r
  have hprogram : (programJson c.program).IsWritable := Value.isWritable_object (by simp)
  exact Value.isWritable_object (by simp [hresults, hprogram])

namespace Action

variable {α β : Type} {x : Action α} {f : α → Action β}

/-! ### One step after another -/

private theorem outcome_bind (x : Action α) (f : α → Action β) (d : Directory) :
    (x >>= f).outcome d = StateT.run (ExceptT.bindCont f (x.outcome d).1) (x.outcome d).2 := rfl

theorem outcome_bind_of_ok {d d' : Directory} {a : α} (h : x.outcome d = (.ok a, d')) :
    (x >>= f).outcome d = (f a).outcome d' := by
  rw [outcome_bind, h]
  rfl

theorem outcome_bind_of_error {d d' : Directory} {e : Failure} (h : x.outcome d = (.error e, d')) :
    (x >>= f).outcome d = (.error e, d') := by
  rw [outcome_bind, h]
  rfl

theorem outcome_cases (x : Action α) (d : Directory) :
    (∃ a d', x.outcome d = (.ok a, d')) ∨ ∃ e d', x.outcome d = (.error e, d') := by
  rcases x.outcome d with ⟨e | a, d'⟩
  · exact .inr ⟨e, d', rfl⟩
  · exact .inl ⟨a, d', rfl⟩

/-- Two steps succeed if the first one does, and then the second. -/
theorem outcome_bind_eq_ok {d d' : Directory} {b : β} (h : (x >>= f).outcome d = (.ok b, d')) :
    ∃ a d₁, x.outcome d = (.ok a, d₁) ∧ (f a).outcome d₁ = (.ok b, d') := by
  rcases x.outcome_cases d with ⟨a, d₁, hx⟩ | ⟨e, d₁, hx⟩
  · exact ⟨a, d₁, hx, by rw [← outcome_bind_of_ok hx, h]⟩
  · rw [outcome_bind_of_error hx] at h
    cases h

/-- The directory is the same after the steps, also if they fail. -/
def Keeps (x : Action α) : Prop := ∀ d, (x.outcome d).2 = d

/-- The directory is the same after the steps if they fail. -/
def IsSafe (x : Action α) : Prop := ∀ d e d', x.outcome d = (.error e, d') → d' = d

/-- The steps do not fail. -/
def Succeeds (x : Action α) : Prop := ∀ d, ∃ a d', x.outcome d = (.ok a, d')

theorem keeps_return (a : α) : Keeps (return a) := fun _ => rfl

theorem keeps_throw (e : Failure) : Keeps (throw e : Action α) := fun _ => rfl

theorem Keeps.eq {d d' : Directory} {result : Except Failure α} (hx : x.Keeps) (h : x.outcome d = (result, d')) :
    d' = d := by
  rw [← hx d, h]

theorem Keeps.isSafe (hx : x.Keeps) : x.IsSafe := fun _ _ _ h => hx.eq h

theorem Keeps.bind (hx : x.Keeps) (hf : ∀ a, (f a).Keeps) : (x >>= f).Keeps := by
  intro d
  rcases x.outcome_cases d with ⟨a, d₁, hd⟩ | ⟨e, d₁, hd⟩
  · rw [outcome_bind_of_ok hd, hf a]
    exact hx.eq hd
  · rw [outcome_bind_of_error hd]
    exact hx.eq hd

theorem Keeps.isSafe_bind (hx : x.Keeps) (hf : ∀ a, (f a).IsSafe) : (x >>= f).IsSafe := by
  intro d e d' h
  rcases x.outcome_cases d with ⟨a, d₁, hd⟩ | ⟨e₁, d₁, hd⟩
  · rw [outcome_bind_of_ok hd] at h
    rw [hf a d₁ e d' h, hx.eq hd]
  · rw [outcome_bind_of_error hd] at h
    rw [← (Prod.mk.inj h).2, hx.eq hd]

/-- What may change the directory can be followed by steps that do not fail. -/
theorem IsSafe.bind (hx : x.IsSafe) (hf : ∀ a, (f a).Succeeds) : (x >>= f).IsSafe := by
  intro d e d' h
  rcases x.outcome_cases d with ⟨a, d₁, hd⟩ | ⟨e₁, d₁, hd⟩
  · obtain ⟨b, d₂, hb⟩ := hf a d₁
    rw [outcome_bind_of_ok hd, hb] at h
    cases h
  · rw [outcome_bind_of_error hd] at h
    rw [← (Prod.mk.inj h).2, hx d e₁ d₁ hd]

/-! ### The steps of a request -/

theorem keeps_get : Keeps get := fun _ => rfl

theorem keeps_load (read : Directory → Except LoadError α) : (load read).Keeps := by
  refine keeps_get.bind fun d => ?_
  split
  · exact keeps_return _
  · exact keeps_throw _

theorem read_of_load {read : Directory → Except LoadError α} {d d' : Directory} {a : α}
    (h : (load read).outcome d = (.ok a, d')) : read d = .ok a ∧ d' = d := by
  obtain ⟨_, _, hget, hread⟩ := outcome_bind_eq_ok h
  cases hget
  split at hread
  · rename_i hok
    cases hread
    exact ⟨hok, rfl⟩
  · cases hread

theorem write?_of_write {s : Surroundings} {path text : String} {d d' : Directory} {u : Unit}
    (h : (write s path text).outcome d = (.ok u, d')) : d.write? path text s.here s.refuses = some d' := by
  obtain ⟨_, _, hget, hwrite⟩ := outcome_bind_eq_ok h
  cases hget
  split at hwrite
  · rename_i hsome
    cases hwrite
    exact hsome
  · cases hwrite

/-- Writing a file fails before it changes anything. -/
theorem isSafe_write (s : Surroundings) (path text : String) : (write s path text).IsSafe := by
  refine keeps_get.isSafe_bind fun d => ?_
  split
  · intro _ _ _ h
    cases h
  · exact (keeps_throw _).isSafe

theorem keeps_encode (v : Value) : (encode v).Keeps := by
  unfold encode
  split
  · exact keeps_return _
  · exact keeps_throw _

theorem keeps_report (json : Bool) (v : Value) (lines : List String) : (report json v lines).Keeps := by
  unfold report
  split
  · exact (keeps_encode v).bind fun _ => keeps_return _
  · exact keeps_return _

end Action

namespace CompileOptions

theorem keeps_report (o : CompileOptions) (json : Bool) (c : Compiled) : (o.report json c).Keeps := by
  unfold report
  split
  · exact (Action.keeps_encode _).bind fun _ => Action.keeps_return _
  · exact Action.keeps_return _

theorem succeeds_report (o : CompileOptions) (json : Bool) (c : Compiled) : (o.report json c).Succeeds := by
  intro d
  unfold report
  split
  · obtain ⟨text, htext⟩ := Option.isSome_iff_exists.1 (isWritable_compiledJson c 0)
    have hencode : (Action.encode (compiledJson c)).outcome d = (.ok text, d) := by
      unfold Action.encode Json.pretty?
      rw [htext]
      rfl
    exact ⟨_, _, Action.outcome_bind_of_ok hencode⟩
  · exact ⟨_, _, rfl⟩

theorem isSafe_save (s : Surroundings) (o : CompileOptions) (program : Program) : (o.save s program).IsSafe := by
  unfold save
  split
  · exact Action.isSafe_write s _ _
  · exact (Action.keeps_return _).isSafe

/-- A program is written when it has been loaded and compiled, and nothing fails afterwards. -/
theorem isSafe_perform (s : Surroundings) (o : CompileOptions) (json : Bool) : (o.perform s json).IsSafe := by
  refine (Action.keeps_load _).isSafe_bind fun spec => ?_
  split
  · exact (Action.keeps_throw _).isSafe
  · exact (isSafe_save s o _).bind fun _ => succeeds_report o json _

theorem perform_eq_ok {s : Surroundings} {o : CompileOptions} {json : Bool} {d d' : Directory} {output : Output}
    (h : (o.perform s json).outcome d = (.ok output, d')) :
    ∃ spec, o.spec s d = .ok spec ∧ (o.save s (o.compiled spec).program).outcome d = (.ok (), d') ∧
      (o.report json (o.compiled spec)).outcome d' = (.ok output, d') := by
  obtain ⟨spec, _, hload, hrest⟩ := Action.outcome_bind_eq_ok h
  obtain ⟨hspec, rfl⟩ := Action.read_of_load hload
  split at hrest
  · cases hrest
  · obtain ⟨_, _, hsave, hreport⟩ := Action.outcome_bind_eq_ok hrest
    obtain rfl := (keeps_report o json _).eq hreport
    exact ⟨spec, hspec, hsave, hreport⟩

end CompileOptions

namespace Request

variable (s : Surroundings) (json : Bool)

/-- Only compiling may change the directory. -/
theorem keeps_perform {request : Request} (h : request.target? = none) : (request.perform s json).Keeps := by
  cases request with
  | tokenize text => exact Action.keeps_report json _ _
  | parse text o => exact (Action.keeps_load _).bind fun _ => Action.keeps_report json _ _
  | compile o =>
    refine (Action.keeps_load _).bind fun spec => ?_
    split
    · exact Action.keeps_throw _
    · refine Action.Keeps.bind ?_ fun _ => CompileOptions.keeps_report o json _
      unfold CompileOptions.save
      rw [show o.out = none from h]
      exact Action.keeps_return _
  | validate text => exact Action.keeps_report json _ _
  | suggest text cursor => exact Action.keeps_report json _ _
  | preview o =>
    refine (Action.keeps_load _).bind fun _ => ?_
    split
    · exact Action.keeps_report json _ _
    · exact Action.keeps_throw _

theorem isSafe_perform (request : Request) : (request.perform s json).IsSafe := by
  cases request with
  | compile o => exact CompileOptions.isSafe_perform s o json
  | tokenize | parse | validate | suggest | preview => exact (keeps_perform s json rfl).isSafe

end Request

end Cli

end RobotPhrase
