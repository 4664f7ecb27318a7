import SwiftSchema.Pipeline.Phase

/-! # The order of a pipeline's calls

A pipeline runs the built-in phases and then the added ones. Around each phase it calls every
plugin's hook before it, in the order the plugins were added, then the phase, then every plugin's
hook after it; a call that fails ends the run with its message. Spelled out as a **schedule** of
calls, a run is those calls made one after another, in any monad. Where hooks may keep state of
their own beside the context, a run either completes the whole schedule, or fails with the
message of the first call that fails and the state that call left: no later call is made.

Of the built-in phases only validation can fail, and it fails exactly when an error is among the
diagnostics once its lints have reported, whoever reported it: a lint, or a hook before it.

* `Call`, `Call.invoke` — a hook or a phase, and what it does to a context.
* `Pipeline.schedule` — the calls of a run, in order; `runCalls` — calls made one after another.
* `run_eq_runCalls_schedule` — a run is its schedule, in any lawful monad.
* `Completes`, `FailsWith` — how calls made one after another end, in a monad with state.
* `pipeline_run_follows_schedule` — how a run ends.
-/

namespace SwiftSchema

/-- A **call** a pipeline makes: a plugin's hook before or after the phase of a name, or a
phase. -/
inductive Call (m : Type → Type) where
  | before (pl : Plugin m) (phase : String)
  | run (ph : Phase m)
  | after (pl : Plugin m) (phase : String)

/-- What a call does to a context. -/
def Call.invoke {m : Type → Type} : Call m → Context → m Context
  | .before pl phase => pl.beforePhase phase
  | .run ph => ph.run
  | .after pl phase => pl.afterPhase phase

/-- Calls **made one after another**, each on the context the one before returned. -/
def runCalls {m : Type → Type} [Monad m] : List (Call m) → Context → m Context
  | [], c => pure c
  | k :: ks, c => k.invoke c >>= runCalls ks

namespace Pipeline

variable {m : Type → Type}

/-- The phases of a pipeline, in the order they run: the built-in ones, then the added ones. -/
def allPhases [Monad m] [MonadExcept String m] (p : Pipeline m) : List (Phase m) :=
  builtinPasses.map Pass.toPhase ++ p.phases

/-- The calls around a phase: every plugin's hook before it, in order, the phase itself, then
every plugin's hook after it, in order. -/
def callsAround (p : Pipeline m) (ph : Phase m) : List (Call m) :=
  p.plugins.map (Call.before · ph.name) ++ Call.run ph :: p.plugins.map (Call.after · ph.name)

/-- The **schedule** of a pipeline: the calls around each of its phases, phase after phase. -/
def schedule [Monad m] [MonadExcept String m] (p : Pipeline m) : List (Call m) :=
  p.allPhases.flatMap p.callsAround

end Pipeline

/-! ## A run is its schedule -/

section Lawful

variable {m : Type → Type} [Monad m]

@[simp] theorem runCalls_nil (c : Context) : runCalls ([] : List (Call m)) c = pure c := rfl

@[simp] theorem runCalls_cons (k : Call m) (ks : List (Call m)) (c : Context) :
    runCalls (k :: ks) c = k.invoke c >>= runCalls ks := rfl

/-- Folding a list through calls of its elements is making those calls one after another. -/
theorem foldlM_invoke {α : Type} (f : α → Call m) (xs : List α) (c : Context) :
    xs.foldlM (fun c a => (f a).invoke c) c = runCalls (xs.map f) c := by
  induction xs generalizing c with
  | nil => rfl
  | cons a rest ih =>
    rw [List.foldlM_cons, List.map_cons, runCalls_cons]
    exact congrArg ((f a).invoke c >>= ·) (funext ih)

/-- The plugins' hooks before a phase, in order, are calls made one after another. -/
theorem foldlM_beforePhase (plugins : List (Plugin m)) (name : String) (c : Context) :
    plugins.foldlM (fun c pl => pl.beforePhase name c) c =
      runCalls (plugins.map (Call.before · name)) c :=
  foldlM_invoke (Call.before · name) plugins c

/-- The plugins' hooks after a phase, in order, are calls made one after another. -/
theorem foldlM_afterPhase (plugins : List (Plugin m)) (name : String) (c : Context) :
    plugins.foldlM (fun c pl => pl.afterPhase name c) c =
      runCalls (plugins.map (Call.after · name)) c :=
  foldlM_invoke (Call.after · name) plugins c

variable [LawfulMonad m]

theorem runCalls_append (xs ys : List (Call m)) (c : Context) :
    runCalls (xs ++ ys) c = runCalls xs c >>= runCalls ys := by
  induction xs generalizing c with
  | nil => rw [List.nil_append, runCalls_nil, pure_bind]
  | cons k ks ih =>
    rw [List.cons_append, runCalls_cons, runCalls_cons, bind_assoc]
    exact congrArg (k.invoke c >>= ·) (funext ih)

/-- One phase with its hooks is the calls around it. -/
theorem runPhase_eq_runCalls (p : Pipeline m) (ph : Phase m) (c : Context) :
    p.runPhase ph c = runCalls (p.callsAround ph) c := by
  rw [Pipeline.callsAround, runCalls_append]
  simp only [Pipeline.runPhase, foldlM_beforePhase, foldlM_afterPhase]
  rfl

/-- Phases run one after another, each with its hooks, are the calls around each of them. -/
theorem foldlM_runPhase (p : Pipeline m) :
    ∀ (phs : List (Phase m)) (c : Context),
      phs.foldlM (fun c ph => p.runPhase ph c) c = runCalls (phs.flatMap p.callsAround) c
  | [], _ => rfl
  | ph :: rest, c => by
    rw [List.foldlM_cons, List.flatMap_cons, runCalls_append, runPhase_eq_runCalls]
    exact congrArg (runCalls (p.callsAround ph) c >>= ·) (funext (foldlM_runPhase p rest))

/-- **A run is its schedule**: in any lawful monad, running a pipeline makes the calls of its
schedule one after another, starting from the context of the document. -/
theorem run_eq_runCalls_schedule [MonadExcept String m] (p : Pipeline m) (doc : SchemaDocument)
    (manifest : Manifest) : p.run doc manifest = runCalls p.schedule (Context.new doc manifest) :=
  foldlM_runPhase p p.allPhases _

end Lawful

/-! ## How a run ends, with state beside the context -/

section State

variable {σ : Type}

/-- Calls made one after another **complete**, from a context and a state to a context and a
state: each call succeeds on the context and state the one before left. -/
inductive Completes : List (Call (EStateM String σ)) → Context → σ → Context → σ → Prop
  | nil {c : Context} {s : σ} : Completes [] c s c s
  | cons {k : Call (EStateM String σ)} {ks : List (Call (EStateM String σ))} {c c' c'' : Context}
      {s s' s'' : σ} :
      (k.invoke c).run s = .ok c' s' → Completes ks c' s' c'' s'' → Completes (k :: ks) c s c'' s''

/-- Calls made one after another **fail** with a message and a state: the calls before one
succeed in turn, that one fails with the message and leaves the state, and no call after it is
made. -/
inductive FailsWith : List (Call (EStateM String σ)) → Context → σ → String → σ → Prop
  | here {k : Call (EStateM String σ)} {ks : List (Call (EStateM String σ))} {c : Context}
      {s : σ} {e : String} {s' : σ} :
      (k.invoke c).run s = .error e s' → FailsWith (k :: ks) c s e s'
  | later {k : Call (EStateM String σ)} {ks : List (Call (EStateM String σ))} {c c' : Context}
      {s s' : σ} {e : String} {s'' : σ} :
      (k.invoke c).run s = .ok c' s' → FailsWith ks c' s' e s'' → FailsWith (k :: ks) c s e s''

theorem runCalls_cons_run (k : Call (EStateM String σ)) (ks : List (Call (EStateM String σ)))
    (c : Context) (s : σ) :
    (runCalls (k :: ks) c).run s = match (k.invoke c).run s with
      | .ok c' s' => (runCalls ks c').run s'
      | .error e s' => .error e s' := by
  rw [runCalls_cons, EStateM.run_bind]
  cases (k.invoke c).run s <;> rfl

/-- Calls made one after another end with a context exactly when they complete. -/
theorem runCalls_eq_ok_iff : ∀ {ks : List (Call (EStateM String σ))} {c : Context} {s : σ}
    {c' : Context} {s' : σ}, (runCalls ks c).run s = .ok c' s' ↔ Completes ks c s c' s'
  | [], c, s, c', s' => by
    constructor
    · intro h
      cases h
      exact .nil
    · rintro ⟨⟩
      rfl
  | k :: ks, c, s, c', s' => by
    rw [runCalls_cons_run]
    constructor
    · intro h
      split at h
      · rename_i c₁ s₁ hk
        exact .cons hk (runCalls_eq_ok_iff.mp h)
      · cases h
    · rintro (_ | ⟨hk, hrest⟩)
      rw [hk]
      exact runCalls_eq_ok_iff.mpr hrest

/-- Calls made one after another end with a failure exactly when they fail with it. -/
theorem runCalls_eq_error_iff : ∀ {ks : List (Call (EStateM String σ))} {c : Context} {s : σ}
    {e : String} {s' : σ}, (runCalls ks c).run s = .error e s' ↔ FailsWith ks c s e s'
  | [], c, s, e, s' => by
    constructor
    · intro h
      cases h
    · rintro ⟨⟩
  | k :: ks, c, s, e, s' => by
    rw [runCalls_cons_run]
    constructor
    · intro h
      split at h
      · rename_i c₁ s₁ hk
        exact .later hk (runCalls_eq_error_iff.mp h)
      · rename_i e₁ s₁ hk
        cases h
        exact .here hk
    · rintro (hk | ⟨hk, hrest⟩)
      · rw [hk]
      · rw [hk]
        exact runCalls_eq_error_iff.mpr hrest

/-- Calls fail exactly at the first call that fails: every call before it completes in turn, and
the failing call's message and state are the result. -/
theorem failsWith_iff_first {ks : List (Call (EStateM String σ))} {c : Context} {s : σ} {e : String}
    {s' : σ} :
    FailsWith ks c s e s' ↔
      ∃ pre k post c₁ s₁, ks = pre ++ k :: post ∧ Completes pre c s c₁ s₁ ∧
        (k.invoke c₁).run s₁ = .error e s' := by
  constructor
  · intro h
    induction h with
    | @here k ks c s e s' hk => exact ⟨[], k, ks, c, s, rfl, .nil, hk⟩
    | @later k ks c c' s s' e s'' hk _ ih =>
      obtain ⟨pre, k₁, post, c₁, s₁, rfl, hpre, hk₁⟩ := ih
      exact ⟨k :: pre, k₁, post, c₁, s₁, rfl, .cons hk hpre, hk₁⟩
  · rintro ⟨pre, k, post, c₁, s₁, rfl, hpre, hk⟩
    induction hpre with
    | nil => exact .here hk
    | cons hk' _ ih => exact .later hk' (ih hk)

/-! ## The built-in phases -/

/-- A built-in phase keeps the state it is given: it ends with the context its pass gives, or
fails with its pass's message. -/
theorem Pass.run_toPhase (q : Pass) (c : Context) (t : σ) :
    ((q.toPhase : Phase (EStateM String σ)).run c).run t =
      match q.apply c with
      | (_, some e) => .error e t
      | (c', none) => .ok c' t := by
  simp only [Pass.toPhase]
  cases q.apply c with
  | mk c' r => cases r <;> rfl

/-- A built-in phase whose pass never reports a failure always ends with a context. -/
theorem Pass.run_toPhase_of_snd_eq_none {q : Pass} (hq : ∀ c, (q.apply c).2 = none) (c : Context)
    (t : σ) : ∃ c', ((q.toPhase : Phase (EStateM String σ)).run c).run t = .ok c' t := by
  rw [Pass.run_toPhase]
  cases h : q.apply c with
  | mk c' r =>
    have hr : r = none := by rw [← hq c, h]
    subst hr
    exact ⟨c', rfl⟩

/-- Validation fails exactly when, once its lints have reported, an error is among the
diagnostics: those it was given and those of its lints alike. -/
theorem validatePass_fails_iff (lints : List Lint) (c : Context) (t : σ) :
    (∃ e, (((validatePass lints).toPhase : Phase (EStateM String σ)).run c).run t = .error e t) ↔
      (c.diagnostics ++ lints.flatMap (·.check c.models)).any Diagnostic.isError = true := by
  simp only [Pass.run_toPhase, validatePass, Context.hasErrors]
  by_cases hE : (c.diagnostics ++ lints.flatMap (·.check c.models)).any Diagnostic.isError = true
  · simp only [hE, if_true, iff_true]
    exact ⟨_, rfl⟩
  · simp [hE]

/-! ## How a run ends -/

/-- **A run follows its schedule.** For any plugins and added phases, in a monad whose calls may
keep state beside the context: the phases run are validate, lower, reconcile and post-process,
then the added ones, in order; a run ends with a context and a state exactly when the calls of
its schedule all succeed in turn and end there, and fails with a message and a state exactly when
some call of the schedule fails with them after every call before it succeeded — so nothing after
the first failing call is made. Of the built-in phases lower, reconcile and post-process always
succeed and keep the state, and validation fails exactly when an error is among the context's
diagnostics once its lints have reported, whichever call reported it. -/
theorem pipeline_run_follows_schedule (p : Pipeline (EStateM String σ)) (doc : SchemaDocument)
    (manifest : Manifest) (s : σ) :
    p.allPhases.map (·.name) = ["validate", "lower", "reconcile", "post-process"] ++ p.phases.map (·.name) ∧
    (∀ c s', (p.run doc manifest).run s = .ok c s' ↔
      Completes p.schedule (Context.new doc manifest) s c s') ∧
    (∀ e s', (p.run doc manifest).run s = .error e s' ↔
      ∃ pre k post c₁ s₁, p.schedule = pre ++ k :: post ∧
        Completes pre (Context.new doc manifest) s c₁ s₁ ∧ (k.invoke c₁).run s₁ = .error e s') ∧
    (∀ q ∈ [lowerPass, reconcilePass, postProcessPass], ∀ (c : Context) (t : σ),
      ∃ c', ((q.toPhase : Phase (EStateM String σ)).run c).run t = .ok c' t) ∧
    ∀ (c : Context) (t : σ),
      (∃ e, (((validatePass defaultLints).toPhase : Phase (EStateM String σ)).run c).run t = .error e t) ↔
        (c.diagnostics ++ defaultLints.flatMap (·.check c.models)).any Diagnostic.isError = true := by
  refine ⟨rfl, fun c s' => ?_, fun e s' => ?_, fun q hq => ?_, validatePass_fails_iff defaultLints⟩
  · rw [run_eq_runCalls_schedule, runCalls_eq_ok_iff]
  · rw [run_eq_runCalls_schedule, runCalls_eq_error_iff, failsWith_iff_first]
  · -- the three passes after validation report no failure on any context
    simp only [List.mem_cons, List.not_mem_nil, or_false] at hq
    rcases hq with rfl | rfl | rfl <;> exact Pass.run_toPhase_of_snd_eq_none (fun _ => rfl)

/-- A plugin that keeps, as its state, the list of hooks called so far. -/
def phaseRecorder : Plugin (EStateM String (List String)) :=
  ⟨"recorder", fun ph c => modify (· ++ ["before " ++ ph]) *> pure c,
    fun ph c => modify (· ++ ["after " ++ ph]) *> pure c⟩

example : (match (({ plugins := [phaseRecorder] } : Pipeline _).run ⟨{}, []⟩ {}).run [] with
    | .ok _ s => s | .error _ s => s) =
    ["before validate", "after validate", "before lower", "after lower", "before reconcile",
      "after reconcile", "before post-process", "after post-process"] := by decide +kernel

end State

end SwiftSchema
