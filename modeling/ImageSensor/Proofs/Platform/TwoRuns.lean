import ImageSensor.Proofs.Platform.Trace

/-!
# Two Runs Compared

Two actions are alike if they make the same calls, whatever they are answered, and end with related
results. Every run of the one is then a run of the other, event by event. How an action runs is
settled by the platform alone: one that answers a call by what has happened so far leaves no choice.

## Main statements

- `Alike.bind`: sequences are alike if their parts are.
- `Alike.exists_runs`, `Alike.eq`: a run of one action is a run of every action alike, and actions
  with the same results are the same.
- `answeredBy_replaying`: every trace is what some platform answers.
- `Runs.determined`: on one platform an action runs in one way.
-/

namespace ImageSensor

namespace Action

variable {α β γ δ : Type} {related : α → β → Prop}

/-! ## §1 Actions alike -/

/-- Two actions that make the same calls, and end with related results or with the same trap. -/
inductive Alike (related : α → β → Prop) : Action α → Action β → Prop where
  | done {result : α} {result' : β} (here : related result result') :
      Alike related (done result) (done result')
  | trap {reason : Trap} : Alike related (trap reason) (trap reason)
  | call {c : Call} {next : c.Answer → Action α} {next' : c.Answer → Action β}
      (later : ∀ answer, Alike related (next answer) (next' answer)) :
      Alike related (call c next) (call c next')

/-- An action is like itself. -/
theorem Alike.refl (action : Action α) : Alike (· = ·) action action := by
  induction action with
  | done result => exact .done rfl
  | trap reason => exact .trap
  | call c next ih => exact .call ih

theorem Alike.bind {further : γ → δ → Prop} {one : Action α} {two : Action β}
    {f : α → Action γ} {g : β → Action δ} (first : Alike related one two)
    (second : ∀ result result', related result result' → Alike further (f result) (g result')) :
    Alike further (one >>= f) (two >>= g) := by
  induction first with
  | done here => exact second _ _ here
  | trap => exact .trap
  | call _ ih => exact .call ih

/-- After the same beginning only the continuations have to be alike. -/
theorem Alike.after {further : γ → δ → Prop} (action : Action α) {f : α → Action γ}
    {g : α → Action δ} (second : ∀ result, Alike further (f result) (g result)) :
    Alike further (action >>= f) (action >>= g) :=
  (Alike.refl action).bind fun result _ same => same ▸ second result

/-- Actions that end with the same results as well are the same. -/
theorem Alike.eq {one two : Action α} (alike : Alike (· = ·) one two) : one = two := by
  induction alike with
  | done here => exact congrArg Action.done here
  | trap => rfl
  | call _ ih => exact congrArg (Action.call _) (funext ih)

/-- Every run of an action is a run of one alike. -/
theorem Alike.exists_runs {one : Action α} {two : Action β} {events : List Event} {result : α}
    (alike : Alike related one two) (run : Runs one events (.ok result)) :
    ∃ result', Runs two events (.ok result') ∧ related result result' := by
  induction alike generalizing events with
  | done here =>
    obtain ⟨rfl, ended⟩ := runs_done.1 run
    cases ended
    exact ⟨_, .done _, here⟩
  | trap => exact nomatch (runs_trap.1 run).2
  | call _ ih =>
    obtain ⟨answer, later, split, inner⟩ := runs_call.1 run
    obtain ⟨result', inner', here⟩ := ih answer inner
    exact ⟨result', split ▸ .call inner', here⟩

end Action

open ImageSensor.Action

/-! ## §2 Platforms -/

/-- What answers every call, by what has happened so far. -/
abbrev Platform : Type :=
  List Event → (call : Call) → call.Answer

/-- Behind `past`, every call of the trace has the answer of the platform. -/
def AnsweredBy (platform : Platform) : List Event → List Event → Prop
  | _, [] => True
  | past, event :: later =>
    event.answer = platform past event.call ∧ AnsweredBy platform (past ++ [event]) later

variable {platform : Platform} {past : List Event}

theorem answeredBy_append {first second : List Event} :
    AnsweredBy platform past (first ++ second) ↔
      AnsweredBy platform past first ∧ AnsweredBy platform (past ++ first) second := by
  induction first generalizing past with
  | nil => simp [AnsweredBy]
  | cons event later ih => simp [AnsweredBy, ih, and_assoc]

/-- The platform that answers as in a given trace, wherever that still applies. -/
def replaying (given : List Event) : Platform := fun past call =>
  match given[past.length]? with
  | some event => if same : event.call = call then same ▸ event.answer else call.success
  | none => call.success

/-- Every trace is what some platform answers, so platforms leave no trace out. -/
theorem answeredBy_replaying (given : List Event) : AnsweredBy (replaying given) [] given := by
  -- the induction is on what is left of the trace, with the past growing
  have rest (past later : List Event) (split : given = past ++ later) :
      AnsweredBy (replaying given) past later := by
    induction later generalizing past with
    | nil => trivial
    | cons event later ih =>
      have here : given[past.length]? = some event := by simp [split]
      refine ⟨by simp [replaying, here], ih _ ?_⟩
      rw [split, List.append_assoc, List.singleton_append]
  exact rest [] given rfl

/-- On one platform an action runs in one way. -/
theorem Action.Runs.determined {α : Type} {action : Action α} {events events' : List Event}
    {outcome outcome' : Except Trap α} (run : Runs action events outcome)
    (run' : Runs action events' outcome') (answered : AnsweredBy platform past events)
    (answered' : AnsweredBy platform past events') : events = events' ∧ outcome = outcome' := by
  induction run generalizing past events' with
  | done result =>
    obtain ⟨rfl, rfl⟩ := runs_done.1 run'
    exact ⟨rfl, rfl⟩
  | trap reason =>
    obtain ⟨rfl, rfl⟩ := runs_trap.1 run'
    exact ⟨rfl, rfl⟩
  | call _ ih =>
    obtain ⟨answer', later', rfl, inner'⟩ := runs_call.1 run'
    obtain ⟨here, behind⟩ := answered
    obtain ⟨here', behind'⟩ := answered'
    -- both runs have come to the same call with the same past
    cases here.trans here'.symm
    obtain ⟨rfl, rfl⟩ := ih inner' behind behind'
    exact ⟨rfl, rfl⟩

end ImageSensor
