import ImageSensor.Platform.Action

/-!
# Completed Runs

A run that ends with a result opens part by part: each part of a sequence completes, and their
events stand one behind the other. What kinds of calls an action can make at all is read off the
action itself, whatever the answers.

## Main statements

- `runs_bind_ok`: a completed run of a sequence is a completed run of both parts.
- `Within.mem`: every event of a run is a call the action is limited to.
- `Total.bind`: a sequence never traps if its parts do not.
-/

namespace ImageSensor.Action

variable {α β : Type}

/-! ## §1 Opening a completed run -/

theorem runs_bind_ok {action : Action α} {f : α → Action β} {events : List Event} {result : β} :
    Runs (action >>= f) events (.ok result) ↔
      ∃ middle first second, events = first ++ second ∧ Runs action first (.ok middle) ∧
        Runs (f middle) second (.ok result) := by
  rw [runs_bind]
  constructor
  · rintro (⟨reason, _, h⟩ | ⟨first, second, middle, rfl, h, h'⟩)
    · cases h
    · exact ⟨middle, first, second, rfl, h, h'⟩
  · rintro ⟨middle, first, second, rfl, h, h'⟩
    exact .inr ⟨first, second, middle, rfl, h, h'⟩

theorem runs_ask_bind {c : Call} {f : c.Answer → Action β} {events : List Event}
    {outcome : Except Trap β} :
    Runs (ask c >>= f) events outcome ↔
      ∃ answer later, events = ⟨c, answer⟩ :: later ∧ Runs (f answer) later outcome :=
  runs_call

theorem runs_notify_ok {notice : Notice} {events : List Event} {result : Unit} :
    Runs (notify notice) events (.ok result) ↔ events = [⟨.notify notice, ()⟩] := by
  constructor
  · intro run
    obtain ⟨_, _, split, rest⟩ := runs_call.1 run
    obtain ⟨rfl, -⟩ := runs_done.1 rest
    exact split
  · rintro rfl
    exact .call (.done ())

theorem runs_notify_bind {notice : Notice} {f : Unit → Action β} {events : List Event}
    {outcome : Except Trap β} :
    Runs (notify notice >>= f) events outcome ↔
      ∃ later, events = ⟨.notify notice, ()⟩ :: later ∧ Runs (f ()) later outcome := by
  constructor
  · intro run
    obtain ⟨_, later, split, rest⟩ := runs_ask_bind.1 run
    exact ⟨later, split, rest⟩
  · rintro ⟨later, split, rest⟩
    exact runs_ask_bind.2 ⟨(), later, split, rest⟩

theorem runs_ofChecked_bind {checked : Checked α} {f : α → Action β} {events : List Event}
    {result : β} :
    Runs (ofChecked checked >>= f) events (.ok result) ↔
      ∃ value, checked = .ok value ∧ Runs (f value) events (.ok result) := by
  cases checked with
  | error reason => simp
  | ok value => simp

/-- What only wraps up the result of an action adds nothing to its runs. -/
theorem runs_bind_done {action : Action α} {wrap : α → β} {events : List Event} {result : β} :
    Runs (action >>= fun value => done (wrap value)) events (.ok result) ↔
      ∃ value, Runs action events (.ok value) ∧ wrap value = result := by
  constructor
  · intro run
    obtain ⟨value, _, _, split₁, inner, wrapped⟩ := runs_bind_ok.1 run
    obtain ⟨split₂, result⟩ := runs_done.1 wrapped
    cases result
    subst split₂ split₁
    rw [List.append_nil]
    exact ⟨value, inner, rfl⟩
  · rintro ⟨value, inner, rfl⟩
    exact runs_bind_ok.2 ⟨value, events, [], (List.append_nil _).symm, inner, .done _⟩

/-- Actions that go on alike from every result the first part can have. -/
theorem bind_congr_of_runs {action : Action α} {f g : α → Action β}
    (alike : ∀ events result, Runs action events (.ok result) → f result = g result) :
    action >>= f = action >>= g := by
  induction action with
  | done result => exact alike [] result (.done result)
  | trap reason => rfl
  | call c next ih =>
    have later (answer : c.Answer) : next answer >>= f = next answer >>= g :=
      ih answer fun events result run => alike _ result (.call run)
    exact congrArg (call c) (funext later)

/-! ## §2 Actions limited to some calls -/

/-- An action that makes no other calls, whatever it is answered. -/
def Within (allowed : Call → Prop) : Action α → Prop
  | done _ => True
  | trap _ => True
  | call c next => allowed c ∧ ∀ answer, (next answer).Within allowed

variable {allowed : Call → Prop}

@[simp] theorem within_done (result : α) : (done result).Within allowed := trivial

@[simp] theorem within_call {c : Call} {next : c.Answer → Action α} :
    (call c next).Within allowed ↔ allowed c ∧ ∀ answer, (next answer).Within allowed := Iff.rfl

@[simp] theorem within_ask {c : Call} : (ask c).Within allowed ↔ allowed c := by
  simp [ask]

@[simp] theorem within_notify {notice : Notice} :
    (notify notice).Within allowed ↔ allowed (.notify notice) :=
  within_ask

@[simp] theorem within_ofChecked (checked : Checked α) : (ofChecked checked).Within allowed := by
  cases checked <;> trivial

theorem Within.bind {action : Action α} {f : α → Action β} (first : action.Within allowed)
    (second : ∀ result, (f result).Within allowed) : (action >>= f).Within allowed := by
  induction action with
  | done result => exact second result
  | trap reason => trivial
  | call c next ih => exact ⟨first.1, fun answer => ih answer (first.2 answer)⟩

/-- A run makes only the calls its action is limited to. -/
theorem Within.mem {action : Action α} {events : List Event} {outcome : Except Trap α}
    (limited : action.Within allowed) (run : Runs action events outcome) :
    ∀ event ∈ events, allowed event.call := by
  induction run with
  | done => simp
  | trap => simp
  | call later ih =>
    rintro event (_ | ⟨_, h⟩)
    · exact limited.1
    · exact ih (limited.2 _) event h

/-! ## §3 Actions that never trap -/

/-- An action none of whose runs traps. -/
def Total (action : Action α) : Prop :=
  ∀ events reason, ¬ Runs action events (.error reason)

theorem Total.exists_ok {action : Action α} {events : List Event} {outcome : Except Trap α}
    (total : action.Total) (run : Runs action events outcome) : ∃ result, outcome = .ok result := by
  cases outcome with
  | ok result => exact ⟨result, rfl⟩
  | error reason => exact absurd run (total events reason)

theorem total_done (result : α) : (done result).Total := by
  intro events reason run
  exact nomatch (runs_done.1 run).2

theorem total_ask (c : Call) : (ask c).Total := by
  intro events reason run
  obtain ⟨_, _, _, run⟩ := runs_call.1 run
  exact total_done _ _ _ run

theorem total_notify (notice : Notice) : (notify notice).Total :=
  total_ask _

/-- The second part has to be total only for the results that the first part can have. -/
theorem Total.bind {action : Action α} {f : α → Action β} (first : action.Total)
    (second : ∀ events result, Runs action events (.ok result) → (f result).Total) :
    (action >>= f).Total := by
  intro events reason run
  -- a trap is one of the first part, or of the second after the first has ended
  rcases runs_bind.1 run with ⟨reason', trapped, -⟩ | ⟨head, tail, result, -, run, rest⟩
  · exact first events reason' trapped
  · exact second head result run tail reason rest

theorem Total.ask_bind {c : Call} {f : c.Answer → Action β} (rest : ∀ answer, (f answer).Total) :
    (ask c >>= f).Total :=
  (total_ask c).bind fun _ answer _ => rest answer

theorem Total.notify_bind {notice : Notice} {f : Unit → Action β} (rest : (f ()).Total) :
    (notify notice >>= f).Total :=
  Total.ask_bind fun _ => rest

theorem Total.ofChecked_bind {checked : Checked α} {f : α → Action β} {value : α}
    (result : checked = .ok value) (rest : (f value).Total) : (ofChecked checked >>= f).Total := by
  rwa [result]

/-- What only wraps up the result of an action does not trap. -/
theorem Total.map {action : Action α} {wrap : α → β} (total : action.Total) :
    (action >>= fun value => done (wrap value)).Total :=
  total.bind fun _ _ _ => total_done _

end ImageSensor.Action
