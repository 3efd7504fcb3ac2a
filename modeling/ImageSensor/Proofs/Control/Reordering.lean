import ImageSensor.Proofs.Control.Requests

/-!
# Requests in Another Order

Requests to different controls do not disturb each other. Whether one is accepted depends on the
control and the number alone, and an accepted one moves a setting that no other request looks at.
The one exception is the exposure, which the vertical blank cuts off: those two are coupled, and it
matters which of them is set first.

So a list of requests may be brought into any order that keeps the coupled ones in place. The first
request of one order can be moved to the front of the other, past requests it commutes with, and
what remains are two orders of a shorter list.

## Main statements

- `setEach`: requests in order, with their verdicts; those that are refused are passed over.
- `after_comm`: requests to different controls commute, unless they are coupled.
- `foldl_after_eq`: so all orders that agree on the coupled requests lead to the same bank.
- `Sound.setEach_eq`: every request is given the verdict it would have been given alone.
- `order_irrelevant`: all of this along every history.
-/

namespace ImageSensor

/-- The controls of which one depends on the setting of the other. -/
def ControlId.isCoupled : ControlId → Bool
  | verticalBlank | exposure => true
  | linkFrequency | pixelRate | horizontalBlank | analogGain | digitalGain | testPattern => false

/-- The order in which coupled controls are set. -/
def coupledOrder (values : List (ControlId × Int)) : List ControlId :=
  (values.map Prod.fst).filter ControlId.isCoupled

@[simp] theorem coupledOrder_cons (request : ControlId × Int) (rest : List (ControlId × Int)) :
    coupledOrder (request :: rest) =
      if request.1.isCoupled then request.1 :: coupledOrder rest else coupledOrder rest :=
  List.filter_cons

@[simp] theorem coupledOrder_append (front back : List (ControlId × Int)) :
    coupledOrder (front ++ back) = coupledOrder front ++ coupledOrder back := by
  simp only [coupledOrder, List.map_append, List.filter_append]

namespace ControlBank

/-- Carries out requests in order, passing over those that are refused. -/
def setEach (bank : ControlBank) :
    List (ControlId × Int) → Checked (List (Except ControlError Unit) × ControlBank)
  | [] => return ([], bank)
  | (id, v) :: rest => do
    let changed ← bank.set id v
    let (verdicts, bank) ← (bank.settle changed).setEach rest
    return (changed.map (fun _ => ()) :: verdicts, bank)

variable {bank : ControlBank} {adjustment : Adjustment} {id other : ControlId} {v w : Int}
  {values values' : List (ControlId × Int)}

/-! ## §1 Verdicts -/

/-- What a request is told. -/
def verdict (bank : ControlBank) : ControlId × Int → Except ControlError Unit
  | (id, v) =>
    match bank.setting? id with
    | none => .error (.unsupported id.cid)
    | some _ =>
      if id.isReadOnly then .error (.readOnly id)
      else if id = .testPattern ∧ (v < 0 ∨ 3 < v) then .error (.outOfRange id v)
      else .ok ()

theorem verdict_eq_error_iff {e : ControlError} :
    bank.verdict (id, v) = .error e ↔ bank.Refuses id v e := by
  constructor
  · intro said
    unfold verdict at said
    dsimp only at said
    split at said
    case h_1 absent =>
      cases said
      exact .absent absent
    split at said
    case isTrue readOnly =>
      cases said
      refine .derived ?_
      cases id with
      | linkFrequency | pixelRate | horizontalBlank => simp
      | _ => cases readOnly
    split at said
    case isTrue off =>
      cases said
      obtain ⟨rfl, outside⟩ := off
      exact .offMenu outside
    case isFalse => cases said
  · intro refuses
    cases refuses with
    | absent absent => simp only [verdict, absent]
    | derived derived =>
      simp only [List.mem_cons, List.not_mem_nil, or_false] at derived
      rcases derived with rfl | rfl | rfl <;> rfl
    | offMenu outside => simp [verdict, setting?, ControlId.isReadOnly, outside]

/-- A request is told the same by every bank with the same controls. -/
theorem verdict_congr {bank' : ControlBank}
    (same : ∀ id, (bank'.setting? id).isSome = (bank.setting? id).isSome) :
    bank'.verdict = bank.verdict := by
  funext ⟨id, v⟩
  have same := same id
  unfold verdict
  cases here : bank.setting? id <;> cases there : bank'.setting? id <;> simp_all

/-! ## §2 Moving one control -/

/-- Changes the setting of a control, if it is present. -/
def modify (bank : ControlBank) (id : ControlId) (f : Setting → Setting) : ControlBank :=
  match bank.setting? id with
  | none => bank
  | some old => bank.put id (f old)

/-- Moves a control; the exposure follows the vertical blank. -/
def moved (bank : ControlBank) (id : ControlId) (v : Int) : ControlBank :=
  let bank := bank.modify id (·.movedTo v)
  if id = .verticalBlank then
    bank.modify .exposure (·.limited (bank.lines - exposureMargin))
  else bank

/-- The bank behind a request: with the control moved, or as it was if the request is refused. -/
def after (bank : ControlBank) (request : ControlId × Int) : ControlBank :=
  match bank.verdict request with
  | .ok () => bank.moved request.1 request.2
  | .error _ => bank

theorem modify_of_none (absent : bank.setting? id = none) (f : Setting → Setting) :
    bank.modify id f = bank := by
  rw [modify, absent]

theorem modify_of_some {old : Setting} (present : bank.setting? id = some old)
    (f : Setting → Setting) : bank.modify id f = bank.put id (f old) := by
  rw [modify, present]

theorem setting?_modify_of_ne (distinct : other ≠ id) (f : Setting → Setting) :
    (bank.modify id f).setting? other = bank.setting? other := by
  unfold modify
  split
  · rfl
  · exact setting?_put_of_ne distinct _

theorem put_comm (distinct : id ≠ other) (first second : Setting) :
    (bank.put id first).put other second = (bank.put other second).put id first := by
  cases id <;> cases other <;> first | rfl | exact absurd rfl distinct

theorem modify_comm (distinct : id ≠ other) (f g : Setting → Setting) :
    (bank.modify id f).modify other g = (bank.modify other g).modify id f := by
  -- what is found at one control is not touched by a change of the other
  have first : (bank.modify other g).setting? id = bank.setting? id :=
    setting?_modify_of_ne distinct g
  have second : (bank.modify id f).setting? other = bank.setting? other :=
    setting?_modify_of_ne distinct.symm f
  cases here : bank.setting? id with
  | none => rw [modify_of_none here, modify_of_none (first.trans here)]
  | some old =>
    cases there : bank.setting? other with
    | none => rw [modify_of_none there, modify_of_none (second.trans there)]
    | some old' =>
      rw [modify_of_some (first.trans here), modify_of_some (second.trans there),
        modify_of_some here, modify_of_some there, put_comm distinct]

/-- Only the vertical blank counts for the lines of a frame. -/
theorem lines_modify (other : id ≠ .verticalBlank) (f : Setting → Setting) :
    (bank.modify id f).lines = bank.lines := by
  unfold modify
  split
  · rfl
  · cases id <;> first | rfl | exact absurd rfl other

theorem isSome_setting?_modify (bank : ControlBank) (id other : ControlId)
    (f : Setting → Setting) :
    ((bank.modify id f).setting? other).isSome = (bank.setting? other).isSome := by
  by_cases same : other = id
  · subst same
    cases present : bank.setting? other with
    | none => rw [modify_of_none present, present]
    | some old => rw [modify_of_some present, setting?_put_self present]; rfl
  · rw [setting?_modify_of_ne same]

/-- No request adds or removes a control, so none has a part in what another is told. -/
theorem verdict_after (bank : ControlBank) (request : ControlId × Int) :
    (bank.after request).verdict = bank.verdict := by
  refine verdict_congr fun id => ?_
  unfold after moved
  split
  · dsimp only
    split <;> simp only [isSome_setting?_modify]
  · rfl

/-! ## §3 Requests that commute -/

/-- Requests to different controls that are not coupled. -/
structure Independent (one two : ControlId × Int) : Prop where
  distinct : one.1 ≠ two.1
  apart : ¬ (one.1.isCoupled ∧ two.1.isCoupled)

/-- Moving the vertical blank, and with it the exposure, leaves room for any other control. -/
theorem moved_verticalBlank_comm (apart : other.isCoupled = false) :
    (bank.moved .verticalBlank v).moved other w = (bank.moved other w).moved .verticalBlank v := by
  have blank : .verticalBlank ≠ other := by rintro rfl; cases apart
  have exposure : .exposure ≠ other := by rintro rfl; cases apart
  simp only [moved, if_pos, if_neg blank.symm]
  -- the frame has as many lines before the other control is moved as after it
  rw [modify_comm exposure, modify_comm blank, ← modify_comm blank, lines_modify blank.symm]

theorem moved_comm (distinct : id ≠ other) (apart : ¬ (id.isCoupled ∧ other.isCoupled)) :
    (bank.moved id v).moved other w = (bank.moved other w).moved id v := by
  -- the vertical blank is the only control that moves another one along
  by_cases one : id = .verticalBlank
  · subst one
    exact moved_verticalBlank_comm (by simpa [ControlId.isCoupled] using apart)
  by_cases two : other = .verticalBlank
  · subst two
    exact (moved_verticalBlank_comm (by simpa [ControlId.isCoupled] using apart)).symm
  simp only [moved, if_neg one, if_neg two]
  exact modify_comm distinct _ _

theorem after_after (bank : ControlBank) (one two : ControlId × Int) :
    (bank.after one).after two =
      match bank.verdict two with
      | .ok () => (bank.after one).moved two.1 two.2
      | .error _ => bank.after one := by
  rw [after, verdict_after]

/-- Independent requests commute. -/
theorem after_comm {one two : ControlId × Int} (independent : Independent one two) :
    (bank.after one).after two = (bank.after two).after one := by
  rw [after_after, after_after]
  unfold after
  cases bank.verdict one with
  | error e => rfl
  | ok _ =>
    cases bank.verdict two with
    | error e => rfl
    | ok _ => exact moved_comm independent.distinct independent.apart

/-- A request that is independent of several others can be carried out behind them. -/
theorem foldl_after_comm {one : ControlId × Int}
    (independent : ∀ other ∈ values, Independent one other) :
    values.foldl after (bank.after one) = (values.foldl after bank).after one := by
  induction values generalizing bank with
  | nil => rfl
  | cons two rest ih =>
    obtain ⟨here, later⟩ := List.forall_mem_cons.1 independent
    rw [List.foldl_cons, List.foldl_cons, after_comm here]
    exact ih later

/-! ## §4 Orders -/

section

variable {first : ControlId × Int} {rest front back : List (ControlId × Int)}

/-- If the first request of one order is coupled, none in front of it in the other order is. -/
theorem coupledOrder_eq_nil
    (order : coupledOrder (first :: rest) = coupledOrder (front ++ first :: back))
    (absent : first.1 ∉ front.map Prod.fst) (coupled : first.1.isCoupled = true) :
    coupledOrder front = [] := by
  rw [coupledOrder_cons, if_pos coupled, coupledOrder_append] at order
  cases ahead : coupledOrder front with
  | nil => rfl
  | cons id others =>
    -- the first coupled control of the other order is this one, which is not in front of itself
    rw [ahead] at order
    obtain ⟨rfl, -⟩ := List.cons.inj order
    have among : first.1 ∈ coupledOrder front := ahead ▸ List.mem_cons_self
    exact absurd (List.mem_filter.1 among).1 absent

/-- The first request of one order is independent of those in front of it in the other. -/
theorem independent_of_order
    (order : coupledOrder (first :: rest) = coupledOrder (front ++ first :: back))
    (absent : first.1 ∉ front.map Prod.fst) : ∀ other ∈ front, Independent first other := by
  intro other member
  have listed : other.1 ∈ front.map Prod.fst := List.mem_map_of_mem member
  refine ⟨fun equal => absent (equal ▸ listed), fun ⟨coupled, coupled'⟩ => ?_⟩
  have among : other.1 ∈ coupledOrder front := List.mem_filter.2 ⟨listed, coupled'⟩
  rw [coupledOrder_eq_nil order absent coupled] at among
  cases among

/-- Without that request the two orders still agree. -/
theorem coupledOrder_tail
    (order : coupledOrder (first :: rest) = coupledOrder (front ++ first :: back))
    (absent : first.1 ∉ front.map Prod.fst) : coupledOrder rest = coupledOrder (front ++ back) := by
  have alone := coupledOrder_eq_nil order absent
  cases coupled : first.1.isCoupled with
  | true => simpa [coupled, alone coupled] using order
  | false => simpa [coupled] using order

end

/-- Orders of the same requests that agree on the coupled ones lead to the same bank. -/
theorem foldl_after_eq (same : values.Perm values') (distinct : (values.map Prod.fst).Nodup)
    (order : coupledOrder values = coupledOrder values') (bank : ControlBank) :
    values.foldl after bank = values'.foldl after bank := by
  induction values generalizing values' bank with
  | nil => rw [List.nil_perm.1 same]
  | cons first rest ih =>
    -- the first request of one order is found in the other, and moved to the front
    obtain ⟨front, back, rfl⟩ := List.append_of_mem (same.subset List.mem_cons_self)
    have fewer : rest.Perm (front ++ back) := (same.trans List.perm_middle).cons_inv
    obtain ⟨fresh, distinct⟩ := List.nodup_cons.1 distinct
    have absent : first.1 ∉ front.map Prod.fst := by
      rw [(fewer.map Prod.fst).mem_iff, List.map_append] at fresh
      exact fun member => fresh (List.mem_append_left _ member)
    calc (first :: rest).foldl after bank
        = (front ++ back).foldl after (bank.after first) :=
          ih fewer distinct (coupledOrder_tail order absent) _
      _ = back.foldl after ((front.foldl after bank).after first) := by
          rw [List.foldl_append, foldl_after_comm (independent_of_order order absent)]
      _ = (front ++ first :: back).foldl after bank := by
          rw [List.foldl_append, List.foldl_cons]

/-! ## §5 Requests of sound banks -/

/-- An accepted request moves its control, with the exposure behind a vertical blank. -/
theorem Sound.bank_of_set (sound : bank.Sound) (result : bank.set id v = .ok (.ok adjustment)) :
    adjustment.bank = bank.moved id v := by
  obtain ⟨old, setting, present, accepted, ⟨rfl, followed⟩ | ⟨other, same, -⟩⟩ :=
    exists_setting_of_set result
  · obtain rfl := sound.eq_movedTo_of_request present accepted
    have exposure := sound.exposure _ rfl
    rw [followed.bank_eq (sound.of_set result) exposure.minimum exposure.value.1, moved, if_pos rfl,
      modify_of_some present]
    rfl
  · obtain rfl := sound.eq_movedTo_of_request present accepted
    rw [same, moved, if_neg other, modify_of_some present]

/-- A request is told its verdict, and carried out accordingly. -/
theorem Sound.set_after (sound : bank.Sound) (id : ControlId) (v : Int) :
    ∃ changed, bank.set id v = .ok changed ∧ changed.map (fun _ => ()) = bank.verdict (id, v) ∧
      bank.settle changed = bank.after (id, v) ∧ (bank.after (id, v)).Sound := by
  obtain ⟨changed, result, sound'⟩ := sound.set_ok id v
  refine ⟨changed, result, ?_⟩
  cases said : bank.verdict (id, v) with
  | error e =>
    have refused := (verdict_eq_error_iff.1 said).set_eq sound
    cases Except.ok.inj (refused.symm.trans result)
    rw [after, said]
    exact ⟨rfl, rfl, sound⟩
  | ok _ =>
    rw [after, said]
    cases changed with
    | error e =>
      -- what is refused is not told that it is accepted
      have refused := verdict_eq_error_iff.2 (sound.refuses_of_set result)
      cases refused.symm.trans said
    | ok adjustment =>
      have moved := sound.bank_of_set result
      exact ⟨rfl, moved, moved ▸ sound' adjustment rfl⟩

/-- Every request of a list is given the verdict it would have been given alone. -/
theorem Sound.setEach_eq (sound : bank.Sound) (values : List (ControlId × Int)) :
    bank.setEach values = .ok (values.map bank.verdict, values.foldl after bank) := by
  induction values generalizing bank with
  | nil => rfl
  | cons request rest ih =>
    obtain ⟨id, v⟩ := request
    obtain ⟨changed, result, said, settled, sound'⟩ := sound.set_after id v
    have later := ih sound'
    rw [verdict_after, ← settled] at later
    refine Checked.bind_eq_ok_iff.2 ⟨changed, result, Checked.bind_eq_ok_iff.2 ⟨_, later, ?_⟩⟩
    rw [said, settled]
    rfl

/-! ## §6 Histories -/

/-- Along every history over well-formed modes, requests to different controls may be made in any
order that keeps the vertical blank and the exposure in place: they lead to the same bank, and each
of them is given the same verdict. -/
theorem order_irrelevant {mode : Mode} (wellFormed : mode.WellFormed) (digitalGain : Bool)
    {changes : List ControlChange} (admissible : ∀ change ∈ changes, change.Admissible)
    (same : values.Perm values') (distinct : (values.map Prod.fst).Nodup)
    (order : coupledOrder values = coupledOrder values') :
    ∃ bank bank', history mode digitalGain changes = .ok bank ∧
      bank.setEach values = .ok (values.map bank.verdict, bank') ∧
      bank.setEach values' = .ok (values'.map bank.verdict, bank') := by
  obtain ⟨first, created, -, sound₁⟩ := ofMode_ok wellFormed digitalGain
  obtain ⟨bank, changed, sound, -, -⟩ := sound₁.changeAll_ok admissible
  refine ⟨bank, values.foldl after bank, ?_, sound.setEach_eq values, ?_⟩
  · rw [history, created]
    exact changed
  · rw [foldl_after_eq same distinct order bank]
    exact sound.setEach_eq values'

/-- Requests to five controls, two of which are refused. -/
def mixedRequests : List (ControlId × Int) :=
  [(.exposure, 500), (.testPattern, 9), (.verticalBlank, 50), (.pixelRate, 1), (.analogGain, 64)]

/-- The same requests in another order, with the vertical blank behind the exposure still. -/
def shuffledRequests : List (ControlId × Int) :=
  [(.analogGain, 64), (.pixelRate, 1), (.exposure, 500), (.verticalBlank, 50), (.testPattern, 9)]

/-- After the flattening history both orders come to the same. -/
theorem order_irrelevant_flattening :
    ∃ bank bank', history tallMode false flatteningHistory = .ok bank ∧
      bank.setEach mixedRequests = .ok (mixedRequests.map bank.verdict, bank') ∧
      bank.setEach shuffledRequests = .ok (shuffledRequests.map bank.verdict, bank') :=
  order_irrelevant wellFormed_tallMode false admissible_flatteningHistory (by decide) (by decide)
    (by decide)

/-- The vertical blank and the exposure do not commute. -/
example :
    (ofMode tallMode false).bind (·.setEach [(.exposure, 500), (.verticalBlank, 1000)]) ≠
      (ofMode tallMode false).bind (·.setEach [(.verticalBlank, 1000), (.exposure, 500)]) := by
  decide

end ControlBank

end ImageSensor
