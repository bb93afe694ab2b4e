import RuleEngine.Proofs.Session.Globals
import RuleEngine.Proofs.World.Additions
import RuleEngine.RuleUnit.Generated

/-!
# Binding is atomic

The statements of a rule unit can be executed one at a time: each is prepared and applied before the
next one is looked at.  Binding prepares all of them first, against the session as it is then, and
applies them afterwards.

The two agree, because a check reads nothing that applying changes.  What is checked against a session
is the declared type of a global, and no statement declares one; and what was checked can be applied
as long as the memory is in order, which no statement changes either.  So the statements can be
prepared at any time (`Wiring.prepare_congr`), a complete preparation is applied to the end
(`wireEach_of_prepared`), and a statement that cannot be prepared is found before anything happens.
-/

namespace RuleEngine

/-! ## Preparing -/

theorem Globals.check_congr {g g' : Globals} (same : g.types = g'.types) (name : String)
    (v : Value) : g.check name v = g'.check name v := by
  unfold check
  rw [same]

/-- What was prepared passes the check of the globals. -/
def PreparedWiring.Checked (globals : Globals) : PreparedWiring → Prop
  | .subscribe .. => True
  | .setGlobal name v => globals.check name v = .ok ()

namespace Wiring

variable {b : Wiring} {rest statements : List Wiring} {data : UnitData} {g g' : Globals}
  {p : PreparedWiring} {prepared : List PreparedWiring} {e : Error}

/-- Preparing depends on the declared types of globals and not on their values. -/
theorem prepare_congr (same : g.types = g'.types) : b.prepare data g = b.prepare data g' := by
  cases b with
  | subscribe getter entryPoint => rfl
  | setGlobal name getter => simp only [prepare, Globals.check_congr same]

theorem prepareAll_congr (same : g.types = g'.types) :
    prepareAll data g statements = prepareAll data g' statements := by
  induction statements with
  | nil => rfl
  | cons b rest ih => simp only [prepareAll, prepare_congr same, ih]

theorem checked_of_prepare (done : b.prepare data g = .ok p) : p.Checked g := by
  cases b with
  | subscribe getter entryPoint =>
      rcases Except.bind_eq_ok_iff.1 done with ⟨v, -, done⟩
      split at done
      · cases done
        trivial
      · cases done
  | setGlobal name getter =>
      rcases Except.bind_eq_ok_iff.1 done with ⟨v, -, done⟩
      rcases Except.bind_eq_ok_iff.1 done with ⟨⟨⟩, checked, done⟩
      cases done
      exact checked

theorem prepareAll_cons_eq_ok_iff :
    prepareAll data g (b :: rest) = .ok prepared ↔
      ∃ p later, b.prepare data g = .ok p ∧ prepareAll data g rest = .ok later ∧
        prepared = p :: later := by
  have unfolded : prepareAll data g (b :: rest) =
      (b.prepare data g).bind fun p => (prepareAll data g rest).bind fun later => .ok (p :: later) :=
    rfl
  rw [unfolded, Except.bind_eq_ok_iff]
  constructor
  · rintro ⟨p, first, done⟩
    rcases Except.bind_eq_ok_iff.1 done with ⟨later, hlater, same⟩
    exact ⟨p, later, first, hlater, (Except.ok.inj same).symm⟩
  · rintro ⟨p, later, first, hlater, rfl⟩
    exact ⟨p, first, Except.bind_eq_ok_iff.2 ⟨later, hlater, rfl⟩⟩

theorem prepareAll_cons_eq_error_iff :
    prepareAll data g (b :: rest) = .error e ↔
      b.prepare data g = .error e ∨
        ∃ p, b.prepare data g = .ok p ∧ prepareAll data g rest = .error e := by
  have unfolded : prepareAll data g (b :: rest) =
      (b.prepare data g).bind fun p => (prepareAll data g rest).map (p :: ·) := by
    have tail : ∀ p, ((prepareAll data g rest).bind fun later => .ok (p :: later) :
        Except Error (List PreparedWiring)) = (prepareAll data g rest).map (p :: ·) := by
      intro p
      cases prepareAll data g rest <;> rfl
    exact congrArg ((b.prepare data g).bind ·) (funext tail)
  rw [unfolded, Except.bind_eq_error_iff]
  simp only [Except.map_eq_error_iff]

end Wiring

/-! ## Applying -/

namespace World

variable {w : World} {id : SessionId} {p : PreparedWiring} {prepared : List PreparedWiring}

/-- When every element is taken, nothing fails. -/
theorem eachUntilError_ok {α : Type} {P : World → Prop} {f : World → α → Outcome} {xs : List α}
    (step : ∀ w, ∀ x ∈ xs, P w → P (f w x).1 ∧ (f w x).2 = none) {w : World} (hw : P w) :
    (eachUntilError f w xs).2 = none := by
  induction xs generalizing w with
  | nil => rfl
  | cons x rest ih =>
      have ⟨kept, taken⟩ := step w x List.mem_cons_self hw
      have later := ih (fun w y hy => step w y (List.mem_cons_of_mem _ hy)) kept
      unfold eachUntilError
      split
      · rename_i w' same
        rw [same] at later
        exact later
      · rename_i w' e same
        rw [same] at taken
        cases taken

/-! ## One statement -/

variable {data : UnitData} {b : Wiring} {statements : List Wiring} {e : Error}

/-- Handing earlier values to an entry point does not fail while the memory is in order. -/
theorem subscribe_ok (intact : (w.session id).broken = false) (source : SourceId)
    (partition : Nat) : (w.subscribe source (.enter id partition)).2 = none := by
  -- a session takes in whatever it gets, and its memory stays in order
  have step : ∀ w' : World, ∀ v ∈ (w.stream source).values, (w'.session id).broken = false →
      ((deliver w'.settleBound v w' (.enter id partition)).1.session id).broken = false ∧
        (deliver w'.settleBound v w' (.enter id partition)).2 = none := by
    intro w' v _ intact'
    have delivered : deliver w'.settleBound v w' (.enter id partition) = w'.enter id partition v := by
      cases w'.settleBound <;> rfl
    rw [delivered]
    refine ⟨((Adds.enter w' id partition v).additions id).broken_eq.trans intact', ?_⟩
    unfold World.enter
    rw [Session.insertThrough_eq, intact']
    rfl
  unfold subscribe
  exact eachUntilError_ok (P := fun w' => (w'.session id).broken = false) step intact

/-- What passes the check can be applied while the memory is in order. -/
theorem applyWiring_ok (intact : (w.session id).broken = false)
    (checked : p.Checked (w.session id).globals) : (w.applyWiring id p).2 = none := by
  cases p with
  | subscribe source entryPoint =>
      -- the source is subscribed once the entry point is declared, which leaves the memory in order
      have declared := (Adds.declareEntryPoint w id entryPoint).additions id
      exact subscribe_ok (declared.broken_eq.trans intact) source _
  | setGlobal name v =>
      have passes : (w.session id).globals.check name v = .ok () := checked
      simp only [applyWiring, Session.setGlobal, Globals.set, passes]
      rfl

/-! ## All statements -/

/-- Executes statements one at a time, until one fails. -/
def wireEach (w : World) (statements : List Wiring) (data : UnitData) (id : SessionId) : Outcome :=
  eachUntilError (fun w b => w.executeWiring b data id) w statements

/-- Statements that can all be prepared are applied to the end, one at a time as well as together. -/
theorem wireEach_of_prepared (intact : (w.session id).broken = false)
    (done : Wiring.prepareAll data (w.session id).globals statements = .ok prepared) :
    w.wireEach statements data id = eachUntilError (applyWiring id) w prepared ∧
      (eachUntilError (applyWiring id) w prepared).2 = none := by
  induction statements generalizing w prepared with
  | nil =>
      cases done
      exact ⟨rfl, rfl⟩
  | cons b rest ih =>
      rcases Wiring.prepareAll_cons_eq_ok_iff.1 done with ⟨p, later, first, hlater, rfl⟩
      have applied := applyWiring_ok intact (Wiring.checked_of_prepare first)
      have additions := (Adds.applyWiring w id p).additions id
      -- the rest is prepared against the session as `p` leaves it, with the same result
      rw [← Wiring.prepareAll_congr additions.steps.types_eq] at hlater
      have tail := ih (additions.broken_eq.trans intact) hlater
      have executed : w.executeWiring b data id = w.applyWiring id p := by
        simp only [executeWiring, first]
      rcases outcome : w.applyWiring id p with ⟨w', _ | e⟩
      · rw [outcome] at tail executed
        simp only [wireEach, eachUntilError, executed, outcome]
        exact tail
      · rw [outcome] at applied
        cases applied

/-- A statement that cannot be prepared fails in its turn, with the same error. -/
theorem wireEach_of_unprepared (intact : (w.session id).broken = false)
    (failed : Wiring.prepareAll data (w.session id).globals statements = .error e) :
    (w.wireEach statements data id).2 = some e := by
  induction statements generalizing w with
  | nil => cases failed
  | cons b rest ih =>
      -- either `b` cannot be prepared, or it is executed and a later one cannot be prepared
      rcases Wiring.prepareAll_cons_eq_error_iff.1 failed with first | ⟨p, first, later⟩
      · have executed : w.executeWiring b data id = (w, some e) := by
          simp only [executeWiring, first]
        simp only [wireEach, eachUntilError, executed]
      · have applied := applyWiring_ok intact (Wiring.checked_of_prepare first)
        have additions := (Adds.applyWiring w id p).additions id
        rw [← Wiring.prepareAll_congr additions.steps.types_eq] at later
        have tail := ih (additions.broken_eq.trans intact) later
        have executed : w.executeWiring b data id = w.applyWiring id p := by
          simp only [executeWiring, first]
        rcases outcome : w.applyWiring id p with ⟨w', _ | e'⟩
        · rw [outcome] at tail executed
          simp only [wireEach, eachUntilError, executed]
          exact tail
        · rw [outcome] at applied
          cases applied

/-- Binding leaves what the statements leave one at a time, or, when one of them fails, it fails with
the same error and leaves the world as it was. -/
theorem wire_eq (intact : (w.session id).broken = false) (statements : List Wiring)
    (data : UnitData) :
    w.wire statements data id =
      match w.wireEach statements data id with
      | (w', none) => (w', none)
      | (_, some e) => (w, some e) := by
  cases done : Wiring.prepareAll data (w.session id).globals statements with
  -- all statements are applied, and none of them fails
  | ok prepared =>
      have ⟨same, applied⟩ := wireEach_of_prepared intact done
      rw [same]
      simp only [wire, done]
      rcases outcome : eachUntilError (applyWiring id) w prepared with ⟨w', _ | e⟩
      · rfl
      · rw [outcome] at applied
        cases applied
  -- none is applied, and one at a time some would have been, up to the one that fails
  | error e =>
      have failed := wireEach_of_unprepared intact done
      simp only [wire, done]
      rcases outcome : w.wireEach statements data id with ⟨w', _ | e'⟩
      · rw [outcome] at failed
        cases failed
      · rw [outcome] at failed
        rw [Option.some.inj failed]

/-- Creating an instance of a unit for a session whose memory is in order succeeds exactly when its
statements, executed one at a time, all succeed, and it then leaves the world that they leave:
the same sessions, with their entry points, memories and globals, and the same streams, with their
values and subscribers.  Otherwise it fails with the error of the first statement that fails, and the
world stays as it was.  Once all statements are prepared, none of them fails to be applied. -/
theorem instantiate_eq_wireEach (w : World) (unit : GeneratedUnit) (data : UnitData)
    (id : SessionId) (intact : (w.session id).broken = false) :
    let bound := w.instantiate unit data id
    let executed := w.wireEach unit.instances.statements data id
    ((∃ i, bound.1 = .ok i) ↔ executed.2 = none) ∧
    (executed.2 = none → bound = (.ok ⟨unit.instances, data⟩, executed.1)) ∧
    (∀ e, executed.2 = some e → bound = (.error e, w)) ∧
    ∀ prepared,
      Wiring.prepareAll data (w.session id).globals unit.instances.statements = .ok prepared →
        (eachUntilError (applyWiring id) w prepared).2 = none := by
  intro bound executed
  have wired := wire_eq intact unit.instances.statements data
  have applied : ∀ prepared,
      Wiring.prepareAll data (w.session id).globals unit.instances.statements = .ok prepared →
        (eachUntilError (applyWiring id) w prepared).2 = none := by
    intro prepared done
    exact (wireEach_of_prepared intact done).2
  rcases outcome : w.wireEach unit.instances.statements data id with ⟨w', _ | e⟩
  · have result : bound = (.ok ⟨unit.instances, data⟩, w') := by
      rw [outcome] at wired
      simp only [bound, instantiate, wired]
    have none : executed = (w', none) := outcome
    rw [none, result]
    exact ⟨⟨fun _ => rfl, fun _ => ⟨_, rfl⟩⟩, fun _ => rfl, nofun, applied⟩
  · have result : bound = (.error e, w) := by
      rw [outcome] at wired
      simp only [bound, instantiate, wired]
    have some_error : executed = (w', some e) := outcome
    rw [some_error, result]
    refine ⟨⟨nofun, nofun⟩, nofun, ?_, applied⟩
    intro e' same
    rw [Option.some.inj same]

/-- A unit with a source of orders and a limit. -/
def orders : UnitDescription :=
  { UnitDescription.ofName "" "Orders" with
    vars := [⟨"orders", "orders", true, .source⟩, ⟨"limit", "limit", false, .int⟩] }

/-- A session for the unit, and a stream with an earlier value. -/
def ordersWorld : World where
  sessions := [.start "DEFAULT" orders.globalTypes]
  streams := [⟨[.int 7], []⟩]
  collectors := []
  processors := []
  nextInstance := 0

def ordersUnit : GeneratedUnit :=
  let name := Naming.artifact "" "OrdersRuleUnit"
  let instances : GeneratedInstance := ⟨name, Catalog.instanceClassTemplate, orders.wirings⟩
  ⟨name, orders.dataType, Catalog.unitClassTemplate, instances⟩

def ordersData (limit : Value) : UnitData := fun getter =>
  if getter = "orders" then some (.source ⟨0⟩) else some limit

theorem orders_bound_or_refused :
    (ordersWorld.session ⟨0⟩).broken = false ∧
    (∃ i, (ordersWorld.instantiate ordersUnit (ordersData (.int 5)) ⟨0⟩).1 = .ok i) ∧
    ordersWorld.instantiate ordersUnit (ordersData .nil) ⟨0⟩ =
      (.error (Cause.typeMismatch .int .nil), ordersWorld) := by
  have intact : (ordersWorld.session ⟨0⟩).broken = false := rfl
  refine ⟨intact, ?_, ?_⟩
  · exact (instantiate_eq_wireEach ordersWorld ordersUnit (ordersData (.int 5)) ⟨0⟩ intact).1.2 rfl
  · exact (instantiate_eq_wireEach ordersWorld ordersUnit (ordersData .nil) ⟨0⟩ intact).2.2.1 _ rfl

end World
end RuleEngine
