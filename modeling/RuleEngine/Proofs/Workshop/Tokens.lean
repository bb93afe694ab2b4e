import RuleEngine.Proofs.Rule.Arguments
import RuleEngine.Proofs.Workshop.Orders

/-!
# Tokens in a workshop

A job that draws a token draws one, and does so before anything can fail.  So the tokens of a seeded
stream go to the jobs of a workshop in turn, and the token of a job depends on how many jobs before
it drew one, but not on what they were or what came of them.

It is shown for two runs as well.  When one job of a run is replaced by another one that draws a
token alike, the two runs agree from then on but for what stands at the place of that job.
-/

namespace RuleEngine

theorem TokenStream.drawMany_seeded (seed : UInt64) (drawn n : Nat) :
    ((seeded seed drawn).drawMany n).2 = .seeded seed (drawn + n) := by
  induction n generalizing drawn with
  | zero => rfl
  | succ n ih => simpa [drawMany, draw, Nat.add_assoc, Nat.add_comm 1] using ih (drawn + 1)

/-! ## Names -/

namespace GeneratedUnit

variable {settings : Settings} {catalog : Catalog} {d : UnitDescription} {token : UInt64}

/-- The classes of a unit have the names that carry its token. -/
theorem names_of_build {u : GeneratedUnit} (built : build settings catalog d token = .ok u) :
    u.name.simple = Naming.unitClass d.name token ∧
      u.instances.name.simple = Naming.instanceClass d.name token := by
  rcases Except.bind_eq_ok_iff.1 built with ⟨instances, -, built⟩
  rcases Except.bind_eq_ok_iff.1 built with ⟨shape, -, built⟩
  cases built
  exact ⟨rfl, rfl⟩

/-- A build of a unit that fails tells of the class that it failed at. -/
theorem artifact_of_build_error {e : Error} (failed : build settings catalog d token = .error e) :
    ∃ context, e.context = some context ∧
      (context.artifact = some (Naming.unitClass d.name token) ∨
        context.artifact = some (Naming.instanceClass d.name token)) := by
  rcases Except.bind_eq_error_iff.1 failed with failed | ⟨instances, -, failed⟩
  · rcases Except.mapError_eq_error_iff.1 failed with ⟨e', -, rfl⟩
    exact ⟨_, rfl, Or.inr rfl⟩
  · rcases Except.bind_eq_error_iff.1 failed with failed | ⟨shape, -, contra⟩
    · rcases Except.mapError_eq_error_iff.1 failed with ⟨e', -, rfl⟩
      exact ⟨_, rfl, Or.inl rfl⟩
    · cases contra

end GeneratedUnit

/-- A product bears names: what was made has them, and what could not be made is reported under one
of them. -/
def Product.Bears (names : List String) : Product → Prop
  | .name given => names = [given]
  | .deferred d => names = [d.name]
  | .rule (.ok c) => names = [c.name]
  | .unit (.ok u) => names = [u.name.simple, u.instances.name.simple]
  | .rule (.error e) | .unit (.error e) =>
    ∃ context, e.context = some context ∧ ∃ name ∈ names, context.artifact = some name

namespace Job

/-- The name of a rule with a token. -/
def ruleName (settings : Settings) (rule : Rule) (token : UInt64) : String :=
  Naming.invoker (settings.packageFor rule.package) rule.name token

/-- The names that a job gives with a token. -/
def names (token : UInt64) : Job → List String
  | .drawName settings rule => [ruleName settings rule token]
  | .build settings source => [ruleName settings source.rule token]
  | .defer settings source => [ruleName settings source.rule token]
  | .buildUnit _ _ d => [Naming.unitClass d.name token, Naming.instanceClass d.name token]
  | .buildNamed _ name _ => [name]

/-- What comes of a job with a token. -/
def productWith (token : UInt64) : Job → Product
  | .drawName settings rule => .name (ruleName settings rule token)
  | .build settings source =>
    .rule (Consequence.build settings (ruleName settings source.rule token) source)
  | .defer settings source =>
    .deferred ⟨ruleName settings source.rule token, settings, source, none⟩
  | .buildUnit settings catalog d => .unit (GeneratedUnit.build settings catalog d token)
  | .buildNamed settings name source => .rule (Consequence.build settings name source)

/-- Of the tokens, a job uses the next one only. -/
theorem product_perform (j : Job) (tokens : TokenStream) :
    (j.perform tokens).1 = j.productWith tokens.draw.1 := by
  cases j <;> rfl

theorem bears_of_build (settings : Settings) (name : String) (source : RuleSource) :
    (Product.rule (Consequence.build settings name source)).Bears [name] := by
  cases outcome : Consequence.build settings name source with
  | ok c => exact congrArg (fun name => [name]) (Consequence.names_of_build outcome).1.symm
  | error e =>
      exact ⟨_, Consequence.context_of_build_error outcome, name, List.mem_singleton_self _, rfl⟩

theorem bears_of_buildUnit (settings : Settings) (catalog : Catalog) (d : UnitDescription)
    (token : UInt64) :
    (Product.unit (GeneratedUnit.build settings catalog d token)).Bears
      [Naming.unitClass d.name token, Naming.instanceClass d.name token] := by
  cases outcome : GeneratedUnit.build settings catalog d token with
  | ok u =>
      have ⟨unitName, instanceName⟩ := GeneratedUnit.names_of_build outcome
      simp only [Product.Bears, unitName, instanceName]
  | error e =>
      rcases GeneratedUnit.artifact_of_build_error outcome with ⟨context, known, artifact⟩
      exact ⟨context, known, by simpa using artifact⟩

/-- Whether it succeeds or not, a job gives the names that carry its token. -/
theorem bears_productWith (j : Job) (token : UInt64) :
    (j.productWith token).Bears (j.names token) := by
  cases j with
  | drawName settings rule => rfl
  | build settings source => exact bears_of_build settings _ source
  | defer settings source => rfl
  | buildUnit settings catalog d => exact bears_of_buildUnit settings catalog d token
  | buildNamed settings name source => exact bears_of_build settings name source

end Job

namespace Workshop

variable {w w' : Workshop} {orders : List Order} {j j' : Job} {i k : Nat}

/-! ## Tokens in turn -/

theorem tokens_takeAll_seeded (seed : UInt64) (orders : List Order) :
    ((opened (.seeded seed 0)).takeAll orders).2.tokens =
      .seeded seed (orders.countP Order.draws) := by
  rw [tokens_takeAll, opened, TokenStream.drawMany_seeded, Nat.zero_add]

/-- How many orders drew before depends only on which orders draw. -/
theorem countP_draws_take (orders : List Order) (i : Nat) :
    (orders.take i).countP Order.draws = ((orders.map Order.draws).take i).countP id := by
  rw [← List.map_take, List.countP_map, Function.id_comp]

theorem reply_to_job (seed : UInt64) (ordered : orders[i]? = some (.job j)) :
    ((opened (.seeded seed 0)).takeAll orders).1[i]? =
      some (.made (j.productWith
        (TokenStream.tokenAt seed ((orders.take i).countP Order.draws)))) := by
  rw [reply_takeAll, ordered]
  simp only [Option.map_some, take, Job.product_perform, tokens_takeAll_seeded]
  rfl

/-- What a job put on the shelf has the name that it was made with ever after. -/
theorem name_at_job (ordered : orders[i]? = some (.job j)) :
    ((w.takeAll orders).2.at? (w.shelf.length + i)).map Fireable.name =
      (j.perform (w.takeAll (orders.take i)).2.tokens).1.fireable?.map Fireable.name := by
  have ⟨inside, same⟩ := List.getElem?_eq_some_iff.1 ordered
  have parts : orders = orders.take i ++ .job j :: orders.drop (i + 1) := by
    rw [← same, List.getElem_cons_drop, List.take_append_drop]
  let before := (w.takeAll (orders.take i)).2
  have place : w.shelf.length + i = before.shelf.length := by
    rw [length_shelf_takeAll, List.length_take, Nat.min_eq_left (Nat.le_of_lt inside)]
  have later : (w.takeAll orders).2 = ((before.take (.job j)).2.takeAll (orders.drop (i + 1))).2 :=
    calc
      (w.takeAll orders).2 = (w.takeAll (orders.take i ++ .job j :: orders.drop (i + 1))).2 := by
        rw [← parts]
      _ = (before.takeAll (.job j :: orders.drop (i + 1))).2 := takeAll_append w _ _
  have next : before.shelf.length < (before.take (.job j)).2.shelf.length := by
    rw [length_shelf_take]
    exact Nat.lt_succ_self _
  rw [later, place, name_takeAll _ next, at?_take_job, if_pos rfl]

/-! ## Two runs -/

/-- Two workshops that agree but for what stands at one place of the shelf. -/
structure AgreeApart (place : Nat) (w w' : Workshop) : Prop where
  tokens : w'.tokens = w.tokens
  places : w'.shelf.length = w.shelf.length
  elsewhere : ∀ i, i ≠ place → w'.at? i = w.at? i

variable {place : Nat}

/-- Two jobs that draw alike leave workshops that agree but for the place of the job. -/
theorem agreeApart_of_jobs (w : Workshop) (alike : j'.draws = j.draws) :
    AgreeApart w.shelf.length (w.take (.job j)).2 (w.take (.job j')).2 where
  tokens := by
    have same : (Order.job j').draws = (Order.job j).draws := alike
    rw [tokens_take, tokens_take, same]
  places := by simp only [length_shelf_take]
  elsewhere i other := by simp only [at?_take_job, if_neg other]

theorem AgreeApart.take (agree : AgreeApart place w w') (o : Order) :
    AgreeApart place (w.take o).2 (w'.take o).2 where
  tokens := by simp only [tokens_take, agree.tokens]
  places := by simp only [length_shelf_take, agree.places]
  elsewhere i other := by
    cases o with
    | job j => simp only [at?_take_job, agree.tokens, agree.places, agree.elsewhere i other]
    | call called asked => simp only [at?_take_call, agree.elsewhere i other]

/-- Workshops that agree but for a place reply alike to every order but a call of that place. -/
theorem AgreeApart.reply_take (agree : AgreeApart place w w') {o : Order}
    (apart : ∀ asked, o ≠ .call place asked) : (w'.take o).1 = (w.take o).1 := by
  cases o with
  | job j => simp only [Workshop.take, agree.tokens]
  | call called asked =>
      have other : called ≠ place := by
        rintro rfl
        exact apart asked rfl
      simp only [Workshop.take, agree.elsewhere called other]

theorem AgreeApart.reply_takeAll (agree : AgreeApart place w w')
    (apart : ∀ asked, orders[i]? ≠ some (.call place asked)) :
    (w'.takeAll orders).1[i]? = (w.takeAll orders).1[i]? := by
  induction orders generalizing w w' i with
  | nil => rfl
  | cons o rest ih =>
      cases i with
      | zero => exact congrArg some (agree.reply_take fun asked same => apart asked (congrArg some same))
      | succ i => exact ih (agree.take o) apart

/-- When a job is replaced by one that draws alike, the replies to the other orders stay, except to
calls of what the job made. -/
theorem reply_takeAll_set (replaced : orders[k]? = some (.job j)) (alike : j'.draws = j.draws)
    (other : i ≠ k) (apart : ∀ asked, orders[i]? ≠ some (.call (w.shelf.length + k) asked)) :
    (w.takeAll (orders.set k (.job j'))).1[i]? = (w.takeAll orders).1[i]? := by
  induction orders generalizing w i k with
  | nil => rfl
  | cons o rest ih =>
      cases k with
      | zero =>
          cases i with
          | zero => exact absurd rfl other
          | succ i =>
              cases replaced
              exact (agreeApart_of_jobs w alike).reply_takeAll apart
      | succ k =>
          cases i with
          | zero => rfl
          | succ i =>
              have apart' : ∀ asked,
                  rest[i]? ≠ some (.call ((w.take o).2.shelf.length + k) asked) := by
                rw [length_shelf_take, Nat.add_right_comm]
                exact apart
              exact ih replaced (fun same => other (congrArg (· + 1) same)) apart'

/-- In a workshop with the tokens of a seed, whatever is ordered of it and in whichever order,

* a token is drawn for each order that draws one, and for no other;
* what comes of a job is determined by the job and by the token at its number among the orders that
  draw: it bears the names with that token, also when it failed, and keeps its name on the shelf;
* two runs that draw at the same orders give the same reply to a job that they share;
* a job may be replaced by any other one that draws alike, and no reply changes but its own and those
  to calls of what it made. -/
theorem jobs_draw_in_turn (seed : UInt64) (orders : List Order) :
    let run := (opened (.seeded seed 0)).takeAll orders
    run.2.tokens = .seeded seed (orders.countP Order.draws) ∧
    (∀ (i : Nat) j, orders[i]? = some (.job j) →
      let token := TokenStream.tokenAt seed ((orders.take i).countP Order.draws)
      run.1[i]? = some (.made (j.productWith token)) ∧
        (j.productWith token).Bears (j.names token) ∧
        (run.2.at? i).map Fireable.name = (j.productWith token).fireable?.map Fireable.name) ∧
    (∀ orders' : List Order, orders'.map Order.draws = orders.map Order.draws →
      ∀ (i : Nat) j, orders[i]? = some (.job j) → orders'[i]? = some (.job j) →
        ((opened (.seeded seed 0)).takeAll orders').1[i]? = run.1[i]?) ∧
    ∀ (k : Nat) j j', orders[k]? = some (.job j) → j'.draws = j.draws →
      ∀ i : Nat, i ≠ k → (∀ asked, orders[i]? ≠ some (.call k asked)) →
        ((opened (.seeded seed 0)).takeAll (orders.set k (.job j'))).1[i]? = run.1[i]? := by
  intro run
  refine ⟨tokens_takeAll_seeded seed orders, ?_, ?_, ?_⟩
  · intro i j ordered token
    refine ⟨reply_to_job seed ordered, j.bears_productWith token, ?_⟩
    have kept := name_at_job (w := opened (.seeded seed 0)) ordered
    have place : (opened (.seeded seed 0)).shelf.length + i = i := Nat.zero_add i
    rw [Job.product_perform, tokens_takeAll_seeded, place] at kept
    exact kept
  · intro orders' alike i j ordered ordered'
    have counts : (orders'.take i).countP Order.draws = (orders.take i).countP Order.draws := by
      rw [countP_draws_take, countP_draws_take, alike]
    rw [reply_to_job seed ordered', counts]
    exact (reply_to_job seed ordered).symm
  · intro k j j' replaced alike i other apart
    exact reply_takeAll_set replaced alike other (by simpa [opened] using apart)

/-- A rule that reads a global which was never declared. -/
def undeclared : RuleSource where
  rule := ⟨"undeclared", "", none, ["limit"]⟩
  declarations := []
  types := .empty
  action := ⟨"Rules", "consequence", [], fun _ => .done ()⟩

/-- A build that fails, and a name drawn after it. -/
def failureThenName : List Order :=
  [.job (.build {} undeclared), .job (.drawName {} undeclared.rule)]

theorem name_after_failure :
    let run := (opened (.seeded 7 0)).takeAll failureThenName
    (∃ e, run.1[0]? = some (.made (.rule (.error e)))) ∧
      run.1[1]? =
        some (.made (.name (Job.ruleName {} undeclared.rule (TokenStream.tokenAt 7 1)))) ∧
      ((opened (.seeded 7 0)).takeAll
        [.job (.drawName {} undeclared.rule), .job (.drawName {} undeclared.rule)]).1[1]? =
          run.1[1]? ∧
      ((opened (.seeded 7 0)).takeAll
        [.job (.defer {} undeclared), .job (.drawName {} undeclared.rule)]).1[1]? = run.1[1]? := by
  rcases jobs_draw_in_turn 7 failureThenName with ⟨-, turns, shared, replaced⟩
  refine ⟨⟨_, (turns 0 _ rfl).1⟩, (turns 1 _ rfl).1, shared _ rfl 1 _ rfl rfl, ?_⟩
  have apart : ∀ asked, failureThenName[1]? ≠ some (.call 0 asked) := nofun
  exact replaced 0 _ (.defer {} undeclared) rfl rfl 1 (by decide) apart

end Workshop
end RuleEngine
