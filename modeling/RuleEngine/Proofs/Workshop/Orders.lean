import RuleEngine.Rule.Fire
import RuleEngine.RuleUnit.Generated

/-!
# Orders to a workshop

Any number of builds, of rules and of rule units and under any settings, may draw their names from
one stream of tokens.  A workshop is that stream and a shelf with the consequences that were made.

It takes orders one after the other.  An order is a job, which makes something, or a call of what
stands on the shelf.  Every order gets the next place on the shelf, so a job and what it made are
found at the number of the order; the place of an order that made nothing to fire stays empty.
-/

namespace RuleEngine

/-! ## Calls of a consequence -/

namespace Fireable

/-- What is asked of a consequence: to be built, to be evaluated in a firing, or to be fired. -/
inductive Call where
  | force
  | evaluate (firing : Firing) (s : Progress)
  | fire (chain : Chain) (id : SessionId) (w : World)

/-- What a call comes to. -/
inductive Answer where
  | forced (outcome : Except Error Consequence)
  | evaluated (result : Except Error Unit) (s : Progress)
  | fired (outcome : FiringOutcome)

/-- Answers a call.  What is built for the answer is kept. -/
def answer (u : Fireable) : Call → Answer × Fireable
  | .force =>
    let (outcome, u) := u.force
    (.forced outcome, u)
  | .evaluate firing s =>
    let (result, u, s) := u.evaluate firing s
    (.evaluated result s, u)
  | .fire chain id w =>
    let outcome := u.fire chain id w
    (.fired outcome.toFiringOutcome, outcome.fired)

@[simp] theorem name_force (u : Fireable) : u.force.2.name = u.name := by
  rcases u with c | ⟨name, settings, source, built | built⟩
  · rfl
  · simp only [force, Deferred.force]
    cases Consequence.build settings name source <;> rfl
  · rfl

/-- A consequence keeps its name, whatever is asked of it. -/
theorem name_answer (u : Fireable) (call : Call) : (u.answer call).2.name = u.name := by
  cases call with
  | force => exact u.name_force
  | evaluate firing s => exact u.name_force
  | fire chain id w =>
      simp only [answer, fire]
      split
      · rfl
      · exact u.name_force

end Fireable

theorem TokenStream.drawMany_succ (tokens : TokenStream) (n : Nat) :
    (tokens.drawMany (n + 1)).2 = (tokens.draw.2.drawMany n).2 :=
  rfl

/-! ## Jobs -/

/-- What is made in a workshop: the name of a rule, a rule under a name drawn for it, a deferred
rule, a rule unit, or a rule under a name that is given. -/
inductive Job where
  | drawName (settings : Settings) (rule : Rule)
  | build (settings : Settings) (source : RuleSource)
  | defer (settings : Settings) (source : RuleSource)
  | buildUnit (settings : Settings) (catalog : Catalog) (d : UnitDescription)
  | buildNamed (settings : Settings) (name : String) (source : RuleSource)

/-- What comes of a job. -/
inductive Product where
  | name (name : String)
  | rule (outcome : Except Error Consequence)
  | deferred (d : Deferred)
  | unit (outcome : Except Error GeneratedUnit)

/-- The consequence that was made, if one was. -/
def Product.fireable? : Product → Option Fireable
  | .rule (.ok c) => some (.ready c)
  | .deferred d => some (.deferred d)
  | _ => none

namespace Job

/-- Does a job, with the tokens that are left then. -/
def perform (tokens : TokenStream) : Job → Product × TokenStream
  | .drawName settings rule =>
    let (name, tokens) := Consequence.drawName settings rule tokens
    (.name name, tokens)
  | .build settings source =>
    let (outcome, tokens) := Consequence.buildFresh settings source tokens
    (.rule outcome, tokens)
  | .defer settings source =>
    let (d, tokens) := Deferred.fresh settings source tokens
    (.deferred d, tokens)
  | .buildUnit settings catalog d =>
    let (outcome, tokens) := GeneratedUnit.buildFresh settings catalog d tokens
    (.unit outcome, tokens)
  | .buildNamed settings name source => (.rule (Consequence.build settings name source), tokens)

/-- Whether a job draws a token. -/
def draws : Job → Bool
  | .buildNamed .. => false
  | _ => true

theorem tokens_perform (j : Job) (tokens : TokenStream) :
    (j.perform tokens).2 = if j.draws then tokens.draw.2 else tokens := by
  cases j <;> rfl

end Job

/-! ## Orders -/

/-- A job, or a call of the consequence at a place of the shelf. -/
inductive Order where
  | job (j : Job)
  | call (place : Nat) (call : Fireable.Call)

/-- The reply to an order: what was made, or the answer of what stands at the place. -/
inductive Reply where
  | made (p : Product)
  | answered (answer : Option Fireable.Answer)

/-- Whether an order draws a token. -/
def Order.draws : Order → Bool
  | .job j => j.draws
  | .call .. => false

/-- The stream of tokens that names are drawn from, and a place for each order so far. -/
structure Workshop where
  tokens : TokenStream
  shelf : List (Option Fireable)

namespace Workshop

variable {w : Workshop} {orders : List Order} {place i : Nat}

/-- A workshop that made nothing yet. -/
def opened (tokens : TokenStream) : Workshop :=
  ⟨tokens, []⟩

/-- What stands at a place of the shelf. -/
def at? (w : Workshop) (place : Nat) : Option Fireable :=
  w.shelf[place]?.join

/-- Takes one order. -/
def take (w : Workshop) : Order → Reply × Workshop
  | .job j =>
    let (p, tokens) := j.perform w.tokens
    (.made p, ⟨tokens, w.shelf ++ [p.fireable?]⟩)
  | .call place call =>
    let answered := (w.at? place).map (·.answer call)
    let shelf := w.shelf.set place (answered.map (·.2))
    (.answered (answered.map (·.1)), ⟨w.tokens, shelf ++ [none]⟩)

/-- Takes orders one after the other. -/
def takeAll (w : Workshop) : List Order → List Reply × Workshop
  | [] => ([], w)
  | o :: rest =>
    let (reply, w) := w.take o
    let (replies, w) := w.takeAll rest
    (reply :: replies, w)

/-! ## The shelf -/

@[simp] theorem length_shelf_take (w : Workshop) (o : Order) :
    (w.take o).2.shelf.length = w.shelf.length + 1 := by
  cases o <;> simp [take]

theorem at?_of_beyond (beyond : w.shelf.length ≤ place) : w.at? place = none := by
  simp only [at?, List.getElem?_eq_none beyond, Option.join_none]

/-- What is put at the end of the shelf stands at the next place. -/
theorem at?_concat (tokens : TokenStream) (shelf : List (Option Fireable)) (u : Option Fireable)
    (place : Nat) :
    at? ⟨tokens, shelf ++ [u]⟩ place =
      if place = shelf.length then u else at? ⟨tokens, shelf⟩ place := by
  rcases Nat.lt_trichotomy place shelf.length with before | rfl | beyond
  · simp [at?, List.getElem?_append_left before, Nat.ne_of_lt before]
  · simp [at?]
  · have absent : (shelf ++ [u]).length ≤ place := by
      rw [List.length_append]
      exact beyond
    rw [if_neg (Nat.ne_of_gt beyond)]
    exact (at?_of_beyond absent).trans (at?_of_beyond (Nat.le_of_lt beyond)).symm

/-- A job leaves the shelf as it is, and puts what it made at the place of its order. -/
theorem at?_take_job (w : Workshop) (j : Job) (place : Nat) :
    (w.take (.job j)).2.at? place =
      if place = w.shelf.length then (j.perform w.tokens).1.fireable? else w.at? place :=
  at?_concat _ w.shelf _ place

/-- A call changes nothing but what stands at the place that it calls. -/
theorem at?_take_call (w : Workshop) (called : Nat) (call : Fireable.Call) (place : Nat) :
    (w.take (.call called call)).2.at? place =
      if place = called then (w.at? place).map fun u => (u.answer call).2 else w.at? place := by
  rw [take, at?_concat]
  split
  · -- the place of the order itself stays empty
    rename_i next
    have empty : w.at? place = none := at?_of_beyond (by simp [next])
    simp [empty]
  · simp only [at?, List.getElem?_set, eq_comm (a := called)]
    split
    · rename_i same
      subst same
      by_cases inside : place < w.shelf.length <;> simp [inside, Function.comp_def]
    · rfl

/-- What stands on the shelf keeps its name when another order is taken. -/
theorem name_take (o : Order) (inside : place < w.shelf.length) :
    ((w.take o).2.at? place).map Fireable.name = (w.at? place).map Fireable.name := by
  cases o with
  | job j => simp only [at?_take_job, Nat.ne_of_lt inside, if_false]
  | call called call =>
      rw [at?_take_call]
      split
      · simp only [Option.map_map, Function.comp_def, Fireable.name_answer]
      · rfl

/-! ## Runs -/

theorem tokens_take (w : Workshop) (o : Order) :
    (w.take o).2.tokens = if o.draws then w.tokens.draw.2 else w.tokens := by
  cases o with
  | job j => exact j.tokens_perform w.tokens
  | call place call => rfl

/-- A run draws a token for each order that draws, and none for another one. -/
theorem tokens_takeAll (w : Workshop) (orders : List Order) :
    (w.takeAll orders).2.tokens = (w.tokens.drawMany (orders.countP Order.draws)).2 := by
  induction orders generalizing w with
  | nil => rfl
  | cons o rest ih =>
      have later := ih (w.take o).2
      rw [tokens_take] at later
      cases draws : o.draws <;>
        simpa [takeAll, List.countP_cons, draws, TokenStream.drawMany_succ] using later

theorem takeAll_append (w : Workshop) (orders later : List Order) :
    (w.takeAll (orders ++ later)).2 = ((w.takeAll orders).2.takeAll later).2 := by
  induction orders generalizing w with
  | nil => rfl
  | cons o rest ih => exact ih (w.take o).2

theorem length_shelf_takeAll (w : Workshop) (orders : List Order) :
    (w.takeAll orders).2.shelf.length = w.shelf.length + orders.length := by
  induction orders generalizing w with
  | nil => rfl
  | cons o rest ih =>
      have later := ih (w.take o).2
      rw [length_shelf_take] at later
      simpa [takeAll, Nat.add_assoc, Nat.add_comm 1] using later

/-- The reply to an order is that of the workshop which took the orders before it. -/
theorem reply_takeAll (w : Workshop) (orders : List Order) (i : Nat) :
    (w.takeAll orders).1[i]? =
      orders[i]?.map fun o => ((w.takeAll (orders.take i)).2.take o).1 := by
  induction orders generalizing w i with
  | nil => rfl
  | cons o rest ih =>
      cases i with
      | zero => rfl
      | succ i => exact ih (w.take o).2 i

/-- What stands on the shelf keeps its name. -/
theorem name_takeAll (orders : List Order) (inside : place < w.shelf.length) :
    ((w.takeAll orders).2.at? place).map Fireable.name = (w.at? place).map Fireable.name := by
  induction orders generalizing w with
  | nil => rfl
  | cons o rest ih =>
      have inside' : place < (w.take o).2.shelf.length := by
        rw [length_shelf_take]
        exact Nat.lt_succ_of_lt inside
      calc
        (((w.take o).2.takeAll rest).2.at? place).map Fireable.name
            = ((w.take o).2.at? place).map Fireable.name := ih inside'
        _ = (w.at? place).map Fireable.name := name_take o inside

end Workshop
end RuleEngine
