import RuleEngine.Chain
import RuleEngine.Document.Basic
import RuleEngine.Effect
import RuleEngine.World.Publish

/-!
# Programs of actions

What an action does is a program: a tree whose nodes ask for one thing each.  A program sees the
firing that it belongs to, as of its start; it requests effects, and may take back what it has
requested; it makes facts and streams, publishes to streams, and leaves notes.  The only shared
things that it changes are streams and what hangs on them.

There is no node for subscribing, and none for putting an object into a session other than by an effect
or through a stream.  So programs do not describe an action that keeps an entry point, a session or a
subscriber for itself and uses it while it runs.
-/

namespace RuleEngine

/-! ## Firings -/

/-- What an action sees: the chain that matched, working memory as of the start of the firing, and
the globals of the session. -/
structure Firing where
  chain : Chain
  memory : WorkingMemory
  globals : Globals

instance : Inhabited Firing := ⟨⟨default, .empty, default⟩⟩

/-- What has come of a firing so far: the world, the requested effects, and the notes. -/
structure Progress where
  world : World
  effects : List Effect
  notes : List Document

namespace Progress

/-- A firing that has not begun. -/
def start (w : World) : Progress :=
  ⟨w, [], []⟩

end Progress

/-- What a program can look at: the firing, the effects requested so far, and the tallies of the
streams. -/
structure View extends Firing where
  effects : List Effect
  tally : SourceId → Tally

/-! ## Programs -/

/-- A program that ends with a result or an error. -/
inductive Program (α : Type) where
  /-- Ends with a result. -/
  | done (a : α)
  /-- Ends with an error. -/
  | fail (e : Error)
  /-- Looks around. -/
  | look (next : View → Program α)
  /-- Requests an effect. -/
  | request (effect : Effect) (next : Program α)
  /-- Takes all requested effects back. -/
  | takeBack (next : List Effect → Program α)
  /-- Makes a fact. -/
  | newFact (typeName : String) (fields : List (String × Value)) (next : Value → Program α)
  /-- Opens a stream. -/
  | openStream (next : SourceId → Program α)
  /-- Publishes a value; goes on with the error of a subscriber, if there was one. -/
  | publish (id : SourceId) (v : Value) (next : Option Error → Program α)
  /-- Leaves a note. -/
  | note (line : Document) (next : Program α)

namespace Program

variable {α β : Type}

def andThen (f : α → Program β) : Program α → Program β
  | done a => f a
  | fail e => fail e
  | look next => look fun view => andThen f (next view)
  | request effect next => request effect (andThen f next)
  | takeBack next => takeBack fun effects => andThen f (next effects)
  | newFact typeName fields next => newFact typeName fields fun v => andThen f (next v)
  | openStream next => openStream fun id => andThen f (next id)
  | publish id v next => publish id v fun e => andThen f (next e)
  | note line next => note line (andThen f next)

instance : Monad Program where
  pure := done
  bind p f := p.andThen f

def view : Program View :=
  look done

def ofExcept : Except Error α → Program α
  | .ok a => done a
  | .error e => fail e

/-! ## Running -/

/-- Runs a program in a firing. -/
def run (firing : Firing) : Program α → Progress → Except Error α × Progress
  | done a, s => (.ok a, s)
  | fail e, s => (.error e, s)
  | look next, s => run firing (next ⟨firing, s.effects, s.world.tally⟩) s
  | request effect next, s => run firing next { s with effects := s.effects ++ [effect] }
  | takeBack next, s => run firing (next s.effects) { s with effects := [] }
  | newFact typeName fields next, s =>
    let (v, w) := s.world.newFact typeName fields
    run firing (next v) { s with world := w }
  | openStream next, s =>
    let (id, w) := s.world.openStream
    run firing (next id) { s with world := w }
  | publish id v next, s =>
    let (w, e) := s.world.publish id v
    run firing (next e) { s with world := w }
  | note line next, s => run firing next { s with notes := s.notes ++ [line] }

/-- A program that goes on with another one is run by running the first, and then, unless it failed,
the second from where the first left off. -/
theorem run_andThen (firing : Firing) (f : α → Program β) (p : Program α) (s : Progress) :
    (p.andThen f).run firing s =
      match p.run firing s with
      | (.ok a, s) => (f a).run firing s
      | (.error e, s) => (.error e, s) := by
  induction p generalizing s with
  | done a => rfl
  | fail e => rfl
  | look next ih => exact ih _ _
  | request effect next ih => exact ih _
  | takeBack next ih => exact ih _ _
  | newFact typeName fields next ih => exact ih _ _
  | openStream next ih => exact ih _ _
  | publish id v next ih => exact ih _ _
  | note line next ih => exact ih _

end Program
end RuleEngine
