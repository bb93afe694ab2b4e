import RuleEngine.Proofs.World.Delivery

/-!
# Handing values out

Two operations hand out the values of a stream, and both are the loop that ends with the first
refusal: publishing hands one value to all subscribers, and subscribing hands all earlier values to
one.  To see what the loop hands over, it is run on a handler that takes down what it is given.

Either operation changes the stream itself at its beginning only, as long as no subscriber leads back
to the stream.
-/

namespace RuleEngine
namespace World

/-! ## Noting answers -/

section Answers

variable {α : Type} {f : World → α → Outcome} {w : World} {xs : List α}

/-- The handler `f`, with a note of each element that it is given and whether it took it. -/
def noting (f : World → α → Outcome) (s : World × List (α × Bool)) (x : α) :
    (World × List (α × Bool)) × Option Error :=
  let (w, e) := f s.1 x
  ((w, s.2 ++ [(x, e.isNone)]), e)

/-- The elements that are handed over, up to and including the first that is refused. -/
def answers (f : World → α → Outcome) (w : World) (xs : List α) : List (α × Bool) :=
  (eachUntilError (noting f) (w, []) xs).1.2

/-- Earlier notes stay, and those of the loop follow them. -/
theorem eachUntilError_noting (notes : List (α × Bool)) :
    (eachUntilError (noting f) (w, notes) xs).1.2 = notes ++ answers f w xs := by
  unfold answers
  induction xs generalizing w notes with
  | nil => exact (List.append_nil notes).symm
  | cons x rest ih =>
      rcases outcome : f w x with ⟨next, _ | e⟩
      · -- the note of `x` is an earlier one for the rest of the loop, on either side
        simp only [eachUntilError, noting, outcome]
        rw [ih, ih ([] ++ _), List.nil_append, List.append_assoc]
      · simp [eachUntilError, noting, outcome]

/-- Taking notes changes nothing: the world and the error are those of the loop without notes. -/
theorem eachUntilError_eq_noting :
    eachUntilError (noting f) (w, []) xs =
      (((eachUntilError f w xs).1, answers f w xs), (eachUntilError f w xs).2) := by
  have same := eachUntilError_view (P := fun _ => True) (f := f) (g := noting f) (t := (w, []))
    Prod.fst id (fun _ (_ : α) (_ : _ ∈ xs) _ => ⟨rfl, trivial⟩) trivial
  rw [List.map_id] at same
  rw [same]
  rfl

theorem answers_cons (x : α) (rest : List α) :
    answers f w (x :: rest) =
      match f w x with
      | (next, none) => (x, true) :: answers f next rest
      | (_, some _) => [(x, false)] := by
  rcases outcome : f w x with ⟨next, _ | e⟩
  · have later : (eachUntilError (noting f) (next, [(x, true)]) rest).1.2 =
        [(x, true)] ++ answers f next rest := eachUntilError_noting _
    simpa [answers, eachUntilError, noting, outcome] using later
  · simp [answers, eachUntilError, noting, outcome]

theorem map_answers : (answers f w xs).map (·.1) = xs.take (answers f w xs).length := by
  induction xs generalizing w with
  | nil => rfl
  | cons x rest ih =>
      rw [answers_cons]
      rcases f w x with ⟨next, _ | e⟩
      · simp [ih]
      · simp

theorem length_answers_le : (answers f w xs).length ≤ xs.length := by
  have taken : ((answers f w xs).map (·.1)).length = (xs.take (answers f w xs).length).length :=
    congrArg List.length map_answers
  rw [List.length_map, List.length_take] at taken
  omega

/-- An element is handed over exactly when none before it is refused. -/
theorem lt_length_answers_iff {i : Nat} :
    i < (answers f w xs).length ↔
      i < xs.length ∧ ∀ j < i, ¬ ∃ y, (answers f w xs)[j]? = some (y, false) := by
  induction xs generalizing w i with
  | nil => simp [answers, eachUntilError]
  | cons x rest ih =>
      rw [answers_cons]
      cases i with
      | zero => rcases f w x with ⟨next, _ | e⟩ <;> simp
      | succ i =>
          rcases f w x with ⟨next, _ | e⟩
          · -- `x` is taken: it refuses nothing, and the rest moves up by one place
            simp only [List.length_cons, Nat.add_lt_add_iff_right, ih]
            refine and_congr_right fun _ => ⟨?_, ?_⟩
            · intro unrefused j below
              cases j with
              | zero => simp
              | succ j => exact unrefused j (Nat.lt_of_succ_lt_succ below)
            · intro unrefused j below
              exact unrefused (j + 1) (Nat.succ_lt_succ below)
          · -- `x` is refused: it is the last that is handed over
            constructor
            · intro inside
              simp at inside
            · rintro ⟨_, unrefused⟩
              exact absurd ⟨x, rfl⟩ (unrefused 0 (Nat.succ_pos i))

end Answers

/-! ## Subscribers that stay away from a stream -/

/-- What a processor does in the course of time. -/
def reactions (w : World) (id : ProcessorId) : List Reaction :=
  (w.processor id).reactions

/-- A subscriber hands what it gets on to a stream, or publishes to the stream, perhaps through
others. -/
inductive Reaches (w : World) (id : SourceId) : Subscriber → Prop where
  | here : Reaches w id (.forward id)
  | through {via : SourceId} {subscriber : Subscriber}
      (registered : subscriber ∈ (w.stream via).subscribers) (reaches : Reaches w id subscriber) :
      Reaches w id (.forward via)
  | publishes {processor : ProcessorId} {reaction : Reaction} {e : SourceId × Value}
      (does : reaction ∈ w.reactions processor) (listed : e ∈ reaction.publishes)
      (reaches : Reaches w id (.forward e.1)) : Reaches w id (.process processor)

/-- A collector keeps what it gets. -/
theorem not_reaches_collect (w : World) (id : SourceId) (other : CollectorId) :
    ¬ w.Reaches id (.collect other) :=
  nofun

/-- What a processor publishes next is in one of its reactions. -/
theorem next_mem_reactions {w : World} {processor : ProcessorId} {e : SourceId × Value}
    (listed : e ∈ (w.processor processor).next.publishes) :
    (w.processor processor).next ∈ w.reactions processor := by
  unfold Processor.next at listed ⊢
  cases coming : (w.processor processor).reactions[(w.processor processor).handed.length]? with
  | none =>
      rw [coming] at listed
      cases listed
  | some reaction => exact List.mem_of_getElem? coming

theorem reactions_hand (w : World) (processor other : ProcessorId) (v : Value) :
    (w.hand processor v).reactions other = w.reactions other := by
  unfold reactions World.processor hand
  rw [List.getElem?_modify]
  cases w.processors[other.index]? with
  | none => rfl
  | some p =>
      simp only [Option.getD_some]
      split <;> rfl

/-- A change that leaves a stream as it is, the subscriptions of all others, and what processors do in
the course of time. -/
structure Undisturbed (id : SourceId) (w w' : World) : Prop where
  stream_eq : w'.stream id = w.stream id
  subscribers_eq : ∀ other, (w'.stream other).subscribers = (w.stream other).subscribers
  reactions_eq : ∀ processor, w'.reactions processor = w.reactions processor
  length_eq : w'.streams.length = w.streams.length

variable {w w' w'' : World} {id : SourceId} {subscriber : Subscriber}

theorem reactions_eq_of_processors (same : w'.processors = w.processors) (processor : ProcessorId) :
    w'.reactions processor = w.reactions processor := by
  unfold reactions World.processor
  rw [same]

theorem Undisturbed.of_streams (same : w'.streams = w.streams)
    (processors : w'.processors = w.processors) : Undisturbed id w w' where
  stream_eq := by
    unfold stream
    rw [same]
  subscribers_eq other := by
    unfold stream
    rw [same]
  reactions_eq := reactions_eq_of_processors processors
  length_eq := congrArg List.length same

theorem Undisturbed.trans (first : Undisturbed id w w') (second : Undisturbed id w' w'') :
    Undisturbed id w w'' where
  stream_eq := second.stream_eq.trans first.stream_eq
  subscribers_eq other := (second.subscribers_eq other).trans (first.subscribers_eq other)
  reactions_eq processor := (second.reactions_eq processor).trans (first.reactions_eq processor)
  length_eq := second.length_eq.trans first.length_eq

/-- Who leads to a stream does not depend on the subscriptions that are made with the stream. -/
theorem Reaches.of_subscribers
    (same : ∀ other, other ≠ id → (w'.stream other).subscribers = (w.stream other).subscribers)
    (reactions : ∀ processor, w'.reactions processor = w.reactions processor)
    (reaches : w'.Reaches id subscriber) : w.Reaches id subscriber := by
  induction reaches with
  | here => exact .here
  | @through via subscriber registered _ ih =>
      by_cases at_id : via = id
      -- a way through the stream has led there before
      · rw [at_id]
        exact .here
      · exact .through (same via at_id ▸ registered) ih
  | @publishes processor _ _ does listed _ ih =>
      exact .publishes (reactions processor ▸ does) listed ih

theorem Undisturbed.reaches (undisturbed : Undisturbed id w w')
    (reaches : w'.Reaches id subscriber) : w.Reaches id subscriber :=
  reaches.of_subscribers (fun other _ => undisturbed.subscribers_eq other) undisturbed.reactions_eq

/-- The subscribers of a stream that does not lead to another one do not lead there either. -/
theorem Undisturbed.not_reaches_subscriber {other : SourceId} (undisturbed : Undisturbed id w w')
    (apart : ¬ w.Reaches id (.forward other))
    (registered : subscriber ∈ (w.stream other).subscribers) : ¬ w'.Reaches id subscriber := by
  intro reaches
  apply apart
  exact .through registered (undisturbed.reaches reaches)

/-- What a processor publishes next goes to streams that do not lead to another one either. -/
theorem Undisturbed.not_reaches_published {processor : ProcessorId} {e : SourceId × Value}
    (undisturbed : Undisturbed id w w') (apart : ¬ w.Reaches id (.process processor))
    (listed : e ∈ (w.processor processor).next.publishes) : ¬ w'.Reaches id (.forward e.1) := by
  intro reaches
  apply apart
  exact .publishes (next_mem_reactions listed) listed (undisturbed.reaches reaches)

theorem Undisturbed.store {other : SourceId} (apart : other ≠ id) (v : Value) :
    Undisturbed id w (w.modifyStream other fun s => { s with values := s.values ++ [v] }) where
  stream_eq := by
    rw [stream_modifyStream, if_neg fun here => apart here.1]
  subscribers_eq := (Fed.store w other v).subscribers_eq
  reactions_eq := reactions_eq_of_processors rfl
  length_eq := List.length_modify _ _ _

theorem Undisturbed.collect (w : World) (other : CollectorId) (v : Value) :
    Undisturbed id w (w.collect other v).1 := by
  unfold World.collect
  split
  · exact .of_streams rfl rfl
  · split <;> exact .of_streams rfl rfl

theorem Undisturbed.hand (w : World) (processor : ProcessorId) (v : Value) :
    Undisturbed id w (w.hand processor v) :=
  ⟨rfl, fun _ => rfl, fun other => reactions_hand w processor other v, rfl⟩

theorem Undisturbed.enter (w : World) (other : SessionId) (partition : Nat) (v : Value) :
    Undisturbed id w (w.enter other partition v).1 := by
  unfold World.enter
  split <;> exact .of_streams rfl rfl

/-- A delivery to a subscriber that does not reach a stream leaves the stream as it is. -/
theorem Undisturbed.deliver (depth : Nat) (v : Value) (apart : ¬ w.Reaches id subscriber) :
    Undisturbed id w (deliver depth v w subscriber).1 := by
  -- the depth bounds how far values are forwarded; who reaches the stream is the same all the way
  induction depth generalizing v w subscriber with
  | zero =>
      cases subscriber with
      | collect other => exact .collect w other v
      | forward other => exact .of_streams rfl rfl
      | enter other partition => exact .enter w other partition v
      | process processor => exact .of_streams rfl rfl
  | succ depth ih =>
      cases subscriber with
      | collect other => exact .collect w other v
      | enter other partition => exact .enter w other partition v
      | forward other =>
          have elsewhere : other ≠ id := by
            rintro rfl
            exact apart .here
          have stored := Undisturbed.store (w := w) elsewhere v
          refine eachUntilError_keeps (P := Undisturbed id w) ?_ stored
          intro u next registered undisturbed
          have next_apart :=
            undisturbed.not_reaches_subscriber apart (stored.subscribers_eq other ▸ registered)
          exact undisturbed.trans (ih v next_apart)
      | process processor =>
          refine List.foldlRecOn (motive := Undisturbed id w) _ _ (.hand w processor v) ?_
          intro u undisturbed e listed
          exact undisturbed.trans (ih e.2 (undisturbed.not_reaches_published apart listed))

/-! ## The two operations on a stream -/

/-- The world once a stream has stored a value that is published. -/
def storing (w : World) (id : SourceId) (v : Value) : World :=
  w.modifyStream id fun s => { s with values := s.values ++ [v] }

/-- The world once a subscriber is registered. -/
def registering (w : World) (id : SourceId) (subscriber : Subscriber) : World :=
  w.modifyStream id fun s => { s with subscribers := s.subscribers ++ [subscriber] }

/-- How a value that is published is handed to one subscriber. -/
def handOn (w : World) (v : Value) : World → Subscriber → Outcome :=
  World.deliver (w.settleBound - 1) v

/-- How an earlier value is handed to a new subscriber. -/
def replay (subscriber : Subscriber) (w : World) (v : Value) : Outcome :=
  World.deliver w.settleBound v w subscriber

theorem publish_eq (w : World) (id : SourceId) (v : Value) :
    w.publish id v =
      eachUntilError (w.handOn v) (w.storing id v) ((w.storing id v).stream id).subscribers :=
  rfl

theorem subscribe_eq (w : World) (id : SourceId) (subscriber : Subscriber) :
    w.subscribe id subscriber =
      eachUntilError (replay subscriber) (w.registering id subscriber) (w.stream id).values :=
  rfl

theorem stream_storing (opened : id.index < w.streams.length) (v : Value) :
    (w.storing id v).stream id =
      { w.stream id with values := (w.stream id).values ++ [v] } := by
  rw [storing, stream_modifyStream, if_pos ⟨rfl, opened⟩]

theorem stream_registering (opened : id.index < w.streams.length) (subscriber : Subscriber) :
    (w.registering id subscriber).stream id =
      { w.stream id with subscribers := (w.stream id).subscribers ++ [subscriber] } := by
  rw [registering, stream_modifyStream, if_pos ⟨rfl, opened⟩]

/-- Publishing to a stream stores the value and does nothing else to it, when no subscriber leads
back. -/
theorem Undisturbed.publish (v : Value)
    (apart : ∀ subscriber ∈ (w.stream id).subscribers, ¬ w.Reaches id subscriber) :
    Undisturbed id (w.storing id v) (w.publish id v).1 := by
  have subscribers := (Fed.store w id v).subscribers_eq
  rw [publish_eq]
  refine eachUntilError_keeps (P := Undisturbed id (w.storing id v)) ?_ (.of_streams rfl rfl)
  intro u next registered undisturbed
  have next_apart : ¬ u.Reaches id next := by
    intro reaches
    apply apart next (subscribers id ▸ registered)
    exact (undisturbed.reaches reaches).of_subscribers (fun other _ => subscribers other)
      (reactions_eq_of_processors rfl)
  exact undisturbed.trans (.deliver _ v next_apart)

/-- Subscribing registers a subscriber and does nothing else to the stream, when the subscriber does
not lead back. -/
theorem Undisturbed.subscribe (apart : ¬ w.Reaches id subscriber) :
    Undisturbed id (w.registering id subscriber) (w.subscribe id subscriber).1 := by
  rw [subscribe_eq]
  refine eachUntilError_keeps (P := Undisturbed id (w.registering id subscriber)) ?_
    (.of_streams rfl rfl)
  intro u v _ undisturbed
  have still_apart : ¬ u.Reaches id subscriber := by
    intro reaches
    apply apart
    refine (undisturbed.reaches reaches).of_subscribers (fun other elsewhere => ?_) ?_
    · rw [registering, stream_modifyStream, if_neg fun here => elsewhere here.1.symm]
    · exact fun _ => rfl
  exact undisturbed.trans (.deliver _ v still_apart)

end World
end RuleEngine
