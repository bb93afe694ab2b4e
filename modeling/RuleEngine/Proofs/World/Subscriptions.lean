import Mathlib.Logic.Relation
import RuleEngine.Proofs.World.Handing

/-!
# What each subscription is handed

A stream is observed from its opening on, with a note of each value that is handed to a subscription
and of the answer.  Between the operations on the stream the world may change in any way that leaves
the stream as it is, so that the subscribers may take or refuse as they like.

A subscription that refuses nothing gets every value that was stored before it.  Of the later ones it
gets those that no earlier subscription refused: a refusal ends the delivery, and whoever subscribed
later is not handed that value then or ever after.
-/

namespace RuleEngine
namespace World

/-! ## Places in a list -/

section Places

variable {α : Type} (xs : List α)

theorem length_filter_zipIdx (k : Nat) :
    (xs.zipIdx.filter fun e => e.2 = k).length = if k < xs.length then 1 else 0 := by
  calc
    (xs.zipIdx.filter fun e => e.2 = k).length
        = (xs.zipIdx.map (·.2)).count k := by
          rw [← List.countP_eq_length_filter, List.count, List.countP_map]
          rfl
    _ = (List.range xs.length).count k := by rw [List.zipIdx_map_snd, List.range_eq_range']
    _ = if k < xs.length then 1 else 0 := by
          rw [List.nodup_range.count]
          simp only [List.mem_range]

theorem filter_zipIdx_lt (n : Nat) :
    (xs.zipIdx.filter fun e => e.2 < n) = (xs.take n).zipIdx := by
  have inside : ∀ e ∈ (xs.take n).zipIdx, decide (e.2 < n) = true := by
    intro e there
    have below := List.snd_lt_of_mem_zipIdx there
    rw [List.length_take] at below
    exact decide_eq_true (Nat.lt_of_lt_of_le below (Nat.min_le_left _ _))
  have outside : ∀ e ∈ (xs.drop n).zipIdx (xs.take n).length, ¬ decide (e.2 < n) = true := by
    intro e there
    have above := List.le_snd_of_mem_zipIdx there
    have below := List.snd_lt_add_of_mem_zipIdx there
    rw [List.length_take] at above below
    rw [List.length_drop] at below
    rw [decide_eq_true_iff]
    omega
  calc
    (xs.zipIdx.filter fun e => e.2 < n)
        = (xs.take n ++ xs.drop n).zipIdx.filter fun e => e.2 < n := by
          rw [List.take_append_drop]
    _ = ((xs.take n).zipIdx.filter fun e => e.2 < n) ++
          ((xs.drop n).zipIdx (xs.take n).length).filter fun e => e.2 < n := by
          rw [List.zipIdx_append, List.filter_append, Nat.zero_add]
    _ = (xs.take n).zipIdx := by
          rw [List.filter_eq_self.2 inside, List.filter_eq_nil_iff.2 outside, List.append_nil]

end Places

/-! ## Observation -/

/-- A note that a subscription, given by its place among the subscribers, was handed a value, given
with its place among the values, and whether the value was taken. -/
structure Delivery where
  subscription : Nat
  value : Value
  position : Nat
  taken : Bool

/-- A stream under observation: the world, the number of values that were stored when each
subscription was made, and the notes so far. -/
structure Observed where
  world : World
  since : List Nat
  notes : List Delivery

namespace Observed

def start (w : World) : Observed :=
  ⟨w, [], []⟩

/-- What the subscribers answer to a value that is published. -/
abbrev published (o : Observed) (id : SourceId) (v : Value) : List (Subscriber × Bool) :=
  answers (o.world.handOn v) (o.world.storing id v) ((o.world.storing id v).stream id).subscribers

/-- What a new subscriber answers to the earlier values. -/
abbrev replayed (o : Observed) (id : SourceId) (subscriber : Subscriber) : List (Value × Bool) :=
  answers (replay subscriber) (o.world.registering id subscriber) (o.world.stream id).values

/-- Publishing under observation: each subscriber that is reached is handed the same value. -/
def publish (o : Observed) (id : SourceId) (v : Value) : Observed where
  world := (o.world.publish id v).1
  since := o.since
  notes := o.notes ++ (o.published id v).zipIdx.map
    fun ((_, taken), place) => ⟨place, v, (o.world.stream id).values.length, taken⟩

/-- Subscribing under observation: the new subscriber is handed the earlier values. -/
def subscribe (o : Observed) (id : SourceId) (subscriber : Subscriber) : Observed where
  world := (o.world.subscribe id subscriber).1
  since := o.since ++ [(o.world.stream id).values.length]
  notes := o.notes ++ (o.replayed id subscriber).zipIdx.map
    fun ((v, taken), place) => ⟨(o.world.stream id).subscribers.length, v, place, taken⟩

/-- What happens while a stream is observed.  Subscribers never lead back to it. -/
inductive Step (id : SourceId) : Observed → Observed → Prop where
  | publish (o : Observed) (v : Value)
      (apart : ∀ subscriber ∈ (o.world.stream id).subscribers, ¬ o.world.Reaches id subscriber) :
      Step id o (o.publish id v)
  | subscribe (o : Observed) (subscriber : Subscriber)
      (apart : ¬ o.world.Reaches id subscriber) : Step id o (o.subscribe id subscriber)
  /-- Something else happens, which leaves the stream as it is. -/
  | elsewhere (o : Observed) (w : World) (same : w.stream id = o.world.stream id)
      (more : o.world.streams.length ≤ w.streams.length) : Step id o { o with world := w }

variable {o o' : Observed} {id : SourceId} {k i : Nat}

/-- The values that a subscription was handed, each with its place among the values of the stream. -/
def handed (o : Observed) (k : Nat) : List (Value × Nat) :=
  (o.notes.filter (·.subscription = k)).map fun note => (note.value, note.position)

/-- A subscription refused the value at a place. -/
def Refused (o : Observed) (k i : Nat) : Prop :=
  ∃ note ∈ o.notes, note.subscription = k ∧ note.position = i ∧ note.taken = false

instance (o : Observed) (k i : Nat) : Decidable (o.Refused k i) :=
  inferInstanceAs (Decidable (∃ note ∈ o.notes, _))

/-- The number of values that were stored when a subscription was made. -/
def before (o : Observed) (k : Nat) : Nat :=
  (o.since[k]?).getD 0

/-- Nothing keeps the value at a place from a subscription: neither, when the value was handed out
earlier than the subscription was made, an earlier refusal of the subscription itself, nor, when it was
handed out later, a refusal of the same value by an earlier subscription. -/
def Due (o : Observed) (k i : Nat) : Prop :=
  if i < o.before k then ∀ j < i, ¬ o.Refused k j else ∀ j < k, ¬ o.Refused j i

instance (o : Observed) (k i : Nat) : Decidable (o.Due k i) :=
  inferInstanceAs (Decidable (ite _ _ _))

/-- The notes are about subscriptions and values that there are, and each subscription was handed what
is due to it. -/
structure Accurate (id : SourceId) (o : Observed) : Prop where
  opened : id.index < o.world.streams.length
  since_length : o.since.length = (o.world.stream id).subscribers.length
  since_le : ∀ n ∈ o.since, n ≤ (o.world.stream id).values.length
  bounds : ∀ note ∈ o.notes, note.subscription < (o.world.stream id).subscribers.length ∧
    note.position < (o.world.stream id).values.length
  handed_eq : ∀ k < (o.world.stream id).subscribers.length,
    o.handed k = (o.world.stream id).values.zipIdx.filter fun e => o.Due k e.2

theorem Accurate.lt_of_refused (accurate : o.Accurate id) (refused : o.Refused k i) :
    k < (o.world.stream id).subscribers.length ∧ i < (o.world.stream id).values.length := by
  rcases refused with ⟨note, there, rfl, rfl, -⟩
  exact accurate.bounds note there

theorem Accurate.before_le (accurate : o.Accurate id) (k : Nat) :
    o.before k ≤ (o.world.stream id).values.length := by
  unfold before
  cases made : o.since[k]? with
  | none => exact Nat.zero_le _
  | some n => exact accurate.since_le n (List.mem_of_getElem? made)

/-! ### Publishing -/

section Publish

variable {v : Value}

theorem lt_length_published_iff :
    k < (o.published id v).length ↔
      k < (o.world.stream id).subscribers.length ∧
        ∀ j < k, ¬ ∃ y, (o.published id v)[j]? = some (y, false) := by
  have same := (Fed.store o.world id v).subscribers_eq id
  refine lt_length_answers_iff.trans (and_congr_left fun _ => ?_)
  exact iff_of_eq (congrArg (fun subscribers => k < subscribers.length) same)

theorem refused_publish_iff :
    (o.publish id v).Refused k i ↔
      o.Refused k i ∨
        i = (o.world.stream id).values.length ∧ ∃ y, (o.published id v)[k]? = some (y, false) := by
  unfold Refused publish
  simp only [List.mem_append, or_and_right, exists_or, List.mem_map, List.mem_zipIdx_iff_getElem?]
  refine or_congr_right ⟨?_, ?_⟩
  · rintro ⟨note, ⟨⟨⟨y, taken⟩, place⟩, there, rfl⟩, rfl, rfl, refused⟩
    cases refused
    exact ⟨rfl, y, there⟩
  · rintro ⟨rfl, y, there⟩
    exact ⟨_, ⟨⟨⟨y, false⟩, k⟩, there, rfl⟩, rfl, rfl, rfl⟩

theorem handed_append_publish :
    (o.publish id v).handed k =
      o.handed k ++
        if k < (o.published id v).length then [(v, (o.world.stream id).values.length)] else [] := by
  unfold handed publish
  rw [List.filter_append, List.map_append]
  refine congrArg (_ ++ ·) ?_
  calc
    _ = ((o.published id v).zipIdx.filter fun e => e.2 = k).map
          fun _ => (v, (o.world.stream id).values.length) := by
          rw [List.filter_map, List.map_map]
          rfl
    _ = List.replicate (if k < (o.published id v).length then 1 else 0)
          (v, (o.world.stream id).values.length) := by
          rw [List.map_const', length_filter_zipIdx]
    _ = _ := by split <;> rfl

/-- What is due of the earlier values does not change with a value that is published. -/
theorem due_earlier_iff (inside : i < (o.world.stream id).values.length) :
    (o.publish id v).Due k i ↔ o.Due k i := by
  -- only refusals up to `i` matter, and the new ones are all at a later place
  have refused : ∀ j i', i' ≤ i → ((o.publish id v).Refused j i' ↔ o.Refused j i') := by
    intro j i' below
    rw [refused_publish_iff]
    exact or_iff_left fun here => by omega
  unfold Due
  show (if i < o.before k then _ else _) ↔ _
  split
  · exact forall₂_congr fun j below => not_congr (refused k j (Nat.le_of_lt below))
  · exact forall₂_congr fun j below => not_congr (refused j i (Nat.le_refl i))

/-- A value that is published is due to those that it reaches. -/
theorem Accurate.due_last_iff (accurate : o.Accurate id)
    (registered : k < (o.world.stream id).subscribers.length) :
    (o.publish id v).Due k (o.world.stream id).values.length ↔
      k < (o.published id v).length := by
  have later : ¬ (o.world.stream id).values.length < o.before k :=
    Nat.not_lt.2 (accurate.before_le k)
  have unnoted : ∀ j, ¬ o.Refused j (o.world.stream id).values.length := by
    intro j refused
    exact Nat.lt_irrefl _ (accurate.lt_of_refused refused).2
  calc
    (o.publish id v).Due k (o.world.stream id).values.length
        ↔ ∀ j < k, ¬ (o.publish id v).Refused j (o.world.stream id).values.length := by
          unfold Due
          exact iff_of_eq (if_neg later)
    _ ↔ ∀ j < k, ¬ ∃ y, (o.published id v)[j]? = some (y, false) := by
          refine forall₂_congr fun j _ => not_congr ?_
          rw [refused_publish_iff]
          exact (or_iff_right (unnoted j)).trans (and_iff_right rfl)
    _ ↔ k < (o.published id v).length := by
          rw [lt_length_published_iff]
          exact (and_iff_right registered).symm

theorem Accurate.stream_publish (accurate : o.Accurate id)
    (apart : ∀ subscriber ∈ (o.world.stream id).subscribers, ¬ o.world.Reaches id subscriber) :
    (o.publish id v).world.stream id =
      { o.world.stream id with values := (o.world.stream id).values ++ [v] } :=
  (Undisturbed.publish v apart).stream_eq.trans (stream_storing accurate.opened v)

theorem Accurate.handed_publish (accurate : o.Accurate id)
    (registered : k < (o.world.stream id).subscribers.length) :
    (o.publish id v).handed k =
      ((o.world.stream id).values ++ [v]).zipIdx.filter fun e => (o.publish id v).Due k e.2 := by
  have due : ∀ e ∈ (o.world.stream id).values.zipIdx,
      decide (o.Due k e.2) = decide ((o.publish id v).Due k e.2) := by
    intro e there
    exact decide_eq_decide.2 (due_earlier_iff (List.snd_lt_of_mem_zipIdx there)).symm
  have due_new := accurate.due_last_iff (v := v) registered
  rw [handed_append_publish, accurate.handed_eq k registered, List.zipIdx_append,
    List.filter_append, List.filter_congr due]
  refine congrArg₂ (· ++ ·) rfl ?_
  by_cases reached : k < (o.published id v).length
  · simp [reached, due_new]
  · simp [reached, due_new]

theorem Accurate.publish (accurate : o.Accurate id)
    (apart : ∀ subscriber ∈ (o.world.stream id).subscribers, ¬ o.world.Reaches id subscriber) :
    (o.publish id v).Accurate id := by
  have after := accurate.stream_publish (v := v) apart
  have length := (Undisturbed.publish v apart).length_eq
  constructor
  case opened =>
    exact Nat.lt_of_lt_of_eq accurate.opened ((List.length_modify _ _ _).symm.trans length.symm)
  case since_length =>
    rw [after]
    exact accurate.since_length
  case since_le =>
    rw [after, List.length_append]
    intro n since
    exact Nat.le_trans (accurate.since_le n since) (Nat.le_add_right _ _)
  case bounds =>
    rw [after, List.length_append]
    intro note there
    rcases List.mem_append.1 there with earlier | new
    · have ⟨subscription, position⟩ := accurate.bounds note earlier
      exact ⟨subscription, Nat.lt_succ_of_lt position⟩
    · rcases List.mem_map.1 new with ⟨⟨⟨y, taken⟩, place⟩, answered, rfl⟩
      have reached := List.snd_lt_of_mem_zipIdx answered
      exact ⟨(lt_length_published_iff.1 reached).1, Nat.lt_succ_self _⟩
  case handed_eq =>
    rw [after]
    intro k registered
    exact accurate.handed_publish registered

end Publish

/-! ### Subscribing -/

section Subscribe

variable {subscriber : Subscriber}

theorem refused_subscribe_iff :
    (o.subscribe id subscriber).Refused k i ↔
      o.Refused k i ∨
        k = (o.world.stream id).subscribers.length ∧
          ∃ v, (o.replayed id subscriber)[i]? = some (v, false) := by
  unfold Refused subscribe
  simp only [List.mem_append, or_and_right, exists_or, List.mem_map, List.mem_zipIdx_iff_getElem?]
  refine or_congr_right ⟨?_, ?_⟩
  · rintro ⟨note, ⟨⟨⟨v, taken⟩, place⟩, there, rfl⟩, rfl, rfl, refused⟩
    cases refused
    exact ⟨rfl, v, there⟩
  · rintro ⟨rfl, v, there⟩
    exact ⟨_, ⟨⟨⟨v, false⟩, i⟩, there, rfl⟩, rfl, rfl, rfl⟩

/-- The notes of a replay are all about the new subscription. -/
theorem handed_subscribe_of_ne (earlier : k ≠ (o.world.stream id).subscribers.length) :
    (o.subscribe id subscriber).handed k = o.handed k := by
  unfold handed subscribe
  rw [List.filter_append, List.map_append]
  have none : ∀ note ∈ (o.replayed id subscriber).zipIdx.map fun ((v, taken), place) =>
      Delivery.mk (o.world.stream id).subscribers.length v place taken,
      ¬ decide (note.subscription = k) = true := by
    intro note there
    rcases List.mem_map.1 there with ⟨e, -, rfl⟩
    exact fun same => earlier (of_decide_eq_true same).symm
  rw [List.filter_eq_nil_iff.2 none, List.map_nil, List.append_nil]

theorem Accurate.handed_new (accurate : o.Accurate id) :
    (o.subscribe id subscriber).handed (o.world.stream id).subscribers.length =
      ((o.world.stream id).values.take (o.replayed id subscriber).length).zipIdx := by
  have unnoted : ∀ note ∈ o.notes,
      ¬ decide (note.subscription = (o.world.stream id).subscribers.length) = true := by
    intro note there
    exact fun same => Nat.ne_of_lt (accurate.bounds note there).1 (of_decide_eq_true same)
  have all : ∀ note ∈ (o.replayed id subscriber).zipIdx.map fun ((v, taken), place) =>
      Delivery.mk (o.world.stream id).subscribers.length v place taken,
      decide (note.subscription = (o.world.stream id).subscribers.length) = true := by
    intro note there
    rcases List.mem_map.1 there with ⟨e, -, rfl⟩
    exact decide_eq_true rfl
  unfold handed subscribe
  rw [List.filter_append, List.filter_eq_nil_iff.2 unnoted, List.nil_append,
    List.filter_eq_self.2 all, List.map_map, ← map_answers, List.zipIdx_map]
  rfl

theorem Accurate.due_subscribe_iff (accurate : o.Accurate id)
    (registered : k < (o.world.stream id).subscribers.length) :
    (o.subscribe id subscriber).Due k i ↔ o.Due k i := by
  have since : (o.subscribe id subscriber).before k = o.before k := by
    have inside : k < o.since.length := accurate.since_length ▸ registered
    unfold before subscribe
    rw [List.getElem?_append_left inside]
  have refused : ∀ j i', j ≤ k → ((o.subscribe id subscriber).Refused j i' ↔ o.Refused j i') := by
    intro j i' below
    rw [refused_subscribe_iff]
    exact or_iff_left fun here => by omega
  unfold Due
  rw [since]
  split
  · exact forall₂_congr fun j _ => not_congr (refused k j (Nat.le_refl k))
  · exact forall₂_congr fun j below => not_congr (refused j i (Nat.le_of_lt below))

/-- An earlier value is due to a new subscription if the replay reaches it. -/
theorem Accurate.due_new_iff (accurate : o.Accurate id)
    (inside : i < (o.world.stream id).values.length) :
    (o.subscribe id subscriber).Due (o.world.stream id).subscribers.length i ↔
      i < (o.replayed id subscriber).length := by
  have since : (o.subscribe id subscriber).before (o.world.stream id).subscribers.length =
      (o.world.stream id).values.length := by
    unfold before subscribe
    rw [← accurate.since_length, List.getElem?_concat_length, Option.getD_some]
  have unnoted : ∀ j, ¬ o.Refused (o.world.stream id).subscribers.length j := by
    intro j refused
    exact Nat.lt_irrefl _ (accurate.lt_of_refused refused).1
  calc
    (o.subscribe id subscriber).Due (o.world.stream id).subscribers.length i
        ↔ ∀ j < i, ¬ (o.subscribe id subscriber).Refused (o.world.stream id).subscribers.length j := by
          unfold Due
          rw [since]
          exact iff_of_eq (if_pos inside)
    _ ↔ ∀ j < i, ¬ ∃ v, (o.replayed id subscriber)[j]? = some (v, false) := by
          refine forall₂_congr fun j _ => not_congr ?_
          rw [refused_subscribe_iff]
          exact (or_iff_right (unnoted j)).trans (and_iff_right rfl)
    _ ↔ i < (o.replayed id subscriber).length := by
          rw [lt_length_answers_iff]
          exact (and_iff_right inside).symm

theorem Accurate.stream_subscribe (accurate : o.Accurate id)
    (apart : ¬ o.world.Reaches id subscriber) :
    (o.subscribe id subscriber).world.stream id =
      { o.world.stream id with
        subscribers := (o.world.stream id).subscribers ++ [subscriber] } :=
  (Undisturbed.subscribe apart).stream_eq.trans (stream_registering accurate.opened subscriber)

theorem Accurate.handed_subscribe (accurate : o.Accurate id)
    (registered : k < (o.world.stream id).subscribers.length + 1) :
    (o.subscribe id subscriber).handed k =
      (o.world.stream id).values.zipIdx.filter fun e => (o.subscribe id subscriber).Due k e.2 := by
  rcases Nat.lt_succ_iff_lt_or_eq.1 registered with earlier | rfl
  · have due : ∀ e ∈ (o.world.stream id).values.zipIdx,
        decide (o.Due k e.2) = decide ((o.subscribe id subscriber).Due k e.2) := by
      intro e _
      exact decide_eq_decide.2 (accurate.due_subscribe_iff earlier).symm
    rw [handed_subscribe_of_ne (Nat.ne_of_lt earlier), accurate.handed_eq k earlier,
      List.filter_congr due]
  · have due : ∀ e ∈ (o.world.stream id).values.zipIdx,
        decide ((o.subscribe id subscriber).Due (o.world.stream id).subscribers.length e.2) =
          decide (e.2 < (o.replayed id subscriber).length) := by
      intro e there
      exact decide_eq_decide.2 (accurate.due_new_iff (List.snd_lt_of_mem_zipIdx there))
    rw [accurate.handed_new, List.filter_congr due, filter_zipIdx_lt]

theorem Accurate.subscribe (accurate : o.Accurate id)
    (apart : ¬ o.world.Reaches id subscriber) : (o.subscribe id subscriber).Accurate id := by
  have after := accurate.stream_subscribe apart
  have length := (Undisturbed.subscribe apart).length_eq
  constructor
  case opened =>
    exact Nat.lt_of_lt_of_eq accurate.opened ((List.length_modify _ _ _).symm.trans length.symm)
  case since_length =>
    rw [after, List.length_append, ← accurate.since_length]
    exact List.length_append
  case since_le =>
    rw [after]
    intro n since
    rcases List.mem_append.1 since with earlier | new
    · exact accurate.since_le n earlier
    · exact Nat.le_of_eq (List.mem_singleton.1 new)
  case bounds =>
    rw [after, List.length_append]
    intro note there
    rcases List.mem_append.1 there with earlier | new
    · have ⟨subscription, position⟩ := accurate.bounds note earlier
      exact ⟨Nat.lt_succ_of_lt subscription, position⟩
    · rcases List.mem_map.1 new with ⟨⟨⟨v, taken⟩, place⟩, answered, rfl⟩
      have reached := List.snd_lt_of_mem_zipIdx answered
      exact ⟨Nat.lt_succ_self _, Nat.lt_of_lt_of_le reached length_answers_le⟩
  case handed_eq =>
    rw [after, List.length_append]
    intro k registered
    exact accurate.handed_subscribe registered

end Subscribe

/-! ## What a run of operations hands out -/

theorem accurate_start (w : World) : (start w.openStream.2).Accurate w.openStream.1 := by
  have empty : w.openStream.2.stream w.openStream.1 = ⟨[], []⟩ := by
    unfold stream openStream
    rw [getD_concat, if_pos rfl]
  constructor
  case opened =>
    unfold start openStream
    rw [List.length_append]
    exact Nat.lt_succ_self _
  case since_length =>
    rw [start, empty]
    rfl
  case since_le => nofun
  case bounds => nofun
  case handed_eq =>
    rw [start, empty]
    nofun

theorem Step.accurate (step : Step id o o') (accurate : o.Accurate id) : o'.Accurate id := by
  cases step with
  | publish v apart => exact accurate.publish apart
  | subscribe subscriber apart => exact accurate.subscribe apart
  | elsewhere w same more =>
      have opened := Nat.lt_of_lt_of_le accurate.opened more
      constructor
      case opened => exact opened
      all_goals rw [same]
      case since_length => exact accurate.since_length
      case since_le => exact accurate.since_le
      case bounds => exact accurate.bounds
      case handed_eq => exact accurate.handed_eq

theorem accurate_of_steps {w : World}
    (steps : Relation.ReflTransGen (Step w.openStream.1) (start w.openStream.2) o) :
    o.Accurate w.openStream.1 := by
  induction steps with
  | refl => exact accurate_start w
  | tail _ last ih => exact last.accurate ih

/-- Whatever is published to a stream, and whoever subscribes to it and takes or refuses what, a
subscription that refuses nothing is handed, once each and in the order of publishing, the values that
were stored before it and those of the later ones that no earlier subscription refuses.  So it is
handed all that the stream holds exactly when no earlier subscription refuses a value that is published
after it was made.

The notes are those of the operations themselves: the loop that takes them down leaves the world, and
ends with the error, of publishing and of subscribing. -/
theorem handed_all_iff_unrefused (w : World) (o : Observed)
    (steps : Relation.ReflTransGen (Step w.openStream.1) (start w.openStream.2) o) (k : Nat)
    (registered : k < (o.world.stream w.openStream.1).subscribers.length)
    (takes : ∀ i, ¬ o.Refused k i) :
    let stored := (o.world.stream w.openStream.1).values.zipIdx
    (o.handed k = stored.filter fun e => e.2 < o.before k ∨ ∀ j < k, ¬ o.Refused j e.2) ∧
    (o.handed k = stored ↔ ∀ j < k, ∀ i, o.before k ≤ i → ¬ o.Refused j i) ∧
    (∀ id v,
      eachUntilError (noting (o.world.handOn v)) (o.world.storing id v, [])
          ((o.world.storing id v).stream id).subscribers =
        (((o.world.publish id v).1, o.published id v), (o.world.publish id v).2)) ∧
    ∀ id subscriber,
      eachUntilError (noting (replay subscriber)) (o.world.registering id subscriber, [])
          (o.world.stream id).values =
        (((o.world.subscribe id subscriber).1, o.replayed id subscriber),
          (o.world.subscribe id subscriber).2) := by
  intro stored
  have accurate := accurate_of_steps steps
  -- the subscription refuses nothing itself, so its replay was not cut short
  have due : ∀ i, o.Due k i ↔ i < o.before k ∨ ∀ j < k, ¬ o.Refused j i := by
    intro i
    unfold Due
    split
    · rename_i earlier
      exact iff_of_true (fun j _ => takes j) (Or.inl earlier)
    · rename_i later
      exact (or_iff_right later).symm
  have handed : o.handed k =
      stored.filter fun e => e.2 < o.before k ∨ ∀ j < k, ¬ o.Refused j e.2 := by
    rw [accurate.handed_eq k registered]
    exact List.filter_congr fun e _ => decide_eq_decide.2 (due e.2)
  refine ⟨handed, ?_, fun _ _ => eachUntilError_eq_noting, fun _ _ => eachUntilError_eq_noting⟩
  rw [handed, List.filter_eq_self]
  constructor
  · intro all j below i later refused
    have inside := (accurate.lt_of_refused refused).2
    have there : ((o.world.stream w.openStream.1).values[i], i) ∈ stored :=
      List.mem_zipIdx_iff_getElem?.2 (List.getElem?_eq_getElem inside)
    rcases of_decide_eq_true (all _ there) with earlier | unrefused
    · exact absurd later (Nat.not_le.2 earlier)
    · exact unrefused j below refused
  · intro unrefused e _
    refine decide_eq_true ?_
    by_cases earlier : e.2 < o.before k
    · exact Or.inl earlier
    · exact Or.inr fun j below => unrefused j below e.2 (Nat.not_lt.1 earlier)

/-- A collector that takes nothing and one that takes all. -/
def twoCollectors : World where
  sessions := []
  streams := []
  collectors := [⟨some 0, "rejected", []⟩, ⟨none, "rejected", []⟩]
  processors := []
  nextInstance := 0

/-- Both have subscribed to a new stream. -/
def bothSubscribed : Observed :=
  ((start twoCollectors.openStream.2).subscribe ⟨0⟩ (.collect ⟨0⟩)).subscribe ⟨0⟩ (.collect ⟨1⟩)

def refusedFirst : Observed :=
  bothSubscribed.publish ⟨0⟩ (.int 1)

theorem value_lost_behind_refusal :
    (∀ i, ¬ refusedFirst.Refused 1 i) ∧
      refusedFirst.handed 1 ≠ (refusedFirst.world.stream ⟨0⟩).values.zipIdx ∧
      (refusedFirst.world.stream ⟨0⟩).values = [.int 1] ∧
      refusedFirst.world.collector? ⟨1⟩ = some ⟨none, "rejected", []⟩ := by
  have steps : Relation.ReflTransGen (Step ⟨0⟩) (start twoCollectors.openStream.2) refusedFirst := by
    have subscribed : Relation.ReflTransGen (Step ⟨0⟩) (start twoCollectors.openStream.2)
        bothSubscribed :=
      .tail (.single (.subscribe _ _ (not_reaches_collect _ _ _)))
        (.subscribe _ _ (not_reaches_collect _ _ _))
    refine .tail subscribed (.publish _ _ fun subscriber there => ?_)
    rcases List.mem_cons.1 there with rfl | there
    · exact not_reaches_collect _ _ _
    · rw [List.mem_singleton.1 there]
      exact not_reaches_collect _ _ _
  have takes : ∀ i, ¬ refusedFirst.Refused 1 i := by
    rintro i ⟨note, there, other, -⟩
    rw [List.mem_singleton.1 there] at other
    cases other
  have refused : refusedFirst.Refused 0 0 := ⟨_, List.mem_singleton.2 rfl, rfl, rfl, rfl⟩
  refine ⟨takes, ?_, rfl, rfl⟩
  intro all
  exact (handed_all_iff_unrefused twoCollectors refusedFirst steps 1 (by decide) takes).2.1.1 all 0
    Nat.one_pos 0 (Nat.le_refl 0) refused

end Observed
end World
end RuleEngine
