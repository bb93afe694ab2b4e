import Mathlib.Data.List.Basic
import RuleEngine.Proofs.Resolution.SinglePass
import RuleEngine.ResolutionInWords

/-!
# Depths in machine words

A plan takes declarations at any depth that is a word, the greatest one included, and is then resolved
along chains of any length.  In words only one operation can overflow on this way.  To find the node at
a depth, the nodes down to it are counted, which are one more than the depth; at the greatest depth
their number is no word.  All else is done for nodes that were found, and by walks that have passed one
node more than the depth at which they stand, so there the numbers stay as small as those depths.
-/

namespace RuleEngine

variable {chain : Chain} {depth target : Nat} {earlier targets : List Nat} {w : Walk}

/-! ## Lookups -/

theorem Word.add_one_of_lt (below : depth < greatest) : add depth 1 = .ok (depth + 1) :=
  if_pos below

theorem Word.add_one_greatest : add greatest 1 = .error (.sum greatest 1) :=
  if_neg (Nat.not_succ_le_self greatest)

theorem Chain.nodeInWords_of_lt (below : depth < Word.greatest) :
    chain.nodeInWords depth = .ok (chain.node? depth) := by
  rw [nodeInWords, Word.add_one_of_lt below, Except.map, Word.sub?, node?]
  by_cases inside : depth < chain.length
  · rw [if_pos inside, if_pos (Nat.succ_le_of_lt inside), Option.bind_some]
  · rw [if_neg inside, if_neg (Nat.not_le.2 (Nat.lt_succ_of_le (Nat.not_lt.1 inside)))]
    rfl

theorem Chain.nodeInWords_greatest :
    chain.nodeInWords Word.greatest = .error (.sum Word.greatest 1) := by
  rw [nodeInWords, Word.add_one_greatest]
  rfl

theorem Chain.isSome_node?_iff : (chain.node? depth).isSome ↔ depth < chain.length := by
  rw [Option.isSome_iff_ne_none, ne_eq, node?_eq_none_iff, Nat.not_le]

/-! ## Walks -/

namespace Walk

theorem Steady.visitsInWords (steady : w.Steady) (forward : w.depth ≤ target)
    (below : target < Word.greatest) : w.visitsInWords target = .ok (target + 1) := by
  rcases steady with begun | begun
  · rw [begun]
    exact Word.add_one_of_lt below
  · have visits : w.visits = w.depth + 1 := congrArg visits begun
    have difference : Word.sub target w.depth = .ok (target - w.depth) := if_pos forward
    have count : w.visits + (target - w.depth) = target + 1 := by omega
    have sum : Word.add w.visits (target - w.depth) = .ok (target + 1) := by
      rw [Word.add, count, if_pos (Nat.succ_le_of_lt below)]
    rw [Walk.visitsInWords, if_neg (by omega), difference, Except.bind, sum]

/-- Below the greatest depth a steady walk ascends in words as it does in numbers. -/
theorem Steady.ascendInWords (steady : w.Steady) (chain : Chain)
    (below : target < Word.greatest) :
    w.ascendInWords chain target = .ok (w.ascend chain target) := by
  by_cases back : target < w.depth
  · rw [Walk.ascendInWords, Walk.ascend, if_pos back, if_pos back]
  · have forward : w.depth ≤ target := Nat.not_lt.1 back
    rw [Walk.ascendInWords, if_neg back, Chain.nodeInWords_of_lt below, steady.ascend forward]
    cases chain.node? target with
    | none => rfl
    | some node =>
        simp only [steady.visitsInWords forward below]
        rfl

theorem ascendInWords_greatest (stands : w.depth ≤ Word.greatest) :
    w.ascendInWords chain Word.greatest = .error (.sum Word.greatest 1) := by
  rw [ascendInWords, if_neg (Nat.not_lt.2 stands), Chain.nodeInWords_greatest]

/-! ### Trails -/

/-- Where a walk stands after ascents: at the deepest of the depths that the chain has. -/
def standing (chain : Chain) (targets : List Nat) : Walk :=
  ((targets.filter (· < chain.length)).max?).elim start reached

/-- What a walk answers to ascents, one after the other: the node at the depth, unless an earlier
ascent went deeper. -/
def answers (chain : Chain) : List Nat → List Nat → List (Option Node × Walk)
  | _, [] => []
  | earlier, target :: rest =>
    ((if (standing chain earlier).depth ≤ target then chain.node? target else none),
      standing chain (earlier ++ [target])) :: answers chain (earlier ++ [target]) rest

theorem steady_standing (chain : Chain) (targets : List Nat) : (standing chain targets).Steady := by
  unfold standing
  cases (targets.filter (· < chain.length)).max? with
  | none => exact Or.inl rfl
  | some deepest => exact steady_reached deepest

theorem max?_concat (depths : List Nat) (depth : Nat) :
    (depths ++ [depth]).max? = some (max (depths.max?.getD 0) depth) := by
  cases depths with
  | nil => exact congrArg some (Nat.zero_max depth).symm
  | cons first rest =>
      rw [List.cons_append, List.max?_cons', List.foldl_append, List.max?_cons']
      rfl

theorem depth_standing (chain : Chain) (targets : List Nat) :
    (standing chain targets).depth = ((targets.filter (· < chain.length)).max?).getD 0 := by
  unfold standing
  cases (targets.filter (· < chain.length)).max? <;> rfl

theorem standing_concat_of_lt (inside : target < chain.length) (earlier : List Nat) :
    standing chain (earlier ++ [target]) = reached (max (standing chain earlier).depth target) := by
  have kept : (earlier ++ [target]).filter (· < chain.length) =
      earlier.filter (· < chain.length) ++ [target] := by
    simp [inside]
  rw [depth_standing, standing, kept, max?_concat]
  rfl

theorem standing_concat_of_le (beyond : chain.length ≤ target) (earlier : List Nat) :
    standing chain (earlier ++ [target]) = standing chain earlier := by
  have dropped : (earlier ++ [target]).filter (· < chain.length) =
      earlier.filter (· < chain.length) := by
    simp [Nat.not_lt.2 beyond]
  rw [standing, standing, dropped]

theorem depth_standing_le (fit : ∀ target ∈ targets, target ≤ Word.greatest) :
    (standing chain targets).depth ≤ Word.greatest := by
  rw [depth_standing]
  cases deepest : (targets.filter (· < chain.length)).max? with
  | none => exact Nat.zero_le _
  | some depth => exact fit depth (List.mem_filter.1 (List.max?_eq_some_iff.1 deepest).1).1

/-- One ascent: the answer, and where the walk stands afterwards. -/
theorem ascend_standing (chain : Chain) (earlier : List Nat) (target : Nat) :
    ((standing chain earlier).ascend chain target).map (·.1) =
        (if (standing chain earlier).depth ≤ target then chain.node? target else none) ∧
      (((standing chain earlier).ascend chain target).map (·.2)).getD (standing chain earlier) =
        standing chain (earlier ++ [target]) := by
  have steady := steady_standing chain earlier
  by_cases forward : (standing chain earlier).depth ≤ target
  · rw [steady.ascend forward, if_pos forward]
    cases there : chain.node? target with
    | none =>
        have beyond := Chain.node?_eq_none_iff.1 there
        exact ⟨rfl, (standing_concat_of_le beyond earlier).symm⟩
    | some node =>
        have inside : target < chain.length := Chain.isSome_node?_iff.1 (by rw [there]; rfl)
        rw [standing_concat_of_lt inside, Nat.max_eq_right forward]
        exact ⟨rfl, rfl⟩
  · have back := Nat.not_le.1 forward
    have refused : (standing chain earlier).ascend chain target = none := if_pos back
    rw [refused, if_neg forward]
    refine ⟨rfl, ?_⟩
    rcases Nat.lt_or_ge target chain.length with inside | beyond
    -- a walk that stands below a depth has begun
    · rw [standing_concat_of_lt inside, Nat.max_eq_left (Nat.le_of_lt back)]
      rcases steady with begun | begun
      · rw [begun] at back
        exact absurd back (Nat.not_lt_zero _)
      · exact begun
    · exact (standing_concat_of_le beyond earlier).symm

theorem trailInWords_cons_of_lt (below : target < Word.greatest) (earlier rest : List Nat) :
    trailInWords chain (standing chain earlier) (target :: rest) =
      (trailInWords chain (standing chain (earlier ++ [target])) rest).map
        (((if (standing chain earlier).depth ≤ target then chain.node? target else none),
          standing chain (earlier ++ [target])) :: ·) := by
  have ⟨answer, stands⟩ := ascend_standing chain earlier target
  rw [trailInWords, (steady_standing chain earlier).ascendInWords chain below, ← answer, ← stands]
  cases (standing chain earlier).ascend chain target <;> rfl

theorem trailInWords_standing (below : ∀ target ∈ targets, target < Word.greatest)
    (earlier : List Nat) :
    trailInWords chain (standing chain earlier) targets = .ok (answers chain earlier targets) := by
  induction targets generalizing earlier with
  | nil => rfl
  | cons target rest ih =>
      have ⟨here, later⟩ := List.forall_mem_cons.1 below
      rw [trailInWords_cons_of_lt here, ih later]
      rfl

theorem trailInWords_of_greatest (earlier : List Nat)
    (fit : ∀ target ∈ earlier ++ targets, target ≤ Word.greatest) (given : Word.greatest ∈ targets) :
    trailInWords chain (standing chain earlier) targets = .error (.sum Word.greatest 1) := by
  induction targets generalizing earlier with
  | nil => cases given
  | cons target rest ih =>
      have ⟨fits_earlier, fits⟩ := List.forall_mem_append.1 fit
      rcases Nat.lt_or_eq_of_le (fits target List.mem_cons_self) with below | rfl
      · have later : Word.greatest ∈ rest :=
          (List.mem_cons.1 given).resolve_left (Nat.ne_of_gt below)
        have fit' : ∀ t ∈ (earlier ++ [target]) ++ rest, t ≤ Word.greatest := by
          rwa [List.append_assoc, List.singleton_append]
        rw [trailInWords_cons_of_lt below, ih _ fit' later]
        rfl
      · rw [trailInWords, ascendInWords_greatest (depth_standing_le fits_earlier)]

end Walk

/-! ## Plans -/

namespace Plan

variable {memory : WorkingMemory} {steps : List (Declaration × Nat)} {bindings : List Binding}
  {declarations : List Declaration} {rootDepth : Nat} {p : Plan} {d : Declaration}

/-- Some declaration is at the greatest depth, and all that are above it are bound. -/
def ReachesGreatest (chain : Chain) (memory : WorkingMemory) (declarations : List Declaration) :
    Prop :=
  (∃ d ∈ declarations, d.depth = Word.greatest) ∧
    ∀ d ∈ declarations, d.depth < Word.greatest → ∃ b, d.bindAlone chain memory = .ok b

theorem reachesGreatest_cons_of_lt (below : d.depth < Word.greatest)
    (rest : List Declaration) :
    ReachesGreatest chain memory (d :: rest) ↔
      (∃ b, d.bindAlone chain memory = .ok b) ∧ ReachesGreatest chain memory rest := by
  unfold ReachesGreatest
  rw [List.exists_mem_cons_iff, List.forall_mem_cons, or_iff_right (Nat.ne_of_lt below)]
  constructor
  · rintro ⟨greatest, here, later⟩
    exact ⟨here below, greatest, later⟩
  · rintro ⟨here, greatest, later⟩
    exact ⟨greatest, fun _ => here, later⟩

/-- When the first declaration is at the greatest depth, all are. -/
theorem reachesGreatest_cons_greatest {step : Declaration × Nat} {rest : List (Declaration × Nat)}
    (ascending : Ascending (step :: rest)) (greatest : step.1.depth = Word.greatest) :
    ReachesGreatest chain memory ((step :: rest).map (·.1)) := by
  refine ⟨⟨step.1, List.mem_cons_self, greatest⟩, ?_⟩
  intro d listed below
  have above : Word.greatest ≤ d.depth := by
    rcases List.mem_map.1 listed with ⟨other, there, rfl⟩
    rcases List.mem_cons.1 there with rfl | later
    · exact Nat.le_of_eq greatest.symm
    · exact greatest ▸ (List.pairwise_cons.1 ascending).1 other later
  exact absurd below (Nat.not_lt.2 above)

/-- One step of a walk in words is a lookup. -/
theorem resolveStepsInWords_cons_of_lt {place : Nat} {rest : List (Declaration × Nat)}
    (below : d.depth < Word.greatest) (steady : w.Steady) (forward : w.depth ≤ d.depth) :
    resolveStepsInWords chain memory ((d, place) :: rest) w bindings =
      match d.bindAlone chain memory with
      | .error e => .ok (.error e)
      | .ok b => resolveStepsInWords chain memory rest (.reached d.depth) (bindings.set place b) := by
  rw [resolveStepsInWords, steady.ascendInWords chain below, steady.ascend forward,
    Declaration.bindAlone]
  cases chain.node? d.depth <;> rfl

/-- A walk in words along ascending steps overflows at the first one at the greatest depth, if it
comes so far; otherwise it binds what single lookups bind. -/
theorem resolveStepsInWords_eq (ascending : Ascending steps) (steady : w.Steady)
    (ahead : ∀ step ∈ steps, w.depth ≤ step.1.depth)
    (fit : ∀ step ∈ steps, step.1.depth ≤ Word.greatest) (chain : Chain) (memory : WorkingMemory)
    (bindings : List Binding) :
    (ReachesGreatest chain memory (steps.map (·.1)) →
      resolveStepsInWords chain memory steps w bindings = .error (.sum Word.greatest 1)) ∧
    (¬ ReachesGreatest chain memory (steps.map (·.1)) →
      resolveStepsInWords chain memory steps w bindings =
        .ok ((bindEach chain memory steps bindings).map fun final => (final, walkAfter w steps))) := by
  induction steps generalizing w bindings with
  | nil =>
      refine ⟨?_, fun _ => rfl⟩
      rintro ⟨⟨_, none, _⟩, _⟩
      cases none
  | cons step rest ih =>
      rcases step with ⟨d, place⟩
      obtain ⟨first, later⟩ := List.pairwise_cons.1 ascending
      have forward : w.depth ≤ d.depth := ahead (d, place) List.mem_cons_self
      rcases Nat.lt_or_eq_of_le (fit (d, place) List.mem_cons_self) with below | greatest
      · rw [resolveStepsInWords_cons_of_lt below steady forward, List.map_cons,
          reachesGreatest_cons_of_lt below, bindEach]
        cases bound : d.bindAlone chain memory with
        | error e =>
            refine ⟨?_, fun _ => rfl⟩
            rintro ⟨⟨b, contra⟩, _⟩
            cases contra
        | ok b =>
            obtain ⟨overflows, agrees⟩ := ih later (Walk.steady_reached d.depth) first
              (fun step there => fit step (List.mem_cons_of_mem _ there)) (bindings.set place b)
            exact ⟨fun reaches => overflows reaches.2,
              fun stays => agrees fun reaches => stays ⟨⟨b, rfl⟩, reaches⟩⟩
      · have reaches : ReachesGreatest chain memory (((d, place) :: rest).map (·.1)) :=
          reachesGreatest_cons_greatest ascending greatest
        refine ⟨fun _ => ?_, fun stays => absurd reaches stays⟩
        dsimp only at greatest
        rw [resolveStepsInWords, greatest, Walk.ascendInWords_greatest (greatest ▸ forward)]

theorem reachesGreatest_congr {others : List Declaration}
    (same : ∀ d, d ∈ declarations ↔ d ∈ others) :
    ReachesGreatest chain memory declarations ↔ ReachesGreatest chain memory others := by
  unfold ReachesGreatest
  simp only [same]

/-- A plan in words overflows when it comes to a declaration at the greatest depth, and is resolved
otherwise as in numbers. -/
theorem resolveInWords_eq (made : ofDeclarations declarations rootDepth = .ok p)
    (fit : ∀ d ∈ declarations, d.depth ≤ Word.greatest) (chain : Chain) (memory : WorkingMemory) :
    (ReachesGreatest chain memory declarations →
      p.resolveInWords chain memory = .error (.sum Word.greatest 1)) ∧
    (¬ ReachesGreatest chain memory declarations →
      p.resolveInWords chain memory = .ok (p.resolve chain memory)) := by
  have same : ∀ d, d ∈ p.steps.map (·.1) ↔ d ∈ declarations := by
    intro d
    rw [List.mem_map]
    constructor
    · rintro ⟨step, there, rfl⟩
      exact ((mem_steps_of_made made).1 there).1
    · intro named
      exact ⟨(d, d.index), (mem_steps_of_made made).2 ⟨named, rfl⟩, rfl⟩
  have fit_steps : ∀ step ∈ p.steps, step.1.depth ≤ Word.greatest :=
    fun step there => fit step.1 ((same _).1 (List.mem_map_of_mem there))
  have ⟨overflows, agrees⟩ := resolveStepsInWords_eq p.ascending_steps
    (Or.inl rfl : Walk.start.Steady) (fun _ _ => Nat.zero_le _) fit_steps chain memory
    (List.replicate p.size .unbound)
  rw [reachesGreatest_congr same] at overflows agrees
  constructor
  · intro reaches
    rw [resolveInWords, overflows reaches]
    rfl
  · intro stays
    rw [resolveInWords, agrees stays, resolve_eq_bindEach]
    cases bindEach chain memory p.steps (List.replicate p.size .unbound) <;> rfl

/-- A declaration that the chain does not reach, after others that are bound, is out of range.  In
words this is the answer unless the declaration is at the greatest depth. -/
theorem resolveInWords_of_missed (made : ofDeclarations declarations rootDepth = .ok p)
    (fit : ∀ d ∈ declarations, d.depth ≤ Word.greatest) (named : d ∈ declarations)
    (missed : chain.length ≤ d.depth)
    (succeed : ∀ d' ∈ declarations, d'.Precedes d → ∃ b, d'.bindAlone chain memory = .ok b) :
    p.resolve chain memory =
        .error (Cause.depthOutOfRange d.name d.depth (chain.rootDepth?.getD 0)) ∧
      (p.resolveInWords chain memory = .ok (p.resolve chain memory) ↔ d.depth ≠ Word.greatest) := by
  have alone : d.bindAlone chain memory =
      .error (Cause.depthOutOfRange d.name d.depth (chain.rootDepth?.getD 0)) :=
    Declaration.bindAlone_of_missed (Chain.node?_eq_none_iff.2 missed)
  have ⟨overflows, agrees⟩ := resolveInWords_eq made fit chain memory
  refine ⟨(resolve_eq_error_iff made).2 ⟨d, named, alone, succeed⟩, ?_, ?_⟩
  · intro agree greatest
    have reaches : ReachesGreatest chain memory declarations :=
      ⟨⟨d, named, greatest⟩, fun d' named' above => succeed d' named' (Or.inl (greatest ▸ above))⟩
    cases (overflows reaches).symm.trans agree
  · intro below
    refine agrees fun reaches => ?_
    obtain ⟨b, bound⟩ := reaches.2 d named (Nat.lt_of_le_of_ne (fit d named) below)
    cases alone.symm.trans bound

/-- Let a plan be made for declarations at any depths that are words, and resolved along any chain.

* If there is a declaration at the greatest depth, and all that are above it are bound, the count of
  nodes down to it overflows.  Otherwise nothing does, and the plan is resolved as with numbers.
* A declaration that the chain does not reach, after others that are bound, is out of range; in words
  this is the answer exactly if the declaration is not at the greatest depth.
* A lookup in words answers as one with numbers, and so with a node exactly when the chain has the
  depth; at the greatest depth it overflows.
* A walk in words answers any ascents with the node at the depth, unless an earlier one went deeper;
  among them one to the greatest depth overflows. -/
theorem overflows_only_at_greatest_depth (declarations : List Declaration) (rootDepth : Nat) (p : Plan)
    (made : ofDeclarations declarations rootDepth = .ok p)
    (fit : ∀ d ∈ declarations, d.depth ≤ Word.greatest) (chain : Chain) (memory : WorkingMemory) :
    (ReachesGreatest chain memory declarations →
      p.resolveInWords chain memory = .error (.sum Word.greatest 1)) ∧
    (¬ ReachesGreatest chain memory declarations →
      p.resolveInWords chain memory = .ok (p.resolve chain memory)) ∧
    (∀ d ∈ declarations, chain.length ≤ d.depth →
      (∀ d' ∈ declarations, d'.Precedes d → ∃ b, d'.bindAlone chain memory = .ok b) →
        p.resolve chain memory =
            .error (Cause.depthOutOfRange d.name d.depth (chain.rootDepth?.getD 0)) ∧
          (p.resolveInWords chain memory = .ok (p.resolve chain memory) ↔
            d.depth ≠ Word.greatest)) ∧
    (∀ depth < Word.greatest, chain.nodeInWords depth = .ok (chain.node? depth) ∧
      ((chain.node? depth).isSome ↔ depth < chain.length)) ∧
    chain.nodeInWords Word.greatest = .error (.sum Word.greatest 1) ∧
    ∀ targets, (∀ target ∈ targets, target ≤ Word.greatest) →
      Walk.trailInWords chain .start targets =
        if Word.greatest ∈ targets then .error (.sum Word.greatest 1)
        else .ok (Walk.answers chain [] targets) := by
  have ⟨overflows, agrees⟩ := resolveInWords_eq made fit chain memory
  refine ⟨overflows, agrees, ?_, ?_, Chain.nodeInWords_greatest, ?_⟩
  · intro d named missed succeed
    exact resolveInWords_of_missed made fit named missed succeed
  · intro depth below
    exact ⟨Chain.nodeInWords_of_lt below, Chain.isSome_node?_iff⟩
  · intro targets words
    split
    · rename_i given
      exact Walk.trailInWords_of_greatest [] words given
    · rename_i absent
      refine Walk.trailInWords_standing (fun target asked => ?_) []
      exact Nat.lt_of_le_of_ne (words target asked) fun greatest => absent (greatest ▸ asked)

/-- A declaration at the greatest depth, and a chain that is far from reaching it. -/
def deepest : Declaration :=
  ⟨"$x", .any, Word.greatest, 0, none⟩

def oneNode : Chain :=
  ⟨[⟨⟨0, 0⟩, .int 1⟩]⟩

theorem greatest_depth_planned_and_missed :
    ofDeclarations [deepest] Word.greatest = .ok ⟨[deepest], Word.greatest⟩ ∧
      (∀ d ∈ [deepest], d.depth ≤ Word.greatest) ∧
      resolve ⟨[deepest], Word.greatest⟩ oneNode .empty =
        .error (Cause.depthOutOfRange "$x" 18446744073709551615 0) ∧
      resolveInWords ⟨[deepest], Word.greatest⟩ oneNode .empty =
        .error (.sum 18446744073709551615 1) := by
  have made : ofDeclarations [deepest] Word.greatest = .ok ⟨[deepest], Word.greatest⟩ := rfl
  have fit : ∀ d ∈ [deepest], d.depth ≤ Word.greatest :=
    List.forall_mem_singleton.2 (Nat.le_refl _)
  have ⟨overflows, _, missed, _⟩ :=
    overflows_only_at_greatest_depth [deepest] _ _ made fit oneNode .empty
  have reaches : ReachesGreatest oneNode .empty [deepest] := by
    refine ⟨⟨deepest, List.mem_cons_self, rfl⟩, List.forall_mem_singleton.2 fun below => ?_⟩
    exact absurd below (Nat.lt_irrefl _)
  have none_before : ∀ d ∈ [deepest], d.Precedes deepest →
      ∃ b, d.bindAlone oneNode .empty = .ok b := by
    refine List.forall_mem_singleton.2 ?_
    rintro (above | ⟨_, before⟩)
    · exact absurd above (Nat.lt_irrefl _)
    · exact absurd before (Nat.lt_irrefl _)
  have ⟨out_of_range, _⟩ := missed deepest List.mem_cons_self (by decide) none_before
  exact ⟨made, fit, out_of_range, overflows reaches⟩

end Plan
end RuleEngine
