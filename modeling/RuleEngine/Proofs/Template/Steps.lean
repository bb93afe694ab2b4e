import RuleEngine.Proofs.Template.Substitution

/-!
# The steps of a specialization

What each step answers, and when: a specialization begins with a template whose class name is open,
replaces the body of a method that the template has, and ends with the template that its fills are put
into.  Both outcomes of a step are stated, so that a chain of steps is taken apart without opening
any of them.
-/

namespace RuleEngine

/-! ## Beginning, and replacing a body -/

namespace Specialization

variable {t : Template} {s s' : Specialization} {e : Error} {name : String} {body : List Stmt}

theorem start_of_open (opened : t.name = .slot .className) : start t = .ok ⟨t, .empty⟩ := by
  simp only [start, opened]

theorem start_of_closed (closed : t.name ≠ .slot .className) :
    start t = .error (Cause.malformedTemplate t.origin
      ("class name is " ++ t.name.text ++ ", not " ++ Slot.className.marker) : Error) := by
  unfold start
  split
  · rename_i opened
    exact absurd opened closed
  · rfl

theorem start_eq_ok_iff : start t = .ok s ↔ t.name = .slot .className ∧ s = ⟨t, .empty⟩ :=
  Except.eq_ok_iff_of_decided start_of_open start_of_closed

theorem start_eq_error_iff :
    start t = .error e ↔
      t.name ≠ .slot .className ∧
        e = (Cause.malformedTemplate t.origin
          ("class name is " ++ t.name.text ++ ", not " ++ Slot.className.marker) : Error) :=
  Except.eq_error_iff_of_decided start_of_open start_of_closed

theorem withBody_of_named (named : ∃ m ∈ s.base.methods, m.name = name) :
    s.withBody name body =
      .ok ⟨{ s.base with methods := replaceFirst name body s.base.methods }, s.fills⟩ := by
  have found : (s.base.method? name).isSome := by
    simpa [Template.method?, List.find?_isSome] using named
  obtain ⟨m, found⟩ := Option.isSome_iff_exists.1 found
  simp only [withBody, found]

theorem withBody_of_unnamed (unnamed : ¬ ∃ m ∈ s.base.methods, m.name = name) :
    s.withBody name body =
      .error (Cause.malformedTemplate s.base.origin ("no method " ++ name) : Error) := by
  have absent : s.base.method? name = none := by
    simpa [Template.method?, List.find?_eq_none] using unnamed
  simp only [withBody, absent]

theorem withBody_eq_ok_iff :
    s.withBody name body = .ok s' ↔
      (∃ m ∈ s.base.methods, m.name = name) ∧
        s' = ⟨{ s.base with methods := replaceFirst name body s.base.methods }, s.fills⟩ :=
  Except.eq_ok_iff_of_decided withBody_of_named withBody_of_unnamed

theorem withBody_eq_error_iff :
    s.withBody name body = .error e ↔
      (¬ ∃ m ∈ s.base.methods, m.name = name) ∧
        e = (Cause.malformedTemplate s.base.origin ("no method " ++ name) : Error) :=
  Except.eq_error_iff_of_decided withBody_of_named withBody_of_unnamed

/-- Replacing a body changes the first method of the name. -/
theorem replaceFirst_split {name : String} (body : List Stmt) {methods : List Method}
    (named : ∃ m ∈ methods, m.name = name) :
    ∃ before m after, methods = before ++ m :: after ∧ (∀ m' ∈ before, m'.name ≠ name) ∧
      m.name = name ∧
      replaceFirst name body methods = before ++ { m with body := body } :: after := by
  induction methods with
  | nil => simp at named
  | cons m rest ih =>
      by_cases here : m.name = name
      · exact ⟨[], m, rest, rfl, by simp, here, by simp [replaceFirst, here]⟩
      · obtain ⟨m', there, same⟩ := named
        have later : m' ∈ rest := by
          rcases List.mem_cons.1 there with rfl | later
          · exact absurd same here
          · exact later
        obtain ⟨before, found, after, rfl, apart, named, replaced⟩ := ih ⟨m', later, same⟩
        refine ⟨m :: before, found, after, rfl, List.forall_mem_cons.2 ⟨here, apart⟩, named, ?_⟩
        rw [replaceFirst, if_neg here, replaced, List.cons_append]

end Specialization

namespace Template

/-- The first method of a name, in a template whose methods are substituted. -/
theorem method?_subst (t : Template) (names : Slot → String) {name : String}
    {before after : List Method} {m : Method} (parts : t.methods = before ++ m :: after)
    (apart : ∀ m' ∈ before, m'.name ≠ name) (here : m.name = name) :
    (t.subst names).method? name = some (m.subst names) := by
  have passed : (before.map (Method.subst names)).find? (·.name = name) = none := by
    simp only [List.find?_eq_none, List.forall_mem_map, decide_eq_true_eq]
    exact apart
  have same : (m.subst names).name = name := here
  simp only [method?, subst, parts, List.map_append, List.map_cons, List.find?_append, passed,
    Option.none_or]
  exact List.find?_cons_of_pos (decide_eq_true same)

end Template

/-! ## Finishing -/

namespace Specialization

variable {s : Specialization} {c : Template} {e : Error}

theorem finish_eq_ok_iff :
    s.finish = .ok c ↔ (∀ p ∈ s.base.slots, (s.fills p).isSome) ∧ c = s.base.subst s.fills.text := by
  rw [finish, Except.mapError_eq_ok_iff, Template.fill_eq, Fills.unlessOpen_eq_ok_iff]

theorem finish_eq_error_iff :
    s.finish = .error e ↔
      ∃ p, s.fills.FirstOpen s.base.slots p ∧
        e = (Cause.missingPlaceholder s.base.origin p.marker : Error) := by
  simp only [finish, Except.mapError_eq_error_iff, Template.fill_eq, Fills.unlessOpen_eq_error_iff,
    eq_comm (b := e)]

/-- Whatever template was begun with, and whatever was filled and replaced since then,

* finishing succeeds exactly when every placeholder of the template as it stands has a fill;
* what comes out has no placeholders, and is the template with the fill of each slot in its place;
* when finishing fails, it names the template and, of the slots in the order in which they occur, the
  first one without a fill. -/
theorem finish_fills_every_slot (s : Specialization) :
    ((∃ c, s.finish = .ok c) ↔ ∀ p ∈ s.base.placeholders, (s.fills p).isSome) ∧
    (∀ c, s.finish = .ok c →
      c.placeholders = [] ∧ c = s.base.subst s.fills.text ∧
        ∀ p ∈ s.base.placeholders, s.fills p = some (s.fills.text p)) ∧
    ∀ e, s.finish = .error e →
      ∃ p, s.fills.FirstOpen s.base.slots p ∧
        e = (Cause.missingPlaceholder s.base.origin p.marker : Error) := by
  simp only [Template.mem_placeholders_iff]
  refine ⟨?_, ?_, fun e failed => finish_eq_error_iff.1 failed⟩
  · simp only [finish_eq_ok_iff, exists_and_left, exists_eq, and_true]
  · intro c finished
    obtain ⟨filled, rfl⟩ := finish_eq_ok_iff.1 finished
    exact ⟨Template.placeholders_eq_nil_iff.2 (s.base.slots_subst _), rfl,
      fun p occurs => Fills.eq_some_text (filled p occurs)⟩

end Specialization
end RuleEngine
