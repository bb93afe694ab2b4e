import Mathlib.Data.List.Basic
import RuleEngine.Proofs.Template.Steps

/-!
# Changes between beginning and finishing

Between its beginning and its end a specialization is changed by any number of fills, packages and
bodies.  What they come to is read off the list of changes without carrying them out: the last name
given to each slot, the last package, and the last body given to each name of a method, which goes to
the first method of that name.  So changes of different kinds, or to different slots or methods, can
be made in any order.
-/

namespace RuleEngine

/-! ## Changes -/

/-- A change to a specialization under way. -/
inductive Change where
  | fill (slot : Slot) (name : String)
  | inPackage (package : String)
  | withBody (method : String) (body : List Stmt)

namespace Change

def name? (slot : Slot) : Change → Option String
  | .fill other name => if slot = other then some name else none
  | _ => none

def package? : Change → Option String
  | .inPackage package => some package
  | _ => none

def body? (method : String) : Change → Option (List Stmt)
  | .withBody other body => if method = other then some body else none
  | _ => none

/-- The last of what a list of changes gives, if it gives anything. -/
def last {α : Type} (given : Change → Option α) (changes : List Change) : Option α :=
  (changes.filterMap given).getLast?

/-- The names that slots are given last. -/
def fills (changes : List Change) : Fills :=
  fun slot => last (name? slot) changes

/-- Two lists of changes give the same last. -/
def SameLast (changes others : List Change) : Prop :=
  (∀ slot, last (name? slot) changes = last (name? slot) others) ∧
    last package? changes = last package? others ∧
    ∀ method, last (body? method) changes = last (body? method) others

theorem last_nil {α : Type} (given : Change → Option α) : last given [] = none := rfl

theorem last_concat {α : Type} (given : Change → Option α) (changes : List Change)
    (change : Change) : last given (changes ++ [change]) = (given change).or (last given changes) := by
  unfold last
  rw [List.filterMap_append, List.getLast?_append]
  cases h : given change <;> simp [h]

theorem last_concat_of_none {α : Type} {given : Change → Option α} {change : Change}
    (nothing : given change = none) (changes : List Change) :
    last given (changes ++ [change]) = last given changes := by
  rw [last_concat, nothing, Option.none_or]

end Change

/-! ## Bodies by name -/

/-- Bodies for the methods of some names. -/
abbrev Bodies := String → Option (List Stmt)

namespace Bodies

variable {bodies : Bodies} {name other : String} {body : List Stmt}

def set (bodies : Bodies) (name : String) (body : List Stmt) : Bodies :=
  fun other => if other = name then some body else bodies other

def erase (bodies : Bodies) (name : String) : Bodies :=
  fun other => if other = name then none else bodies other

theorem set_self : bodies.set name body name = some body :=
  if_pos rfl

theorem set_of_ne (apart : other ≠ name) : bodies.set name body other = bodies other :=
  if_neg apart

theorem erase_set_self : (bodies.set name body).erase name = bodies.erase name := by
  funext other
  by_cases same : other = name <;> simp [erase, set, same]

theorem erase_set_of_ne (apart : other ≠ name) :
    (bodies.set name body).erase other = (bodies.erase other).set name body := by
  funext third
  by_cases same : third = other
  · simp [erase, set, same, apart]
  · simp [erase, set, same]

end Bodies

/-- Methods with other bodies for the first one of each name. -/
def withBodies (bodies : Bodies) : List Method → List Method
  | [] => []
  | m :: rest =>
    { m with body := (bodies m.name).getD m.body } :: withBodies (bodies.erase m.name) rest

section WithBodies

variable {bodies : Bodies} {name : String} {body : List Stmt} {methods : List Method} {m : Method}
  {i : Nat}

theorem withBodies_none (methods : List Method) : withBodies (fun _ => none) methods = methods := by
  induction methods with
  | nil => rfl
  | cons m rest ih =>
      have nothing : Bodies.erase (fun _ => none) m.name = fun _ => none := by
        funext other
        exact ite_self none
      rw [withBodies, nothing, ih]
      rfl

theorem exists_name_withBodies :
    (∃ m ∈ withBodies bodies methods, m.name = name) ↔ ∃ m ∈ methods, m.name = name := by
  induction methods generalizing bodies with
  | nil => rfl
  | cons m rest ih => simp only [withBodies, List.exists_mem_cons_iff, ih]

/-- A method keeps its body unless it is the first of its name. -/
theorem getElem?_withBodies (bodies : Bodies) (there : methods[i]? = some m) :
    (withBodies bodies methods)[i]? =
      some (if ∃ earlier ∈ methods.take i, earlier.name = m.name then m
        else { m with body := (bodies m.name).getD m.body }) := by
  induction methods generalizing bodies i with
  | nil => cases there
  | cons first rest ih =>
      cases i with
      | zero =>
          obtain rfl := Option.some.inj there
          simp [withBodies]
      | succ i =>
          rw [withBodies, List.getElem?_cons_succ, ih _ there, List.take_succ_cons]
          simp only [List.exists_mem_cons_iff]
          by_cases same : first.name = m.name
          -- the first method has taken the body of the name
          · have taken : bodies.erase m.name m.name = none := if_pos rfl
            simp only [same, true_or, if_true, taken, Option.getD_none, ite_self]
          · have left : bodies.erase first.name m.name = bodies m.name := if_neg (Ne.symm same)
            simp only [same, left, false_or]

/-- One more body goes to the first method of its name. -/
theorem replaceFirst_withBodies :
    Specialization.replaceFirst name body (withBodies bodies methods) =
      withBodies (bodies.set name body) methods := by
  induction methods generalizing bodies with
  | nil => rfl
  | cons m rest ih =>
      by_cases here : m.name = name
      · subst here
        rw [withBodies, withBodies, Bodies.set_self, Bodies.erase_set_self]
        exact if_pos rfl
      · rw [withBodies, withBodies, Bodies.set_of_ne here, Bodies.erase_set_of_ne here, ← ih]
        exact if_neg here

end WithBodies

/-! ## Carrying changes out -/

/-- The template with the package and the bodies that changes give last. -/
def Template.revise (t : Template) (changes : List Change) : Template :=
  { t with
    package := (Change.last Change.package? changes).or t.package
    methods := withBodies (fun method => Change.last (Change.body? method) changes) t.methods }

namespace Specialization

def change (s : Specialization) : Change → Except Error Specialization
  | .fill slot name => .ok (s.fill slot name)
  | .inPackage package => .ok (s.inPackage package)
  | .withBody method body => s.withBody method body

/-- All changes one after the other, up to the first that fails. -/
def changeAll (s : Specialization) (changes : List Change) : Except Error Specialization :=
  changes.foldlM change s

variable {t c : Template} {s s' : Specialization} {changes others : List Change} {change : Change}

/-- A specialization of the template that has come as far as the changes lead. -/
def after (t : Template) (changes : List Change) : Specialization :=
  ⟨t.revise changes, Change.fills changes⟩

theorem after_nil (t : Template) : after t [] = ⟨t, .empty⟩ := by
  have same : t.revise [] = t := by
    simp only [Template.revise, Change.last_nil, Option.none_or, withBodies_none]
  rw [after, same]
  rfl

/-- A change is refused only if it is to a method that the template does not have. -/
def Applicable (t : Template) (change : Change) : Prop :=
  ∀ method body, change = .withBody method body → ∃ m ∈ t.methods, m.name = method

theorem after_concat_fill (t : Template) (changes : List Change) (slot : Slot) (name : String) :
    (after t changes).fill slot name = after t (changes ++ [.fill slot name]) := by
  have names : (Change.fills changes).set slot name = Change.fills (changes ++ [.fill slot name]) := by
    funext other
    rw [Change.fills, Change.last_concat]
    by_cases same : other = slot <;> simp [Fills.set, Change.name?, Change.fills, same]
  have base : t.revise changes = t.revise (changes ++ [.fill slot name]) := by
    simp only [Template.revise, Change.last_concat, Change.package?, Change.body?, Option.none_or]
  rw [fill, after, after, base, names]

theorem after_concat_inPackage (t : Template) (changes : List Change) (package : String) :
    (after t changes).inPackage package = after t (changes ++ [.inPackage package]) := by
  have names : Change.fills (changes ++ [.inPackage package]) = Change.fills changes :=
    funext fun _ => Change.last_concat_of_none rfl changes
  rw [after, after, names]
  simp only [inPackage, Template.revise, Change.last_concat, Change.package?, Change.body?,
    Option.none_or, Option.some_or]

theorem after_concat_withBody (t : Template) (changes : List Change) (method : String)
    (body : List Stmt) :
    (⟨{ t.revise changes with
        methods := replaceFirst method body (t.revise changes).methods },
      Change.fills changes⟩ : Specialization) = after t (changes ++ [.withBody method body]) := by
  have names : Change.fills (changes ++ [.withBody method body]) = Change.fills changes :=
    funext fun _ => Change.last_concat_of_none rfl changes
  have package : Change.last Change.package? (changes ++ [.withBody method body]) =
      Change.last Change.package? changes := Change.last_concat_of_none rfl changes
  have bodies : (fun other => Change.last (Change.body? other) (changes ++ [.withBody method body])) =
      Bodies.set (fun other => Change.last (Change.body? other) changes) method body := by
    funext other
    rw [Change.last_concat]
    by_cases same : other = method <;> simp [Bodies.set, Change.body?, same]
  rw [after, names, Template.revise, Template.revise, bodies, package, ← replaceFirst_withBodies]

theorem change_after (t : Template) (changes : List Change) (change : Change)
    (applicable : Applicable t change) :
    (after t changes).change change = .ok (after t (changes ++ [change])) := by
  cases change with
  | fill slot name => exact congrArg Except.ok (after_concat_fill t changes slot name)
  | inPackage package => exact congrArg Except.ok (after_concat_inPackage t changes package)
  | withBody method body =>
      have named : ∃ m ∈ (after t changes).base.methods, m.name = method :=
        exists_name_withBodies.2 (applicable method body rfl)
      rw [Specialization.change, withBody_of_named named]
      exact congrArg Except.ok (after_concat_withBody t changes method body)

theorem change_after_of_not_applicable (changes : List Change)
    (refused : ¬ Applicable t change) : ∃ e, (after t changes).change change = .error e := by
  cases change with
  | fill | inPackage => exact absurd (fun _ _ => nofun) refused
  | withBody method body =>
      refine ⟨_, withBody_of_unnamed fun named => refused ?_⟩
      rintro _ _ ⟨⟩
      exact exists_name_withBodies.1 named

theorem changeAll_cons :
    s.changeAll (change :: changes) = (s.change change).bind fun s' => s'.changeAll changes :=
  List.foldlM_cons

/-- Changes that are all applicable lead where their last ones say. -/
theorem changeAll_after (earlier : List Change)
    (applicable : ∀ change ∈ changes, Applicable t change) :
    (after t earlier).changeAll changes = .ok (after t (earlier ++ changes)) := by
  induction changes generalizing earlier with
  | nil =>
      rw [List.append_nil]
      rfl
  | cons change rest ih =>
      have ⟨here, later⟩ := List.forall_mem_cons.1 applicable
      rw [changeAll_cons, change_after t earlier change here, Except.bind, ih _ later,
        List.append_assoc, List.singleton_append]

theorem changeAll_after_of_not_applicable (earlier : List Change)
    (refused : ¬ ∀ change ∈ changes, Applicable t change) :
    ∃ e, (after t earlier).changeAll changes = .error e := by
  induction changes generalizing earlier with
  | nil => exact absurd (fun _ => nofun) refused
  | cons change rest ih =>
      rw [changeAll_cons]
      by_cases here : Applicable t change
      · rw [change_after t earlier change here]
        exact ih _ fun later => refused (List.forall_mem_cons.2 ⟨here, later⟩)
      · obtain ⟨e, failed⟩ := change_after_of_not_applicable earlier here
        exact ⟨e, by rw [failed]; rfl⟩

theorem exists_changeAll_iff :
    (∃ s, changeAll ⟨t, .empty⟩ changes = .ok s) ↔ ∀ change ∈ changes, Applicable t change := by
  rw [← after_nil]
  constructor
  · rintro ⟨s, changed⟩
    by_contra refused
    obtain ⟨e, failed⟩ := changeAll_after_of_not_applicable [] refused
    cases changed.symm.trans failed
  · intro applicable
    exact ⟨_, changeAll_after [] applicable⟩

theorem eq_after_of_changeAll (changed : changeAll ⟨t, .empty⟩ changes = .ok s) :
    s = after t changes := by
  have applicable := exists_changeAll_iff.1 ⟨s, changed⟩
  rw [← after_nil, changeAll_after [] applicable] at changed
  exact (Except.ok.inj changed).symm

theorem after_congr (same : Change.SameLast changes others) : after t changes = after t others := by
  obtain ⟨names, package, bodies⟩ := same
  have fills : Change.fills changes = Change.fills others := funext names
  have given : (fun method => Change.last (Change.body? method) changes) =
      fun method => Change.last (Change.body? method) others := funext bodies
  rw [after, after, fills, Template.revise, Template.revise, package, given]

/-! ## What changes come to -/

theorem length_withBodies {bodies : Bodies} {methods : List Method} :
    (withBodies bodies methods).length = methods.length := by
  induction methods generalizing bodies with
  | nil => rfl
  | cons m rest ih => rw [withBodies, List.length_cons, ih, List.length_cons]

/-- A class that comes out of a specialization has a name in the place of its class name, so no other
one can begin with it. -/
theorem start_of_finished (opened : t.name = .slot .className)
    (finished : (after t changes).finish = .ok c) :
    c.name = .named ((Change.fills changes).text .className) ∧
      start c = .error (Cause.malformedTemplate c.origin
        ("class name is " ++ c.name.text ++ ", not " ++ Slot.className.marker) : Error) := by
  obtain ⟨-, rfl⟩ := finish_eq_ok_iff.1 finished
  have name : ((after t changes).base.subst (after t changes).fills.text).name =
      .named ((Change.fills changes).text .className) := by
    rw [after, Template.subst, Template.revise, opened]
    rfl
  refine ⟨name, start_of_closed fun again => ?_⟩
  cases name.symm.trans again

/-- Between the beginning and the end of a specialization of a template,

* changes succeed exactly when the template has every method that is given a body, so whether they do
  does not depend on their order;
* how the specialization ends depends only on the last name given to each slot, the last package and
  the last body given to each name of a method;
* what comes out has the name of the template as its origin, the last package, and, with the last names
  in the place of the slots, the traits, the fields and the constructor of the template and each method
  in its place, with the last body given to its name if it is the first method of the name and with its
  own one otherwise;
* it cannot be specialized again. -/
theorem last_changes_decide (t : Template) (begun : Specialization) (hbegun : start t = .ok begun) :
    (∀ changes, (∃ s, begun.changeAll changes = .ok s) ↔
      ∀ method body, .withBody method body ∈ changes → ∃ m ∈ t.methods, m.name = method) ∧
    (∀ changes others s s', begun.changeAll changes = .ok s → begun.changeAll others = .ok s' →
      Change.SameLast changes others → s.finish = s'.finish) ∧
    ∀ changes s c, begun.changeAll changes = .ok s → s.finish = .ok c →
      let names := (Change.fills changes).text
      c.origin = t.origin ∧
      c.package = (Change.last Change.package? changes).or t.package ∧
      c.implements = t.implements.map (TypeExpr.subst names) ∧
      c.fields = t.fields.map (TypedName.subst names) ∧
      c.maker? = t.maker?.map (Method.subst names) ∧
      c.methods.length = t.methods.length ∧
      (∀ i m, t.methods[i]? = some m →
        c.methods[i]? = some (Method.subst names
          (if ∃ earlier ∈ t.methods.take i, earlier.name = m.name then m
          else { m with body := (Change.last (Change.body? m.name) changes).getD m.body }))) ∧
      start c = .error (Cause.malformedTemplate c.origin
        ("class name is " ++ c.name.text ++ ", not " ++ Slot.className.marker) : Error) := by
  obtain ⟨opened, rfl⟩ := start_eq_ok_iff.1 hbegun
  refine ⟨fun changes => exists_changeAll_iff.trans ?_, ?_, ?_⟩
  · constructor
    · intro applicable method body given
      exact applicable _ given method body rfl
    · rintro named _ given method body rfl
      exact named method body given
  · intro changes others s s' changed changed' same
    rw [eq_after_of_changeAll changed, eq_after_of_changeAll changed', after_congr same]
  · intro changes s c changed finished names
    rw [eq_after_of_changeAll changed] at finished
    have ⟨_, closed⟩ := start_of_finished opened finished
    obtain ⟨-, rfl⟩ := finish_eq_ok_iff.1 finished
    refine ⟨rfl, rfl, rfl, rfl, rfl, ?_, ?_, closed⟩
    · exact (List.length_map _).trans length_withBodies
    · intro i m there
      have placed := getElem?_withBodies
        (fun method => Change.last (Change.body? method) changes) there
      exact (List.getElem?_map).trans (congrArg (Option.map (Method.subst names)) placed)

/-- A template with two methods of one name. -/
def runners : Template :=
  { Template.ofName "Runners" with
    methods := [⟨"run", true, [], none, []⟩, ⟨"run", true, [], some (.slot .className), []⟩] }

/-- Changes of which some are overtaken by later ones, and the same without these. -/
def hesitant : List Change :=
  [.withBody "run" [.expr .self], .fill .className "Draft", .inPackage "jobs",
    .withBody "run" [.result .self], .fill .className "Final"]

def straight : List Change :=
  [.fill .className "Final", .withBody "run" [.result .self], .inPackage "jobs"]

theorem hesitant_ends_as_straight :
    start runners = .ok ⟨runners, .empty⟩ ∧ Change.SameLast hesitant straight ∧
      ∃ s s' c, changeAll ⟨runners, .empty⟩ hesitant = .ok s ∧
        changeAll ⟨runners, .empty⟩ straight = .ok s' ∧ s.finish = .ok c ∧ s'.finish = .ok c ∧
          c.methods[0]? = some ⟨"run", true, [], none, [.result .self]⟩ ∧
          c.methods[1]? = some ⟨"run", true, [], some (.named "Final"), []⟩ ∧
          start c = .error (Cause.malformedTemplate "Runners"
            "class name is Final, not CLASS_NAME" : Error) := by
  have begun : start runners = .ok ⟨runners, .empty⟩ := rfl
  have same : Change.SameLast hesitant straight := by
    refine ⟨fun slot => by cases slot <;> rfl, rfl, fun method => ?_⟩
    by_cases run : method = "run"
    · subst run
      rfl
    · simp [Change.last, List.filterMap_cons, Change.body?, hesitant, straight, run]
  have ⟨applies, agree, comes⟩ := last_changes_decide runners _ begun
  have changed : ∀ changes : List Change, (∀ method body, .withBody method body ∈ changes →
      method = "run") → ∃ s, changeAll ⟨runners, .empty⟩ changes = .ok s := by
    intro changes only
    refine (applies changes).2 fun method body given => ?_
    exact ⟨_, List.mem_cons_self, (only method body given).symm⟩
  obtain ⟨s, hesitated⟩ := changed hesitant fun method body given => by
    simp only [hesitant, List.mem_cons, reduceCtorEq, Change.withBody.injEq, List.not_mem_nil,
      false_or, or_false] at given
    rcases given with ⟨run, _⟩ | ⟨run, _⟩ <;> exact run
  obtain ⟨s', straightened⟩ := changed straight fun method body given => by
    simp only [straight, List.mem_cons, reduceCtorEq, Change.withBody.injEq, List.not_mem_nil,
      false_or, or_false] at given
    exact given.1
  have reached := eq_after_of_changeAll hesitated
  obtain ⟨c, finished⟩ : ∃ c, s.finish = .ok c := ⟨_, by rw [reached]; rfl⟩
  have ⟨origin, _, _, _, _, _, methods, closed⟩ := comes hesitant s c hesitated finished
  have ⟨name, _⟩ := start_of_finished rfl (reached ▸ finished)
  refine ⟨begun, same, s, s', c, hesitated, straightened, finished, ?_, methods 0 _ rfl,
    methods 1 _ rfl, ?_⟩
  · exact (agree hesitant straight s s' hesitated straightened same).symm.trans finished
  · rw [closed, origin, name]
    rfl

end Specialization
end RuleEngine
