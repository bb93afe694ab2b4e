import RuleEngine.Proofs.Template.Steps

/-!
# Rendering a specialized class

A template can be written out before its slots are filled, with a text for each of them, and after it.
The two agree at every place where a type is written: names are put in while the template is written
out, or before (`Template.renderWith_subst`).  What decides the shape of a text, such as whether a
body is empty or whether a field is given by its own name, is the same for a template and for what it
is filled to.
-/

namespace RuleEngine

section Texts

variable (names slotText : Slot → String)

/-! ## Types and expressions -/

mutual

theorem TypeExpr.render_subst :
    ∀ t : TypeExpr, (t.subst names).render slotText = t.render names
  | .named _ => rfl
  | .slot _ => rfl
  | .generic _ arguments => by
    simp only [TypeExpr.subst, TypeExpr.render, TypeExpr.renderAll_substAll arguments]

theorem TypeExpr.renderAll_substAll : ∀ ts : List TypeExpr,
    TypeExpr.renderAll slotText (TypeExpr.substAll names ts) = TypeExpr.renderAll names ts
  | [] => rfl
  | t :: rest => by
    simp only [TypeExpr.substAll, TypeExpr.renderAll, TypeExpr.render_subst t,
      TypeExpr.renderAll_substAll rest]

end

theorem TypeExpr.renderPath_subst (t : TypeExpr) :
    (t.subst names).renderPath slotText = t.renderPath names := by
  cases t with
  | named name => rfl
  | slot s => rfl
  | generic name arguments =>
      simp only [TypeExpr.subst, TypeExpr.renderPath, TypeExpr.renderAll_substAll]

mutual

theorem Expr.render_subst : ∀ e : Expr, (e.subst names).render slotText = e.render names
  | .name _ => rfl
  | .str _ => rfl
  | .self => rfl
  | .call target _ arguments => by
    simp only [Expr.subst, Expr.render, Expr.render_subst target,
      Expr.renderAll_substAll arguments]
  | .apply _ arguments => by
    simp only [Expr.subst, Expr.render, Expr.renderAll_substAll arguments]
  | .new type arguments => by
    simp only [Expr.subst, Expr.render, TypeExpr.renderPath_subst,
      Expr.renderAll_substAll arguments]
  | .init type fields => by
    simp only [Expr.subst, Expr.render, TypeExpr.renderPath_subst,
      Expr.renderFields_substFields fields]

theorem Expr.renderAll_substAll : ∀ es : List Expr,
    Expr.renderAll slotText (Expr.substAll names es) = Expr.renderAll names es
  | [] => rfl
  | e :: rest => by
    simp only [Expr.substAll, Expr.renderAll, Expr.render_subst e, Expr.renderAll_substAll rest]

theorem Expr.renderField_substField : ∀ f : String × Expr,
    Expr.renderField slotText (Expr.substField names f) = Expr.renderField names f
  | (field, e) => by
    have same := Expr.render_subst e
    -- a local name stays one, so that the shorthand is taken on both sides or on neither
    cases e with
    | name x => rfl
    | _ => exact congrArg (field ++ ": " ++ ·) same

theorem Expr.renderFields_substFields : ∀ fs : List (String × Expr),
    Expr.renderFields slotText (Expr.substFields names fs) = Expr.renderFields names fs
  | [] => rfl
  | f :: rest => by
    simp only [Expr.substFields, Expr.renderFields, Expr.renderField_substField f,
      Expr.renderFields_substFields rest]

end

theorem Stmt.render_subst (s : Stmt) : (s.subst names).render slotText = s.render names := by
  cases s <;> simp only [Stmt.subst, Stmt.render, Expr.render_subst]

theorem TypedName.render_subst (p : TypedName) :
    (p.subst names).render slotText = p.render names := by
  simp only [TypedName.render, TypedName.subst, TypeExpr.render_subst]

/-! ## Methods -/

theorem Method.head_subst (isPublic : Bool) (m : Method) :
    (m.subst names).head slotText isPublic = m.head names isPublic := by
  have params : (m.params.map (TypedName.subst names)).map (TypedName.render slotText) =
      m.params.map (TypedName.render names) := by
    rw [List.map_map]
    exact List.map_congr_left fun p _ => p.render_subst names slotText
  simp only [Method.head, Method.subst, params]
  cases m.returns with
  | none => rfl
  | some t =>
      simp only [Option.map_some, TypeExpr.render_subst]
      rfl

theorem Method.lines_subst (isPublic : Bool) (level : Nat) (m : Method) :
    (m.subst names).lines slotText isPublic level = m.lines names isPublic level := by
  have body : (m.body.map (Stmt.subst names)).map
      (fun s => (⟨level + 1, s.render slotText⟩ : Line)) =
        m.body.map fun s => ⟨level + 1, s.render names⟩ := by
    rw [List.map_map]
    exact List.map_congr_left fun s _ => congrArg (Line.mk _) (s.render_subst names slotText)
  simp only [Method.lines, Method.head_subst]
  simp only [Method.subst, List.isEmpty_map, body]

/-! ## Classes -/

namespace Template

theorem structLines_subst (t : Template) :
    (t.subst names).structLines slotText = t.structLines names := by
  have fields : (t.fields.map (TypedName.subst names)).map
      (fun f => (⟨1, f.render slotText ++ ","⟩ : Line)) =
        t.fields.map fun f => ⟨1, f.render names ++ ","⟩ := by
    rw [List.map_map]
    refine List.map_congr_left fun f _ => ?_
    simp only [Function.comp_apply, TypedName.render_subst]
  simp only [structLines, subst, TypeExpr.render_subst, List.isEmpty_map, fields]

theorem makerLines_subst (t : Template) :
    (t.subst names).makerLines slotText = t.makerLines names := by
  unfold makerLines subst
  cases t.maker? <;>
    simp only [Option.map_none, Option.map_some, TypeExpr.render_subst, Method.lines_subst]

theorem methodLines_subst (isPublic : Bool) (methods : List Method) :
    methodLines slotText isPublic (methods.map (Method.subst names)) =
      methodLines names isPublic methods := by
  unfold methodLines
  rw [List.map_map]
  refine congrArg (List.intercalate _) (List.map_congr_left fun m _ => ?_)
  exact m.lines_subst names slotText isPublic 1

theorem methodsLines_subst (t : Template) :
    (t.subst names).methodsLines slotText = t.methodsLines names := by
  unfold methodsLines subst
  cases t.implements <;>
    simp only [List.map_nil, List.map_cons, List.isEmpty_map, TypeExpr.render_subst,
      methodLines_subst]

theorem lines_subst (style : RenderStyle) (t : Template) :
    (t.subst names).lines slotText style = t.lines names style := by
  have header : (t.subst names).headerLines = t.headerLines := rfl
  simp only [lines, bodyLines, header, structLines_subst, makerLines_subst, methodsLines_subst]

/-- A template is written out with names in the place of its slots as it is when the names are put in
before. -/
theorem renderWith_subst (style : RenderStyle) (t : Template) :
    (t.subst names).renderWith slotText style = t.renderWith names style := by
  simp only [renderWith, lines_subst]

end Template

end Texts

/-! ## Lines of a method -/

/-- Each of several lists stands in one piece in what they are joined to. -/
theorem exists_intercalate {α : Type} (between : List α) (before : List (List α)) (x : List α)
    (after : List (List α)) :
    ∃ earlier later, between.intercalate (before ++ x :: after) = earlier ++ x ++ later := by
  induction before with
  | nil =>
      cases after with
      | nil => exact ⟨[], [], by simp⟩
      | cons y rest =>
          refine ⟨[], between ++ between.intercalate (y :: rest), ?_⟩
          rw [List.nil_append, List.intercalate_cons_cons, List.nil_append, List.append_assoc]
  | cons y rest ih =>
      obtain ⟨earlier, later, same⟩ := ih
      refine ⟨y ++ between ++ earlier, later, ?_⟩
      calc between.intercalate (y :: (rest ++ x :: after))
          = y ++ between ++ between.intercalate (rest ++ x :: after) :=
            List.intercalate_cons_of_ne_nil (by simp)
        _ = y ++ between ++ (earlier ++ x ++ later) := by rw [same]
        _ = y ++ between ++ earlier ++ x ++ later := by simp only [List.append_assoc]

namespace Template

/-- The methods of a class stand in one block. -/
theorem exists_methodsLines_eq {t : Template} (some_method : t.methods.isEmpty = false)
    (slotText : SlotText) :
    ∃ head, t.methodsLines slotText =
      blockLines head (methodLines slotText t.implements.isEmpty t.methods) := by
  unfold methodsLines
  rw [some_method, if_neg Bool.false_ne_true]
  cases t.implements with
  | nil => exact ⟨_, rfl⟩
  | cons first rest => exact ⟨_, rfl⟩

/-- The lines of a method stand together among the lines of its class. -/
theorem exists_lines_of_method {t : Template} {m : Method} (there : m ∈ t.methods)
    (slotText : SlotText) (style : RenderStyle) :
    ∃ earlier later,
      t.lines slotText style = earlier ++ m.lines slotText t.implements.isEmpty 1 ++ later := by
  obtain ⟨before, after, parts⟩ := List.append_of_mem there
  obtain ⟨head, block⟩ := exists_methodsLines_eq (t := t) (by simp [parts]) slotText
  obtain ⟨earlier, later, shown⟩ : ∃ earlier later,
      methodLines slotText t.implements.isEmpty t.methods =
        earlier ++ m.lines slotText t.implements.isEmpty 1 ++ later := by
    rw [methodLines, parts, List.map_append, List.map_cons]
    exact exists_intercalate _ _ _ _
  refine ⟨(if style.header then t.headerLines else []) ++ t.structLines slotText ++
    t.makerLines slotText ++ [⟨0, ""⟩, ⟨0, "impl " ++ head ++ " \x7b"⟩] ++ earlier,
    later ++ [⟨0, "\x7d"⟩], ?_⟩
  simp only [lines, bodyLines, block, shown, blockLines, List.append_assoc, List.cons_append,
    List.nil_append]

end Template

/-! ## What a specialization writes -/

namespace Specialization

/-- When all placeholders have fills, the class that comes out is written, in every style, as the
template is with the fill of each slot in the place where its marker is written otherwise. -/
theorem render_finished (s : Specialization)
    (filled : ∀ p ∈ s.base.placeholders, (s.fills p).isSome) :
    ∃ c, s.finish = .ok c ∧
      (∀ p ∈ s.base.placeholders, s.fills p = some (s.fills.text p)) ∧
      ∀ style, s.base.render style = s.base.renderWith Slot.marker style ∧
        c.render style = s.base.renderWith s.fills.text style := by
  refine ⟨s.base.subst s.fills.text, ?_, fun p occurs => Fills.eq_some_text (filled p occurs), ?_⟩
  · simp only [Template.mem_placeholders_iff] at filled
    exact finish_eq_ok_iff.2 ⟨filled, rfl⟩
  · exact fun style => ⟨rfl, Template.renderWith_subst _ _ style s.base⟩

/-- A class that puts its value in a box.  The type of the value is open in a field, in a signature and
in the path of an expression. -/
def boxed : Template :=
  { Template.ofName "Boxed" with
    package := some "org.example"
    fields := [⟨"value", .slot .unitClass⟩]
    methods :=
      [{ name := "boxed"
         receiver := true
         params := []
         returns := some (.generic "Box" [.slot .unitClass])
         body :=
          [.result (.init (.generic "Box" [.slot .unitClass]) [("value", .name "value")])] }] }

def personFills : Fills :=
  (Fills.empty.set .className "Persons1").set .unitClass "Persons"

theorem boxed_person_rendered :
    (∀ p ∈ boxed.placeholders, (personFills p).isSome) ∧
    ∃ c, finish ⟨boxed, personFills⟩ = .ok c ∧
      c.render =
        "// package org.example\n// generated from Boxed\n\n" ++
        "pub struct Persons1 \x7b\n    value: Persons,\n\x7d\n\n" ++
        "impl Persons1 \x7b\n    pub fn boxed(&self) -> Box<Persons> \x7b\n" ++
        "        Box::<Persons> \x7b value \x7d\n    \x7d\n\x7d\n" := by
  have filled : ∀ p ∈ boxed.placeholders, (personFills p).isSome := by decide
  obtain ⟨c, finished, -, rendered⟩ := render_finished ⟨boxed, personFills⟩ filled
  refine ⟨filled, c, finished, (rendered {}).2.trans ?_⟩
  decide +kernel

end Specialization
end RuleEngine
