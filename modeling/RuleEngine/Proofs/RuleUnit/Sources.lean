import Mathlib.Data.List.Forall2
import RuleEngine.Proofs.RuleUnit.Catalogs
import RuleEngine.Proofs.RuleUnit.Supply
import RuleEngine.Proofs.Template.Rendering

/-!
# The source of a unit shows its binding statements

The statements that bind the variables of a unit go two ways.  They are executed when an instance is
created, and they are put into the method `bind` of the class of the instances, are specialized with
it and are written out.  What is written is what is executed: the statements have no slots, so
specializing leaves them as they are, and the method that `bind` names is the one whose body was
replaced, the first of that name.
-/

namespace RuleEngine

/-! ## Statements -/

/-- The statements that bind a variable.  A source feeds the entry point of its name first. -/
inductive Variable.BoundBy : Variable → List Wiring → Prop where
  | source {v : Variable} (source : v.isSource = true) :
      BoundBy v [.subscribe v.getter v.name, .setGlobal v.name v.getter]
  | plain {v : Variable} (plain : v.isSource = false) : BoundBy v [.setGlobal v.name v.getter]

theorem Variable.boundBy_wiringsFor (v : Variable) : v.BoundBy (UnitDescription.wiringsFor v) := by
  unfold UnitDescription.wiringsFor
  cases kind : v.isSource with
  | true => exact .source kind
  | false => exact .plain kind

theorem UnitDescription.wirings_rows (d : UnitDescription) :
    ∃ rows, d.wirings = rows.flatten ∧ List.Forall₂ Variable.BoundBy d.vars rows := by
  refine ⟨d.vars.map wiringsFor, List.flatMap_def, ?_⟩
  rw [List.forall₂_map_right_iff, List.forall₂_same]
  exact fun v _ => v.boundBy_wiringsFor

namespace Wiring

/-- Statements have no slots to be filled. -/
theorem subst_statement (names : Slot → String) (b : Wiring) :
    b.statement.subst names = b.statement := by
  cases b <;> rfl

theorem isEmpty_display (b : Wiring) : b.display.isEmpty = false := by
  cases b <;> simp [display, statement, Stmt.render]

/-- Where a statement is a line, its text is preceded by the blanks of the level and ends the line. -/
theorem render_line_display (style : RenderStyle) (level : Nat) (b : Wiring) :
    Line.render style ⟨level, b.display⟩ =
      String.ofList (List.replicate (level * style.indent) ' ') ++ b.display ++ "\n" := by
  simp only [Line.render, isEmpty_display, Bool.false_eq_true, if_false]

end Wiring

/-! ## The class of the instances -/

namespace GeneratedUnit

variable {settings : Settings} {catalog : Catalog} {d : UnitDescription} {token : UInt64}
  {u : GeneratedUnit}

/-- The method for the binding statements has these statements as its body. -/
theorem exists_bind_of_build (built : build settings catalog d token = .ok u) :
    ∃ m ∈ u.instances.shape.methods, u.instances.shape.method? Catalog.bindMethod = some m ∧
      m.body = u.instances.statements.map Wiring.statement := by
  obtain ⟨⟨t, offered, shape⟩, -⟩ := shapes_of_build built
  let statements := d.wirings.map Wiring.statement
  -- the first method of the name is the one whose body was replaced, and filling keeps the names
  obtain ⟨before, m, after, -, apart, here, replaced⟩ :=
    Specialization.replaceFirst_split statements offered.binds
  have found := Template.method?_subst
    { t.binding d with package := some (settings.packageFor d.package) }
    (instanceFills d (UnitPart.instances.className d token)).text replaced apart here
  rw [← shape] at found
  refine ⟨_, List.mem_of_find?_eq_some found, found, ?_⟩
  rw [statements_of_build built]
  simp only [Method.subst, statements, List.map_map]
  exact List.map_congr_left fun b _ => b.subst_statement _

/-- The lines of a method whose body is made of binding statements: each statement is a line. -/
theorem lines_of_statements {m : Method} {statements : List Wiring}
    (body : m.body = statements.map Wiring.statement) (isPublic : Bool) (level : Nat) :
    m.lines Slot.marker isPublic level =
      let head := m.head Slot.marker isPublic
      if statements.isEmpty then [⟨level, head ++ " \x7b\x7d"⟩]
      else ⟨level, head ++ " \x7b"⟩ :: statements.map (fun b => ⟨level + 1, b.display⟩) ++
        [⟨level, "\x7d"⟩] := by
  simp only [Method.lines, body, List.isEmpty_map, List.map_map]
  rfl

/-- In every unit that is built, whatever catalog it is built from,

* the binding statements are, for each variable in turn, that its source feeds the entry point of its
  name, if it is a source, and that its value is the global of its name, both by its accessor;
* the method `bind` of the class of the instances has these statements as its body, in their order;
* in every style, the source text of the class is made of lines, and where it writes this method each
  statement is one line, in their order. -/
theorem source_shows_statements (settings : Settings) (catalog : Catalog) (d : UnitDescription)
    (token : UInt64) (u : GeneratedUnit) (built : build settings catalog d token = .ok u) :
    let statements := u.instances.statements
    (∃ rows, statements = rows.flatten ∧ List.Forall₂ Variable.BoundBy d.vars rows) ∧
    ∃ m, u.instances.shape.method? Catalog.bindMethod = some m ∧
      m.body = statements.map Wiring.statement ∧
      ∀ style : RenderStyle,
        let lines := u.instances.shape.lines Slot.marker style
        u.instances.shape.render style = String.join (lines.map (Line.render style)) ∧
        (∃ earlier later,
          let head := m.head Slot.marker u.instances.shape.implements.isEmpty
          lines = earlier ++
            (if statements.isEmpty then [⟨1, head ++ " \x7b\x7d"⟩]
            else ⟨1, head ++ " \x7b"⟩ :: statements.map (fun b => ⟨2, b.display⟩) ++
              [⟨1, "\x7d"⟩]) ++ later) ∧
        ∀ b ∈ statements, Line.render style ⟨2, b.display⟩ =
          String.ofList (List.replicate (2 * style.indent) ' ') ++ b.display ++ "\n" := by
  intro statements
  obtain ⟨m, there, found, body⟩ := exists_bind_of_build built
  refine ⟨?_, m, found, body, fun style => ?_⟩
  · rw [show statements = d.wirings from statements_of_build built]
    exact d.wirings_rows
  · obtain ⟨earlier, later, shown⟩ := Template.exists_lines_of_method there Slot.marker style
    refine ⟨rfl, ⟨earlier, later, ?_⟩, fun b _ => b.render_line_display style 2⟩
    rw [shown, lines_of_statements body]

/-- The source of orders and the limit are bound in three lines. -/
def ordersLines : List Line :=
  [⟨1, "fn bind(&self, evaluator: RuleUnitExecutor, rule_unit: Orders) \x7b"⟩,
    ⟨2, "rule_unit.orders().subscribe(EntryPointDataProcessor::new(" ++
      "evaluator.entry_point(\"orders\")));"⟩,
    ⟨2, "evaluator.set_global(\"orders\", rule_unit.orders());"⟩,
    ⟨2, "evaluator.set_global(\"limit\", rule_unit.limit());"⟩,
    ⟨1, "\x7d"⟩]

theorem orders_source_shown :
    ∃ u, build {} Catalog.builtin World.orders 0 = .ok u ∧
      ∃ earlier later,
        u.instances.shape.lines Slot.marker {} = earlier ++ ordersLines ++ later := by
  refine ⟨_, rfl, ?_⟩
  obtain ⟨-, m, found, -, shown⟩ :=
    source_shows_statements {} Catalog.builtin World.orders 0 _ rfl
  obtain ⟨-, ⟨earlier, later, lines⟩, -⟩ := shown {}
  cases found
  refine ⟨earlier, later, lines.trans (congrArg (earlier ++ · ++ later) ?_)⟩
  decide +kernel

end GeneratedUnit
end RuleEngine
