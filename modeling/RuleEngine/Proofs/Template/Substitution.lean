import RuleEngine.Proofs.Results
import RuleEngine.Template.Specialize

/-!
# Filling is substituting

Filling a template visits its parts one after the other and stops at the first slot without a fill.
`subst` is what it computes when there is none: every slot gives way to a name, at whatever depth it
stands, and everything else stays as it is.

The two are tied by one equation for each kind of part: filling a part answers the first open one of
its slots or else the part with all of them substituted (`Fills.unlessOpen`).  So filling and the
list of slots visit the same places in the same order.
-/

namespace RuleEngine

/-! ## Names in the place of slots -/

mutual

/-- A type with names in the place of its slots. -/
def TypeExpr.subst (names : Slot → String) : TypeExpr → TypeExpr
  | .named name => .named name
  | .slot s => .named (names s)
  | .generic name arguments => .generic name (TypeExpr.substAll names arguments)

def TypeExpr.substAll (names : Slot → String) : List TypeExpr → List TypeExpr
  | [] => []
  | t :: rest => t.subst names :: TypeExpr.substAll names rest

end

mutual

/-- An expression with names in the place of the slots of its types. -/
def Expr.subst (names : Slot → String) : Expr → Expr
  | .name x => .name x
  | .str text => .str text
  | .self => .self
  | .call target method arguments =>
    .call (target.subst names) method (Expr.substAll names arguments)
  | .apply function arguments => .apply function (Expr.substAll names arguments)
  | .new type arguments => .new (type.subst names) (Expr.substAll names arguments)
  | .init type fields => .init (type.subst names) (Expr.substFields names fields)

def Expr.substAll (names : Slot → String) : List Expr → List Expr
  | [] => []
  | e :: rest => e.subst names :: Expr.substAll names rest

def Expr.substField (names : Slot → String) : String × Expr → String × Expr
  | (field, e) => (field, e.subst names)

def Expr.substFields (names : Slot → String) : List (String × Expr) → List (String × Expr)
  | [] => []
  | f :: rest => Expr.substField names f :: Expr.substFields names rest

end

def Stmt.subst (names : Slot → String) : Stmt → Stmt
  | .expr e => .expr (e.subst names)
  | .result e => .result (e.subst names)

def TypedName.subst (names : Slot → String) (p : TypedName) : TypedName :=
  { p with type := p.type.subst names }

def Method.subst (names : Slot → String) (m : Method) : Method :=
  { m with
    params := m.params.map (TypedName.subst names)
    returns := m.returns.map (TypeExpr.subst names)
    body := m.body.map (Stmt.subst names) }

def Template.subst (names : Slot → String) (t : Template) : Template :=
  { t with
    name := t.name.subst names
    implements := t.implements.map (TypeExpr.subst names)
    fields := t.fields.map (TypedName.subst names)
    maker? := t.maker?.map (Method.subst names)
    methods := t.methods.map (Method.subst names) }

/-! ## No slot is left -/

section Closed

variable (names : Slot → String)

mutual

theorem TypeExpr.slots_subst : ∀ t : TypeExpr, (t.subst names).slots = []
  | .named _ => rfl
  | .slot _ => rfl
  | .generic _ arguments => TypeExpr.slotsOfAll_substAll arguments

theorem TypeExpr.slotsOfAll_substAll :
    ∀ ts : List TypeExpr, TypeExpr.slotsOfAll (TypeExpr.substAll names ts) = []
  | [] => rfl
  | t :: rest => by
    simp only [TypeExpr.substAll, TypeExpr.slotsOfAll, TypeExpr.slots_subst t,
      TypeExpr.slotsOfAll_substAll rest, List.append_nil]

end

mutual

theorem Expr.slots_subst : ∀ e : Expr, (e.subst names).slots = []
  | .name _ => rfl
  | .str _ => rfl
  | .self => rfl
  | .call target _ arguments => by
    simp only [Expr.subst, Expr.slots, Expr.slots_subst target,
      Expr.slotsOfAll_substAll arguments, List.append_nil]
  | .apply _ arguments => Expr.slotsOfAll_substAll arguments
  | .new type arguments => by
    simp only [Expr.subst, Expr.slots, type.slots_subst names,
      Expr.slotsOfAll_substAll arguments, List.append_nil]
  | .init type fields => by
    simp only [Expr.subst, Expr.slots, type.slots_subst names,
      Expr.slotsOfFields_substFields fields, List.append_nil]

theorem Expr.slotsOfAll_substAll :
    ∀ es : List Expr, Expr.slotsOfAll (Expr.substAll names es) = []
  | [] => rfl
  | e :: rest => by
    simp only [Expr.substAll, Expr.slotsOfAll, Expr.slots_subst e, Expr.slotsOfAll_substAll rest,
      List.append_nil]

theorem Expr.slotsOfField_substField :
    ∀ f : String × Expr, Expr.slotsOfField (Expr.substField names f) = []
  | (_, e) => Expr.slots_subst e

theorem Expr.slotsOfFields_substFields :
    ∀ fs : List (String × Expr), Expr.slotsOfFields (Expr.substFields names fs) = []
  | [] => rfl
  | f :: rest => by
    simp only [Expr.substFields, Expr.slotsOfFields, Expr.slotsOfField_substField f,
      Expr.slotsOfFields_substFields rest, List.append_nil]

end

theorem Stmt.slots_subst (s : Stmt) : (s.subst names).expression.slots = [] := by
  cases s with
  | expr e => exact e.slots_subst names
  | result e => exact e.slots_subst names

theorem TypedName.slots_subst (p : TypedName) : (p.subst names).type.slots = [] :=
  p.type.slots_subst names

theorem Method.slots_subst (m : Method) : (m.subst names).slots = [] := by
  have params : (m.params.map (TypedName.subst names)).flatMap (·.type.slots) = [] := by
    simp [List.flatMap_map, TypedName.slots_subst]
  have returns : ((m.returns.map (TypeExpr.subst names)).map TypeExpr.slots).getD [] = [] := by
    cases m.returns <;> simp [TypeExpr.slots_subst]
  have body : (m.body.map (Stmt.subst names)).flatMap (·.expression.slots) = [] := by
    simp [List.flatMap_map, Stmt.slots_subst]
  simp only [Method.slots, Method.subst, params, returns, body, List.append_nil]

theorem Template.slots_subst (t : Template) : (t.subst names).slots = [] := by
  have implements : (t.implements.map (TypeExpr.subst names)).flatMap TypeExpr.slots = [] := by
    simp [List.flatMap_map, TypeExpr.slots_subst]
  have fields : (t.fields.map (TypedName.subst names)).flatMap (·.type.slots) = [] := by
    simp [List.flatMap_map, TypedName.slots_subst]
  have maker : ((t.maker?.map (Method.subst names)).map Method.slots).getD [] = [] := by
    cases t.maker? <;> simp [Method.slots_subst]
  have methods : (t.methods.map (Method.subst names)).flatMap Method.slots = [] := by
    simp [List.flatMap_map, Method.slots_subst]
  simp only [Template.slots, Template.subst, t.name.slots_subst names, implements, fields, maker,
    methods, List.append_nil]

end Closed

/-- The placeholders of a template are its slots. -/
theorem Template.mem_placeholders_iff {t : Template} {s : Slot} :
    s ∈ t.placeholders ↔ s ∈ t.slots := by
  have listed : s ∈ Slot.all := by cases s <;> decide
  simp [placeholders, listed]

theorem Template.placeholders_eq_nil_iff {t : Template} : t.placeholders = [] ↔ t.slots = [] := by
  simp only [List.eq_nil_iff_forall_not_mem, mem_placeholders_iff]

/-! ## Open slots -/

namespace Fills

variable {α β : Type} {fills : Fills} {slots earlier later : List Slot} {s : Slot} {a b : α}

/-- What stands in the place of a slot: its fill, or its marker while it has none. -/
def text (fills : Fills) (s : Slot) : String :=
  (fills s).getD s.marker

/-- Of a row of slots, `s` is the first that is open. -/
def FirstOpen (fills : Fills) (slots : List Slot) (s : Slot) : Prop :=
  ∃ earlier later, slots = earlier ++ s :: later ∧ (∀ t ∈ earlier, (fills t).isSome) ∧
    fills s = none

/-- The first open one of a row of slots, or `a` if all of them are filled. -/
def unlessOpen (fills : Fills) (slots : List Slot) (a : α) : Except Slot α :=
  match slots.find? fun s => (fills s).isNone with
  | some s => .error s
  | none => .ok a

theorem eq_some_text (filled : (fills s).isSome) : fills s = some (fills.text s) := by
  obtain ⟨name, given⟩ := Option.isSome_iff_exists.1 filled
  simp only [text, given, Option.getD_some]

theorem firstOpen_iff :
    fills.FirstOpen slots s ↔ slots.find? (fun s => (fills s).isNone) = some s := by
  simp only [FirstOpen, List.find?_eq_some_iff_append, Option.isNone_iff_eq_none,
    Bool.not_eq_true', Option.isNone_eq_false_iff]
  constructor
  · rintro ⟨earlier, later, parts, filled, opened⟩
    exact ⟨opened, earlier, later, parts, filled⟩
  · rintro ⟨opened, earlier, later, parts, filled⟩
    exact ⟨earlier, later, parts, filled, opened⟩

theorem unlessOpen_eq_ok_iff :
    fills.unlessOpen slots a = .ok b ↔ (∀ s ∈ slots, (fills s).isSome) ∧ b = a := by
  have filled : (∀ s ∈ slots, (fills s).isSome) ↔ slots.find? (fun s => (fills s).isNone) = none := by
    simp [Option.isSome_iff_ne_none]
  rw [filled, unlessOpen]
  cases slots.find? fun s => (fills s).isNone <;> simp [eq_comm]

theorem unlessOpen_eq_error_iff :
    fills.unlessOpen slots a = .error s ↔ fills.FirstOpen slots s := by
  rw [firstOpen_iff, unlessOpen]
  cases slots.find? fun s => (fills s).isNone <;> simp

theorem map_unlessOpen (f : α → β) :
    (fills.unlessOpen slots a).map f = fills.unlessOpen slots (f a) := by
  unfold unlessOpen
  cases slots.find? fun s => (fills s).isNone <;> rfl

/-- The slots of two parts that are visited one after the other. -/
theorem unlessOpen_bind (f : α → β) :
    (fills.unlessOpen earlier a >>= fun a => fills.unlessOpen later (f a)) =
      fills.unlessOpen (earlier ++ later) (f a) := by
  unfold unlessOpen
  rw [List.find?_append]
  -- an open slot of the first part is answered before the second one is visited
  cases earlier.find? fun s => (fills s).isNone <;> rfl

theorem unlessOpen_bind_pure (f : α → β) :
    (fills.unlessOpen slots a >>= fun a => pure (f a)) = fills.unlessOpen slots (f a) :=
  map_unlessOpen f

end Fills

/-! ## Filling is substituting -/

section Filling

variable (fills : Fills)

theorem fillAll_eq {α : Type} {f : α → Except Slot α} {slots : α → List Slot} {subst : α → α}
    (each : ∀ a, f a = fills.unlessOpen (slots a) (subst a)) (as : List α) :
    fillAll f as = fills.unlessOpen (as.flatMap slots) (as.map subst) := by
  induction as with
  | nil => rfl
  | cons a rest ih =>
      simp only [fillAll, each, ih, Fills.unlessOpen_bind_pure, Fills.unlessOpen_bind,
        List.flatMap_cons, List.map_cons]

theorem fillOption_eq {α : Type} {f : α → Except Slot α} {slots : α → List Slot} {subst : α → α}
    (each : ∀ a, f a = fills.unlessOpen (slots a) (subst a)) (a? : Option α) :
    fillOption f a? = fills.unlessOpen ((a?.map slots).getD []) (a?.map subst) := by
  cases a? with
  | none => rfl
  | some a => simp only [fillOption, each, Fills.map_unlessOpen, Option.map_some, Option.getD_some]

mutual

theorem TypeExpr.fill_eq :
    ∀ t : TypeExpr, t.fill fills = fills.unlessOpen t.slots (t.subst fills.text)
  | .named _ => rfl
  | .slot s => by
    cases filled : fills s <;>
      simp [TypeExpr.fill, TypeExpr.slots, TypeExpr.subst, Fills.unlessOpen, Fills.text, filled]
  | .generic name arguments => by
    simp only [TypeExpr.fill, TypeExpr.slots, TypeExpr.subst, TypeExpr.fillList_eq arguments,
      Fills.map_unlessOpen]

theorem TypeExpr.fillList_eq : ∀ ts : List TypeExpr, TypeExpr.fillList fills ts =
    fills.unlessOpen (TypeExpr.slotsOfAll ts) (TypeExpr.substAll fills.text ts)
  | [] => rfl
  | t :: rest => by
    simp only [TypeExpr.fillList, TypeExpr.slotsOfAll, TypeExpr.substAll, TypeExpr.fill_eq t,
      TypeExpr.fillList_eq rest, Fills.unlessOpen_bind_pure, Fills.unlessOpen_bind]

end

mutual

theorem Expr.fill_eq : ∀ e : Expr, e.fill fills = fills.unlessOpen e.slots (e.subst fills.text)
  | .name _ => rfl
  | .str _ => rfl
  | .self => rfl
  | .call target method arguments => by
    simp only [Expr.fill, Expr.slots, Expr.subst, Expr.fill_eq target, Expr.fillList_eq arguments,
      Fills.unlessOpen_bind_pure, Fills.unlessOpen_bind]
  | .apply function arguments => by
    simp only [Expr.fill, Expr.slots, Expr.subst, Expr.fillList_eq arguments,
      Fills.unlessOpen_bind_pure]
  | .new type arguments => by
    simp only [Expr.fill, Expr.slots, Expr.subst, type.fill_eq fills, Expr.fillList_eq arguments,
      Fills.unlessOpen_bind_pure, Fills.unlessOpen_bind]
  | .init type fields => by
    simp only [Expr.fill, Expr.slots, Expr.subst, type.fill_eq fills, Expr.fillFields_eq fields,
      Fills.unlessOpen_bind_pure, Fills.unlessOpen_bind]

theorem Expr.fillList_eq : ∀ es : List Expr, Expr.fillList fills es =
    fills.unlessOpen (Expr.slotsOfAll es) (Expr.substAll fills.text es)
  | [] => rfl
  | e :: rest => by
    simp only [Expr.fillList, Expr.slotsOfAll, Expr.substAll, Expr.fill_eq e,
      Expr.fillList_eq rest, Fills.unlessOpen_bind_pure, Fills.unlessOpen_bind]

theorem Expr.fillField_eq : ∀ f : String × Expr, Expr.fillField fills f =
    fills.unlessOpen (Expr.slotsOfField f) (Expr.substField fills.text f)
  | (field, e) => by
    simp only [Expr.fillField, Expr.slotsOfField, Expr.substField, Expr.fill_eq e,
      Fills.map_unlessOpen]

theorem Expr.fillFields_eq : ∀ fs : List (String × Expr), Expr.fillFields fills fs =
    fills.unlessOpen (Expr.slotsOfFields fs) (Expr.substFields fills.text fs)
  | [] => rfl
  | f :: rest => by
    simp only [Expr.fillFields, Expr.slotsOfFields, Expr.substFields, Expr.fillField_eq f,
      Expr.fillFields_eq rest, Fills.unlessOpen_bind_pure, Fills.unlessOpen_bind]

end

theorem Stmt.fill_eq (s : Stmt) :
    s.fill fills = fills.unlessOpen s.expression.slots (s.subst fills.text) := by
  cases s <;>
    simp only [Stmt.fill, Stmt.expression, Stmt.subst, Expr.fill_eq, Fills.map_unlessOpen]

theorem TypedName.fill_eq (p : TypedName) :
    p.fill fills = fills.unlessOpen p.type.slots (p.subst fills.text) := by
  simp only [TypedName.fill, TypedName.subst, p.type.fill_eq, Fills.map_unlessOpen]

theorem Method.fill_eq (m : Method) :
    m.fill fills = fills.unlessOpen m.slots (m.subst fills.text) := by
  simp only [Method.fill, Method.slots, Method.subst, fillAll_eq fills (TypedName.fill_eq fills),
    fillOption_eq fills (TypeExpr.fill_eq fills), fillAll_eq fills (Stmt.fill_eq fills),
    Fills.unlessOpen_bind_pure, Fills.unlessOpen_bind, List.append_assoc]

/-- Filling a template answers its first open slot, or the template with all slots substituted. -/
theorem Template.fill_eq (t : Template) :
    t.fill fills = fills.unlessOpen t.slots (t.subst fills.text) := by
  simp only [Template.fill, Template.slots, Template.subst, t.name.fill_eq,
    fillAll_eq fills (TypeExpr.fill_eq fills), fillAll_eq fills (TypedName.fill_eq fills),
    fillOption_eq fills (Method.fill_eq fills), fillAll_eq fills (Method.fill_eq fills),
    Fills.unlessOpen_bind_pure, Fills.unlessOpen_bind, List.append_assoc]

end Filling

end RuleEngine
