import RuleEngine.Proofs.Template.Steps
import RuleEngine.RuleUnit.Generated

/-!
# Catalogs that units can be built from

A build looks up two templates and specializes them.  `Usable` says what a catalog must hold for it
to succeed: both templates, with open class names, and for the instances of the unit a method for the
binding statements and no other slots than the two that are filled.  What the template has in the
place of these statements does not count.

`Refuses` says what is reported of a catalog that is not usable.  Its cases stand in the order in
which a build comes to them, and each supposes that the earlier ones do not apply.
-/

namespace RuleEngine

/-! ## The steps of a build -/

theorem Catalog.require_eq_ok_iff {catalog : Catalog} {name : String} {t : Template} :
    catalog.require name = .ok t ↔ catalog.find? name = some t := by
  unfold require
  cases catalog.find? name <;> simp

theorem Catalog.require_eq_error_iff {catalog : Catalog} {name : String} {e : Error} :
    catalog.require name = .error e ↔
      catalog.find? name = none ∧ e = (Cause.missingTemplate name : Error) := by
  unfold require
  cases catalog.find? name <;> simp [eq_comm]

/-! ## What a catalog must hold -/

/-- The two classes of a unit, in the order in which they are built. -/
inductive UnitPart where
  | instances
  | unit

/-- The name of a class of a unit, with a token. -/
def UnitPart.className (d : UnitDescription) (token : UInt64) : UnitPart → String
  | instances => Naming.instanceClass d.name token
  | unit => Naming.unitClass d.name token

/-- The template with the binding statements of a unit in the first method for them. -/
def Template.binding (t : Template) (d : UnitDescription) : Template :=
  { t with
    methods :=
      Specialization.replaceFirst Catalog.bindMethod (d.wirings.map Wiring.statement) t.methods }

/-- The slots that the class of the instances of a unit may have. -/
def Slot.OfInstances (p : Slot) : Prop :=
  p = .className ∨ p = .unitClass

namespace Catalog

/-- A template for the instances of a unit. -/
structure OffersInstances (catalog : Catalog) (d : UnitDescription) (t : Template) : Prop where
  found : catalog.find? instanceTemplate = some t
  opened : t.name = .slot .className
  binds : ∃ m ∈ t.methods, m.name = bindMethod
  slots : ∀ p ∈ (t.binding d).placeholders, p.OfInstances

/-- A template for a unit. -/
structure OffersUnit (catalog : Catalog) (t : Template) : Prop where
  found : catalog.find? unitTemplate = some t
  opened : t.name = .slot .className

/-- A catalog that a unit can be built from. -/
def Usable (catalog : Catalog) (d : UnitDescription) : Prop :=
  (∃ t, catalog.OffersInstances d t) ∧ ∃ t, catalog.OffersUnit t

/-- Why a unit cannot be built from a catalog, and at which of its classes that is found. -/
inductive Refuses (catalog : Catalog) (d : UnitDescription) : UnitPart → Cause → Prop where
  | noInstanceTemplate (absent : catalog.find? instanceTemplate = none) :
      Refuses catalog d .instances (.missingTemplate instanceTemplate)
  | instanceName {t : Template} (found : catalog.find? instanceTemplate = some t)
      (closed : t.name ≠ .slot .className) :
      Refuses catalog d .instances (.malformedTemplate t.origin
        ("class name is " ++ t.name.text ++ ", not " ++ Slot.className.marker))
  | noBindMethod {t : Template} (found : catalog.find? instanceTemplate = some t)
      (opened : t.name = .slot .className) (absent : ¬ ∃ m ∈ t.methods, m.name = bindMethod) :
      Refuses catalog d .instances (.malformedTemplate t.origin ("no method " ++ bindMethod))
  | otherSlot {t : Template} {earlier later : List Slot} {p : Slot}
      (found : catalog.find? instanceTemplate = some t) (opened : t.name = .slot .className)
      (binds : ∃ m ∈ t.methods, m.name = bindMethod)
      (slots : (t.binding d).slots = earlier ++ p :: later) (first : ∀ q ∈ earlier, q.OfInstances)
      (other : ¬ p.OfInstances) :
      Refuses catalog d .instances (.missingPlaceholder t.origin p.marker)
  | noUnitTemplate {i : Template} (offered : catalog.OffersInstances d i)
      (absent : catalog.find? unitTemplate = none) :
      Refuses catalog d .unit (.missingTemplate unitTemplate)
  | unitName {i t : Template} (offered : catalog.OffersInstances d i)
      (found : catalog.find? unitTemplate = some t) (closed : t.name ≠ .slot .className) :
      Refuses catalog d .unit (.malformedTemplate t.origin
        ("class name is " ++ t.name.text ++ ", not " ++ Slot.className.marker))

/-- A unit is refused for its own class only when the class of its instances can be built. -/
theorem Refuses.offered {catalog : Catalog} {d : UnitDescription} {cause : Cause}
    (refused : catalog.Refuses d .unit cause) : ∃ i, catalog.OffersInstances d i := by
  cases refused with
  | noUnitTemplate offered _ => exact ⟨_, offered⟩
  | unitName offered _ _ => exact ⟨_, offered⟩

end Catalog

/-! ## The two classes -/

namespace GeneratedUnit

variable {catalog : Catalog} {d : UnitDescription} {package simple instanceSimple : String}
  {c : Template} {e : Error}

/-- The fills of the class of the instances of a unit. -/
def instanceFills (d : UnitDescription) (simple : String) : Fills :=
  (Fills.empty.set .className simple).set .unitClass d.name

/-- The fills of the class of a unit. -/
def unitFills (d : UnitDescription) (simple instanceSimple : String) : Fills :=
  ((instanceFills d simple).set .instanceClass instanceSimple).set .unitModel d.model

theorem instanceFills_isSome_iff (d : UnitDescription) (simple : String) {p : Slot} :
    (instanceFills d simple p).isSome ↔ p.OfInstances := by
  cases p <;> simp [instanceFills, Fills.set, Fills.empty, Slot.OfInstances]

theorem firstOpen_instanceFills_iff (d : UnitDescription) (simple : String) {slots : List Slot}
    {p : Slot} :
    (instanceFills d simple).FirstOpen slots p ↔
      ∃ earlier later, slots = earlier ++ p :: later ∧ (∀ q ∈ earlier, q.OfInstances) ∧
        ¬ p.OfInstances := by
  simp only [Fills.FirstOpen, ← instanceFills_isSome_iff d simple, Option.not_isSome_iff_eq_none]

theorem unitFills_isSome (d : UnitDescription) (simple instanceSimple : String) (p : Slot) :
    (unitFills d simple instanceSimple p).isSome := by
  cases p <;> simp [unitFills, instanceFills, Fills.set]

theorem instanceClass_eq :
    instanceClass catalog d package simple =
      (catalog.require Catalog.instanceTemplate).bind fun t =>
        (Specialization.start t).bind fun s =>
          (Specialization.withBody
            ⟨{ s.base with package := some package },
              (s.fills.set .className simple).set .unitClass d.name⟩
            Catalog.bindMethod (d.wirings.map Wiring.statement)).bind Specialization.finish :=
  rfl

theorem unitClass_eq :
    unitClass catalog d package simple instanceSimple =
      (catalog.require Catalog.unitTemplate).bind fun t =>
        (Specialization.start t).bind fun s =>
          Specialization.finish
            ⟨{ s.base with package := some package },
              (((s.fills.set .className simple).set .unitClass d.name).set .instanceClass
                instanceSimple).set .unitModel d.model⟩ :=
  rfl

theorem instanceClass_eq_ok_iff :
    instanceClass catalog d package simple = .ok c ↔
      ∃ t, catalog.OffersInstances d t ∧
        c = { t.binding d with package := some package }.subst (instanceFills d simple).text := by
  simp only [instanceClass_eq, Except.bind_eq_ok_iff, Catalog.require_eq_ok_iff,
    Specialization.start_eq_ok_iff, Specialization.withBody_eq_ok_iff,
    Specialization.finish_eq_ok_iff]
  constructor
  · rintro ⟨t, found, s, ⟨opened, rfl⟩, s', ⟨binds, rfl⟩, filled, rfl⟩
    refine ⟨t, ⟨found, opened, binds, ?_⟩, rfl⟩
    intro p occurs
    exact (instanceFills_isSome_iff d simple).1 (filled p (Template.mem_placeholders_iff.1 occurs))
  · rintro ⟨t, ⟨found, opened, binds, slots⟩, rfl⟩
    refine ⟨t, found, _, ⟨opened, rfl⟩, _, ⟨binds, rfl⟩, ?_, rfl⟩
    intro p occurs
    exact (instanceFills_isSome_iff d simple).2 (slots p (Template.mem_placeholders_iff.2 occurs))

theorem unitClass_eq_ok_iff :
    unitClass catalog d package simple instanceSimple = .ok c ↔
      ∃ t, catalog.OffersUnit t ∧
        c = { t with package := some package }.subst (unitFills d simple instanceSimple).text := by
  simp only [unitClass_eq, Except.bind_eq_ok_iff, Catalog.require_eq_ok_iff,
    Specialization.start_eq_ok_iff, Specialization.finish_eq_ok_iff]
  constructor
  · rintro ⟨t, found, s, ⟨opened, rfl⟩, -, rfl⟩
    exact ⟨t, ⟨found, opened⟩, rfl⟩
  · rintro ⟨t, ⟨found, opened⟩, rfl⟩
    exact ⟨t, found, _, ⟨opened, rfl⟩, fun p _ => unitFills_isSome d _ _ p, rfl⟩

theorem instanceClass_eq_error_iff :
    instanceClass catalog d package simple = .error e ↔
      ∃ cause : Cause, catalog.Refuses d .instances cause ∧ e = cause := by
  simp only [instanceClass_eq, Except.bind_eq_error_iff, Catalog.require_eq_ok_iff,
    Catalog.require_eq_error_iff, Specialization.start_eq_ok_iff,
    Specialization.start_eq_error_iff, Specialization.withBody_eq_ok_iff,
    Specialization.withBody_eq_error_iff, Specialization.finish_eq_error_iff]
  constructor
  · rintro (⟨absent, rfl⟩ | ⟨t, found, ⟨closed, rfl⟩ | ⟨s, ⟨opened, rfl⟩, later⟩⟩)
    · exact ⟨_, .noInstanceTemplate absent, rfl⟩
    · exact ⟨_, .instanceName found closed, rfl⟩
    · rcases later with ⟨absent, rfl⟩ | ⟨s, ⟨binds, rfl⟩, p, left, rfl⟩
      · exact ⟨_, .noBindMethod found opened absent, rfl⟩
      · obtain ⟨earlier, later, slots, first, other⟩ :=
          (firstOpen_instanceFills_iff d simple).1 left
        exact ⟨_, .otherSlot found opened binds slots first other, rfl⟩
  · rintro ⟨_, refused, rfl⟩
    cases refused with
    | noInstanceTemplate absent => exact Or.inl ⟨absent, rfl⟩
    | instanceName found closed => exact Or.inr ⟨_, found, Or.inl ⟨closed, rfl⟩⟩
    | noBindMethod found opened absent =>
        exact Or.inr ⟨_, found, Or.inr ⟨_, ⟨opened, rfl⟩, Or.inl ⟨absent, rfl⟩⟩⟩
    | otherSlot found opened binds slots first other =>
        have left := (firstOpen_instanceFills_iff d simple).2 ⟨_, _, slots, first, other⟩
        exact Or.inr ⟨_, found, Or.inr ⟨_, ⟨opened, rfl⟩, Or.inr ⟨_, ⟨binds, rfl⟩, _, left, rfl⟩⟩⟩

/-- The class of a unit has fills for all slots, so that only its template and the name count. -/
theorem unitClass_eq_error_iff (offered : ∃ i, catalog.OffersInstances d i) :
    unitClass catalog d package simple instanceSimple = .error e ↔
      ∃ cause : Cause, catalog.Refuses d .unit cause ∧ e = cause := by
  simp only [unitClass_eq, Except.bind_eq_error_iff, Catalog.require_eq_ok_iff,
    Catalog.require_eq_error_iff, Specialization.start_eq_ok_iff,
    Specialization.start_eq_error_iff, Specialization.finish_eq_error_iff]
  obtain ⟨i, offered⟩ := offered
  constructor
  · rintro (⟨absent, rfl⟩ | ⟨t, found, ⟨closed, rfl⟩ | ⟨s, ⟨opened, rfl⟩, p, left, rfl⟩⟩)
    · exact ⟨_, .noUnitTemplate offered absent, rfl⟩
    · exact ⟨_, .unitName offered found closed, rfl⟩
    · obtain ⟨-, -, -, -, opened⟩ := left
      have filled := unitFills_isSome d simple instanceSimple p
      rw [unitFills, instanceFills, opened] at filled
      cases filled
  · rintro ⟨_, refused, rfl⟩
    cases refused with
    | noUnitTemplate _ absent => exact Or.inl ⟨absent, rfl⟩
    | unitName _ found closed => exact Or.inr ⟨_, found, Or.inl ⟨closed, rfl⟩⟩

/-! ## Both classes -/

variable {settings : Settings} {token : UInt64} {u : GeneratedUnit}

theorem build_eq :
    build settings catalog d token =
      ((instanceClass catalog d (settings.packageFor d.package)
          (UnitPart.instances.className d token)).mapError
        (inUnit d (UnitPart.instances.className d token))).bind fun i =>
      ((unitClass catalog d (settings.packageFor d.package) (UnitPart.unit.className d token)
          (UnitPart.instances.className d token)).mapError
        (inUnit d (UnitPart.unit.className d token))).bind fun c =>
      .ok ⟨Naming.artifact (settings.packageFor d.package) (UnitPart.unit.className d token),
        d.dataType, c,
        ⟨Naming.artifact (settings.packageFor d.package) (UnitPart.instances.className d token), i,
          d.wirings⟩⟩ :=
  rfl

/-- The classes of a unit come from the templates that the catalog offers. -/
theorem shapes_of_build (built : build settings catalog d token = .ok u) :
    let package := settings.packageFor d.package
    let instanceName := UnitPart.instances.className d token
    let unitName := UnitPart.unit.className d token
    (∃ t, catalog.OffersInstances d t ∧
      u.instances.shape =
        { t.binding d with package := some package }.subst (instanceFills d instanceName).text) ∧
    ∃ t, catalog.OffersUnit t ∧
      u.shape =
        { t with package := some package }.subst (unitFills d unitName instanceName).text := by
  rw [build_eq] at built
  obtain ⟨i, hi, built⟩ := Except.bind_eq_ok_iff.1 built
  obtain ⟨c, hc, built⟩ := Except.bind_eq_ok_iff.1 built
  cases built
  exact ⟨instanceClass_eq_ok_iff.1 (Except.mapError_eq_ok_iff.1 hi),
    unitClass_eq_ok_iff.1 (Except.mapError_eq_ok_iff.1 hc)⟩

theorem exists_build_iff :
    (∃ u, build settings catalog d token = .ok u) ↔ catalog.Usable d := by
  constructor
  · rintro ⟨u, built⟩
    obtain ⟨⟨i, offered, -⟩, t, offered', -⟩ := shapes_of_build built
    exact ⟨⟨i, offered⟩, t, offered'⟩
  · rintro ⟨⟨i, offered⟩, t, offered'⟩
    rw [build_eq, instanceClass_eq_ok_iff.2 ⟨i, offered, rfl⟩,
      unitClass_eq_ok_iff.2 ⟨t, offered', rfl⟩]
    exact ⟨_, rfl⟩

theorem build_eq_error_iff :
    build settings catalog d token = .error e ↔
      ∃ part cause, catalog.Refuses d part cause ∧
        e = ⟨cause, some { rule := some d.dataType, artifact := some (part.className d token) }⟩ := by
  rw [build_eq, Except.bind_eq_error_iff]
  simp only [Except.bind_eq_error_iff, Except.mapError_eq_error_iff, Except.mapError_eq_ok_iff,
    instanceClass_eq_error_iff]
  constructor
  -- the third case is that both classes were built, after which nothing fails
  · rintro (⟨_, ⟨cause, refused, rfl⟩, rfl⟩ | ⟨i, hi, ⟨inner, failed, rfl⟩ | ⟨_, _, contra⟩⟩)
    · exact ⟨.instances, cause, refused, rfl⟩
    · obtain ⟨t, offered, -⟩ := instanceClass_eq_ok_iff.1 hi
      obtain ⟨cause, refused, rfl⟩ := (unitClass_eq_error_iff ⟨t, offered⟩).1 failed
      exact ⟨.unit, cause, refused, rfl⟩
    · cases contra
  · rintro ⟨part, cause, refused, rfl⟩
    cases part with
    | instances => exact Or.inl ⟨_, ⟨cause, refused, rfl⟩, rfl⟩
    | unit =>
        -- that the unit is refused here says that the class of its instances was built before
        obtain ⟨i, offered⟩ := refused.offered
        refine Or.inr ⟨_, instanceClass_eq_ok_iff.2 ⟨i, offered, rfl⟩,
          Or.inl ⟨(cause : Error), ?_, rfl⟩⟩
        exact (unitClass_eq_error_iff ⟨i, offered⟩).2 ⟨cause, refused, rfl⟩

end GeneratedUnit

/-! ## The built-in catalog -/

theorem Wiring.slots_statement (b : Wiring) : b.statement.expression.slots = [] := by
  cases b <;> rfl

/-- The binding statements bring no slots with them, so the built-in templates have no more slots
than they are filled for. -/
theorem Catalog.builtin_usable (d : UnitDescription) : Catalog.builtin.Usable d := by
  have statements : (d.wirings.map Wiring.statement).flatMap (·.expression.slots) = [] := by
    simp [List.flatMap_map, Wiring.slots_statement]
  have slots : (instanceClassTemplate.binding d).slots =
      [.className, .unitClass, .unitClass, .unitClass, .className, .className, .unitClass] ++
        ((d.wirings.map Wiring.statement).flatMap (·.expression.slots) ++ []) :=
    rfl
  refine ⟨⟨instanceClassTemplate, rfl, rfl, ⟨_, List.mem_singleton_self _, rfl⟩, ?_⟩,
    unitClassTemplate, rfl, rfl⟩
  intro p occurs
  rw [Template.mem_placeholders_iff, slots, statements] at occurs
  cases p <;> simp_all [Slot.OfInstances]

/-! ## Builders -/

namespace UnitBuilder

/-- A builder builds a unit exactly when its catalog is usable, which the built-in catalog always is.
It then answers two classes without placeholders.  Otherwise it answers the cause for which the
catalog refuses the unit, of which there is one, with the data type of the unit as the rule and with
the name of the class that was being built.  Either way it has drawn a token, and is as it was
otherwise. -/
theorem builds_from_usable (b : UnitBuilder) (d : UnitDescription) :
    let outcome := (b.build d).1
    let token := b.tokens.draw.1
    ((∃ u, outcome = .ok u) ↔ b.catalog.Usable d) ∧
    (b.catalog = Catalog.builtin → ∃ u, outcome = .ok u) ∧
    (∀ u, outcome = .ok u → u.shape.placeholders = [] ∧ u.instances.shape.placeholders = []) ∧
    (∀ e, outcome = .error e ↔
      ∃ part cause, b.catalog.Refuses d part cause ∧
        e = ⟨cause, some { rule := some d.dataType, artifact := some (part.className d token) }⟩) ∧
    (b.build d).2 = { b with tokens := b.tokens.draw.2 } := by
  intro outcome token
  have built : outcome = GeneratedUnit.build b.settings b.catalog d token := rfl
  have succeeds : (∃ u, outcome = .ok u) ↔ b.catalog.Usable d := GeneratedUnit.exists_build_iff
  refine ⟨succeeds, ?_, ?_, fun e => GeneratedUnit.build_eq_error_iff, rfl⟩
  · intro same
    exact succeeds.2 (same ▸ Catalog.builtin_usable d)
  · intro u answered
    obtain ⟨⟨i, -, instances⟩, t, -, unit⟩ := GeneratedUnit.shapes_of_build (built ▸ answered)
    rw [Template.placeholders_eq_nil_iff, Template.placeholders_eq_nil_iff, instances, unit]
    exact ⟨Template.slots_subst _ _, Template.slots_subst _ _⟩

end UnitBuilder
end RuleEngine
