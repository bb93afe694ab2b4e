import RuleEngine.Value.Basic

/-!
# Accepted types have accepted values

One type accepts another, and a value fits a type if the type accepts that of the value.  The relation
behind both is given here by rules, `Accepts`, one for each way in which a type may be accepted.

It is neither reflexive nor transitive.  An optional type accepts what the type inside it accepts, so
it does not accept itself in general; and a vector of unknown elements accepts every vector and is
accepted by every vector type, whatever their elements.  Yet whatever fits an accepted type fits the
type that accepts it: a value reports its collections with unknown elements, and of such a type a
collection asks no more than that it is a collection.
-/

namespace RuleEngine
namespace Ty

/-! ## The rules of acceptance -/

/-- Whether a type has no parts and accepts itself. -/
def isPlain : Ty → Bool
  | any | option _ | vec _ | map _ _ => false
  | _ => true

/-- The rules by which a declared type accepts the type of a value. -/
inductive Accepts : Ty → Ty → Prop where
  | any (actual : Ty) : Accepts any actual
  | absent (inner : Ty) : Accepts (option inner) nil
  | present {inner actual : Ty} : Accepts inner actual → Accepts (option inner) actual
  | same {t : Ty} (plain : t.isPlain = true) : Accepts t t
  | promoted : Accepts float int
  | unknownElements (element : Ty) : Accepts (vec element) (vec .any)
  | elements {element element' : Ty} :
      Accepts element element' → Accepts (vec element) (vec element')
  | unknownEntries (key value : Ty) : Accepts (map key value) (map .any .any)
  | entries {key key' value value' : Ty} :
      Accepts key key' → Accepts value value' → Accepts (map key value) (map key' value')

variable {declared actual inner : Ty}

theorem isAny_eq_true_iff {t : Ty} : t.isAny = true ↔ t = any := by
  cases t with
  | any => exact ⟨fun _ => rfl, fun _ => rfl⟩
  | _ => exact ⟨nofun, nofun⟩

theorem accepts_option_eq_true_iff :
    (option inner).accepts actual = true ↔ actual = nil ∨ inner.accepts actual = true := by
  cases actual with
  | nil => exact ⟨fun _ => Or.inl rfl, fun _ => rfl⟩
  | _ => exact ⟨Or.inr, fun h => h.resolve_left nofun⟩

theorem accepts_vec_eq_true_iff {element element' : Ty} :
    (vec element).accepts (vec element') = true ↔
      element' = any ∨ element.accepts element' = true := by
  have parts : (vec element).accepts (vec element') = (element'.isAny || element.accepts element') :=
    rfl
  simp only [parts, Bool.or_eq_true, isAny_eq_true_iff]

theorem accepts_map_eq_true_iff {key key' value value' : Ty} :
    (map key value).accepts (map key' value') = true ↔
      (key' = any ∧ value' = any) ∨
        (key.accepts key' = true ∧ value.accepts value' = true) := by
  have parts : (map key value).accepts (map key' value') =
      ((key'.isAny && value'.isAny) || (key.accepts key' && value.accepts value')) := rfl
  simp only [parts, Bool.or_eq_true, Bool.and_eq_true, isAny_eq_true_iff]

theorem eq_or_promoted_of_plain (plain : declared.isPlain = true)
    (h : declared.accepts actual = true) :
    actual = declared ∨ (declared = float ∧ actual = int) := by
  cases declared with
  | any | option | vec | map => cases plain
  | fact name =>
      cases actual with
      | fact name' => exact Or.inl (congrArg fact (eq_of_beq h).symm)
      | _ => cases h
  | float =>
      cases actual with
      | float => exact Or.inl rfl
      | int => exact Or.inr ⟨rfl, rfl⟩
      | _ => cases h
  | _ =>
      cases actual <;> first | exact Or.inl rfl | cases h

theorem Accepts.accepts_eq_true (h : Accepts declared actual) :
    declared.accepts actual = true := by
  induction h with
  | any actual => rfl
  | absent inner => exact accepts_option_eq_true_iff.2 (Or.inl rfl)
  | present _ ih => exact accepts_option_eq_true_iff.2 (Or.inr ih)
  | @same t plain =>
      cases t with
      | any | option | vec | map => cases plain
      | fact name => exact beq_self_eq_true name
      | _ => rfl
  | promoted => rfl
  | unknownElements element => exact accepts_vec_eq_true_iff.2 (Or.inl rfl)
  | elements _ ih => exact accepts_vec_eq_true_iff.2 (Or.inr ih)
  | unknownEntries key value => exact accepts_map_eq_true_iff.2 (Or.inl ⟨rfl, rfl⟩)
  | entries _ _ ihk ihv => exact accepts_map_eq_true_iff.2 (Or.inr ⟨ihk, ihv⟩)

theorem Accepts.of_accepts (h : declared.accepts actual = true) : Accepts declared actual := by
  -- `accepts` recurs on the declared type; below an optional type the actual one stays whole
  induction declared generalizing actual with
  | any => exact .any actual
  | option inner ih =>
      rcases accepts_option_eq_true_iff.1 h with rfl | h
      · exact .absent inner
      · exact .present (ih h)
  | vec element ih =>
      cases actual with
      | vec element' =>
          rcases accepts_vec_eq_true_iff.1 h with rfl | h
          · exact .unknownElements element
          · exact .elements (ih h)
      | _ => cases h
  | map key value ihk ihv =>
      cases actual with
      | map key' value' =>
          rcases accepts_map_eq_true_iff.1 h with ⟨rfl, rfl⟩ | ⟨hk, hv⟩
          · exact .unknownEntries key value
          · exact .entries (ihk hk) (ihv hv)
      | _ => cases h
  | _ =>
      rcases eq_or_promoted_of_plain rfl h with rfl | ⟨to_float, rfl⟩
      · exact .same rfl
      · exact to_float ▸ .promoted

example : (vec int).accepts (vec any) ∧ (vec any).accepts (vec string) ∧
    ¬ (vec int).accepts (vec string) := by
  decide

end Ty

/-! ## What fits a type -/

namespace Value

open Ty (Accepts)

variable {v : Value} {declared actual : Ty}

theorem type_eq_nil_iff : v.type = .nil ↔ v = nil := by
  cases v with
  | nil => exact ⟨fun _ => rfl, fun _ => rfl⟩
  | _ => exact ⟨nofun, nofun⟩

theorem fits_nil_iff : v.fits .nil = true ↔ v = nil := by
  cases v with
  | nil => exact ⟨fun _ => rfl, fun _ => rfl⟩
  | _ => exact ⟨nofun, nofun⟩

theorem fits_option_iff {inner : Ty} :
    v.fits (.option inner) = true ↔ v = nil ∨ v.fits inner = true := by
  simp only [fits, Ty.accepts_option_eq_true_iff, type_eq_nil_iff]

/-- A vector fits the vector types, whatever their elements, and nothing else does. -/
theorem fits_vec_iff {element : Ty} : v.fits (.vec element) = true ↔ v.type = .vec .any := by
  cases v with
  | vec items => exact ⟨fun _ => rfl, fun _ => rfl⟩
  | _ => exact ⟨nofun, nofun⟩

/-- A map fits the map types, whatever their entries, and nothing else does. -/
theorem fits_map_iff {key value : Ty} :
    v.fits (.map key value) = true ↔ v.type = .map .any .any := by
  cases v with
  | map entries => exact ⟨fun _ => rfl, fun _ => rfl⟩
  | _ => exact ⟨nofun, nofun⟩

theorem fits_float_of_int (h : v.fits .int = true) : v.fits .float = true := by
  cases v with
  | int | float => rfl
  | _ => cases h

theorem fits_of_accepts (h : Accepts declared actual) (fitting : v.fits actual = true) :
    v.fits declared = true := by
  induction h with
  | any actual => rfl
  | absent inner => exact fits_option_iff.2 (Or.inl (fits_nil_iff.1 fitting))
  | present _ ih => exact fits_option_iff.2 (Or.inr (ih fitting))
  | same plain => exact fitting
  | promoted => exact fits_float_of_int fitting
  -- the parts of the two types do not matter to a collection
  | unknownElements | elements => exact fits_vec_iff.2 (fits_vec_iff.1 fitting)
  | unknownEntries | entries => exact fits_map_iff.2 (fits_map_iff.1 fitting)

end Value

namespace Ty

/-- Whatever fits a type fits every type that accepts it, through any nesting of optional types,
collections, numbers and types that take anything; and nil fits exactly the types that allow it. -/
theorem accepted_values_fit :
    (∀ declared actual : Ty, declared.accepts actual = true →
      ∀ v : Value, v.fits actual = true → v.fits declared = true) ∧
    ∀ t : Ty, Value.nil.fits t = true ↔ t.allowsNil = true := by
  constructor
  · intro declared actual accepted v fitting
    exact Value.fits_of_accepts (Accepts.of_accepts accepted) fitting
  · intro t
    cases t with
    | any | nil | option => exact ⟨fun _ => rfl, fun _ => rfl⟩
    | _ => exact ⟨nofun, nofun⟩

/-- A vector that fits the vectors of integers, although not all of its items are integers. -/
def mixedItems : Value :=
  .vec [.string "a", .int 1]

theorem mixed_items_fit :
    accepts (.option (.vec (.option .float))) (.vec .int) = true ∧
      mixedItems.fits (.vec .int) = true ∧
      mixedItems.fits (.option (.vec (.option .float))) = true ∧
      (Value.nil.fits (.option (.vec .int)) = true ↔ allowsNil (.option (.vec .int)) = true) := by
  have accepted : accepts (.option (.vec (.option .float))) (.vec .int) = true := rfl
  exact ⟨accepted, rfl, accepted_values_fit.1 _ _ accepted mixedItems rfl, accepted_values_fit.2 _⟩

end Ty
end RuleEngine
