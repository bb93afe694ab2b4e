import RuleEngine.Proofs.Ty.Acceptance

/-!
# Types with unknown parts

The collections of a running program do not know the types of their parts, so acceptance takes
unknown parts on trust: where a type is accepted, it should be accepted as well once some of its
parts are unknown.

For vectors this is so, and for maps as long as key and value are unknown together.  A map of which
just one part is unknown is not taken on trust: the unknown part is compared as any other one, and
nothing that asks something of a value accepts the unknown type.  `HalfUnknown` finds such maps, and
no other unknown part is ever in the way.
-/

namespace RuleEngine
namespace Ty

/-! ## Forgetting parts -/

/-- A turn on the way from a type to one of its parts. -/
inductive Turn where
  | element
  | key
  | value
  | inner
deriving DecidableEq

/-- A set of places in a type.  A place is given by the way to it. -/
abbrev Places := List Turn → Bool

namespace Places

/-- The places behind a turn. -/
def after (places : Places) (turn : Turn) : Places :=
  fun way => places (turn :: way)

/-- Whether the key and the value of a map are in the set together or not at all. -/
def Even (places : Places) : Prop :=
  ∀ way, places (way ++ [.key]) = places (way ++ [.value])

theorem Even.after {places : Places} (even : places.Even) (turn : Turn) : (places.after turn).Even :=
  fun way => even (turn :: way)

end Places

/-- A type with the parts at some places made unknown: elements of vectors, and keys and values of
maps, at any depth. -/
def forget (places : Places) : Ty → Ty
  | vec element =>
    vec (if places [.element] then any else element.forget (places.after .element))
  | map key value =>
    map (if places [.key] then any else key.forget (places.after .key))
      (if places [.value] then any else value.forget (places.after .value))
  | option inner => option (inner.forget (places.after .inner))
  | t => t

theorem forget_of_plain {t : Ty} (plain : t.isPlain = true) (places : Places) :
    t.forget places = t := by
  cases t with
  | any | option | vec | map => cases plain
  | _ => rfl

theorem forget_vec_any (places : Places) : (vec any).forget places = vec any := by
  simp [forget]

theorem forget_map_any (places : Places) : (map any any).forget places = map any any := by
  simp [forget]

/-! ## Types that ask nothing -/

/-- Whether a type takes every value. -/
def takesAll : Ty → Bool
  | any => true
  | option inner => inner.takesAll
  | _ => false

variable {declared actual key key' value value' : Ty} {places : Places}

/-- The unknown type is accepted only where nothing is asked. -/
theorem accepts_any_eq_takesAll (t : Ty) : t.accepts any = t.takesAll := by
  induction t with
  | option inner ih => exact ih
  | _ => rfl

/-! ## Maps with one unknown part -/

/-- Somewhere a declared map meets a map of which just one part is unknown, and asks something of
this part. -/
inductive HalfUnknown : Ty → Ty → Prop where
  | key {key value value' : Ty} (asked : key.takesAll = false) (known : value' ≠ any) :
      HalfUnknown (map key value) (map any value')
  | value {key key' value : Ty} (asked : value.takesAll = false) (known : key' ≠ any) :
      HalfUnknown (map key value) (map key' any)
  | inKey {key key' : Ty} (value value' : Ty) :
      HalfUnknown key key' → HalfUnknown (map key value) (map key' value')
  | inValue (key key' : Ty) {value value' : Ty} :
      HalfUnknown value value' → HalfUnknown (map key value) (map key' value')
  | element {element element' : Ty} :
      HalfUnknown element element' → HalfUnknown (vec element) (vec element')
  | inner {inner actual : Ty} : HalfUnknown inner actual → HalfUnknown (option inner) actual

theorem HalfUnknown.ne_any (half : HalfUnknown declared actual) : actual ≠ any := by
  induction half with
  | inner _ ih => exact ih
  | _ => nofun

theorem HalfUnknown.ne_nil (half : HalfUnknown declared actual) : actual ≠ nil := by
  induction half with
  | inner _ ih => exact ih
  | _ => nofun

theorem HalfUnknown.not_accepts (half : HalfUnknown declared actual) :
    ¬ declared.accepts actual = true := by
  -- a collection would be accepted for its unknown parts or part by part, and neither is so
  induction half with
  | key asked known =>
      intro accepted
      rcases accepts_map_eq_true_iff.1 accepted with ⟨-, unknown⟩ | ⟨taken, -⟩
      · exact known unknown
      · simp [accepts_any_eq_takesAll, asked] at taken
  | value asked known =>
      intro accepted
      rcases accepts_map_eq_true_iff.1 accepted with ⟨unknown, -⟩ | ⟨-, taken⟩
      · exact known unknown
      · simp [accepts_any_eq_takesAll, asked] at taken
  | inKey value value' half ih =>
      intro accepted
      rcases accepts_map_eq_true_iff.1 accepted with ⟨unknown, -⟩ | ⟨taken, -⟩
      · exact half.ne_any unknown
      · exact ih taken
  | inValue key key' half ih =>
      intro accepted
      rcases accepts_map_eq_true_iff.1 accepted with ⟨-, unknown⟩ | ⟨-, taken⟩
      · exact half.ne_any unknown
      · exact ih taken
  | element half ih =>
      intro accepted
      rcases accepts_vec_eq_true_iff.1 accepted with unknown | taken
      · exact half.ne_any unknown
      · exact ih taken
  | inner half ih =>
      intro accepted
      rcases accepts_option_eq_true_iff.1 accepted with absent | taken
      · exact half.ne_nil absent
      · exact ih taken

/-! ## What forgetting does to acceptance -/

theorem Accepts.of_takesAll (taken : declared.takesAll = true) : Accepts declared .any :=
  .of_accepts ((accepts_any_eq_takesAll declared).trans taken)

/-- Maps whose parts are unknown, accepted or half unknown are accepted or half unknown. -/
theorem entries_or_half (hkey : key' = any ∨ Accepts key key' ∨ HalfUnknown key key')
    (hvalue : value' = any ∨ Accepts value value' ∨ HalfUnknown value value') :
    Accepts (map key value) (map key' value') ∨ HalfUnknown (map key value) (map key' value') := by
  -- an unknown part next to a known one is accepted if nothing is asked of it, else half unknown
  by_cases no_key : key' = any
  · subst no_key
    by_cases no_value : value' = any
    · exact Or.inl (no_value ▸ .unknownEntries key value)
    · rcases hvalue.resolve_left no_value with taken | half
      · cases asked : key.takesAll with
        | true => exact Or.inl (.entries (.of_takesAll asked) taken)
        | false => exact Or.inr (.key asked no_value)
      · exact Or.inr (.inValue key any half)
  · rcases hkey.resolve_left no_key with taken | half
    · by_cases no_value : value' = any
      · subst no_value
        cases asked : value.takesAll with
        | true => exact Or.inl (.entries taken (.of_takesAll asked))
        | false => exact Or.inr (.value asked no_key)
      · rcases hvalue.resolve_left no_value with taken' | half
        · exact Or.inl (.entries taken taken')
        · exact Or.inr (.inValue key key' half)
    · exact Or.inr (.inKey value value' half)

/-- With unknown parts, what was accepted is accepted still, or it is half unknown somewhere; and it
is not if keys and values are made unknown together. -/
theorem Accepts.forget_or_half (h : Accepts declared actual) (places : Places) :
    Accepts declared (actual.forget places) ∨
      HalfUnknown declared (actual.forget places) ∧ ¬ places.Even := by
  induction h generalizing places with
  | any actual => exact Or.inl (.any _)
  | absent inner => exact Or.inl (.absent inner)
  | present _ ih => exact (ih places).imp .present (And.imp_left .inner)
  | same plain => exact Or.inl ((forget_of_plain plain places).symm ▸ .same plain)
  | promoted => exact Or.inl .promoted
  | unknownElements element =>
      exact Or.inl ((forget_vec_any places).symm ▸ .unknownElements element)
  | elements _ ih =>
      simp only [forget]
      split
      · exact Or.inl (.unknownElements _)
      · apply (ih (places.after .element)).imp .elements
        exact And.imp .element fun uneven even => uneven (even.after .element)
  | unknownEntries key value =>
      exact Or.inl ((forget_map_any places).symm ▸ .unknownEntries key value)
  | entries _ _ ihk ihv =>
      have outcome_key := ihk (places.after .key)
      have outcome_value := ihv (places.after .value)
      by_cases together : places [.key] = places [.value]
      · simp only [forget, together]
        split
        · exact Or.inl (.unknownEntries _ _)
        -- both parts are still there, so what is half unknown is inside one of them
        · rcases outcome_key with taken | ⟨half, uneven⟩
          · rcases outcome_value with taken' | ⟨half, uneven⟩
            · exact Or.inl (.entries taken taken')
            · exact Or.inr ⟨.inValue _ _ half, fun even => uneven (even.after .value)⟩
          · exact Or.inr ⟨.inKey _ _ half, fun even => uneven (even.after .key)⟩
      -- one part goes and one stays, so the map may itself be half unknown
      · have uneven : ¬ places.Even := fun even => together (even [])
        apply Or.imp_right fun half => And.intro half uneven
        apply entries_or_half
        · split
          · exact Or.inl rfl
          · exact Or.inr (outcome_key.imp_right And.left)
        · split
          · exact Or.inl rfl
          · exact Or.inr (outcome_value.imp_right And.left)

/-- Where a type is accepted, it is accepted as well with any of its parts unknown, unless there is
then a map of which just one part is unknown and of which this part is asked about.  So it is if key
and value of each map are unknown together or not at all, and in particular if only elements of
vectors are unknown. -/
theorem unknown_parts_accepted_unless_half (declared actual : Ty) (places : Places)
    (accepted : declared.accepts actual = true) :
    (declared.accepts (actual.forget places) = true ↔
      ¬ HalfUnknown declared (actual.forget places)) ∧
    (places.Even → declared.accepts (actual.forget places) = true) := by
  have outcome := (Accepts.of_accepts accepted).forget_or_half places
  refine ⟨⟨fun taken half => half.not_accepts taken, fun whole => ?_⟩, fun even => ?_⟩
  · exact (outcome.resolve_right fun half => whole half.1).accepts_eq_true
  · exact (outcome.resolve_right fun half => half.2 even).accepts_eq_true

/-- Records of numbers by name. -/
def records : Ty :=
  vec (map string (vec int))

/-- The names are unknown. -/
def namesUnknown : Places :=
  fun way => way = [.element, .key]

/-- The names and what stands under them are unknown. -/
def recordsUnknown : Places :=
  fun way => way.dropLast = [.element]

theorem records_without_names_refused :
    records.accepts records = true ∧
      (records.forget namesUnknown = vec (map any (vec int)) ∧
        HalfUnknown records (records.forget namesUnknown) ∧
        records.accepts (records.forget namesUnknown) = false) ∧
      (records.forget recordsUnknown = vec (map any any) ∧
        recordsUnknown.Even ∧
        records.accepts (records.forget recordsUnknown) = true) := by
  have accepted : records.accepts records = true := rfl
  have half : HalfUnknown records (records.forget namesUnknown) := .element (.key rfl nofun)
  have even : recordsUnknown.Even := by
    intro way
    simp [recordsUnknown]
  refine ⟨accepted, ⟨rfl, half, ?_⟩, rfl, even, ?_⟩
  · have outcome := (unknown_parts_accepted_unless_half records records namesUnknown accepted).1
    exact Bool.eq_false_iff.2 fun taken => outcome.1 taken half
  · exact (unknown_parts_accepted_unless_half records records recordsUnknown accepted).2 even

end Ty
end RuleEngine
