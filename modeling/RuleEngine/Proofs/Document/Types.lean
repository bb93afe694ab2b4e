import RuleEngine.Document.Types
import RuleEngine.Proofs.Document.Compact

/-!
# Types and handles are read back

A type is written by its tag: the tag alone when the type has no parts, and otherwise an object whose
one member is named by the tag and holds the parts, in a list when there are several
(`Ty.toDocument_eq_tagged`).  The reader looks at the tag first, so the name of a fact, which stands
below its tag, may be the tag of another type.

Writing loses nothing, down to the text: a text that is written for a type or a handle is written for
no other one, and whatever is read off it is read back as the same type or handle.
-/

namespace RuleEngine

/-- What is tagged: the tag alone, or an object with one member of that name, for one part or for a
list of several. -/
def Document.tagged (tag : String) : List Document → Document
  | [] => .string tag
  | [part] => .object [(tag, part)]
  | parts => .object [(tag, .array parts)]

namespace Ty

def tag : Ty → String
  | nil => "Nil"
  | bool => "Bool"
  | int => "Int"
  | float => "Float"
  | string => "String"
  | handle => "Handle"
  | source => "Source"
  | any => "Any"
  | fact _ => "Fact"
  | vec _ => "Vec"
  | map _ _ => "Map"
  | option _ => "Option"

/-- What a type is made of, as documents: the name of a fact, or the types inside. -/
def parts : Ty → List Document
  | fact name => [.string name]
  | vec inner | option inner => [inner.toDocument]
  | map key value => [key.toDocument, value.toDocument]
  | _ => []

theorem toDocument_eq_tagged (t : Ty) : t.toDocument = .tagged t.tag t.parts := by
  cases t <;> rfl

theorem ofDocument?_toDocument (t : Ty) : ofDocument? t.toDocument = some t := by
  induction t with
  | vec element ih => simp [toDocument, ofDocument?, ih]
  | map key value ihk ihv => simp [toDocument, ofDocument?, ihk, ihv]
  | option inner ih => simp [toDocument, ofDocument?, ih]
  | _ => rfl

theorem compact_toDocument_inj {t u : Ty} :
    t.toDocument.compact = u.toDocument.compact ↔ t = u := by
  refine ⟨fun same => ?_, fun same => same ▸ rfl⟩
  have read := congrArg ofDocument? (Document.compact_injective same)
  rw [ofDocument?_toDocument, ofDocument?_toDocument] at read
  exact Option.some.inj read

end Ty

namespace Handle

theorem compact_toDocument_inj {h g : Handle} :
    h.toDocument.compact = g.toDocument.compact ↔ h = g := by
  refine ⟨fun same => ?_, fun same => same ▸ rfl⟩
  have written : h.toDocument = g.toDocument := Document.compact_injective same
  cases h
  cases g
  simpa [toDocument, Document.nat, Int.natCast_inj] using written

/-- A handle is read back when it fits its written form, and no other one is read in its place. -/
theorem ofDocument?_toDocument (h : Handle) :
    ofDocument? h.toDocument = if h.fits = true then some h else none := by
  have numbers : ofNumbers? (.nat h.id) (.nat h.partition) =
      if h.fits = true then some h else none := rfl
  simpa [ofDocument?, toDocument] using numbers

end Handle

namespace Document

/-- The text of a type is that of its tag and its parts.  Whatever is read off the text is read back
as the type, and types with one text are the same type.  So are handles, which are read back when
their number fits 64 bits and their partition 32. -/
theorem written_types_and_handles_read_back :
    (∀ t : Ty, t.toDocument = tagged t.tag t.parts ∧
      ∀ d : Document, d.compact = t.toDocument.compact → Ty.ofDocument? d = some t) ∧
    (∀ t u : Ty, t.toDocument.compact = u.toDocument.compact ↔ t = u) ∧
    (∀ (h : Handle) (d : Document), d.compact = h.toDocument.compact →
      Handle.ofDocument? d = if h.fits = true then some h else none) ∧
    ∀ h g : Handle, h.toDocument.compact = g.toDocument.compact ↔ h = g := by
  refine ⟨fun t => ⟨t.toDocument_eq_tagged, fun d same => ?_⟩,
    fun _ _ => Ty.compact_toDocument_inj, fun h d same => ?_,
    fun _ _ => Handle.compact_toDocument_inj⟩
  · rw [compact_injective same, Ty.ofDocument?_toDocument]
  · rw [compact_injective same, Handle.ofDocument?_toDocument]

/-- A type whose facts are called by the tags of other types. -/
def misleading : Ty :=
  .map (.option (.fact "Int")) (.vec (.map .int (.fact "Vec")))

/-- The greatest handle that fits its written form. -/
def lastHandle : Handle :=
  ⟨18446744073709551615, 4294967295⟩

theorem misleading_type_read_back :
    misleading.toDocument.compact =
      "\x7b\"Map\":[\x7b\"Option\":\x7b\"Fact\":\"Int\"\x7d\x7d," ++
      "\x7b\"Vec\":\x7b\"Map\":[\"Int\",\x7b\"Fact\":\"Vec\"\x7d]\x7d\x7d]\x7d" ∧
    Ty.ofDocument? misleading.toDocument = some misleading ∧
    Handle.ofDocument? lastHandle.toDocument = some lastHandle ∧
    Handle.ofDocument? (Handle.toDocument ⟨18446744073709551616, 0⟩) = none := by
  obtain ⟨types, -, handles, -⟩ := written_types_and_handles_read_back
  exact ⟨by decide +kernel, (types misleading).2 _ rfl, handles lastHandle _ rfl,
    handles ⟨18446744073709551616, 0⟩ _ rfl⟩

end Document
end RuleEngine
