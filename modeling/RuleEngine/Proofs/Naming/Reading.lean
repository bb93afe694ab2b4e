import RuleEngine.Proofs.Results
import RuleEngine.Rule.Consequence
import RuleEngine.RuleUnit.Generated

/-!
# Reading generated names

Packages, rules and units may be called anything, and two rules may well look the same once their
names are made identifiers.  What tells the names of generated artifacts apart stands at their end:
the last number in a name is the token, and the character before that number shows of what kind the
artifact is.  After the token come no more digits.

So kind and token can be read back from a name, whatever stands before them, and artifacts that share
a name are of one kind and carry one token.
-/

namespace RuleEngine
namespace Naming

/-! ## Artifacts -/

/-- The kinds of generated artifacts. -/
inductive Kind where
  | consequence
  | unit
  | instances
deriving DecidableEq

namespace Kind

/-- The character before the token in the names of a kind. -/
def mark : Kind → Char
  | consequence => '_'
  | unit => 't'
  | instances => 'e'

def ofMark? : Char → Option Kind
  | '_' => some consequence
  | 't' => some unit
  | 'e' => some instances
  | _ => none

theorem ofMark?_mark (kind : Kind) : ofMark? kind.mark = some kind := by
  cases kind <;> rfl

theorem isDigit_mark (kind : Kind) : kind.mark.isDigit = false := by
  cases kind <;> rfl

end Kind

/-- A generated artifact, as far as its names tell: its package, the rule or the unit that it is
generated for, and its token. -/
structure Artifact where
  kind : Kind
  package : String
  subject : String
  token : UInt64

def GeneratedName.texts (n : GeneratedName) : List String :=
  [n.simple, n.qualified, n.path]

/-- The names of an artifact.  A class has a simple name, a qualified one and a path; a consequence
has one name, which is qualified. -/
def Artifact.names (a : Artifact) : List String :=
  match a.kind with
  | .consequence => [invoker a.package a.subject a.token]
  | .unit => (artifact a.package (unitClass a.subject a.token)).texts
  | .instances => (artifact a.package (instanceClass a.subject a.token)).texts

/-! ## The last number in a text -/

/-- The last number in a text, with the character before it. -/
def lastNumber? (text : String) : Option (Char × Nat) :=
  let tail := text.toList.reverse.dropWhile (!·.isDigit)
  (tail.dropWhile Char.isDigit).head?.map fun mark =>
    (mark, Nat.ofDigitChars 10 (tail.takeWhile Char.isDigit).reverse 0)

/-- A number stands in a text, behind a mark and with no digit after it. -/
def EndsIn (mark : Char) (n : Nat) (text : String) : Prop :=
  ∃ before after : List Char,
    text.toList = before ++ mark :: (Nat.toDigits 10 n ++ after) ∧ ∀ c ∈ after, c.isDigit = false

variable {mark : Char} {n : Nat} {text : String}

theorem EndsIn.prepend (ends : EndsIn mark n text) (front : String) :
    EndsIn mark n (front ++ text) := by
  rcases ends with ⟨before, after, shape, no_digits⟩
  refine ⟨front.toList ++ before, after, ?_, no_digits⟩
  simp [shape]

theorem EndsIn.append (ends : EndsIn mark n text) {back : String}
    (plain : ∀ c ∈ back.toList, c.isDigit = false) : EndsIn mark n (text ++ back) := by
  rcases ends with ⟨before, after, shape, no_digits⟩
  refine ⟨before, after ++ back.toList, by simp [shape], ?_⟩
  intro c hc
  rcases List.mem_append.1 hc with hc | hc
  · exact no_digits c hc
  · exact plain c hc

theorem isDigit_of_mem_digits {c : Char} (hc : c ∈ (Nat.toDigits 10 n).reverse) :
    c.isDigit = true :=
  Nat.isDigit_of_mem_toDigits (by decide) (by decide) (List.mem_reverse.1 hc)

/-- A number behind a mark that is no digit is read as the last one. -/
theorem EndsIn.lastNumber?_eq (ends : EndsIn mark n text) (no_digit : mark.isDigit = false) :
    lastNumber? text = some (mark, n) := by
  rcases ends with ⟨before, after, shape, no_digits⟩
  let digits := (Nat.toDigits 10 n).reverse
  have tail : text.toList.reverse.dropWhile (!·.isDigit) = digits ++ mark :: before.reverse := by
    have skipped : ∀ c ∈ after.reverse, (!c.isDigit) = true := by
      intro c hc
      simp [no_digits c (List.mem_reverse.1 hc)]
    have stops : (digits ++ mark :: before.reverse).dropWhile (!·.isDigit) =
        digits ++ mark :: before.reverse := by
      -- the digits are at least one
      cases first : digits with
      | nil => exact absurd (List.reverse_eq_nil_iff.1 first) Nat.toDigits_ne_nil
      | cons c rest =>
          have digit : c.isDigit = true := isDigit_of_mem_digits (first ▸ List.mem_cons_self)
          simp [digit]
    calc
      text.toList.reverse.dropWhile (!·.isDigit)
          = (after.reverse ++ (digits ++ mark :: before.reverse)).dropWhile (!·.isDigit) := by
            simp [shape, digits]
      _ = (digits ++ mark :: before.reverse).dropWhile (!·.isDigit) :=
            List.dropWhile_append_of_pos skipped
      _ = digits ++ mark :: before.reverse := stops
  have all_digits : ∀ c ∈ digits, c.isDigit = true := fun _ => isDigit_of_mem_digits
  have taken : (digits ++ mark :: before.reverse).takeWhile Char.isDigit = digits := by
    simp [List.takeWhile_append_of_pos all_digits, no_digit]
  have left : (digits ++ mark :: before.reverse).dropWhile Char.isDigit = mark :: before.reverse := by
    simp [List.dropWhile_append_of_pos all_digits, no_digit]
  simp [lastNumber?, tail, taken, left, digits, Nat.ofDigitChars_toDigits]

/-! ## Names of artifacts -/

theorem endsIn_invoker (package rule : String) (token : UInt64) :
    EndsIn Kind.consequence.mark token.toNat (invoker package rule token) := by
  refine ⟨package.toList ++ ".Rule_".toList ++ (identifier rule).toList,
    "ConsequenceInvoker".toList, ?_, by simp⟩
  show (package ++ ".Rule_" ++ identifier rule ++
    ("_" ++ token.toNat.repr ++ "ConsequenceInvoker")).toList = _
  simp [Kind.mark]

theorem endsIn_unitClass (unit : String) (token : UInt64) :
    EndsIn Kind.unit.mark token.toNat (unitClass unit token) := by
  refine ⟨unit.toList ++ "RuleUni".toList, [], ?_, nofun⟩
  show (unit ++ ("RuleUnit" ++ token.toNat.repr)).toList = _
  simp [Kind.mark]

theorem endsIn_instanceClass (unit : String) (token : UInt64) :
    EndsIn Kind.instances.mark token.toNat (instanceClass unit token) := by
  refine ⟨unit.toList ++ "RuleUnitInstanc".toList, [], ?_, nofun⟩
  show (unit ++ ("RuleUnitInstance" ++ token.toNat.repr)).toList = _
  simp [Kind.mark]

/-- All names of a class end as its simple name does, but for what follows the token. -/
theorem EndsIn.of_mem_texts {package simple name : String} (ends : EndsIn mark n simple)
    (named : name ∈ (artifact package simple).texts) : EndsIn mark n name := by
  have path (front : String) : EndsIn mark n (front ++ (simple ++ ".rs")) :=
    (ends.append (by simp)).prepend front
  simp only [GeneratedName.texts, artifact, List.mem_cons, List.not_mem_nil, or_false] at named
  rcases named with rfl | rfl | rfl
  · exact ends
  · unfold qualified
    split
    · exact ends
    · exact ends.prepend _
  · split
    · simpa using path ""
    · simpa [String.append_assoc] using path (directory package ++ "/")

/-- Every name of an artifact ends in its token, behind the mark of its kind. -/
theorem Artifact.endsIn_of_mem {a : Artifact} {name : String} (named : name ∈ a.names) :
    EndsIn a.kind.mark a.token.toNat name := by
  rcases a with ⟨kind, package, subject, token⟩
  cases kind with
  | consequence =>
      rcases List.mem_singleton.1 named with rfl
      exact endsIn_invoker package subject token
  | unit => exact (endsIn_unitClass subject token).of_mem_texts named
  | instances => exact (endsIn_instanceClass subject token).of_mem_texts named

/-- The kind and the token that a name shows. -/
def read? (name : String) : Option (Kind × Nat) :=
  (lastNumber? name).bind fun (mark, number) => (Kind.ofMark? mark).map (·, number)

theorem Artifact.read?_of_mem {a : Artifact} {name : String} (named : name ∈ a.names) :
    read? name = some (a.kind, a.token.toNat) := by
  have last : lastNumber? name = some (a.kind.mark, a.token.toNat) :=
    (Artifact.endsIn_of_mem named).lastNumber?_eq a.kind.isDigit_mark
  simp [read?, last, Kind.ofMark?_mark]

/-! ## Identifiers -/

/-- Whether a text is made of ASCII letters, ASCII digits and underscores and does not start with a
digit. -/
def isIdentifier (text : String) : Bool :=
  text.toList.head?.any (fun c => c.isAlpha || c = '_') &&
    text.toList.all fun c => c.isAlphanum || c = '_'

/-- The name of a consequence, without its package and the dot after it. -/
def invokerSimple (rule : String) (token : UInt64) : String :=
  "Rule_" ++ (identifier rule ++ "_" ++ token.toNat.repr ++ "ConsequenceInvoker")

theorem invoker_eq (package rule : String) (token : UInt64) :
    invoker package rule token = package ++ "." ++ invokerSimple rule token := by
  show package ++ ".Rule_" ++ identifier rule ++
    ("_" ++ token.toNat.repr ++ "ConsequenceInvoker") = _
  simp [invokerSimple, ← String.toList_inj]

theorem isIdentifier_invokerSimple (rule : String) (token : UInt64) :
    isIdentifier (invokerSimple rule token) = true := by
  have subject : ∀ c ∈ (identifier rule).toList, (c.isAlphanum || c = '_') = true := by
    intro c hc
    simp only [identifier, String.toList_ofList, List.mem_map] at hc
    rcases hc with ⟨d, -, rfl⟩
    by_cases plain : d.isAlphanum <;> simp [plain]
  have digits : ∀ c ∈ Nat.toDigits 10 token.toNat, (c.isAlphanum || c = '_') = true := by
    intro c hc
    simp [Char.isAlphanum, isDigit_of_mem_digits (List.mem_reverse.2 hc)]
  have starts : (invokerSimple rule token).toList.head? = some 'R' := by
    simp [invokerSimple]
  have plain : ((invokerSimple rule token).toList.all fun c => c.isAlphanum || c = '_') = true := by
    simp only [invokerSimple, String.toList_append, Nat.toList_repr, List.all_append,
      List.all_eq_true.2 subject, List.all_eq_true.2 digits]
    decide
  simp only [isIdentifier, starts, plain]
  decide

end Naming

/-! ## What is built -/

open Naming

/-- The classes of a unit have all the names that their artifacts have. -/
theorem GeneratedUnit.texts_of_build {settings : Settings} {catalog : Catalog} {d : UnitDescription}
    {token : UInt64} {u : GeneratedUnit} (built : build settings catalog d token = .ok u) :
    u.name.texts = (Artifact.mk .unit (settings.packageFor d.package) d.name token).names ∧
      u.instances.name.texts =
        (Artifact.mk .instances (settings.packageFor d.package) d.name token).names := by
  rcases Except.bind_eq_ok_iff.1 built with ⟨instances, -, built⟩
  rcases Except.bind_eq_ok_iff.1 built with ⟨shape, -, built⟩
  cases built
  exact ⟨rfl, rfl⟩

namespace Naming

/-- Whatever packages, rules and units are called, and whatever tokens they carry:

* every name of an artifact, be it simple, qualified or a path, shows its kind and its token;
* so two artifacts that share a name are of one kind and carry one token;
* the name drawn for a rule, and all names of the classes built for a unit, are names of artifacts
  that carry the token drawn for them;
* what follows the package in the name of a consequence is an identifier that starts with `Rule_`. -/
theorem names_reveal_kind_and_token :
    (∀ a : Artifact, ∀ name ∈ a.names, read? name = some (a.kind, a.token.toNat)) ∧
    (∀ a b : Artifact, (∃ name ∈ a.names, name ∈ b.names) → a.kind = b.kind ∧ a.token = b.token) ∧
    (∀ (settings : Settings) (rule : Rule) (tokens : TokenStream),
      let a : Artifact :=
        ⟨.consequence, settings.packageFor rule.package, rule.name, tokens.draw.1⟩
      a.names = [(Consequence.drawName settings rule tokens).1]) ∧
    (∀ (settings : Settings) (catalog : Catalog) (d : UnitDescription) (token : UInt64) u,
      GeneratedUnit.build settings catalog d token = .ok u →
        let package := settings.packageFor d.package
        u.name.texts = (Artifact.mk .unit package d.name token).names ∧
          u.instances.name.texts = (Artifact.mk .instances package d.name token).names) ∧
    ∀ (package rule : String) (token : UInt64), ∃ rest,
      invoker package rule token = package ++ "." ++ ("Rule_" ++ rest) ∧
        isIdentifier ("Rule_" ++ rest) = true := by
  refine ⟨fun a name named => Artifact.read?_of_mem named, ?_, fun _ _ _ => rfl,
    fun _ _ _ _ _ built => GeneratedUnit.texts_of_build built, ?_⟩
  · rintro a b ⟨name, of_a, of_b⟩
    have same : some (a.kind, a.token.toNat) = some (b.kind, b.token.toNat) :=
      calc
        some (a.kind, a.token.toNat) = read? name := (Artifact.read?_of_mem of_a).symm
        _ = some (b.kind, b.token.toNat) := Artifact.read?_of_mem of_b
    have ⟨kinds, tokens⟩ := Prod.mk.inj (Option.some.inj same)
    exact ⟨kinds, UInt64.toNat_inj.1 tokens⟩
  · intro package rule token
    exact ⟨_, invoker_eq package rule token, isIdentifier_invokerSimple rule token⟩

/-- A unit in a package, and a unit of the qualified name of the first in no package. -/
theorem dotted_unit_shares_name :
    let inside : Artifact := ⟨.unit, "shop", "OrderRuleUnit1", 23⟩
    let dotted : Artifact := ⟨.unit, "", "shop.OrderRuleUnit1", 23⟩
    let name := "shop.OrderRuleUnit1RuleUnit23"
    (name ∈ inside.names ∧ name ∈ dotted.names) ∧
      read? name = some (.unit, 23) ∧
      (inside.kind = dotted.kind ∧ inside.token = dotted.token) ∧
      ∃ u, GeneratedUnit.build {} Catalog.builtin (.ofName "shop" "OrderRuleUnit1") 23 = .ok u ∧
        u.name.texts = inside.names := by
  intro inside dotted name
  rcases names_reveal_kind_and_token with ⟨shown, shared, -, built, -⟩
  have of_inside : name ∈ inside.names := by decide +kernel
  have of_dotted : name ∈ dotted.names := by decide +kernel
  refine ⟨⟨of_inside, of_dotted⟩, shown inside name of_inside,
    shared inside dotted ⟨name, of_inside, of_dotted⟩, _, rfl, ?_⟩
  exact (built {} Catalog.builtin (.ofName "shop" "OrderRuleUnit1") 23 _ rfl).1

end Naming
end RuleEngine
