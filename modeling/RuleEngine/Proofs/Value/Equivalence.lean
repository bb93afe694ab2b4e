import Mathlib.Data.List.Forall2
import RuleEngine.Value.Equality

/-!
# Equality of values is an equivalence

Equality is defined by recursion on the first value.  The property that carries the induction is
therefore not symmetry or transitivity, which mix the two sides, but that equal values have the same
equals: `Congruent v` says that whatever equals `v` is compared as `v` is.  Together with
reflexivity it gives the other two.

The entries of maps are paired off greedily.  Over congruent entries the order in which they take
their partners does not matter, because two entries that could take the same partner are compared
alike.
-/

namespace RuleEngine
namespace Value

/-! ## Induction over nested values -/

/-- Induction over values, with the hypothesis for each part of a fact, a vector or a map. -/
theorem nested_induction {P : Value → Prop}
    (nil : P nil) (bool : ∀ b, P (bool b)) (int : ∀ n, P (int n)) (float : ∀ x, P (float x))
    (string : ∀ s, P (string s)) (handle : ∀ h, P (handle h))
    (fact : ∀ inst name fields, (∀ e ∈ fields, P e.2) → P (fact inst name fields))
    (vec : ∀ items, (∀ v ∈ items, P v) → P (vec items))
    (map : ∀ entries, (∀ e ∈ entries, P e.1 ∧ P e.2) → P (map entries))
    (source : ∀ id, P (source id)) (v : Value) : P v := by
  -- the recursor asks for a property of each kind of part: lists of fields, items and entries, and
  -- the fields and entries themselves
  refine @Value.rec P (fun fields => ∀ e ∈ fields, P e.2) (fun items => ∀ w ∈ items, P w)
    (fun entries => ∀ e ∈ entries, P e.1 ∧ P e.2) (fun field => P field.2)
    (fun entry => P entry.1 ∧ P entry.2)
    nil bool int float string handle fact vec map source ?_ ?_ ?_ ?_ ?_ ?_ ?_ ?_ v
  · simp
  · intro field rest hfield hrest
    exact List.forall_mem_cons.2 ⟨hfield, hrest⟩
  · simp
  · intro item rest hitem hrest
    exact List.forall_mem_cons.2 ⟨hitem, hrest⟩
  · simp
  · intro entry rest hentry hrest
    exact List.forall_mem_cons.2 ⟨hentry, hrest⟩
  · intro name value hvalue
    exact hvalue
  · intro key value hkey hvalue
    exact ⟨hkey, hvalue⟩

/-! ## Equations of the comparison -/

theorem beqField_eq (e f : String × Value) : beqField e f = (e.1 == f.1 && beq e.2 f.2) := by
  cases e
  cases f
  rw [beqField]

theorem beqEntry_eq (e f : Value × Value) : beqEntry e f = (beq e.1 f.1 && beq e.2 f.2) := by
  cases e
  rw [beqEntry]

theorem beqEntries_cons (e : Value × Value) (rest others : List (Value × Value)) :
    beqEntries (e :: rest) others =
      (others.any (beqEntry e) && beqEntries rest (others.eraseP (beqEntry e))) := by
  rw [beqEntries, takeFirst?_eq]
  cases h : others.any (beqEntry e) <;> simp

/-! ## Reflexivity -/

theorem beqFields_self {fields : List (String × Value)} (h : ∀ e ∈ fields, beq e.2 e.2 = true) :
    beqFields fields fields = true := by
  induction fields with
  | nil => rfl
  | cons field rest ih =>
      have ⟨hfield, hrest⟩ := List.forall_mem_cons.1 h
      simp [beqFields, beqField_eq, hfield, ih hrest]

theorem beqItems_self {items : List Value} (h : ∀ v ∈ items, beq v v = true) :
    beqItems items items = true := by
  induction items with
  | nil => rfl
  | cons item rest ih =>
      have ⟨hitem, hrest⟩ := List.forall_mem_cons.1 h
      simp [beqItems, hitem, ih hrest]

theorem beqEntries_self {entries : List (Value × Value)}
    (h : ∀ e ∈ entries, beq e.1 e.1 = true ∧ beq e.2 e.2 = true) :
    beqEntries entries entries = true := by
  induction entries with
  | nil => rfl
  | cons entry rest ih =>
      have ⟨hentry, hrest⟩ := List.forall_mem_cons.1 h
      have same : beqEntry entry entry = true := by
        simp [beqEntry_eq, hentry]
      simp [beqEntries_cons, same, ih hrest]

theorem beq_self (v : Value) : beq v v = true := by
  induction v using nested_induction with
  | nil => rfl
  | bool b => simp [beq]
  | int n => simp [beq]
  | float x => simp [beq]
  | string s => simp [beq]
  | handle h => simp [beq]
  | fact inst name fields ih => simp [beq, beqFields_self ih]
  | vec items ih => simpa [beq] using beqItems_self ih
  | map entries ih => simpa [beq] using beqEntries_self ih
  | source id => simp [beq]

/-! ## Congruence -/

/-- Whatever equals the value is compared with everything as the value is. -/
def Congruent (v : Value) : Prop :=
  ∀ w, beq v w = true → beq v = beq w

def CongruentEntry (e : Value × Value) : Prop :=
  ∀ f, beqEntry e f = true → beqEntry e = beqEntry f

theorem CongruentEntry.of_parts {e : Value × Value} (hkey : Congruent e.1)
    (hvalue : Congruent e.2) : CongruentEntry e := by
  intro f h
  have ⟨hk, hv⟩ : beq e.1 f.1 = true ∧ beq e.2 f.2 = true := by
    simpa [beqEntry_eq] using h
  funext g
  rw [beqEntry_eq, beqEntry_eq, hkey _ hk, hvalue _ hv]

theorem CongruentEntry.of_eq {e f : Value × Value} (he : CongruentEntry e)
    (same : beqEntry e = beqEntry f) : CongruentEntry f := by
  intro g h
  rw [← same] at h ⊢
  exact he g h

theorem beqFields_congr {fields others : List (String × Value)}
    (hc : ∀ e ∈ fields, Congruent e.2) (h : beqFields fields others = true) :
    beqFields fields = beqFields others := by
  induction fields generalizing others with
  | nil =>
      cases others with
      | nil => rfl
      | cons other rest => simp [beqFields] at h
  | cons field rest ih =>
      cases others with
      | nil => simp [beqFields] at h
      | cons other rest' =>
          have ⟨hfield, hrest⟩ := List.forall_mem_cons.1 hc
          have ⟨⟨hname, hvalue⟩, htail⟩ :
              (field.1 = other.1 ∧ beq field.2 other.2 = true) ∧ beqFields rest rest' = true := by
            simpa [beqFields, beqField_eq] using h
          funext more
          cases more with
          | nil => rfl
          | cons third rest'' =>
              simp only [beqFields, beqField_eq]
              rw [hname, hfield _ hvalue, ih hrest htail]

theorem beqItems_congr {items others : List Value} (hc : ∀ v ∈ items, Congruent v)
    (h : beqItems items others = true) : beqItems items = beqItems others := by
  induction items generalizing others with
  | nil =>
      cases others with
      | nil => rfl
      | cons other rest => simp [beqItems] at h
  | cons item rest ih =>
      cases others with
      | nil => simp [beqItems] at h
      | cons other rest' =>
          have ⟨hitem, hrest⟩ := List.forall_mem_cons.1 hc
          have ⟨hhead, htail⟩ : beq item other = true ∧ beqItems rest rest' = true := by
            simpa [beqItems] using h
          funext more
          cases more with
          | nil => rfl
          | cons third rest'' =>
              simp only [beqItems]
              rw [hitem _ hhead, ih hrest htail]

/-! ## Entries of maps -/

/-- Two congruent entries are compared alike, or nothing equals both of them. -/
theorem beqEntry_eq_or_apart {e f : Value × Value} (he : CongruentEntry e)
    (hf : CongruentEntry f) :
    beqEntry e = beqEntry f ∨ ∀ g, ¬ beqEntry e g = true ∨ ¬ beqEntry f g = true := by
  by_cases meet : ∃ g, beqEntry e g = true ∧ beqEntry f g = true
  · rcases meet with ⟨g, heg, hfg⟩
    exact Or.inl ((he g heg).trans (hf g hfg).symm)
  · refine Or.inr fun g => ?_
    by_cases heg : beqEntry e g = true
    · exact Or.inr fun hfg => meet ⟨g, heg, hfg⟩
    · exact Or.inl heg

theorem any_eraseP_of_apart {α : Type} {p q : α → Bool} {items : List α}
    (apart : ∀ a, ¬ p a = true ∨ ¬ q a = true) : (items.eraseP p).any q = items.any q := by
  rw [Bool.eq_iff_iff, List.any_eq_true, List.any_eq_true]
  constructor
  · rintro ⟨a, ha, hq⟩
    exact ⟨a, List.mem_of_mem_eraseP ha, hq⟩
  · rintro ⟨a, ha, hq⟩
    have hp : ¬ p a = true := (apart a).resolve_right (fun h => h hq)
    exact ⟨a, (List.mem_eraseP_of_neg hp).2 ha, hq⟩

/-- The order in which congruent entries take their partners does not matter. -/
theorem beqEntries_perm {entries entries' : List (Value × Value)}
    (hperm : entries.Perm entries') (hc : ∀ e ∈ entries, CongruentEntry e) :
    beqEntries entries = beqEntries entries' := by
  induction hperm with
  | nil => rfl
  | cons e _ ih =>
      have hrest := ih (List.forall_mem_cons.1 hc).2
      funext others
      rw [beqEntries_cons, beqEntries_cons, hrest]
  | swap e f rest =>
      -- the two entries take the same partners, or never the same one
      have ⟨hf, hrest⟩ := List.forall_mem_cons.1 hc
      have he := (List.forall_mem_cons.1 hrest).1
      funext others
      simp only [beqEntries_cons]
      rcases beqEntry_eq_or_apart hf he with same | apart
      · rw [same]
      · have comm := List.eraseP_comm (l := others) fun g _ => apart g
        rw [any_eraseP_of_apart apart, any_eraseP_of_apart fun g => (apart g).symm, comm]
        ac_rfl
  | trans hperm _ ih ih' =>
      exact (ih hc).trans (ih' fun e he => hc e (hperm.mem_iff.2 he))

/-- Entries that are compared alike one by one are compared alike as a whole. -/
theorem beqEntries_of_alike {entries entries' : List (Value × Value)}
    (h : List.Forall₂ (fun e f => beqEntry e = beqEntry f) entries entries') :
    beqEntries entries = beqEntries entries' := by
  induction h with
  | nil => rfl
  | cons same _ ih =>
      funext others
      rw [beqEntries_cons, beqEntries_cons, same, ih]

/-- When all entries find partners, the partners are the other map in some order. -/
theorem exists_partners {entries others : List (Value × Value)}
    (hc : ∀ e ∈ entries, CongruentEntry e) (h : beqEntries entries others = true) :
    ∃ partners, others.Perm partners ∧
      List.Forall₂ (fun e f => beqEntry e = beqEntry f) entries partners := by
  induction entries generalizing others with
  | nil =>
      have : others = [] := by
        simpa [beqEntries] using h
      exact ⟨[], this ▸ .refl _, .nil⟩
  | cons e rest ih =>
      have ⟨he, hrest⟩ := List.forall_mem_cons.1 hc
      rw [beqEntries_cons, Bool.and_eq_true, List.any_eq_true] at h
      rcases h with ⟨⟨g, hg, heg⟩, hothers⟩
      -- the first entry takes `f`; what is left of the other map is partnered by the rest
      rcases List.exists_of_eraseP hg heg with ⟨f, before, after, _, hef, split, erased⟩
      rcases ih hrest hothers with ⟨partners, hperm, alike⟩
      rw [erased] at hperm
      refine ⟨f :: partners, ?_, .cons (he f hef) alike⟩
      rw [split]
      exact List.perm_middle.trans (hperm.cons f)

theorem beqEntries_congr {entries others : List (Value × Value)}
    (hc : ∀ e ∈ entries, CongruentEntry e) (h : beqEntries entries others = true) :
    beqEntries entries = beqEntries others := by
  rcases exists_partners hc h with ⟨partners, hperm, alike⟩
  have hpartners : ∀ f ∈ partners, CongruentEntry f := by
    intro f hf
    rcases List.mem_iff_getElem.1 hf with ⟨i, hi, rfl⟩
    have hi' : i < entries.length := alike.length_eq ▸ hi
    exact (hc _ (List.getElem_mem hi')).of_eq (alike.get hi' hi)
  calc
    beqEntries entries = beqEntries partners := beqEntries_of_alike alike
    _ = beqEntries others := beqEntries_perm hperm.symm hpartners

/-! ## Equality is an equivalence -/

theorem congruent_of_eq {v : Value} (h : ∀ w, beq v w = true → v = w) : Congruent v := by
  intro w hw
  rw [h w hw]

theorem congruent (v : Value) : Congruent v := by
  -- values without parts equal themselves only; the others are compared part by part
  induction v using nested_induction with
  | nil => exact congruent_of_eq fun w h => by cases w <;> simp_all [beq]
  | bool b => exact congruent_of_eq fun w h => by cases w <;> simp_all [beq]
  | int n => exact congruent_of_eq fun w h => by cases w <;> simp_all [beq]
  | float x => exact congruent_of_eq fun w h => by cases w <;> simp_all [beq]
  | string s => exact congruent_of_eq fun w h => by cases w <;> simp_all [beq]
  | handle a => exact congruent_of_eq fun w h => by cases w <;> simp_all [beq]
  | fact inst name fields ih =>
      intro w h
      cases w with
      | fact inst' name' others =>
          have ⟨hname, hfields⟩ : name = name' ∧ beqFields fields others = true := by
            simpa [beq] using h
          have same := beqFields_congr ih hfields
          funext u
          cases u <;> simp [beq, hname, same]
      | _ => simp [beq] at h
  | vec items ih =>
      intro w h
      cases w with
      | vec others =>
          have same := beqItems_congr ih (by simpa [beq] using h)
          funext u
          cases u <;> simp [beq, same]
      | _ => simp [beq] at h
  | map entries ih =>
      intro w h
      cases w with
      | map others =>
          have parts : ∀ e ∈ entries, CongruentEntry e := fun e he =>
            .of_parts (ih e he).1 (ih e he).2
          have same := beqEntries_congr parts (by simpa [beq] using h)
          funext u
          cases u <;> simp [beq, same]
      | _ => simp [beq] at h
  | source id => exact congruent_of_eq fun w h => by cases w <;> simp_all [beq]

instance : EquivBEq Value where
  rfl := beq_self _
  symm := by
    intro v w h
    have same : beq v = beq w := congruent v w h
    calc
      beq w v = beq v v := by rw [same]
      _ = true := beq_self v
  trans := by
    intro v w u h h'
    have same : beq v = beq w := congruent v w h
    calc
      beq v u = beq w u := by rw [same]
      _ = true := h'

end Value
end RuleEngine
