import Mathlib.Data.List.Nodup
import RuleEngine.Proofs.Value.Hashing
import RuleEngine.Value.Text
import RuleEngine.World.Basic

/-!
# Texts do not depend on the order of fields

The fields of a fact, and the entries of a map, have no order of their own.  A program may meet them in
any order: as they were set, or as a map happens to list them, and differently at every depth of a
value.  Such an order is a `Listing` of the value.

A text for readers puts the fields of a fact in the order of their names.  No name occurs twice in a
fact, however it came about (`Built`), so there is one such order, and the text is the same for every
listing of the value, and for every value that equals it, as long as no map in it has two entries
(`Value.display_eq_of_listings`).
-/

namespace RuleEngine
namespace Value

/-! ## Values that are built -/

/-- Whether a value has no parts. -/
def isPlain : Value → Bool
  | fact .. | vec _ | map _ => false
  | _ => true

/-- The values that can be built.  A fact starts without fields; to set a field gives a new fact with a
value in place of the one that stood under the name.  Vectors grow at their ends.  To put an entry into
a map replaces the value that stood under the key. -/
inductive Built : Value → Prop where
  | plain {v : Value} (no_parts : v.isPlain = true) : Built v
  | fact (inst : InstanceId) (typeName : String) : Built (fact inst typeName [])
  | set {inst : InstanceId} {typeName : String} {fields : List (String × Value)} {v : Value}
      (inst' : InstanceId) (name : String) :
      Built (.fact inst typeName fields) → Built v →
        Built (.fact inst' typeName (Entries.put name v fields))
  | vec : Built (vec [])
  | push {items : List Value} {v : Value} : Built (.vec items) → Built v → Built (.vec (items ++ [v]))
  | map : Built (map [])
  | putEntry {entries : List (Value × Value)} {k v : Value} :
      Built (.map entries) → Built k → Built v → Built (.map (putEntry k v entries))

/-- What holds of the parts of a value that is built. -/
def PartsBuilt : Value → Prop
  | fact _ _ fields => Entries.Ascending fields ∧ ∀ e ∈ fields, Built e.2
  | vec items => ∀ v ∈ items, Built v
  | map entries => ∀ e ∈ entries, Built e.1 ∧ Built e.2
  | _ => True

theorem forall_mem_putEntry {P : Value → Prop} {k v : Value} {entries : List (Value × Value)}
    (parts : ∀ e ∈ entries, P e.1 ∧ P e.2) (hk : P k) (hv : P v) :
    ∀ e ∈ putEntry k v entries, P e.1 ∧ P e.2 := by
  induction entries with
  | nil => exact List.forall_mem_cons.2 ⟨⟨hk, hv⟩, nofun⟩
  | cons entry rest ih =>
      have ⟨hentry, hrest⟩ := List.forall_mem_cons.1 parts
      unfold putEntry
      split
      · exact List.forall_mem_cons.2 ⟨⟨hentry.1, hv⟩, hrest⟩
      · exact List.forall_mem_cons.2 ⟨hentry, ih hrest⟩

theorem Built.parts {v : Value} (h : Built v) : v.PartsBuilt := by
  induction h with
  | @plain v no_parts =>
      cases v with
      | fact | vec | map => cases no_parts
      | _ => trivial
  | fact inst typeName => exact ⟨.nil, nofun⟩
  | set inst' name _ hv ih _ =>
      refine ⟨Entries.ascending_put ih.1, fun e he => ?_⟩
      rcases Entries.mem_put he with rfl | he
      · exact hv
      · exact ih.2 e he
  | vec => exact nofun
  | push _ hv ih _ =>
      intro u hu
      rcases List.mem_append.1 hu with hu | hu
      · exact ih u hu
      · exact List.mem_singleton.1 hu ▸ hv
  | map => exact nofun
  | putEntry _ hk hv ih _ _ => exact forall_mem_putEntry ih hk hv

/-- What a program puts together in one go is built field by field. -/
theorem built_newFact (w : World) (typeName : String) {fields : List (String × Value)}
    (parts : ∀ e ∈ fields, Built e.2) : Built (w.newFact typeName fields).1 := by
  have built (start : List (String × Value)) (h : Built (fact ⟨w.nextInstance⟩ typeName start)) :
      Built (fact ⟨w.nextInstance⟩ typeName
        (fields.foldl (fun fs e => Entries.put e.1 e.2 fs) start)) := by
    induction fields generalizing start with
    | nil => exact h
    | cons field rest ih =>
        have ⟨hfield, hrest⟩ := List.forall_mem_cons.1 parts
        exact ih hrest _ (.set _ field.1 h hfield)
  exact built [] (.fact _ _)

theorem built_mapOfList {entries : List (Value × Value)}
    (parts : ∀ e ∈ entries, Built e.1 ∧ Built e.2) : Built (mapOfList entries) := by
  have built (start : List (Value × Value)) (h : Built (map start)) :
      Built (map (entries.foldl (fun es e => putEntry e.1 e.2 es) start)) := by
    induction entries generalizing start with
    | nil => exact h
    | cons entry rest ih =>
        have ⟨hentry, hrest⟩ := List.forall_mem_cons.1 parts
        exact ih hrest _ (.putEntry h hentry.1 hentry.2)
  exact built [] .map

/-! ## Listings -/

/-- `Listing v l`: `l` is `v` with the fields of each fact and the entries of each map in some order,
at every depth. -/
inductive Listing : Value → Value → Prop where
  | plain {v : Value} (no_parts : v.isPlain = true) : Listing v v
  | fact {inst : InstanceId} {typeName : String} {fields listed order : List (String × Value)}
      (names : listed.map Prod.fst = fields.map Prod.fst)
      (values : List.Forall₂ Listing (fields.map Prod.snd) (listed.map Prod.snd))
      (reordered : order.Perm listed) :
      Listing (fact inst typeName fields) (fact inst typeName order)
  | vec {items listed : List Value} (values : List.Forall₂ Listing items listed) :
      Listing (vec items) (vec listed)
  | map {entries listed order : List (Value × Value)}
      (keys : List.Forall₂ Listing (entries.map Prod.fst) (listed.map Prod.fst))
      (values : List.Forall₂ Listing (entries.map Prod.snd) (listed.map Prod.snd))
      (reordered : order.Perm listed) :
      Listing (map entries) (map order)

/-- A value is one of its listings: it is listed as it stands. -/
theorem listing_refl (v : Value) : Listing v v := by
  have same {items : List Value} (h : ∀ v ∈ items, Listing v v) : List.Forall₂ Listing items items :=
    List.forall₂_same.2 h
  induction v using nested_induction with
  | fact inst typeName fields ih => exact .fact rfl (same (List.forall_mem_map.2 ih)) (.refl _)
  | vec items ih => exact .vec (same ih)
  | map entries ih =>
      exact .map (same (List.forall_mem_map.2 fun e he => (ih e he).1))
        (same (List.forall_mem_map.2 fun e he => (ih e he).2)) (.refl _)
  | _ => exact .plain rfl

variable {tally : SourceId → Tally}

/-! ## Texts of parts -/

theorem displayFields_eq (fields : List (String × Value)) :
    displayFields tally fields = fields.map fun e => (e.1, display tally e.2) := by
  induction fields with
  | nil => rfl
  | cons field rest ih =>
      cases field
      simp only [displayFields, displayField, ih, List.map_cons]

theorem displayFields_eq_zip (fields : List (String × Value)) :
    displayFields tally fields =
      (fields.map Prod.fst).zip ((fields.map Prod.snd).map (display tally)) := by
  rw [displayFields_eq, List.map_map, List.zip_map']
  rfl

theorem displayItems_eq (items : List Value) :
    displayItems tally items = items.map (display tally) := by
  induction items with
  | nil => rfl
  | cons item rest ih => rw [displayItems, ih, List.map_cons]

theorem displayEntries_eq (entries : List (Value × Value)) :
    displayEntries tally entries =
      entries.map fun e => display tally e.1 ++ " " ++ display tally e.2 := by
  induction entries with
  | nil => rfl
  | cons entry rest ih =>
      cases entry
      simp only [displayEntries, displayEntry, ih, List.map_cons]

theorem settled_fact_iff {inst : InstanceId} {typeName : String}
    {fields : List (String × Value)} :
    (fact inst typeName fields).displaySettled = true ↔ ∀ e ∈ fields, e.2.displaySettled = true := by
  have parts : settledFields none fields = fields.all fun e => e.2.displaySettled := by
    induction fields with
    | nil => rfl
    | cons field rest ih =>
        cases field
        simp only [settledFields, settledField, ih, List.all_cons, displaySettled]
  simp [displaySettled, settled, parts]

theorem settled_vec_iff {items : List Value} :
    (vec items).displaySettled = true ↔ ∀ v ∈ items, v.displaySettled = true := by
  have parts : settledItems none items = items.all displaySettled := by
    induction items with
    | nil => rfl
    | cons item rest ih =>
        rw [settledItems, ih]
        rfl
  simp [displaySettled, settled, parts]

/-- A map with a settled text has no entry, or one whose key and value have settled texts. -/
theorem settled_map_cases {entries : List (Value × Value)}
    (h : (map entries).displaySettled = true) :
    entries = [] ∨ ∃ k v, entries = [(k, v)] ∧ k.displaySettled = true ∧ v.displaySettled = true := by
  cases entries with
  | nil => exact Or.inl rfl
  | cons entry rest =>
      cases rest with
      | nil =>
          rcases entry with ⟨k, v⟩
          have parts : k.displaySettled = true ∧ v.displaySettled = true := by
            simpa [displaySettled, settled, settledEntries, settledEntry] using h
          exact Or.inr ⟨k, v, rfl, parts⟩
      | cons other later =>
          simp [displaySettled, settled] at h

/-! ## Fields in the order of their names -/

/-- There is one order of fields in which their names ascend. -/
theorem labelled_eq_of_perm {texts order : List (String × String)}
    (ascending : Entries.Ascending texts) (hperm : order.Perm texts) :
    labelled order = texts.map fun e => e.1 ++ ": " ++ e.2 := by
  have distinct : (texts.map Prod.fst).Nodup :=
    List.pairwise_map.2 (ascending.imp fun below => String.ne_of_lt below)
  have sorted : (order.mergeSort fun a b => a.1 ≤ b.1).Pairwise
      fun a b => decide (a.1 ≤ b.1) = true :=
    List.pairwise_mergeSort (by simpa using fun _ _ _ => String.le_trans)
      (by simpa using String.le_total) order
  have same : (order.mergeSort fun a b => a.1 ≤ b.1) = texts := by
    have perm := (List.mergeSort_perm order fun a b => a.1 ≤ b.1).trans hperm
    refine perm.eq_of_pairwise ?_ sorted
      (ascending.imp fun below => decide_eq_true (Std.le_of_lt below))
    intro a b ha hb hab hba
    exact List.inj_on_of_nodup_map distinct (perm.mem_iff.1 ha) hb
      (String.le_antisymm (of_decide_eq_true hab) (of_decide_eq_true hba))
  rw [labelled, same]

/-- A fact whose names ascend shows its fields in any order as it shows them in this one. -/
theorem labelled_perm {texts order : List (String × String)} (ascending : Entries.Ascending texts)
    (hperm : order.Perm texts) : labelled order = labelled texts := by
  rw [labelled_eq_of_perm ascending hperm, labelled_eq_of_perm ascending (.refl _)]

theorem ascending_displayFields {fields : List (String × Value)} (h : Entries.Ascending fields) :
    Entries.Ascending (displayFields tally fields) := by
  rw [displayFields_eq]
  exact List.pairwise_map.2 h

/-- A fact shows its fields in the order in which it holds them. -/
theorem display_fact {inst : InstanceId} {typeName : String} {fields : List (String × Value)}
    (ascending : Entries.Ascending fields) :
    display tally (fact inst typeName fields) =
      typeName ++ bracketed "(" ", " ")"
        (fields.map fun e => e.1 ++ ": " ++ display tally e.2) := by
  rw [display, labelled_eq_of_perm (ascending_displayFields ascending) (.refl _),
    displayFields_eq, List.map_map]
  rfl

/-- Where the values of two lists correspond, and values that correspond have one text, the texts of
the lists are the same. -/
theorem map_display_eq {R : Value → Value → Prop} {items others : List Value}
    (alike : ∀ v ∈ items, ∀ w, R v w → display tally v = display tally w)
    (h : List.Forall₂ R items others) :
    items.map (display tally) = others.map (display tally) := by
  induction h with
  | nil => rfl
  | cons first _ ih =>
      obtain ⟨hitem, hrest⟩ := List.forall_mem_cons.1 alike
      rw [List.map_cons, List.map_cons, hitem _ first, ih hrest]

/-! ## The text of a listing -/

/-- Every listing of the value has the text of the value. -/
def ListedAlike (tally : SourceId → Tally) (v : Value) : Prop :=
  ∀ l, Built v → v.displaySettled = true → Listing v l → display tally v = display tally l

theorem listedAlike (v : Value) : ListedAlike tally v := by
  induction v using nested_induction with
  | fact inst typeName fields ih =>
      intro l built settled lists
      cases lists with
      | plain no_parts => cases no_parts
      | @fact _ _ _ listed order names values reordered =>
          obtain ⟨ascending, parts⟩ := built.parts
          have texts := map_display_eq (List.forall_mem_map.2 fun e he l lists =>
            ih e he l (parts e he) (settled_fact_iff.1 settled e he) lists) values
          have same : displayFields tally listed = displayFields tally fields := by
            rw [displayFields_eq_zip, displayFields_eq_zip, names, texts]
          -- the order of the listing is one of the texts too, and these have ascending names
          have shuffled : (displayFields tally order).Perm (displayFields tally fields) := by
            rw [← same, displayFields_eq, displayFields_eq]
            exact reordered.map _
          simp only [display, labelled_perm (ascending_displayFields ascending) shuffled]
  | vec items ih =>
      intro l built settled lists
      cases lists with
      | plain no_parts => cases no_parts
      | vec values =>
          have texts := map_display_eq (fun v hv l lists =>
            ih v hv l (built.parts v hv) (settled_vec_iff.1 settled v hv) lists) values
          simp only [display, displayItems_eq, texts]
  | map entries ih =>
      intro l built settled lists
      cases lists with
      | plain no_parts => cases no_parts
      | @map _ listed order keys values reordered =>
          -- there is one entry at most, which has no other place to go
          rcases settled_map_cases settled with rfl | ⟨k, v, rfl, hk, hv⟩
          · have empty : listed = [] := List.map_eq_nil_iff.1 (List.forall₂_nil_left_iff.1 keys)
            subst empty
            rw [List.perm_nil.1 reordered]
          · obtain ⟨builtk, builtv⟩ := built.parts (k, v) List.mem_cons_self
            obtain ⟨ihk, ihv⟩ := ih (k, v) List.mem_cons_self
            obtain ⟨⟨k', v'⟩, rfl⟩ : ∃ e, listed = [e] :=
              List.length_eq_one_iff.1 (by simpa using keys.length_eq.symm)
            have key := (List.forall₂_cons.1 keys).1
            have value := (List.forall₂_cons.1 values).1
            rw [List.perm_singleton.1 reordered]
            simp only [display, displayEntries, displayEntry, ihk k' builtk hk key,
              ihv v' builtv hv value]
  | _ =>
      intro l _ _ lists
      cases lists with
      | plain _ => rfl

/-! ## The text of equal values -/

theorem beqItems_iff {items others : List Value} :
    beqItems items others = true ↔
      List.Forall₂ (fun v w => beq v w = true) items others := by
  induction items generalizing others with
  | nil => cases others <;> simp [beqItems]
  | cons item rest ih => cases others <;> simp [beqItems, ih]

/-- Fields are equal when their names are the same, in one order, and their values are equal. -/
theorem beqFields_iff {fields others : List (String × Value)} :
    beqFields fields others = true ↔
      fields.map Prod.fst = others.map Prod.fst ∧
        List.Forall₂ (fun v w => beq v w = true) (fields.map Prod.snd) (others.map Prod.snd) := by
  induction fields generalizing others with
  | nil => cases others <;> simp [beqFields]
  | cons field rest ih =>
      cases others <;> simp [beqFields, beqField_eq, ih, and_and_and_comm]

/-- Every value that equals the value has its text. -/
def ShownAlike (tally : SourceId → Tally) (v : Value) : Prop :=
  ∀ w, v.displaySettled = true → beq v w = true → display tally v = display tally w

theorem shownAlike (v : Value) : ShownAlike tally v := by
  induction v using nested_induction with
  | fact inst typeName fields ih =>
      intro w settled h
      cases w with
      | fact inst' typeName' others =>
          have equal : typeName = typeName' ∧ beqFields fields others = true := by
            simpa [beq] using h
          obtain ⟨names, values⟩ := beqFields_iff.1 equal.2
          have texts := map_display_eq (List.forall_mem_map.2 fun e he w equal =>
            ih e he w (settled_fact_iff.1 settled e he) equal) values
          simp only [display, equal.1, displayFields_eq_zip, names, texts]
      | _ => cases h
  | vec items ih =>
      intro w settled h
      cases w with
      | vec others =>
          have equal : beqItems items others = true := by simpa [beq] using h
          have texts := map_display_eq (fun v hv w equal =>
            ih v hv w (settled_vec_iff.1 settled v hv) equal) (beqItems_iff.1 equal)
          simp only [display, displayItems_eq, texts]
      | _ => cases h
  | map entries ih =>
      intro w settled h
      cases w with
      | map others =>
          obtain ⟨order, hperm, equal⟩ := map_beq_iff.1 h
          rcases settled_map_cases settled with rfl | ⟨k, v, rfl, hk, hv⟩
          · rw [List.forall₂_nil_left_iff.1 equal] at hperm
            rw [List.nil_perm.1 hperm]
          · obtain ⟨ihk, ihv⟩ := ih (k, v) List.mem_cons_self
            obtain ⟨⟨k', v'⟩, rfl⟩ : ∃ e, order = [e] :=
              List.length_eq_one_iff.1 equal.length_eq.symm
            obtain ⟨key, value⟩ := (List.forall₂_cons.1 equal).1
            rw [← List.singleton_perm.1 hperm]
            simp only [display, displayEntries, displayEntry, ihk k' hk key, ihv v' hv value]
      | _ => cases h
  | _ =>
      intro w _ h
      cases w <;> simp_all [beq]

/-- Two values that are built in whatever way and are equal have one text for readers, in whatever
orders their fields and entries are listed, at every depth, as long as no map has two entries. -/
theorem display_eq_of_listings (tally : SourceId → Tally) {v w l l' : Value}
    (hv : Built v) (hw : Built w) (equal : (v == w) = true)
    (settled : v.displaySettled = true) (settled' : w.displaySettled = true)
    (lists : Listing v l) (lists' : Listing w l') :
    display tally l = display tally v ∧ display tally l' = display tally v := by
  refine ⟨(listedAlike v l hv settled lists).symm, ?_⟩
  calc
    display tally l' = display tally w := (listedAlike w l' hw settled' lists').symm
    _ = display tally v := (shownAlike v w settled equal).symm

/-- A place whose number was corrected, and a person there whose age was corrected. -/
def turin : Value :=
  (World.empty.newFact "Place" [("zip", int 1), ("city", string "Turin"), ("zip", int 2)]).1

def mark : Value :=
  (World.empty.newFact "Person"
    [("name", string "Mark"), ("age", int 1), ("home", mapOfList [(int 7, turin)]), ("age", int 37)]).1

/-- The same person, with every field set once, and in other orders. -/
def markAgain : Value :=
  let place := (World.empty.newFact "Place" [("city", string "Turin"), ("zip", int 2)]).1
  (World.empty.newFact "Person"
    [("home", mapOfList [(int 7, place)]), ("age", int 37), ("name", string "Mark")]).1

/-- The person as listed with the name first, and the place with its number first. -/
def markListed : Value :=
  fact ⟨0⟩ "Person"
    [("name", string "Mark"), ("age", int 37),
      ("home", map [(int 7, fact ⟨0⟩ "Place" [("zip", int 2), ("city", string "Turin")])])]

theorem built_mark : Built turin ∧ Built mark ∧ Built markAgain := by
  have plain {v : Value} (no_parts : v.isPlain = true) : Built v := .plain no_parts
  have home {place : Value} (h : Built place) : Built (mapOfList [(int 7, place)]) :=
    built_mapOfList (List.forall_mem_singleton.2 ⟨plain rfl, h⟩)
  have place : Built turin := by
    refine built_newFact _ _ ?_
    simp only [List.forall_mem_cons]
    exact ⟨plain rfl, plain rfl, plain rfl, nofun⟩
  refine ⟨place, ?_, ?_⟩
  · refine built_newFact _ _ ?_
    simp only [List.forall_mem_cons]
    exact ⟨plain rfl, plain rfl, home place, plain rfl, nofun⟩
  · refine built_newFact _ _ ?_
    simp only [List.forall_mem_cons]
    refine ⟨home (built_newFact _ _ ?_), plain rfl, plain rfl, nofun⟩
    simp only [List.forall_mem_cons]
    exact ⟨plain rfl, plain rfl, nofun⟩

theorem listing_markListed : Listing mark markListed := by
  show Listing (fact ⟨0⟩ "Person"
    [("age", int 37), ("home", map [(int 7, turin)]), ("name", string "Mark")]) _
  have place : Listing turin (fact ⟨0⟩ "Place" [("zip", int 2), ("city", string "Turin")]) := by
    refine .fact ?_ (.cons (.plain rfl) (.cons (.plain rfl) .nil))
      (.swap ("city", string "Turin") ("zip", int 2) [])
    rfl
  refine .fact ?_ (.cons (.plain rfl) (.cons ?_ (.cons (.plain rfl) .nil)))
    (List.perm_append_singleton ("name", string "Mark") [("age", int 37), ("home", _)]).symm
  · rfl
  · refine .map ?_ ?_ (.refl _)
    · exact .cons (.plain rfl) .nil
    · exact .cons place .nil

theorem display_mark (tally : SourceId → Tally) :
    mark.display tally = "Person(age: 37, home: \x7b7 Place(city: Turin, zip: 2)\x7d, name: Mark)" := by
  have place : turin.display tally = "Place(city: Turin, zip: 2)" :=
    display_fact built_mark.1.parts.1
  have home : (map [(int 7, turin)]).display tally = "\x7b7 Place(city: Turin, zip: 2)\x7d" := by
    rw [display, displayEntries_eq, List.map_singleton, place]
    rfl
  calc
    mark.display tally
        = "Person" ++ bracketed "(" ", " ")" ["age: 37",
            "home: " ++ (map [(int 7, turin)]).display tally, "name: Mark"] :=
          display_fact built_mark.2.1.parts.1
    _ = _ := by
          rw [home]
          rfl

theorem mark_shown_alike :
    (mark == markAgain) = true ∧ Listing mark markListed ∧
      markListed.display (fun _ => ⟨0, 0⟩) =
        "Person(age: 37, home: \x7b7 Place(city: Turin, zip: 2)\x7d, name: Mark)" ∧
      markAgain.display (fun _ => ⟨0, 0⟩) =
        "Person(age: 37, home: \x7b7 Place(city: Turin, zip: 2)\x7d, name: Mark)" := by
  have ⟨_, built, built'⟩ := built_mark
  have same : (mark == markAgain) = true := rfl
  have ⟨listed, again⟩ := display_eq_of_listings (fun _ => ⟨0, 0⟩) built built' same rfl rfl
    listing_markListed (listing_refl markAgain)
  exact ⟨same, listing_markListed, listed.trans (display_mark _), again.trans (display_mark _)⟩

end Value
end RuleEngine
