import Mathlib.Algebra.Group.Nat.Defs
import Mathlib.Data.List.Basic
import RuleEngine.Document.Basic

/-!
# Compact texts can be read

The compact text of a document determines the document (`Document.compact_injective`).  What carries
the proof through the nesting is stronger: where the text of a document ends can be told from the text
itself, whatever comes behind it.  Strings, lists and objects are closed by a mark of their own.  A
number ends where something else begins, which in a document is a comma, a closing bracket, or nothing
at all.
-/

namespace RuleEngine
namespace Document

/-! ## Where a text ends -/

/-- Two texts of one class of characters, each followed by something else, can be told from what
follows them. -/
theorem eq_of_append_eq {p : Char → Bool} {text other r s : List Char}
    (htext : ∀ c ∈ text, p c = true) (hother : ∀ c ∈ other, p c = true)
    (hr : ∀ c ∈ r.head?, p c = false) (hs : ∀ c ∈ s.head?, p c = false)
    (h : text ++ r = other ++ s) : text = other ∧ r = s := by
  have stops {t : List Char} (ht : ∀ c ∈ t.head?, p c = false) : t.takeWhile p = [] := by
    cases t with
    | nil => rfl
    | cons c rest => exact List.takeWhile_cons_of_neg (by simp [ht c rfl])
  have same : text = other := by
    have taken := congrArg (List.takeWhile p) h
    rwa [List.takeWhile_append_of_pos htext, List.takeWhile_append_of_pos hother, stops hr,
      stops hs, List.append_nil, List.append_nil] at taken
  subst same
  exact ⟨rfl, List.append_cancel_left h⟩

/-- Whether a character may stand in a number. -/
def isNumeral (c : Char) : Bool :=
  c.isDigit || c = '-' || c = '.'

/-- A text that does not go on with a number. -/
def Ends (rest : List Char) : Prop :=
  ∀ c ∈ rest.head?, isNumeral c = false

theorem ends_nil : Ends [] := nofun

theorem ends_cons {c : Char} (h : isNumeral c = false) (rest : List Char) : Ends (c :: rest) := by
  intro d hd
  cases hd
  exact h

/-- What is written for `a` can be told from what comes behind it. -/
def Legible {α : Type} (text : α → List Char) (a : α) : Prop :=
  ∀ b r s, Ends r → Ends s → text a ++ r = text b ++ s → a = b ∧ r = s

/-! ## Numbers -/

def sign (m : Int) : List Char :=
  if m < 0 then ['-'] else []

/-- The places of a number, behind a point. -/
def fraction (places part : Nat) : List Char :=
  if places = 0 then
    []
  else
    let digits := Nat.toDigits 10 part
    '.' :: (List.replicate (places - digits.length) '0' ++ digits)

theorem toList_toString_int (m : Int) :
    (toString m).toList = sign m ++ Nat.toDigits 10 m.natAbs := by
  cases m with
  | ofNat n => exact Nat.toList_repr
  | negSucc n =>
      show ("-" ++ (n + 1).repr).toList = _
      simp [sign, Int.negSucc_lt_zero]

theorem toList_compactNumber (m : Int) (places : Nat) :
    (compactNumber m places).toList =
      sign m ++ (Nat.toDigits 10 (m.natAbs / 10 ^ places) ++
        fraction places (m.natAbs % 10 ^ places)) := by
  unfold compactNumber
  split
  · rename_i whole
    rw [toList_toString_int]
    simp [whole, fraction]
  · rename_i some_places
    have minus : (if m < 0 then "-" else "").toList = sign m := by
      unfold sign
      split <;> rfl
    simp [fraction, some_places, minus]

theorem isDigit_of_mem_toDigits {n : Nat} {c : Char} (h : c ∈ Nat.toDigits 10 n) :
    c.isDigit = true :=
  Nat.isDigit_of_mem_toDigits (by decide) (by decide) h

theorem toDigits_injective {n k : Nat} (h : Nat.toDigits 10 n = Nat.toDigits 10 k) : n = k := by
  have read := congrArg (Nat.ofDigitChars 10 · 0) h
  simpa using read

theorem head?_toDigits_append {n : Nat} {rest : List Char} {c : Char}
    (h : c ∈ (Nat.toDigits 10 n ++ rest).head?) : c.isDigit = true := by
  cases digits : Nat.toDigits 10 n with
  | nil => exact absurd digits Nat.toDigits_ne_nil
  | cons d tail =>
      rw [digits] at h
      cases h
      exact isDigit_of_mem_toDigits (digits ▸ List.mem_cons_self)

theorem length_fraction {places part : Nat} (h : part < 10 ^ places) :
    (fraction places part).length = if places = 0 then 0 else places + 1 := by
  unfold fraction
  split
  · rfl
  · rename_i some_places
    have short : (Nat.toDigits 10 part).length ≤ places :=
      (Nat.length_toDigits_le_iff (by decide) (Nat.pos_of_ne_zero some_places)).2 h
    simp [Nat.sub_add_cancel short]

theorem head?_fraction {places part : Nat} {c : Char} (h : c ∈ (fraction places part).head?) :
    c = '.' := by
  unfold fraction at h
  split at h
  · cases h
  · exact (Option.some.inj h).symm

/-- The places of a number are read off its fraction: how many there are, and what they are. -/
theorem fraction_injective {places places' part part' : Nat} (hp : part < 10 ^ places)
    (hp' : part' < 10 ^ places') (h : fraction places part = fraction places' part') :
    places = places' ∧ part = part' := by
  have lengths := congrArg List.length h
  rw [length_fraction hp, length_fraction hp'] at lengths
  have same : places = places' := by
    split at lengths <;> split at lengths <;> omega
  subst same
  refine ⟨rfl, ?_⟩
  cases places with
  | zero => omega
  | succ k =>
      -- zeros in front do not change what the digits come to
      have read := congrArg (fun text => Nat.ofDigitChars 10 text.tail 0) h
      simpa [fraction, Nat.ofDigitChars_append] using read

theorem eq_of_natAbs_of_sign {m n : Int} (hsign : sign m = sign n) (habs : m.natAbs = n.natAbs) :
    m = n := by
  unfold sign at hsign
  split at hsign <;> split at hsign
  · omega
  · cases hsign
  · cases hsign
  · omega

theorem compactNumber_injective {m m' : Int} {places places' : Nat}
    (h : (compactNumber m places).toList = (compactNumber m' places').toList) :
    m = m' ∧ places = places' := by
  rw [toList_compactNumber, toList_compactNumber] at h
  have minus (k : Int) : ∀ c ∈ sign k, (c == '-') = true := by
    intro c hc
    unfold sign at hc
    split at hc
    · simp [List.mem_singleton.1 hc]
    · cases hc
  have unsigned (n : Nat) (rest : List Char) :
      ∀ c ∈ (Nat.toDigits 10 n ++ rest).head?, (c == '-') = false := by
    intro c hc
    have digit := head?_toDigits_append hc
    exact beq_false_of_ne fun e => by subst e; cases digit
  have point (k n : Nat) : ∀ c ∈ (fraction k n).head?, c.isDigit = false := by
    intro c hc
    rw [head?_fraction hc]
    rfl
  -- the sign is all that is no digit in front, and the digits end at the point
  have ⟨hsign, hrest⟩ :=
    eq_of_append_eq (minus m) (minus m') (unsigned _ _) (unsigned _ _) h
  have ⟨hwhole, hfraction⟩ := eq_of_append_eq (fun _ => isDigit_of_mem_toDigits)
    (fun _ => isDigit_of_mem_toDigits) (point _ _) (point _ _) hrest
  have positive (k : Nat) : 0 < 10 ^ k := Nat.pow_pos (by decide)
  have ⟨hplaces, hpart⟩ := fraction_injective (Nat.mod_lt _ (positive places))
    (Nat.mod_lt _ (positive places')) hfraction
  subst hplaces
  have habs : m.natAbs = m'.natAbs :=
    calc
      m.natAbs = 10 ^ places * (m.natAbs / 10 ^ places) + m.natAbs % 10 ^ places :=
        (Nat.div_add_mod _ _).symm
      _ = 10 ^ places * (m'.natAbs / 10 ^ places) + m'.natAbs % 10 ^ places := by
        rw [toDigits_injective hwhole, hpart]
      _ = m'.natAbs := Nat.div_add_mod _ _
  exact ⟨eq_of_natAbs_of_sign hsign habs, rfl⟩

theorem isNumeral_of_mem_compactNumber {m : Int} {places : Nat} {c : Char}
    (h : c ∈ (compactNumber m places).toList) : isNumeral c = true := by
  have digit {n : Nat} (hc : c ∈ Nat.toDigits 10 n) : isNumeral c = true := by
    simp [isNumeral, isDigit_of_mem_toDigits hc]
  rw [toList_compactNumber] at h
  rcases List.mem_append.1 h with h | h
  · unfold sign at h
    split at h
    · rw [List.mem_singleton.1 h]
      rfl
    · cases h
  · rcases List.mem_append.1 h with h | h
    · exact digit h
    · unfold fraction at h
      split at h
      · cases h
      · rcases List.mem_cons.1 h with rfl | h
        · rfl
        · rcases List.mem_append.1 h with h | h
          · rw [List.eq_of_mem_replicate h]
            rfl
          · exact digit h

theorem head?_compactNumber_append (m : Int) (places : Nat) (rest : List Char) :
    ∃ c ∈ ((compactNumber m places).toList ++ rest).head?, isNumeral c = true := by
  cases text : (compactNumber m places).toList with
  | nil =>
      have digits : Nat.toDigits 10 (m.natAbs / 10 ^ places) = [] := by
        rw [toList_compactNumber] at text
        exact (List.append_eq_nil_iff.1 (List.append_eq_nil_iff.1 text).2).1
      exact absurd digits Nat.toDigits_ne_nil
  | cons c tail =>
      exact ⟨c, rfl, isNumeral_of_mem_compactNumber (text ▸ List.mem_cons_self)⟩

/-! ## Strings -/

/-- The characters that are not written as they are. -/
def escaped : List Char :=
  '"' :: '\\' :: (List.range 32).map Char.ofNat

/-- A character that is not escaped stands for itself, and is no mark. -/
theorem mem_escaped_or (c : Char) : c ∈ escaped ∨ (escape c = [c] ∧ c ≠ '"' ∧ c ≠ '\\') := by
  by_cases low : c.toNat < 32
  · refine Or.inl (List.mem_cons_of_mem _ (List.mem_cons_of_mem _ ?_))
    exact List.mem_map.2 ⟨c.toNat, List.mem_range.2 low, Char.ofNat_toNat c⟩
  · by_cases mark : c = '"' ∨ c = '\\'
    · rcases mark with rfl | rfl
      · exact Or.inl (by decide)
      · exact Or.inl (by decide)
    · have ⟨quote, slash⟩ := not_or.1 mark
      refine Or.inr ⟨?_, quote, slash⟩
      unfold escape
      split <;> simp_all

theorem head?_escape_of_mem {c : Char} (h : c ∈ escaped) : (escape c).head? = some '\\' := by
  have every : (escaped.all fun c => (escape c).head? == some '\\') = true := by decide
  exact eq_of_beq (List.all_eq_true.1 every c h)

/-- No character that is escaped is written with the beginning of another one. -/
theorem eq_of_escape_below {c d : Char} (hc : c ∈ escaped) (hd : d ∈ escaped)
    (below : (escape c).isPrefixOf (escape d) = true) : c = d := by
  have every : (escaped.all fun c => escaped.all fun d =>
      !(escape c).isPrefixOf (escape d) || c == d) = true := by decide +kernel
  simpa [below] using List.all_eq_true.1 (List.all_eq_true.1 every c hc) d hd

theorem head?_escape_append_of_mem {c : Char} (h : c ∈ escaped) (rest : List Char) :
    (escape c ++ rest).head? = some '\\' := by
  rw [List.head?_append, head?_escape_of_mem h]
  rfl

theorem head?_escape_append_ne_quote (c : Char) (rest : List Char) :
    (escape c ++ rest).head? ≠ some '"' := by
  rcases mem_escaped_or c with special | ⟨plain, quote, -⟩
  · rw [head?_escape_append_of_mem special]
    decide
  · rw [plain]
    exact fun h => quote (Option.some.inj h)

theorem escape_append_injective {c d : Char} {r s : List Char}
    (h : escape c ++ r = escape d ++ s) : c = d ∧ r = s := by
  have heads := congrArg List.head? h
  have same : c = d := by
    rcases mem_escaped_or c with hc | ⟨hc, -, plain⟩
    · rcases mem_escaped_or d with hd | ⟨hd, -, plain⟩
      · -- both begin the same text, so one of the two begins the other
        rcases List.prefix_or_prefix_of_prefix ⟨r, rfl⟩ ⟨s, h.symm⟩ with below | above
        · exact eq_of_escape_below hc hd (List.isPrefixOf_iff_prefix.2 below)
        · exact (eq_of_escape_below hd hc (List.isPrefixOf_iff_prefix.2 above)).symm
      · rw [head?_escape_append_of_mem hc, hd] at heads
        exact absurd (Option.some.inj heads).symm plain
    · rcases mem_escaped_or d with hd | ⟨hd, -, -⟩
      · rw [head?_escape_append_of_mem hd, hc] at heads
        exact absurd (Option.some.inj heads) plain
      · rw [hc, hd] at heads
        exact Option.some.inj heads
  subst same
  exact ⟨rfl, List.append_cancel_left h⟩

/-- The first quotation mark that is not escaped closes a string. -/
theorem quoted_append_injective {cs ds r s : List Char}
    (h : cs.flatMap escape ++ '"' :: r = ds.flatMap escape ++ '"' :: s) : cs = ds ∧ r = s := by
  induction cs generalizing ds with
  | nil =>
      cases ds with
      | nil => exact ⟨rfl, List.tail_eq_of_cons_eq h⟩
      | cons d rest =>
          rw [List.flatMap_cons, List.append_assoc] at h
          exact absurd (congrArg List.head? h).symm (head?_escape_append_ne_quote d _)
  | cons c rest ih =>
      cases ds with
      | nil =>
          rw [List.flatMap_cons, List.append_assoc] at h
          exact absurd (congrArg List.head? h) (head?_escape_append_ne_quote c _)
      | cons d rest' =>
          rw [List.flatMap_cons, List.flatMap_cons, List.append_assoc, List.append_assoc] at h
          have ⟨first, later⟩ := escape_append_injective h
          have ⟨others, behind⟩ := ih later
          exact ⟨by rw [first, others], behind⟩

theorem compactString_append (t : String) (rest : List Char) :
    (compactString t).toList ++ rest = '"' :: (t.toList.flatMap escape ++ '"' :: rest) := by
  simp [compactString]

theorem compactString_append_injective {t u : String} {r s : List Char}
    (h : (compactString t).toList ++ r = (compactString u).toList ++ s) : t = u ∧ r = s := by
  rw [compactString_append, compactString_append] at h
  have ⟨characters, behind⟩ := quoted_append_injective (List.tail_eq_of_cons_eq h)
  exact ⟨String.toList_inj.1 characters, behind⟩

/-! ## Lists -/

section Lists

variable {α : Type} {text : α → List Char} {close : Char}

/-- What stands behind the first of several texts: the others, each behind a comma, then the mark that
closes the list, and the rest. -/
def behindFirst (close : Char) (texts : List (List Char)) (rest : List Char) : List Char :=
  (texts.flatMap fun t => ',' :: t) ++ close :: rest

theorem intercalate_cons_append (t : List Char) (ts : List (List Char)) (rest : List Char) :
    [','].intercalate (t :: ts) ++ close :: rest = t ++ behindFirst close ts rest := by
  induction ts generalizing t with
  | nil => simp [behindFirst]
  | cons u us ih =>
      rw [List.intercalate_cons_cons, List.append_assoc, ih]
      simp [behindFirst]

theorem ends_behindFirst (hclose : isNumeral close = false) (texts : List (List Char))
    (rest : List Char) : Ends (behindFirst close texts rest) := by
  cases texts with
  | nil => exact ends_cons hclose _
  | cons t ts => exact ends_cons rfl _

theorem behindFirst_injective (hclose : isNumeral close = false) (comma : close ≠ ',')
    {items others : List α} (parts : ∀ a ∈ items, Legible text a) {r s : List Char}
    (h : behindFirst close (items.map text) r = behindFirst close (others.map text) s) :
    items = others ∧ r = s := by
  induction items generalizing others with
  | nil =>
      cases others with
      | nil => exact ⟨rfl, List.tail_eq_of_cons_eq h⟩
      | cons b bs => exact absurd (List.head_eq_of_cons_eq h) comma
  | cons a rest ih =>
      have ⟨hfirst, hrest⟩ := List.forall_mem_cons.1 parts
      cases others with
      | nil => exact absurd (List.head_eq_of_cons_eq h).symm comma
      | cons b bs =>
          simp only [behindFirst, List.map_cons, List.flatMap_cons, List.cons_append,
            List.append_assoc, List.cons.injEq, true_and] at h
          have ⟨first, later⟩ := hfirst b _ _ (ends_behindFirst hclose _ _)
            (ends_behindFirst hclose _ _) h
          have ⟨same, behind⟩ := ih hrest later
          exact ⟨by rw [first, same], behind⟩

/-- A list that is closed by a mark with which no item starts can be told from what follows it. -/
theorem intercalate_append_injective (hclose : isNumeral close = false) (comma : close ≠ ',')
    (opens : ∀ (a : α) rest, (text a ++ rest).head? ≠ some close)
    {items others : List α} (parts : ∀ a ∈ items, Legible text a) {r s : List Char}
    (h : [','].intercalate (items.map text) ++ close :: r =
      [','].intercalate (others.map text) ++ close :: s) :
    items = others ∧ r = s := by
  -- the first item has no comma before it, so it is told apart from the others
  cases items with
  | nil =>
      cases others with
      | nil => exact ⟨rfl, List.tail_eq_of_cons_eq h⟩
      | cons b bs =>
          rw [List.map_cons, intercalate_cons_append] at h
          exact absurd (congrArg List.head? h).symm (opens b _)
  | cons a rest =>
      have ⟨hfirst, hrest⟩ := List.forall_mem_cons.1 parts
      cases others with
      | nil =>
          rw [List.map_cons, intercalate_cons_append] at h
          exact absurd (congrArg List.head? h) (opens a _)
      | cons b bs =>
          rw [List.map_cons, List.map_cons, intercalate_cons_append,
            intercalate_cons_append] at h
          have ⟨first, later⟩ := hfirst b _ _ (ends_behindFirst hclose _ _)
            (ends_behindFirst hclose _ _) h
          have ⟨same, behind⟩ := behindFirst_injective hclose comma hrest later
          exact ⟨by rw [first, same], behind⟩

end Lists

/-! ## Documents -/

/-- Induction over documents, with the hypothesis for each item of an array and for what each member
of an object holds. -/
theorem nested_induction {P : Document → Prop}
    (null : P null) (bool : ∀ b, P (bool b)) (number : ∀ m places, P (number m places))
    (string : ∀ s, P (string s)) (array : ∀ items, (∀ d ∈ items, P d) → P (array items))
    (object : ∀ members, (∀ m ∈ members, P m.2) → P (object members)) (d : Document) : P d := by
  refine @Document.rec P (fun items => ∀ d ∈ items, P d) (fun members => ∀ m ∈ members, P m.2)
    (fun member => P member.2) null bool number string array object ?_ ?_ ?_ ?_ ?_ d
  · simp
  · intro item rest hitem hrest
    exact List.forall_mem_cons.2 ⟨hitem, hrest⟩
  · simp
  · intro member rest hmember hrest
    exact List.forall_mem_cons.2 ⟨hmember, hrest⟩
  · intro name d hd
    exact hd

def characters (d : Document) : List Char :=
  (compact d).toList

def memberCharacters (m : String × Document) : List Char :=
  (compactString m.1).toList ++ ':' :: characters m.2

theorem compactItems_eq (items : List Document) : compactItems items = items.map compact := by
  induction items with
  | nil => rfl
  | cons item rest ih => rw [compactItems, ih, List.map_cons]

theorem compactMembers_eq (members : List (String × Document)) :
    compactMembers members = members.map compactMember := by
  induction members with
  | nil => rfl
  | cons member rest ih => rw [compactMembers, ih, List.map_cons]

theorem characters_array_append (items : List Document) (rest : List Char) :
    characters (array items) ++ rest =
      '[' :: ([','].intercalate (items.map characters) ++ ']' :: rest) := by
  have texts : items.map (String.toList ∘ compact) = items.map characters := rfl
  simp [characters, compact, compactItems_eq, texts]

theorem characters_object_append (members : List (String × Document)) (rest : List Char) :
    characters (object members) ++ rest =
      '\x7b' :: ([','].intercalate (members.map memberCharacters) ++ '\x7d' :: rest) := by
  have texts : members.map (String.toList ∘ compactMember) = members.map memberCharacters :=
    List.map_congr_left fun (name, d) _ => by simp [compactMember, memberCharacters, characters]
  simp [characters, compact, compactMembers_eq, texts]

/-- The kinds of documents. -/
inductive Kind where
  | null
  | bool
  | number
  | string
  | array
  | object

def kind : Document → Kind
  | null => .null
  | bool _ => .bool
  | number .. => .number
  | string _ => .string
  | array _ => .array
  | object _ => .object

/-- The kind of the documents whose texts start with a character. -/
def Kind.ofChar? (c : Char) : Option Kind :=
  if isNumeral c then
    some number
  else
    match c with
    | 'n' => some null
    | 't' | 'f' => some bool
    | '"' => some string
    | '[' => some array
    | '\x7b' => some object
    | _ => none

theorem head?_characters_append (d : Document) (rest : List Char) :
    ∃ c, (characters d ++ rest).head? = some c ∧ Kind.ofChar? c = some d.kind := by
  cases d with
  | null => exact ⟨'n', rfl, rfl⟩
  | bool b =>
      cases b with
      | true => exact ⟨'t', rfl, rfl⟩
      | false => exact ⟨'f', rfl, rfl⟩
  | number m places =>
      obtain ⟨c, first, numeral⟩ := head?_compactNumber_append m places rest
      exact ⟨c, first, if_pos numeral⟩
  | string t => exact ⟨'"', by simp [characters, compact, compactString_append], rfl⟩
  | array items => exact ⟨'[', by rw [characters_array_append]; rfl, rfl⟩
  | object members => exact ⟨'\x7b', by rw [characters_object_append]; rfl, rfl⟩

/-- Texts that start alike are texts of documents of one kind. -/
theorem kind_eq {d e : Document} {r s : List Char} (h : characters d ++ r = characters e ++ s) :
    d.kind = e.kind := by
  obtain ⟨c, first, hd⟩ := head?_characters_append d r
  obtain ⟨c', first', he⟩ := head?_characters_append e s
  rw [h, first'] at first
  rw [← Option.some.inj first, he] at hd
  exact (Option.some.inj hd).symm

theorem head?_characters_append_ne_bracket (d : Document) (rest : List Char) :
    (characters d ++ rest).head? ≠ some ']' := by
  obtain ⟨c, first, hd⟩ := head?_characters_append d rest
  intro bracket
  rw [first] at bracket
  rw [Option.some.inj bracket] at hd
  cases hd

theorem legible_member {m : String × Document} (h : Legible characters m.2) :
    Legible memberCharacters m := by
  intro other r s hr hs same
  simp only [memberCharacters, List.append_assoc, List.cons_append] at same
  have ⟨name, later⟩ := compactString_append_injective same
  have ⟨held, behind⟩ := h other.2 r s hr hs (List.tail_eq_of_cons_eq later)
  exact ⟨Prod.ext name held, behind⟩

theorem legible (d : Document) : Legible characters d := by
  -- the first character shows the kind of the document, and each kind has its own end
  induction d using nested_induction with
  | null =>
      intro e r s _ _ h
      cases e with
      | null => exact ⟨rfl, List.append_cancel_left h⟩
      | _ => cases kind_eq h
  | bool b =>
      intro e r s _ _ h
      cases e with
      | bool b' =>
          have same : b = b' := by
            cases b <;> cases b' <;> first | rfl | cases congrArg List.head? h
          subst same
          exact ⟨rfl, List.append_cancel_left h⟩
      | _ => cases kind_eq h
  | number m places =>
      intro e r s hr hs h
      cases e with
      | number m' places' =>
          have ⟨texts, behind⟩ := eq_of_append_eq (fun _ => isNumeral_of_mem_compactNumber)
            (fun _ => isNumeral_of_mem_compactNumber) hr hs h
          have ⟨hm, hplaces⟩ := compactNumber_injective texts
          exact ⟨by rw [hm, hplaces], behind⟩
      | _ => cases kind_eq h
  | string t =>
      intro e r s _ _ h
      cases e with
      | string u =>
          have ⟨same, behind⟩ := compactString_append_injective h
          exact ⟨congrArg string same, behind⟩
      | _ => cases kind_eq h
  | array items ih =>
      intro e r s _ _ h
      cases e with
      | array others =>
          rw [characters_array_append, characters_array_append] at h
          have ⟨same, behind⟩ := intercalate_append_injective rfl (by decide)
            head?_characters_append_ne_bracket ih (List.tail_eq_of_cons_eq h)
          exact ⟨congrArg array same, behind⟩
      | _ => cases kind_eq h
  | object members ih =>
      intro e r s _ _ h
      cases e with
      | object others =>
          have quoted (m : String × Document) (rest : List Char) :
              (memberCharacters m ++ rest).head? ≠ some '\x7d' := by
            simp [memberCharacters, compactString_append]
          rw [characters_object_append, characters_object_append] at h
          have ⟨same, behind⟩ := intercalate_append_injective rfl (by decide) quoted
            (fun m hm => legible_member (ih m hm)) (List.tail_eq_of_cons_eq h)
          exact ⟨congrArg object same, behind⟩
      | _ => cases kind_eq h

/-- The compact text of a document determines the document. -/
theorem compact_injective {d e : Document} (h : d.compact = e.compact) : d = e := by
  refine (legible d e [] [] ends_nil ends_nil ?_).1
  simp only [characters, h]

end Document
end RuleEngine
