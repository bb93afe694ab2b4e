import RuleEngine.Template.SourceText

/-!
# Configuration is layout

The source text of a class is made of lines that know their levels.  It can also be written by a hand
that only knows the level at which it stands: it goes one level deeper before the inside of a block and
comes back behind it.  That is a matter of balance: a method without statements has no inside, a struct
without fields has none, and a block may hold any number of methods, and behind all of them the hand
has to stand where it stood before.

It does, in every class (`Template.writes_lines`).  So both ways of writing give one text, and the
configuration has no say in what is written: the width of a level decides how many blanks stand before
a line, and the header is put before the rest.
-/

namespace RuleEngine

/-! ## Writing by hand -/

/-- What a hand may do: write a line, go one level deeper, or come one level back. -/
inductive Move where
  | line (text : String)
  | deeper
  | back

/-- A hand that writes: the level at which it stands, the lines that it has written, each with its
level, and their text. -/
structure Writer where
  level : Nat
  lines : List Line
  text : String

def blanks (n : Nat) : String :=
  String.ofList (List.replicate n ' ')

namespace Writer

def start : Writer :=
  ⟨0, [], ""⟩

/-- One move.  A line that is not empty is preceded by the blanks of the level.  From the outermost
level there is no way back. -/
def move? (indent : Nat) (w : Writer) : Move → Option Writer
  | .line text =>
    let before := if text.isEmpty then "" else blanks (w.level * indent)
    some ⟨w.level, w.lines ++ [⟨w.level, text⟩], w.text ++ before ++ text ++ "\n"⟩
  | .deeper => some { w with level := w.level + 1 }
  | .back =>
    match w.level with
    | 0 => none
    | level + 1 => some { w with level := level }

def run? (indent : Nat) (w : Writer) : List Move → Option Writer
  | [] => some w
  | m :: rest => (w.move? indent m).bind (run? indent · rest)

theorem run?_append (indent : Nat) (w : Writer) (first second : List Move) :
    w.run? indent (first ++ second) = (w.run? indent first).bind (run? indent · second) := by
  induction first generalizing w with
  | nil => rfl
  | cons m rest ih =>
      simp only [List.cons_append, run?]
      cases w.move? indent m with
      | none => rfl
      | some w' => exact ih w'

/-- The writer with lines added, at the level at which it stands. -/
def add (style : RenderStyle) (w : Writer) (lines : List Line) : Writer :=
  ⟨w.level, w.lines ++ lines, w.text ++ String.join (lines.map (Line.render style))⟩

theorem add_nil (style : RenderStyle) (w : Writer) : w.add style [] = w := by
  simp [add]

theorem add_append (style : RenderStyle) (w : Writer) (first second : List Line) :
    w.add style (first ++ second) = (w.add style first).add style second := by
  simp [add, String.join_append, String.append_assoc]

end Writer

theorem Line.render_eq (style : RenderStyle) (l : Line) :
    l.render style =
      (if l.text.isEmpty then "" else blanks (l.level * style.indent)) ++ l.text ++ "\n" := by
  unfold Line.render
  cases empty : l.text.isEmpty with
  | true => simp [String.isEmpty_iff.1 empty]
  | false => rfl

/-! ## Balanced moves -/

/-- Begun at a level, the moves write the lines, at the levels that these have, and end at the level
at which they began.  They never leave the outermost level, and what is written does not depend on the
style. -/
def Writes (level : Nat) (moves : List Move) (lines : List Line) : Prop :=
  ∀ (style : RenderStyle) (w : Writer), w.level = level →
    w.run? style.indent moves = some (w.add style lines)

namespace Writes

variable {level : Nat} {moves first second : List Move} {lines lines' : List Line}

theorem nil : Writes level [] [] := by
  intro style w _
  exact congrArg some (w.add_nil style).symm

theorem line (text : String) : Writes level [.line text] [⟨level, text⟩] := by
  rintro style w rfl
  simp [Writer.run?, Writer.move?, Writer.add, Line.render_eq, String.append_assoc]

theorem append (h : Writes level first lines) (h' : Writes level second lines') :
    Writes level (first ++ second) (lines ++ lines') := by
  intro style w here
  have after := h' style (w.add style lines) here
  rw [Writer.run?_append, h style w here, Writer.add_append]
  exact after

theorem lineThen (text : String) (h : Writes level moves lines) :
    Writes level (.line text :: moves) (⟨level, text⟩ :: lines) :=
  (line text).append h

/-- What is written one level deeper is written, and the level is as before. -/
theorem inside (h : Writes (level + 1) moves lines) :
    Writes level (.deeper :: moves ++ [.back]) lines := by
  rintro style w rfl
  have deep := h style { w with level := w.level + 1 } rfl
  calc
    w.run? style.indent (.deeper :: moves ++ [.back])
        = (Writer.run? style.indent { w with level := w.level + 1 } moves).bind
            (Writer.run? style.indent · [.back]) := Writer.run?_append _ _ moves [.back]
    _ = Writer.run? style.indent (Writer.add style { w with level := w.level + 1 } lines)
          [.back] := by rw [deep]; rfl
    _ = some (w.add style lines) := rfl

/-- The lines for several things, one for each. -/
theorem each {α : Type} (text : α → String) (items : List α) :
    Writes level (items.map fun a => .line (text a)) (items.map fun a => ⟨level, text a⟩) := by
  induction items with
  | nil => exact nil
  | cons a rest ih => exact lineThen (text a) ih

theorem intercalate {α : Type} (between : String) {writing : α → List Move} {shown : α → List Line}
    (items : List α) (h : ∀ a ∈ items, Writes level (writing a) (shown a)) :
    Writes level ([Move.line between].intercalate (items.map writing))
      ([(⟨level, between⟩ : Line)].intercalate (items.map shown)) := by
  induction items with
  | nil => exact nil
  | cons a rest ih =>
      have ⟨hfirst, hrest⟩ := List.forall_mem_cons.1 h
      cases rest with
      | nil => simpa using hfirst
      | cons b later =>
          simp only [List.map_cons, List.intercalate_cons_cons]
          exact (hfirst.append (line between)).append (ih hrest)

end Writes

/-! ## Classes by hand -/

section Classes

variable (slotText : SlotText)

/-- The moves for a method.  A method without statements has no inside. -/
def Method.moves (isPublic : Bool) (m : Method) : List Move :=
  let head := m.head slotText isPublic
  if m.body.isEmpty then
    [.line (head ++ " \x7b\x7d")]
  else
    .line (head ++ " \x7b") ::
      (.deeper :: m.body.map (fun s => .line (s.render slotText)) ++ [.back]) ++ [.line "\x7d"]

namespace Template

def headerMoves (t : Template) : List Move :=
  let package :=
    match t.package with
    | some package => [.line ("// package " ++ package)]
    | none => []
  package ++ [.line ("// generated from " ++ t.origin), .line ""]

def structMoves (t : Template) : List Move :=
  let head := "pub struct " ++ t.name.render slotText
  if t.fields.isEmpty then
    [.line (head ++ ";")]
  else
    .line (head ++ " \x7b") ::
      (.deeper :: t.fields.map (fun f => .line (f.render slotText ++ ",")) ++ [.back]) ++
        [.line "\x7d"]

/-- The moves for a block of methods. -/
def blockMoves (head : String) (body : List Move) : List Move :=
  .line "" :: .line ("impl " ++ head ++ " \x7b") :: (.deeper :: body ++ [.back]) ++ [.line "\x7d"]

def makerMoves (t : Template) : List Move :=
  match t.maker? with
  | none => []
  | some m => blockMoves (t.name.render slotText) (m.moves slotText true)

def methodsMoves (t : Template) : List Move :=
  let methods (isPublic : Bool) : List Move :=
    [Move.line ""].intercalate (t.methods.map (Method.moves slotText isPublic))
  if t.methods.isEmpty then
    []
  else
    match t.implements with
    | [] => blockMoves (t.name.render slotText) (methods true)
    | first :: _ =>
      blockMoves (first.render slotText ++ " for " ++ t.name.render slotText) (methods false)

/-- The moves for a class, with the header or without it. -/
def moves (header : Bool) (t : Template) : List Move :=
  (if header then t.headerMoves else []) ++
    (t.structMoves slotText ++ t.makerMoves slotText ++ t.methodsMoves slotText)

end Template

theorem Method.writes_lines (isPublic : Bool) (level : Nat) (m : Method) :
    Writes level (m.moves slotText isPublic) (m.lines slotText isPublic level) := by
  unfold Method.moves Method.lines
  cases m.body.isEmpty with
  | true => exact .line _
  | false =>
      exact (Writes.lineThen _ (Writes.each (Stmt.render slotText) m.body).inside).append (.line _)

namespace Template

theorem writes_headerLines (t : Template) : Writes 0 t.headerMoves t.headerLines := by
  unfold headerMoves headerLines
  cases t.package with
  | none => exact .lineThen _ (.line _)
  | some package => exact .lineThen _ (.lineThen _ (.line _))

theorem writes_structLines (t : Template) :
    Writes 0 (t.structMoves slotText) (t.structLines slotText) := by
  have fields : Writes 1 (t.fields.map fun f => .line (f.render slotText ++ ","))
      (t.fields.map fun f => ⟨1, f.render slotText ++ ","⟩) := .each _ t.fields
  unfold structMoves structLines
  cases t.fields.isEmpty with
  | true => exact .line _
  | false => exact (Writes.lineThen _ fields.inside).append (.line _)

theorem writes_blockLines (head : String) {body : List Move} {lines : List Line}
    (h : Writes 1 body lines) : Writes 0 (blockMoves head body) (blockLines head lines) :=
  (Writes.lineThen _ (.lineThen _ h.inside)).append (.line _)

theorem writes_makerLines (t : Template) :
    Writes 0 (t.makerMoves slotText) (t.makerLines slotText) := by
  unfold makerMoves makerLines
  cases t.maker? with
  | none => exact .nil
  | some m => exact writes_blockLines _ (m.writes_lines slotText true 1)

theorem writes_methodsLines (t : Template) :
    Writes 0 (t.methodsMoves slotText) (t.methodsLines slotText) := by
  have methods (isPublic : Bool) :
      Writes 1 ([Move.line ""].intercalate (t.methods.map (Method.moves slotText isPublic)))
        (methodLines slotText isPublic t.methods) :=
    .intercalate "" t.methods fun m _ => m.writes_lines slotText isPublic 1
  unfold methodsMoves methodsLines
  cases t.methods.isEmpty with
  | true => exact .nil
  | false =>
      cases t.implements with
      | nil => exact writes_blockLines _ (methods true)
      | cons first rest => exact writes_blockLines _ (methods false)

theorem writes_lines (style : RenderStyle) (t : Template) :
    Writes 0 (t.moves slotText style.header) (t.lines slotText style) := by
  have body := ((t.writes_structLines slotText).append (t.writes_makerLines slotText)).append
    (t.writes_methodsLines slotText)
  unfold moves lines
  cases style.header with
  | true => exact t.writes_headerLines.append body
  | false => exact Writes.nil.append body

end Template

end Classes

/-! ## The header -/

theorem Line.render_outermost (style : RenderStyle) (text : String) :
    Line.render style ⟨0, text⟩ = text ++ "\n" := by
  have no_blanks : blanks (0 * style.indent) = "" := by simp [blanks]
  rw [Line.render_eq, no_blanks, ite_self, String.empty_append]

namespace Template

/-- The header block: the package, if there is one, the template, and an empty line. -/
def headerText (t : Template) : String :=
  let package :=
    match t.package with
    | some package => "// package " ++ package ++ "\n"
    | none => ""
  package ++ "// generated from " ++ t.origin ++ "\n\n"

theorem join_headerLines (style : RenderStyle) (t : Template) :
    String.join (t.headerLines.map (Line.render style)) = t.headerText := by
  unfold headerLines headerText
  cases t.package with
  | none =>
      simp only [List.nil_append, List.map_cons, List.map_nil, String.join_cons, String.join_nil,
        Line.render_outermost, String.append_assoc]
      rfl
  | some package =>
      simp only [List.cons_append, List.nil_append, List.map_cons, List.map_nil, String.join_cons,
        String.join_nil, Line.render_outermost, String.append_assoc, -String.reduceAppend]
      rfl

theorem render_header (indent : Nat) (t : Template) :
    t.render ⟨indent, true⟩ = t.headerText ++ t.render ⟨indent, false⟩ := by
  have parts : t.lines Slot.marker ⟨indent, true⟩ =
      t.headerLines ++ t.lines Slot.marker ⟨indent, false⟩ := rfl
  calc
    t.render ⟨indent, true⟩
        = String.join (t.headerLines.map (Line.render ⟨indent, true⟩)) ++
            String.join ((t.lines Slot.marker ⟨indent, false⟩).map (Line.render ⟨indent, true⟩)) := by
          rw [← String.join_append, ← List.map_append, ← parts]
          rfl
    _ = t.headerText ++ t.render ⟨indent, false⟩ := by
          rw [join_headerLines]
          rfl

/-- In every class, whatever fields, constructor and methods it has:

* the text with the header is the header block, followed by the text without it;
* with the header or without it, there is one sequence of lines, each with its level, for all widths of
  a level.  By hand, the lines are written with these texts at these levels, with no step back from the
  outermost level, and the hand ends at the outermost level;
* the text is that of the lines, each preceded by the blanks of its level, as many times the width as
  the level says, unless it is empty. -/
theorem configuration_decides_layout (t : Template) :
    (∀ indent, t.render ⟨indent, true⟩ = t.headerText ++ t.render ⟨indent, false⟩) ∧
    ∀ header, ∃ lines : List Line, ∀ indent,
      Writer.start.run? indent (t.moves Slot.marker header) =
        some ⟨0, lines, t.render ⟨indent, header⟩⟩ ∧
      t.render ⟨indent, header⟩ = String.join (lines.map fun l =>
        (if l.text.isEmpty then "" else blanks (l.level * indent)) ++ l.text ++ "\n") := by
  refine ⟨fun indent => t.render_header indent, fun header => ?_⟩
  -- the lines of a class do not look at the width, so those for any width will do
  refine ⟨t.lines Slot.marker ⟨0, header⟩, fun indent => ⟨?_, ?_⟩⟩
  · exact t.writes_lines Slot.marker ⟨indent, header⟩ ⟨indent, header⟩ .start rfl
  · exact congrArg String.join (List.map_congr_left fun l _ => l.render_eq ⟨indent, header⟩)

end Template
end RuleEngine
