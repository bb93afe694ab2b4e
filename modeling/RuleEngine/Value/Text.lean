import RuleEngine.Value.Basic
import RuleEngine.Numeric.Shortest
import RuleEngine.Text.Quoted

/-!
# Texts of values

A value has two texts.  `display` is for readers: strings stand as they are, and items are set apart
by spaces.  `debug` is for diagnostics: strings are quoted, and items are set apart by commas.

The text of a source tells how much the stream holds at the time, so both texts take the tallies of
the streams.
-/

namespace RuleEngine

/-- How many values a stream holds and how many subscribers it has. -/
structure Tally where
  values : Nat
  subscribers : Nat
deriving DecidableEq

namespace Tally

def debug (t : Tally) : String :=
  s!"DataSource(values: {t.values}, subscribers: {t.subscribers})"

end Tally

namespace Value

/-- Texts between two brackets, with a mark after each but the last. -/
def bracketed (opening mark closing : String) (texts : List String) : String :=
  opening ++ mark.intercalate texts ++ closing

/-- Labelled texts in the order of their labels. -/
def labelled (texts : List (String × String)) : List String :=
  (texts.mergeSort fun a b => a.1 ≤ b.1).map fun e => e.1 ++ ": " ++ e.2

mutual

def display (tally : SourceId → Tally) : Value → String
  | nil => "nil"
  | bool b => if b then "true" else "false"
  | int n => toString n.toInt
  | float x => x.toText
  | string s => s
  | handle h => h.display
  | fact _ typeName fields =>
    typeName ++ bracketed "(" ", " ")" (labelled (displayFields tally fields))
  | vec items => bracketed "[" " " "]" (displayItems tally items)
  | map entries => bracketed "\x7b" ", " "\x7d" (displayEntries tally entries)
  | source id => s!"<source of {(tally id).values}>"

def displayField (tally : SourceId → Tally) : String × Value → String × String
  | (name, v) => (name, display tally v)

def displayFields (tally : SourceId → Tally) : List (String × Value) → List (String × String)
  | [] => []
  | e :: rest => displayField tally e :: displayFields tally rest

def displayItems (tally : SourceId → Tally) : List Value → List String
  | [] => []
  | v :: rest => display tally v :: displayItems tally rest

def displayEntry (tally : SourceId → Tally) : Value × Value → String
  | (k, v) => display tally k ++ " " ++ display tally v

def displayEntries (tally : SourceId → Tally) : List (Value × Value) → List String
  | [] => []
  | e :: rest => displayEntry tally e :: displayEntries tally rest

end

mutual

def debug (tally : SourceId → Tally) : Value → String
  | nil => "nil"
  | bool b => if b then "true" else "false"
  | int n => toString n.toInt
  | float x => x.toText
  | string s => Text.quoted s
  | handle h => h.debug
  | fact _ typeName fields => typeName ++ bracketed "\x7b" ", " "\x7d" (debugFields tally fields)
  | vec items => bracketed "[" ", " "]" (debugItems tally items)
  | map entries => bracketed "\x7b" ", " "\x7d" (debugEntries tally entries)
  | source id => (tally id).debug

def debugField (tally : SourceId → Tally) : String × Value → String
  | (name, v) => Text.quoted name ++ ": " ++ debug tally v

def debugFields (tally : SourceId → Tally) : List (String × Value) → List String
  | [] => []
  | e :: rest => debugField tally e :: debugFields tally rest

def debugItems (tally : SourceId → Tally) : List Value → List String
  | [] => []
  | v :: rest => debug tally v :: debugItems tally rest

def debugEntry (tally : SourceId → Tally) : Value × Value → String
  | (k, v) => debug tally k ++ ": " ++ debug tally v

def debugEntries (tally : SourceId → Tally) : List (Value × Value) → List String
  | [] => []
  | e :: rest => debugEntry tally e :: debugEntries tally rest

end

/-! ## Values whose text is settled by their content

The entries of a map have no order of their own.  A map with at most one entry has one text all the
same, and so has every value that is built from such maps.  The fields of a fact are put in order
for readers only. -/

mutual

/-- Whether no map in the value has more than one entry, and no fact more than `fields` fields. -/
def settled (fields : Option Nat) : Value → Bool
  -- without a bound on the fields, any number of them is settled
  | fact _ _ fs => fields.all (fs.length ≤ ·) && settledFields fields fs
  | vec items => settledItems fields items
  | map entries => entries.length ≤ 1 && settledEntries fields entries
  | _ => true

def settledField (fields : Option Nat) : String × Value → Bool
  | (_, v) => settled fields v

def settledFields (fields : Option Nat) : List (String × Value) → Bool
  | [] => true
  | e :: rest => settledField fields e && settledFields fields rest

def settledItems (fields : Option Nat) : List Value → Bool
  | [] => true
  | v :: rest => settled fields v && settledItems fields rest

def settledEntry (fields : Option Nat) : Value × Value → Bool
  | (k, v) => settled fields k && settled fields v

def settledEntries (fields : Option Nat) : List (Value × Value) → Bool
  | [] => true
  | e :: rest => settledEntry fields e && settledEntries fields rest

end

/-- Whether the content of a value settles its text for readers. -/
def displaySettled (v : Value) : Bool :=
  v.settled none

/-- Whether the content of a value settles its text for diagnostics. -/
def debugSettled (v : Value) : Bool :=
  v.settled (some 1)

end Value
end RuleEngine
