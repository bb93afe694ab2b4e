/-!
# Documents

A document is a tree of named and listed parts, as programs exchange them.  `compact` writes a
document on one line without blanks.  Members of an object stand in the order given.
-/

namespace RuleEngine

/-- A document.  A number is `mantissa / 10 ^ places`; it is whole when it has no places. -/
inductive Document where
  | null
  | bool (b : Bool)
  | number (mantissa : Int) (places : Nat)
  | string (s : String)
  | array (items : List Document)
  | object (members : List (String × Document))

namespace Document

instance : Inhabited Document := ⟨null⟩

def int (n : Int) : Document :=
  number n 0

def nat (n : Nat) : Document :=
  number n 0

def strings (texts : List String) : Document :=
  array (texts.map string)

def optional (d : Option Document) : Document :=
  d.getD null

/-! ## Compact text -/

/-- A number in base sixteen, lower case, with at least `width` digits. -/
def paddedHexadecimal (width n : Nat) : List Char :=
  let digits := Nat.toDigits 16 n
  List.replicate (width - digits.length) '0' ++ digits

def escape (c : Char) : List Char :=
  match c with
  | '"' => ['\\', '"']
  | '\\' => ['\\', '\\']
  | '\x08' => ['\\', 'b']
  | '\t' => ['\\', 't']
  | '\n' => ['\\', 'n']
  | '\x0c' => ['\\', 'f']
  | '\r' => ['\\', 'r']
  | c => if c.toNat < 0x20 then ['\\', 'u'] ++ paddedHexadecimal 4 c.toNat else [c]

def compactString (s : String) : String :=
  String.ofList ('"' :: s.toList.flatMap escape ++ ['"'])

/-- A number: its digits, with a point before the places. -/
def compactNumber (mantissa : Int) (places : Nat) : String :=
  if places = 0 then
    toString mantissa
  else
    let scale := Nat.pow 10 places
    let part := Nat.toDigits 10 (mantissa.natAbs % scale)
    let sign := if mantissa < 0 then "-" else ""
    sign ++ toString (mantissa.natAbs / scale) ++ "." ++
      String.ofList (List.replicate (places - part.length) '0' ++ part)

mutual

/-- The text of a document on one line, without blanks. -/
def compact : Document → String
  | null => "null"
  | bool b => if b then "true" else "false"
  | number mantissa places => compactNumber mantissa places
  | string s => compactString s
  | array items => "[" ++ ",".intercalate (compactItems items) ++ "]"
  | object members => "\x7b" ++ ",".intercalate (compactMembers members) ++ "\x7d"

def compactItems : List Document → List String
  | [] => []
  | d :: rest => compact d :: compactItems rest

def compactMember : String × Document → String
  | (name, d) => compactString name ++ ":" ++ compact d

def compactMembers : List (String × Document) → List String
  | [] => []
  | m :: rest => compactMember m :: compactMembers rest

end

end Document
end RuleEngine
