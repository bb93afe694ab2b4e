import RuleEngine.Error
import RuleEngine.Value.Equality

/-!
# Working memory

A working memory holds the live facts, each under the handle that it was given when it came in.
Handles ascend in the order of insertion and are never given out twice.

Beside the facts the memory keeps an index, which answers which handles hold an object.  Facts and
sources are looked up by instance, so that a copy of a stored fact is found and an equal fact is
not; everything else is looked up by equality.  When several handles hold the object, the oldest one
answers.
-/

namespace RuleEngine

/-! ## Keys of the index -/

/-- What an object is looked up by. -/
inductive Identity where
  | fact (id : InstanceId)
  | stream (id : SourceId)
  | equal (v : Value)

namespace Identity

def of : Value → Identity
  | .fact id _ _ => fact id
  | .source id => stream id
  | v => equal v

/-- Whether two keys are the same. -/
def beq : Identity → Identity → Bool
  | fact a, fact b => a == b
  | stream a, stream b => a == b
  | equal v, equal w => v == w
  | _, _ => false

instance : BEq Identity := ⟨beq⟩

end Identity

/-! ## The index -/

/-- The handles that hold each key, oldest first.  No key is listed without handles. -/
abbrev IdentityIndex := List (Identity × List Handle)

namespace IdentityIndex

def addHandle (h : Handle) : List Handle → List Handle
  | [] => [h]
  | g :: rest =>
    match h.order g with
    | .lt => h :: g :: rest
    | .eq => g :: rest
    | .gt => g :: addHandle h rest

def add (key : Identity) (h : Handle) : IdentityIndex → IdentityIndex
  | [] => [(key, [h])]
  | entry :: rest =>
    if entry.1 == key then (entry.1, addHandle h entry.2) :: rest else entry :: add key h rest

def remove (key : Identity) (h : Handle) : IdentityIndex → IdentityIndex
  | [] => []
  | entry :: rest =>
    if entry.1 == key then
      match entry.2.filter (· ≠ h) with
      | [] => rest
      | handles => (entry.1, handles) :: rest
    else
      entry :: remove key h rest

def handles (key : Identity) (index : IdentityIndex) : List Handle :=
  match index.find? (·.1 == key) with
  | some entry => entry.2
  | none => []

end IdentityIndex

/-! ## The memory -/

/-- The live facts, oldest first, the number of the next handle, and the index of identities. -/
structure WorkingMemory where
  nextId : Nat
  facts : List (Handle × Value)
  identities : IdentityIndex

namespace WorkingMemory

def empty : WorkingMemory :=
  ⟨0, [], []⟩

instance : Inhabited WorkingMemory := ⟨empty⟩

def find? (m : WorkingMemory) (h : Handle) : Option Value :=
  (m.facts.find? (·.1 = h)).map (·.2)

def contains (m : WorkingMemory) (h : Handle) : Bool :=
  (m.find? h).isSome

/-- The oldest handle that holds an object. -/
def holder? (m : WorkingMemory) (v : Value) : Option Handle :=
  (m.identities.handles (.of v)).head?

def size (m : WorkingMemory) : Nat :=
  m.facts.length

def inPartition (m : WorkingMemory) (partition : Nat) : List (Handle × Value) :=
  m.facts.filter (·.1.partition = partition)

def insert (m : WorkingMemory) (v : Value) (partition : Nat) : Handle × WorkingMemory :=
  let h : Handle := ⟨m.nextId, partition⟩
  (h,
    { nextId := m.nextId + 1
      facts := m.facts ++ [(h, v)]
      identities := m.identities.add (.of v) h })

def update (m : WorkingMemory) (h : Handle) (v : Value) : Except Error WorkingMemory :=
  match m.find? h with
  | none => .error (Cause.factNotFound h)
  | some old =>
    .ok
      { m with
        facts := m.facts.map fun e => if e.1 = h then (h, v) else e
        identities := (m.identities.remove (.of old) h).add (.of v) h }

def retract (m : WorkingMemory) (h : Handle) : Except Error (Value × WorkingMemory) :=
  match m.find? h with
  | none => .error (Cause.factNotFound h)
  | some old =>
    .ok (old,
      { m with
        facts := m.facts.filter (·.1 ≠ h)
        identities := m.identities.remove (.of old) h })

end WorkingMemory
end RuleEngine
