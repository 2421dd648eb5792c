import StoredSql.Keyword
import StoredSql.Value

/-!
# Outlines

The outline of a value tells what it is made of without its type: plain values, sequences, and
nodes of a named kind with named fields, and members of fixed choices. Values of different types are
compared, searched for variables and shown by their outlines.
-/

namespace StoredSql

/-- What a value is made of. The value of a `member` is what it stands for, mostly its word. The
note of a node tells something about it that is no part of it; of a `hidden` value only the kind is
known. -/
inductive Outline where
  | value (v : Value)
  | member (choice name : String) (value : Outline)
  | list (items : List Outline)
  | tuple (items : List Outline)
  | mapping (entries : List (String × Outline))
  | node (kind : String) (fields : List (String × Outline)) (note : Option (String × Outline))
  | hidden (kind : String)

namespace Outline

instance : Inhabited Outline := ⟨.hidden ""⟩

/-- The outline of a text. -/
def text (s : String) : Outline := .value (.text s)

/-- The outline of a truth value. -/
def bool (b : Bool) : Outline := .value (.bool b)

/-- The outline of a count. -/
def count (n : Nat) : Outline := .value (.int n)

/-- The outline of a member of a fixed choice. -/
def word {α : Type} [Keyword α] (a : α) : Outline :=
  .member (Keyword.title α) (Keyword.name a) (text (Keyword.word a))

/-- The outline of nothing. -/
def null : Outline := .value .null

/-- The outline of texts. -/
def texts (ss : List String) : Outline := .tuple (ss.map text)

/-- The outline of a part that may be missing. -/
def optional {α : Type} (f : α → Outline) : Option α → Outline
  | none => null
  | some a => f a

/-- A node without a note. -/
def plain (kind : String) (fields : List (String × Outline)) : Outline := .node kind fields none

/-- How messages name the kind of a value. -/
def kindName : Outline → String
  | value v => v.kindName
  | member choice _ _ => choice
  | list _ => "list"
  | tuple _ => "tuple"
  | mapping _ => "dict"
  | node kind _ _ => kind
  | hidden kind => kind

/-- The text of a value that is one. -/
def text? : Outline → Option String
  | value v => v.text?
  | _ => none

/-- Whether a value is false, zero, empty or nothing. -/
def isFalsy : Outline → Bool
  | value .null => true
  | value (.bool b) => !b
  | value (.int n) => n = 0
  | value (.float (.finite _ m _)) => m = 0
  | value (.decimal (.finite _ c _)) => c = 0
  | value (.bytes bs) => bs.isEmpty
  | value (.buffer bs) => bs.isEmpty
  | value (.text s) => s.isEmpty
  | list items => items.isEmpty
  | tuple items => items.isEmpty
  | mapping entries => entries.isEmpty
  | _ => false

/-- The parts of a value that has some, in order: the items of a sequence, the keys of a mapping,
the characters of a text, the numbers of a byte string. -/
def items? : Outline → Option (List Outline)
  | list items => some items
  | tuple items => some items
  | mapping entries => some (entries.map fun entry => text entry.1)
  | value (.bytes bs) => some (bs.map fun b => count b.toNat)
  | value (.buffer bs) => some (bs.map fun b => count b.toNat)
  | value v => v.text?.map fun s => s.toList.map fun c => text (String.ofList [c])
  | _ => none

/-- The kind of the nodes that refer to a variable. -/
def variableKind : String := "VariableRef"

mutual

/-- The names of the variables that a value refers to, from left to right. Mappings and notes are
not searched. -/
def variableNames : Outline → List String
  | value _ => []
  | member .. => []
  | list items => variableNamesOfList items
  | tuple items => variableNamesOfList items
  | mapping _ => []
  | node kind fields _ =>
    if kind = variableKind then
      match fields with
      | [(_, value (.text name))] => [name]
      | _ => []
    else variableNamesOfFields fields
  | hidden _ => []

def variableNamesOfList : List Outline → List String
  | [] => []
  | o :: os => variableNames o ++ variableNamesOfList os

def variableNamesOfFields : List (String × Outline) → List String
  | [] => []
  | (_, o) :: fields => variableNames o ++ variableNamesOfFields fields

end

/-- Equality of plain values. Some decimals cannot be compared with numbers. -/
def sameValue (a b : Value) : Except Error Bool :=
  if (a.isSignaling || b.isSignaling) && a.worth?.isSome && b.worth?.isSome then
    .error .signalingComparison
  else .ok (a.same b)

mutual

/-- Whether two values are equal: of one kind, with equal parts, of which those behind the first
difference are not looked at. A member that stands for a word equals the word. Notes do not count,
and a hidden value equals nothing. -/
def same : Outline → Outline → Except Error Bool
  | value a, value b => sameValue a b
  | member _ _ a, member _ _ b => same a b
  | member _ _ (value a), value b => sameValue a b
  | value a, member _ _ (value b) => sameValue a b
  | list as, list bs => if as.length = bs.length then sameItems as bs else .ok false
  | tuple as, tuple bs => sameItems as bs
  | mapping as, mapping bs => if as.length = bs.length then sameEntries as bs else .ok false
  | node kind fields _, node kind' fields' _ =>
    if kind = kind' then sameFields fields fields' else .ok false
  | _, _ => .ok false

def sameItems : List Outline → List Outline → Except Error Bool
  | [], [] => .ok true
  | a :: as, b :: bs => do if ← same a b then sameItems as bs else pure false
  | _, _ => .ok false

def sameFields : List (String × Outline) → List (String × Outline) → Except Error Bool
  | [], [] => .ok true
  | (_, a) :: as, (_, b) :: bs => do if ← same a b then sameFields as bs else pure false
  | _, _ => .ok false

/-- Whether each entry has an equal one of the same key among the others. -/
def sameEntries : List (String × Outline) → List (String × Outline) → Except Error Bool
  | [], _ => .ok true
  | (key, a) :: as, bs =>
    match bs.lookup key with
    | some b => do if ← same a b then sameEntries as bs else pure false
    | none => .ok false

end

mutual

/-- A value as messages show it. -/
def shown : Outline → String
  | value v => v.shown
  | member choice name o => "<" ++ choice ++ "." ++ name ++ ": " ++ shown o ++ ">"
  | list items => "[" ++ Text.joinWith ", " (shownItems items) ++ "]"
  | tuple [item] => "(" ++ shown item ++ ",)"
  | tuple items => "(" ++ Text.joinWith ", " (shownItems items) ++ ")"
  | mapping entries => "\x7b" ++ Text.joinWith ", " (shownEntries entries) ++ "\x7d"
  | node kind fields _ => kind ++ "(" ++ Text.joinWith ", " (shownFields fields) ++ ")"
  | hidden kind => kind

def shownItems : List Outline → List String
  | [] => []
  | o :: os => shown o :: shownItems os

def shownEntries : List (String × Outline) → List String
  | [] => []
  | (key, o) :: entries => (Text.quoted key ++ ": " ++ shown o) :: shownEntries entries

def shownFields : List (String × Outline) → List String
  | [] => []
  | (name, o) :: fields => (name ++ "=" ++ shown o) :: shownFields fields

end

/-- The member of a fixed choice that a value names. -/
def toMember {α : Type} [Keyword α] (o : Outline) : Except Error α :=
  match o.text? >>= Keyword.ofWord? with
  | some a => .ok a
  | none => .error (.notAMember o.shown (Keyword.title α))

end Outline
end StoredSql
