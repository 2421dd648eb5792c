import StoredSql.Proofs.Words

/-!
# Reading operators

A reader of terms (`TermReading`) goes from left to right: an operator of multiplication takes the
operand in front of it at once, and a sum waits until the product behind its operator is complete.
So `*`, `/`, `%` and `DIV` bind more tightly than `+` and `-`, and operators that bind as tightly are
read from the left (`TermReading.Reads.operation`). A term is an operand, be it a name, a literal, a
call, an `EXISTS` or a text in parentheses; but what stands in parentheses is read as well, and if it
is an operation, so is the term (`OperatorTree.ofTerm`).
-/

namespace StoredSql

open Scan

/-! ## Operator trees -/

/-- Operands with operators between them, grouped. -/
inductive OperatorTree (α : Type) where
  | operand (a : α)
  | operation (left : OperatorTree α) (op : ArithmeticOp) (right : OperatorTree α)
deriving DecidableEq, Repr

namespace OperatorTree

variable {α β : Type}

/-- Whether there is an operator. -/
def isOperation : OperatorTree α → Bool
  | operand _ => false
  | operation .. => true

/-- The tree with what comes of each operand. -/
def mapM (f : α → Except Error β) : OperatorTree α → Except Error (OperatorTree β)
  | operand a => (f a).map operand
  | operation left op right => do pure (operation (← left.mapM f) op (← right.mapM f))

end OperatorTree

/-- How tightly an operator binds: multiplication more than addition. -/
def ArithmeticOp.binding : ArithmeticOp → Nat
  | .add => 0
  | .sub => 0
  | .mul => 1
  | .div => 1
  | .intDiv => 1
  | .mod => 1

/-! ## The reader -/

/-- What waits for an operand: nothing, or another operand with an operator. -/
abbrev Waiting := Option (OperatorTree String × ArithmeticOp)

/-- What becomes of an operand that was waited for. -/
def Waiting.close : Waiting → OperatorTree String → OperatorTree String
  | none, tree => tree
  | some (left, op), tree => .operation left op tree

/-- Where the reader is: in front of an operand or behind one. A sum waits for a product, and a
product for an operand. -/
inductive TermReading where
  | inFront (sum product : Waiting)
  | behind (sum : Waiting) (product : OperatorTree String)

namespace TermReading

/-- Reads a term, if it can stand there. -/
def step (operand : String → Option (OperatorTree String)) :
    TermReading → String → Option TermReading
  | inFront sum product, t => (operand t).map fun tree => behind sum (product.close tree)
  | behind sum product, t =>
    (Keyword.ofWord? t : Option ArithmeticOp).map fun op =>
      if op.binding = 0 then inFront (some (sum.close product, op)) none
      else inFront sum (some (product, op))

/-- Reads terms one by one. -/
def run (operand : String → Option (OperatorTree String)) (r : TermReading) (ts : List String) :
    Option TermReading :=
  ts.foldlM (step operand) r

/-- What has been read as a whole. -/
def finish : TermReading → Option (OperatorTree String)
  | inFront .. => none
  | behind sum product => some (sum.close product)

variable {operand : String → Option (OperatorTree String)}

theorem run_append (r : TermReading) (ts us : List String) :
    run operand r (ts ++ us) = (run operand r ts).bind (run operand · us) := List.foldlM_append

theorem run_cons (r : TermReading) (t : String) (ts : List String) :
    run operand r (t :: ts) = (step operand r t).bind (run operand · ts) := rfl

theorem step_operator (sum : Waiting) (product : OperatorTree String) (op : ArithmeticOp) :
    step operand (behind sum product) (Keyword.word op) = some
      (if op.binding = 0 then inFront (some (sum.close product, op)) none
      else inFront sum (some (product, op))) := by
  cases op <;> rfl

end TermReading

namespace OperatorTree

/-- What stands in the parentheses that a text begins and ends with. -/
def enclosed? (t : String) : Option String :=
  match t.toList with
  | '(' :: cs => if cs.getLast? = some ')' then some (String.ofList cs.dropLast) else none
  | _ => none

/-- What a term is, where `inner` reads what stands in parentheses: if that is an operation, so is
the term, and else it is an operand as a whole. -/
def ofTerm (inner : String → Option (OperatorTree String)) (t : String) :
    Option (OperatorTree String) :=
  if isOperand t then
    some ((((enclosed? t).bind inner).filter isOperation).getD (.operand t))
  else none

/-- The operations in a text, with parentheses in it up to a depth. -/
def readUpTo : Nat → String → Option (OperatorTree String)
  | 0, _ => none
  | n + 1, t =>
    (TermReading.run (ofTerm (readUpTo n)) (.inFront none none) (terms t)).bind TermReading.finish

/-- The operations in a text. No text has as many parentheses as characters. -/
def read (t : String) : Option (OperatorTree String) := readUpTo (t.length + 1) t

end OperatorTree

/-! ## What is read of terms -/

namespace TermReading

/-- What is read of terms by how tightly they bind: a sum, a product, which a sum may wait for, or
an operand, which a product may wait for too. -/
def Reads (operand : String → Option (OperatorTree String)) (binding : Nat) (ts : List String)
    (tree : OperatorTree String) : Prop :=
  match binding with
  | 0 => ∃ sum product, run operand (inFront none none) ts = some (behind sum product) ∧
      sum.close product = tree
  | 1 => ∀ sum, run operand (inFront sum none) ts = some (behind sum tree)
  | _ => ∀ sum product,
      run operand (inFront sum product) ts = some (behind sum (product.close tree))

namespace Reads

variable {operand : String → Option (OperatorTree String)} {b b' : Nat} {ts us : List String}
  {tree tree' : OperatorTree String}

theorem product (h : Reads operand b ts tree) (hb : 1 ≤ b) : Reads operand 1 ts tree := by
  match b with
  | 0 => cases hb
  | 1 => exact h
  | b + 2 => exact fun sum => h sum none

theorem sum (h : Reads operand b ts tree) : Reads operand 0 ts tree := by
  match b with
  | 0 => exact h
  | b + 1 => exact ⟨none, tree, h.product (Nat.le_add_left 1 b) none, rfl⟩

/-- On the left of an operator what binds as tightly is read before it, on the right only what binds
more tightly. -/
theorem operation {op : ArithmeticOp} (h : Reads operand b ts tree) (h' : Reads operand b' us tree')
    (hb : op.binding ≤ b) (hb' : op.binding < b') :
    Reads operand op.binding (ts ++ Keyword.word op :: us) (.operation tree op tree') := by
  have hop : op.binding = 0 ∨ op.binding = 1 := by cases op <;> decide
  rcases hop with hop | hop
  · obtain ⟨sum, product, hrun, hclose⟩ := h.sum
    have hright := h'.product (by omega) (some (tree, op))
    rw [hop]
    refine ⟨some (tree, op), tree', ?_, rfl⟩
    rw [run_append, hrun, Option.bind_some, run_cons, step_operator, if_pos hop, hclose]
    exact hright
  · have hleft := h.product (by omega)
    obtain ⟨b', rfl⟩ : ∃ n, b' = n + 2 := ⟨b' - 2, by omega⟩
    rw [hop]
    intro sum
    rw [run_append, hleft sum, Option.bind_some, run_cons, step_operator, if_neg (by omega)]
    exact h' sum (some (tree, op))

theorem finish (h : Reads operand b ts tree) :
    (run operand (inFront none none) ts).bind TermReading.finish = some tree := by
  obtain ⟨sum, product, hrun, hclose⟩ := h.sum
  rw [hrun]
  exact congrArg some hclose

end Reads

/-- Behind the terms, if it can read them, the reader does not wait for an operand. -/
def Halts (ts : List String) : Prop :=
  ∀ inner sum product r, run (OperatorTree.ofTerm inner) (inFront sum product) ts = some r →
    ∃ sum product, r = behind sum product

/-- Terms that are no operations, as some word in them is neither an operand nor an operator where
it stands. -/
def Refused (ts : List String) : Prop :=
  ∀ inner sum product, run (OperatorTree.ofTerm inner) (inFront sum product) ts = none

section
variable {ts us : List String} {t w : String}

theorem halts_singleton (t : String) : Halts [t] := by
  intro inner sum product r h
  rw [run_cons, step] at h
  cases ht : OperatorTree.ofTerm inner t with
  | none => rw [ht] at h; cases h
  | some tree =>
    rw [ht] at h
    exact ⟨_, _, (Option.some.inj h).symm⟩

theorem Halts.append (h : Halts ts) (h' : Halts us) : Halts (ts ++ w :: us) := by
  intro inner sum product r hr
  rw [run_append] at hr
  obtain ⟨r', hrun, hr⟩ := Option.bind_eq_some_iff.1 hr
  obtain ⟨sum', product', rfl⟩ := h _ _ _ _ hrun
  rw [run_cons, step] at hr
  cases hop : (Keyword.ofWord? w : Option ArithmeticOp) with
  | none => rw [hop] at hr; cases hr
  | some op =>
    rw [hop, Option.map_some, Option.bind_some] at hr
    split at hr <;> exact h' _ _ _ _ hr

/-- A word that is no operator cannot stand behind an operand. -/
theorem Halts.refused (h : Halts ts) (hw : (Keyword.ofWord? w : Option ArithmeticOp) = none)
    (us : List String) : Refused (ts ++ w :: us) := by
  intro inner sum product
  rw [run_append]
  cases hrun : run (OperatorTree.ofTerm inner) (inFront sum product) ts with
  | none => rfl
  | some r =>
    obtain ⟨sum', product', rfl⟩ := h _ _ _ _ hrun
    rw [Option.bind_some, run_cons, step, hw]
    rfl

theorem refused_of_first (hw : isOperand w = false) (ts : List String) : Refused (w :: ts) := by
  intro inner sum product
  rw [run_cons, step, OperatorTree.ofTerm, hw]
  rfl

end

end TermReading

/-! ## Terms and their parentheses -/

namespace OperatorTree

variable {t : String}

theorem enclosed?_parenthesized (t : String) : enclosed? (Shape.parenthesized t) = some t := by
  simp [enclosed?, Shape.toList_parenthesized]

theorem enclosed?_of_isBareTerm (h : IsBareTerm t) : enclosed? t = none := by
  obtain ⟨c, cs, htext, hc⟩ := h.starts
  rw [enclosed?, htext]
  split
  · rename_i heq
    exact absurd (List.cons.inj heq).1 hc
  · rfl

/-- A text that is not read as an operation. -/
def NoOperation (t : String) : Prop := ∀ n tree, readUpTo n t = some tree → tree.isOperation = false

theorem noOperation_of_refused (h : TermReading.Refused (terms t)) : NoOperation t := by
  intro n tree htree
  cases n with
  | zero => cases htree
  | succ n =>
    rw [readUpTo, h] at htree
    cases htree

/-- A term that is an operand as a whole. -/
structure IsLeaf (t : String) : Prop extends IsTerm t where
  inside : ∀ u, enclosed? t = some u → NoOperation u

theorem isLeaf_of_isBareTerm (h : IsBareTerm t) : IsLeaf t :=
  { h.toIsTerm with inside := fun u hu => by rw [enclosed?_of_isBareTerm h] at hu; cases hu }

theorem isTerm_parenthesized (h : Piece t) : IsTerm (Shape.parenthesized t) := by
  refine ⟨h.parenthesized.piece, ?_, ?_⟩
  · exact terms_eq_singleton fun p hp => uncut_parenthesized h p hp.rested
  · exact isOperand_of_mem (c := '(') (by simp [Shape.toList_parenthesized]) (by decide)

theorem isLeaf_parenthesized (h : Piece t) (ht : NoOperation t) : IsLeaf (Shape.parenthesized t) :=
  { isTerm_parenthesized h with
    inside := fun u hu => by
      rw [enclosed?_parenthesized] at hu
      obtain rfl := Option.some.inj hu
      exact ht }

theorem ofTerm_of_isLeaf (h : IsLeaf t) (n : Nat) : ofTerm (readUpTo n) t = some (.operand t) := by
  have hinside : (((enclosed? t).bind (readUpTo n)).filter isOperation) = none := by
    rw [Option.filter_eq_none_iff]
    intro tree htree
    obtain ⟨u, hu, htree⟩ := Option.bind_eq_some_iff.1 htree
    simp [h.inside u hu n tree htree]
  rw [ofTerm, if_pos h.operand, hinside]
  rfl

theorem noOperation_of_isLeaf (h : IsLeaf t) : NoOperation t := by
  intro n tree htree
  cases n with
  | zero => cases htree
  | succ n =>
    rw [readUpTo, h.terms, TermReading.run_cons, TermReading.step, ofTerm_of_isLeaf h] at htree
    obtain rfl := Option.some.inj htree
    rfl

end OperatorTree

end StoredSql
