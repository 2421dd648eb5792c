import StoredSql.Proofs.Places

/-!
# Raw text

Whether all raw texts that an expression, a query or a statement holds, in any depth, satisfy a test
(`Expr.rawAll`, `Statement.rawAll`). The statements of a tree, the raw ones among them, are listed
by `Statement.nodes`.
-/

namespace StoredSql

/-! ## In queries -/

mutual

/-- Whether all raw texts in an expression, in any depth, satisfy `p`. -/
def Expr.rawAll (p : String → Bool) : Expr → Bool
  | .column .. => true
  | .variable _ => true
  | .literal _ => true
  | .call _ args => Expr.rawAllOf p args
  | .arithmetic left _ right => left.rawAll p && right.rawAll p
  | .raw sql => p sql
  | .subquery q => q.rawAll p
  | .condition c => c.rawAll p
  | .foreign _ => true

def Expr.rawAllOf (p : String → Bool) : List Expr → Bool
  | [] => true
  | e :: es => e.rawAll p && Expr.rawAllOf p es

/-- Whether all raw texts in a condition satisfy `p`. -/
def Condition.rawAll (p : String → Bool) : Condition → Bool
  | .compare left test => left.rawAll p && test.rawAll p
  | .and cs => Condition.rawAllOf p cs
  | .or cs => Condition.rawAllOf p cs
  | .not c => c.rawAll p
  | .isTrue e => e.rawAll p
  | .exists q => q.rawAll p
  | .foreign e => e.rawAll p

def Condition.rawAllOf (p : String → Bool) : List Condition → Bool
  | [] => true
  | c :: cs => c.rawAll p && Condition.rawAllOf p cs

def Condition.rawAllIfAny (p : String → Bool) : Option Condition → Bool
  | none => true
  | some c => c.rawAll p

/-- Whether all raw texts in a test satisfy `p`. -/
def Test.rawAll (p : String → Bool) : Test → Bool
  | .binary _ right => right.rawAll p
  | .isNull => true
  | .isNotNull => true
  | .inValues values => Expr.rawAllOf p values
  | .inQuery q => q.rawAll p
  | .between low high => low.rawAll p && high.rawAll p

/-- Whether all raw texts in a source satisfy `p`. -/
def Source.rawAll (p : String → Bool) : Source → Bool
  | .table _ => true
  | .query q _ => q.rawAll p
  | .foreign _ => true

def Source.rawAllIfAny (p : String → Bool) : Option Source → Bool
  | none => true
  | some s => s.rawAll p

/-- Whether all raw texts in a column of the result satisfy `p`. -/
def SelectItem.rawAll (p : String → Bool) : SelectItem → Bool
  | ⟨expr, _⟩ => expr.rawAll p

def SelectItem.rawAllOf (p : String → Bool) : List SelectItem → Bool
  | [] => true
  | i :: items => i.rawAll p && SelectItem.rawAllOf p items

/-- Whether all raw texts in a join satisfy `p`. -/
def Join.rawAll (p : String → Bool) : Join → Bool
  | ⟨_, source, condition, _⟩ => source.rawAll p && Condition.rawAllIfAny p condition

def Join.rawAllOf (p : String → Bool) : List Join → Bool
  | [] => true
  | j :: joins => j.rawAll p && Join.rawAllOf p joins

def GroupBy.rawAllIfAny (p : String → Bool) : Option GroupBy → Bool
  | none => true
  | some ⟨columns, having, _⟩ => Expr.rawAllOf p columns && Condition.rawAllIfAny p having

/-- Whether all raw texts in a sort key satisfy `p`. -/
def SortKey.rawAll (p : String → Bool) : SortKey → Bool
  | ⟨expr, _⟩ => expr.rawAll p

def SortKey.rawAllOf (p : String → Bool) : List SortKey → Bool
  | [] => true
  | k :: keys => k.rawAll p && SortKey.rawAllOf p keys

/-- Whether all raw texts in a query satisfy `p`. -/
def SelectQuery.rawAll (p : String → Bool) : SelectQuery → Bool
  | ⟨items, source, joins, filter, groupBy, orderBy, _, _, _⟩ =>
    SelectItem.rawAllOf p items && Source.rawAllIfAny p source && Join.rawAllOf p joins
      && Condition.rawAllIfAny p filter && GroupBy.rawAllIfAny p groupBy
      && SortKey.rawAllOf p orderBy

end

section
variable {p : String → Bool} (hp : ∀ sql, p sql = true)
include hp

/-- A test that every text satisfies is no condition on queries. -/
theorem rawAll_of_forall :
    (∀ e : Expr, e.rawAll p = true) ∧ (∀ c : Condition, c.rawAll p = true)
      ∧ (∀ q : SelectQuery, q.rawAll p = true) ∧ (∀ ks, SortKey.rawAllOf p ks = true)
      ∧ (∀ k : SortKey, k.rawAll p = true) ∧ (∀ g, GroupBy.rawAllIfAny p g = true)
      ∧ (∀ c, Condition.rawAllIfAny p c = true) ∧ (∀ es, Expr.rawAllOf p es = true)
      ∧ (∀ js, Join.rawAllOf p js = true) ∧ (∀ j : Join, j.rawAll p = true)
      ∧ (∀ s : Source, s.rawAll p = true) ∧ (∀ s, Source.rawAllIfAny p s = true)
      ∧ (∀ is, SelectItem.rawAllOf p is = true) ∧ (∀ i : SelectItem, i.rawAll p = true)
      ∧ (∀ cs, Condition.rawAllOf p cs = true) ∧ ∀ t : Test, t.rawAll p = true := by
  apply Expr.rawAll.mutual_induct <;> intros <;>
    simp_all only [Expr.rawAll, Condition.rawAll, Test.rawAll, Source.rawAll, SelectItem.rawAll,
      Join.rawAll, SortKey.rawAll, SelectQuery.rawAll, Expr.rawAllOf, Condition.rawAllOf,
      SelectItem.rawAllOf, Join.rawAllOf, SortKey.rawAllOf, Condition.rawAllIfAny,
      Source.rawAllIfAny, GroupBy.rawAllIfAny, Bool.and_self]

end

/-- Whether all raw texts in new rows satisfy `p`. -/
def InsertQuery.rawAll (p : String → Bool) (q : InsertQuery) : Bool :=
  q.rows.all (Expr.rawAllOf p) && q.select.all (SelectQuery.rawAll p)
    && q.onDuplicate.all fun update => update.2.rawAll p

/-! ## In statements -/

/-- Which raw texts may stand in statements: in the place of expressions, and in the place of
statements. `directive` tells whether a change of the delimiter may stand there. -/
structure RawRule where
  fragment : String → Bool
  statement : String → Bool
  directive : Bool

namespace RawRule

/-- No raw text, and no change of the delimiter. -/
def none : RawRule := ⟨fun _ => false, fun _ => false, false⟩

/-- Any raw text and any change of the delimiter. -/
def any : RawRule := ⟨fun _ => true, fun _ => true, true⟩

end RawRule

mutual

/-- Whether all raw texts in a statement, in any depth, follow a rule. -/
def Statement.rawAll (r : RawRule) : Statement → Bool
  | .declareVariables _ _ initial => initial.all (Expr.rawAll r.fragment)
  | .declareCondition .. => true
  | .declareCursor _ query => query.rawAll r.fragment
  | .declareHandler _ _ body => body.rawAll r
  | .block b => b.rawAll r
  | .ifElse branches otherwise =>
    IfBranch.rawAllOf r branches && Statement.rawAllIfAny r otherwise
  | .cases operand whens otherwise =>
    operand.all (Expr.rawAll r.fragment) && CaseWhen.rawAllOf r whens
      && Statement.rawAllIfAny r otherwise
  | .loop _ body => Statement.rawAllOf r body
  | .whileLoop _ test body => test.rawAll r.fragment && Statement.rawAllOf r body
  | .repeatLoop _ test body => test.rawAll r.fragment && Statement.rawAllOf r body
  | .iterate _ => true
  | .leave _ => true
  | .openCursor _ => true
  | .fetch .. => true
  | .closeCursor _ => true
  | .select query => query.rawAll r.fragment
  | .insert query => query.rawAll r.fragment
  | .set assignments => assignments.all fun a => a.2.rawAll r.fragment
  | .raw sql => r.statement sql
  | .empty => true
  | .delimiter _ => r.directive
  | .call _ args => Expr.rawAllOf r.fragment args
  | .signal _ message _ => message.all (Expr.rawAll r.fragment)
  | .foreign _ => true

def Statement.rawAllOf (r : RawRule) : List Statement → Bool
  | [] => true
  | s :: ss => s.rawAll r && Statement.rawAllOf r ss

def Statement.rawAllIfAny (r : RawRule) : Option (List Statement) → Bool
  | Option.none => true
  | some ss => Statement.rawAllOf r ss

/-- Whether all raw texts in a block follow a rule. -/
def Block.rawAll (r : RawRule) : Block → Bool
  | ⟨statements, _, _⟩ => Statement.rawAllOf r statements

def IfBranch.rawAllOf (r : RawRule) : List IfBranch → Bool
  | [] => true
  | ⟨test, body⟩ :: rest =>
    test.rawAll r.fragment && Statement.rawAllOf r body && IfBranch.rawAllOf r rest

def CaseWhen.rawAllOf (r : RawRule) : List CaseWhen → Bool
  | [] => true
  | ⟨test, body⟩ :: rest =>
    test.rawAll r.fragment && Statement.rawAllOf r body && CaseWhen.rawAllOf r rest

end

/-- Every statement follows the rule that allows everything. -/
theorem rawAll_any :
    (∀ s : Statement, s.rawAll .any = true) ∧ (∀ ss, Statement.rawAllOf .any ss = true)
      ∧ (∀ whens, CaseWhen.rawAllOf .any whens = true)
      ∧ (∀ otherwise, Statement.rawAllIfAny .any otherwise = true)
      ∧ (∀ branches, IfBranch.rawAllOf .any branches = true)
      ∧ ∀ b : Block, b.rawAll .any = true := by
  obtain ⟨hexpr, hcondition, hselect, -, -, -, -, hexprs, -⟩ :=
    rawAll_of_forall (p := fun _ => true) fun _ => rfl
  have hinsert : ∀ q : InsertQuery, q.rawAll (fun _ => true) = true := by
    intro q
    simp [InsertQuery.rawAll, List.all_eq_true, Option.all_eq_true, hexpr, hexprs, hselect]
  apply Statement.rawAll.mutual_induct <;> intros <;>
    simp_all [Statement.rawAll, Statement.rawAllOf, CaseWhen.rawAllOf, Statement.rawAllIfAny,
      IfBranch.rawAllOf, Block.rawAll, RawRule.any, List.all_eq_true, Option.all_eq_true]

mutual

/-- A statement and the statements in it, in any depth. -/
def Statement.nodes : Statement → List Statement
  | .declareHandler action conditions body =>
    .declareHandler action conditions body :: body.nodes
  | .block b => .block b :: b.nodes
  | .ifElse branches otherwise =>
    .ifElse branches otherwise :: (IfBranch.nodesOf branches ++ Statement.nodesIfAny otherwise)
  | .cases operand whens otherwise =>
    .cases operand whens otherwise :: (CaseWhen.nodesOf whens ++ Statement.nodesIfAny otherwise)
  | .loop label body => .loop label body :: Statement.nodesOf body
  | .whileLoop label test body => .whileLoop label test body :: Statement.nodesOf body
  | .repeatLoop label test body => .repeatLoop label test body :: Statement.nodesOf body
  | s => [s]

def Statement.nodesOf : List Statement → List Statement
  | [] => []
  | s :: ss => s.nodes ++ Statement.nodesOf ss

def Statement.nodesIfAny : Option (List Statement) → List Statement
  | none => []
  | some ss => Statement.nodesOf ss

/-- The statements in a block, in any depth. -/
def Block.nodes : Block → List Statement
  | ⟨statements, _, _⟩ => Statement.nodesOf statements

def IfBranch.nodesOf : List IfBranch → List Statement
  | [] => []
  | ⟨_, body⟩ :: rest => Statement.nodesOf body ++ IfBranch.nodesOf rest

def CaseWhen.nodesOf : List CaseWhen → List Statement
  | [] => []
  | ⟨_, body⟩ :: rest => Statement.nodesOf body ++ CaseWhen.nodesOf rest

end

/-! ## What holds everywhere -/

variable {P : Statement → Prop}

mutual

/-- What has a property everywhere has it in each of its statements. -/
theorem Statement.Everywhere.nodes : ∀ {s : Statement}, s.Everywhere P → ∀ t ∈ s.nodes, P t := by
  intro s h
  cases s with
  | declareHandler action conditions body =>
    rw [Statement.nodes]
    exact List.forall_mem_cons.2 ⟨h .here, Statement.Everywhere.nodes
      (h.held (List.mem_singleton_self _) body (List.mem_singleton_self _))⟩
  | block b =>
    obtain ⟨statements, label, scope⟩ := b
    rw [Statement.nodes, Block.nodes]
    exact List.forall_mem_cons.2 ⟨h .here, Statement.everywhere_nodesOf
      (h.held (List.mem_singleton_self _))⟩
  | ifElse branches otherwise =>
    rw [Statement.nodes]
    refine List.forall_mem_cons.2 ⟨h .here, List.forall_mem_append.2 ⟨?_, ?_⟩⟩
    · exact IfBranch.everywhere_nodesOf fun b hb =>
        h.held (List.mem_append_left _ (List.mem_map_of_mem hb))
    · exact Statement.everywhere_nodesIfAny fun body hbody =>
        h.held (List.mem_append_right _ (Option.mem_toList.2 hbody))
  | cases operand whens otherwise =>
    rw [Statement.nodes]
    refine List.forall_mem_cons.2 ⟨h .here, List.forall_mem_append.2 ⟨?_, ?_⟩⟩
    · exact CaseWhen.everywhere_nodesOf fun w hw =>
        h.held (List.mem_append_left _ (List.mem_map_of_mem hw))
    · exact Statement.everywhere_nodesIfAny fun body hbody =>
        h.held (List.mem_append_right _ (Option.mem_toList.2 hbody))
  | loop label body =>
    rw [Statement.nodes]
    exact List.forall_mem_cons.2 ⟨h .here, Statement.everywhere_nodesOf
      (h.held (List.mem_singleton_self _))⟩
  | whileLoop label test body =>
    rw [Statement.nodes]
    exact List.forall_mem_cons.2 ⟨h .here, Statement.everywhere_nodesOf
      (h.held (List.mem_singleton_self _))⟩
  | repeatLoop label test body =>
    rw [Statement.nodes]
    exact List.forall_mem_cons.2 ⟨h .here, Statement.everywhere_nodesOf
      (h.held (List.mem_singleton_self _))⟩
  | _ => exact List.forall_mem_singleton.2 (h .here)

theorem Statement.everywhere_nodesOf : ∀ {ss : List Statement},
    (∀ s ∈ ss, s.Everywhere P) → ∀ t ∈ Statement.nodesOf ss, P t
  | [], _ => List.forall_mem_nil _
  | s :: ss, h => by
    rw [Statement.nodesOf]
    exact List.forall_mem_append.2 ⟨Statement.Everywhere.nodes (h s List.mem_cons_self),
      Statement.everywhere_nodesOf fun s hs => h s (List.mem_cons_of_mem _ hs)⟩

theorem Statement.everywhere_nodesIfAny : ∀ {otherwise : Option (List Statement)},
    (∀ body ∈ otherwise, ∀ s ∈ body, s.Everywhere P) → ∀ t ∈ Statement.nodesIfAny otherwise, P t
  | none, _ => List.forall_mem_nil _
  | some ss, h => by
    rw [Statement.nodesIfAny]
    exact Statement.everywhere_nodesOf (h ss rfl)

theorem IfBranch.everywhere_nodesOf : ∀ {branches : List IfBranch},
    (∀ b ∈ branches, ∀ s ∈ b.statements, s.Everywhere P) → ∀ t ∈ IfBranch.nodesOf branches, P t
  | [], _ => List.forall_mem_nil _
  | ⟨test, body⟩ :: rest, h => by
    rw [IfBranch.nodesOf]
    exact List.forall_mem_append.2 ⟨Statement.everywhere_nodesOf (h _ List.mem_cons_self),
      IfBranch.everywhere_nodesOf fun b hb => h b (List.mem_cons_of_mem _ hb)⟩

theorem CaseWhen.everywhere_nodesOf : ∀ {whens : List CaseWhen},
    (∀ w ∈ whens, ∀ s ∈ w.statements, s.Everywhere P) → ∀ t ∈ CaseWhen.nodesOf whens, P t
  | [], _ => List.forall_mem_nil _
  | ⟨test, body⟩ :: rest, h => by
    rw [CaseWhen.nodesOf]
    exact List.forall_mem_append.2 ⟨Statement.everywhere_nodesOf (h _ List.mem_cons_self),
      CaseWhen.everywhere_nodesOf fun w hw => h w (List.mem_cons_of_mem _ hw)⟩

end
end StoredSql
