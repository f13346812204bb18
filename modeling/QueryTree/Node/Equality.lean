import QueryTree.Node.Tag

/-!
# Equality of trees

Two trees are the same when they have the same shape and the same data
everywhere.  Constants are compared by value: decimals and floating-point
numbers as numbers.
-/

namespace QueryTree

namespace Const

def same (a b : Const) : Bool :=
  a.typeOid == b.typeOid && a.typmod == b.typmod && a.collation == b.collation &&
    a.len == b.len && a.byVal == b.byVal && a.value.same b.value && a.location == b.location

end Const

mutual

def Node.same : Node -> Node -> Bool
  | .var a, other =>
      match other with
      | .var b => a == b
      | _ => false
  | .const a, other =>
      match other with
      | .const b => a.same b
      | _ => false
  | .param a, other =>
      match other with
      | .param b => a == b
      | _ => false
  | .aggref a x1 x2 x3 x4 x5, other =>
      match other with
      | .aggref b y1 y2 y3 y4 y5 =>
          a == b && sameList x1 y1 && sameList x2 y2 && sameList x3 y3 &&
            sameList x4 y4 && sameOption x5 y5
      | _ => false
  | .groupingFunc a x, other =>
      match other with
      | .groupingFunc b y => a == b && sameList x y
      | _ => false
  | .windowFunc a x1 x2, other =>
      match other with
      | .windowFunc b y1 y2 => a == b && sameList x1 y1 && sameOption x2 y2
      | _ => false
  | .arrayRef a x1 x2 x3 x4, other =>
      match other with
      | .arrayRef b y1 y2 y3 y4 =>
          a == b && sameList x1 y1 && sameList x2 y2 && x3.same y3 && sameOption x4 y4
      | _ => false
  | .funcExpr a x, other =>
      match other with
      | .funcExpr b y => a == b && sameList x y
      | _ => false
  | .namedArgExpr a x, other =>
      match other with
      | .namedArgExpr b y => a == b && x.same y
      | _ => false
  | .opExpr a x, other =>
      match other with
      | .opExpr b y => a == b && sameList x y
      | _ => false
  | .distinctExpr a x, other =>
      match other with
      | .distinctExpr b y => a == b && sameList x y
      | _ => false
  | .nullIfExpr a x, other =>
      match other with
      | .nullIfExpr b y => a == b && sameList x y
      | _ => false
  | .scalarArrayOpExpr a x, other =>
      match other with
      | .scalarArrayOpExpr b y => a == b && sameList x y
      | _ => false
  | .boolExpr a x, other =>
      match other with
      | .boolExpr b y => a == b && sameList x y
      | _ => false
  | .subLink a x1 x2, other =>
      match other with
      | .subLink b y1 y2 => a == b && sameOption x1 y1 && x2.same y2
      | _ => false
  | .fieldSelect a x, other =>
      match other with
      | .fieldSelect b y => a == b && x.same y
      | _ => false
  | .fieldStore a x1 x2, other =>
      match other with
      | .fieldStore b y1 y2 => a == b && x1.same y1 && sameList x2 y2
      | _ => false
  | .relabelType a x, other =>
      match other with
      | .relabelType b y => a == b && x.same y
      | _ => false
  | .coerceViaInOut a x, other =>
      match other with
      | .coerceViaInOut b y => a == b && x.same y
      | _ => false
  | .arrayCoerceExpr a x, other =>
      match other with
      | .arrayCoerceExpr b y => a == b && x.same y
      | _ => false
  | .convertRowtypeExpr a x, other =>
      match other with
      | .convertRowtypeExpr b y => a == b && x.same y
      | _ => false
  | .collateExpr a x, other =>
      match other with
      | .collateExpr b y => a == b && x.same y
      | _ => false
  | .caseExpr a x1 x2 x3, other =>
      match other with
      | .caseExpr b y1 y2 y3 =>
          a == b && sameOption x1 y1 && sameWhens x2 y2 && sameOption x3 y3
      | _ => false
  | .caseTestExpr a, other =>
      match other with
      | .caseTestExpr b => a == b
      | _ => false
  | .arrayExpr a x, other =>
      match other with
      | .arrayExpr b y => a == b && sameList x y
      | _ => false
  | .rowExpr a x, other =>
      match other with
      | .rowExpr b y => a == b && sameList x y
      | _ => false
  | .rowCompareExpr a x1 x2, other =>
      match other with
      | .rowCompareExpr b y1 y2 => a == b && sameList x1 y1 && sameList x2 y2
      | _ => false
  | .coalesceExpr a x, other =>
      match other with
      | .coalesceExpr b y => a == b && sameList x y
      | _ => false
  | .minMaxExpr a x, other =>
      match other with
      | .minMaxExpr b y => a == b && sameList x y
      | _ => false
  | .xmlExpr a x1 x2, other =>
      match other with
      | .xmlExpr b y1 y2 => a == b && sameList x1 y1 && sameList x2 y2
      | _ => false
  | .nullTest a x, other =>
      match other with
      | .nullTest b y => a == b && x.same y
      | _ => false
  | .booleanTest a x, other =>
      match other with
      | .booleanTest b y => a == b && x.same y
      | _ => false
  | .coerceToDomain a x, other =>
      match other with
      | .coerceToDomain b y => a == b && x.same y
      | _ => false
  | .coerceToDomainValue a, other =>
      match other with
      | .coerceToDomainValue b => a == b
      | _ => false
  | .setToDefault a, other =>
      match other with
      | .setToDefault b => a == b
      | _ => false
  | .currentOfExpr a, other =>
      match other with
      | .currentOfExpr b => a == b
      | _ => false
  | .inferenceElem a x, other =>
      match other with
      | .inferenceElem b y => a == b && x.same y
      | _ => false
  | .targetEntry a x, other =>
      match other with
      | .targetEntry b y => a == b && x.same y
      | _ => false
  | .rangeTblRef a, other =>
      match other with
      | .rangeTblRef b => a == b
      | _ => false
  | .joinExpr a x1 x2 x3, other =>
      match other with
      | .joinExpr b y1 y2 y3 => a == b && x1.same y1 && x2.same y2 && sameOption x3 y3
      | _ => false
  | .fromExpr x1 x2, other =>
      match other with
      | .fromExpr y1 y2 => sameList x1 y1 && sameOption x2 y2
      | _ => false
  | .onConflictExpr a x1 x2 x3 x4 x5, other =>
      match other with
      | .onConflictExpr b y1 y2 y3 y4 y5 =>
          a == b && sameList x1 y1 && sameOption x2 y2 && sameList x3 y3 &&
            sameOption x4 y4 && sameList x5 y5
      | _ => false
  | .setOperationStmt a x1 x2 x3, other =>
      match other with
      | .setOperationStmt b y1 y2 y3 =>
          a == b && x1.same y1 && x2.same y2 && sameList x3 y3
      | _ => false
  | .sortGroupClause a, other =>
      match other with
      | .sortGroupClause b => a == b
      | _ => false
  | .windowClause a x1 x2 x3 x4, other =>
      match other with
      | .windowClause b y1 y2 y3 y4 =>
          a == b && sameList x1 y1 && sameList x2 y2 && sameOption x3 y3 &&
            sameOption x4 y4
      | _ => false
  | .withCheckOption a x, other =>
      match other with
      | .withCheckOption b y => a == b && x.same y
      | _ => false
  | .commonTableExpr a x, other =>
      match other with
      | .commonTableExpr b y => a == b && x.same y
      | _ => false
  | .rangeTblFunction a x, other =>
      match other with
      | .rangeTblFunction b y => a == b && x.same y
      | _ => false
  | .tableSampleClause a x1 x2, other =>
      match other with
      | .tableSampleClause b y1 y2 => a == b && sameList x1 y1 && sameOption x2 y2
      | _ => false
  | .query x, other =>
      match other with
      | .query y => x.same y
      | _ => false
  | .rangeTblEntry x, other =>
      match other with
      | .rangeTblEntry y => x.same y
      | _ => false
  | .list x, other =>
      match other with
      | .list y => sameList x y
      | _ => false
termination_by structural x => x

def CaseWhen.same : CaseWhen -> CaseWhen -> Bool
  | ⟨x1, x2, a⟩, ⟨y1, y2, b⟩ => x1.same y1 && x2.same y2 && a == b
termination_by structural x => x

def Query.same : Query -> Query -> Bool
  | ⟨a, x1, x2, x3, x4, x5, x6, x7, x8, x9, x10, x11, x12, x13, x14, x15⟩,
    ⟨b, y1, y2, y3, y4, y5, y6, y7, y8, y9, y10, y11, y12, y13, y14, y15⟩ =>
      a == b && sameList x1 y1 && sameList x2 y2 && sameOption x3 y3 && sameList x4 y4 &&
        sameList x5 y5 && sameOption x6 y6 && sameList x7 y7 && sameList x8 y8 &&
        sameOption x9 y9 && sameList x10 y10 && sameList x11 y11 && sameList x12 y12 &&
        sameOption x13 y13 && sameOption x14 y14 && sameOption x15 y15
termination_by structural x => x

def RangeTblEntry.same : RangeTblEntry -> RangeTblEntry -> Bool
  | ⟨x1, a, x2⟩, ⟨y1, b, y2⟩ => x1.same y1 && a == b && sameList x2 y2
termination_by structural x => x

def RteKind.same : RteKind -> RteKind -> Bool
  | .relation a1 a2 x, .relation b1 b2 y => a1 == b1 && a2 == b2 && sameOption x y
  | .subquery x a, .subquery y b => x.same y && a == b
  | .join a x, .join b y => a == b && sameList x y
  | .function x a, .function y b => sameList x y && a == b
  | .values x a, .values y b => sameList x y && a == b
  | .cte a, .cte b => a == b
  | _, _ => false
termination_by structural x => x

def sameList : List Node -> List Node -> Bool
  | [], [] => true
  | x :: xs, y :: ys => x.same y && sameList xs ys
  | _, _ => false
termination_by structural x => x

def sameOption : Option Node -> Option Node -> Bool
  | none, none => true
  | some x, some y => x.same y
  | _, _ => false
termination_by structural x => x

def sameWhens : List CaseWhen -> List CaseWhen -> Bool
  | [], [] => true
  | x :: xs, y :: ys => x.same y && sameWhens xs ys
  | _, _ => false
termination_by structural x => x

end

instance : BEq Node where
  beq := Node.same

end QueryTree
