import QueryTree.RawNode.Tag

/-!
# Equality of raw trees

Two raw trees are the same when they have the same shape and the same data
everywhere.
-/

namespace QueryTree
namespace RawNode

mutual

def same : RawNode -> RawNode -> Bool
  | .value a, other =>
      match other with
      | .value b => a == b
      | _ => false
  | .paramRef a, other =>
      match other with
      | .paramRef b => a == b
      | _ => false
  | .aConst a, other =>
      match other with
      | .aConst b => a == b
      | _ => false
  | .aStar, other =>
      match other with
      | .aStar => true
      | _ => false
  | .rangeAlias a, other =>
      match other with
      | .rangeAlias b => a == b
      | _ => false
  | .rangeVar a x, other =>
      match other with
      | .rangeVar b y => a == b && sameOption x y
      | _ => false
  | .groupingFunc a x, other =>
      match other with
      | .groupingFunc b y => a == b && sameList x y
      | _ => false
  | .subLink a x1 x2, other =>
      match other with
      | .subLink b y1 y2 => a == b && sameOption x1 y1 && x2.same y2
      | _ => false
  | .caseExpr a x1 x2 x3, other =>
      match other with
      | .caseExpr b y1 y2 y3 =>
          a == b && sameOption x1 y1 && sameWhens x2 y2 && sameOption x3 y3
      | _ => false
  | .rowExpr a x, other =>
      match other with
      | .rowExpr b y => a == b && sameList x y
      | _ => false
  | .coalesceExpr a x, other =>
      match other with
      | .coalesceExpr b y => a == b && sameList x y
      | _ => false
  | .minMaxExpr a x, other =>
      match other with
      | .minMaxExpr b y => a == b && sameList x y
      | _ => false
  | .xmlExpr a x1 x2, other =>
      match other with
      | .xmlExpr b y1 y2 => a == b && sameList x1 y1 && sameList x2 y2
      | _ => false
  | .nullTest a x, other =>
      match other with
      | .nullTest b y => a == b && x.same y
      | _ => false
  | .booleanTest a x, other =>
      match other with
      | .booleanTest b y => a == b && x.same y
      | _ => false
  | .joinExpr a x1 x2 x3 x4, other =>
      match other with
      | .joinExpr b y1 y2 y3 y4 =>
          a == b && x1.same y1 && x2.same y2 && sameOption x3 y3 && sameOption x4 y4
      | _ => false
  | .intoClause a x1 x2, other =>
      match other with
      | .intoClause b y1 y2 => a == b && x1.same y1 && sameOption x2 y2
      | _ => false
  | .insertStmt x1 x2 x3 x4 x5 x6, other =>
      match other with
      | .insertStmt y1 y2 y3 y4 y5 y6 =>
          x1.same y1 && sameList x2 y2 && sameOption x3 y3 && sameOption x4 y4 &&
            sameList x5 y5 && sameOption x6 y6
      | _ => false
  | .deleteStmt x1 x2 x3 x4 x5, other =>
      match other with
      | .deleteStmt y1 y2 y3 y4 y5 =>
          x1.same y1 && sameList x2 y2 && sameOption x3 y3 && sameList x4 y4 &&
            sameOption x5 y5
      | _ => false
  | .updateStmt x1 x2 x3 x4 x5 x6, other =>
      match other with
      | .updateStmt y1 y2 y3 y4 y5 y6 =>
          x1.same y1 && sameList x2 y2 && sameOption x3 y3 && sameList x4 y4 &&
            sameList x5 y5 && sameOption x6 y6
      | _ => false
  | .selectStmt a x1 x2 x3 x4 x5 x6 x7 x8 x9 x10 x11 x12 x13 x14 x15 x16, other =>
      match other with
      | .selectStmt b y1 y2 y3 y4 y5 y6 y7 y8 y9 y10 y11 y12 y13 y14 y15 y16 =>
          a == b && sameList x1 y1 && sameOption x2 y2 && sameList x3 y3 &&
            sameList x4 y4 && sameOption x5 y5 && sameList x6 y6 && sameOption x7 y7 &&
            sameList x8 y8 && sameList x9 y9 && sameList x10 y10 && sameOption x11 y11 &&
            sameOption x12 y12 && sameList x13 y13 && sameOption x14 y14 &&
            sameOption x15 y15 && sameOption x16 y16
      | _ => false
  | .aExpr a x1 x2, other =>
      match other with
      | .aExpr b y1 y2 => a == b && sameOption x1 y1 && sameOption x2 y2
      | _ => false
  | .columnRef a x, other =>
      match other with
      | .columnRef b y => a == b && sameList x y
      | _ => false
  | .funcCall a x1 x2 x3 x4, other =>
      match other with
      | .funcCall b y1 y2 y3 y4 =>
          a == b && sameList x1 y1 && sameList x2 y2 && sameOption x3 y3 &&
            sameOption x4 y4
      | _ => false
  | .namedArgExpr a x, other =>
      match other with
      | .namedArgExpr b y => a == b && x.same y
      | _ => false
  | .aIndices x1 x2, other =>
      match other with
      | .aIndices y1 y2 => sameOption x1 y1 && sameOption x2 y2
      | _ => false
  | .aIndirection x1 x2, other =>
      match other with
      | .aIndirection y1 y2 => x1.same y1 && sameList x2 y2
      | _ => false
  | .aArrayExpr a x, other =>
      match other with
      | .aArrayExpr b y => a == b && sameList x y
      | _ => false
  | .resTarget a x1 x2, other =>
      match other with
      | .resTarget b y1 y2 => a == b && sameList x1 y1 && sameOption x2 y2
      | _ => false
  | .multiAssignRef a x, other =>
      match other with
      | .multiAssignRef b y => a == b && x.same y
      | _ => false
  | .typeCast a x1 x2, other =>
      match other with
      | .typeCast b y1 y2 => a == b && x1.same y1 && x2.same y2
      | _ => false
  | .collateClause a x, other =>
      match other with
      | .collateClause b y => a == b && sameOption x y
      | _ => false
  | .sortBy a x, other =>
      match other with
      | .sortBy b y => a == b && x.same y
      | _ => false
  | .windowDef a x1 x2 x3 x4, other =>
      match other with
      | .windowDef b y1 y2 y3 y4 =>
          a == b && sameList x1 y1 && sameList x2 y2 && sameOption x3 y3 &&
            sameOption x4 y4
      | _ => false
  | .rangeSubselect a x1 x2, other =>
      match other with
      | .rangeSubselect b y1 y2 => a == b && x1.same y1 && sameOption x2 y2
      | _ => false
  | .rangeFunction a x1 x2 x3, other =>
      match other with
      | .rangeFunction b y1 y2 y3 =>
          a == b && sameList x1 y1 && sameOption x2 y2 && sameList x3 y3
      | _ => false
  | .rangeTableSample a x1 x2 x3, other =>
      match other with
      | .rangeTableSample b y1 y2 y3 =>
          a == b && x1.same y1 && sameList x2 y2 && sameOption x3 y3
      | _ => false
  | .typeName a x1 x2, other =>
      match other with
      | .typeName b y1 y2 => a == b && sameList x1 y1 && sameList x2 y2
      | _ => false
  | .columnDef a x1 x2 x3, other =>
      match other with
      | .columnDef b y1 y2 y3 =>
          a == b && sameOption x1 y1 && sameOption x2 y2 && sameOption x3 y3
      | _ => false
  | .indexElem a x, other =>
      match other with
      | .indexElem b y => a == b && sameOption x y
      | _ => false
  | .groupingSet a x, other =>
      match other with
      | .groupingSet b y => a == b && sameList x y
      | _ => false
  | .lockingClause a x, other =>
      match other with
      | .lockingClause b y => a == b && sameList x y
      | _ => false
  | .xmlSerialize a x1 x2, other =>
      match other with
      | .xmlSerialize b y1 y2 => a == b && x1.same y1 && x2.same y2
      | _ => false
  | .withClause a x, other =>
      match other with
      | .withClause b y => a == b && sameList x y
      | _ => false
  | .inferClause a x1 x2, other =>
      match other with
      | .inferClause b y1 y2 => a == b && sameList x1 y1 && sameOption x2 y2
      | _ => false
  | .onConflictClause a x1 x2 x3, other =>
      match other with
      | .onConflictClause b y1 y2 y3 =>
          a == b && sameOption x1 y1 && sameList x2 y2 && sameOption x3 y3
      | _ => false
  | .commonTableExpr a x, other =>
      match other with
      | .commonTableExpr b y => a == b && x.same y
      | _ => false
  | .setToDefault a, other =>
      match other with
      | .setToDefault b => a == b
      | _ => false
  | .currentOfExpr a, other =>
      match other with
      | .currentOfExpr b => a == b
      | _ => false
  | .list x, other =>
      match other with
      | .list y => sameList x y
      | _ => false
termination_by structural x => x

def CaseWhen.same : CaseWhen -> CaseWhen -> Bool
  | ⟨x1, x2, a⟩, ⟨y1, y2, b⟩ => x1.same y1 && x2.same y2 && a == b
termination_by structural x => x

def sameList : List RawNode -> List RawNode -> Bool
  | [], [] => true
  | x :: xs, y :: ys => x.same y && sameList xs ys
  | _, _ => false
termination_by structural x => x

def sameOption : Option RawNode -> Option RawNode -> Bool
  | none, none => true
  | some x, some y => x.same y
  | _, _ => false
termination_by structural x => x

def sameWhens : List CaseWhen -> List CaseWhen -> Bool
  | [], [] => true
  | x :: xs, y :: ys => x.same y && sameWhens xs ys
  | _, _ => false
termination_by structural x => x

end

instance : BEq RawNode where
  beq := same

end RawNode
end QueryTree
