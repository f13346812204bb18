import QueryTree.RawNode.Printer

/-!
# Reading raw trees
-/

namespace QueryTree
namespace RawNode

open Json (alternatives decode record Decode Fields)
open Json.Fields

/-- Read a `WHEN`. -/
def readWhen (node : Json -> Decode RawNode) : Json -> Decode CaseWhen :=
  record CaseWhen.fields do
    return { expr := ← one node, result := ← one node, location := ← next }

/-- Read the record of a raw node of a given kind. -/
def readFields (node : Json -> Decode RawNode) : Tag -> Fields RawNode
  | .paramRef => do return .paramRef { number := ← next, location := ← next }
  | .aConst => do return .aConst { val := ← next, location := ← next }
  | .rangeAlias => do return .rangeAlias { name := ← next, colnames := ← next }
  | .rangeVar => do
      let catalog ← next
      let schema ← next
      let relname ← next
      let inh ← next
      let correlation ← opt node
      let location ← next
      return .rangeVar { catalog, schema, relname, inh, location } correlation
  | .groupingFunc => do
      let args ← many node
      let location ← next
      return .groupingFunc location args
  | .subLink => do
      let linkType ← next
      let testExpr ← opt node
      let operName ← next
      let subselect ← one node
      let location ← next
      return .subLink { linkType, operName, location } testExpr subselect
  | .caseExpr => do
      let arg ← opt node
      let whens ← many (readWhen node)
      let otherwise ← opt node
      let location ← next
      return .caseExpr location arg whens otherwise
  | .rowExpr => do
      let args ← many node
      let explicitRow ← next
      let location ← next
      return .rowExpr { explicitRow, location } args
  | .coalesceExpr => do
      let args ← many node
      let location ← next
      return .coalesceExpr location args
  | .minMaxExpr => do
      let op ← next
      let args ← many node
      let location ← next
      return .minMaxExpr { op, location } args
  | .xmlExpr => do
      let op ← next
      let name ← next
      let namedArgs ← many node
      let args ← many node
      let xmlOption ← next
      let location ← next
      return .xmlExpr { op, name, xmlOption, location } namedArgs args
  | .nullTest => do
      let arg ← one node
      let test ← next
      let location ← next
      return .nullTest { test, location } arg
  | .booleanTest => do
      let arg ← one node
      let test ← next
      let location ← next
      return .booleanTest { test, location } arg
  | .joinExpr => do
      let joinType ← next
      let isNatural ← next
      let larg ← one node
      let rarg ← one node
      let usingColumns ← next
      let quals ← opt node
      let correlation ← opt node
      return .joinExpr { joinType, isNatural, usingColumns } larg rarg quals correlation
  | .intoClause => do
      let rel ← one node
      let colNames ← next
      let viewQuery ← opt node
      let skipData ← next
      return .intoClause { colNames, skipData } rel viewQuery
  | .insertStmt => do
      let relation ← one node
      let cols ← many node
      let select ← opt node
      let onConflict ← opt node
      let returningList ← many node
      let withList ← opt node
      return .insertStmt relation cols select onConflict returningList withList
  | .deleteStmt => do
      let relation ← one node
      let usingClause ← many node
      let whereClause ← opt node
      let returningList ← many node
      let withList ← opt node
      return .deleteStmt relation usingClause whereClause returningList withList
  | .updateStmt => do
      let relation ← one node
      let targetList ← many node
      let whereClause ← opt node
      let fromClause ← many node
      let returningList ← many node
      let withList ← opt node
      return .updateStmt relation targetList whereClause fromClause returningList withList
  | .selectStmt => do
      let distinctClause ← many node
      let into ← opt node
      let targetList ← many node
      let fromClause ← many node
      let whereClause ← opt node
      let groupClause ← many node
      let havingClause ← opt node
      let windowClause ← many node
      let valuesLists ← many node
      let sortClause ← many node
      let limitOffset ← opt node
      let limitCount ← opt node
      let locking ← many node
      let withList ← opt node
      let op ← next
      let all ← next
      let larg ← opt node
      let rarg ← opt node
      return .selectStmt
        { op, all }
        distinctClause into targetList fromClause whereClause groupClause havingClause
        windowClause valuesLists sortClause limitOffset limitCount locking withList larg
        rarg
  | .aExpr => do
      let kind ← next
      let name ← next
      let lexpr ← opt node
      let rexpr ← opt node
      let location ← next
      return .aExpr { kind, name, location } lexpr rexpr
  | .columnRef => do
      let fields ← many node
      let location ← next
      return .columnRef location fields
  | .funcCall => do
      let funcname ← next
      let args ← many node
      let aggOrder ← many node
      let aggFilter ← opt node
      let aggWithinGroup ← next
      let aggStar ← next
      let aggDistinct ← next
      let funcVariadic ← next
      let window ← opt node
      let location ← next
      return .funcCall
        { funcname, aggWithinGroup, aggStar, aggDistinct, funcVariadic, location }
        args aggOrder aggFilter window
  | .namedArgExpr => do
      let arg ← one node
      let name ← next
      let location ← next
      return .namedArgExpr { name, location } arg
  | .aIndices => do
      let lidx ← opt node
      let uidx ← opt node
      return .aIndices lidx uidx
  | .aIndirection => do
      let arg ← one node
      let indirection ← many node
      return .aIndirection arg indirection
  | .aArrayExpr => do
      let elements ← many node
      let location ← next
      return .aArrayExpr location elements
  | .resTarget => do
      let name ← next
      let indirection ← many node
      let val ← opt node
      let location ← next
      return .resTarget { name, location } indirection val
  | .multiAssignRef => do
      let source ← one node
      let colno ← next
      let ncolumns ← next
      return .multiAssignRef { colno, ncolumns } source
  | .typeCast => do
      let arg ← one node
      let type ← one node
      let location ← next
      return .typeCast location arg type
  | .collateClause => do
      let arg ← opt node
      let collname ← next
      let location ← next
      return .collateClause { collname, location } arg
  | .sortBy => do
      let node ← one node
      let dir ← next
      let nulls ← next
      let useOp ← next
      let location ← next
      return .sortBy { dir, nulls, useOp, location } node
  | .windowDef => do
      let name ← next
      let refname ← next
      let partitionClause ← many node
      let orderClause ← many node
      let frameOptions ← next
      let startOffset ← opt node
      let endOffset ← opt node
      let location ← next
      return .windowDef
        { name, refname, frameOptions, location }
        partitionClause orderClause startOffset endOffset
  | .rangeSubselect => do
      let lateral ← next
      let subquery ← one node
      let correlation ← opt node
      return .rangeSubselect lateral subquery correlation
  | .rangeFunction => do
      let lateral ← next
      let ordinality ← next
      let isRowsfrom ← next
      let functions ← many node
      let correlation ← opt node
      let coldeflist ← many node
      return .rangeFunction
        { lateral, ordinality, isRowsfrom }
        functions correlation coldeflist
  | .rangeTableSample => do
      let relation ← one node
      let method ← next
      let args ← many node
      let repeatable ← opt node
      let location ← next
      return .rangeTableSample { method, location } relation args repeatable
  | .typeName => do
      let names ← next
      let setof ← next
      let pctType ← next
      let typmods ← many node
      let arrayBounds ← many node
      let location ← next
      return .typeName { names, setof, pctType, location } typmods arrayBounds
  | .columnDef => do
      let colname ← next
      let type ← opt node
      let rawDefault ← opt node
      let collClause ← opt node
      let isNotNull ← next
      let location ← next
      return .columnDef { colname, isNotNull, location } type rawDefault collClause
  | .indexElem => do
      let name ← next
      let expr ← opt node
      let indexcolname ← next
      let collation ← next
      let opclass ← next
      let ordering ← next
      let nullsOrdering ← next
      return .indexElem
        { name, indexcolname, collation, opclass, ordering, nullsOrdering }
        expr
  | .groupingSet => do
      let kind ← next
      let content ← many node
      let location ← next
      return .groupingSet { kind, location } content
  | .lockingClause => do
      let lockedRels ← many node
      let strength ← next
      let waitPolicy ← next
      return .lockingClause { strength, waitPolicy } lockedRels
  | .xmlSerialize => do
      let xmlOption ← next
      let expr ← one node
      let type ← one node
      let location ← next
      return .xmlSerialize { xmlOption, location } expr type
  | .withClause => do
      let ctes ← many node
      let recursive ← next
      let location ← next
      return .withClause { recursive, location } ctes
  | .inferClause => do
      let indexElems ← many node
      let whereClause ← opt node
      let conname ← next
      let location ← next
      return .inferClause { conname, location } indexElems whereClause
  | .onConflictClause => do
      let action ← next
      let infer ← opt node
      let targetList ← many node
      let whereClause ← opt node
      let location ← next
      return .onConflictClause { action, location } infer targetList whereClause
  | .commonTableExpr => do
      let name ← next
      let aliascolnames ← next
      let ctequery ← one node
      let location ← next
      return .commonTableExpr { name, aliascolnames, location } ctequery
  | .setToDefault => do
      return .setToDefault {
        typeOid := ← next, typmod := ← next, collation := ← next, location := ← next }
  | .currentOfExpr => do
      return .currentOfExpr {
        rtindex := ← next, cursorName := ← next, cursorParam := ← next }
  | .value | .aStar | .list => failure

/-- Read a raw node, given the reading of the nodes below it. -/
def readWith (node : Json -> Decode RawNode) : Json -> Decode RawNode :=
  alternatives (fun _ => none) fun name value =>
    match (Named.ofName? name : Option Tag) with
    | some .value => do return .value (← decode value)
    | some .aStar =>
        match value with
        | .null => pure .aStar
        | _ => failure
    | some .list =>
        match value with
        | .arr items => Decode.enter do return .list (← items.mapM node)
        | _ => failure
    | some tag => record tag.fields (readFields node tag) value
    | none => failure

/-- Read a raw tree. -/
def read : Json -> Decode RawNode :=
  Decode.nested readWith

/-- Read a raw tree from a value in memory. -/
def ofJson? (value : Json) : Option RawNode :=
  Json.decode? read value

/-- Read a raw tree from text. -/
def ofText? (text : String) : Option RawNode :=
  Json.decodeText? read text

end RawNode
end QueryTree
