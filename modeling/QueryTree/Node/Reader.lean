import QueryTree.Node.Printer

/-!
# Reading trees

The reading of a node is given by the reading of the nodes below it; closing
that recursion gives `Node.read`.
-/

namespace QueryTree
namespace Node

open Json (alternativeRecord alternatives record Decode Fields)
open Json.Fields

/-- Read a `WHEN`. -/
def readWhen (node : Json -> Decode Node) : Json -> Decode CaseWhen :=
  record CaseWhen.fields do
    return { expr := ← one node, result := ← one node, location := ← next }

/-- Read what a range-table entry refers to. -/
def readKind (node : Json -> Decode Node) : Json -> Decode RteKind :=
  alternatives (fun _ => none) fun name =>
    match name with
    | "Relation" => alternativeRecord RteKind.relationFields do
        return .relation (← next) (← next) (← opt node)
    | "Subquery" => alternativeRecord RteKind.subqueryFields do
        return .subquery (← one node) (← next)
    | "Join" => alternativeRecord RteKind.joinFields do
        return .join (← next) (← many node)
    | "Function" => alternativeRecord RteKind.functionFields do
        return .function (← many node) (← next)
    | "Values" => alternativeRecord RteKind.valuesFields do
        return .values (← many node) (← next)
    | "Cte" => alternativeRecord RteKind.cteFields do
        return .cte {
          name := ← next, levelsUp := ← next, selfReference := ← next, coltypes := ← next,
          coltypmods := ← next, colcollations := ← next }
    | _ => fun _ => failure

/-- Read the record of a node of a given kind. -/
def readFields (node : Json -> Decode Node) : Tag -> Fields Node
  | .var => do
      return .var {
        rtindex := ← next, attno := ← next, typeOid := ← next, typmod := ← next,
        collation := ← next, levelsUp := ← next, location := ← next }
  | .const => do
      return .const {
        typeOid := ← next, typmod := ← next, collation := ← next, len := ← next,
        byVal := ← next, value := ← one Datum.read, location := ← next }
  | .param => do
      return .param {
        kind := ← next, id := ← next, typeOid := ← next, typmod := ← next,
        collation := ← next, location := ← next }
  | .aggref => do
      let funcOid ← next
      let resultType ← next
      let collation ← next
      let inputCollation ← next
      let directArgs ← many node
      let args ← many node
      let order ← many node
      let distinct ← many node
      let filter ← opt node
      let star ← next
      let variadic ← next
      let kind ← next
      let levelsUp ← next
      let location ← next
      return .aggref
        { funcOid, resultType, collation, inputCollation, star, variadic, kind, levelsUp,
          location }
        directArgs args order distinct filter
  | .groupingFunc => do
      let args ← many node
      let refs ← next
      let cols ← next
      let levelsUp ← next
      let location ← next
      return .groupingFunc { refs, cols, levelsUp, location } args
  | .windowFunc => do
      let funcOid ← next
      let resultType ← next
      let collation ← next
      let inputCollation ← next
      let args ← many node
      let filter ← opt node
      let winref ← next
      let star ← next
      let isAgg ← next
      let location ← next
      return .windowFunc
        { funcOid, resultType, collation, inputCollation, winref, star, isAgg, location }
        args filter
  | .arrayRef => do
      let arrayType ← next
      let elementType ← next
      let typmod ← next
      let collation ← next
      let upperIndex ← many node
      let lowerIndex ← many node
      let expr ← one node
      let assignExpr ← opt node
      return .arrayRef
        { arrayType, elementType, typmod, collation }
        upperIndex lowerIndex expr assignExpr
  | .funcExpr => do
      let funcOid ← next
      let resultType ← next
      let returnsSet ← next
      let variadic ← next
      let format ← next
      let collation ← next
      let inputCollation ← next
      let args ← many node
      let location ← next
      return .funcExpr
        { funcOid, resultType, returnsSet, variadic, format, collation, inputCollation,
          location }
        args
  | .namedArgExpr => do
      let arg ← one node
      let name ← next
      let argNumber ← next
      let location ← next
      return .namedArgExpr { name, argNumber, location } arg
  | .opExpr => do
      let opOid ← next
      let funcOid ← next
      let resultType ← next
      let returnsSet ← next
      let collation ← next
      let inputCollation ← next
      let args ← many node
      let location ← next
      return .opExpr
        { opOid, funcOid, resultType, returnsSet, collation, inputCollation, location }
        args
  | .distinctExpr => do
      let opOid ← next
      let funcOid ← next
      let resultType ← next
      let returnsSet ← next
      let collation ← next
      let inputCollation ← next
      let args ← many node
      let location ← next
      return .distinctExpr
        { opOid, funcOid, resultType, returnsSet, collation, inputCollation, location }
        args
  | .nullIfExpr => do
      let opOid ← next
      let funcOid ← next
      let resultType ← next
      let returnsSet ← next
      let collation ← next
      let inputCollation ← next
      let args ← many node
      let location ← next
      return .nullIfExpr
        { opOid, funcOid, resultType, returnsSet, collation, inputCollation, location }
        args
  | .scalarArrayOpExpr => do
      let opOid ← next
      let funcOid ← next
      let useOr ← next
      let inputCollation ← next
      let args ← many node
      let location ← next
      return .scalarArrayOpExpr { opOid, funcOid, useOr, inputCollation, location } args
  | .boolExpr => do
      let op ← next
      let args ← many node
      let location ← next
      return .boolExpr { op, location } args
  | .subLink => do
      let linkType ← next
      let linkId ← next
      let testExpr ← opt node
      let operName ← next
      let subselect ← one node
      let location ← next
      return .subLink { linkType, linkId, operName, location } testExpr subselect
  | .fieldSelect => do
      let arg ← one node
      let fieldNumber ← next
      let resultType ← next
      let typmod ← next
      let collation ← next
      return .fieldSelect { fieldNumber, resultType, typmod, collation } arg
  | .fieldStore => do
      let arg ← one node
      let newValues ← many node
      let fieldNumbers ← next
      let resultType ← next
      return .fieldStore { fieldNumbers, resultType } arg newValues
  | .relabelType => do
      let arg ← one node
      let resultType ← next
      let typmod ← next
      let collation ← next
      let format ← next
      let location ← next
      return .relabelType { resultType, typmod, collation, format, location } arg
  | .coerceViaInOut => do
      let arg ← one node
      let resultType ← next
      let collation ← next
      let format ← next
      let location ← next
      return .coerceViaInOut { resultType, collation, format, location } arg
  | .arrayCoerceExpr => do
      let arg ← one node
      let elemFuncOid ← next
      let resultType ← next
      let typmod ← next
      let collation ← next
      let isExplicit ← next
      let format ← next
      let location ← next
      return .arrayCoerceExpr
        { elemFuncOid, resultType, typmod, collation, isExplicit, format, location }
        arg
  | .convertRowtypeExpr => do
      let arg ← one node
      let resultType ← next
      let format ← next
      let location ← next
      return .convertRowtypeExpr { resultType, format, location } arg
  | .collateExpr => do
      let arg ← one node
      let collation ← next
      let location ← next
      return .collateExpr { collation, location } arg
  | .caseExpr => do
      let caseType ← next
      let collation ← next
      let arg ← opt node
      let whens ← many (readWhen node)
      let otherwise ← opt node
      let location ← next
      return .caseExpr { caseType, collation, location } arg whens otherwise
  | .caseTestExpr => do
      return .caseTestExpr {
        typeOid := ← next, typmod := ← next, collation := ← next }
  | .arrayExpr => do
      let arrayType ← next
      let collation ← next
      let elementType ← next
      let elements ← many node
      let multidims ← next
      let location ← next
      return .arrayExpr
        { arrayType, collation, elementType, multidims, location }
        elements
  | .rowExpr => do
      let args ← many node
      let rowType ← next
      let format ← next
      let colnames ← next
      let location ← next
      return .rowExpr { rowType, format, colnames, location } args
  | .rowCompareExpr => do
      let compare ← next
      let opOids ← next
      let opFamilies ← next
      let inputCollations ← next
      let leftArgs ← many node
      let rightArgs ← many node
      return .rowCompareExpr
        { compare, opOids, opFamilies, inputCollations }
        leftArgs rightArgs
  | .coalesceExpr => do
      let coalesceType ← next
      let collation ← next
      let args ← many node
      let location ← next
      return .coalesceExpr { coalesceType, collation, location } args
  | .minMaxExpr => do
      let minmaxType ← next
      let collation ← next
      let inputCollation ← next
      let op ← next
      let args ← many node
      let location ← next
      return .minMaxExpr { minmaxType, collation, inputCollation, op, location } args
  | .xmlExpr => do
      let op ← next
      let name ← next
      let namedArgs ← many node
      let argNames ← next
      let args ← many node
      let xmlOption ← next
      let typeOid ← next
      let typmod ← next
      let location ← next
      return .xmlExpr
        { op, name, argNames, xmlOption, typeOid, typmod, location }
        namedArgs args
  | .nullTest => do
      let arg ← one node
      let test ← next
      let argIsRow ← next
      let location ← next
      return .nullTest { test, argIsRow, location } arg
  | .booleanTest => do
      let arg ← one node
      let test ← next
      let location ← next
      return .booleanTest { test, location } arg
  | .coerceToDomain => do
      let arg ← one node
      let resultType ← next
      let typmod ← next
      let collation ← next
      let format ← next
      let location ← next
      return .coerceToDomain { resultType, typmod, collation, format, location } arg
  | .coerceToDomainValue => do
      return .coerceToDomainValue {
        typeOid := ← next, typmod := ← next, collation := ← next, location := ← next }
  | .setToDefault => do
      return .setToDefault {
        typeOid := ← next, typmod := ← next, collation := ← next, location := ← next }
  | .currentOfExpr => do
      return .currentOfExpr {
        rtindex := ← next, cursorName := ← next, cursorParam := ← next }
  | .inferenceElem => do
      let expr ← one node
      let collation ← next
      let opclass ← next
      return .inferenceElem { collation, opclass } expr
  | .targetEntry => do
      let expr ← one node
      let resno ← next
      let name ← next
      let sortGroupRef ← next
      let origTable ← next
      let origColumn ← next
      let junk ← next
      return .targetEntry { resno, name, sortGroupRef, origTable, origColumn, junk } expr
  | .rangeTblRef => do return .rangeTblRef (← next)
  | .joinExpr => do
      let joinType ← next
      let isNatural ← next
      let left ← one node
      let right ← one node
      let usingColumns ← next
      let quals ← opt node
      let correlation ← next
      let rtindex ← next
      return .joinExpr
        { joinType, isNatural, usingColumns, correlation, rtindex }
        left right quals
  | .fromExpr => do
      let fromList ← many node
      let quals ← opt node
      return .fromExpr fromList quals
  | .onConflictExpr => do
      let action ← next
      let arbiterElems ← many node
      let arbiterWhere ← opt node
      let constraint ← next
      let setList ← many node
      let whereClause ← opt node
      let excludedRtindex ← next
      let excludedTlist ← many node
      return .onConflictExpr
        { action, constraint, excludedRtindex }
        arbiterElems arbiterWhere setList whereClause excludedTlist
  | .setOperationStmt => do
      let op ← next
      let all ← next
      let left ← one node
      let right ← one node
      let colTypes ← next
      let colTypmods ← next
      let colCollations ← next
      let groupClauses ← many node
      return .setOperationStmt
        { op, all, colTypes, colTypmods, colCollations }
        left right groupClauses
  | .sortGroupClause => do
      return .sortGroupClause {
        tleSortGroupRef := ← next, eqOp := ← next, sortOp := ← next, nullsFirst := ← next,
        hashable := ← next }
  | .windowClause => do
      let name ← next
      let refName ← next
      let partitionClause ← many node
      let orderClause ← many node
      let frameOptions ← next
      let startOffset ← opt node
      let endOffset ← opt node
      let winref ← next
      let copiedOrder ← next
      return .windowClause
        { name, refName, frameOptions, winref, copiedOrder }
        partitionClause orderClause startOffset endOffset
  | .withCheckOption => do
      let kind ← next
      let relname ← next
      let polname ← next
      let qual ← one node
      let cascaded ← next
      return .withCheckOption { kind, relname, polname, cascaded } qual
  | .commonTableExpr => do
      let name ← next
      let aliasColnames ← next
      let body ← one node
      let location ← next
      let recursive ← next
      let refcount ← next
      let colnames ← next
      let coltypes ← next
      let coltypmods ← next
      let colcollations ← next
      return .commonTableExpr
        { name, aliasColnames, location, recursive, refcount, colnames, coltypes,
          coltypmods, colcollations }
        body
  | .rangeTblFunction => do
      let call ← one node
      let colCount ← next
      let colnames ← next
      let coltypes ← next
      let coltypmods ← next
      let colcollations ← next
      return .rangeTblFunction
        { colCount, colnames, coltypes, coltypmods, colcollations }
        call
  | .tableSampleClause => do
      let handler ← next
      let args ← many node
      let repeatable ← opt node
      return .tableSampleClause handler args repeatable
  | .query => do
      let commandType ← next
      let canSetTag ← next
      let resultRelation ← next
      let hasAggs ← next
      let hasWindowFuncs ← next
      let hasSubLinks ← next
      let hasDistinctOn ← next
      let hasRecursive ← next
      let hasModifyingCte ← next
      let hasForUpdate ← next
      let cteList ← many node
      let rtable ← many node
      let jointree ← opt node
      let targetList ← many node
      let withCheckOptions ← many node
      let onConflict ← opt node
      let returningList ← many node
      let groupClause ← many node
      let havingQual ← opt node
      let windowClause ← many node
      let distinctClause ← many node
      let sortClause ← many node
      let limitOffset ← opt node
      let limitCount ← opt node
      let setOperations ← opt node
      return .query {
        header := {
          commandType, canSetTag, resultRelation, hasAggs, hasWindowFuncs, hasSubLinks,
          hasDistinctOn, hasRecursive, hasModifyingCte, hasForUpdate }
        cteList, rtable, jointree, targetList, withCheckOptions, onConflict,
        returningList, groupClause, havingQual, windowClause, distinctClause, sortClause,
        limitOffset, limitCount, setOperations }
  | .rangeTblEntry => do
      let kind ← one (readKind node)
      let correlation ← next
      let eref ← next
      let lateral ← next
      let inh ← next
      let inFromClause ← next
      let securityQuals ← many node
      return .rangeTblEntry {
        kind
        header := { correlation, eref, lateral, inh, inFromClause }
        securityQuals }
  | .list => failure

/-- Read a node, given the reading of the nodes below it. -/
def readWith (node : Json -> Decode Node) : Json -> Decode Node :=
  alternatives (fun _ => none) fun name value =>
    match (Named.ofName? name : Option Tag) with
    | some .list =>
        match value with
        | .arr items => Decode.enter do return .list (← items.mapM node)
        | _ => failure
    | some tag => record tag.fields (readFields node tag) value
    | none => failure

/-- Read a tree. -/
def read : Json -> Decode Node :=
  Decode.nested readWith

/-- Read a tree from a value in memory. -/
def ofJson? (value : Json) : Option Node :=
  Json.decode? read value

/-- Read a tree from text. -/
def ofText? (text : String) : Option Node :=
  Json.decodeText? read text

end Node
end QueryTree
