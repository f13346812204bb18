import QueryTree.RawNode.Leaves

/-!
# Writing raw trees
-/

namespace QueryTree

open Json (alternative encode ofRecord Coded)

namespace RawNode

/-- The record of a raw node under the name of its kind. -/
def write (tag : Tag) (values : List Json) : Json :=
  alternative tag.name (ofRecord tag.fields values)

mutual

def toJson : RawNode -> Json
  | .value v => alternative "Value" (encode v)
  | .paramRef data => write .paramRef [encode data.number, encode data.location]
  | .aConst data => write .aConst [encode data.val, encode data.location]
  | .aStar => alternative "AStar" .null
  | .rangeAlias data => alternative "Alias" (encode data)
  | .rangeVar data correlation =>
      write .rangeVar
        [encode data.catalog, encode data.schema, encode data.relname, encode data.inh,
         optionToJson correlation, encode data.location]
  | .groupingFunc location args =>
      write .groupingFunc
        [.arr (listToJson args), encode location]
  | .subLink data testExpr subselect =>
      write .subLink
        [encode data.linkType, optionToJson testExpr, encode data.operName,
         subselect.toJson, encode data.location]
  | .caseExpr location arg whens otherwise =>
      write .caseExpr
        [optionToJson arg, .arr (whensToJson whens), optionToJson otherwise,
         encode location]
  | .rowExpr data args =>
      write .rowExpr
        [.arr (listToJson args), encode data.explicitRow, encode data.location]
  | .coalesceExpr location args =>
      write .coalesceExpr
        [.arr (listToJson args), encode location]
  | .minMaxExpr data args =>
      write .minMaxExpr
        [encode data.op, .arr (listToJson args), encode data.location]
  | .xmlExpr data namedArgs args =>
      write .xmlExpr
        [encode data.op, encode data.name, .arr (listToJson namedArgs),
         .arr (listToJson args), encode data.xmlOption, encode data.location]
  | .nullTest data arg =>
      write .nullTest
        [arg.toJson, encode data.test, encode data.location]
  | .booleanTest data arg =>
      write .booleanTest
        [arg.toJson, encode data.test, encode data.location]
  | .joinExpr data larg rarg quals correlation =>
      write .joinExpr
        [encode data.joinType, encode data.isNatural, larg.toJson, rarg.toJson,
         encode data.usingColumns, optionToJson quals, optionToJson correlation]
  | .intoClause data rel viewQuery =>
      write .intoClause
        [rel.toJson, encode data.colNames, optionToJson viewQuery, encode data.skipData]
  | .insertStmt relation cols select onConflict returningList withList =>
      write .insertStmt
        [relation.toJson, .arr (listToJson cols), optionToJson select,
         optionToJson onConflict, .arr (listToJson returningList), optionToJson withList]
  | .deleteStmt relation usingClause whereClause returningList withList =>
      write .deleteStmt
        [relation.toJson, .arr (listToJson usingClause), optionToJson whereClause,
         .arr (listToJson returningList), optionToJson withList]
  | .updateStmt relation targetList whereClause fromClause returningList withList =>
      write .updateStmt
        [relation.toJson, .arr (listToJson targetList), optionToJson whereClause,
         .arr (listToJson fromClause), .arr (listToJson returningList),
         optionToJson withList]
  | .selectStmt data distinctClause into targetList fromClause whereClause groupClause
        havingClause windowClause valuesLists sortClause limitOffset limitCount locking
        withList larg rarg =>
      write .selectStmt
        [.arr (listToJson distinctClause), optionToJson into,
         .arr (listToJson targetList), .arr (listToJson fromClause),
         optionToJson whereClause, .arr (listToJson groupClause),
         optionToJson havingClause, .arr (listToJson windowClause),
         .arr (listToJson valuesLists), .arr (listToJson sortClause),
         optionToJson limitOffset, optionToJson limitCount, .arr (listToJson locking),
         optionToJson withList, encode data.op, encode data.all, optionToJson larg,
         optionToJson rarg]
  | .aExpr data lexpr rexpr =>
      write .aExpr
        [encode data.kind, encode data.name, optionToJson lexpr, optionToJson rexpr,
         encode data.location]
  | .columnRef location fields =>
      write .columnRef
        [.arr (listToJson fields), encode location]
  | .funcCall data args aggOrder aggFilter window =>
      write .funcCall
        [encode data.funcname, .arr (listToJson args), .arr (listToJson aggOrder),
         optionToJson aggFilter, encode data.aggWithinGroup, encode data.aggStar,
         encode data.aggDistinct, encode data.funcVariadic, optionToJson window,
         encode data.location]
  | .namedArgExpr data arg =>
      write .namedArgExpr
        [arg.toJson, encode data.name, encode data.location]
  | .aIndices lidx uidx => write .aIndices [optionToJson lidx, optionToJson uidx]
  | .aIndirection arg indirection =>
      write .aIndirection
        [arg.toJson, .arr (listToJson indirection)]
  | .aArrayExpr location elements =>
      write .aArrayExpr
        [.arr (listToJson elements), encode location]
  | .resTarget data indirection val =>
      write .resTarget
        [encode data.name, .arr (listToJson indirection), optionToJson val,
         encode data.location]
  | .multiAssignRef data source =>
      write .multiAssignRef
        [source.toJson, encode data.colno, encode data.ncolumns]
  | .typeCast location arg type =>
      write .typeCast
        [arg.toJson, type.toJson, encode location]
  | .collateClause data arg =>
      write .collateClause
        [optionToJson arg, encode data.collname, encode data.location]
  | .sortBy data node =>
      write .sortBy
        [node.toJson, encode data.dir, encode data.nulls, encode data.useOp,
         encode data.location]
  | .windowDef data partitionClause orderClause startOffset endOffset =>
      write .windowDef
        [encode data.name, encode data.refname, .arr (listToJson partitionClause),
         .arr (listToJson orderClause), encode data.frameOptions,
         optionToJson startOffset, optionToJson endOffset, encode data.location]
  | .rangeSubselect lateral subquery correlation =>
      write .rangeSubselect
        [encode lateral, subquery.toJson, optionToJson correlation]
  | .rangeFunction data functions correlation coldeflist =>
      write .rangeFunction
        [encode data.lateral, encode data.ordinality, encode data.isRowsfrom,
         .arr (listToJson functions), optionToJson correlation,
         .arr (listToJson coldeflist)]
  | .rangeTableSample data relation args repeatable =>
      write .rangeTableSample
        [relation.toJson, encode data.method, .arr (listToJson args),
         optionToJson repeatable, encode data.location]
  | .typeName data typmods arrayBounds =>
      write .typeName
        [encode data.names, encode data.setof, encode data.pctType,
         .arr (listToJson typmods), .arr (listToJson arrayBounds), encode data.location]
  | .columnDef data type rawDefault collClause =>
      write .columnDef
        [encode data.colname, optionToJson type, optionToJson rawDefault,
         optionToJson collClause, encode data.isNotNull, encode data.location]
  | .indexElem data expr =>
      write .indexElem
        [encode data.name, optionToJson expr, encode data.indexcolname,
         encode data.collation, encode data.opclass, encode data.ordering,
         encode data.nullsOrdering]
  | .groupingSet data content =>
      write .groupingSet
        [encode data.kind, .arr (listToJson content), encode data.location]
  | .lockingClause data lockedRels =>
      write .lockingClause
        [.arr (listToJson lockedRels), encode data.strength, encode data.waitPolicy]
  | .xmlSerialize data expr type =>
      write .xmlSerialize
        [encode data.xmlOption, expr.toJson, type.toJson, encode data.location]
  | .withClause data ctes =>
      write .withClause
        [.arr (listToJson ctes), encode data.recursive, encode data.location]
  | .inferClause data indexElems whereClause =>
      write .inferClause
        [.arr (listToJson indexElems), optionToJson whereClause, encode data.conname,
         encode data.location]
  | .onConflictClause data infer targetList whereClause =>
      write .onConflictClause
        [encode data.action, optionToJson infer, .arr (listToJson targetList),
         optionToJson whereClause, encode data.location]
  | .commonTableExpr data ctequery =>
      write .commonTableExpr
        [encode data.name, encode data.aliascolnames, ctequery.toJson,
         encode data.location]
  | .setToDefault data =>
      write .setToDefault
        [encode data.typeOid, encode data.typmod, encode data.collation,
         encode data.location]
  | .currentOfExpr data =>
      write .currentOfExpr
        [encode data.rtindex, encode data.cursorName, encode data.cursorParam]
  | .list items => alternative "List" (.arr (listToJson items))
termination_by structural x => x

def CaseWhen.toJson : CaseWhen -> Json
  | ⟨expr, result, location⟩ =>
      ofRecord CaseWhen.fields [expr.toJson, result.toJson, encode location]
termination_by structural x => x

def listToJson : List RawNode -> List Json
  | [] => []
  | node :: rest => node.toJson :: listToJson rest
termination_by structural x => x

def optionToJson : Option RawNode -> Json
  | none => .null
  | some node => node.toJson
termination_by structural x => x

def whensToJson : List CaseWhen -> List Json
  | [] => []
  | w :: rest => w.toJson :: whensToJson rest
termination_by structural x => x

end

end RawNode

end QueryTree
