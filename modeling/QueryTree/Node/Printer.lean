import QueryTree.Node.Leaves

/-!
# Writing trees

A node is written as an object with one key, the name of its kind; a list holds
an array of nodes there, every other kind a record.
-/

namespace QueryTree

open Json (alternative encode ofRecord Coded)

namespace Node

/-- The record of a node under the name of its kind. -/
def write (tag : Tag) (values : List Json) : Json :=
  alternative tag.name (ofRecord tag.fields values)

mutual

def toJson (form : SingleForm) : Node -> Json
  | .var data =>
      write .var
        [encode data.rtindex, encode data.attno, encode data.typeOid, encode data.typmod,
         encode data.collation, encode data.levelsUp, encode data.location]
  | .const data =>
      write .const
        [encode data.typeOid, encode data.typmod, encode data.collation, encode data.len,
         encode data.byVal, data.value.toJson form, encode data.location]
  | .param data =>
      write .param
        [encode data.kind, encode data.id, encode data.typeOid, encode data.typmod,
         encode data.collation, encode data.location]
  | .aggref data directArgs args order distinct filter =>
      write .aggref
        [encode data.funcOid, encode data.resultType, encode data.collation,
         encode data.inputCollation, .arr (listToJson form directArgs),
         .arr (listToJson form args), .arr (listToJson form order),
         .arr (listToJson form distinct), optionToJson form filter, encode data.star,
         encode data.variadic, encode data.kind, encode data.levelsUp,
         encode data.location]
  | .groupingFunc data args =>
      write .groupingFunc
        [.arr (listToJson form args), encode data.refs, encode data.cols,
         encode data.levelsUp, encode data.location]
  | .windowFunc data args filter =>
      write .windowFunc
        [encode data.funcOid, encode data.resultType, encode data.collation,
         encode data.inputCollation, .arr (listToJson form args),
         optionToJson form filter, encode data.winref, encode data.star,
         encode data.isAgg, encode data.location]
  | .arrayRef data upperIndex lowerIndex expr assignExpr =>
      write .arrayRef
        [encode data.arrayType, encode data.elementType, encode data.typmod,
         encode data.collation, .arr (listToJson form upperIndex),
         .arr (listToJson form lowerIndex), expr.toJson form, optionToJson form assignExpr]
  | .funcExpr data args =>
      write .funcExpr
        [encode data.funcOid, encode data.resultType, encode data.returnsSet,
         encode data.variadic, encode data.format, encode data.collation,
         encode data.inputCollation, .arr (listToJson form args), encode data.location]
  | .namedArgExpr data arg =>
      write .namedArgExpr
        [arg.toJson form, encode data.name, encode data.argNumber, encode data.location]
  | .opExpr data args =>
      write .opExpr
        [encode data.opOid, encode data.funcOid, encode data.resultType,
         encode data.returnsSet, encode data.collation, encode data.inputCollation,
         .arr (listToJson form args), encode data.location]
  | .distinctExpr data args =>
      write .distinctExpr
        [encode data.opOid, encode data.funcOid, encode data.resultType,
         encode data.returnsSet, encode data.collation, encode data.inputCollation,
         .arr (listToJson form args), encode data.location]
  | .nullIfExpr data args =>
      write .nullIfExpr
        [encode data.opOid, encode data.funcOid, encode data.resultType,
         encode data.returnsSet, encode data.collation, encode data.inputCollation,
         .arr (listToJson form args), encode data.location]
  | .scalarArrayOpExpr data args =>
      write .scalarArrayOpExpr
        [encode data.opOid, encode data.funcOid, encode data.useOr,
         encode data.inputCollation, .arr (listToJson form args), encode data.location]
  | .boolExpr data args =>
      write .boolExpr
        [encode data.op, .arr (listToJson form args), encode data.location]
  | .subLink data testExpr subselect =>
      write .subLink
        [encode data.linkType, encode data.linkId, optionToJson form testExpr,
         encode data.operName, subselect.toJson form, encode data.location]
  | .fieldSelect data arg =>
      write .fieldSelect
        [arg.toJson form, encode data.fieldNumber, encode data.resultType,
         encode data.typmod, encode data.collation]
  | .fieldStore data arg newValues =>
      write .fieldStore
        [arg.toJson form, .arr (listToJson form newValues), encode data.fieldNumbers,
         encode data.resultType]
  | .relabelType data arg =>
      write .relabelType
        [arg.toJson form, encode data.resultType, encode data.typmod,
         encode data.collation, encode data.format, encode data.location]
  | .coerceViaInOut data arg =>
      write .coerceViaInOut
        [arg.toJson form, encode data.resultType, encode data.collation,
         encode data.format, encode data.location]
  | .arrayCoerceExpr data arg =>
      write .arrayCoerceExpr
        [arg.toJson form, encode data.elemFuncOid, encode data.resultType,
         encode data.typmod, encode data.collation, encode data.isExplicit,
         encode data.format, encode data.location]
  | .convertRowtypeExpr data arg =>
      write .convertRowtypeExpr
        [arg.toJson form, encode data.resultType, encode data.format, encode data.location]
  | .collateExpr data arg =>
      write .collateExpr
        [arg.toJson form, encode data.collation, encode data.location]
  | .caseExpr data arg whens otherwise =>
      write .caseExpr
        [encode data.caseType, encode data.collation, optionToJson form arg,
         .arr (whensToJson form whens), optionToJson form otherwise, encode data.location]
  | .caseTestExpr data =>
      write .caseTestExpr
        [encode data.typeOid, encode data.typmod, encode data.collation]
  | .arrayExpr data elements =>
      write .arrayExpr
        [encode data.arrayType, encode data.collation, encode data.elementType,
         .arr (listToJson form elements), encode data.multidims, encode data.location]
  | .rowExpr data args =>
      write .rowExpr
        [.arr (listToJson form args), encode data.rowType, encode data.format,
         encode data.colnames, encode data.location]
  | .rowCompareExpr data leftArgs rightArgs =>
      write .rowCompareExpr
        [encode data.compare, encode data.opOids, encode data.opFamilies,
         encode data.inputCollations, .arr (listToJson form leftArgs),
         .arr (listToJson form rightArgs)]
  | .coalesceExpr data args =>
      write .coalesceExpr
        [encode data.coalesceType, encode data.collation, .arr (listToJson form args),
         encode data.location]
  | .minMaxExpr data args =>
      write .minMaxExpr
        [encode data.minmaxType, encode data.collation, encode data.inputCollation,
         encode data.op, .arr (listToJson form args), encode data.location]
  | .xmlExpr data namedArgs args =>
      write .xmlExpr
        [encode data.op, encode data.name, .arr (listToJson form namedArgs),
         encode data.argNames, .arr (listToJson form args), encode data.xmlOption,
         encode data.typeOid, encode data.typmod, encode data.location]
  | .nullTest data arg =>
      write .nullTest
        [arg.toJson form, encode data.test, encode data.argIsRow, encode data.location]
  | .booleanTest data arg =>
      write .booleanTest
        [arg.toJson form, encode data.test, encode data.location]
  | .coerceToDomain data arg =>
      write .coerceToDomain
        [arg.toJson form, encode data.resultType, encode data.typmod,
         encode data.collation, encode data.format, encode data.location]
  | .coerceToDomainValue data =>
      write .coerceToDomainValue
        [encode data.typeOid, encode data.typmod, encode data.collation,
         encode data.location]
  | .setToDefault data =>
      write .setToDefault
        [encode data.typeOid, encode data.typmod, encode data.collation,
         encode data.location]
  | .currentOfExpr data =>
      write .currentOfExpr
        [encode data.rtindex, encode data.cursorName, encode data.cursorParam]
  | .inferenceElem data expr =>
      write .inferenceElem
        [expr.toJson form, encode data.collation, encode data.opclass]
  | .targetEntry data expr =>
      write .targetEntry
        [expr.toJson form, encode data.resno, encode data.name, encode data.sortGroupRef,
         encode data.origTable, encode data.origColumn, encode data.junk]
  | .rangeTblRef rtindex => write .rangeTblRef [encode rtindex]
  | .joinExpr data left right quals =>
      write .joinExpr
        [encode data.joinType, encode data.isNatural, left.toJson form, right.toJson form,
         encode data.usingColumns, optionToJson form quals, encode data.correlation,
         encode data.rtindex]
  | .fromExpr fromList quals =>
      write .fromExpr
        [.arr (listToJson form fromList), optionToJson form quals]
  | .onConflictExpr data arbiterElems arbiterWhere setList whereClause excludedTlist =>
      write .onConflictExpr
        [encode data.action, .arr (listToJson form arbiterElems),
         optionToJson form arbiterWhere, encode data.constraint,
         .arr (listToJson form setList), optionToJson form whereClause,
         encode data.excludedRtindex, .arr (listToJson form excludedTlist)]
  | .setOperationStmt data left right groupClauses =>
      write .setOperationStmt
        [encode data.op, encode data.all, left.toJson form, right.toJson form,
         encode data.colTypes, encode data.colTypmods, encode data.colCollations,
         .arr (listToJson form groupClauses)]
  | .sortGroupClause data =>
      write .sortGroupClause
        [encode data.tleSortGroupRef, encode data.eqOp, encode data.sortOp,
         encode data.nullsFirst, encode data.hashable]
  | .windowClause data partitionClause orderClause startOffset endOffset =>
      write .windowClause
        [encode data.name, encode data.refName, .arr (listToJson form partitionClause),
         .arr (listToJson form orderClause), encode data.frameOptions,
         optionToJson form startOffset, optionToJson form endOffset, encode data.winref,
         encode data.copiedOrder]
  | .withCheckOption data qual =>
      write .withCheckOption
        [encode data.kind, encode data.relname, encode data.polname, qual.toJson form,
         encode data.cascaded]
  | .commonTableExpr data body =>
      write .commonTableExpr
        [encode data.name, encode data.aliasColnames, body.toJson form,
         encode data.location, encode data.recursive, encode data.refcount,
         encode data.colnames, encode data.coltypes, encode data.coltypmods,
         encode data.colcollations]
  | .rangeTblFunction data call =>
      write .rangeTblFunction
        [call.toJson form, encode data.colCount, encode data.colnames,
         encode data.coltypes, encode data.coltypmods, encode data.colcollations]
  | .tableSampleClause handler args repeatable =>
      write .tableSampleClause
        [encode handler, .arr (listToJson form args), optionToJson form repeatable]
  | .query q => queryToJson form q
  | .rangeTblEntry entry => entryToJson form entry
  | .list items => alternative "List" (.arr (listToJson form items))
termination_by structural x => x

def whenToJson (form : SingleForm) : CaseWhen -> Json
  | ⟨expr, result, location⟩ =>
      ofRecord CaseWhen.fields [expr.toJson form, result.toJson form, encode location]
termination_by structural x => x

def queryToJson (form : SingleForm) : Query -> Json
  | ⟨header, ctes, rtable, jointree, targets, checks, conflict, returning, groups, having,
     windows, distincts, sorts, offset, count, operations⟩ =>
      write .query
        [encode header.commandType, encode header.canSetTag, encode header.resultRelation,
         encode header.hasAggs, encode header.hasWindowFuncs, encode header.hasSubLinks,
         encode header.hasDistinctOn, encode header.hasRecursive,
         encode header.hasModifyingCte, encode header.hasForUpdate,
         .arr (listToJson form ctes), .arr (listToJson form rtable),
         optionToJson form jointree, .arr (listToJson form targets),
         .arr (listToJson form checks), optionToJson form conflict,
         .arr (listToJson form returning), .arr (listToJson form groups),
         optionToJson form having, .arr (listToJson form windows),
         .arr (listToJson form distincts), .arr (listToJson form sorts),
         optionToJson form offset, optionToJson form count, optionToJson form operations]
termination_by structural x => x

def entryToJson (form : SingleForm) : RangeTblEntry -> Json
  | ⟨kind, header, securityQuals⟩ =>
      write .rangeTblEntry
        [kindToJson form kind, encode header.correlation, encode header.eref,
         encode header.lateral, encode header.inh, encode header.inFromClause,
         .arr (listToJson form securityQuals)]
termination_by structural x => x

def kindToJson (form : SingleForm) : RteKind -> Json
  | .relation relId relKind tablesample =>
      alternative "Relation"
        (ofRecord RteKind.relationFields
          [encode relId, encode relKind, optionToJson form tablesample])
  | .subquery inner securityBarrier =>
      alternative "Subquery"
        (ofRecord RteKind.subqueryFields [inner.toJson form, encode securityBarrier])
  | .join joinType aliasVars =>
      alternative "Join"
        (ofRecord RteKind.joinFields [encode joinType, .arr (listToJson form aliasVars)])
  | .function functions ordinality =>
      alternative "Function"
        (ofRecord RteKind.functionFields [.arr (listToJson form functions), encode ordinality])
  | .values rows collations =>
      alternative "Values"
        (ofRecord RteKind.valuesFields [.arr (listToJson form rows), encode collations])
  | .cte reference =>
      alternative "Cte"
        (ofRecord RteKind.cteFields
          [encode reference.name, encode reference.levelsUp, encode reference.selfReference,
           encode reference.coltypes, encode reference.coltypmods,
           encode reference.colcollations])
termination_by structural x => x

def listToJson (form : SingleForm) : List Node -> List Json
  | [] => []
  | node :: rest => node.toJson form :: listToJson form rest
termination_by structural x => x

def optionToJson (form : SingleForm) : Option Node -> Json
  | none => .null
  | some node => node.toJson form
termination_by structural x => x

def whensToJson (form : SingleForm) : List CaseWhen -> List Json
  | [] => []
  | w :: rest => whenToJson form w :: whensToJson form rest
termination_by structural x => x

end

end Node

end QueryTree
