import QueryTree.RawNode.Tag

/-!
# Field names of raw nodes

The names under which the parts of each kind of raw node are written, in order.
-/

namespace QueryTree
namespace RawNode

/-- The fields of a kind of raw node.  A literal, a star and a list are written
without names. -/
def Tag.fields : Tag -> List String
  | .paramRef => ["number", "location"]
  | .aConst => ["val", "location"]
  | .rangeAlias => ["name", "colnames"]
  | .rangeVar => ["catalog", "schema", "relname", "inh", "alias", "location"]
  | .groupingFunc => ["args", "location"]
  | .subLink => ["link_type", "test_expr", "oper_name", "subselect", "location"]
  | .caseExpr => ["arg", "whens", "default", "location"]
  | .rowExpr => ["args", "explicit_row", "location"]
  | .coalesceExpr => ["args", "location"]
  | .minMaxExpr => ["op", "args", "location"]
  | .xmlExpr => ["op", "name", "named_args", "args", "xml_option", "location"]
  | .nullTest => ["arg", "test", "location"]
  | .booleanTest => ["arg", "test", "location"]
  | .joinExpr => ["join_type", "is_natural", "larg", "rarg", "using", "quals", "alias"]
  | .intoClause => ["rel", "col_names", "view_query", "skip_data"]
  | .insertStmt =>
      ["relation", "cols", "select_stmt", "on_conflict", "returning_list", "with_clause"]
  | .deleteStmt =>
      ["relation", "using_clause", "where_clause", "returning_list", "with_clause"]
  | .updateStmt =>
      ["relation", "target_list", "where_clause", "from_clause", "returning_list",
       "with_clause"]
  | .selectStmt =>
      ["distinct_clause", "into_clause", "target_list", "from_clause", "where_clause",
       "group_clause", "having_clause", "window_clause", "values_lists", "sort_clause",
       "limit_offset", "limit_count", "locking_clause", "with_clause", "op", "all",
       "larg", "rarg"]
  | .aExpr => ["kind", "name", "lexpr", "rexpr", "location"]
  | .columnRef => ["fields", "location"]
  | .funcCall =>
      ["funcname", "args", "agg_order", "agg_filter", "agg_within_group", "agg_star",
       "agg_distinct", "func_variadic", "over", "location"]
  | .namedArgExpr => ["arg", "name", "location"]
  | .aIndices => ["lidx", "uidx"]
  | .aIndirection => ["arg", "indirection"]
  | .aArrayExpr => ["elements", "location"]
  | .resTarget => ["name", "indirection", "val", "location"]
  | .multiAssignRef => ["source", "colno", "ncolumns"]
  | .typeCast => ["arg", "type_name", "location"]
  | .collateClause => ["arg", "collname", "location"]
  | .sortBy => ["node", "dir", "nulls", "use_op", "location"]
  | .windowDef =>
      ["name", "refname", "partition_clause", "order_clause", "frame_options",
       "start_offset", "end_offset", "location"]
  | .rangeSubselect => ["lateral", "subquery", "alias"]
  | .rangeFunction =>
      ["lateral", "ordinality", "is_rowsfrom", "functions", "alias", "coldeflist"]
  | .rangeTableSample => ["relation", "method", "args", "repeatable", "location"]
  | .typeName => ["names", "setof", "pct_type", "typmods", "array_bounds", "location"]
  | .columnDef =>
      ["colname", "type_name", "raw_default", "coll_clause", "is_not_null", "location"]
  | .indexElem =>
      ["name", "expr", "indexcolname", "collation", "opclass", "ordering",
       "nulls_ordering"]
  | .groupingSet => ["kind", "content", "location"]
  | .lockingClause => ["locked_rels", "strength", "wait_policy"]
  | .xmlSerialize => ["xml_option", "expr", "type_name", "location"]
  | .withClause => ["ctes", "recursive", "location"]
  | .inferClause => ["index_elems", "where_clause", "conname", "location"]
  | .onConflictClause => ["action", "infer", "target_list", "where_clause", "location"]
  | .commonTableExpr => ["name", "aliascolnames", "ctequery", "location"]
  | .setToDefault => ["type_oid", "typmod", "collation", "location"]
  | .currentOfExpr => ["rtindex", "cursor_name", "cursor_param"]
  | .value | .aStar | .list => []

def CaseWhen.fields : List String :=
  ["expr", "result", "location"]

end RawNode
end QueryTree
