import QueryTree.Node.Tag

/-!
# Field names

The names under which the parts of each kind of node are written, in order.
-/

namespace QueryTree

/-- The fields of a kind of node.  A list is written without names. -/
def Node.Tag.fields : Node.Tag -> List String
  | .var =>
      ["rtindex", "attno", "type_oid", "typmod", "collation", "levels_up", "location"]
  | .const => ["type_oid", "typmod", "collation", "len", "by_val", "value", "location"]
  | .param => ["kind", "id", "type_oid", "typmod", "collation", "location"]
  | .aggref =>
      ["func_oid", "result_type", "collation", "input_collation", "direct_args", "args",
       "order", "distinct", "filter", "star", "variadic", "kind", "levels_up", "location"]
  | .groupingFunc => ["args", "refs", "cols", "levels_up", "location"]
  | .windowFunc =>
      ["func_oid", "result_type", "collation", "input_collation", "args", "filter",
       "winref", "star", "is_agg", "location"]
  | .arrayRef =>
      ["array_type", "element_type", "typmod", "collation", "upper_index", "lower_index",
       "expr", "assign_expr"]
  | .funcExpr =>
      ["func_oid", "result_type", "returns_set", "variadic", "format", "collation",
       "input_collation", "args", "location"]
  | .namedArgExpr => ["arg", "name", "arg_number", "location"]
  | .opExpr | .distinctExpr | .nullIfExpr =>
      ["op_oid", "func_oid", "result_type", "returns_set", "collation", "input_collation",
       "args", "location"]
  | .scalarArrayOpExpr =>
      ["op_oid", "func_oid", "use_or", "input_collation", "args", "location"]
  | .boolExpr => ["op", "args", "location"]
  | .subLink =>
      ["link_type", "link_id", "test_expr", "oper_name", "subselect", "location"]
  | .fieldSelect => ["arg", "field_number", "result_type", "typmod", "collation"]
  | .fieldStore => ["arg", "new_values", "field_numbers", "result_type"]
  | .relabelType => ["arg", "result_type", "typmod", "collation", "format", "location"]
  | .coerceViaInOut => ["arg", "result_type", "collation", "format", "location"]
  | .arrayCoerceExpr =>
      ["arg", "elem_func_oid", "result_type", "typmod", "collation", "is_explicit",
       "format", "location"]
  | .convertRowtypeExpr => ["arg", "result_type", "format", "location"]
  | .collateExpr => ["arg", "collation", "location"]
  | .caseExpr => ["case_type", "collation", "arg", "whens", "default", "location"]
  | .caseTestExpr => ["type_oid", "typmod", "collation"]
  | .arrayExpr =>
      ["array_type", "collation", "element_type", "elements", "multidims", "location"]
  | .rowExpr => ["args", "row_type", "format", "colnames", "location"]
  | .rowCompareExpr =>
      ["compare", "op_oids", "op_families", "input_collations", "left_args", "right_args"]
  | .coalesceExpr => ["coalesce_type", "collation", "args", "location"]
  | .minMaxExpr =>
      ["minmax_type", "collation", "input_collation", "op", "args", "location"]
  | .xmlExpr =>
      ["op", "name", "named_args", "arg_names", "args", "xml_option", "type_oid",
       "typmod", "location"]
  | .nullTest => ["arg", "test", "arg_is_row", "location"]
  | .booleanTest => ["arg", "test", "location"]
  | .coerceToDomain => ["arg", "result_type", "typmod", "collation", "format", "location"]
  | .coerceToDomainValue => ["type_oid", "typmod", "collation", "location"]
  | .setToDefault => ["type_oid", "typmod", "collation", "location"]
  | .currentOfExpr => ["rtindex", "cursor_name", "cursor_param"]
  | .inferenceElem => ["expr", "collation", "opclass"]
  | .targetEntry =>
      ["expr", "resno", "name", "sort_group_ref", "orig_table", "orig_column", "junk"]
  | .rangeTblRef => ["rtindex"]
  | .joinExpr =>
      ["join_type", "is_natural", "left", "right", "using", "quals", "alias", "rtindex"]
  | .fromExpr => ["from_list", "quals"]
  | .onConflictExpr =>
      ["action", "arbiter_elems", "arbiter_where", "constraint", "set_list",
       "where_clause", "excluded_rtindex", "excluded_tlist"]
  | .setOperationStmt =>
      ["op", "all", "left", "right", "col_types", "col_typmods", "col_collations",
       "group_clauses"]
  | .sortGroupClause =>
      ["tle_sort_group_ref", "eq_op", "sort_op", "nulls_first", "hashable"]
  | .windowClause =>
      ["name", "ref_name", "partition_clause", "order_clause", "frame_options",
       "start_offset", "end_offset", "winref", "copied_order"]
  | .withCheckOption => ["kind", "relname", "polname", "qual", "cascaded"]
  | .commonTableExpr =>
      ["name", "alias_colnames", "query", "location", "recursive", "refcount", "colnames",
       "coltypes", "coltypmods", "colcollations"]
  | .rangeTblFunction =>
      ["func_expr", "col_count", "colnames", "coltypes", "coltypmods", "colcollations"]
  | .tableSampleClause => ["handler", "args", "repeatable"]
  | .query =>
      ["command_type", "can_set_tag", "result_relation", "has_aggs", "has_window_funcs",
       "has_sub_links", "has_distinct_on", "has_recursive", "has_modifying_cte",
       "has_for_update", "cte_list", "rtable", "jointree", "target_list",
       "with_check_options", "on_conflict", "returning_list", "group_clause",
       "having_qual", "window_clause", "distinct_clause", "sort_clause", "limit_offset",
       "limit_count", "set_operations"]
  | .rangeTblEntry =>
      ["kind", "alias", "eref", "lateral", "inh", "in_from_clause", "security_quals"]
  | .list => []

def CaseWhen.fields : List String :=
  ["expr", "result", "location"]

def Alias.fields : List String :=
  ["name", "colnames"]

namespace RteKind

def relationFields : List String :=
  ["rel_id", "rel_kind", "tablesample"]

def subqueryFields : List String :=
  ["subquery", "security_barrier"]

def joinFields : List String :=
  ["join_type", "join_alias_vars"]

def functionFields : List String :=
  ["functions", "ordinality"]

def valuesFields : List String :=
  ["values_lists", "collations"]

def cteFields : List String :=
  ["name", "levels_up", "self_reference", "coltypes", "coltypmods", "colcollations"]

end RteKind

end QueryTree
