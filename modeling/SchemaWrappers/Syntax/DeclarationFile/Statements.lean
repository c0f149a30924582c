import SchemaWrappers.Syntax.Rule

namespace SchemaWrappers.Syntax.DeclarationFile
open Rule

def statements : List (String × Rule) := [
  ("program", seq [maybe (.ref "hash_bang_line"), many (.ref "statement")]),
  ("hash_bang_line", .form .interpreterLine),
  ("export_statement",
    oneOf [oneOf [seq ["export",
          oneOf [seq ["*", .ref "_from_clause"], seq [.ref "namespace_export", .ref "_from_clause"],
            seq [.ref "export_clause", .ref "_from_clause"], .ref "export_clause"],
          .ref "_terminator"],
        seq [many (.place "decorator" (.ref "decorator")), "export",
          oneOf [.place "declaration" (.ref "declaration"),
            seq ["default",
              oneOf [.place "declaration" (.ref "declaration"),
                seq [.place "value" (.ref "expression"), .ref "_terminator"]]]]]],
      seq ["export", "type", .ref "export_clause", maybe (.ref "_from_clause"), .ref "_terminator"],
      seq ["export", "import", .ref "import_alias"],
      seq ["export", "=", .ref "expression", .ref "_terminator"],
      seq ["export", "as", "namespace", .ref "identifier", .ref "_terminator"]]),
  ("namespace_export", seq ["*", "as", .ref "_outer_name"]),
  ("export_clause", seq ["\x7b", maybe (listed (.ref "export_specifier")), maybe ",", "\x7d"]),
  ("export_specifier",
    seq [maybe (oneOf ["type", "typeof"]),
      seq [.place "name" (.ref "_outer_name"),
        maybe (seq ["as", .place "alias" (.ref "_outer_name")])]]),
  ("_outer_name", oneOf [.ref "identifier", .ref "string"]),
  ("declaration",
    oneOf [oneOf [.ref "function_declaration", .ref "generator_function_declaration",
        .ref "class_declaration", .ref "lexical_declaration", .ref "variable_declaration"],
      .ref "function_signature", .ref "abstract_class_declaration", .ref "module",
      .rank "declare" (.ref "internal_module"), .ref "type_alias_declaration",
      .ref "enum_declaration", .ref "interface_declaration", .ref "import_alias",
      .ref "ambient_declaration"]),
  ("import", "import"),
  ("import_statement",
    seq ["import", maybe (oneOf ["type", "typeof"]),
      oneOf [seq [.ref "import_clause", .ref "_from_clause"], .ref "import_require_clause",
        .place "source" (.ref "string")], maybe (.ref "import_attribute"), .ref "_terminator"]),
  ("import_clause",
    oneOf [.ref "namespace_import", .ref "named_imports",
      seq [.ref "_inner_name",
        maybe (seq [",", oneOf [.ref "namespace_import", .ref "named_imports"]])]]),
  ("_from_clause", seq ["from", .place "source" (.ref "string")]),
  ("namespace_import", seq ["*", "as", .ref "identifier"]),
  ("named_imports", seq ["\x7b", maybe (listed (.ref "import_specifier")), maybe ",", "\x7d"]),
  ("import_specifier",
    seq [maybe (oneOf ["type", "typeof"]),
      oneOf [.place "name" (.ref "_inner_name"),
        seq [.place "name" (oneOf [.ref "_outer_name", called "identifier" "type"]), "as",
          .place "alias" (.ref "_inner_name")]]]),
  ("import_attribute", seq ["with", .ref "object"]),
  ("statement",
    oneOf [.ref "export_statement", .ref "import_statement", .ref "debugger_statement",
      .ref "expression_statement", .ref "declaration", .ref "statement_block", .ref "if_statement",
      .ref "switch_statement", .ref "for_statement", .ref "for_in_statement",
      .ref "while_statement", .ref "do_statement", .ref "try_statement", .ref "with_statement",
      .ref "break_statement", .ref "continue_statement", .ref "return_statement",
      .ref "throw_statement", .ref "empty_statement", .ref "labeled_statement"]),
  ("expression_statement", seq [.ref "_value", .ref "_terminator"]),
  ("variable_declaration", seq ["var", listed (.ref "variable_declarator"), .ref "_terminator"]),
  ("lexical_declaration",
    seq [.place "kind" (oneOf ["let", "const"]), listed (.ref "variable_declarator"),
      .ref "_terminator"]),
  ("variable_declarator",
    oneOf [seq [.place "name" (oneOf [.ref "identifier", .ref "_structured_pattern"]),
        .place "type" (maybe (.ref "type_annotation")), maybe (.ref "_initializer")],
      .rank "declare" (seq [.place "name" (.ref "identifier"), "!",
        .place "type" (.ref "type_annotation")])]),
  ("statement_block",
    rightward 0 (seq ["\x7b", many (.ref "statement"), "\x7d", maybe (.form .lineEnd)])),
  ("else_clause", seq ["else", .ref "statement"]),
  ("if_statement",
    rightward 0 (seq ["if", .place "condition" (.ref "parenthesized_expression"),
      .place "consequence" (.ref "statement"), maybe (.place "alternative" (.ref "else_clause"))])),
  ("switch_statement",
    seq ["switch", .place "value" (.ref "parenthesized_expression"),
      .place "body" (.ref "switch_body")]),
  ("for_statement",
    seq ["for", "(",
      oneOf [.place "initializer" (oneOf [.ref "lexical_declaration", .ref "variable_declaration"]),
        seq [.place "initializer" (.ref "_value"), ";"],
        .place "initializer" (.ref "empty_statement")],
      .place "condition" (oneOf [seq [.ref "_value", ";"], .ref "empty_statement"]),
      .place "increment" (maybe (.ref "_value")), ")", .place "body" (.ref "statement")]),
  ("for_in_statement",
    seq ["for", maybe "await", .ref "_loop_head", .place "body" (.ref "statement")]),
  ("_loop_head",
    seq ["(",
      oneOf [.place "left" (oneOf [.ref "_target", .ref "parenthesized_expression"]),
        seq [.place "kind" "var",
          .place "left" (oneOf [.ref "identifier", .ref "_structured_pattern"]),
          maybe (.ref "_initializer")],
        seq [.place "kind" (oneOf ["let", "const"]),
          .place "left" (oneOf [.ref "identifier", .ref "_structured_pattern"]),
          maybe (.form .lineEnd)]], .place "operator" (oneOf ["in", "of"]),
      .place "right" (.ref "_value"), ")"]),
  ("while_statement",
    seq ["while", .place "condition" (.ref "parenthesized_expression"),
      .place "body" (.ref "statement")]),
  ("do_statement",
    rightward 0 (seq ["do", .place "body" (.ref "statement"), "while",
      .place "condition" (.ref "parenthesized_expression"), maybe (.ref "_terminator")])),
  ("try_statement",
    seq ["try", .place "body" (.ref "statement_block"),
      maybe (.place "handler" (.ref "catch_clause")),
      maybe (.place "finalizer" (.ref "finally_clause"))]),
  ("with_statement",
    seq ["with", .place "object" (.ref "parenthesized_expression"),
      .place "body" (.ref "statement")]),
  ("break_statement",
    seq ["break", .place "label" (maybe (called "statement_identifier" (.ref "identifier"))),
      .ref "_terminator"]),
  ("continue_statement",
    seq ["continue", .place "label" (maybe (called "statement_identifier" (.ref "identifier"))),
      .ref "_terminator"]),
  ("debugger_statement", seq ["debugger", .ref "_terminator"]),
  ("return_statement", seq ["return", maybe (.ref "_value"), .ref "_terminator"]),
  ("throw_statement", seq ["throw", .ref "_value", .ref "_terminator"]),
  ("empty_statement", ";"),
  ("labeled_statement",
    .weight (-1) (seq [.place "label" (called "statement_identifier" (oneOf [.ref "identifier",
        .ref "_soft_word"])), ":", .place "body" (.ref "statement")])),
  ("switch_body", seq ["\x7b", many (oneOf [.ref "switch_case", .ref "switch_default"]), "\x7d"]),
  ("switch_case",
    seq ["case", .place "value" (.ref "_value"), ":", .place "body" (many (.ref "statement"))]),
  ("switch_default", seq ["default", ":", .place "body" (many (.ref "statement"))]),
  ("catch_clause",
    seq ["catch",
      maybe (seq ["(", .place "parameter" (oneOf [.ref "identifier", .ref "_structured_pattern"]),
        maybe (.place "type" (.ref "type_annotation")), ")"]),
      .place "body" (.ref "statement_block")]),
  ("finally_clause", seq ["finally", .place "body" (.ref "statement_block")])]

end SchemaWrappers.Syntax.DeclarationFile
