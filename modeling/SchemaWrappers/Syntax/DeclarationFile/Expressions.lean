import SchemaWrappers.Syntax.Rule

namespace SchemaWrappers.Syntax.DeclarationFile
open Rule

def operators : List (Rank × Side × String) := [
  ("logical_and", .left, "&&"), ("logical_or", .left, "||"), ("binary_shift", .left, ">>"),
  ("binary_shift", .left, ">>>"), ("binary_shift", .left, "<<"), ("bitwise_and", .left, "&"),
  ("bitwise_xor", .left, "^"), ("bitwise_or", .left, "|"), ("binary_plus", .left, "+"),
  ("binary_plus", .left, "-"), ("binary_times", .left, "*"), ("binary_times", .left, "/"),
  ("binary_times", .left, "%"), ("binary_exp", .right, "**"), ("binary_relation", .left, "<"),
  ("binary_relation", .left, "<="), ("binary_equality", .left, "=="),
  ("binary_equality", .left, "==="), ("binary_equality", .left, "!="),
  ("binary_equality", .left, "!=="), ("binary_relation", .left, ">="),
  ("binary_relation", .left, ">"), ("ternary", .left, "??"),
  ("binary_relation", .left, "instanceof"), ("binary_relation", .left, "in")]

def operation : Rank × Side × String → Rule
  | (k, s, o) =>
    let left := if o == "in" then oneOf [.ref "expression", .ref "private_property_identifier"]
      else .ref "expression"
    .rank k (.side s (seq [.place "left" left, .place "operator" (.text o),
      .place "right" (.ref "expression")]))

def expressions : List (String × Rule) := [
  ("parenthesized_expression",
    seq ["(",
      oneOf [seq [.ref "expression", .place "type" (maybe (.ref "type_annotation"))],
        .ref "sequence_expression"], ")"]),
  ("_value", oneOf [.ref "expression", .ref "sequence_expression"]),
  ("expression",
    oneOf [.ref "as_expression", .ref "satisfies_expression", .ref "instantiation_expression",
      .ref "internal_module", .ref "type_assertion", .ref "primary_expression",
      .ref "assignment_expression", .ref "augmented_assignment_expression", .ref "await_expression",
      .ref "unary_expression", .ref "binary_expression", .ref "ternary_expression",
      .ref "update_expression", .ref "new_expression", .ref "yield_expression"]),
  ("primary_expression",
    oneOf [oneOf [.ref "subscript_expression", .ref "member_expression",
        .ref "parenthesized_expression", .ref "_variable", called "identifier" (.ref "_soft_word"),
        .ref "this", .ref "super", .ref "number", .ref "string", .ref "template_string",
        .ref "regex", .ref "true", .ref "false", .ref "null", .ref "object", .ref "array",
        .ref "function_expression", .ref "arrow_function", .ref "generator_function", .ref "class",
        .ref "meta_property", .ref "call_expression"], .ref "non_null_expression"]),
  ("yield_expression",
    rightward 0 (seq ["yield", oneOf [seq ["*", .ref "expression"], maybe (.ref "expression")]])),
  ("object",
    .rank "object" (seq ["\x7b",
      maybe (listed (maybe (oneOf [.ref "pair", .ref "spread_element", .ref "method_definition",
        called "shorthand_property_identifier" (oneOf [.ref "identifier", .ref "_soft_word"])]))),
      "\x7d"])),
  ("object_pattern",
    .rank "object" (seq ["\x7b",
      maybe (listed (maybe (oneOf [.ref "pair_pattern", .ref "rest_pattern",
        .ref "object_assignment_pattern",
        called "shorthand_property_identifier_pattern" (oneOf [.ref "identifier",
          .ref "_soft_word"])]))), "\x7d"])),
  ("assignment_pattern",
    seq [.place "left" (.ref "pattern"), "=", .place "right" (.ref "expression")]),
  ("object_assignment_pattern",
    seq [.place "left"
      (oneOf [called "shorthand_property_identifier_pattern" (oneOf [.ref "_soft_word",
          .ref "identifier"]), .ref "_structured_pattern"]), "=",
      .place "right" (.ref "expression")]),
  ("array",
    seq ["[", maybe (listed (maybe (oneOf [.ref "expression", .ref "spread_element"]))), "]"]),
  ("array_pattern",
    seq ["[", maybe (listed (maybe (oneOf [.ref "pattern", .ref "assignment_pattern"]))), "]"]),
  ("class",
    .rank "literal" (seq [many (.place "decorator" (.ref "decorator")), "class",
      .place "name" (maybe (.ref "_type_name")),
      .place "type_parameters" (maybe (.ref "type_parameters")), maybe (.ref "class_heritage"),
      .place "body" (.ref "class_body")])),
  ("class_declaration",
    leftward "declare" (seq [many (.place "decorator" (.ref "decorator")), "class",
      .place "name" (.ref "_type_name"), .place "type_parameters" (maybe (.ref "type_parameters")),
      maybe (.ref "class_heritage"), .place "body" (.ref "class_body"), maybe (.form .lineEnd)])),
  ("class_heritage",
    oneOf [seq [.ref "extends_clause", maybe (.ref "implements_clause")],
      .ref "implements_clause"]),
  ("function_expression",
    .rank "literal" (seq [maybe "async", "function", .place "name" (maybe (.ref "identifier")),
      .ref "_signature", .place "body" (.ref "statement_block")])),
  ("function_declaration",
    rightward "declare" (seq [maybe "async", "function", .place "name" (.ref "identifier"),
      .ref "_signature", .place "body" (.ref "statement_block"), maybe (.form .lineEnd)])),
  ("generator_function",
    .rank "literal" (seq [maybe "async", "function", "*", .place "name" (maybe (.ref "identifier")),
      .ref "_signature", .place "body" (.ref "statement_block")])),
  ("generator_function_declaration",
    rightward "declare" (seq [maybe "async", "function", "*", .place "name" (.ref "identifier"),
      .ref "_signature", .place "body" (.ref "statement_block"), maybe (.form .lineEnd)])),
  ("arrow_function",
    seq [maybe "async",
      oneOf [.place "parameter" (oneOf [called "identifier" (.ref "_soft_word"),
          .ref "identifier"]), .ref "_signature"], "=>",
      .place "body" (oneOf [.ref "expression", .ref "statement_block"])]),
  ("_signature",
    seq [.place "type_parameters" (maybe (.ref "type_parameters")),
      .place "parameters" (.ref "formal_parameters"),
      .place "return_type" (maybe (oneOf [.ref "type_annotation", .ref "asserts_annotation",
        .ref "type_predicate_annotation"]))]),
  ("_parameter", oneOf [.ref "required_parameter", .ref "optional_parameter"]),
  ("optional_chain", "?."),
  ("call_expression",
    oneOf [.rank "call" (seq [.place "function" (oneOf [.ref "expression", .ref "import"]),
        .place "type_arguments" (maybe (.ref "type_arguments")),
        .place "arguments" (.ref "arguments")]),
      .rank "template_call" (seq [.place "function" (oneOf [.ref "primary_expression",
          .ref "new_expression"]), .place "arguments" (.ref "template_string")]),
      .rank "member" (seq [.place "function" (.ref "primary_expression"), "?.",
        .place "type_arguments" (maybe (.ref "type_arguments")),
        .place "arguments" (.ref "arguments")])]),
  ("new_expression",
    rightward "new" (seq ["new", .place "constructor" (.ref "primary_expression"),
      .place "type_arguments" (maybe (.ref "type_arguments")),
      .place "arguments" (maybe (.ref "arguments"))])),
  ("await_expression", .rank "unary_void" (seq ["await", .ref "expression"])),
  ("member_expression",
    .rank "member" (seq [.place "object" (oneOf [.ref "expression", .ref "primary_expression",
        .ref "import"]), oneOf [".", .place "optional_chain" (.ref "optional_chain")],
      .place "property" (oneOf [.ref "private_property_identifier",
        called "property_identifier" (.ref "identifier")])])),
  ("subscript_expression",
    rightward "member" (seq [.place "object" (oneOf [.ref "expression", .ref "primary_expression"]),
      maybe (.place "optional_chain" (.ref "optional_chain")), "[", .place "index" (.ref "_value"),
      "]"])),
  ("_target",
    oneOf [oneOf [.ref "member_expression", .ref "subscript_expression", .ref "_variable",
        called "identifier" (.ref "_soft_word"), .ref "_structured_pattern"],
      .ref "non_null_expression"]),
  ("assignment_expression",
    rightward "assign" (seq [maybe "using",
      .place "left" (oneOf [.ref "parenthesized_expression", .ref "_target"]), "=",
      .place "right" (.ref "expression")])),
  ("_updated_target",
    oneOf [oneOf [.ref "member_expression", .ref "subscript_expression",
        called "identifier" (.ref "_soft_word"), .ref "identifier",
        .ref "parenthesized_expression"], .ref "non_null_expression"]),
  ("augmented_assignment_expression",
    rightward "assign" (seq [.place "left" (.ref "_updated_target"),
      .place "operator" (oneOf ["+=", "-=", "*=", "/=", "%=", "^=", "&=", "|=", ">>=", ">>>=",
        "<<=", "**=", "&&=", "||=", "??="]), .place "right" (.ref "expression")])),
  ("_initializer", seq ["=", .place "value" (.ref "expression")]),
  ("_structured_pattern", oneOf [.ref "object_pattern", .ref "array_pattern"]),
  ("spread_element", seq ["...", .ref "expression"]),
  ("ternary_expression",
    rightward "ternary" (seq [.place "condition" (.ref "expression"),
      spelled "?" (.form .questionMark), .place "consequence" (.ref "expression"), ":",
      .place "alternative" (.ref "expression")])),
  ("binary_expression", oneOf (operators.map operation)),
  ("unary_expression",
    leftward "unary_void" (seq [.place "operator" (oneOf ["!", "~", "-", "+", "typeof", "void",
        "delete"]), .place "argument" (.ref "expression")])),
  ("update_expression",
    leftward 0 (oneOf [seq [.place "argument" (.ref "expression"),
        .place "operator" (oneOf ["++", "--"])],
      seq [.place "operator" (oneOf ["++", "--"]), .place "argument" (.ref "expression")]])),
  ("sequence_expression", rightward 0 (listed (.ref "expression")))]

end SchemaWrappers.Syntax.DeclarationFile
