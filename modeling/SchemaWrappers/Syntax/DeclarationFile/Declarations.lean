import SchemaWrappers.Syntax.Rule

namespace SchemaWrappers.Syntax.DeclarationFile
open Rule

def declarations : List (String × Rule) := [
  ("public_field_definition",
    seq [many (.place "decorator" (.ref "decorator")),
      maybe (oneOf [seq ["declare", maybe (.ref "accessibility_modifier")],
        seq [.ref "accessibility_modifier", maybe "declare"]]),
      oneOf [seq [maybe "static", maybe (.ref "override_modifier"), maybe "readonly"],
        seq [maybe "abstract", maybe "readonly"], seq [maybe "readonly", maybe "abstract"],
        maybe "accessor"], .place "name" (.ref "_member_name"), maybe (oneOf ["?", "!"]),
      .place "type" (maybe (.ref "type_annotation")), maybe (.ref "_initializer")]),
  ("_inner_name", oneOf [.ref "identifier", called "identifier" "type"]),
  ("non_null_expression", leftward "unary" (seq [.ref "expression", "!"])),
  ("method_signature",
    seq [maybe (.ref "accessibility_modifier"), maybe "static", maybe (.ref "override_modifier"),
      maybe "readonly", maybe "async", maybe (oneOf ["get", "set", "*"]),
      .place "name" (.ref "_member_name"), maybe "?", .ref "_signature"]),
  ("abstract_method_signature",
    seq [maybe (.ref "accessibility_modifier"), "abstract", maybe (.ref "override_modifier"),
      maybe (oneOf ["get", "set", "*"]), .place "name" (.ref "_member_name"), maybe "?",
      .ref "_signature"]),
  ("function_signature",
    seq [maybe "async", "function", .place "name" (.ref "identifier"), .ref "_signature",
      oneOf [.ref "_terminator", .form .signatureEnd]]),
  ("decorator_parenthesized_expression",
    seq ["(",
      oneOf [.ref "identifier", called "member_expression" (.ref "decorator_member_expression"),
        called "call_expression" (.ref "decorator_call_expression")], ")"]),
  ("type_assertion", leftward "unary" (seq [.ref "type_arguments", .ref "expression"])),
  ("as_expression",
    leftward "binary" (seq [.ref "expression", "as", oneOf ["const", .ref "type"]])),
  ("satisfies_expression", leftward "binary" (seq [.ref "expression", "satisfies", .ref "type"])),
  ("instantiation_expression",
    .rank "instantiation" (seq [.ref "expression",
      .place "type_arguments" (.ref "type_arguments")])),
  ("import_require_clause",
    seq [.ref "identifier", "=", "require", "(", .place "source" (.ref "string"), ")"]),
  ("extends_clause", seq ["extends", listed (.ref "_base_class")]),
  ("_base_class",
    .rank "extends" (seq [.place "value" (.ref "expression"),
      .place "type_arguments" (maybe (.ref "type_arguments"))])),
  ("implements_clause", seq ["implements", listed (.ref "type")]),
  ("ambient_declaration",
    seq ["declare",
      oneOf [.ref "declaration", seq ["global", .ref "statement_block"],
        seq ["module", ".", called "property_identifier" (.ref "identifier"), ":", .ref "type",
          .ref "_terminator"]]]),
  ("abstract_class_declaration",
    .rank "declare" (seq [many (.place "decorator" (.ref "decorator")), "abstract", "class",
      .place "name" (.ref "_type_name"), .place "type_parameters" (maybe (.ref "type_parameters")),
      maybe (.ref "class_heritage"), .place "body" (.ref "class_body")])),
  ("module", seq ["module", .ref "_module_rest"]),
  ("internal_module", seq ["namespace", .ref "_module_rest"]),
  ("_module_rest",
    rightward 0 (seq [.place "name" (oneOf [.ref "string", .ref "identifier",
        .ref "nested_identifier"]), .place "body" (maybe (.ref "statement_block"))])),
  ("import_alias",
    seq ["import", .ref "identifier", "=", oneOf [.ref "identifier", .ref "nested_identifier"],
      .ref "_terminator"]),
  ("nested_type_identifier",
    .rank "member" (seq [.place "module" (oneOf [.ref "identifier", .ref "nested_identifier"]), ".",
      .place "name" (.ref "_type_name")])),
  ("nested_identifier",
    .rank "member" (seq [.place "object" (oneOf [.ref "identifier",
        called "member_expression" (.ref "nested_identifier")]), ".",
      .place "property" (called "property_identifier" (.ref "identifier"))])),
  ("interface_declaration",
    seq ["interface", .place "name" (.ref "_type_name"),
      .place "type_parameters" (maybe (.ref "type_parameters")), maybe (.ref "extends_type_clause"),
      .place "body" (called "interface_body" (.ref "object_type"))]),
  ("extends_type_clause",
    seq ["extends",
      listed (.place "type" (oneOf [.ref "_type_name", .ref "nested_type_identifier",
        .ref "generic_type"]))]),
  ("enum_declaration",
    seq [maybe "const", "enum", .place "name" (.ref "identifier"),
      .place "body" (.ref "enum_body")]),
  ("enum_body",
    seq ["\x7b",
      maybe (seq [listed (oneOf [.place "name" (.ref "_member_name"), .ref "enum_assignment"]),
        maybe ","]), "\x7d"]),
  ("enum_assignment", seq [.place "name" (.ref "_member_name"), .ref "_initializer"]),
  ("type_alias_declaration",
    seq ["type", .place "name" (.ref "_type_name"),
      .place "type_parameters" (maybe (.ref "type_parameters")), "=", .place "value" (.ref "type"),
      .ref "_terminator"]),
  ("accessibility_modifier", oneOf ["public", "private", "protected"]),
  ("override_modifier", "override"),
  ("required_parameter",
    seq [.ref "_parameter_pattern", .place "type" (maybe (.ref "type_annotation")),
      maybe (.ref "_initializer")]),
  ("optional_parameter",
    seq [.ref "_parameter_pattern", "?", .place "type" (maybe (.ref "type_annotation")),
      maybe (.ref "_initializer")]),
  ("_parameter_pattern",
    seq [many (.place "decorator" (.ref "decorator")), maybe (.ref "accessibility_modifier"),
      maybe (.ref "override_modifier"), maybe "readonly",
      .place "pattern" (oneOf [.ref "pattern", .ref "this"])])]

end SchemaWrappers.Syntax.DeclarationFile
