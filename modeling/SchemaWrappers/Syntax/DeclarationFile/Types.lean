import SchemaWrappers.Syntax.Rule

namespace SchemaWrappers.Syntax.DeclarationFile
open Rule

def types : List (String × Rule) := [
  ("omitting_type_annotation", seq ["-?:", .ref "type"]),
  ("adding_type_annotation", seq ["+?:", .ref "type"]),
  ("opting_type_annotation", seq ["?:", .ref "type"]),
  ("type_annotation",
    seq [":",
      oneOf [.ref "type", called "member_expression" (.ref "_imported_member"),
        called "call_expression" (.ref "_imported_call")]]),
  ("_imported_member",
    seq [.place "object" (oneOf [.ref "import",
        called "member_expression" (.ref "_imported_member"),
        called "call_expression" (.ref "_imported_call")]), ".",
      .place "property" (oneOf [.ref "private_property_identifier",
        called "property_identifier" (.ref "identifier")])]),
  ("_imported_call",
    seq [.place "function" (oneOf [.ref "import",
        called "member_expression" (.ref "_imported_member")]),
      .place "arguments" (.ref "arguments")]),
  ("asserts", seq ["asserts", oneOf [.ref "type_predicate", .ref "identifier", .ref "this"]]),
  ("asserts_annotation", seq [seq [":", .ref "asserts"]]),
  ("type",
    oneOf [.ref "primary_type", .ref "function_type", .ref "readonly_type", .ref "constructor_type",
      .ref "infer_type", .rank (.level (-1)) (called "member_expression" (.ref "_imported_member")),
      .rank (.level (-1)) (called "call_expression" (.ref "_imported_call"))]),
  ("tuple_parameter",
    seq [.place "name" (oneOf [.ref "identifier", .ref "rest_pattern"]),
      .place "type" (.ref "type_annotation")]),
  ("optional_tuple_parameter",
    seq [.place "name" (.ref "identifier"), "?", .place "type" (.ref "type_annotation")]),
  ("optional_type", seq [.ref "type", "?"]),
  ("rest_type", seq ["...", .ref "type"]),
  ("_tuple_member",
    oneOf [called "required_parameter" (.ref "tuple_parameter"),
      called "optional_parameter" (.ref "optional_tuple_parameter"), .ref "optional_type",
      .ref "rest_type", .ref "type"]),
  ("constructor_type",
    leftward 0 (seq [maybe "abstract", "new",
      .place "type_parameters" (maybe (.ref "type_parameters")),
      .place "parameters" (.ref "formal_parameters"), "=>", .place "type" (.ref "type")])),
  ("primary_type",
    oneOf [.ref "parenthesized_type", .ref "predefined_type", .ref "_type_name",
      .ref "nested_type_identifier", .ref "generic_type", .ref "object_type", .ref "array_type",
      .ref "tuple_type", .ref "flow_maybe_type", .ref "type_query", .ref "index_type_query",
      called "this_type" (.ref "this"), .ref "existential_type", .ref "literal_type",
      .ref "lookup_type", .ref "conditional_type", .ref "template_literal_type",
      .ref "intersection_type", .ref "union_type", "const"]),
  ("template_type", seq ["$\x7b", oneOf [.ref "primary_type", .ref "infer_type"], "\x7d"]),
  ("template_literal_type",
    seq ["`", many (oneOf [called "string_fragment" (.form .templateText), .ref "template_type"]),
      "`"]),
  ("infer_type",
    rightward 0 (seq ["infer", .ref "_type_name", maybe (seq ["extends", .ref "type"])])),
  ("conditional_type",
    rightward 0 (seq [.place "left" (.ref "type"), "extends", .place "right" (.ref "type"), "?",
      .place "consequence" (.ref "type"), ":", .place "alternative" (.ref "type")])),
  ("generic_type",
    .rank "call" (seq [.place "name" (oneOf [.ref "_type_name", .ref "nested_type_identifier"]),
      .place "type_arguments" (.ref "type_arguments")])),
  ("type_predicate",
    seq [.place "name" (oneOf [.ref "identifier", .ref "this",
        called "identifier" (.ref "predefined_type")]), "is", .place "type" (.ref "type")]),
  ("type_predicate_annotation", seq [seq [":", .ref "type_predicate"]])]

def composedTypes : List (String × Rule) := [
  ("_queried_member",
    seq [.place "object" (oneOf [.ref "identifier", .ref "this",
        called "subscript_expression" (.ref "_queried_subscript"),
        called "member_expression" (.ref "_queried_member"),
        called "call_expression" (.ref "_queried_call")]), oneOf [".", "?."],
      .place "property" (oneOf [.ref "private_property_identifier",
        called "property_identifier" (.ref "identifier")])]),
  ("_queried_subscript",
    seq [.place "object" (oneOf [.ref "identifier", .ref "this",
        called "subscript_expression" (.ref "_queried_subscript"),
        called "member_expression" (.ref "_queried_member"),
        called "call_expression" (.ref "_queried_call")]), maybe "?.", "[",
      .place "index" (oneOf [.ref "predefined_type", .ref "string", .ref "number"]), "]"]),
  ("_queried_call",
    seq [.place "function" (oneOf [.ref "import", .ref "identifier",
        called "member_expression" (.ref "_queried_member"),
        called "subscript_expression" (.ref "_queried_subscript")]),
      .place "arguments" (.ref "arguments")]),
  ("_queried_instance",
    seq [.place "function" (oneOf [.ref "import", .ref "identifier",
        called "member_expression" (.ref "_queried_member"),
        called "subscript_expression" (.ref "_queried_subscript")]),
      .place "type_arguments" (.ref "type_arguments")]),
  ("type_query",
    rightward 0 (seq ["typeof",
      oneOf [called "subscript_expression" (.ref "_queried_subscript"),
        called "member_expression" (.ref "_queried_member"),
        called "call_expression" (.ref "_queried_call"),
        called "instantiation_expression" (.ref "_queried_instance"), .ref "identifier",
        .ref "this"]])),
  ("index_type_query", seq ["keyof", .ref "primary_type"]),
  ("lookup_type", seq [.ref "primary_type", "[", .ref "type", "]"]),
  ("mapped_type_clause",
    seq [.place "name" (.ref "_type_name"), "in", .place "type" (.ref "type"),
      maybe (seq ["as", .place "alias" (.ref "type")])]),
  ("literal_type",
    oneOf [called "unary_expression" (.ref "_signed_number"), .ref "number", .ref "string",
      .ref "true", .ref "false", .ref "null", .ref "undefined"]),
  ("_signed_number",
    leftward 1 (seq [.place "operator" (oneOf ["-", "+"]), .place "argument" (.ref "number")])),
  ("existential_type", "*"),
  ("flow_maybe_type", rightward 0 (seq ["?", .ref "primary_type"])),
  ("parenthesized_type", seq ["(", .ref "type", ")"]),
  ("predefined_type",
    oneOf ["any", "number", "boolean", "string", "symbol",
      spelled "unique symbol" (seq ["unique", "symbol"]), "void", "unknown", "string", "never",
      "object"]),
  ("type_arguments", seq ["<", listed (.ref "type"), maybe ",", ">"]),
  ("object_type",
    seq [oneOf ["\x7b", "\x7b|"],
      maybe (seq [maybe (oneOf [",", ";"]),
        separated (oneOf [",", .ref "_terminator"]) (oneOf [.ref "export_statement",
          .ref "property_signature", .ref "call_signature", .ref "construct_signature",
          .ref "index_signature", .ref "method_signature"]),
        maybe (oneOf [",", .ref "_terminator"])]), oneOf ["\x7d", "|\x7d"]]),
  ("call_signature", .ref "_signature"),
  ("property_signature",
    seq [maybe (.ref "accessibility_modifier"), maybe "static", maybe (.ref "override_modifier"),
      maybe "readonly", .place "name" (.ref "_member_name"), maybe "?",
      .place "type" (maybe (.ref "type_annotation"))]),
  ("type_parameters", seq ["<", listed (.ref "type_parameter"), maybe ",", ">"]),
  ("type_parameter",
    seq [maybe "const", .place "name" (.ref "_type_name"),
      .place "constraint" (maybe (.ref "constraint")),
      .place "value" (maybe (.ref "default_type"))]),
  ("default_type", seq ["=", .ref "type"]),
  ("constraint", seq [oneOf ["extends", ":"], .ref "type"]),
  ("construct_signature",
    seq [maybe "abstract", "new", .place "type_parameters" (maybe (.ref "type_parameters")),
      .place "parameters" (.ref "formal_parameters"),
      .place "type" (maybe (.ref "type_annotation"))]),
  ("index_signature",
    seq [maybe (seq [.place "sign" (maybe (oneOf ["-", "+"])), "readonly"]), "[",
      oneOf [seq [.place "name" (oneOf [.ref "identifier",
            called "identifier" (.ref "_soft_word")]), ":", .place "index_type" (.ref "type")],
        .ref "mapped_type_clause"], "]",
      .place "type" (oneOf [.ref "type_annotation", .ref "omitting_type_annotation",
        .ref "adding_type_annotation", .ref "opting_type_annotation"])]),
  ("array_type", seq [.ref "primary_type", "[", "]"]),
  ("tuple_type", seq ["[", maybe (listed (.ref "_tuple_member")), maybe ",", "]"]),
  ("readonly_type", seq ["readonly", .ref "type"]),
  ("union_type", leftward 0 (seq [maybe (.ref "type"), "|", .ref "type"])),
  ("intersection_type", leftward 0 (seq [maybe (.ref "type"), "&", .ref "type"])),
  ("function_type",
    leftward 0 (seq [.place "type_parameters" (maybe (.ref "type_parameters")),
      .place "parameters" (.ref "formal_parameters"), "=>",
      .place "return_type" (oneOf [.ref "type", .ref "asserts", .ref "type_predicate"])])),
  ("_type_name", called "type_identifier" (.ref "identifier"))]

end SchemaWrappers.Syntax.DeclarationFile
