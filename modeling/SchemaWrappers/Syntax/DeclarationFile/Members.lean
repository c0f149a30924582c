import SchemaWrappers.Syntax.Rule

namespace SchemaWrappers.Syntax.DeclarationFile
open Rule

def members : List (String × Rule) := [
  ("class_body",
    seq ["\x7b",
      many (oneOf [seq [many (.place "decorator" (.ref "decorator")), .ref "method_definition",
          maybe (.ref "_terminator")],
        seq [.ref "method_signature", oneOf [.form .signatureEnd, ","]], .ref "class_static_block",
        seq [oneOf [.ref "abstract_method_signature", .ref "index_signature",
            .ref "method_signature", .ref "public_field_definition"],
          oneOf [.ref "_terminator", ","]], ";"]), "\x7d"]),
  ("formal_parameters", seq ["(", maybe (seq [listed (.ref "_parameter"), maybe ","]), ")"]),
  ("class_static_block", seq ["static", .place "body" (.ref "statement_block")]),
  ("pattern", .weight (-1) (oneOf [.ref "_target", .ref "rest_pattern"])),
  ("rest_pattern", rightward 0 (seq ["...", .ref "_target"])),
  ("method_definition",
    leftward 0 (seq [maybe (.ref "accessibility_modifier"), maybe "static",
      maybe (.ref "override_modifier"), maybe "readonly", maybe "async",
      maybe (oneOf ["get", "set", "*"]), .place "name" (.ref "_member_name"), maybe "?",
      .ref "_signature", .place "body" (.ref "statement_block")])),
  ("pair", seq [.place "key" (.ref "_member_name"), ":", .place "value" (.ref "expression")]),
  ("pair_pattern",
    seq [.place "key" (.ref "_member_name"), ":",
      .place "value" (oneOf [.ref "pattern", .ref "assignment_pattern"])]),
  ("_member_name",
    oneOf [called "property_identifier" (oneOf [.ref "identifier", .ref "_soft_word"]),
      .ref "private_property_identifier", .ref "string", .ref "number",
      .ref "computed_property_name"]),
  ("computed_property_name", seq ["[", .ref "expression", "]"]),
  ("_soft_word",
    oneOf ["declare", "namespace", "type", "public", "private", "protected", "override", "readonly",
      "module", "any", "number", "boolean", "string", "symbol", "export", "object", "new",
      "readonly", oneOf ["get", "set", "async", "static", "export", "let"]]),
  ("_terminator", oneOf [.form .lineEnd, ";"])]

end SchemaWrappers.Syntax.DeclarationFile
