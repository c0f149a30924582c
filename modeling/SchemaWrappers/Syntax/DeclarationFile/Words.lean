import SchemaWrappers.Syntax.Rule

namespace SchemaWrappers.Syntax.DeclarationFile
open Rule

def words : List (String × Rule) := [
  ("string",
    oneOf [seq ["\"",
        many (oneOf [called "string_fragment" (.ref "double_quoted_text"), .ref "escape_sequence"]),
        "\""],
      seq ["'",
        many (oneOf [called "string_fragment" (.ref "single_quoted_text"), .ref "escape_sequence"]),
        "'"]]),
  ("double_quoted_text", .form .doubleQuotedText),
  ("single_quoted_text", .form .singleQuotedText),
  ("escape_sequence", .form .escape),
  ("comment", .form .comment),
  ("template_string",
    seq ["`",
      many (oneOf [called "string_fragment" (.form .templateText), .ref "escape_sequence",
        .ref "template_substitution"]), "`"]),
  ("template_substitution", seq ["$\x7b", .ref "_value", "\x7d"]),
  ("regex",
    seq ["/", .place "pattern" (.ref "regex_pattern"), .form .patternEnd,
      maybe (.place "flags" (.ref "regex_flags"))]),
  ("regex_pattern", .form .patternText),
  ("regex_flags", .form .patternFlags),
  ("number", .form .number),
  ("_variable", oneOf [.ref "undefined", .ref "identifier"]),
  ("identifier", .form .name),
  ("private_property_identifier", .form .privateName),
  ("meta_property", oneOf [seq ["new", ".", "target"], seq ["import", ".", "meta"]]),
  ("this", "this"),
  ("super", "super"),
  ("true", "true"),
  ("false", "false"),
  ("null", "null"),
  ("undefined", "undefined"),
  ("arguments",
    seq ["(", maybe (listed (maybe (oneOf [.ref "expression", .ref "spread_element"]))), ")"]),
  ("decorator",
    seq ["@",
      oneOf [.ref "identifier", called "member_expression" (.ref "decorator_member_expression"),
        called "call_expression" (.ref "decorator_call_expression"),
        called "parenthesized_expression" (.ref "decorator_parenthesized_expression")]]),
  ("decorator_member_expression",
    .rank "member" (seq [.place "object" (oneOf [.ref "identifier",
        called "member_expression" (.ref "decorator_member_expression")]), ".",
      .place "property" (called "property_identifier" (.ref "identifier"))])),
  ("decorator_call_expression",
    .rank "call" (seq [.place "function" (oneOf [.ref "identifier",
        called "member_expression" (.ref "decorator_member_expression")]),
      maybe (.place "type_arguments" (.ref "type_arguments")),
      .place "arguments" (.ref "arguments")]))]

end SchemaWrappers.Syntax.DeclarationFile
