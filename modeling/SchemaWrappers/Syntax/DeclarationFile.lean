import SchemaWrappers.Syntax.DeclarationFile.Declarations
import SchemaWrappers.Syntax.DeclarationFile.Expressions
import SchemaWrappers.Syntax.DeclarationFile.Members
import SchemaWrappers.Syntax.DeclarationFile.Statements
import SchemaWrappers.Syntax.DeclarationFile.Types
import SchemaWrappers.Syntax.DeclarationFile.Words

/-! The grammar of declaration files as a whole, and the ranks of its rules. -/
namespace SchemaWrappers.Syntax.DeclarationFile

/-- Which of two readings is firmer; of two names or rules in one ordering, the first is. -/
def orderings : List (List (Rank ⊕ String)) := [
  [.inl "member", .inl "template_call", .inl "call", .inr "update_expression", .inl "unary_void",
    .inl "binary_exp", .inl "binary_times", .inl "binary_plus", .inl "binary_shift",
    .inl "binary_compare", .inl "binary_relation", .inl "binary_equality", .inl "bitwise_and",
    .inl "bitwise_xor", .inl "bitwise_or", .inl "logical_and", .inl "logical_or", .inl "ternary",
    .inr "sequence_expression", .inr "arrow_function"],
  [.inl "assign", .inr "primary_expression"],
  [.inl "member", .inl "template_call", .inl "new", .inl "call", .inr "expression"],
  [.inl "declare", .inl "literal"],
  [.inr "primary_expression", .inr "statement_block", .inl "object"],
  [.inr "meta_property", .inr "import"],
  [.inr "import_statement", .inr "import"],
  [.inr "export_statement", .inr "primary_expression"],
  [.inr "lexical_declaration", .inr "primary_expression"],
  [.inl "call", .inl "instantiation", .inl "unary", .inl "binary", .inr "await_expression",
    .inr "arrow_function"],
  [.inl "extends", .inl "instantiation"],
  [.inr "intersection_type", .inr "union_type", .inr "conditional_type", .inr "function_type",
    .inl "binary", .inr "type_predicate", .inr "readonly_type"],
  [.inr "mapped_type_clause", .inr "primary_expression"],
  [.inr "accessibility_modifier", .inr "primary_expression"],
  [.inl "unary_void", .inr "expression"],
  [.inr "extends_clause", .inr "primary_expression"],
  [.inl "unary", .inl "assign"],
  [.inl "declare", .inr "expression"],
  [.inr "predefined_type", .inr "unary_expression"],
  [.inr "type", .inr "flow_maybe_type"],
  [.inr "tuple_type", .inr "array_type", .inr "pattern", .inr "type"],
  [.inr "readonly_type", .inr "pattern"],
  [.inr "readonly_type", .inr "primary_expression"],
  [.inr "type_query", .inr "subscript_expression", .inr "expression"],
  [.inr "type_query", .inr "_queried_subscript"],
  [.inr "nested_type_identifier", .inr "generic_type", .inr "primary_type", .inr "lookup_type",
    .inr "index_type_query", .inr "type"],
  [.inr "as_expression", .inr "satisfies_expression", .inr "primary_type"],
  [.inr "_queried_member", .inr "member_expression"],
  [.inr "member_expression", .inr "_imported_member"],
  [.inr "_queried_member", .inr "primary_expression"],
  [.inr "_queried_subscript", .inr "subscript_expression"],
  [.inr "_queried_subscript", .inr "primary_expression"],
  [.inr "_queried_call", .inr "primary_expression"],
  [.inr "_queried_instance", .inr "primary_expression"],
  [.inr "type_query", .inr "primary_expression"],
  [.inr "override_modifier", .inr "primary_expression"],
  [.inr "decorator_call_expression", .inr "decorator"],
  [.inr "literal_type", .inr "pattern"],
  [.inr "predefined_type", .inr "pattern"],
  [.inr "call_expression", .inr "_queried_call"],
  [.inr "call_expression", .inr "_imported_call"],
  [.inr "new_expression", .inr "primary_expression"],
  [.inr "meta_property", .inr "primary_expression"],
  [.inr "construct_signature", .inr "_member_name"]]

def grammar : Grammar where
  rules := statements ++ expressions ++ words ++ members ++ declarations ++ types ++
    composedTypes
  inlined := ["_value", "_terminator", "_variable", "_soft_word", "_target", "_type_name"]
  wide := ["statement", "declaration", "expression", "primary_expression", "pattern", "type",
    "primary_type"]
  anywhere := [.comment, .pageComment]
  unsought := [.text "?:", .form .doubleQuotedText, .form .singleQuotedText, .form .patternText,
    .form .patternFlags]
  orderings

end SchemaWrappers.Syntax.DeclarationFile
