/-!
# Kinds and roles of syntax nodes

A node of a script's syntax tree has a *kind* (what construct it is) and, within its parent,
possibly a *role* (which part of the construct it is). Both are known outside by a label. The kinds
that the analysis tells apart are constructors; every other construct is `Kind.other` with its
label, so a tree can hold constructs that the analysis has no opinion on.

Main statement: `Kind.label_ofLabel`, reading a label and writing it back loses nothing. The same
holds for roles.
-/

namespace ScriptScope

/-- The construct a syntax node stands for. -/
inductive Kind where
  | module | block | comment | error
  | importStatement | importFromStatement | aliasedImport | wildcardImport
  | dottedName | relativeImport
  | expressionStatement | assignment | augmentedAssignment
  | functionDefinition | classDefinition | decoratedDefinition | returnStatement
  | ifStatement | elifClause | elseClause | forStatement | whileStatement
  | tryStatement | exceptClause | exceptGroupClause | finallyClause | withStatement
  | identifier | integer | float | string | concatenatedString
  | memberAccess | call | binaryOperator | unaryOperator | parenthesized | yield
  | expressionList | tuple | list
  | patternList | tuplePattern | listPattern
  | listSplatPattern | dictionarySplatPattern | listSplat
  | defaultParameter | typedDefaultParameter | typedParameter | keywordArgument
  | other (name : String)
  deriving DecidableEq, Repr

namespace Kind

/-- The label of a kind, as syntax trees spell it. -/
def label : Kind → String
  | module => "module"
  | block => "block"
  | comment => "comment"
  | error => "ERROR"
  | importStatement => "import_statement"
  | importFromStatement => "import_from_statement"
  | aliasedImport => "aliased_import"
  | wildcardImport => "wildcard_import"
  | dottedName => "dotted_name"
  | relativeImport => "relative_import"
  | expressionStatement => "expression_statement"
  | assignment => "assignment"
  | augmentedAssignment => "augmented_assignment"
  | functionDefinition => "function_definition"
  | classDefinition => "class_definition"
  | decoratedDefinition => "decorated_definition"
  | returnStatement => "return_statement"
  | ifStatement => "if_statement"
  | elifClause => "elif_clause"
  | elseClause => "else_clause"
  | forStatement => "for_statement"
  | whileStatement => "while_statement"
  | tryStatement => "try_statement"
  | exceptClause => "except_clause"
  | exceptGroupClause => "except_group_clause"
  | finallyClause => "finally_clause"
  | withStatement => "with_statement"
  | identifier => "identifier"
  | integer => "integer"
  | float => "float"
  | string => "string"
  | concatenatedString => "concatenated_string"
  | memberAccess => "attribute"
  | call => "call"
  | binaryOperator => "binary_operator"
  | unaryOperator => "unary_operator"
  | parenthesized => "parenthesized_expression"
  | yield => "yield"
  | expressionList => "expression_list"
  | tuple => "tuple"
  | list => "list"
  | patternList => "pattern_list"
  | tuplePattern => "tuple_pattern"
  | listPattern => "list_pattern"
  | listSplatPattern => "list_splat_pattern"
  | dictionarySplatPattern => "dictionary_splat_pattern"
  | listSplat => "list_splat"
  | defaultParameter => "default_parameter"
  | typedDefaultParameter => "typed_default_parameter"
  | typedParameter => "typed_parameter"
  | keywordArgument => "keyword_argument"
  | other name => name

/-- The kinds that have a constructor of their own. -/
def known : List Kind :=
  [module, block, comment, error, importStatement, importFromStatement, aliasedImport,
    wildcardImport, dottedName, relativeImport, expressionStatement, assignment,
    augmentedAssignment, functionDefinition, classDefinition, decoratedDefinition,
    returnStatement, ifStatement, elifClause, elseClause, forStatement, whileStatement,
    tryStatement, exceptClause, exceptGroupClause, finallyClause, withStatement, identifier,
    integer, float, string, concatenatedString, memberAccess, call, binaryOperator, unaryOperator,
    parenthesized, yield, expressionList, tuple, list, patternList, tuplePattern, listPattern,
    listSplatPattern, dictionarySplatPattern, listSplat, defaultParameter, typedDefaultParameter,
    typedParameter, keywordArgument]

/-- The kind with a given label. -/
def ofLabel (name : String) : Kind :=
  (known.find? (fun k => k.label == name)).getD (other name)

/-- Reading a label and writing it back gives the label. -/
theorem label_ofLabel (name : String) : (ofLabel name).label = name := by
  unfold ofLabel
  cases h : known.find? (fun k => k.label == name) with
  | none => rfl
  | some k => simpa using List.find?_some h

/-- Statements that hold blocks of the enclosing scope, and the clauses they are made of. -/
def isControl : Kind → Bool
  | ifStatement | elifClause | elseClause | forStatement | whileStatement | tryStatement
  | exceptClause | exceptGroupClause | finallyClause | withStatement => true
  | _ => false

/-- Starred targets, parameters and values. -/
def isSplat : Kind → Bool
  | listSplatPattern | dictionarySplatPattern | listSplat => true
  | _ => false

end Kind

/-- The part that a node plays within its parent. -/
inductive Role where
  | name | newName | moduleName | left | right | type
  | object | member | function | arguments | argument
  | definition | parameters | superclasses | body
  | other (name : String)
  deriving DecidableEq, Repr

namespace Role

/-- The label of a role, as syntax trees spell it. -/
def label : Role → String
  | name => "name"
  | newName => "alias"
  | moduleName => "module_name"
  | left => "left"
  | right => "right"
  | type => "type"
  | object => "object"
  | member => "attribute"
  | function => "function"
  | arguments => "arguments"
  | argument => "argument"
  | definition => "definition"
  | parameters => "parameters"
  | superclasses => "superclasses"
  | body => "body"
  | other text => text

/-- The roles that have a constructor of their own. -/
def known : List Role :=
  [name, newName, moduleName, left, right, type, object, member, function, arguments, argument,
    definition, parameters, superclasses, body]

/-- The role with a given label. -/
def ofLabel (text : String) : Role :=
  (known.find? (fun r => r.label == text)).getD (other text)

/-- Reading a label and writing it back gives the label. -/
theorem label_ofLabel (text : String) : (ofLabel text).label = text := by
  unfold ofLabel
  cases h : known.find? (fun r => r.label == text) with
  | none => rfl
  | some r => simpa using List.find?_some h

end Role

end ScriptScope
