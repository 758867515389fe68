import TreeAssist.Folding
import TreeAssist.Indent.Indenter
import TreeAssist.Language.Metadata
import TreeAssist.Settings.Basic
import TreeAssist.Style.Highlight

/-!
# Rules for Python

The tables for the kinds of nodes in the grammar of Python: how its blocks and brackets are
indented, what its tokens look like, and what can be folded.
-/

namespace TreeAssist.Python

/-- What is known about the language without a tree. -/
def metadata : Metadata :=
  .make "python" ["(", "[", "\x7b", "'", "\"", "'''", "\"\"\""] ["#"] none
    (some "^\\s*[\\\x7d\\]\\)]$")

/-- Bracketed constructs, with the delimiter that closes each. -/
def brackets : List (String × String) :=
  [("ArgList", ")"), ("ArrayExpression", "]"), ("DictionaryExpression", "\x7d"),
    ("ParamList", ")"), ("ParenthesizedExpression", ")"), ("TupleExpression", ")"),
    ("SetExpression", "\x7d"), ("ArrayComprehensionExpression", "]"),
    ("DictionaryComprehensionExpression", "\x7d"), ("SetComprehensionExpression", "\x7d"),
    ("ComprehensionExpression", ")")]

/-- Kinds and indentation styles. -/
def indentLines (align : Bool) : List (String × IndentStyle) :=
  [("Body", .block), ("Script", .document)] ++ brackets.map fun b => (b.1, .bracketed b.2 align 1)

/-- The indentation styles of all kinds that have one. -/
def indentStyles (align : Bool) : IndentTable :=
  .ofLines (indentLines align)

/-- Indentation under the given settings. -/
def indenter (s : Settings) : Indenter :=
  .make (indentStyles s.align) s.levelWidth s.tabWidth

/-- What can be folded. -/
def folds : FoldTable :=
  .ofLines [("Body", .afterFirst),
    ("ArrayExpression DictionaryExpression TupleExpression SetExpression ParamList ArgList",
      .between)]

/-- Selectors and tags. -/
def styleLines : List (String × Tag) :=
  [("async '*' '**' FormatConversion", ⟨.modifier, {}⟩),
    ("for while if elif else try except finally return raise break continue with pass assert " ++
      "await yield", ⟨.controlKeyword, {}⟩),
    ("in not and or is del", ⟨.operatorKeyword, {}⟩),
    ("import from def class global nonlocal lambda", ⟨.definitionKeyword, {}⟩),
    ("with as print", ⟨.keyword, {}⟩),
    ("self", ⟨.selfKeyword, {}⟩),
    ("Boolean", ⟨.bool, {}⟩),
    ("None", ⟨.null, {}⟩),
    ("VariableName", ⟨.variableName, {}⟩),
    ("CallExpression/VariableName", ⟨.variableName, { callable := true }⟩),
    ("FunctionDefinition/VariableName",
      ⟨.variableName, { callable := true, definition := true }⟩),
    ("ClassDefinition/VariableName", ⟨.className, { definition := true }⟩),
    ("PropertyName", ⟨.propertyName, {}⟩),
    ("CallExpression/MemberExpression/PropertyName", ⟨.propertyName, { callable := true }⟩),
    ("Comment", ⟨.lineComment, {}⟩),
    ("Number", ⟨.number, {}⟩),
    ("String", ⟨.string, {}⟩),
    ("FormatString", ⟨.string, { special := true }⟩),
    ("UpdateOp", ⟨.updateOperator, {}⟩),
    ("ArithOp", ⟨.arithmeticOperator, {}⟩),
    ("BitOp", ⟨.bitwiseOperator, {}⟩),
    ("CompareOp", ⟨.compareOperator, {}⟩),
    ("AssignOp", ⟨.definitionOperator, {}⟩),
    ("Ellipsis", ⟨.punctuation, {}⟩),
    ("At", ⟨.metadata, {}⟩),
    ("( )", ⟨.paren, {}⟩),
    ("[ ]", ⟨.squareBracket, {}⟩),
    ("\x7b \x7d", ⟨.brace, {}⟩),
    (".", ⟨.derefOperator, {}⟩),
    (", ;", ⟨.separator, {}⟩)]

/-- The style table. Without a valid one nothing would be styled. -/
def styles : StyleTable :=
  match StyleTable.build styleLines with
  | .ok table => table
  | .error _ => {}

end TreeAssist.Python
