import FluentSql.Fault
import FluentSql.Text.Blank
import FluentSql.Text.Cut

/-!
# Comparison operators

An operator is read from text without regard to blanks around it or to ASCII capitals.
Text that names none of the known operators is kept and written as it is, unless it is
empty or has a `?` in it, which would be taken for a placeholder.
-/

namespace FluentSql

/-- A comparison operator. -/
inductive Operator where
  | equal
  | notEqual
  | less
  | lessOrEqual
  | greater
  | greaterOrEqual
  | like
  | notLike
  /-- Matching without regard to case, which both dialects write as `like`. -/
  | ilike
  | notIlike
  | regexp
  | notRegexp
  | inList
  | notInList
  | is
  | isNot
  /-- Any other operator text. -/
  | other (text : String)
deriving DecidableEq, Repr

namespace Operator

/-- The spellings of the known operators. -/
def spellings : List (String × Operator) :=
  [("=", equal), ("!=", notEqual), ("<>", notEqual), ("<", less), ("<=", lessOrEqual),
   (">", greater), (">=", greaterOrEqual), ("like", like), ("not like", notLike),
   ("ilike", ilike), ("not ilike", notIlike), ("regexp", regexp), ("not regexp", notRegexp),
   ("in", inList), ("not in", notInList), ("is", is), ("is not", isNot)]

/-- The form of an operator text that decides which operator it names. -/
def normalize (text : String) : String := String.ofList (Text.lower (Text.trim text.toList))

/-- The operator that a text names. -/
def ofText (text : String) : Operator :=
  match spellings.find? fun spelling => spelling.1 = normalize text with
  | some (_, operator) => operator
  | none => .other (normalize text)

/-- The text of an operator in a statement. -/
def text : Operator → String
  | equal => "="
  | notEqual => "!="
  | less => "<"
  | lessOrEqual => "<="
  | greater => ">"
  | greaterOrEqual => ">="
  | like | ilike => "like"
  | notLike | notIlike => "not like"
  | regexp => "regexp"
  | notRegexp => "not regexp"
  | inList => "in"
  | notInList => "not in"
  | is => "is"
  | isNot => "is not"
  | other text => text

/-- Why an operator cannot be written into a statement, if so. -/
def fault? : Operator → Option Fault
  | other text =>
    if text.toList = [] then some .emptyOperator
    else if '?' ∈ text.toList then some (.operatorWithPlaceholder text)
    else none
  | _ => none

/-- The text of an operator, or why there is none. -/
def sql (operator : Operator) : Except Fault String :=
  match operator.fault? with
  | some fault => .error fault
  | none => .ok operator.text

/-- Whether an operator is one of the known ones. -/
def isKnown : Operator → Bool
  | other _ => false
  | _ => true

/-- Whether an operator compares with a list of values. -/
def isList : Operator → Bool
  | inList | notInList => true
  | _ => false

/-- Operators that are written alike are folded into one. -/
def folded : Operator → Operator
  | ilike => like
  | notIlike => notLike
  | operator => operator

/-- The known operators, folded. -/
def foldedOperators : List Operator :=
  [equal, notEqual, less, lessOrEqual, greater, greaterOrEqual, like, notLike, regexp, notRegexp,
   inList, notInList, is, isNot]

@[simp] theorem text_folded (operator : Operator) : operator.folded.text = operator.text := by
  cases operator <;> rfl

theorem folded_mem_foldedOperators {operator : Operator} (known : operator.isKnown) :
    operator.folded ∈ foldedOperators := by
  cases operator with
  | other text => cases known
  | _ => decide

end Operator

end FluentSql
