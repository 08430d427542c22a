import Montage.Graph.Basic

/-!
# Valid filter graphs

Statements are read in order. A statement may consume a stream of an existing
input any number of times, and a label that an earlier statement declared
once. It may declare labels that are new and do not look like a stream of an
input.
-/

namespace Montage

/-- What is wrong with a label at the place where it stands. -/
inductive LabelFault where
  | missingInput (label : String) (index count : Nat)
  | notDeclared (label : String)
  | consumedTwice (label : String)
  | looksLikeInput (label : String)
  | declaredTwice (label : String)
deriving DecidableEq

/-- How a fault is worded. -/
def LabelFault.message : LabelFault → String
  | missingInput label index count =>
    "label " ++ Statement.bracketed label ++ " references input " ++ toString index ++
      " but only " ++ toString count ++ " inputs exist"
  | notDeclared label =>
    "label " ++ Statement.bracketed label ++ " is used before it is defined"
  | consumedTwice label =>
    "label " ++ Statement.bracketed label ++ " is consumed more than once"
  | looksLikeInput label =>
    "label " ++ Statement.bracketed label ++ " shadows an input stream specifier"
  | declaredTwice label =>
    "label " ++ Statement.bracketed label ++ " is declared more than once"

/-- The labels seen so far. -/
structure LabelScope where
  declared : List String := []
  consumed : List String := []

namespace LabelScope

/-- Consume a label. -/
def consume (inputCount : Nat) (scope : LabelScope) (label : String) :
    Except LabelFault LabelScope :=
  match inputStreamIndex? label with
  | some index =>
    if index < inputCount then .ok scope else .error (.missingInput label index inputCount)
  | none =>
    if !scope.declared.contains label then .error (.notDeclared label)
    else if scope.consumed.contains label then .error (.consumedTwice label)
    else .ok { scope with consumed := label :: scope.consumed }

/-- Declare a label. -/
def declare (scope : LabelScope) (label : String) : Except LabelFault LabelScope :=
  if isInputStream label then .error (.looksLikeInput label)
  else if scope.declared.contains label then .error (.declaredTwice label)
  else .ok { scope with declared := label :: scope.declared }

/-- Read a statement: its inputs, then its outputs. -/
def read (inputCount : Nat) (scope : LabelScope) (statement : Statement) :
    Except LabelFault LabelScope := do
  let scope ← statement.inputs.foldlM (consume inputCount) scope
  statement.outputs.foldlM declare scope

end LabelScope

/-- A fault and the statement it stands in. -/
structure StatementFault where
  fault : LabelFault
  statement : Statement
deriving DecidableEq

/-- Read statements in order, noting the statement of the first fault. -/
def readStatements (inputCount : Nat) (scope : LabelScope) :
    List Statement → Except StatementFault LabelScope
  | [] => .ok scope
  | statement :: rest =>
    match scope.read inputCount statement with
    | .error fault => .error ⟨fault, statement⟩
    | .ok scope => readStatements inputCount scope rest

/-- Accept a graph over a number of inputs or report its first fault. -/
def FilterGraph.validate (graph : FilterGraph) (inputCount : Nat) :
    Except StatementFault Unit :=
  (readStatements inputCount {} graph.statements).map fun _ => ()

end Montage
