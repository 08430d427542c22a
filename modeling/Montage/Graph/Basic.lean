import Montage.Decimal.Reading
import Montage.Graph.Statement

/-!
# Filter graphs

A filter graph is a list of statements linked by labels. A label such as `0:v`
names a stream of an input; every other label names an output of a statement.
-/

namespace Montage

/-- The input index of a stream specifier such as `0:v` or `2:a:0`: a whole
number of at most 64 bits before the first colon, and something after it. -/
def inputStreamIndex? (label : String) : Option Nat :=
  let cs := label.toList
  match cs.dropWhile (· ≠ ':') with
  | _ :: _ :: _ => Decimal.natUpTo? (UInt64.size - 1) (String.ofList (cs.takeWhile (· ≠ ':')))
  | _ => none

/-- Whether a label names a stream of an input. -/
def isInputStream (label : String) : Bool := (inputStreamIndex? label).isSome

/-- A label as an output mapping wants it: a stream of an input bare, an
output of the graph in brackets. -/
def mapTarget (label : String) : String :=
  if isInputStream label then label else Statement.bracketed label

/-- Statements in the order in which they are written. -/
structure FilterGraph where
  statements : List Statement := []
deriving DecidableEq

namespace FilterGraph

/-- The graph with more statements at its end. -/
def extend (graph : FilterGraph) (statements : List Statement) : FilterGraph :=
  ⟨graph.statements ++ statements⟩

/-- The graph with one more statement at its end. -/
def push (graph : FilterGraph) (statement : Statement) : FilterGraph :=
  graph.extend [statement]

/-- All labels that are declared, in order. -/
def declared (graph : FilterGraph) : List String := graph.statements.flatMap (·.outputs)

/-- All labels that are consumed, in order. -/
def consumed (graph : FilterGraph) : List String := graph.statements.flatMap (·.inputs)

/-- Whether a statement declares a label. -/
def declares (graph : FilterGraph) (label : String) : Bool := graph.declared.contains label

/-- Whether a statement consumes a label. -/
def consumes (graph : FilterGraph) (label : String) : Bool := graph.consumed.contains label

/-- The number of statements of a kind. -/
def count (graph : FilterGraph) (kind : FilterKind) : Nat :=
  graph.statements.countP (·.kind == kind)

/-- Labels that are declared and never consumed. -/
def dangling (graph : FilterGraph) : List String :=
  graph.declared.filter fun label => !graph.consumes label

/-- Rename an output in the last of some statements that declares it. -/
def renameLast? (old new : String) : List Statement → Option (List Statement)
  | [] => none
  | statement :: rest =>
    match renameLast? old new rest with
    | some rest => some (statement :: rest)
    | none =>
      if statement.outputs.contains old then some (statement.renameOutput old new :: rest)
      else none

/-- The graph with an output renamed, if some statement declares it. -/
def renameOutput? (graph : FilterGraph) (old new : String) : Option FilterGraph :=
  (renameLast? old new graph.statements).map FilterGraph.mk

/-- The text of a graph, with a separator between statements. -/
def textWith (separator : String) (graph : FilterGraph) : String :=
  separator.intercalate (graph.statements.map Statement.text)

/-- The text of a graph. -/
def text (graph : FilterGraph) : String := graph.textWith ";"

end FilterGraph

end Montage
