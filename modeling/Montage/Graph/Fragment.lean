import Montage.Graph.Statement
import Montage.Text.Blank

/-!
# Raw fragments

Filter text from outside is split into chains at semicolons and into filters
at commas. A separator inside single quotes or after a backslash does not
count. The bracketed labels before a filter are its inputs, those after it its
outputs; a link that begins and ends in one chain stays inside it.
-/

namespace Montage.Fragment

/-! ## Splitting -/

/-- What the text before a character says about it. -/
structure QuoteState where
  quoted : Bool := false
  escaped : Bool := false
deriving DecidableEq

namespace QuoteState

/-- The state after one more character. A backslash takes the meaning of the
next character, inside quotes too. -/
def step (state : QuoteState) (c : Char) : QuoteState :=
  if state.escaped then { state with escaped := false }
  else if c = '\\' then { state with escaped := true }
  else if c = '\'' then { state with quoted := !state.quoted }
  else state

/-- Whether a separator counts in this state. -/
def isOpen (state : QuoteState) : Bool := !state.quoted && !state.escaped

end QuoteState

/-- Put a character before the first of some parts. -/
def consFirst (c : Char) : List (List Char) → List (List Char)
  | [] => [[c]]
  | part :: parts => (c :: part) :: parts

/-- Split a text at the separators that count, from a given state on. -/
def splitFrom (separator : Char) (state : QuoteState) : List Char → List (List Char)
  | [] => [[]]
  | c :: rest =>
    if c = separator && state.isOpen then [] :: splitFrom separator state rest
    else consFirst c (splitFrom separator (state.step c) rest)

/-- Split a text at the separators outside quotes and escapes. -/
def splitUnquoted (separator : Char) (cs : List Char) : List (List Char) :=
  splitFrom separator {} cs

/-! ## Labels -/

/-- The bracketed groups at the front of a text, with blanks allowed after
each, and what follows them. A bracket that is never closed starts no
group. -/
def groups (opening closing : Char) (cs : List Char) : List (List Char) × List Char :=
  match cs with
  | [] => ([], [])
  | c :: rest =>
    if c = opening then
      match _h : rest.dropWhile (· ≠ closing) with
      | [] => ([], cs)
      | _ :: after =>
        let (others, rest') := groups opening closing (Text.trimLeft after)
        (rest.takeWhile (· ≠ closing) :: others, rest')
    else ([], cs)
termination_by cs.length
decreasing_by
  have split := congrArg List.length (List.takeWhile_append_dropWhile
    (p := fun x => decide (x ≠ closing)) (l := rest))
  have trimmed := congrArg List.length (List.takeWhile_append_dropWhile
    (p := Text.isBlank) (l := after))
  simp only [List.length_append, _h, List.length_cons, Text.trimLeft] at *
  omega

/-- The labels before a filter and those after it, both in the order of the
text. The labels after it are read from the end. -/
def filterLabels (cs : List Char) : List String × List String :=
  let (leading, rest) := groups '[' ']' (Text.trimChars cs)
  let (trailing, _) := groups ']' '[' rest.reverse
  (leading.map String.ofList, trailing.reverse.map fun label => String.ofList label.reverse)

/-- The labels a chain has consumed and left open so far. -/
structure ChainLabels where
  inputs : List String := []
  outputs : List String := []
deriving DecidableEq

namespace ChainLabels

/-- Consume a label: the first open output of that name if there is one, else
a link from outside the chain. -/
def consume (labels : ChainLabels) (label : String) : ChainLabels :=
  if labels.outputs.contains label then { labels with outputs := labels.outputs.erase label }
  else { labels with inputs := labels.inputs ++ [label] }

/-- Read one filter of a chain. -/
def readFilter (labels : ChainLabels) (filter : List Char) : ChainLabels :=
  let (leading, trailing) := filterLabels filter
  let labels := leading.foldl consume labels
  { labels with outputs := labels.outputs ++ trailing }

end ChainLabels

/-! ## Chains -/

/-- The labels of a chain. -/
def chainLabels (chain : List Char) : ChainLabels :=
  (splitUnquoted ',' chain).foldl ChainLabels.readFilter {}

/-- A chain as a statement. -/
def statement (chain : List Char) : Statement :=
  let labels := chainLabels chain
  ⟨.raw, labels.inputs, labels.outputs, String.ofList chain⟩

/-- The chains of a fragment, trimmed; blank ones are dropped. -/
def chains (cs : List Char) : List (List Char) :=
  ((splitUnquoted ';' cs).map Text.trimChars).filter fun chain => !chain.isEmpty

/-- The statements of a fragment. -/
def statements (text : String) : List Statement := (chains text.toList).map statement

end Montage.Fragment
