/-!
# Statements of a filter graph

A statement is one filter chain with the labels of the links it consumes and
declares.
-/

namespace Montage

/-- What a statement is there for. -/
inductive FilterKind where
  /-- fit a clip's video to the others before they are joined -/
  | normalize
  /-- bring a clip's audio to the common format before they are joined -/
  | normalizeAudio
  /-- stand in for a clip without audio -/
  | silentAudio
  | concat
  /-- a transparent lead-in for a delayed overlay -/
  | timePad
  | colorKey
  | scale
  | alpha
  | overlay
  /-- fit an overlay's audio to its time window -/
  | audioTiming
  | mix
  /-- give an input stream a label of its own -/
  | passthrough
  /-- raw text from outside -/
  | raw
deriving DecidableEq

namespace FilterKind

/-- All kinds. -/
def all : List FilterKind :=
  [normalize, normalizeAudio, silentAudio, concat, timePad, colorKey, scale, alpha, overlay,
    audioTiming, mix, passthrough, raw]

/-- The name of a kind. -/
def name : FilterKind → String
  | normalize => "normalize"
  | normalizeAudio => "normalize_audio"
  | silentAudio => "silent_audio"
  | concat => "concat"
  | timePad => "timepad"
  | colorKey => "colorkey"
  | scale => "scale"
  | alpha => "alpha"
  | overlay => "overlay"
  | audioTiming => "audio_timing"
  | mix => "mix"
  | passthrough => "passthrough"
  | raw => "raw"

/-- The kind of a name. -/
def ofName? (name : String) : Option FilterKind := all.find? (·.name == name)

end FilterKind

/-- One filter chain with its link labels. -/
structure Statement where
  kind : FilterKind
  inputs : List String
  outputs : List String
  body : String
deriving DecidableEq

namespace Statement

/-- A statement with one input and one output. -/
def chain (kind : FilterKind) (input body output : String) : Statement :=
  ⟨kind, [input], [output], body⟩

/-- A label in brackets. -/
def bracketed (label : String) : String := "[" ++ label ++ "]"

/-- The text of a statement: its body between its labels. Raw text carries its
labels itself. -/
def text (statement : Statement) : String :=
  match statement.kind with
  | .raw => statement.body
  | _ =>
    String.join (statement.inputs.map bracketed) ++ statement.body ++
      String.join (statement.outputs.map bracketed)

/-- The statement with the first output of one name under another. -/
def renameOutput (old new : String) (statement : Statement) : Statement :=
  { statement with outputs := statement.outputs.replace old new }

end Statement

end Montage
