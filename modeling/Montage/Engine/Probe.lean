import Montage.Asset
import Montage.Decimal.Reading
import Montage.Json.Reader

/-!
# Probe reports

A probe reports on a media file in JSON: the container, and every stream with
its properties as numbers or texts. The description of the file takes its
picture from the first video stream and its sound from the first audio stream.
-/

namespace Montage

namespace Probe

/-- What a probe says about the container. -/
structure Container where
  /-- names of the format, separated by commas -/
  formatName : Option String := none
  duration : Option String := none

/-- What a probe says about a stream. -/
structure Stream where
  /-- kind of the stream; `video` and `audio` matter here -/
  kind : String := ""
  width : Option UInt32 := none
  height : Option UInt32 := none
  /-- least common frame rate, a fraction -/
  baseRate : Option String := none
  /-- average frame rate, a fraction -/
  averageRate : Option String := none
  sampleRate : Option String := none
  channels : Option UInt32 := none
  duration : Option String := none

/-- What a probe says about a file. -/
structure Report where
  container : Option Container := none
  streams : List Stream := []

/-! ## Reading -/

open Json (Record)
open Json.Field (defaulted positional)

/-- The fields of a container. -/
def Container.record : Record Container where
  name := "FfprobeFormat"
  blank := {}
  fields := [
    positional "format_name" (.optional .text) fun v c => { c with formatName := v },
    positional "duration" (.optional .text) fun v c => { c with duration := v }]

/-- The fields of a stream. -/
def Stream.record : Record Stream where
  name := "FfprobeStream"
  blank := {}
  fields := [
    defaulted "codec_type" .text fun v s => { s with kind := v },
    positional "width" (.optional .word) fun v s => { s with width := v },
    positional "height" (.optional .word) fun v s => { s with height := v },
    positional "r_frame_rate" (.optional .text) fun v s => { s with baseRate := v },
    positional "avg_frame_rate" (.optional .text) fun v s => { s with averageRate := v },
    positional "sample_rate" (.optional .text) fun v s => { s with sampleRate := v },
    positional "channels" (.optional .word) fun v s => { s with channels := v },
    positional "duration" (.optional .text) fun v s => { s with duration := v }]

/-- The fields of a report. -/
def Report.record : Record Report where
  name := "FfprobeOutput"
  blank := {}
  fields := [
    defaulted "format" (.optional Container.record.reader)
      fun v r => { r with container := v },
    defaulted "streams" (.list Stream.record.reader) fun v r => { r with streams := v }]

/-! ## Describing -/

/-- A duration that is a finite number above zero. -/
def duration? (text : String) : Option Binary64 :=
  (Binary64.ofText? text).filter Binary64.isFinitePositive

/-- A frame rate above zero, written as a fraction or as a number. -/
def rate? (text : String) : Option Binary64 :=
  let cs := text.toList
  let rate := match cs.dropWhile (· ≠ '/') with
    | [] => Binary64.ofText? text
    | _ :: denominator =>
      match Binary64.ofText? (String.ofList (cs.takeWhile (· ≠ '/'))),
          Binary64.ofText? (String.ofList denominator) with
      | some n, some d => if 0 < d then some (n / d) else none
      | _, _ => none
  rate.filter fun rate => decide (0 < rate)

/-- The largest of some durations. -/
def largest? : List Binary64 → Option Binary64
  | [] => none
  | duration :: rest => some (rest.foldl Binary64.larger duration)

/-- The first name in a list of names. -/
def firstName (names : String) : String := String.ofList (names.toList.takeWhile (· ≠ ','))

/-- The first stream of a kind. -/
def Report.stream? (report : Report) (kind : MediaKind) : Option Stream :=
  report.streams.find? (·.kind == kind.name)

/-- The duration of a file: the container's, or else the longest stream's. -/
def Report.duration? (report : Report) : Option Binary64 :=
  ((report.container.bind (·.duration)).bind Probe.duration?).or
    (largest? (report.streams.filterMap fun stream => stream.duration.bind Probe.duration?))

/-- The frame rate of a stream: its average rate, or else its base rate. -/
def Stream.rate? (stream : Stream) : Option Binary64 :=
  (stream.averageRate.bind Probe.rate?).or (stream.baseRate.bind Probe.rate?)

/-- The description of a file. -/
def Report.metadata (report : Report) : AssetMetadata :=
  let video := report.stream? .video
  let audio := report.stream? .audio
  { duration := report.duration?
    width := video.bind (·.width)
    height := video.bind (·.height)
    frameRate := video.bind (·.rate?)
    sampleRate := (audio.bind (·.sampleRate)).bind Decimal.word?
    channels := audio.bind (·.channels)
    hasAudio := some audio.isSome
    format := (report.container.bind (·.formatName)).map firstName }

/-- The description of a file from the bytes of a report. -/
def metadataOf (bytes : Bytes) : Except Json.ReadError AssetMetadata :=
  (Json.ofBytes Report.record.reader bytes).map Report.metadata

end Probe

end Montage
