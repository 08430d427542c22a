import Montage.Asset

/-!
# Descriptions of assets

A one-line description for diagnostics. It names the fields with their values
and gives the length of the content instead of the content.
-/

namespace Montage

namespace Binary64

/-- A number with a point or an exponent: positional from `0.0001` up to
sixteen digits, else one digit before the point and a bare exponent. -/
def describe : Binary64 → String
  | finite negative rank =>
    let sign := if negative then "-" else ""
    if rank.val = 0 then sign ++ "0.0"
    else
      let d := Decimal.shortest .up rank
      let digits := toString d.digits
      let point : Int := digits.length + d.exponent
      if -4 < point && point ≤ 16 then sign ++ d.pointedText
      else
        let mantissa :=
          if digits.length = 1 then digits else Decimal.withPoint digits (digits.length - 1)
        sign ++ mantissa ++ "e" ++ toString (point - 1)
  | x => x.plainText

end Binary64

/-- A value that may be missing. -/
def describeOption {α : Type} (describe : α → String) : Option α → String
  | some value => "Some(" ++ describe value ++ ")"
  | none => "None"

/-- A truth value. -/
def describeBool (value : Bool) : String := if value then "true" else "false"

/-- Named fields in braces. -/
def describeFields (name : String) (fields : List (String × String)) : String :=
  name ++ " \x7b " ++ ", ".intercalate (fields.map fun field => field.1 ++ ": " ++ field.2) ++
    " \x7d"

/-- The fields of a description of streams. -/
def AssetMetadata.describe (metadata : AssetMetadata) : String :=
  let number := describeOption fun n : UInt32 => toString n.toNat
  describeFields "AssetMetadata" [
    ("duration_secs", describeOption Binary64.describe metadata.duration),
    ("width", number metadata.width),
    ("height", number metadata.height),
    ("frame_rate", describeOption Binary64.describe metadata.frameRate),
    ("sample_rate", number metadata.sampleRate),
    ("channels", number metadata.channels),
    ("has_audio", describeOption describeBool metadata.hasAudio),
    ("format", describeOption Text.quoted metadata.format)]

/-- The fields of an asset. -/
def Asset.describe (asset : Asset) : String :=
  let kind := match asset.kind with
    | .video => "Video"
    | .audio => "Audio"
  describeFields "AssetRef" [
    ("kind", kind),
    ("len", toString asset.bytes.length),
    ("metadata", asset.metadata.describe)]

end Montage
