import Montage.Text.Utf8

/-!
# Environment variables

The variables that a process is started with. A value may be any bytes; most
readers want text and treat everything else as if the variable were not set.
-/

namespace Montage

/-- Variables with their values. -/
structure Environment where
  entries : List (String × Bytes) := []
deriving DecidableEq

namespace Environment

/-- The value of a variable, if it is set to valid text. -/
def text? (environment : Environment) (name : String) : Option String :=
  (environment.entries.lookup name).bind Text.Utf8.decode?

/-- Whether a variable can have a text as its value: a NUL would end it. -/
def canHold (value : String) : Bool := !value.toList.contains (Char.ofNat 0)

/-- The environment with a variable set to a text. -/
def set (environment : Environment) (name value : String) : Environment :=
  ⟨(name, Text.Utf8.encode value) ::
    environment.entries.filter fun entry => entry.1 != name⟩

/-- The environment without a variable. -/
def unset (environment : Environment) (name : String) : Environment :=
  ⟨environment.entries.filter fun entry => entry.1 != name⟩

/-- The home directory, if there is one. -/
def homeDirectory? (environment : Environment) : Option String :=
  (environment.text? "HOME").filter fun path => !path.isEmpty

/-- The directory for temporary files. -/
def temporaryDirectory (environment : Environment) : String :=
  (environment.text? "TMPDIR").getD "/tmp"

end Environment

end Montage
