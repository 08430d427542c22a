import Montage.Engine.Error
import Montage.Program.SinglePass

/-!
# Planning

Planning checks a composition and builds its program by the simplest route
that will do.
-/

namespace Montage.Composition

/-- Check a composition on its own. -/
def validate (composition : Composition) : Except Error Unit :=
  composition.check.mapError fun violation => .invalidComposition violation.message

/-- The program of a composition by the simplest route. -/
def plan (composition : Composition) : Except Error Program := do
  composition.validate
  (if composition.isSimple then composition.singlePass else composition.compile).mapError
    Error.ofFault

end Montage.Composition
