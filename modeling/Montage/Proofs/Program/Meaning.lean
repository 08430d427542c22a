import Montage.Proofs.Program.Ends

/-!
# What compiled compositions mean

Following the links of a compiled graph back from its final streams gives the
composition itself: the joined clips, with the visual layers laid on one after
the other, and the audio mixed.
-/

namespace Montage.Composition

variable {composition : Composition} {program : Program}

end Montage.Composition
