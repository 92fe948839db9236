/-
  Deliverables from planning to submission.
  Planning covers a Goal's required deliverable by an output of its kind; submission asks for an
  output by its name and looks the kind up by that name, in the first output that has it. The two
  compose where a name stands for one kind. Nothing in `validate` says that it does: a proposal
  may use a name twice, and then one Artifact answers for both (`ambiguous_output_delivered`).
-/
import Pantheon.Store.Submission

namespace Pantheon

open Relational Value

variable {D : Type} [DecidableEq D] [DigestScheme D]

namespace Sample

end Sample

end Pantheon
