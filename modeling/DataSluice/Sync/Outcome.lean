/-
# Outcome records and the bytes at the destination

Whether a new file is published is decided by `materialize`, from the bytes and
digests it finds at the destination. Whether the old or the new record is reported is
decided afterwards by `_finish_resource_sync`, from the stored watermark and the health
of the destination before the run. Both decisions agree except in one case: the table
hashes to the stored watermark and the old record was healthy, but the writer produced
other bytes and the published file does not read back with that digest. The file is
then replaced, and the record of the old one is reported and stays stored.

The old record stays stored, too, when a run raises between the move of its file and the
commit of its state. So what a run leaves is said here of both ways in which it ends.
-/

import DataSluice.Lib.Transition
import DataSluice.Sync.StagedRuns

namespace DataSluice.Sync

open DataSluice.Lib

variable {Schema Row Version : Type}

/-! ## A run that writes in one piece -/

section Whole

open Durable

variable [DecidableEq Version] {codec : Codec Schema Row} {site : Site}
  {input : RunInput Schema Row Version} {start : Destination Schema Row Version}
  {reading : ConditionalRead Schema Row}

end Whole

/-! ## Exactly when the records describe the file -/

section Runs

open Durable

variable (codec : Codec Schema Row) (site : Site) [DecidableEq Schema] [DecidableEq Version]

end Runs

/-! ## Concrete runs -/

end DataSluice.Sync
