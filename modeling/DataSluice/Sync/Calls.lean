/-
# Whole calls

A call gets to the end of its `try` block exactly when it reaches that block with its bytes
staged and measured and the move, where there is one, works; what it returns and leaves behind
then follows from the staged bytes. A call that does not get there raises, and leaves the file
at the final URI as it was.
-/

import DataSluice.Sync.Staging

namespace DataSluice.Sync.Materialize

open DataSluice.Lib DataSluice.Lib.Url DataSluice.Domain DataSluice.Data

variable {Schema Batch : Type} {tools : Tools Schema Batch} {faults : Faults}
  {request : Request tools.stdlib.unicode}

section Operations

open Durable

variable {P : Disk → Prop} {start : Disk}

/-! ## Shards -/

theorem requireCheckpointShards_decides (faults : Faults) (resourceId : String)
    (shards : Nat → Option Bytes) (indexes : List Nat) :
    Decides (∀ index ∈ indexes, faults.existsShard index = none ∧ (shards index).isSome = true)
      (fun disk => disk.shards = shards ∧ P disk)
      (requireCheckpointShards faults resourceId indexes)
      (fun _ disk => disk.shards = shards ∧ P disk) (fun disk => disk.shards = shards ∧ P disk) := by
  induction indexes with
  | nil => exact .pure nofun fun _ hpre => hpre
  | cons index indexes ih =>
      apply Decides.congr (C := faults.existsShard index = none ∧
        ((shards index).isSome = true ∧
          ∀ other ∈ indexes, faults.existsShard other = none ∧ (shards other).isSome = true))
      · apply (Decides.attempt fun _ hpre => hpre).bind
        intro _ _
        apply Decides.read.true_bind
        intro disk
        apply Decides.assume (A := disk.shards = shards)
        · rintro _ ⟨rfl, hshards, -⟩
          exact hshards
        rintro rfl
        apply Decides.ite
        · intro hmissing
          apply Decides.fail _ fun _ hpre => hpre.2
          rintro ⟨hthere, -⟩
          rw [Option.isNone_iff_eq_none.mp hmissing] at hthere
          cases hthere
        · intro hthere
          apply Decides.congr (ih.weaken (fun _ hpre => hpre.2) (fun _ _ _ hpost => hpost)
            fun _ hfailed => hfailed)
          exact (and_iff_right (by simpa [Option.isSome_iff_ne_none] using hthere)).symm
      · rw [List.forall_mem_cons, and_assoc]

/-- Nothing but the shards has changed, and with one more they are these. -/
def Receives (start : Disk) (index : Nat) (payload : Bytes) (shards : Nat → Option Bytes)
    (disk : Disk) : Prop :=
  putShard disk.shards index payload = shards ∧ Untouched start disk

/-- Another shard's temporary file is not left behind, nor anything at the final URI. -/
structure Piping (start : Disk) (index : Nat) (disk : Disk) : Prop where
  published : disk.published = start.published
  staged : disk.staged = start.staged
  free : ∀ other, other ≠ index → start.stagedShards other = none → disk.stagedShards other = none

/-- Without its temporary file, a shard leaves nothing behind. -/
theorem Piping.untouched {index : Nat} {disk : Disk} (hpiping : Piping start index disk)
    (shards : Nat → Option Bytes) :
    Untouched start { disk with
      shards := shards
      stagedShards := fun other => if other = index then none else disk.stagedShards other } := by
  refine ⟨⟨hpiping.published, fun other hnone => ?_⟩, hpiping.staged⟩
  dsimp only
  split
  · rfl
  next hne => exact hpiping.free other hne hnone

/-- A shard is put in place when it can be written and moved; otherwise its temporary file is
removed. -/
theorem atomicPipe_decides (faults : Faults) (index : Nat) (payload : Bytes)
    (shards : Nat → Option Bytes) :
    Decides (faults.pipeShard index = none ∧ faults.moveShard index = none)
      (Receives start index payload shards) (atomicPipe faults index payload)
      (fun _ disk => disk.shards = shards ∧ Untouched start disk) (Untouched start) := by
  apply Decides.tryExcept (G := Piping start index)
  · apply Decides.bind (R := fun _ disk => Piping start index disk ∧
      disk.stagedShards index = some payload ∧ putShard disk.shards index payload = shards)
    · apply Decides.true_bind (R := fun _ disk => Piping start index disk ∧
        (faults.pipeShard index = none → disk.stagedShards index = some payload) ∧
          putShard disk.shards index payload = shards)
      · apply Decides.write
        rintro disk ⟨hshards, huntouched⟩
        refine ⟨⟨huntouched.published, huntouched.staged, fun other hne hnone => ?_⟩, ?_, hshards⟩
        · dsimp only
          rw [if_neg hne]
          exact huntouched.free other hnone
        · intro hworks
          simp [hworks]
      · intro _
        exact (Decides.attempt fun _ hpre => hpre.1).weaken (fun _ hpre => hpre)
          (fun hworks _ _ hpost => ⟨hpost.1, hpost.2.1 hworks, hpost.2.2⟩) fun _ hfailed => hfailed
    · intro _ _
      apply Decides.bind_true
      · exact (readFile_decides (faults.moveShard index) fun disk hpre =>
          (show disk.stagedShards index = some payload from hpre.2.1)).weaken (fun _ hpre => hpre)
            (fun _ _ _ hpost => hpost) fun _ hpre => hpre.1
      intro _ found
      apply Decides.assume fun _ hpre => hpre.1
      rintro rfl
      apply Decides.write
      rintro disk ⟨-, hpiping, -, hshards⟩
      exact ⟨hshards, hpiping.untouched _⟩
  · intro cause
    apply Decides.true_bind (R := fun _ => Untouched start)
    · exact .write fun disk hpiping => hpiping.untouched disk.shards
    · intro _
      exact .fail id fun _ huntouched => huntouched

theorem removeOldShard_decides (faults : Faults) (index : Nat) (payload : Bytes)
    (shards : Nat → Option Bytes) :
    Decides (faults.existsShard index = none ∧
        ((shards index).isSome = true → faults.removeShard index = none))
      (fun disk => disk.shards = shards ∧ Untouched start disk) (removeOldShard faults index)
      (fun _ => Receives start index payload (putShard shards index payload))
      (Untouched start) := by
  apply Decides.bind
  · exact .attempt fun _ hpre => hpre.2
  intro _ _
  apply Decides.read.true_bind
  intro disk
  apply Decides.assume (A := disk.shards = shards)
  · rintro _ ⟨rfl, hshards, -⟩
    exact hshards
  rintro rfl
  apply Decides.ite
  · intro hthere
    apply Decides.congr (C := faults.removeShard index = none)
    · apply Decides.bind_true
      · exact (Decides.attempt fun _ hpre => hpre.2).weaken (fun _ hpre => hpre.2)
          (fun _ _ _ hpost => hpost) fun _ hfailed => hfailed
      intro _ _
      apply Decides.write
      rintro current ⟨hshards, huntouched⟩
      refine ⟨?_, ⟨huntouched.published, huntouched.free⟩, huntouched.staged⟩
      funext other
      rw [putShard, putShard, hshards]
      split
      · rfl
      next hne => exact if_neg hne
    · exact ⟨fun hremoved _ => hremoved, fun hremoved => hremoved hthere⟩
  · intro hmissing
    apply Decides.pure fun hthere => absurd hthere hmissing
    rintro current ⟨-, hshards, huntouched⟩
    exact ⟨by rw [hshards], huntouched⟩

/-- A shard that was not reported yet. -/
theorem publishBatchShard_decides (faults : Faults) (index : Nat) (batch : Batch)
    (shards : Nat → Option Bytes) :
    Decides (faults.writeTable index = none ∧ (faults.existsShard index = none ∧
        ((shards index).isSome = true → faults.removeShard index = none)) ∧
          faults.pipeShard index = none ∧ faults.moveShard index = none)
      (fun disk => disk.shards = shards ∧ Untouched start disk)
      (publishBatchShard tools faults index batch)
      (fun _ disk => disk.shards = putShard shards index (tools.writeTable batch) ∧
        Untouched start disk) (Untouched start) := by
  apply Decides.bind
  · exact .attempt fun _ hpre => hpre.2
  intro _ _
  apply (removeOldShard_decides faults index (tools.writeTable batch) shards).bind
  intro _ _
  exact atomicPipe_decides faults index _ _

/-- Only the shards from `next` on matter. -/
theorem putsShards_congr {faults : Faults} {shards others : Nat → Option Bytes} {next : Nat}
    (hsame : ∀ index, next ≤ index → shards index = others index)
    (items : List (Batch × BatchCursor)) :
    faults.PutsShards shards next items ↔ faults.PutsShards others next items := by
  induction items generalizing next with
  | nil => exact Iff.rfl
  | cons item items ih =>
      have hfirst : faults.PutsShard shards next ↔ faults.PutsShard others next := by
        constructor
        · rintro ⟨hwritten, hlooked, hremoved, hpiped, hmoved, hreported⟩
          rw [hsame next le_rfl] at hremoved
          exact ⟨hwritten, hlooked, hremoved, hpiped, hmoved, hreported⟩
        · rintro ⟨hwritten, hlooked, hremoved, hpiped, hmoved, hreported⟩
          rw [← hsame next le_rfl] at hremoved
          exact ⟨hwritten, hlooked, hremoved, hpiped, hmoved, hreported⟩
      rw [Faults.PutsShards, Faults.PutsShards, hfirst,
        ih fun index hindex => hsame index (Nat.le_of_succ_le hindex)]

/-- The batches of the stream become shards, one after the other. The induction is on the
generator. -/
theorem stageShards_decides (faults : Faults) (resourceId : String) (next : Nat)
    (shards : Nat → Option Bytes) (items : Generator Failure (Batch × BatchCursor)) :
    Decides (∃ staged, items = .ofList staged ∧ faults.PutsShards shards next staged)
      (fun disk => disk.shards = shards ∧ Untouched start disk)
      (stageShards tools faults resourceId next items)
      (fun count disk => ∃ staged, items = .ofList staged ∧ count = next + staged.length ∧
        disk.shards = putShards tools shards next staged ∧ Untouched start disk)
      (Untouched start) := by
  induction items generalizing next shards with
  | stop => exact .pure ⟨[], rfl, trivial⟩ fun _ hpre => ⟨[], rfl, rfl, hpre⟩
  | raise failure =>
      apply Decides.fail _ fun _ hpre => hpre.2
      rintro ⟨_ | _, hraise, -⟩ <;> cases hraise
  | yield item rest ih =>
      obtain ⟨batch, cursor⟩ := item
      have hlist : (∃ staged, (Generator.yield (batch, cursor) rest :
          Generator Failure (Batch × BatchCursor)) = .ofList staged ∧
            faults.PutsShards shards next staged) ↔
          cursor.nextBatchIndex = next + 1 ∧ faults.PutsShard shards next ∧
            ∃ staged, rest = .ofList staged ∧ faults.PutsShards shards (next + 1) staged := by
        constructor
        · rintro ⟨_ | ⟨first, staged⟩, hstaged, hputs⟩
          · cases hstaged
          · cases hstaged
            exact ⟨hputs.1, hputs.2.1, staged, rfl, hputs.2.2⟩
        · rintro ⟨hcursor, hput, staged, rfl, hputs⟩
          exact ⟨(batch, cursor) :: staged, rfl, hcursor, hput, hputs⟩
      rw [hlist]
      apply Decides.ite
      · intro hother
        exact .fail (fun hreturns => hother hreturns.1) fun _ hpre => hpre.2
      intro hcursor
      rw [ne_eq, not_not] at hcursor
      have hlater : ∀ staged : List (Batch × BatchCursor),
          faults.PutsShards (putShard shards next (tools.writeTable batch)) (next + 1) staged ↔
            faults.PutsShards shards (next + 1) staged := fun staged =>
        putsShards_congr (fun index hindex => if_neg (Nat.ne_of_gt hindex)) staged
      apply Decides.congr (C := (faults.writeTable next = none ∧ (faults.existsShard next = none ∧
          ((shards next).isSome = true → faults.removeShard next = none)) ∧
            faults.pipeShard next = none ∧ faults.moveShard next = none) ∧
        faults.onBatchPersisted next = none ∧ ∃ staged, rest = .ofList staged ∧
          faults.PutsShards shards (next + 1) staged)
      · apply (publishBatchShard_decides faults next batch shards).bind
        intro _ _
        apply Decides.bind
        · exact .attempt fun _ hpre => hpre.2
        intro _ _
        simp only [← hlater]
        rw [hcursor]
        apply (ih (next + 1) (putShard shards next (tools.writeTable batch))).weaken
          (fun _ hpre => hpre)
        · rintro - count disk ⟨staged, rfl, rfl, hshards, huntouched⟩
          refine ⟨(batch, cursor) :: staged, rfl, ?_, hshards, huntouched⟩
          rw [List.length_cons]
          omega
        · exact fun _ hfailed => hfailed
      · constructor
        · rintro ⟨⟨hwritten, ⟨hlooked, hremoved⟩, hpiped, hmoved⟩, hreported, hrest⟩
          exact ⟨hcursor, ⟨hwritten, hlooked, hremoved, hpiped, hmoved, hreported⟩, hrest⟩
        · rintro ⟨-, hput, hrest⟩
          exact ⟨⟨hput.written, ⟨hput.looked, hput.removed⟩, hput.piped, hput.moved⟩,
            hput.reported, hrest⟩

/-- The shards up to a number are looked for one after the other. -/
theorem findsShards_decides (faults : Faults) (resourceId : String)
    (shards : Nat → Option Bytes) (count : Nat) :
    Decides (faults.FindsShards shards count) (fun disk => disk.shards = shards ∧ P disk)
      (requireCheckpointShards faults resourceId (List.range count))
      (fun _ disk => disk.shards = shards ∧ P disk) (fun disk => disk.shards = shards ∧ P disk) := by
  apply (requireCheckpointShards_decides faults resourceId shards (List.range count)).congr
  simp only [List.mem_range, Faults.FindsShards]

/-- The batches of the stream become shards, and behind that all shards are there: those that
were there before, and those of the stream. -/
theorem stageAllShards_decides {α : Type} (faults : Faults) (resourceId : String) (next : Nat)
    (shards : Nat → Option Bytes) (items : Generator Failure (Batch × BatchCursor))
    (finish : Nat → α) :
    Decides (∃ staged, items = .ofList staged ∧ faults.PutsShards shards next staged ∧
        faults.FindsShards (putShards tools shards next staged) (next + staged.length))
      (fun disk => disk.shards = shards ∧ Untouched start disk)
      (do
        let count ← stageShards tools faults resourceId next items
        requireCheckpointShards faults resourceId (List.range count)
        pure (finish count))
      (fun value disk => ∃ staged, items = .ofList staged ∧
        value = finish (next + staged.length) ∧ disk.shards = putShards tools shards next staged ∧
          Untouched start disk)
      (Untouched start) := by
  apply Decides.congr (C := (∃ staged, items = .ofList staged ∧
      faults.PutsShards shards next staged) ∧ ∃ staged, items = .ofList staged ∧
        faults.FindsShards (putShards tools shards next staged) (next + staged.length))
  · apply (stageShards_decides faults resourceId next shards items).bind
    rintro - count
    apply Decides.of_exists
    intro staged
    apply Decides.assume (A := items = .ofList staged ∧ count = next + staged.length)
    · exact fun _ hpre => ⟨hpre.1, hpre.2.1⟩
    rintro ⟨rfl, rfl⟩
    apply Decides.congr (C := faults.FindsShards (putShards tools shards next staged)
      (next + staged.length))
    · apply Decides.bind_true
      · exact (findsShards_decides faults resourceId _ _).weaken (fun _ hpre => hpre.2.2)
          (fun _ _ _ hpost => hpost) fun _ hfailed => hfailed.2
      · exact fun _ _ => .pure trivial fun _ hpost => ⟨staged, rfl, rfl, hpost⟩
    · constructor
      · exact fun hcomplete => ⟨staged, rfl, hcomplete⟩
      · rintro ⟨others, hothers, hcomplete⟩
        rw [ofList_injective hothers]
        exact hcomplete
  · constructor
    · rintro ⟨⟨staged, rfl, hputs⟩, others, hothers, hcomplete⟩
      cases ofList_injective hothers
      exact ⟨staged, rfl, hputs, hcomplete⟩
    · rintro ⟨staged, rfl, hputs, hcomplete⟩
      exact ⟨⟨staged, rfl, hputs⟩, staged, rfl, hcomplete⟩

/-! ## In front of the `try` block -/

section Calls

variable {request : Request tools.stdlib.unicode}

theorem prepare_decides (faults : Faults) (request : Request tools.stdlib.unicode)
    (mode : String) :
    Decides (faults.openFilesystem = none ∧ faults.makedirs = none ∧
        ∃ context : Context tools request, context.mode = mode)
      P (prepare tools faults request mode) (fun context disk => context.mode = mode ∧ P disk)
      P := by
  apply (Decides.attempt fun _ hpre => hpre).bind
  intro _ _
  apply (Decides.attempt fun _ hpre => hpre).bind
  intro _ _
  split
  next failure hfailure =>
    apply Decides.fail _ fun _ hpre => hpre
    rintro ⟨context, -⟩
    cases context.identity_eq.symm.trans hfailure
  next identity hidentity =>
    split
    next hmode => exact .pure ⟨⟨identity, mode, hidentity, hmode⟩, rfl⟩ fun _ hpre => ⟨rfl, hpre⟩
    next hmode =>
      apply Decides.fail _ fun _ hpre => hpre
      rintro ⟨context, rfl⟩
      exact hmode context.mode_valid

/-- Everything in front of the `try` block works. -/
def Work.Prepares (faults : Faults) (request : Request tools.stdlib.unicode)
    (work : Work tools.stdlib.unicode Schema Batch) (shards : Nat → Option Bytes) : Prop :=
  (faults.openFilesystem = none ∧ faults.makedirs = none ∧
    ∃ context : Context tools request, context.mode = modeOf work) ∧
      ∃ begun count, work.Begins tools faults shards begun count

theorem prelude_decides (faults : Faults) (request : Request tools.stdlib.unicode)
    (work : Work tools.stdlib.unicode Schema Batch) :
    Decides (work.Prepares faults request start.shards) (fun disk => disk = start)
      (work.prelude tools faults request)
      (fun prepared disk => prepared.1.mode = modeOf work ∧
        work.Begins tools faults start.shards disk.shards prepared.2 ∧ Untouched start disk)
      (Untouched start) := by
  have huntouched : ∀ disk : Disk, disk = start → Untouched start disk := by
    rintro _ rfl
    exact Untouched.refl _
  cases work with
  | reading input =>
      apply Decides.congr
      · apply Decides.bind_true ((prepare_decides faults request input.mode).weaken
          (fun _ hpre => hpre) (fun _ _ _ hpost => hpost) huntouched)
        intro _ context
        apply Decides.pure trivial
        rintro disk ⟨hmode, rfl⟩
        exact ⟨hmode, ⟨rfl, rfl⟩, Untouched.refl _⟩
      · exact (and_iff_left ⟨start.shards, 0, rfl, rfl⟩).symm
  | stream mode schema batches =>
      apply Decides.ite
      · intro hmode
        apply Decides.fail _ huntouched
        rintro ⟨-, _, _, hparquet, -⟩
        exact hmode hparquet
      · intro hmode
        rw [ne_eq, not_not] at hmode
        apply Decides.congr
        · apply Decides.bind_true ((prepare_decides faults request mode).weaken
            (fun _ hpre => hpre) (fun _ _ _ hpost => hpost) huntouched)
          intro _ context
          apply Decides.pure trivial
          rintro disk ⟨hcontext, rfl⟩
          exact ⟨hcontext, ⟨hmode, rfl, rfl⟩, Untouched.refl _⟩
        · exact (and_iff_left ⟨start.shards, 0, hmode, rfl, rfl⟩).symm
  | checkpointed startBatchIndex schema items =>
      apply Decides.ite
      · intro hnegative
        apply Decides.fail _ huntouched
        rintro ⟨-, _, _, hstart, -⟩
        omega
      intro hstart
      rw [not_lt] at hstart
      apply Decides.congr (C := (faults.openFilesystem = none ∧ faults.makedirs = none ∧
          ∃ context : Context tools request, context.mode = "parquet") ∧
        faults.makePartialDirs = none ∧
        faults.FindsShards start.shards startBatchIndex.toNat ∧ faults.enterStream = none ∧
        ∃ staged, items = .ofList staged ∧
          faults.PutsShards start.shards startBatchIndex.toNat staged ∧
          faults.FindsShards (putShards tools start.shards startBatchIndex.toNat staged)
            (startBatchIndex.toNat + staged.length))
      · apply ((prepare_decides faults request "parquet").weaken (fun _ hpre => hpre)
          (fun _ _ _ hpost => hpost) huntouched).bind
        intro _ context
        apply Decides.assume fun _ hpre => hpre.1
        intro hmode
        apply Decides.bind (R := fun _ disk => disk.shards = start.shards ∧ Untouched start disk)
        · apply (Decides.attempt fun disk hpre => huntouched disk hpre.2).weaken
            (fun _ hpre => hpre)
          · rintro - _ disk ⟨-, rfl⟩
            exact ⟨rfl, Untouched.refl _⟩
          · exact fun _ hfailed => hfailed
        intro hdirs _
        apply Decides.bind
        · exact (findsShards_decides faults request.resource.id start.shards
            startBatchIndex.toNat).weaken (fun _ hpre => hpre) (fun _ _ _ hpost => hpost)
              fun _ hpre => hpre.2
        intro hfound _
        apply (Decides.attempt fun _ hpre => hpre.2).bind
        intro hentered _
        apply (stageAllShards_decides faults request.resource.id startBatchIndex.toNat
          start.shards items (Prod.mk context)).weaken (fun _ hpre => hpre)
        · rintro ⟨staged, rfl, hputs, hcomplete⟩ _ disk ⟨others, hothers, rfl, hshards, hkept⟩
          cases ofList_injective hothers
          exact ⟨hmode, ⟨hstart, hdirs, hfound, hentered, staged, rfl, hputs, hshards, rfl,
            hshards ▸ hcomplete⟩, hkept⟩
        · exact fun _ hfailed => hfailed
      · constructor
        · rintro ⟨hprepared, hdirs, hfound, hentered, staged, rfl, hputs, hcomplete⟩
          exact ⟨hprepared, _, _, hstart, hdirs, hfound, hentered, staged, rfl, hputs, rfl, rfl,
            hcomplete⟩
        · rintro ⟨hprepared, _, _, -, hdirs, hfound, hentered, staged, rfl, hputs, rfl, rfl,
            hcomplete⟩
          exact ⟨hprepared, hdirs, hfound, hentered, staged, rfl, hputs, hcomplete⟩

end Calls

end Operations

/-! ## The `try` block with its `finally` -/

section Runs

open Durable

variable {work : Work tools.stdlib.unicode Schema Batch} {context : Context tools request}
  {count : Nat} {disk : Disk}

/-- The block ends where its `try` part does, without the temporary file. -/
theorem final_publish {body : FileM (Artifact tools.stdlib.unicode)} :
    (body.tryFinally removeStaged).final disk = (body.final disk).stage none :=
  final_tryFinally body removeStaged disk

theorem result_publish {body : FileM (Artifact tools.stdlib.unicode)} :
    (body.tryFinally removeStaged).result disk = body.result disk := result_tryFinally rfl

theorem ofExcept_ends {α : Type} (result : Except Failure α) (disk : Disk) :
    ((Durable.ofExcept result : FileM α).result disk = result) ∧
      (Durable.ofExcept result : FileM α).final disk = disk := by
  cases result with
  | ok value => exact ⟨rfl, rfl⟩
  | error error => exact ⟨rfl, rfl⟩

/-- Behind the staging, the block returns what `finish` does, and changes nothing more. -/
theorem publish_of_stage {staged : Artifact tools.stdlib.unicode ⊕ Written}
    (hstage : (work.stage tools faults context count).result disk = .ok staged) :
    (work.publish tools faults context count).result disk = finish tools context staged ∧
      (work.publish tools faults context count).final disk =
        ((work.stage tools faults context count).final disk).stage none := by
  obtain ⟨-, hresult, hfinal⟩ := bind_of_ok
    (fun staged => Durable.ofExcept (finish tools context staged)) hstage
  have hends := ofExcept_ends (finish tools context staged)
    ((work.stage tools faults context count).final disk)
  constructor
  · rw [Work.publish, result_publish, hresult, hends.1]
  · rw [Work.publish, final_publish, hfinal, hends.2]

/-- A staging that raises changes nothing but temporary files, which are removed. -/
theorem publish_of_stage_error {error : Failure}
    (hstage : (work.stage tools faults context count).result disk = .error error) :
    (work.publish tools faults context count).result disk = .error error ∧
      (work.publish tools faults context count).final disk =
        ((work.stage tools faults context count).final disk).stage none := by
  obtain ⟨hwrites, hresult⟩ := bind_of_error
    (fun staged => Durable.ofExcept (finish tools context staged)) hstage
  constructor
  · rw [Work.publish, result_publish, hresult]
  · rw [Work.publish, final_publish, final, hwrites]
    rfl

/-! ## The end of a call -/

/-- The context of a call follows from its mode. -/
theorem Context.eq_of_mode {first second : Context tools request}
    (hsame : first.mode = second.mode) : first = second := by
  obtain ⟨identity, mode, hidentity, hvalid⟩ := first
  obtain ⟨other, same, hother, _⟩ := second
  cases hidentity.symm.trans hother
  cases hsame
  rfl

/-- The shards that the `try` block begins with are determined. -/
theorem Work.Begins.unique {start first second : Nat → Option Bytes} {count number : Nat}
    (hfirst : work.Begins tools faults start first count)
    (hsecond : work.Begins tools faults start second number) :
    first = second ∧ count = number := by
  cases work with
  | reading input => exact ⟨hfirst.1.trans hsecond.1.symm, hfirst.2.trans hsecond.2.symm⟩
  | stream mode schema batches =>
      exact ⟨hfirst.2.1.trans hsecond.2.1.symm, hfirst.2.2.trans hsecond.2.2.symm⟩
  | checkpointed startBatchIndex schema items =>
      obtain ⟨-, -, -, -, staged, rfl, -, rfl, rfl, -⟩ := hfirst
      obtain ⟨-, -, -, -, others, hothers, -, rfl, rfl, -⟩ := hsecond
      cases ofList_injective hothers
      exact ⟨rfl, rfl⟩

/-- What a call reaches is determined. -/
theorem Work.Reaches.unique {context other : Context tools request} {bytes found : Bytes}
    {digest checksum : Checksum} (hfirst : work.Reaches faults request disk context bytes digest)
    (hsecond : work.Reaches faults request disk other found checksum) :
    context = other ∧ bytes = found ∧ digest = checksum := by
  have hcontext := Context.eq_of_mode (hfirst.mode.trans hsecond.mode.symm)
  obtain ⟨shards, count, hbegins, hstages⟩ := hfirst.staged
  obtain ⟨others, number, hagain, hsame⟩ := hsecond.staged
  obtain ⟨rfl, rfl⟩ := hbegins.unique hagain
  cases hcontext
  exact ⟨rfl, hstages.unique hsame⟩

/-- The `try` block ends in the same way after a prelude that has changed shards alone. -/
theorem Work.Ended.of_kept {start begun last : Disk} {bytes : Bytes} {digest : Checksum}
    {ended : Artifact tools.stdlib.unicode ⊕ Written}
    (hended : work.Ended faults begun context bytes digest ended last) (hkept : Kept start begun) :
    work.Ended faults start context bytes digest ended last := by
  unfold Work.Ended at hended ⊢
  rw [hkept.published] at hended
  split at hended
  · exact ⟨hended.1, hkept.trans hended.2⟩
  · refine ⟨hended.1, ?_⟩
    split
    next hnone => exact hkept.moved (by simpa only [if_pos hnone] using hended.2)
    next hsome => exact hkept.trans (by simpa only [if_neg hsome] using hended.2)

/-- A call that reaches its `try` block with its bytes ends as this block does, when the move
works. -/
theorem Work.Reaches.run {bytes : Bytes} {digest : Checksum}
    (hreaches : work.Reaches faults request disk context bytes digest)
    (hmove : work.MoveWorks faults context disk.published bytes digest) :
    ∃ ended last, work.Ended faults disk context bytes digest ended last ∧
      (work.run tools faults request).result disk = finish tools context ended ∧
      (work.run tools faults request).final disk = last.stage none := by
  obtain ⟨shards, count, hbegins, hstages⟩ := hreaches.staged
  obtain ⟨⟨found, number⟩, hprelude, hmode, hbegun, huntouched⟩ :=
    (prelude_decides faults request work).exists_ok rfl
      ⟨⟨hreaches.opened, hreaches.made, context, hreaches.mode⟩, shards, count, hbegins⟩
  cases Context.eq_of_mode (hmode.trans hreaches.mode.symm)
  obtain ⟨hshards, rfl⟩ := hbegins.unique hbegun
  have hmeasured := hreaches.measured
  rw [← huntouched.published] at hmeasured hmove
  rw [hshards] at hstages
  obtain ⟨ended, hstage, other, checksum, hagain, hended⟩ :=
    (stage_decides _ faults count work).exists_ok rfl ⟨bytes, digest, hstages, hmeasured, hmove⟩
  obtain ⟨rfl, rfl⟩ := hstages.unique hagain
  obtain ⟨-, hresult, hfinal⟩ :=
    bind_of_ok (fun prepared => work.publish tools faults prepared.1 prepared.2) hprelude
  have hpublish := publish_of_stage hstage
  refine ⟨ended, _, hended.of_kept huntouched.toKept, ?_, ?_⟩
  · exact hresult.trans hpublish.1
  · exact hfinal.trans hpublish.2

/-- A call that does not get there raises, and leaves the file at the final URI as it was. -/
theorem run_of_not_reaches
    (hnever : ∀ context bytes digest, work.Reaches faults request disk context bytes digest →
      ¬ work.MoveWorks faults context disk.published bytes digest) :
    ∃ error, (work.run tools faults request).result disk = .error error ∧
      Kept disk ((work.run tools faults request).final disk) ∧
      (disk.staged = none → ((work.run tools faults request).final disk).staged = none) := by
  have hbegins := prelude_decides faults request work disk rfl
  cases hprelude : (work.prelude tools faults request).result disk with
  | error error =>
      have huntouched := (hbegins.2 error hprelude).2
      obtain ⟨hwrites, hresult⟩ :=
        bind_of_error (fun prepared => work.publish tools faults prepared.1 prepared.2) hprelude
      refine ⟨error, hresult, ?_, ?_⟩ <;> rw [Work.run, final, hwrites]
      · exact huntouched.toKept
      · exact fun hnone => huntouched.staged.trans hnone
  | ok prepared =>
      obtain ⟨context, count⟩ := prepared
      obtain ⟨⟨⟨hopened, hmade, -⟩, -⟩, hmode, hbegun, huntouched⟩ := hbegins.1 _ hprelude
      obtain ⟨-, hresult, hfinal⟩ :=
        bind_of_ok (fun prepared => work.publish tools faults prepared.1 prepared.2) hprelude
      have hstages := stage_decides context faults count work
        ((work.prelude tools faults request).final disk) rfl
      cases hstage : (work.stage tools faults context count).result
          ((work.prelude tools faults request).final disk) with
      | ok staged =>
          obtain ⟨⟨bytes, digest, hstaged, hmeasured, hmoves⟩, -⟩ := hstages.1 _ hstage
          rw [huntouched.published] at hmeasured hmoves
          exact absurd hmoves (hnever context bytes digest
            ⟨hmode, hopened, hmade, ⟨_, count, hbegun, hstaged⟩, hmeasured⟩)
      | error error =>
          have hkept := (hstages.2 _ hstage).2
          have hpublish := publish_of_stage_error hstage
          refine ⟨error, hresult.trans hpublish.1, ?_, ?_⟩ <;> rw [Work.run, hfinal, hpublish.2]
          · exact (huntouched.toKept.trans hkept).stage none
          · exact fun _ => rfl

end Runs

end DataSluice.Sync.Materialize
