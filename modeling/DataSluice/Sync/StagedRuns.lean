/-
# Runs that stage batches

A run over a PARQUET file puts a shard and a checkpoint in place for each batch. Its first
checkpoint replaces the stored state by one without a record, and from there on nothing that is
stored can be wrong about the file. A run with no batch left stores no checkpoint: it moves the
file of its shards into place over whatever record is stored.
-/

import DataSluice.Sync.RunEnds

namespace DataSluice.Sync

open DataSluice.Lib

variable {Schema Row Version : Type}

/-! ## Batches -/

section Batches

open Durable

variable {codec : Codec Schema Row} {site : Site} {start : Destination Schema Row Version}

theorem requireCheckpointShards_decides (count : Nat) :
    Decides (∀ index < count, (start.shards index).isSome = true)
      (fun destination => destination = start) (requireCheckpointShards count)
      (fun _ final => final = start) (fun final => final = start) := by
  apply Decides.read.true_bind
  intro destination
  apply Decides.assume (A := destination = start)
  · rintro _ ⟨rfl, rfl⟩
    rfl
  rintro rfl
  split
  next index hfound =>
    apply Decides.fail _ fun _ hpre => hpre.2
    intro hthere
    have hmissing := List.find?_some hfound
    rw [Option.isNone_iff_eq_none] at hmissing
    have hpresent := hthere index (List.mem_range.mp (List.mem_of_find?_eq_some hfound))
    rw [hmissing] at hpresent
    cases hpresent
  next hfound =>
    apply Decides.pure _ fun _ hpre => hpre.2
    intro index hindex
    have hpresent := List.find?_eq_none.mp hfound index (List.mem_range.mpr hindex)
    simpa [Option.isSome_iff_ne_none] using hpresent

/-- Putting a shard in place keeps what is not about shards. -/
theorem publishBatchShard_decides [DecidableEq Version] {P : Destination Schema Row Version → Prop}
    (raises : Call → Option String) (version : Option Version) (index : Nat)
    (shard : Table Schema Row)
    (hput : ∀ destination, P destination → P (destination.putShard version index shard))
    (hremove : ∀ destination, P destination → P (destination.removeShard index)) :
    Decides (raises (.publishShard index) = none) P (publishBatchShard raises version index shard)
      (fun _ => P) P := by
  have hrest : Decides (raises (.publishShard index) = none) P
      (do
        perform raises (.publishShard index)
        Durable.write (·.putShard version index shard)) (fun _ => P) P := by
    apply perform_decides.bind_true
    intro _ _
    exact .write hput
  apply Decides.read.true_bind
  intro destination
  apply Decides.weaken (P := P) _ (fun _ hpre => hpre.2) (fun _ _ _ hpost => hpost)
    fun _ hfailed => hfailed
  split
  · apply Decides.true_bind (R := fun _ => P)
    · exact .write hremove
    · exact fun _ => hrest
  · exact hrest

variable [DecidableEq Schema]

end Batches

/-! ## How such a run ends -/

section Staged

open Durable

variable [DecidableEq Version] {codec : Codec Schema Row} {site : Site}
  {input : RunInput Schema Row Version} {start : Destination Schema Row Version}
  {reading : ConditionalRead Schema Row}

/-- What is left to stage is determined. -/
theorem Opens.unique {source other : SourceView Schema Row Version} {count number : Nat}
    {stream batches : List (List Row × Nat)}
    (hfirst : Opens codec site input start source count stream)
    (hsecond : Opens codec site input start other number batches) :
    source = other ∧ count = number ∧ stream = batches := by
  obtain ⟨resumable, rowGroup, action, haccess, hpoint, hstream⟩ := hfirst
  obtain ⟨again, group, same, hagain, hsame, hbatches⟩ := hsecond
  cases haccess.symm.trans hagain
  cases hpoint.symm.trans hsame
  cases hstream.symm.trans hbatches
  exact ⟨rfl, rfl, rfl⟩

variable [DecidableEq Schema]

end Staged

end DataSluice.Sync
