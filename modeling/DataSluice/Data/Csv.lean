/-
# Re-chunking of the streaming CSV reader

`_rechunk_reader` re-cuts the record batches of the upstream CSV reader to a row
count. What is left over is carried to the next batch as a table of several
chunks, and a full head is handed out as `head.to_batches()[0]`: the batch of its
first chunk. The rows of a head that spans two chunks are therefore not all
handed out.

The generator is the list of the batches it yields. A table is `Lib.Chunked`.
-/

import Mathlib.Algebra.Ring.Int.Defs
import Mathlib.Tactic.Ring
import DataSluice.Lib.Chunked

namespace DataSluice.Data.Csv

open DataSluice.Lib

/-- The error of the format readers. -/
structure FormatError where
  message : String
  deriving DecidableEq

/-- The `batch_size` argument: an `int`, or a value of any other type. -/
inductive BatchSize
  | int (value : Int)
  | other

variable {Row : Type}

/-- The `while` loop: hand out a batch as long as a full head is there. A head of
`size` rows has a first chunk, so the default is never taken. -/
def drainFull (size : Nat) (hsize : 0 < size) (current : Chunked Row) :
    List (List Row) × Chunked Row :=
  if _hfull : size ≤ current.numRows then
    let rest := drainFull size hsize (current.tail size)
    ((current.head size).toBatches.headD [] :: rest.1, rest.2)
  else ([], current)
termination_by current.numRows
decreasing_by
  rw [Chunked.numRows_tail]
  omega

/-- The carried table, with the rows of one more batch. -/
def appendPending (pending : Option (Chunked Row)) (batch : List Row) (hbatch : batch ≠ []) :
    Chunked Row :=
  match pending with
  | none => .ofBatch batch hbatch
  | some table => table.concat (.ofBatch batch hbatch)

/-- What is left of a batch is carried on unless it is empty. -/
def keepPending (current : Chunked Row) : Option (Chunked Row) :=
  if 0 < current.numRows then some current else none

/-- The `for` loop over the upstream batches, with what it carries. -/
def rechunkFrom (size : Nat) (hsize : 0 < size) :
    Option (Chunked Row) → List (List Row) → List (List Row)
  | none, [] => []
  | some table, [] => if 0 < table.numRows then table.toBatches else []
  | pending, [] :: reader => rechunkFrom size hsize pending reader
  | pending, (row :: rows) :: reader =>
      let drained := drainFull size hsize
        (appendPending pending (row :: rows) (List.cons_ne_nil row rows))
      drained.1 ++ rechunkFrom size hsize (keepPending drained.2) reader

/-- Drain a reader and re-chunk it into `batch_size`-row batches. -/
def rechunkReader (reader : List (List Row)) : BatchSize → Except FormatError (List (List Row))
  | .other => .error ⟨"CSV batch_size must be a positive integer"⟩
  | .int value =>
      if hpos : 0 < value then
        .ok (rechunkFrom value.toNat (by omega) none reader)
      else .error ⟨"CSV batch_size must be a positive integer"⟩

/-! ## The inner loop -/

variable {size : Nat} (hsize : 0 < size)

theorem drainFull_of_full {current : Chunked Row} (hfull : size ≤ current.numRows) :
    drainFull size hsize current =
      ((current.head size).toBatches.headD [] :: (drainFull size hsize (current.tail size)).1,
        (drainFull size hsize (current.tail size)).2) := by
  rw [drainFull, dif_pos hfull]

theorem drainFull_of_short {current : Chunked Row} (hshort : current.numRows < size) :
    drainFull size hsize current = ([], current) := by
  rw [drainFull, dif_neg (Nat.not_le_of_lt hshort)]

include hsize in
/-- What one iteration hands out: the part of the first chunk inside the head. -/
theorem headD_head (table : Chunked Row) :
    (table.head size).toBatches.headD [] = (table.chunks.headD []).take size := by
  obtain ⟨count, rfl⟩ := Nat.exists_eq_succ_of_ne_zero (Nat.ne_of_gt hsize)
  rcases table with ⟨_ | ⟨chunk, chunks⟩, hnonempty⟩
  · rfl
  · rfl

/-- The rows of the remainder are those after the last full head. -/
theorem drainFull_snd (current : Chunked Row) :
    (drainFull size hsize current).2.numRows = current.numRows % size := by
  induction current using drainFull.induct size hsize with
  | case1 current hfull ih =>
      rw [drainFull_of_full hsize hfull, ih, Chunked.numRows_tail, ← Nat.mod_eq_sub_mod hfull]
  | case2 current hshort =>
      have hlt := Nat.lt_of_not_le hshort
      rw [drainFull_of_short hsize hlt, Nat.mod_eq_of_lt hlt]

/-- Nothing is handed out twice. -/
theorem length_drainFull_le (current : Chunked Row) :
    (drainFull size hsize current).1.flatten.length +
      (drainFull size hsize current).2.numRows ≤ current.numRows := by
  induction current using drainFull.induct size hsize with
  | case1 current hfull ih =>
      rw [Chunked.numRows_tail] at ih
      have hhead : ((current.head size).toBatches.headD []).length ≤ size := by
        rw [headD_head hsize]
        exact List.length_take_le _ _
      rw [drainFull_of_full hsize hfull]
      simp only [List.flatten_cons, List.length_append]
      omega
  | case2 current hshort =>
      rw [drainFull_of_short hsize (Nat.lt_of_not_le hshort)]
      simp

/-- No batch of the loop is longer than `size`. -/
theorem length_mem_drainFull (current : Chunked Row) :
    ∀ batch ∈ (drainFull size hsize current).1, batch.length ≤ size := by
  induction current using drainFull.induct size hsize with
  | case1 current hfull ih =>
      rw [drainFull_of_full hsize hfull]
      intro batch hbatch
      rcases List.mem_cons.mp hbatch with rfl | hrest
      · rw [headD_head hsize]
        exact List.length_take_le _ _
      · exact ih batch hrest
  | case2 current hshort =>
      rw [drainFull_of_short hsize (Nat.lt_of_not_le hshort)]
      simp

/-- A table of a single chunk loses nothing. -/
theorem drainFull_of_single (current : Chunked Row) (hsingle : current.chunks.length ≤ 1) :
    (drainFull size hsize current).1.flatten ++ (drainFull size hsize current).2.rows =
      current.rows := by
  induction current using drainFull.induct size hsize with
  | case1 current hfull ih =>
      have htail : (current.tail size).chunks.length ≤ 1 :=
        (Chunked.length_dropRows_le size current.chunks).trans hsingle
      have hhead : (current.head size).toBatches.headD [] = current.rows.take size := by
        rw [headD_head hsize, Chunked.headD_chunks_of_single hsingle]
      rw [drainFull_of_full hsize hfull]
      simp only [List.flatten_cons, List.append_assoc]
      rw [ih htail, hhead, Chunked.rows_tail, List.take_append_drop]
  | case2 current hshort =>
      rw [drainFull_of_short hsize (Nat.lt_of_not_le hshort)]
      simp

/-- A head that starts in a chunk shorter than itself is not handed out whole. -/
theorem length_drainFull_lt {current : Chunked Row} (hfull : size ≤ current.numRows)
    (hcut : (current.chunks.headD []).length < size) :
    (drainFull size hsize current).1.flatten.length +
      (drainFull size hsize current).2.numRows < current.numRows := by
  have hrest : (drainFull size hsize (current.tail size)).1.flatten.length +
      (drainFull size hsize (current.tail size)).2.numRows ≤ current.numRows - size := by
    rw [← Chunked.numRows_tail]
    exact length_drainFull_le hsize (current.tail size)
  have hhead : ((current.head size).toBatches.headD []).length < size := by
    calc ((current.head size).toBatches.headD []).length
      _ = ((current.chunks.headD []).take size).length := by rw [headD_head hsize]
      _ ≤ (current.chunks.headD []).length := List.length_take_le' _ _
      _ < size := hcut
  rw [drainFull_of_full hsize hfull]
  simp only [List.flatten_cons, List.length_append]
  omega

/-! ## The outer loop -/

/-- The rows carried to the next batch. -/
def carried : Option (Chunked Row) → List Row
  | none => []
  | some table => table.rows

/-- What is carried is never empty, and never a full head. -/
def CarriesPart (size : Nat) (pending : Option (Chunked Row)) : Prop :=
  ∀ table, pending = some table → 0 < table.numRows ∧ table.numRows < size

theorem rows_appendPending (pending : Option (Chunked Row)) (batch : List Row)
    (hbatch : batch ≠ []) :
    (appendPending pending batch hbatch).rows = carried pending ++ batch := by
  cases pending with
  | none => simp [appendPending, carried]
  | some table => simp [appendPending, carried]

/-- The carried rows after the inner loop. -/
theorem carriesPart_drainFull (current : Chunked Row) :
    CarriesPart size (keepPending (drainFull size hsize current).2) := by
  intro table htable
  rw [keepPending] at htable
  split at htable
  · rename_i hrows
    cases htable
    refine ⟨hrows, ?_⟩
    rw [drainFull_snd]
    exact Nat.mod_lt _ hsize
  · cases htable

theorem carried_keepPending (current : Chunked Row) :
    carried (keepPending current) = current.rows := by
  rw [keepPending]
  split
  · rfl
  · rename_i hnone
    exact (List.eq_nil_of_length_eq_zero (Nat.eq_zero_of_not_pos hnone)).symm

theorem rechunkFrom_cons (pending : Option (Chunked Row)) {batch : List Row}
    (hbatch : batch ≠ []) (reader : List (List Row)) :
    rechunkFrom size hsize pending (batch :: reader) =
      (drainFull size hsize (appendPending pending batch hbatch)).1 ++
        rechunkFrom size hsize
          (keepPending (drainFull size hsize (appendPending pending batch hbatch)).2) reader := by
  cases batch with
  | nil => exact absurd rfl hbatch
  | cons row rows => rw [rechunkFrom]

theorem rechunkFrom_nil_cons (pending : Option (Chunked Row)) (reader : List (List Row)) :
    rechunkFrom size hsize pending ([] :: reader) = rechunkFrom size hsize pending reader := by
  cases pending <;> rw [rechunkFrom]

theorem flatten_rechunkFrom_nil (pending : Option (Chunked Row)) :
    (rechunkFrom size hsize pending []).flatten = carried pending := by
  cases pending with
  | none => simp [rechunkFrom, carried]
  | some table =>
      rw [rechunkFrom]
      split
      · rfl
      · rename_i hnone
        exact (List.eq_nil_of_length_eq_zero (Nat.eq_zero_of_not_pos hnone)).symm

/-- Nothing is yielded twice. -/
theorem length_rechunkFrom_le (pending : Option (Chunked Row)) (reader : List (List Row)) :
    (rechunkFrom size hsize pending reader).flatten.length ≤
      (carried pending).length + reader.flatten.length := by
  induction reader generalizing pending with
  | nil => simp [flatten_rechunkFrom_nil]
  | cons batch reader ih =>
      by_cases hbatch : batch = []
      · rw [hbatch, rechunkFrom_nil_cons]
        exact ih pending
      · rw [rechunkFrom_cons hsize pending hbatch]
        generalize hcurrent : appendPending pending batch hbatch = current
        have hrest := ih (keepPending (drainFull size hsize current).2)
        rw [carried_keepPending] at hrest
        have hdrained := length_drainFull_le hsize current
        have hrows : current.numRows = (carried pending).length + batch.length := by
          rw [← hcurrent, Chunked.numRows, rows_appendPending, List.length_append]
        simp only [List.flatten_append, List.length_append, List.flatten_cons,
          Chunked.numRows] at hdrained hrows ⊢
        omega

/-- No yielded batch is longer than `size`. -/
theorem length_mem_rechunkFrom {pending : Option (Chunked Row)} (hpart : CarriesPart size pending)
    (reader : List (List Row)) :
    ∀ batch ∈ rechunkFrom size hsize pending reader, batch.length ≤ size := by
  induction reader generalizing pending with
  | nil =>
      intro batch hbatch
      cases pending with
      | none => simp [rechunkFrom] at hbatch
      | some table =>
          obtain ⟨hrows, hlt⟩ := hpart table rfl
          rw [rechunkFrom, if_pos hrows] at hbatch
          exact (Chunked.length_le_numRows hbatch).trans hlt.le
  | cons upstream reader ih =>
      by_cases hupstream : upstream = []
      · rw [hupstream, rechunkFrom_nil_cons]
        exact ih hpart
      · rw [rechunkFrom_cons hsize pending hupstream]
        intro batch hbatch
        rcases List.mem_append.mp hbatch with hfull | hrest
        · exact length_mem_drainFull hsize _ batch hfull
        · exact ih (carriesPart_drainFull hsize _) batch hrest

/-- Every batch that starts in the middle of a head ends before that head does.
`offset` rows come before the first batch. -/
def AlignedFrom (size offset : Nat) (reader : List (List Row)) : Prop :=
  ∀ before batch after, reader = before ++ batch :: after →
    size ∣ offset + before.flatten.length ∨
      (offset + before.flatten.length) % size + batch.length < size

theorem alignedFrom_cons (offset : Nat) (batch : List Row) (reader : List (List Row)) :
    AlignedFrom size offset (batch :: reader) ↔
      (size ∣ offset ∨ offset % size + batch.length < size) ∧
        AlignedFrom size (offset + batch.length) reader := by
  refine ⟨fun haligned => ⟨haligned [] batch reader rfl, ?_⟩, ?_⟩
  · intro before next after hreader
    have hnext := haligned (batch :: before) next after (by rw [hreader]; rfl)
    simpa [Nat.add_assoc] using hnext
  · rintro ⟨hfirst, hrest⟩ before next after hreader
    cases before with
    | nil =>
        cases hreader
        exact hfirst
    | cons first before =>
        cases hreader
        simpa [Nat.add_assoc] using hrest before next after rfl

theorem alignedFrom_mod (offset : Nat) (reader : List (List Row)) :
    AlignedFrom size (offset % size) reader ↔ AlignedFrom size offset reader := by
  have hmod : ∀ count, (offset % size + count) % size = (offset + count) % size :=
    fun count => Nat.mod_add_mod offset size count
  simp only [AlignedFrom, Nat.dvd_iff_mod_eq_zero, hmod]

/-- The first chunk of a carried table stays the first one. -/
theorem length_headD_concat_le (table other : Chunked Row) (hpos : 0 < table.numRows) :
    ((table.concat other).chunks.headD []).length ≤ table.numRows := by
  obtain ⟨chunk, chunks, hchunks⟩ := List.exists_cons_of_ne_nil (Chunked.chunks_ne_nil hpos)
  have hhead : (table.concat other).chunks.headD [] = chunk := by
    simp [Chunked.concat, hchunks]
  rw [hhead]
  exact Chunked.length_le_numRows (by simp [hchunks])

/-- One batch is cut without loss exactly when it starts on a head boundary, or
ends before the head it starts in. -/
theorem drainFull_appendPending_iff {pending : Option (Chunked Row)}
    (hpart : CarriesPart size pending) {batch : List Row} (hbatch : batch ≠ []) :
    let drained := drainFull size hsize (appendPending pending batch hbatch)
    (drained.1.flatten ++ drained.2.rows = carried pending ++ batch ↔
        size ∣ (carried pending).length ∨
          (carried pending).length % size + batch.length < size) ∧
      (¬ drained.1.flatten ++ drained.2.rows = carried pending ++ batch →
        drained.1.flatten.length + drained.2.rows.length <
          (carried pending).length + batch.length) := by
  intro drained
  have hrows := rows_appendPending pending batch hbatch
  cases pending with
  | none =>
      have hwhole : drained.1.flatten ++ drained.2.rows = carried none ++ batch :=
        (drainFull_of_single hsize _ (by simp [appendPending, Chunked.ofBatch])).trans hrows
      refine ⟨⟨fun _ => .inl (Nat.dvd_zero size), fun _ => hwhole⟩, fun hlost => ?_⟩
      exact absurd hwhole hlost
  | some table =>
      obtain ⟨hpos, hlt⟩ := hpart table rfl
      have hlength : (carried (some table)).length = table.numRows := rfl
      have htotal : (appendPending (some table) batch hbatch).numRows =
          table.numRows + batch.length := by
        rw [Chunked.numRows, hrows, List.length_append, hlength]
      rw [hlength, Nat.mod_eq_of_lt hlt]
      by_cases hshort : table.numRows + batch.length < size
      · have hwhole : drained.1.flatten ++ drained.2.rows = carried (some table) ++ batch := by
          rw [show drained = _ from drainFull_of_short hsize (htotal ▸ hshort)]
          simpa using hrows
        refine ⟨⟨fun _ => .inr hshort, fun _ => hwhole⟩, fun hlost => ?_⟩
        exact absurd hwhole hlost
      · have hcut : ((appendPending (some table) batch hbatch).chunks.headD []).length < size :=
          (length_headD_concat_le table _ hpos).trans_lt hlt
        have hloss := length_drainFull_lt hsize (htotal ▸ Nat.le_of_not_lt hshort) hcut
        rw [htotal] at hloss
        refine ⟨⟨fun hwhole => ?_, fun halign => ?_⟩, fun _ => hloss⟩
        · have hsame := congrArg List.length hwhole
          rw [List.length_append, List.length_append, hlength] at hsame
          exact absurd hsame (Nat.ne_of_lt hloss)
        · rcases halign with hdvd | halign
          · exact absurd (Nat.le_of_dvd hpos hdvd) (Nat.not_le_of_lt hlt)
          · exact absurd halign hshort

theorem flatten_rechunkFrom_iff {pending : Option (Chunked Row)}
    (hpart : CarriesPart size pending) (reader : List (List Row)) :
    (rechunkFrom size hsize pending reader).flatten = carried pending ++ reader.flatten ↔
      AlignedFrom size (carried pending).length reader := by
  induction reader generalizing pending with
  | nil =>
      refine ⟨fun _ before batch after hnil => ?_, fun _ => ?_⟩
      · cases before <;> cases hnil
      · simp [flatten_rechunkFrom_nil]
  | cons batch reader ih =>
      by_cases hbatch : batch = []
      · have hlt : (carried pending).length % size < size := Nat.mod_lt _ hsize
        rw [hbatch, rechunkFrom_nil_cons, alignedFrom_cons]
        simpa [hlt] using ih hpart
      · rw [rechunkFrom_cons hsize pending hbatch, alignedFrom_cons]
        obtain ⟨hwhole, hloss⟩ := drainFull_appendPending_iff hsize hpart hbatch
        have hrest := ih (carriesPart_drainFull hsize (appendPending pending batch hbatch))
        have hcount := drainFull_snd hsize (appendPending pending batch hbatch)
        rw [Chunked.numRows, Chunked.numRows, rows_appendPending, List.length_append] at hcount
        rw [carried_keepPending, hcount, alignedFrom_mod] at hrest
        rw [← hwhole, ← hrest, List.flatten_append, List.flatten_cons]
        generalize drainFull size hsize (appendPending pending batch hbatch) = drained at *
        refine ⟨fun hout => ?_, fun hboth => ?_⟩
        · by_cases hkept : drained.1.flatten ++ drained.2.rows = carried pending ++ batch
          · refine ⟨hkept, ?_⟩
            rw [← List.append_assoc, ← hkept, List.append_assoc] at hout
            exact List.append_cancel_left hout
          · have hshort := hloss hkept
            have hle := length_rechunkFrom_le hsize (keepPending drained.2) reader
            rw [carried_keepPending] at hle
            have hsame := congrArg List.length hout
            simp only [List.length_append] at hsame
            omega
        · rw [hboth.2, ← List.append_assoc, ← List.append_assoc, hboth.1]

/-- The batches yielded for a positive batch size carry the rows of the reader,
none of them longer than asked for, exactly when every upstream batch that starts
in the middle of a `batch_size`-row head ends before that head is full. -/
theorem rechunkReader_keeps_rows_iff (reader : List (List Row)) (batchSize : Int)
    (hpos : 0 < batchSize) :
    (∃ batches, rechunkReader reader (.int batchSize) = .ok batches ∧
        batches.flatten = reader.flatten ∧
        ∀ batch ∈ batches, (batch.length : Int) ≤ batchSize) ↔
      ∀ before batch after, reader = before ++ batch :: after →
        batchSize ∣ (before.flatten.length : Int) ∨
          (before.flatten.length : Int) % batchSize + batch.length < batchSize := by
  obtain ⟨size, rfl⟩ := Int.eq_ofNat_of_zero_le hpos.le
  have hsize : 0 < size := Int.natCast_pos.mp hpos
  have hpart : CarriesPart size (none : Option (Chunked Row)) := fun _ hnone => by cases hnone
  have halign : AlignedFrom size 0 reader ↔ ∀ before batch after,
      reader = before ++ batch :: after → (size : Int) ∣ (before.flatten.length : Int) ∨
        (before.flatten.length : Int) % size + batch.length < size := by
    simp only [AlignedFrom, Nat.zero_add, Int.natCast_dvd_natCast]
    norm_cast
  have hrows := flatten_rechunkFrom_iff hsize hpart reader
  rw [carried, List.nil_append, List.length_nil] at hrows
  rw [← halign, ← hrows]
  have hrun : rechunkReader reader (.int size) = .ok (rechunkFrom size hsize none reader) := by
    simp [rechunkReader, hsize]
  refine ⟨?_, fun hsame => ⟨_, hrun, hsame, ?_⟩⟩
  · rintro ⟨batches, hbatches, hsame, -⟩
    cases hrun.symm.trans hbatches
    exact hsame
  · intro batch hbatch
    exact_mod_cast length_mem_rechunkFrom hsize hpart reader batch hbatch

/-- A first batch of five rows fills one head of four; the two batches after it
stay inside the second head, which the reader never fills. -/
theorem rechunkReader_keeps_aligned_rows :
    ∃ batches, rechunkReader [[1, 2, 3, 4, 5], [], [6, 7]] (.int 4) = .ok batches ∧
      batches.flatten = [1, 2, 3, 4, 5, 6, 7] ∧ ∀ batch ∈ batches, (batch.length : Int) ≤ 4 := by
  refine (rechunkReader_keeps_rows_iff [[1, 2, 3, 4, 5], [], [6, 7]] 4 (by decide)).mpr ?_
  intro before batch after hreader
  rcases before with _ | ⟨first, _ | ⟨second, _ | ⟨third, before⟩⟩⟩
  · exact .inl (by decide)
  · cases hreader
    exact .inr (by decide)
  · cases hreader
    exact .inr (by decide)
  · simp at hreader

/-- Two upstream batches of three rows, cut to four: the head spans both, only the
rows of the first batch are yielded of it, and the fourth row is lost. -/
theorem rechunkReader_loses_row :
    ¬ ∀ (reader : List (List Nat)) (batchSize : Int), 0 < batchSize →
      ∃ batches, rechunkReader reader (.int batchSize) = .ok batches ∧
        batches.flatten = reader.flatten ∧
        ∀ batch ∈ batches, (batch.length : Int) ≤ batchSize := by
  intro hclaim
  obtain ⟨batches, hbatches, hrows, -⟩ := hclaim [[1, 2, 3], [4, 5, 6]] 4 (by decide)
  have hyielded : rechunkReader [[1, 2, 3], [4, 5, 6]] (.int 4) = .ok [[1, 2, 3], [5, 6]] := by
    decide +kernel
  rw [hyielded] at hbatches
  cases hbatches
  cases hrows

end DataSluice.Data.Csv
