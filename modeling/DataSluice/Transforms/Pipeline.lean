/-
# Pipelines

`Pipeline.run` threads the batches of a stream through the steps from left to right and
wraps what comes out in a new stream, whose schema is the one of the first batch. The
context is built once, from the schema of the stream that enters, and every step is
handed the same one.

Running two pipelines after each other builds a second context in between. The two ways
differ in the column checks of the second pipeline only: in one run these look at the
columns of the original stream, whatever the steps before have made of them.
-/

import DataSluice.Transforms.Steps

namespace DataSluice.Transforms

open DataSluice.Lib DataSluice.Data

variable {Expression Column : Type}

/-- Streams that steps are run over. -/
abbrev Stream (Column : Type) := BatchStream StepError Schema (RecordBatch Column)

/-- The ordered steps of a pipeline. -/
structure Pipeline (Expression : Type) where
  steps : List (TransformStep Expression)

namespace Pipeline

variable (arrow : Arrow Expression Column)

/-- Thread batches through steps, all with one context. -/
def thread (context : Schema) (steps : List (TransformStep Expression))
    (batches : RecordBatches Column) : RecordBatches Column :=
  steps.foldl (fun batches step => step.apply arrow batches context) batches

/-- `_build_batch_stream`: pull the first batch for its schema, and put it back. -/
def buildBatchStream :
    RecordBatches Column → Except (StreamError StepError) (Stream Column)
  | .stop => .ok { source := .iterator .stop, schema := [] }
  | .raise error => .error error
  | .yield first rest =>
      .ok { source := .iterator (.yield first rest), schema := first.schema }

/-- `run` -/
def run (pipeline : Pipeline Expression) (stream : Stream Column) :
    Except (StreamError StepError) (Stream Column) :=
  buildBatchStream (thread arrow stream.schema pipeline.steps stream.iterBatches)

/-! ## What running a pipeline comes to -/

/-- All batches that a run gives to its consumer. -/
def batches : Except (StreamError StepError) (Stream Column) → List (RecordBatch Column)
  | .error _ => []
  | .ok stream => stream.iterBatches.values

/-- Whether a run fails, at once or while its stream is consumed. -/
def fails : Except (StreamError StepError) (Stream Column) → Bool
  | .error _ => true
  | .ok stream => stream.iterBatches.fails

/-- Two runs give the same batches, and one fails exactly when the other does. -/
def SameOutcome (first second : Except (StreamError StepError) (Stream Column)) : Prop :=
  batches first = batches second ∧ fails first = fails second

@[simp] theorem batches_buildBatchStream (generator : RecordBatches Column) :
    batches (buildBatchStream generator) = generator.values := by
  cases generator with
  | stop => rfl
  | raise error => rfl
  | yield first rest => rfl

@[simp] theorem fails_buildBatchStream (generator : RecordBatches Column) :
    fails (buildBatchStream generator) = generator.fails := by
  cases generator with
  | stop => rfl
  | raise error => rfl
  | yield first rest => rfl

/-- A stream with a first batch is built over the generator itself. -/
theorem iterBatches_of_buildBatchStream {generator : RecordBatches Column} {stream : Stream Column}
    (hbuilt : buildBatchStream generator = .ok stream) : stream.iterBatches = generator := by
  cases generator with
  | stop =>
      cases hbuilt
      rfl
  | raise error => cases hbuilt
  | yield first rest =>
      cases hbuilt
      rfl

/-! ## Column checks -/

/-- Every column that one of the steps asks for is among the columns of the schema. -/
def ChecksPass (steps : List (TransformStep Expression)) (schema : Schema) : Prop :=
  ∀ step ∈ steps, step.columnCheck schema = .ok ()

/-- The steps without their column checks. -/
def threadUnchecked (steps : List (TransformStep Expression))
    (batches : RecordBatches Column) : RecordBatches Column :=
  steps.foldl (fun batches step => step.onBatches arrow batches) batches

/-- An exception goes through every step: no step catches what it pulls. -/
theorem failsAtOnce_apply (step : TransformStep Expression) (error : StreamError StepError)
    (context : Schema) :
    (step.apply arrow (.raise error : RecordBatches Column) context).failsAtOnce = true := by
  unfold TransformStep.apply
  split
  · rfl
  · unfold TransformStep.onBatches
    split
    · split
      · rfl
      · rfl
    · rfl

theorem failsAtOnce_thread (context : Schema) (steps : List (TransformStep Expression))
    {batches : RecordBatches Column} (hfails : batches.failsAtOnce = true) :
    (thread arrow context steps batches).failsAtOnce = true := by
  induction steps generalizing batches with
  | nil => exact hfails
  | cons step steps ih =>
      apply ih
      cases batches with
      | stop => cases hfails
      | raise error => exact failsAtOnce_apply arrow step error context
      | yield first rest => cases hfails

/-- When all checks pass, the context does not matter. -/
theorem thread_of_checksPass {context : Schema} {steps : List (TransformStep Expression)}
    (hpass : ChecksPass steps context) (batches : RecordBatches Column) :
    thread arrow context steps batches = threadUnchecked arrow steps batches := by
  induction steps generalizing batches with
  | nil => rfl
  | cons step steps ih =>
      have hstep : step.apply arrow batches context = step.onBatches arrow batches := by
        rw [TransformStep.apply, hpass step List.mem_cons_self]
      show thread arrow context steps (step.apply arrow batches context) =
        threadUnchecked arrow steps (step.onBatches arrow batches)
      rw [hstep]
      apply ih
      intro other hother
      exact hpass other (List.mem_cons_of_mem step hother)

/-- A check that does not pass fails the whole run before its first batch. -/
theorem failsAtOnce_thread_of_not_checksPass {context : Schema}
    {steps : List (TransformStep Expression)} (hcheck : ¬ ChecksPass steps context)
    (batches : RecordBatches Column) :
    (thread arrow context steps batches).failsAtOnce = true := by
  induction steps generalizing batches with
  | nil => exact absurd (fun step hstep => absurd hstep List.not_mem_nil) hcheck
  | cons step steps ih =>
      show (thread arrow context steps (step.apply arrow batches context)).failsAtOnce = true
      by_cases hrest : ChecksPass steps context
      · apply failsAtOnce_thread
        have hstep : step.columnCheck context ≠ .ok () := by
          intro hok
          apply hcheck
          intro other hother
          rcases List.mem_cons.mp hother with rfl | hlater
          · exact hok
          · exact hrest other hlater
        unfold TransformStep.apply
        split
        · rfl
        · next hok => exact absurd hok hstep
      · exact ih hrest _

/-! ## Composition -/

/-- Steps after steps thread what the first ones yield. -/
theorem thread_append (context : Schema) (first second : List (TransformStep Expression))
    (batches : RecordBatches Column) :
    thread arrow context (first ++ second) batches =
      thread arrow context second (thread arrow context first batches) := by
  rw [thread, List.foldl_append]
  rfl

/-- Running `xs ++ ys` comes to the same as running `ys` over what `xs` gives, exactly
when the column checks of `ys` fare alike on the two schemas, or `ys` fails before its
first batch without them too. -/
theorem sameOutcome_run_append_iff (xs ys : List (TransformStep Expression))
    (stream middle : Stream Column) (hmiddle : run arrow ⟨xs⟩ stream = .ok middle) :
    SameOutcome (run arrow ⟨xs ++ ys⟩ stream) (run arrow ⟨xs⟩ stream >>= run arrow ⟨ys⟩) ↔
      (ChecksPass ys stream.schema ↔ ChecksPass ys middle.schema) ∨
        (threadUnchecked arrow ys middle.iterBatches).failsAtOnce = true := by
  -- Both runs thread the same batches through `ys`, under the two schemas.
  have hbatches := iterBatches_of_buildBatchStream hmiddle
  have hone : run arrow ⟨xs ++ ys⟩ stream =
      buildBatchStream (thread arrow stream.schema ys middle.iterBatches) := by
    calc run arrow ⟨xs ++ ys⟩ stream
      _ = buildBatchStream (thread arrow stream.schema (xs ++ ys) stream.iterBatches) := rfl
      _ = buildBatchStream (thread arrow stream.schema ys
            (thread arrow stream.schema xs stream.iterBatches)) := by rw [thread_append]
      _ = buildBatchStream (thread arrow stream.schema ys middle.iterBatches) := by rw [hbatches]
  have htwo : run arrow ⟨xs⟩ stream >>= run arrow ⟨ys⟩ =
      buildBatchStream (thread arrow middle.schema ys middle.iterBatches) := by
    rw [hmiddle]
    rfl
  rw [hone, htwo, SameOutcome, batches_buildBatchStream, batches_buildBatchStream,
    fails_buildBatchStream, fails_buildBatchStream]
  by_cases hstream : ChecksPass ys stream.schema
  · rw [thread_of_checksPass arrow hstream]
    by_cases hnext : ChecksPass ys middle.schema
    · rw [thread_of_checksPass arrow hnext]
      simp [hstream, hnext]
    · have hraised := failsAtOnce_thread_of_not_checksPass arrow hnext middle.iterBatches
      obtain ⟨hvalues, hfails⟩ := (Generator.failsAtOnce_iff _).mp hraised
      rw [hvalues, hfails, ← Generator.failsAtOnce_iff]
      simp [hstream, hnext]
  · have hraised := failsAtOnce_thread_of_not_checksPass arrow hstream middle.iterBatches
    obtain ⟨hvalues, hfails⟩ := (Generator.failsAtOnce_iff _).mp hraised
    rw [hvalues, hfails]
    by_cases hnext : ChecksPass ys middle.schema
    · rw [thread_of_checksPass arrow hnext, eq_comm, eq_comm (a := true),
        ← Generator.failsAtOnce_iff]
      simp [hstream, hnext]
    · have hlater := failsAtOnce_thread_of_not_checksPass arrow hnext middle.iterBatches
      obtain ⟨hempty, hends⟩ := (Generator.failsAtOnce_iff _).mp hlater
      rw [hempty, hends]
      simp [hstream, hnext]

/-! ## A renamed column -/

/-- Columns of integers, of which no computation is needed. -/
def intArrow : Arrow Unit (List Int) where
  filter _ batch := .ok batch
  cast column _ := .ok column
  assumeTimezone column _ := .ok column
  structField column _ := .ok column
  type _ := .other "int64"
  nullCount _ := 0
  length := List.length

/-- A stream with one batch, which has one column of two rows. -/
def oneColumn (name : String) : Stream (List Int) where
  source := .iterator (.yield ⟨[(⟨name, .other "int64", true⟩, [1, 2])], 2⟩ .stop)
  schema := [⟨name, .other "int64", true⟩]

/-- `RenameColumns({"value": "amount"})` -/
def renameValue : TransformStep Unit := .renameColumns [("value", "amount")]

/-- `SelectColumns(("amount",))` -/
def selectAmount : TransformStep Unit := .selectColumns ["amount"] (List.cons_ne_nil _ _)

/-- The renamed column can be selected by a second pipeline. -/
theorem sameOutcome_run_append_iff_renamed :
    SameOutcome (run intArrow ⟨[renameValue] ++ [selectAmount]⟩ (oneColumn "value"))
        (run intArrow ⟨[renameValue]⟩ (oneColumn "value") >>= run intArrow ⟨[selectAmount]⟩) ↔
      (ChecksPass [selectAmount] (oneColumn "value").schema ↔
          ChecksPass [selectAmount] (oneColumn "amount").schema) ∨
        (threadUnchecked intArrow [selectAmount] (oneColumn "amount").iterBatches).failsAtOnce =
          true :=
  sameOutcome_run_append_iff intArrow [renameValue] [selectAmount] (oneColumn "value")
    (oneColumn "amount") rfl

/-- The renamed column cannot be selected by the same pipeline. -/
theorem selected_after_rename_differs :
    batches (run intArrow ⟨[renameValue]⟩ (oneColumn "value")) ≠ [] ∧
      ¬ SameOutcome (run intArrow ⟨[renameValue] ++ [selectAmount]⟩ (oneColumn "value"))
        (run intArrow ⟨[renameValue]⟩ (oneColumn "value") >>= run intArrow ⟨[selectAmount]⟩) := by
  constructor
  · exact List.cons_ne_nil _ _
  · intro hsame
    exact absurd hsame.2 (by decide)

end Pipeline

end DataSluice.Transforms
