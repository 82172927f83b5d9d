/-
# Caps on decompressed and on uploaded bytes

Two readers hand out the bytes of another stream under a cap: `_ErrorTranslatingReader`, over a
decompressed stream, and `_BoundedSource`, over the source of an upload. Both ask the inner
stream for one byte more than is left of their limit, so that a stream that is too long is
found out before its end is reported, and both keep failing then.

`_BoundedSource` also has a deadline, and looks at it before and after each read. A chunk that
arrives too late is lost, but its clock is monotonic: the readings of a call are given by the
time that passes before each.
-/

import Mathlib.Data.NNRat.Defs
import Mathlib.Tactic.Linarith
import DataSluice.Lib.ByteCap
import DataSluice.Runtime.RetryLoop

namespace DataSluice.Io

open DataSluice.Lib DataSluice.Runtime

variable {Stream Error : Type}

/-! ## Decompressed streams -/

/-- `_MAX_DECOMPRESSED_BYTES` -/
def maxDecompressedBytes : Nat := 512 * 1024 * 1024

/-- What `_ErrorTranslatingReader` raises. -/
inductive DecompressionFailure (Error : Type)
  | /-- A `DecompressionError` for too many bytes. -/
    exceedsLimit (label : String)
  | /-- A `DecompressionError` with an error of the inner stream as its cause. -/
    failed (label : String) (cause : Error)
  | /-- An error of the inner stream that is not translated. -/
    raised (error : Error)

/-- The message of a `DecompressionError`. -/
def DecompressionFailure.message (describe : Error → String) :
    DecompressionFailure Error → Option String
  | .exceedsLimit label => some (label ++ " exceeds the decompressed byte limit")
  | .failed label cause => some (label ++ " decompression failed: " ++ describe cause)
  | .raised _ => none

/-- `_ErrorTranslatingReader`, with the errors that are of its `_exc_types`. -/
structure ErrorTranslatingReader (Stream Error : Type) where
  inner : Stream
  excTypes : Error → Bool
  label : String
  bytesRead : Nat := 0

namespace ErrorTranslatingReader

variable (source : ByteSource Stream Error) (reader : ErrorTranslatingReader Stream Error)

/-- The constructor. -/
def new (inner : Stream) (excTypes : Error → Bool) (label : String) :
    ErrorTranslatingReader Stream Error where
  inner := inner
  excTypes := excTypes
  label := label

/-- How many bytes a read asks the inner stream for. -/
def requestSize (n : Int) : Int :=
  let remaining := (maxDecompressedBytes : Int) - reader.bytesRead
  if n ≥ 0 then min n (remaining + 1) else remaining + 1

/-- `read` -/
def read (n : Int) :
    Except (DecompressionFailure Error) (List UInt8) × ErrorTranslatingReader Stream Error :=
  match source.read reader.inner (reader.requestSize n) with
  | (.ok chunk, inner) =>
      let bytesRead := reader.bytesRead + chunk.length
      if bytesRead > maxDecompressedBytes then
        (.error (.exceedsLimit reader.label), { reader with inner := inner, bytesRead := bytesRead })
      else (.ok chunk, { reader with inner := inner, bytesRead := bytesRead })
  | (.error error, inner) =>
      if reader.excTypes error = true then
        (.error (.failed reader.label error), { reader with inner := inner })
      else (.error (.raised error), { reader with inner := inner })

/-- `readinto` for a buffer of a length: the bytes that it puts there. -/
def readinto (length : Nat) :
    Except (DecompressionFailure Error) (List UInt8) × ErrorTranslatingReader Stream Error :=
  match reader.read source length with
  | (.ok chunk, reader) => (.ok (chunk.take (min length chunk.length)), reader)
  | (.error error, reader) => (.error error, reader)

/-- A call of the reader. -/
inductive Call
  | read (n : Int)
  | readinto (length : Nat)

/-- The call asks for at least one byte. -/
def Call.asks : Call → Bool
  | .read n => decide (n ≠ 0)
  | .readinto length => decide (length ≠ 0)

/-- One call. -/
def answer (call : Call) :
    Except (DecompressionFailure Error) (List UInt8) × ErrorTranslatingReader Stream Error :=
  match call with
  | .read n => reader.read source n
  | .readinto length => reader.readinto source length

variable {source reader}

theorem requestSize_nonneg (hcount : reader.bytesRead ≤ maxDecompressedBytes) (n : Int) :
    0 ≤ reader.requestSize n := by
  simp only [requestSize]
  split
  · omega
  · omega

theorem requestSize_le {n : Int} (hn : 0 ≤ n) : reader.requestSize n ≤ n := by
  simp only [requestSize, if_pos hn]
  exact Int.min_le_left _ _

/-- A read asks for nothing only when told so. -/
theorem requestSize_ne (hcount : reader.bytesRead ≤ maxDecompressedBytes) {n : Int}
    (hn : n ≠ 0) : reader.requestSize n ≠ 0 := by
  simp only [requestSize]
  split
  · omega
  · omega

/-- The reader is beyond its limit. -/
def Stopped (reader : ErrorTranslatingReader Stream Error) : Prop :=
  maxDecompressedBytes < reader.bytesRead

/-- Beyond the limit a read fails, whatever it is given. -/
theorem read_of_stopped (hstopped : reader.Stopped) (n : Int) :
    (∃ error, (reader.read source n).1 = .error error) ∧ (reader.read source n).2.Stopped := by
  unfold read
  cases hread : source.read reader.inner (reader.requestSize n) with
  | mk result inner =>
      cases result with
      | ok chunk =>
          have hbeyond : maxDecompressedBytes < reader.bytesRead + chunk.length :=
            Nat.lt_add_right _ hstopped
          simp only [gt_iff_lt, if_pos hbeyond]
          exact ⟨⟨_, rfl⟩, hbeyond⟩
      | error error =>
          simp only
          split
          · exact ⟨⟨_, rfl⟩, hstopped⟩
          · exact ⟨⟨_, rfl⟩, hstopped⟩

/-- Behind the error of the limit the reader is beyond it. -/
theorem stopped_of_exceedsLimit {n : Int} {label : String}
    (herror : (reader.read source n).1 = .error (.exceedsLimit label)) :
    (reader.read source n).2.Stopped := by
  unfold read at herror ⊢
  cases hread : source.read reader.inner (reader.requestSize n) with
  | mk result inner =>
      rw [hread] at herror
      cases result with
      | ok chunk =>
          simp only at herror ⊢
          split at herror
          · next hbeyond =>
              rw [if_pos hbeyond]
              exact hbeyond
          · cases herror
      | error error =>
          simp only at herror
          split at herror
          · cases herror
          · cases herror

/-- What a read does within the limit. -/
theorem capStep_read (hcount : reader.bytesRead ≤ maxDecompressedBytes) (n : Int) :
    CapStep maxDecompressedBytes (decide (n ≠ 0)) (source.contents reader.inner) reader.bytesRead
      (source.contents (reader.read source n).2.inner) (reader.read source n).2.bytesRead
      (reader.read source n).2.Stopped (reader.read source n).1 := by
  have hnonneg : 0 ≤ reader.requestSize n := requestSize_nonneg hcount n
  unfold read
  cases hread : source.read reader.inner (reader.requestSize n) with
  | mk result inner =>
      cases result with
      | ok chunk =>
          simp only
          split
          · next hbeyond => exact .stops _ hbeyond
          · next hwithin =>
              apply CapStep.handed chunk (source.taken _ _ chunk inner hnonneg hread) rfl
              · exact Nat.le_of_not_lt hwithin
              · rintro rfl hasks
                rcases source.atEnd _ _ inner hnonneg hread with hzero | hend
                · exact absurd hzero (requestSize_ne hcount (of_decide_eq_true hasks))
                · exact hend
      | error error =>
          have hkept := source.failed _ _ error inner hnonneg hread
          simp only
          split
          · exact .failed _ hkept rfl
          · exact .failed _ hkept rfl

/-- A read for a buffer does not overfill it. -/
theorem length_read (hcount : reader.bytesRead ≤ maxDecompressedBytes) {length : Nat}
    {chunk : List UInt8} (hread : (reader.read source length).1 = .ok chunk) :
    chunk.length ≤ length := by
  have hnonneg : 0 ≤ reader.requestSize length := requestSize_nonneg hcount length
  have hle : reader.requestSize length ≤ length := requestSize_le (Int.natCast_nonneg length)
  unfold read at hread
  cases hinner : source.read reader.inner (reader.requestSize length) with
  | mk result inner =>
      rw [hinner] at hread
      cases result with
      | ok given =>
          have hshort := source.short _ _ given inner hnonneg hinner
          simp only at hread
          split at hread
          · cases hread
          · cases hread
            omega
      | error error =>
          simp only at hread
          split at hread
          · cases hread
          · cases hread

/-- A buffer takes the whole chunk that is read for it. -/
theorem readinto_eq (length : Nat) : reader.readinto source length = reader.read source length := by
  unfold readinto
  cases hread : reader.read source length with
  | mk result rest =>
      cases result with
      | ok chunk =>
          have hresult : (reader.read source length).1 = .ok chunk := by rw [hread]
          have hcount : reader.bytesRead ≤ maxDecompressedBytes := by
            by_contra hbeyond
            have hstopped : reader.Stopped := Nat.lt_of_not_le hbeyond
            have hfails : ∃ error, (reader.read source length).1 = .error error :=
              (read_of_stopped hstopped length).1
            obtain ⟨error, herror⟩ := hfails
            rw [herror] at hresult
            cases hresult
          have hlength := length_read hcount hresult
          simp only [Nat.min_eq_right hlength, List.take_length]
      | error error => rfl

/-- Every call is a read. -/
def Call.size : Call → Int
  | .read n => n
  | .readinto length => length

theorem answer_eq (call : Call) : reader.answer source call = reader.read source call.size := by
  cases call with
  | read n => rfl
  | readinto length => exact readinto_eq length

theorem asks_eq (call : Call) : call.asks = decide (call.size ≠ 0) := by
  cases call with
  | read n => rfl
  | readinto length => simp [Call.asks, Call.size]

/-- The reader as one with a cap. -/
def capped (source : ByteSource Stream Error) :
    CappedReader (ErrorTranslatingReader Stream Error) Call (DecompressionFailure Error) where
  answer reader call := reader.answer source call
  asks := Call.asks
  left reader := source.contents reader.inner
  count := bytesRead
  limit _ := maxDecompressedBytes
  stopped := Stopped
  overrun error := ∃ label, error = .exceedsLimit label
  fails reader call hstopped := by
    rw [answer_eq]
    exact read_of_stopped hstopped call.size
  step reader call _ hcount := by
    rw [answer_eq, asks_eq]
    exact capStep_read hcount call.size
  constant _ _ := rfl
  stops reader call error herror hoverrun := by
    obtain ⟨label, rfl⟩ := hoverrun
    rw [answer_eq] at herror ⊢
    exact stopped_of_exceedsLimit herror

end ErrorTranslatingReader

/-! ## Uploads -/

/-- What `_BoundedSource` raises. -/
inductive UploadFailure (Error : Type)
  | /-- A `ValueError`. -/
    closed
  | /-- An `UploadDeadlineExceededError`. -/
    deadlineExceeded (budgetSeconds elapsedSeconds : ℚ)
  | /-- A `MidStreamUploadError`. -/
    exceedsLimit
  | /-- An error of the source. -/
    raised (error : Error)

/-- The message of an exception of its own. -/
def UploadFailure.message : UploadFailure Error → Option String
  | .closed => some "uData upload source is closed."
  | .deadlineExceeded _ _ => some "uData upload source exceeded its streaming time budget."
  | .exceedsLimit => some "uData upload source exceeds its byte limit."
  | .raised _ => none

/-- `_BoundedSource`, with what its clock shows. -/
structure BoundedSource (Stream : Type) where
  source : Stream
  limit : Nat
  deadline : DeadlineMonitor
  bytesRead : Nat := 0
  closed : Bool := false
  now : ℚ

/-- A read, with the time that passes before its first look at the deadline, in the source, and
until the error of a deadline is made. -/
structure UploadRead where
  size : Int
  waited : ℚ≥0
  took : ℚ≥0
  slack : ℚ≥0

/-- The read asks for at least one byte. -/
def UploadRead.asks (call : UploadRead) : Bool := decide (call.size ≠ 0)

namespace BoundedSource

variable (source : ByteSource Stream Error) (bounded : BoundedSource Stream)

/-- The constructor. -/
def new (inner : Stream) (limit : Nat) (deadline : DeadlineMonitor) (now : ℚ) :
    BoundedSource Stream where
  source := inner
  limit := limit
  deadline := deadline
  now := now

/-- How many bytes a read asks the source for. -/
def requestSize (size : Int) : Int :=
  let remaining := (bounded.limit : Int) - bounded.bytesRead
  if size < 0 then remaining + 1 else min size (remaining + 1)

/-- The deadline is over when the clock shows `now`. -/
def late (now : ℚ) : Bool := decide (bounded.deadline.left now ≤ 0)

/-- The error of `_assert_within_deadline`. -/
def deadlineError (now : ℚ) : UploadFailure Error :=
  .deadlineExceeded bounded.deadline.budget.total (max 0 (now - bounded.deadline.startedAt))

/-- `read` -/
def read (call : UploadRead) : Except (UploadFailure Error) (List UInt8) × BoundedSource Stream :=
  if bounded.closed then (.error .closed, bounded)
  else
    let before := bounded.now + call.waited
    if bounded.late before then
      (.error (bounded.deadlineError (before + call.slack)),
        { bounded with now := before + call.slack })
    else
      match source.read bounded.source (bounded.requestSize call.size) with
      | (.error error, rest) =>
          (.error (.raised error), { bounded with source := rest, now := before + call.took })
      | (.ok chunk, rest) =>
          let after := before + call.took
          if bounded.late after then
            (.error (bounded.deadlineError (after + call.slack)),
              { bounded with source := rest, now := after + call.slack })
          else
            let bytesRead := bounded.bytesRead + chunk.length
            if bytesRead > bounded.limit then
              (.error .exceedsLimit,
                { bounded with source := rest, bytesRead := bytesRead, now := after })
            else (.ok chunk, { bounded with source := rest, bytesRead := bytesRead, now := after })

variable {source bounded}

/-- The source is closed, its deadline is over, or it is beyond its limit. -/
def Stopped (bounded : BoundedSource Stream) : Prop :=
  bounded.closed = true ∨ bounded.late bounded.now = true ∨ bounded.limit < bounded.bytesRead

/-- A deadline that is over stays so. -/
theorem late_mono {now later : ℚ} (hlate : bounded.late now = true) (hlater : now ≤ later) :
    bounded.late later = true := by
  have hover : bounded.deadline.left now ≤ 0 := of_decide_eq_true hlate
  apply decide_eq_true
  unfold DeadlineMonitor.left at hover ⊢
  linarith

theorem le_add_time (now : ℚ) (time : ℚ≥0) : now ≤ now + time :=
  le_add_of_nonneg_right time.coe_nonneg

/-- A stopped source fails on every read. -/
theorem read_of_stopped (hstopped : bounded.Stopped) (call : UploadRead) :
    (∃ error, (bounded.read source call).1 = .error error) ∧
      (bounded.read source call).2.Stopped := by
  unfold read
  split
  · exact ⟨⟨_, rfl⟩, hstopped⟩
  · next hopen =>
      simp only
      split
      · next hlate => exact ⟨⟨_, rfl⟩, .inr (.inl (late_mono hlate (le_add_time _ _)))⟩
      · next hearly =>
          -- only the count can have stopped it
          have hbeyond : bounded.limit < bounded.bytesRead := by
            rcases hstopped with hclosed | hlate | hbeyond
            · exact absurd hclosed hopen
            · exact absurd (late_mono hlate (le_add_time _ _)) hearly
            · exact hbeyond
          cases source.read bounded.source (bounded.requestSize call.size) with
          | mk result rest =>
              cases result with
              | error error => exact ⟨⟨_, rfl⟩, .inr (.inr hbeyond)⟩
              | ok chunk =>
                  simp only
                  split
                  · exact ⟨⟨_, rfl⟩, .inr (.inr hbeyond)⟩
                  · have hmore : bounded.limit < bounded.bytesRead + chunk.length :=
                      Nat.lt_add_right _ hbeyond
                    rw [if_pos hmore]
                    exact ⟨⟨_, rfl⟩, .inr (.inr hmore)⟩

/-- Behind the error of the limit the source is stopped. -/
theorem stopped_of_exceedsLimit {call : UploadRead}
    (herror : (bounded.read source call).1 = .error .exceedsLimit) :
    (bounded.read source call).2.Stopped := by
  unfold read at herror ⊢
  split at herror
  · cases herror
  · next hopen =>
      rw [if_neg hopen]
      simp only at herror ⊢
      split at herror
      · cases herror
      · next hearly =>
          rw [if_neg hearly]
          cases hread : source.read bounded.source (bounded.requestSize call.size) with
          | mk result rest =>
              rw [hread] at herror
              cases result with
              | error error => cases herror
              | ok chunk =>
                  simp only at herror ⊢
                  split at herror
                  · cases herror
                  · next hintime =>
                      rw [if_neg hintime]
                      split at herror
                      · next hbeyond =>
                          rw [if_pos hbeyond]
                          exact .inr (.inr hbeyond)
                      · cases herror

theorem requestSize_nonneg (hcount : bounded.bytesRead ≤ bounded.limit) (size : Int) :
    0 ≤ bounded.requestSize size := by
  simp only [requestSize]
  split
  · omega
  · omega

/-- A read asks for nothing only when told so. -/
theorem requestSize_ne (hcount : bounded.bytesRead ≤ bounded.limit) {size : Int}
    (hsize : size ≠ 0) : bounded.requestSize size ≠ 0 := by
  simp only [requestSize]
  split
  · omega
  · omega

/-- What a read does within the limit. -/
theorem capStep_read (hcount : bounded.bytesRead ≤ bounded.limit) (call : UploadRead) :
    CapStep bounded.limit call.asks (source.contents bounded.source) bounded.bytesRead
      (source.contents (bounded.read source call).2.source) (bounded.read source call).2.bytesRead
      (bounded.read source call).2.Stopped (bounded.read source call).1 := by
  have hnonneg : 0 ≤ bounded.requestSize call.size := requestSize_nonneg hcount call.size
  unfold read
  split
  · exact .failed _ rfl rfl
  · simp only
    split
    · exact .failed _ rfl rfl
    · cases hread : source.read bounded.source (bounded.requestSize call.size) with
      | mk result rest =>
          cases result with
          | error error => exact .failed _ (source.failed _ _ error rest hnonneg hread) rfl
          | ok chunk =>
              simp only
              split
              · next hlate => exact .stops _ (.inr (.inl (late_mono hlate (le_add_time _ _))))
              · split
                · next hbeyond => exact .stops _ (.inr (.inr hbeyond))
                · next hwithin =>
                    apply CapStep.handed chunk (source.taken _ _ chunk rest hnonneg hread) rfl
                    · exact Nat.le_of_not_lt hwithin
                    · rintro rfl hasks
                      rcases source.atEnd _ _ rest hnonneg hread with hzero | hend
                      · exact absurd hzero (requestSize_ne hcount (of_decide_eq_true hasks))
                      · exact hend

/-- Reading does not change the limit. -/
theorem limit_read (call : UploadRead) : (bounded.read source call).2.limit = bounded.limit := by
  unfold read
  split
  · rfl
  · simp only
    split
    · rfl
    · cases source.read bounded.source (bounded.requestSize call.size) with
      | mk result rest =>
          cases result with
          | error error => rfl
          | ok chunk =>
              simp only
              split
              · rfl
              · split
                · rfl
                · rfl

/-- The source as one with a cap. -/
def capped (source : ByteSource Stream Error) :
    CappedReader (BoundedSource Stream) UploadRead (UploadFailure Error) where
  answer bounded call := bounded.read source call
  asks := UploadRead.asks
  left bounded := source.contents bounded.source
  count := bytesRead
  limit := limit
  stopped := Stopped
  overrun error := error = .exceedsLimit
  fails bounded call hstopped := read_of_stopped hstopped call
  step bounded call _ hcount := capStep_read hcount call
  constant bounded call := limit_read call
  stops bounded call error herror hoverrun := by
    subst hoverrun
    exact stopped_of_exceedsLimit herror

end BoundedSource

/-! ## Both readers -/

/-- Neither reader truncates a stream silently, however its calls are sized and however many bytes
the stream hands out at a time: of a stream over the limit no end is ever reported. -/
theorem byte_caps_never_truncate (source : ByteSource Stream Error) (inner : Stream) :
    (∀ excTypes label calls, NeverTruncates maxDecompressedBytes (source.contents inner)
        ErrorTranslatingReader.Call.asks (fun error => ∃ label, error = .exceedsLimit label)
        ((ErrorTranslatingReader.capped source).run (.new inner excTypes label) calls)) ∧
      ∀ limit deadline now calls, NeverTruncates limit (source.contents inner) UploadRead.asks
        (fun error => error = .exceedsLimit)
        ((BoundedSource.capped source).run (.new inner limit deadline now) calls) := by
  constructor
  · intro excTypes label calls
    exact (ErrorTranslatingReader.capped source).neverTruncates (.new inner excTypes label) rfl
      calls
  · intro limit deadline now calls
    exact (BoundedSource.capped source).neverTruncates (.new inner limit deadline now) rfl calls

/-- Two seconds for everything. -/
def twoSeconds : TimeBudget where
  connect := 2
  read := 2
  write := 2
  total := 2
  connect_pos := two_pos
  read_pos := two_pos
  write_pos := two_pos
  total_pos := two_pos
  le_total := by decide

/-- A source that cannot fail and hands out one byte at a time. -/
def oneByOne : ByteSource (List UInt8) Empty := .ofList 0

/-- Three bytes that come one at a time, under a limit of two: among four reads of a byte one is
refused, and none reports the end. -/
theorem byte_caps_never_truncate_short_reads :
    (∃ answered ∈ (BoundedSource.capped oneByOne).run
        (.new [1, 2, 3] 2 { budget := twoSeconds, startedAt := 0 } 0)
        (List.replicate 4 ⟨1, 0, 0, 0⟩), ∃ error, answered.2 = .error error) ∧
      ∀ answered ∈ (BoundedSource.capped oneByOne).run
        (.new [1, 2, 3] 2 { budget := twoSeconds, startedAt := 0 } 0)
        (List.replicate 4 ⟨1, 0, 0, 0⟩), UploadRead.asks answered.1 = true →
          answered.2 ≠ .ok [] := by
  have hkept := (byte_caps_never_truncate oneByOne [1, 2, 3]).2 2
    { budget := twoSeconds, startedAt := 0 } 0 (List.replicate 4 ⟨1, 0, 0, 0⟩)
  have hlong : 2 < ([1, 2, 3] : List UInt8).length := by decide
  refine ⟨hkept.raised hlong ?_, hkept.noEnd hlong⟩
  rw [CappedReader.map_fst_run]
  decide

end DataSluice.Io
