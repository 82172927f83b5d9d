/-
# Byte streams with lookahead

`IterableBytesIO` makes a binary stream of the chunks of a source, and `PeekableReader` looks
ahead in a binary stream. The bytes that are left of either are its contents: a reader with
lookahead works over any stream whose reads take bytes off the front of its contents.
-/

import DataSluice.Lib.Url

namespace DataSluice.Data.ByteReaders

open DataSluice.Lib DataSluice.Lib.Url

abbrev Bytes := List UInt8

/-- The error of an operation on a closed stream. -/
def closedError : ValueError := ⟨"I/O operation on closed file"⟩

/-! ## Chunks as a stream -/

/-- `IterableBytesIO`, with the chunks that its iterator still has. -/
structure IterableBytesIo where
  chunks : List Bytes
  peeked : Bytes
  closed : Bool
  deriving DecidableEq

namespace IterableBytesIo

/-- A stream of the chunks of a source. -/
def new (source : List Bytes) : IterableBytesIo := ⟨source, [], false⟩

/-- The loop of `readinto`, up to a chunk with bytes in it. -/
def refill : Bytes → List Bytes → Bytes × List Bytes
  | peeked, [] => (peeked, [])
  | peeked, chunk :: chunks =>
      if peeked = [] then refill chunk chunks else (peeked, chunk :: chunks)

/-- `readinto` for a buffer of a length: the bytes that it puts there. -/
def readinto (stream : IterableBytesIo) (length : Nat) :
    Except ValueError (Bytes × IterableBytesIo) :=
  if stream.closed then .error closedError
  else
    let (peeked, chunks) := refill stream.peeked stream.chunks
    .ok (peeked.take length, ⟨chunks, peeked.drop length, stream.closed⟩)

/-- The loop of `read`, for the bytes that are still wanted. -/
def readLoop : List Bytes → Nat → Bytes → Bytes → Bytes × List Bytes × Bytes
  | [], _, out, peeked => (out, [], peeked)
  | chunk :: chunks, wanted, out, peeked =>
      if 0 < wanted then
        let taken := chunk.take wanted
        readLoop chunks (wanted - taken.length) (out ++ taken) (chunk.drop taken.length)
      else (out, chunk :: chunks, peeked)

/-- `read` -/
def read (stream : IterableBytesIo) (n : Int) : Except ValueError (Bytes × IterableBytesIo) :=
  if stream.closed then .error closedError
  else if n < 0 then
    .ok (stream.peeked ++ stream.chunks.flatten, ⟨[], [], stream.closed⟩)
  else
    let taken := stream.peeked.take n.toNat
    let (out, chunks, peeked) := readLoop stream.chunks (n.toNat - taken.length) taken
      (stream.peeked.drop taken.length)
    .ok (out, ⟨chunks, peeked, stream.closed⟩)

end IterableBytesIo

/-! ## Lookahead -/

/-- `PeekableReader` over a stream. -/
structure PeekableReader (Stream : Type) where
  source : Stream
  buffer : Bytes
  closed : Bool

section Reader

variable {Stream : Type} (sourceRead : Stream → Int → Except ValueError (Bytes × Stream))

/-- The loop of `peek` and of `read`, for the bytes that are still wanted behind others. -/
def pullLoop (source : Stream) (bytes : Bytes) (wanted : Nat) :
    Except ValueError (Bytes × Stream) :=
  if wanted = 0 then .ok (bytes, source)
  else
    match sourceRead source wanted with
    | .error error => .error error
    | .ok (chunk, source) =>
        if chunk = [] then .ok (bytes, source)
        else pullLoop source (bytes ++ chunk) (wanted - chunk.length)
termination_by wanted
decreasing_by
  have hlength := List.length_pos_of_ne_nil ‹¬chunk = []›
  omega

namespace PeekableReader

/-- A reader that has not looked ahead. -/
def new (source : Stream) : PeekableReader Stream := ⟨source, [], false⟩

/-- `peek` -/
def peek (reader : PeekableReader Stream) (n : Nat) :
    Except ValueError (Bytes × PeekableReader Stream) :=
  if reader.closed then .error closedError
  else
    match pullLoop sourceRead reader.source reader.buffer (n - reader.buffer.length) with
    | .error error => .error error
    | .ok (buffer, source) => .ok (buffer.take n, ⟨source, buffer, reader.closed⟩)

/-- `readinto` for a buffer of a length: the bytes that it puts there. -/
def readinto (reader : PeekableReader Stream) (length : Nat) :
    Except ValueError (Bytes × PeekableReader Stream) :=
  if reader.closed then .error closedError
  else if reader.buffer = [] then
    match sourceRead reader.source length with
    | .error error => .error error
    | .ok (chunk, source) => .ok (chunk.take length, ⟨source, chunk.drop length, reader.closed⟩)
  else
    .ok (reader.buffer.take length,
      ⟨reader.source, reader.buffer.drop length, reader.closed⟩)

/-- `read` -/
def read (reader : PeekableReader Stream) (n : Int) :
    Except ValueError (Bytes × PeekableReader Stream) :=
  if reader.closed then .error closedError
  else if n < 0 then
    match sourceRead reader.source (-1) with
    | .error error => .error error
    | .ok (rest, source) => .ok (reader.buffer ++ rest, ⟨source, [], reader.closed⟩)
  else
    let taken := reader.buffer.take n.toNat
    match pullLoop sourceRead reader.source taken (n.toNat - taken.length) with
    | .error error => .error error
    | .ok (out, source) => .ok (out, ⟨source, reader.buffer.drop taken.length, reader.closed⟩)

end PeekableReader

end Reader

/-! ## Contents -/

/-- Reads of an open stream take bytes off the front of its contents: all of them, or at most as
many as are asked for and at least one while there is one. -/
structure Delivers {Stream : Type}
    (sourceRead : Stream → Int → Except ValueError (Bytes × Stream))
    (contents : Stream → Bytes) (IsOpen : Stream → Prop) : Prop where
  all : ∀ stream, IsOpen stream → ∃ after,
    sourceRead stream (-1) = .ok (contents stream, after) ∧ IsOpen after ∧ contents after = []
  some : ∀ stream (n : Nat), IsOpen stream → ∃ reply after,
    sourceRead stream n = .ok (reply, after) ∧ IsOpen after ∧
      reply ++ contents after = contents stream ∧ reply.length ≤ n ∧
      (0 < n → reply = [] → contents stream = [])

theorem take_append_of_length_le {front back : Bytes} {count : Nat}
    (hlength : front.length ≤ count) :
    (front ++ back).take count = front ++ back.take (count - front.length) := by
  rw [List.take_append, List.take_of_length_le hlength]

theorem drop_append_of_length_le {front back : Bytes} {count : Nat}
    (hlength : front.length ≤ count) :
    (front ++ back).drop count = back.drop (count - front.length) := by
  rw [List.drop_append, List.drop_eq_nil_of_le hlength, List.nil_append]

theorem take_append_drop_length (bytes : Bytes) (count : Nat) :
    bytes.take count ++ bytes.drop (bytes.take count).length = bytes := by
  rw [List.length_take]
  rcases Nat.le_total count bytes.length with hle | hle
  · rw [Nat.min_eq_left hle, List.take_append_drop]
  · rw [Nat.min_eq_right hle, List.take_of_length_le hle, List.drop_length, List.append_nil]

/-- Nothing is left of bytes that were taken whole. -/
theorem drop_length_eq_nil {bytes : Bytes} {count : Nat}
    (hmore : 0 < count - (bytes.take count).length) :
    bytes.drop (bytes.take count).length = [] := by
  rw [List.length_take] at hmore ⊢
  rw [List.drop_eq_nil_iff]
  omega

namespace IterableBytesIo

/-- The bytes that are left. -/
def contents (stream : IterableBytesIo) : Bytes := stream.peeked ++ stream.chunks.flatten

theorem readLoop_eq (chunks : List Bytes) (wanted : Nat) (out peeked : Bytes)
    (hpeeked : 0 < wanted → peeked = []) :
    (readLoop chunks wanted out peeked).1 =
        out ++ (peeked ++ chunks.flatten).take wanted ∧
      (readLoop chunks wanted out peeked).2.2 ++
          (readLoop chunks wanted out peeked).2.1.flatten =
        (peeked ++ chunks.flatten).drop wanted := by
  induction chunks generalizing wanted out peeked with
  | nil =>
      rw [readLoop]
      rcases Nat.eq_zero_or_pos wanted with rfl | hwanted
      · simp
      · simp [hpeeked hwanted]
  | cons chunk chunks ih =>
      rw [readLoop]
      by_cases hwanted : 0 < wanted
      · rw [if_pos hwanted, hpeeked hwanted]
        obtain ⟨hout, hleft⟩ := ih (wanted - (chunk.take wanted).length)
          (out ++ chunk.take wanted) (chunk.drop (chunk.take wanted).length) drop_length_eq_nil
        have htaken : (chunk.take wanted).length ≤ wanted := List.length_take_le wanted chunk
        have hcut : [] ++ (chunk :: chunks).flatten =
            chunk.take wanted ++ (chunk.drop (chunk.take wanted).length ++ chunks.flatten) := by
          rw [← List.append_assoc, take_append_drop_length, List.nil_append, List.flatten_cons]
        rw [hcut, take_append_of_length_le htaken, drop_append_of_length_le htaken]
        exact ⟨by rw [hout, List.append_assoc], hleft⟩
      · have hzero : wanted = 0 := by omega
        simp [hzero]

/-- A read returns the bytes that are asked for, or all that are left. -/
theorem read_eq {stream : IterableBytesIo} (hopen : stream.closed = false) (n : Nat) :
    ∃ after : IterableBytesIo, stream.read n = .ok (stream.contents.take n, after) ∧
      after.closed = false ∧ after.contents = stream.contents.drop n := by
  obtain ⟨hout, hleft⟩ := readLoop_eq stream.chunks (n - (stream.peeked.take n).length)
    (stream.peeked.take n) (stream.peeked.drop (stream.peeked.take n).length) drop_length_eq_nil
  have htaken : (stream.peeked.take n).length ≤ n := List.length_take_le n stream.peeked
  have hcut : stream.contents = stream.peeked.take n ++
      (stream.peeked.drop (stream.peeked.take n).length ++ stream.chunks.flatten) := by
    rw [← List.append_assoc, take_append_drop_length, contents]
  have hnonneg : ¬ (n : Int) < 0 := by omega
  rw [hcut, take_append_of_length_le htaken, drop_append_of_length_le htaken, ← hout, ← hleft]
  unfold read
  rw [hopen, if_neg Bool.false_ne_true, if_neg hnonneg]
  exact ⟨_, rfl, rfl, rfl⟩

theorem readAll_eq {stream : IterableBytesIo} (hopen : stream.closed = false) :
    stream.read (-1) = .ok (stream.contents, ⟨[], [], false⟩) := by
  unfold read
  rw [hopen, if_neg Bool.false_ne_true, if_pos (by decide), contents]

theorem refill_eq (peeked : Bytes) (chunks : List Bytes) :
    (refill peeked chunks).1 ++ (refill peeked chunks).2.flatten = peeked ++ chunks.flatten ∧
      ((refill peeked chunks).1 = [] → peeked ++ chunks.flatten = []) := by
  induction chunks generalizing peeked with
  | nil =>
      rw [refill]
      exact ⟨rfl, fun hempty => (List.append_nil peeked).trans hempty⟩
  | cons chunk chunks ih =>
      rw [refill]
      by_cases hpeeked : peeked = []
      · rw [if_pos hpeeked, hpeeked]
        exact ih chunk
      · rw [if_neg hpeeked]
        exact ⟨rfl, fun hempty => (hpeeked hempty).elim⟩

/-- Reading into a buffer takes bytes off the front, at least one while there is one. -/
theorem readinto_eq {stream : IterableBytesIo} (hopen : stream.closed = false) (length : Nat) :
    ∃ (reply : Bytes) (after : IterableBytesIo), stream.readinto length = .ok (reply, after) ∧
      after.closed = false ∧ reply ++ after.contents = stream.contents ∧ reply.length ≤ length ∧
      (0 < length → reply = [] → stream.contents = []) := by
  obtain ⟨hcontents, hempty⟩ := refill_eq stream.peeked stream.chunks
  unfold readinto
  rw [hopen, if_neg Bool.false_ne_true]
  refine ⟨_, _, rfl, rfl, ?_, List.length_take_le length _, ?_⟩
  · show _ ++ (_ ++ (refill stream.peeked stream.chunks).2.flatten) = stream.contents
    rw [← List.append_assoc, List.take_append_drop, hcontents, contents]
  · intro hpos hnone
    rw [List.take_eq_nil_iff] at hnone
    exact hempty (hnone.resolve_left (by omega))

/-- A stream of chunks delivers their bytes. -/
theorem delivers : Delivers read contents fun stream => stream.closed = false where
  all stream hopen := ⟨_, readAll_eq hopen, rfl, rfl⟩
  some stream n hopen := by
    obtain ⟨after, hread, hafter, hcontents⟩ := read_eq hopen n
    refine ⟨_, after, hread, hafter, ?_, List.length_take_le n _, ?_⟩
    · rw [hcontents, List.take_append_drop]
    · intro hpos hempty
      rw [List.take_eq_nil_iff] at hempty
      exact hempty.resolve_left (by omega)

end IterableBytesIo

/-! ## Calls -/

/-- The calls that read of a reader: `read(n)` for a size, and `read(-1)`. -/
inductive Call
  | peek (n : Nat)
  | read (n : Nat)
  | readAll
  | readinto (length : Nat)
  deriving DecidableEq

namespace Call

/-- The bytes that a call takes off the contents. -/
def consumed : Call → Bytes → Bytes
  | peek _, _ => []
  | _, reply => reply

/-- What a call may answer when some bytes are left, and what is left behind it. -/
def Answers (left : Bytes) : Call → Bytes → Bytes → Prop
  | peek n, reply, after => reply = left.take n ∧ after = left
  | read n, reply, after => reply = left.take n ∧ after = left.drop n
  | readAll, reply, after => reply = left ∧ after = []
  | readinto length, reply, after =>
      reply ++ after = left ∧ reply.length ≤ length ∧ (0 < length → reply = [] → left = [])

/-- A call takes what it consumes off the front. -/
theorem Answers.consumed_append {call : Call} {left reply after : Bytes}
    (hanswers : Answers left call reply after) : call.consumed reply ++ after = left := by
  cases call with
  | peek n => exact hanswers.2
  | read n =>
      obtain ⟨rfl, rfl⟩ := hanswers
      exact List.take_append_drop n left
  | readAll =>
      obtain ⟨rfl, rfl⟩ := hanswers
      exact List.append_nil reply
  | readinto length => exact hanswers.1

end Call

section Calls

variable {Stream : Type} (sourceRead : Stream → Int → Except ValueError (Bytes × Stream))

/-- A call of a reader. -/
def perform (reader : PeekableReader Stream) :
    Call → Except ValueError (Bytes × PeekableReader Stream)
  | .peek n => reader.peek sourceRead n
  | .read n => reader.read sourceRead n
  | .readAll => reader.read sourceRead (-1)
  | .readinto length => reader.readinto sourceRead length

/-- The calls of a reader with their answers. -/
def run (reader : PeekableReader Stream) :
    List Call → Except ValueError (List (Call × Bytes) × PeekableReader Stream)
  | [] => .ok ([], reader)
  | call :: calls =>
      match perform sourceRead reader call with
      | .error error => .error error
      | .ok (reply, reader) =>
          match run reader calls with
          | .error error => .error error
          | .ok (exchanges, reader) => .ok ((call, reply) :: exchanges, reader)

variable {sourceRead} {contents : Stream → Bytes} {IsOpen : Stream → Prop}

/-- The loop appends the bytes that are wanted, or all that are left. -/
theorem pullLoop_eq (hdelivers : Delivers sourceRead contents IsOpen) {source : Stream}
    (hopen : IsOpen source) (bytes : Bytes) (wanted : Nat) :
    ∃ after, pullLoop sourceRead source bytes wanted =
        .ok (bytes ++ (contents source).take wanted, after) ∧
      IsOpen after ∧ contents after = (contents source).drop wanted := by
  induction wanted using Nat.strongRecOn generalizing source bytes with
  | ind wanted ih =>
      rw [pullLoop]
      rcases Nat.eq_zero_or_pos wanted with rfl | hpos
      · exact ⟨source, by simp, hopen, List.drop_zero.symm⟩
      · rw [if_neg (by omega)]
        obtain ⟨chunk, next, hread, hnext, hcontents, hlength, hempty⟩ :=
          hdelivers.some source wanted hopen
        simp only [hread]
        by_cases hchunk : chunk = []
        · rw [if_pos hchunk]
          have hnone := hempty hpos hchunk
          rw [hchunk, List.nil_append] at hcontents
          exact ⟨next, by simp [hnone], hnext, by simp [hcontents, hnone]⟩
        · rw [if_neg hchunk, ← hcontents, take_append_of_length_le hlength,
            drop_append_of_length_le hlength, ← List.append_assoc]
          have hshorter : wanted - chunk.length < wanted := by
            have hchunkPos := List.length_pos_of_ne_nil hchunk
            omega
          exact ih _ hshorter hnext (bytes ++ chunk)

namespace PeekableReader

variable (contents) (IsOpen) in
/-- The bytes that are left of a reader: those it has looked at, and those of its stream. -/
def left (reader : PeekableReader Stream) : Bytes := reader.buffer ++ contents reader.source

variable (IsOpen) in
/-- A reader and its stream have not been closed. -/
def Ready (reader : PeekableReader Stream) : Prop :=
  reader.closed = false ∧ IsOpen reader.source

theorem peek_eq (hdelivers : Delivers sourceRead contents IsOpen)
    {reader : PeekableReader Stream} (hready : Ready IsOpen reader) (n : Nat) :
    ∃ after, reader.peek sourceRead n = .ok ((reader.left contents).take n, after) ∧
      Ready IsOpen after ∧ after.left contents = reader.left contents := by
  obtain ⟨source, hloop, hsource, hcontents⟩ :=
    pullLoop_eq hdelivers hready.2 reader.buffer (n - reader.buffer.length)
  unfold peek
  rw [hready.1, if_neg Bool.false_ne_true]
  simp only [hloop]
  have hreply : (reader.buffer ++ (contents reader.source).take (n - reader.buffer.length)).take n =
      (reader.left contents).take n := by
    calc (reader.buffer ++ (contents reader.source).take (n - reader.buffer.length)).take n
      _ = reader.buffer.take n ++ (contents reader.source).take (n - reader.buffer.length) := by
        rw [List.take_append, List.take_take, Nat.min_self]
      _ = (reader.left contents).take n := by rw [left, List.take_append]
  refine ⟨_, by rw [hreply], ⟨rfl, hsource⟩, ?_⟩
  show reader.buffer ++ _ ++ contents source = _
  rw [hcontents, List.append_assoc, List.take_append_drop, left]

theorem read_eq (hdelivers : Delivers sourceRead contents IsOpen)
    {reader : PeekableReader Stream} (hready : Ready IsOpen reader) (n : Nat) :
    ∃ after, reader.read sourceRead n = .ok ((reader.left contents).take n, after) ∧
      Ready IsOpen after ∧ after.left contents = (reader.left contents).drop n := by
  have htaken : (reader.buffer.take n).length ≤ n := List.length_take_le n reader.buffer
  obtain ⟨source, hloop, hsource, hcontents⟩ :=
    pullLoop_eq hdelivers hready.2 (reader.buffer.take n) (n - (reader.buffer.take n).length)
  have hnonneg : ¬ (n : Int) < 0 := by omega
  have hwanted : n - (reader.buffer.take n).length = n - reader.buffer.length := by
    rw [List.length_take]
    omega
  have hkept : reader.buffer.drop (reader.buffer.take n).length = reader.buffer.drop n := by
    have hboth := (take_append_drop_length reader.buffer n).trans
      (List.take_append_drop n reader.buffer).symm
    exact List.append_cancel_left hboth
  unfold read
  rw [hready.1, if_neg Bool.false_ne_true, if_neg hnonneg]
  simp only [Int.toNat_natCast, hloop]
  refine ⟨⟨source, reader.buffer.drop (reader.buffer.take n).length, false⟩, ?_,
    ⟨rfl, hsource⟩, ?_⟩
  · rw [left, List.take_append, hwanted]
  · show reader.buffer.drop _ ++ contents source = _
    rw [hkept, hcontents, hwanted, left, List.drop_append]

theorem readAll_eq (hdelivers : Delivers sourceRead contents IsOpen)
    {reader : PeekableReader Stream} (hready : Ready IsOpen reader) :
    ∃ after, reader.read sourceRead (-1) = .ok (reader.left contents, after) ∧
      Ready IsOpen after ∧ after.left contents = [] := by
  obtain ⟨source, hread, hsource, hcontents⟩ := hdelivers.all reader.source hready.2
  unfold read
  rw [hready.1, if_neg Bool.false_ne_true, if_pos (by decide)]
  simp only [hread]
  exact ⟨⟨source, [], false⟩, rfl, ⟨rfl, hsource⟩, hcontents⟩

theorem readinto_eq (hdelivers : Delivers sourceRead contents IsOpen)
    {reader : PeekableReader Stream} (hready : Ready IsOpen reader) (length : Nat) :
    ∃ reply after, reader.readinto sourceRead length = .ok (reply, after) ∧
      Ready IsOpen after ∧
      Call.Answers (reader.left contents) (.readinto length) reply (after.left contents) := by
  unfold readinto
  rw [hready.1, if_neg Bool.false_ne_true]
  by_cases hbuffer : reader.buffer = []
  · rw [if_pos hbuffer]
    obtain ⟨chunk, source, hread, hsource, hcontents, hlength, hempty⟩ :=
      hdelivers.some reader.source length hready.2
    simp only [hread]
    have hchunk : chunk.take length = chunk := List.take_of_length_le hlength
    have hrest : chunk.drop length = [] := List.drop_eq_nil_of_le hlength
    refine ⟨_, _, rfl, ⟨rfl, hsource⟩, ?_⟩
    rw [hchunk, hrest, left, left, hbuffer]
    exact ⟨hcontents, hlength, hempty⟩
  · rw [if_neg hbuffer]
    refine ⟨_, _, rfl, ⟨rfl, hready.2⟩, ?_, List.length_take_le length _, ?_⟩
    · show reader.buffer.take length ++ (reader.buffer.drop length ++ contents reader.source) = _
      rw [← List.append_assoc, List.take_append_drop, left]
    · intro hpos hnone
      rw [List.take_eq_nil_iff] at hnone
      exact (hnone.resolve_left (by omega) |> hbuffer).elim

end PeekableReader

/-- A call of a reader that is ready answers from the bytes that are left. -/
theorem perform_answers (hdelivers : Delivers sourceRead contents IsOpen)
    {reader : PeekableReader Stream} (hready : reader.Ready IsOpen) (call : Call) :
    ∃ reply after, perform sourceRead reader call = .ok (reply, after) ∧ after.Ready IsOpen ∧
      call.Answers (reader.left contents) reply (after.left contents) := by
  cases call with
  | peek n =>
      obtain ⟨after, hpeek, hafter, hleft⟩ := PeekableReader.peek_eq hdelivers hready n
      exact ⟨_, after, hpeek, hafter, rfl, hleft⟩
  | read n =>
      obtain ⟨after, hread, hafter, hleft⟩ := PeekableReader.read_eq hdelivers hready n
      exact ⟨_, after, hread, hafter, rfl, hleft⟩
  | readAll =>
      obtain ⟨after, hread, hafter, hleft⟩ := PeekableReader.readAll_eq hdelivers hready
      exact ⟨_, after, hread, hafter, rfl, hleft⟩
  | readinto length => exact PeekableReader.readinto_eq hdelivers hready length

/-- Calls that were answered one after another. -/
def Answered : Bytes → List (Call × Bytes) → Bytes → Prop
  | left, [], after => after = left
  | left, (call, reply) :: exchanges, after =>
      ∃ middle, call.Answers left reply middle ∧ Answered middle exchanges after

/-- Any calls of a reader that is ready are answered from the bytes that are left. -/
theorem run_answered (hdelivers : Delivers sourceRead contents IsOpen)
    {reader : PeekableReader Stream} (hready : reader.Ready IsOpen) (calls : List Call) :
    ∃ exchanges after, run sourceRead reader calls = .ok (exchanges, after) ∧
      exchanges.map Prod.fst = calls ∧
      Answered (reader.left contents) exchanges (after.left contents) := by
  induction calls generalizing reader with
  | nil => exact ⟨[], reader, rfl, rfl, rfl⟩
  | cons call calls ih =>
      obtain ⟨reply, next, hperform, hnext, hanswers⟩ := perform_answers hdelivers hready call
      obtain ⟨exchanges, after, hrun, hcalls, hanswered⟩ := ih hnext
      refine ⟨(call, reply) :: exchanges, after, ?_, ?_, next.left contents, hanswers, hanswered⟩
      · rw [run]
        simp only [hperform, hrun]
      · rw [List.map_cons, hcalls]

/-- The bytes that were consumed, in order. -/
def consumedBy (exchanges : List (Call × Bytes)) : Bytes :=
  exchanges.flatMap fun exchange => exchange.1.consumed exchange.2

theorem Answered.consumedBy_append {left after : Bytes} {exchanges : List (Call × Bytes)}
    (hanswered : Answered left exchanges after) : consumedBy exchanges ++ after = left := by
  induction exchanges generalizing left with
  | nil => exact hanswered
  | cons exchange exchanges ih =>
      obtain ⟨middle, hanswers, hrest⟩ := hanswered
      rw [← hanswers.consumed_append, ← ih hrest]
      exact List.append_assoc _ _ _

/-- Calls behind others are answered from what the others have left. -/
theorem Answered.behind {left after : Bytes} {before exchanges : List (Call × Bytes)}
    (hanswered : Answered left (before ++ exchanges) after) :
    Answered (left.drop (consumedBy before).length) exchanges after := by
  induction before generalizing left with
  | nil => exact hanswered
  | cons exchange before ih =>
      obtain ⟨middle, hanswers, hrest⟩ := hanswered
      have hmiddle : left.drop (exchange.1.consumed exchange.2).length = middle := by
        rw [← hanswers.consumed_append, List.drop_left]
      have hlength : (consumedBy (exchange :: before)).length =
          (exchange.1.consumed exchange.2).length + (consumedBy before).length := by
        rw [← List.length_append]
        rfl
      rw [hlength, ← List.drop_drop, hmiddle]
      exact ih hrest

/-- What the reply to a call says when some bytes are left and others are consumed later. -/
def IsFaithful (left : Bytes) : Call → Bytes → Bytes → Prop
  | .peek n, reply, later => reply = left.take n ∧ reply.take later.length = later.take n
  | .read n, reply, _ => reply <+: left ∧ reply.length ≤ n ∧ (reply.length < n → reply = left)
  | .readAll, reply, _ => reply = left
  | .readinto length, reply, _ =>
      reply <+: left ∧ reply.length ≤ length ∧ (0 < length → reply = [] → left = [])

/-- The reply to a call that other calls follow. -/
theorem Answered.isFaithful {left after reply : Bytes} {call : Call}
    {later : List (Call × Bytes)} (hanswered : Answered left ((call, reply) :: later) after) :
    IsFaithful left call reply (consumedBy later) := by
  obtain ⟨middle, hanswers, hrest⟩ := hanswered
  have hlater := hrest.consumedBy_append
  cases call with
  | peek n =>
      obtain ⟨rfl, rfl⟩ := hanswers
      refine ⟨rfl, ?_⟩
      rw [List.take_take, ← hlater, Nat.min_comm, ← List.take_take]
      congr 1
      rw [hlater]
      conv_lhs => rw [← hlater]
      exact List.take_left
  | read n =>
      obtain ⟨rfl, -⟩ := hanswers
      refine ⟨List.take_prefix n left, List.length_take_le n left, ?_⟩
      intro hshort
      rw [List.length_take] at hshort
      exact List.take_of_length_le (by omega)
  | readAll => exact hanswers.1
  | readinto length => exact ⟨⟨middle, hanswers.1⟩, hanswers.2⟩

end Calls

/-- Calls of a reader over the chunks of a source: they all return, what they consume is a
prefix of the source, and every reply says what is left of the source there. -/
theorem peekableReader_isFaithful (source : List Bytes) (calls : List Call) :
    ∃ exchanges after,
      run IterableBytesIo.read (PeekableReader.new (IterableBytesIo.new source)) calls =
        .ok (exchanges, after) ∧
      exchanges.map Prod.fst = calls ∧ consumedBy exchanges <+: source.flatten ∧
      ∀ before call reply later, exchanges = before ++ (call, reply) :: later →
        IsFaithful (source.flatten.drop (consumedBy before).length) call reply
          (consumedBy later) := by
  have hready : (PeekableReader.new (IterableBytesIo.new source)).Ready
      fun stream => stream.closed = false := ⟨rfl, rfl⟩
  obtain ⟨exchanges, after, hrun, hcalls, hanswered⟩ :=
    run_answered IterableBytesIo.delivers hready calls
  refine ⟨exchanges, after, hrun, hcalls, ⟨_, hanswered.consumedBy_append⟩, ?_⟩
  intro before call reply later hexchanges
  rw [hexchanges] at hanswered
  exact hanswered.behind.isFaithful

/-- Chunks with an empty one among them, read across their ends. -/
example : (run IterableBytesIo.read (PeekableReader.new (IterableBytesIo.new [[1, 2], [], [3, 4]]))
    [.readinto 3, .readAll]).map Prod.fst = .ok [(.readinto 3, [1, 2, 3]), (.readAll, [4])] :=
  rfl

end DataSluice.Data.ByteReaders
