/-
# Readers with a byte cap

A byte source is read through calls that ask for a number of bytes and may be given fewer. A
capped reader answers calls of its own from such a source, counts what it takes from it, and
fails once the count is beyond the limit. `CappedReader` holds what one call of such a reader
does; what a sequence of calls does follows from it: no more than the limit is handed out, it is
the front of what the source holds, and an end is not reported for a source that holds more.

A reader may stop for reasons of its own. It is asked only that it then fails for good.

That a read which raises takes nothing is what a source adds to the rules for reads that
return: short reads, and nothing only for no bytes or at the end.
-/

import Mathlib.Data.List.Basic

namespace DataSluice.Lib

/-- A stream of bytes that may be read short. A call that raises takes nothing. -/
structure ByteSource (Stream Error : Type) where
  read : Stream → Int → Except Error (List UInt8) × Stream
  /-- The bytes that are left. -/
  contents : Stream → List UInt8
  taken : ∀ stream n chunk rest, 0 ≤ n → read stream n = (.ok chunk, rest) →
    contents stream = chunk ++ contents rest
  short : ∀ stream n chunk rest, 0 ≤ n → read stream n = (.ok chunk, rest) → chunk.length ≤ n
  atEnd : ∀ stream n rest, 0 ≤ n → read stream n = (.ok [], rest) →
    n = 0 ∨ contents stream = []
  failed : ∀ stream n error rest, 0 ≤ n → read stream n = (.error error, rest) →
    contents rest = contents stream

/-- A list of bytes as a source that hands out at most `most + 1` of them at a time. -/
def ByteSource.ofList {Error : Type} (most : Nat) : ByteSource (List UInt8) Error where
  read bytes n := (.ok (bytes.take (min n.toNat (most + 1))), bytes.drop (min n.toNat (most + 1)))
  contents bytes := bytes
  taken := by
    rintro bytes n chunk rest _ hread
    obtain ⟨hchunk, hrest⟩ := Prod.mk.inj hread
    cases hchunk
    rw [← hrest]
    exact (List.take_append_drop _ bytes).symm
  short := by
    rintro bytes n chunk rest hn hread
    cases (Prod.mk.inj hread).1
    have htaken := List.length_take_le (min n.toNat (most + 1)) bytes
    omega
  atEnd := by
    rintro bytes n rest hn hread
    have hnone : bytes.take (min n.toNat (most + 1)) = [] := Except.ok.inj (Prod.mk.inj hread).1
    rcases List.take_eq_nil_iff.mp hnone with hzero | hempty
    · exact .inl (by omega)
    · exact .inr hempty
  failed := by
    rintro bytes n error rest _ hread
    cases (Prod.mk.inj hread).1

/-- What one call of a capped reader does, in a state that is not stopped. -/
inductive CapStep {Error : Type} (limit : Nat) (asks : Bool) (left : List UInt8) (count : Nat)
    (left' : List UInt8) (count' : Nat) (stopped' : Prop) : Except Error (List UInt8) → Prop
  | /-- Bytes are handed out, or the end is reported. -/
    handed (chunk : List UInt8) (split : left = chunk ++ left')
      (counted : count' = count + chunk.length) (within : count' ≤ limit)
      (atEnd : chunk = [] → asks = true → left = []) :
      CapStep limit asks left count left' count' stopped' (.ok chunk)
  | /-- The call fails, and nothing is lost. -/
    failed (error : Error) (same : left' = left) (counted : count' = count) :
      CapStep limit asks left count left' count' stopped' (.error error)
  | /-- The call fails, and every later one. -/
    stops (error : Error) (stopped : stopped') :
      CapStep limit asks left count left' count' stopped' (.error error)

/-- A reader that hands out at most as many bytes of a source as its limit. -/
structure CappedReader (State Call Error : Type) where
  answer : State → Call → Except Error (List UInt8) × State
  /-- The call asks for at least one byte. -/
  asks : Call → Bool
  /-- What the source has left. -/
  left : State → List UInt8
  count : State → Nat
  limit : State → Nat
  stopped : State → Prop
  /-- The errors behind which the reader is stopped. -/
  overrun : Error → Prop
  fails : ∀ state call, stopped state →
    (∃ error, (answer state call).1 = .error error) ∧ stopped (answer state call).2
  step : ∀ state call, ¬ stopped state → count state ≤ limit state →
    CapStep (limit state) (asks call) (left state) (count state) (left (answer state call).2)
      (count (answer state call).2) (stopped (answer state call).2) (answer state call).1
  constant : ∀ state call, limit (answer state call).2 = limit state
  stops : ∀ state call error, (answer state call).1 = .error error → overrun error →
    stopped (answer state call).2

namespace CappedReader

variable {State Call Error : Type} (reader : CappedReader State Call Error)

/-- The calls with their answers. -/
def run (state : State) : List Call → List (Call × Except Error (List UInt8))
  | [] => []
  | call :: calls =>
      (call, (reader.answer state call).1) :: run (reader.answer state call).2 calls

/-- The bytes that an answer hands out. -/
def handed : Except Error (List UInt8) → List UInt8
  | .ok chunk => chunk
  | .error _ => []

/-- The bytes that the answers hand out, one after another. -/
def output (answers : List (Call × Except Error (List UInt8))) : List UInt8 :=
  answers.flatMap fun answered => handed answered.2

variable {reader} {state : State}

/-- A stopped reader answers with errors only. -/
theorem fails_of_stopped (hstopped : reader.stopped state) (calls : List Call) :
    ∀ answered ∈ reader.run state calls, ∃ error, answered.2 = .error error := by
  induction calls generalizing state with
  | nil =>
      intro answered hanswered
      cases hanswered
  | cons call calls ih =>
      obtain ⟨hfails, hlater⟩ := reader.fails state call hstopped
      intro answered hanswered
      rcases List.mem_cons.mp hanswered with rfl | hrest
      · exact hfails
      · exact ih hlater answered hrest

theorem output_of_errors {answers : List (Call × Except Error (List UInt8))}
    (herrors : ∀ answered ∈ answers, ∃ error, answered.2 = .error error) :
    output answers = [] := by
  apply List.flatMap_eq_nil_iff.mpr
  intro answered hanswered
  obtain ⟨error, herror⟩ := herrors answered hanswered
  rw [herror]
  rfl

/-- What is handed out is the front of what the source has left, within the limit. -/
theorem output_run (calls : List Call) (hstate : ¬ reader.stopped state)
    (hcount : reader.count state ≤ reader.limit state) :
    output (reader.run state calls) <+: reader.left state ∧
      reader.count state + (output (reader.run state calls)).length ≤ reader.limit state := by
  induction calls generalizing state with
  | nil => exact ⟨List.nil_prefix, hcount⟩
  | cons call calls ih =>
      have hstep := reader.step state call hstate hcount
      have hrest : reader.stopped (reader.answer state call).2 →
          output (reader.run (reader.answer state call).2 calls) = [] :=
        fun hstopped => output_of_errors (fails_of_stopped hstopped calls)
      show handed (reader.answer state call).1 ++
          output (reader.run (reader.answer state call).2 calls) <+: reader.left state ∧
        reader.count state + (handed (reader.answer state call).1 ++
          output (reader.run (reader.answer state call).2 calls)).length ≤ reader.limit state
      generalize (reader.answer state call).1 = result at hstep
      cases hstep with
      | handed chunk split counted within atEnd =>
          rw [split]
          by_cases hstopped : reader.stopped (reader.answer state call).2
          · rw [hrest hstopped, List.append_nil]
            exact ⟨List.prefix_append _ _, counted ▸ within⟩
          · obtain ⟨hbegins, hlength⟩ := ih hstopped (by rw [reader.constant]; exact within)
            rw [reader.constant] at hlength
            refine ⟨(List.prefix_append_right_inj chunk).mpr hbegins, ?_⟩
            rw [handed, List.length_append]
            omega
      | failed error same counted =>
          by_cases hstopped : reader.stopped (reader.answer state call).2
          · rw [hrest hstopped]
            exact ⟨List.nil_prefix, hcount⟩
          · rw [← same, ← counted, ← reader.constant state call]
            exact ih hstopped (by rw [reader.constant, counted]; exact hcount)
      | stops error stopped =>
          rw [hrest stopped]
          exact ⟨List.nil_prefix, hcount⟩

/-- No end is reported of a source that holds more than the limit. -/
theorem not_end_of_run (calls : List Call) (hstate : ¬ reader.stopped state)
    (hcount : reader.count state ≤ reader.limit state)
    (hlong : reader.limit state < reader.count state + (reader.left state).length) :
    ∀ answered ∈ reader.run state calls, reader.asks answered.1 = true →
      answered.2 ≠ .ok [] := by
  induction calls generalizing state with
  | nil =>
      intro answered hanswered
      cases hanswered
  | cons call calls ih =>
      have hstep := reader.step state call hstate hcount
      have hstopped : reader.stopped (reader.answer state call).2 →
          ∀ answered ∈ reader.run (reader.answer state call).2 calls,
            reader.asks answered.1 = true → answered.2 ≠ .ok [] := by
        intro hstopped answered hanswered _ hend
        obtain ⟨error, herror⟩ := fails_of_stopped hstopped calls answered hanswered
        rw [hend] at herror
        cases herror
      intro answered hanswered hasks
      rcases List.mem_cons.mp hanswered with rfl | hrest
      · intro hend
        have hfirst : (reader.answer state call).1 = .ok [] := hend
        rw [hfirst] at hstep
        cases hstep with
        | handed _ split counted within atEnd =>
            rw [atEnd rfl hasks, List.length_nil] at hlong
            omega
      · by_cases hends : reader.stopped (reader.answer state call).2
        · exact hstopped hends answered hrest hasks
        · generalize (reader.answer state call).1 = result at hstep
          cases hstep with
          | handed chunk split counted within atEnd =>
              refine ih hends ?_ ?_ answered hrest hasks
              · rw [reader.constant]
                exact within
              · rw [reader.constant]
                rw [split, List.length_append] at hlong
                omega
          | failed error same counted =>
              refine ih hends ?_ ?_ answered hrest hasks
              · rw [reader.constant, counted]
                exact hcount
              · rw [reader.constant, same, counted]
                exact hlong
          | stops error stopped => exact absurd stopped hends

/-- Behind an overrun every answer is an error. -/
theorem errors_behind_overrun (calls : List Call)
    {before after : List (Call × Except Error (List UInt8))} {call : Call} {error : Error}
    (hsplit : reader.run state calls = before ++ (call, .error error) :: after)
    (hoverrun : reader.overrun error) :
    ∀ answered ∈ after, ∃ error, answered.2 = .error error := by
  induction calls generalizing state before with
  | nil => simp [run] at hsplit
  | cons next calls ih =>
      cases before with
      | nil =>
          obtain ⟨hfirst, hrest⟩ := List.cons.inj hsplit
          obtain ⟨-, herror⟩ := Prod.mk.inj hfirst
          rw [← hrest]
          exact fails_of_stopped (reader.stops state next error herror hoverrun) calls
      | cons first before => exact ih (List.cons.inj hsplit).2

/-- With more requests than the limit has bytes an error is raised. -/
theorem error_of_many (calls : List Call) (hstate : ¬ reader.stopped state)
    (hcount : reader.count state ≤ reader.limit state)
    (hlong : reader.limit state < reader.count state + (reader.left state).length)
    (hmany : reader.limit state < reader.count state + calls.countP reader.asks) :
    ∃ answered ∈ reader.run state calls, ∃ error, answered.2 = .error error := by
  by_contra hnone
  have hoks : ∀ answered ∈ reader.run state calls, ∃ chunk, answered.2 = .ok chunk := by
    intro answered hanswered
    cases hresult : answered.2 with
    | ok chunk => exact ⟨chunk, rfl⟩
    | error error => exact absurd ⟨answered, hanswered, error, hresult⟩ hnone
  have hends := not_end_of_run calls hstate hcount hlong
  have hlength : calls.countP reader.asks ≤ (output (reader.run state calls)).length := by
    clear hnone hlong hmany hstate hcount
    induction calls generalizing state with
    | nil => exact Nat.zero_le _
    | cons call calls ih =>
        have hrest := ih (fun answered hanswered => hoks answered (List.mem_cons_of_mem _ hanswered))
          fun answered hanswered => hends answered (List.mem_cons_of_mem _ hanswered)
        obtain ⟨chunk, hchunk⟩ := hoks (call, (reader.answer state call).1) List.mem_cons_self
        have hfirst := hends (call, (reader.answer state call).1) List.mem_cons_self
        show _ ≤ (handed (reader.answer state call).1 ++
          output (reader.run (reader.answer state call).2 calls)).length
        simp only at hchunk hfirst
        rw [hchunk] at hfirst ⊢
        rw [List.length_append, List.countP_cons]
        split
        · next hasks =>
            have hne : chunk ≠ [] := by
              rintro rfl
              exact hfirst hasks rfl
            have hpos := List.length_pos_of_ne_nil hne
            show _ ≤ chunk.length + _
            omega
        · omega
  have hlimit := (output_run calls hstate hcount).2
  omega

end CappedReader

/-- What a cap promises of the answers to a sequence of calls: no more than the limit is handed
out, and it is the front of the contents. No end is reported of contents beyond the limit; an
error comes in time, and behind the error of the limit there are only errors. -/
structure NeverTruncates {Call Error : Type} (limit : Nat) (contents : List UInt8)
    (asks : Call → Bool) (overrun : Error → Prop)
    (answers : List (Call × Except Error (List UInt8))) : Prop where
  bounded : (CappedReader.output answers).length ≤ limit
  front : CappedReader.output answers <+: contents
  noEnd : limit < contents.length → ∀ answered ∈ answers, asks answered.1 = true →
    answered.2 ≠ .ok []
  raised : limit < contents.length → limit < (answers.map Prod.fst).countP asks →
    ∃ answered ∈ answers, ∃ error, answered.2 = .error error
  again : ∀ before call error after, answers = before ++ (call, .error error) :: after →
    overrun error → ∀ answered ∈ after, ∃ error, answered.2 = .error error

namespace CappedReader

variable {State Call Error : Type} {reader : CappedReader State Call Error} {state : State}

theorem map_fst_run (calls : List Call) : (reader.run state calls).map Prod.fst = calls := by
  induction calls generalizing state with
  | nil => rfl
  | cons call calls ih => exact congrArg (call :: ·) ih

/-- A stopped reader keeps the promises: it hands nothing out. -/
theorem neverTruncates_of_stopped (hstate : reader.stopped state) (calls : List Call) :
    NeverTruncates (reader.limit state) (reader.left state) reader.asks reader.overrun
      (reader.run state calls) := by
  have herrors := fails_of_stopped hstate calls
  have houtput := output_of_errors herrors
  refine ⟨?_, ?_, ?_, ?_, ?_⟩
  · rw [houtput]
    exact Nat.zero_le _
  · rw [houtput]
    exact List.nil_prefix
  · intro _ answered hanswered _ hend
    obtain ⟨error, herror⟩ := herrors answered hanswered
    rw [hend] at herror
    cases herror
  · intro _ hmany
    rw [map_fst_run] at hmany
    cases calls with
    | nil => simp at hmany
    | cons call calls => exact ⟨_, List.mem_cons_self, herrors _ List.mem_cons_self⟩
  · exact fun before call error after hsplit => errors_behind_overrun calls hsplit

/-- A capped reader that has read nothing keeps the promises. -/
theorem neverTruncates (reader : CappedReader State Call Error) (state : State)
    (hcount : reader.count state = 0) (calls : List Call) :
    NeverTruncates (reader.limit state) (reader.left state) reader.asks reader.overrun
      (reader.run state calls) := by
  by_cases hstate : reader.stopped state
  · exact neverTruncates_of_stopped hstate calls
  have hwithin : reader.count state ≤ reader.limit state := hcount ▸ Nat.zero_le _
  obtain ⟨hfront, hbounded⟩ := output_run calls hstate hwithin
  rw [hcount, Nat.zero_add] at hbounded
  refine ⟨hbounded, hfront, ?_, ?_, ?_⟩
  · intro hlong
    exact not_end_of_run calls hstate hwithin (by rw [hcount, Nat.zero_add]; exact hlong)
  · intro hlong hmany
    rw [map_fst_run] at hmany
    exact error_of_many calls hstate hwithin (by rw [hcount, Nat.zero_add]; exact hlong)
      (by rw [hcount, Nat.zero_add]; exact hmany)
  · exact fun before call error after hsplit => errors_behind_overrun calls hsplit

end CappedReader

end DataSluice.Lib
