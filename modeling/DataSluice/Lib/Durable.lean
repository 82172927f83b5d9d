/-
# Programs with durable steps

A program that survives crashes only through what it has already written is
given here by its trace: the durable state after each of its writes, and its
result. A crash cuts the trace after any number of writes and loses everything
else, the result included.

`Triple P program Q C` is partial correctness for such programs. From a state
with `P` every write leaves `C`, and a program that returns does so with `Q`. A
crash therefore leaves `C`, or the state the program started from. `Returns P program Q`
is total correctness: from a state with `P` the program does return, with `Q`. `Raises`
bounds the errors a program may end with. `Ends P program Q E` says what holds at the end of
either kind, and goes through `try` blocks. `Decides C P program Q E` adds that a proposition
known beforehand tells which of the two ends it is.
-/

import Mathlib.Data.List.Basic

namespace DataSluice.Lib

/-- A program over durable states of type `State`. -/
def Durable (State Error Value : Type) : Type :=
  State → List State × Except Error Value

namespace Durable

variable {State Error : Type} {α β γ : Type}

/-- The states a program writes, in order. -/
def writes (program : Durable State Error α) (state : State) : List State :=
  (program state).1

/-- How a program ends. -/
def result (program : Durable State Error α) (state : State) : Except Error α :=
  (program state).2

/-- The durable state after the whole program. -/
def final (program : Durable State Error α) (state : State) : State :=
  (program.writes state).getLastD state

/-- The durable state a crash after `count` writes leaves. -/
def crashAfter (program : Durable State Error α) (count : Nat) (state : State) : State :=
  ((program.writes state).take count).getLastD state

/-- Return without writing. -/
protected def pure (value : α) : Durable State Error α := fun _ => ([], .ok value)

/-- Run a second program from where the first one ended. -/
protected def bind (program : Durable State Error α) (next : α → Durable State Error β) :
    Durable State Error β := fun state =>
  match program.result state with
  | .ok value =>
      (program.writes state ++ (next value).writes (program.final state),
        (next value).result (program.final state))
  | .error error => (program.writes state, .error error)

instance : Monad (Durable State Error) where
  pure := Durable.pure
  bind := Durable.bind

/-- Read the durable state. -/
def read : Durable State Error State := fun state => ([], .ok state)

/-- One durable write. -/
def write (update : State → State) : Durable State Error Unit := fun state =>
  ([update state], .ok ())

/-- Fail without writing. -/
def fail (error : Error) : Durable State Error α := fun _ => ([], .error error)

/-- The value of a computation that does not touch the state, or its error. -/
def ofExcept : Except Error α → Durable State Error α
  | .ok value => Durable.pure value
  | .error error => fail error

/-- An operation that fails with the given error, if there is one. -/
def attempt : Option Error → Durable State Error Unit
  | none => Durable.pure ()
  | some error => fail error

/-- `try: … finally: …` -/
def tryFinally (program : Durable State Error α) (cleanup : Durable State Error Unit) :
    Durable State Error α := fun state =>
  let last := program.final state
  (program.writes state ++ cleanup.writes last,
    match cleanup.result last with
    | .ok () => program.result state
    | .error error => .error error)

/-- `try: … except Exception as error: …` -/
def tryExcept (program : Durable State Error α) (handler : Error → Durable State Error α) :
    Durable State Error α := fun state =>
  match program.result state with
  | .ok value => (program.writes state, .ok value)
  | .error error =>
      let last := program.final state
      (program.writes state ++ (handler error).writes last, (handler error).result last)

/-- Run a program once for each item, passing a value on. -/
def fold (body : γ → α → Durable State Error α) : List γ → α → Durable State Error α
  | [], value => pure value
  | item :: items, value => do fold body items (← body item value)

/-! ## Crash triples -/

/-- Partial correctness with an invariant of every intermediate durable state. -/
def Triple (P : State → Prop) (program : Durable State Error α) (Q : α → State → Prop)
    (C : State → Prop) : Prop :=
  ∀ state, P state →
    (∀ written ∈ program.writes state, C written) ∧
    (∀ value, program.result state = .ok value → Q value (program.final state))

variable {P P' : State → Prop} {C C' : State → Prop} {Q Q' : α → State → Prop}

theorem Triple.pure {value : α} (hpost : ∀ state, P state → Q value state) :
    Triple P (Pure.pure value : Durable State Error α) Q C := by
  refine fun state hpre => ⟨fun written hwritten => absurd hwritten List.not_mem_nil, ?_⟩
  rintro _ ⟨⟩
  exact hpost state hpre

theorem getLastD_append (first second : List State) (state : State) :
    (first ++ second).getLastD state = second.getLastD (first.getLastD state) := by
  induction first generalizing state with
  | nil => rfl
  | cons written first ih => rw [List.cons_append, List.getLastD_cons, List.getLastD_cons, ih]

/-- What a program that returned contributes to the one it is followed by. -/
theorem bind_of_ok {program : Durable State Error α} {state : State} {value : α}
    (next : α → Durable State Error β) (hvalue : program.result state = .ok value) :
    (program >>= next).writes state =
        program.writes state ++ (next value).writes (program.final state) ∧
      (program >>= next).result state = (next value).result (program.final state) ∧
      (program >>= next).final state = (next value).final (program.final state) := by
  have hbind : (program >>= next) state =
      (program.writes state ++ (next value).writes (program.final state),
        (next value).result (program.final state)) := by
    change Durable.bind program next state = _
    rw [Durable.bind, hvalue]
  have hwrites : (program >>= next).writes state =
      program.writes state ++ (next value).writes (program.final state) :=
    congrArg Prod.fst hbind
  have hresult : (program >>= next).result state = (next value).result (program.final state) := by
    change ((program >>= next) state).2 = _
    rw [hbind]
  refine ⟨hwrites, hresult, ?_⟩
  rw [final, hwrites, getLastD_append]
  rfl

theorem bind_of_error {program : Durable State Error α} {state : State} {error : Error}
    (next : α → Durable State Error β) (herror : program.result state = .error error) :
    (program >>= next).writes state = program.writes state ∧
      (program >>= next).result state = .error error := by
  have hbind : (program >>= next) state = (program.writes state, .error error) := by
    change Durable.bind program next state = _
    rw [Durable.bind, herror]
  exact ⟨congrArg Prod.fst hbind, congrArg Prod.snd hbind⟩

/-- An error comes from the first program, or from the second one behind it. -/
theorem result_bind_eq_error {program : Durable State Error α}
    {next : α → Durable State Error β} {state : State} {error : Error}
    (herror : (program >>= next).result state = .error error) :
    (program.result state = .error error ∧
        (program >>= next).final state = program.final state) ∨
      ∃ value, program.result state = .ok value ∧
        (next value).result (program.final state) = .error error ∧
        (program >>= next).final state = (next value).final (program.final state) := by
  cases hvalue : program.result state with
  | error other =>
      obtain ⟨hwrites, hfailed⟩ := bind_of_error next hvalue
      rw [hfailed] at herror
      cases herror
      exact .inl ⟨rfl, by rw [final, hwrites, final]⟩
  | ok value =>
      obtain ⟨-, hresult, hfinal⟩ := bind_of_ok next hvalue
      rw [hresult] at herror
      exact .inr ⟨value, rfl, herror, hfinal⟩

theorem Triple.bind {R : α → State → Prop} {Q : β → State → Prop}
    {program : Durable State Error α} {next : α → Durable State Error β}
    (hprogram : Triple P program R C) (hnext : ∀ value, Triple (R value) (next value) Q C) :
    Triple P (program >>= next) Q C := by
  intro state hpre
  obtain ⟨hwrites, hresult⟩ := hprogram state hpre
  cases hvalue : program.result state with
  | error error =>
      obtain ⟨hsame, hfailed⟩ := bind_of_error next hvalue
      rw [hsame, hfailed]
      exact ⟨hwrites, fun value hok => by cases hok⟩
  | ok value =>
      obtain ⟨hboth, hlast, hend⟩ := bind_of_ok next hvalue
      obtain ⟨hlater, hpost⟩ := hnext value _ (hresult value hvalue)
      rw [hboth, hlast, hend]
      refine ⟨fun written hwritten => ?_, hpost⟩
      exact (List.mem_append.mp hwritten).elim (hwrites written) (hlater written)

theorem Triple.read : Triple P (read : Durable State Error State)
    (fun value state => value = state ∧ P state) C := by
  refine fun state hpre => ⟨fun written hwritten => absurd hwritten List.not_mem_nil, ?_⟩
  rintro _ ⟨⟩
  exact ⟨rfl, hpre⟩

theorem Triple.write {update : State → State} {Q : Unit → State → Prop}
    (hcrash : ∀ state, P state → C (update state))
    (hpost : ∀ state, P state → Q () (update state)) :
    Triple P (write update : Durable State Error Unit) Q C := by
  intro state hpre
  refine ⟨fun written hwritten => ?_, fun value _ => hpost state hpre⟩
  rw [List.mem_singleton.mp hwritten]
  exact hcrash state hpre

theorem Triple.fail {error : Error} : Triple P (fail error : Durable State Error α) Q C :=
  fun _ _ => ⟨fun _ hwritten => absurd hwritten List.not_mem_nil, fun _ hok => by cases hok⟩

theorem Triple.attempt {fault : Option Error} :
    Triple P (attempt fault : Durable State Error Unit) (fun _ => P) C := by
  cases fault with
  | none => exact .pure fun _ hpre => hpre
  | some error => exact .fail

theorem Triple.weaken {program : Durable State Error α} (hprogram : Triple P program Q C)
    (hpre : ∀ state, P' state → P state) (hpost : ∀ value state, Q value state → Q' value state) :
    Triple P' program Q' C := by
  intro state hstate
  obtain ⟨hwrites, hresult⟩ := hprogram state (hpre state hstate)
  exact ⟨hwrites, fun value hvalue => hpost value _ (hresult value hvalue)⟩

/-- Nothing is claimed of a program whose writes and result do not matter. -/
theorem Triple.anything {program : Durable State Error α} :
    Triple P program (fun _ _ => True) (fun _ => True) :=
  fun _ _ => ⟨fun _ _ => trivial, fun _ _ => trivial⟩

/-- A precondition may be used as a fact when it does not depend on the state. -/
theorem Triple.assume {F : Prop} {program : Durable State Error α}
    (hfact : ∀ state, P state → F) (hprogram : F → Triple P program Q C) :
    Triple P program Q C :=
  fun state hpre => hprogram (hfact state hpre) state hpre

/-- The branches of a conditional start where the conditional does. -/
theorem Triple.ite {condition : Prop} [Decidable condition]
    {program other : Durable State Error α} (hthen : condition → Triple P program Q C)
    (helse : ¬ condition → Triple P other Q C) :
    Triple P (if condition then program else other) Q C := by
  split
  · exact hthen ‹_›
  · exact helse ‹_›

/-- A loop keeps an invariant of its value, the items still to come and the state. -/
theorem Triple.fold {body : γ → α → Durable State Error α} {I : List γ → α → State → Prop}
    (hbody : ∀ item items value, Triple (I (item :: items) value) (body item value) (I items) C)
    (items : List γ) (value : α) : Triple (I items value) (fold body items value) (I []) C := by
  induction items generalizing value with
  | nil => exact Triple.pure fun _ hinvariant => hinvariant
  | cons item items ih => exact (hbody item items value).bind ih

/-- A crash leaves a written state, or the one the program started from. -/
theorem Triple.crashAfter {program : Durable State Error α} (hprogram : Triple P program Q C)
    {state : State} (hpre : P state) (count : Nat) :
    C (program.crashAfter count state) ∨ program.crashAfter count state = state := by
  have hmem : program.crashAfter count state ∈ state :: (program.writes state).take count :=
    List.getLastD_mem_cons
  rcases List.mem_cons.mp hmem with hsame | hwritten
  · exact .inr hsame
  · exact .inl ((hprogram state hpre).1 _ (List.mem_of_mem_take hwritten))

/-! ## Total correctness -/

/-- From every state with `P` the program returns, and then `Q` holds. -/
def Returns (P : State → Prop) (program : Durable State Error α) (Q : α → State → Prop) : Prop :=
  ∀ state, P state → ∃ value, program.result state = .ok value ∧ Q value (program.final state)

theorem Returns.pure {value : α} (hpost : ∀ state, P state → Q value state) :
    Returns P (Pure.pure value : Durable State Error α) Q :=
  fun state hpre => ⟨value, rfl, hpost state hpre⟩

theorem Returns.bind {R : α → State → Prop} {Q : β → State → Prop}
    {program : Durable State Error α} {next : α → Durable State Error β}
    (hprogram : Returns P program R) (hnext : ∀ value, Returns (R value) (next value) Q) :
    Returns P (program >>= next) Q := by
  intro state hpre
  obtain ⟨value, hvalue, hmiddle⟩ := hprogram state hpre
  obtain ⟨last, hlast, hpost⟩ := hnext value _ hmiddle
  obtain ⟨-, hresult, hfinal⟩ := bind_of_ok next hvalue
  rw [← hresult] at hlast
  rw [← hfinal] at hpost
  exact ⟨last, hlast, hpost⟩

theorem Returns.read : Returns P (read : Durable State Error State)
    (fun value state => value = state ∧ P state) :=
  fun state hpre => ⟨state, rfl, rfl, hpre⟩

theorem Returns.write {update : State → State} {Q : Unit → State → Prop}
    (hpost : ∀ state, P state → Q () (update state)) :
    Returns P (write update : Durable State Error Unit) Q :=
  fun state hpre => ⟨(), rfl, hpost state hpre⟩

theorem Returns.attempt {fault : Option Error} (hworks : fault = none) :
    Returns P (attempt fault : Durable State Error Unit) (fun _ => P) := by
  subst hworks
  exact .pure fun _ hpre => hpre

theorem Returns.weaken {program : Durable State Error α} (hprogram : Returns P program Q)
    (hpre : ∀ state, P' state → P state) (hpost : ∀ value state, Q value state → Q' value state) :
    Returns P' program Q' := by
  intro state hstate
  obtain ⟨value, hvalue, hreached⟩ := hprogram state (hpre state hstate)
  exact ⟨value, hvalue, hpost value _ hreached⟩

/-- A precondition may be used as a fact when it does not depend on the state. -/
theorem Returns.assume {F : Prop} {program : Durable State Error α}
    (hfact : ∀ state, P state → F) (hprogram : F → Returns P program Q) : Returns P program Q :=
  fun state hpre => hprogram (hfact state hpre) state hpre

/-- A loop returns when its body does, and keeps an invariant. -/
theorem Returns.fold {body : γ → α → Durable State Error α} {I : List γ → α → State → Prop}
    (hbody : ∀ item items value, Returns (I (item :: items) value) (body item value) (I items))
    (items : List γ) (value : α) : Returns (I items value) (fold body items value) (I []) := by
  induction items generalizing value with
  | nil => exact Returns.pure fun _ hinvariant => hinvariant
  | cons item items ih => exact (hbody item items value).bind ih

/-! ## Errors -/

/-- Every error the program ends with meets `E`. -/
def Raises (program : Durable State Error α) (E : Error → Prop) : Prop :=
  ∀ state error, program.result state = .error error → E error

variable {E : Error → Prop}

theorem Raises.pure {value : α} : Raises (Pure.pure value : Durable State Error α) E := by
  intro state error herror
  cases herror

theorem Raises.read : Raises (read : Durable State Error State) E := by
  intro state error herror
  cases herror

theorem Raises.write {update : State → State} :
    Raises (write update : Durable State Error Unit) E := by
  intro state error herror
  cases herror

theorem Raises.fail {error : Error} (herror : E error) :
    Raises (fail error : Durable State Error α) E := by
  intro state other hother
  cases hother
  exact herror

theorem Raises.attempt {fault : Option Error} (herror : ∀ error ∈ fault, E error) :
    Raises (attempt fault : Durable State Error Unit) E := by
  cases fault with
  | none => exact .pure
  | some error => exact .fail (herror error rfl)

theorem Raises.bind {program : Durable State Error α} {next : α → Durable State Error β}
    (hprogram : Raises program E) (hnext : ∀ value, Raises (next value) E) :
    Raises (program >>= next) E := by
  intro state error herror
  cases hvalue : program.result state with
  | ok value =>
      obtain ⟨-, hresult, -⟩ := bind_of_ok next hvalue
      rw [hresult] at herror
      exact hnext value _ error herror
  | error other =>
      obtain ⟨-, hresult⟩ := bind_of_error next hvalue
      rw [hresult] at herror
      cases herror
      exact hprogram state _ hvalue

theorem Raises.fold {body : γ → α → Durable State Error α}
    (hbody : ∀ item value, Raises (body item value) E) (items : List γ) (value : α) :
    Raises (fold body items value) E := by
  induction items generalizing value with
  | nil => exact .pure
  | cons item items ih => exact (hbody item value).bind ih

/-! ## Both ends -/

/-- From a state with `P`, a program that returns ends with `Q`, and one that fails with `E`. -/
def Ends (P : State → Prop) (program : Durable State Error α) (Q : α → State → Prop)
    (E : Error → State → Prop) : Prop :=
  ∀ state, P state →
    (∀ value, program.result state = .ok value → Q value (program.final state)) ∧
    (∀ error, program.result state = .error error → E error (program.final state))

section Ends

variable {F F' : Error → State → Prop}

theorem Ends.pure {value : α} (hpost : ∀ state, P state → Q value state) :
    Ends P (Pure.pure value : Durable State Error α) Q F := by
  intro state hpre
  constructor
  · intro other hother
    cases hother
    exact hpost state hpre
  · intro error herror
    cases herror

theorem Ends.fail {error : Error} (hpost : ∀ state, P state → F error state) :
    Ends P (fail error : Durable State Error α) Q F := by
  intro state hpre
  constructor
  · intro value hvalue
    cases hvalue
  · intro other hother
    cases hother
    exact hpost state hpre

theorem Ends.read : Ends P (read : Durable State Error State)
    (fun value state => value = state ∧ P state) F := by
  intro state hpre
  constructor
  · intro value hvalue
    cases hvalue
    exact ⟨rfl, hpre⟩
  · intro error herror
    cases herror

theorem Ends.write {update : State → State} {Q : Unit → State → Prop}
    (hpost : ∀ state, P state → Q () (update state)) :
    Ends P (write update : Durable State Error Unit) Q F := by
  intro state hpre
  constructor
  · intro value _
    exact hpost state hpre
  · intro error herror
    cases herror

theorem Ends.bind {R : α → State → Prop} {Q : β → State → Prop}
    {program : Durable State Error α} {next : α → Durable State Error β}
    (hprogram : Ends P program R F) (hnext : ∀ value, Ends (R value) (next value) Q F) :
    Ends P (program >>= next) Q F := by
  intro state hpre
  have hfirst := hprogram state hpre
  cases hvalue : program.result state with
  | ok value =>
      obtain ⟨-, hresult, hfinal⟩ := bind_of_ok next hvalue
      rw [hresult, hfinal]
      exact hnext value _ (hfirst.1 value hvalue)
  | error error =>
      obtain ⟨hwrites, hresult⟩ := bind_of_error next hvalue
      have hfinal : (program >>= next).final state = program.final state := by
        rw [final, hwrites, final]
      rw [hresult, hfinal]
      constructor
      · intro value hok
        cases hok
      · intro other hother
        cases hother
        exact hfirst.2 error hvalue

theorem Ends.weaken {program : Durable State Error α} (hprogram : Ends P program Q F)
    (hpre : ∀ state, P' state → P state) (hpost : ∀ value state, Q value state → Q' value state)
    (herror : ∀ error state, F error state → F' error state) : Ends P' program Q' F' := by
  intro state hstate
  have hends := hprogram state (hpre state hstate)
  exact ⟨fun value hvalue => hpost value _ (hends.1 value hvalue),
    fun error hfailed => herror error _ (hends.2 error hfailed)⟩

theorem Ends.attempt {fault : Option Error} {F : Error → State → Prop}
    (herror : ∀ error state, P state → F error state) :
    Ends P (attempt fault : Durable State Error Unit) (fun _ => P) F := by
  cases fault with
  | none => exact .pure fun _ hpre => hpre
  | some error => exact .fail fun state hpre => herror error state hpre

/-- A loop keeps what its body keeps. -/
theorem Ends.fold {body : γ → α → Durable State Error α} {F : Error → State → Prop}
    (hbody : ∀ item value, Ends P (body item value) (fun _ => P) F) (items : List γ) (value : α) :
    Ends P (fold body items value) (fun _ => P) F := by
  induction items generalizing value with
  | nil => exact .pure fun _ hpre => hpre
  | cons item items ih => exact (hbody item value).bind ih

/-- A precondition may be used as a fact when it does not depend on the state. -/
theorem Ends.assume {A : Prop} {program : Durable State Error α}
    (hfact : ∀ state, P state → A) (hprogram : A → Ends P program Q F) :
    Ends P program Q F :=
  fun state hpre => hprogram (hfact state hpre) state hpre

theorem Ends.ite {condition : Prop} [Decidable condition]
    {program other : Durable State Error α} (hthen : condition → Ends P program Q F)
    (helse : ¬ condition → Ends P other Q F) :
    Ends P (if condition then program else other) Q F := by
  split
  · exact hthen ‹_›
  · exact helse ‹_›

theorem final_tryFinally (program : Durable State Error α) (cleanup : Durable State Error Unit)
    (state : State) :
    (program.tryFinally cleanup).final state = cleanup.final (program.final state) := by
  change (program.writes state ++ cleanup.writes (program.final state)).getLastD state = _
  rw [getLastD_append]
  rfl

/-- Cleaning up, which itself returns, changes nothing but the state. -/
theorem result_tryFinally {program : Durable State Error α} {cleanup : Durable State Error Unit}
    {state : State} (hcleanup : cleanup.result (program.final state) = .ok ()) :
    (program.tryFinally cleanup).result state = program.result state := by
  change (match cleanup.result (program.final state) with
    | .ok () => program.result state
    | .error error => .error error) = _
  rw [hcleanup]

theorem Ends.tryExcept {R : Error → State → Prop} {program : Durable State Error α}
    {handler : Error → Durable State Error α} (hprogram : Ends P program Q R)
    (hhandler : ∀ error, Ends (R error) (handler error) Q F) :
    Ends P (program.tryExcept handler) Q F := by
  intro state hpre
  have hfirst := hprogram state hpre
  cases hvalue : program.result state with
  | ok value =>
      have hsame : program.tryExcept handler state = (program.writes state, .ok value) := by
        rw [Durable.tryExcept, hvalue]
      have hfinal : (program.tryExcept handler).final state = program.final state := by
        rw [final, writes, hsame]
        rfl
      rw [result, hsame, hfinal]
      constructor
      · intro other hother
        cases hother
        exact hfirst.1 value hvalue
      · intro error herror
        cases herror
  | error error =>
      have hboth : program.tryExcept handler state =
          (program.writes state ++ (handler error).writes (program.final state),
            (handler error).result (program.final state)) := by
        rw [Durable.tryExcept, hvalue]
      have hfinal : (program.tryExcept handler).final state =
          (handler error).final (program.final state) := by
        rw [final, writes, hboth, getLastD_append]
        rfl
      rw [result, hboth, hfinal]
      exact hhandler error _ (hfirst.2 error hvalue)

end Ends

/-! ## Ends that are known beforehand -/

/-- From a state with `P` the program returns exactly when `C` holds. Then it ends with `Q`, and
otherwise with `F`. Since `C` does not mention a state, it is a condition on what the program is
given. -/
def Decides (C : Prop) (P : State → Prop) (program : Durable State Error α)
    (Q : α → State → Prop) (F : State → Prop) : Prop :=
  Ends P program (fun value state => C ∧ Q value state) (fun _ state => ¬ C ∧ F state)

section Decides

variable {A C D : Prop} {F F' : State → Prop}

theorem Decides.pure {value : α} (hreturns : C) (hpost : ∀ state, P state → Q value state) :
    Decides C P (Pure.pure value : Durable State Error α) Q F :=
  Ends.pure fun state hpre => ⟨hreturns, hpost state hpre⟩

theorem Decides.fail {error : Error} (hfails : ¬ C) (hpost : ∀ state, P state → F state) :
    Decides C P (fail error : Durable State Error α) Q F :=
  Ends.fail fun state hpre => ⟨hfails, hpost state hpre⟩

theorem Decides.attempt {fault : Option Error} (herror : ∀ state, P state → F state) :
    Decides (fault = none) P (attempt fault : Durable State Error Unit) (fun _ => P) F := by
  cases fault with
  | none => exact .pure rfl fun _ hpre => hpre
  | some error => exact .fail nofun herror

theorem Decides.read : Decides True P (read : Durable State Error State)
    (fun value state => value = state ∧ P state) F :=
  Ends.read.weaken (fun _ hpre => hpre) (fun _ _ hpost => ⟨trivial, hpost⟩)
    fun _ _ hfailed => hfailed

theorem Decides.write {update : State → State} {Q : Unit → State → Prop}
    (hpost : ∀ state, P state → Q () (update state)) :
    Decides True P (write update : Durable State Error Unit) Q F :=
  Ends.write fun state hpre => ⟨trivial, hpost state hpre⟩

/-- Two programs in sequence return when both do. What decides over the second one may use that
the first one has returned. -/
theorem Decides.bind {R : α → State → Prop} {Q : β → State → Prop}
    {program : Durable State Error α} {next : α → Durable State Error β}
    (hprogram : Decides C P program R F)
    (hnext : C → ∀ value, Decides D (R value) (next value) Q F) :
    Decides (C ∧ D) P (program >>= next) Q F := by
  apply Ends.bind (R := fun value state => C ∧ R value state)
  · exact Ends.weaken hprogram (fun _ hpre => hpre) (fun _ _ hpost => hpost)
      fun _ _ hfailed => ⟨fun hboth => hfailed.1 hboth.1, hfailed.2⟩
  · intro value
    apply Ends.assume fun _ hpre => hpre.1
    intro hfirst
    exact Ends.weaken (hnext hfirst value) (fun _ hpre => hpre.2)
      (fun _ _ hpost => ⟨⟨hfirst, hpost.1⟩, hpost.2⟩)
      fun _ _ hfailed => ⟨fun hboth => hfailed.1 hboth.2, hfailed.2⟩

/-- The same proposition in other words decides as well. -/
theorem Decides.congr {program : Durable State Error α} (hprogram : Decides C P program Q F)
    (hsame : C ↔ D) : Decides D P program Q F := by
  rw [← propext hsame]
  exact hprogram

/-- A program is decided over by its first half when the second one always returns. -/
theorem Decides.bind_true {R : α → State → Prop} {Q : β → State → Prop}
    {program : Durable State Error α} {next : α → Durable State Error β}
    (hprogram : Decides C P program R F)
    (hnext : C → ∀ value, Decides True (R value) (next value) Q F) :
    Decides C P (program >>= next) Q F :=
  (hprogram.bind hnext).congr (iff_of_eq (and_true C))

/-- And by its second half when the first one always returns. -/
theorem Decides.true_bind {R : α → State → Prop} {Q : β → State → Prop}
    {program : Durable State Error α} {next : α → Durable State Error β}
    (hprogram : Decides True P program R F)
    (hnext : ∀ value, Decides D (R value) (next value) Q F) :
    Decides D P (program >>= next) Q F :=
  (hprogram.bind fun _ => hnext).congr (iff_of_eq (true_and D))

theorem Decides.weaken {program : Durable State Error α} (hprogram : Decides C P program Q F)
    (hpre : ∀ state, P' state → P state)
    (hpost : C → ∀ value state, Q value state → Q' value state)
    (herror : ∀ state, F state → F' state) : Decides C P' program Q' F' := by
  apply Ends.weaken hprogram hpre
  · exact fun value state hended => ⟨hended.1, hpost hended.1 value state hended.2⟩
  · exact fun _ state hended => ⟨hended.1, herror state hended.2⟩

/-- A precondition may be used as a fact when it does not depend on the state. -/
theorem Decides.assume {program : Durable State Error α} (hfact : ∀ state, P state → A)
    (hprogram : A → Decides C P program Q F) : Decides C P program Q F :=
  Ends.assume hfact hprogram

/-- A precondition may say that something exists. -/
theorem Decides.of_exists {ι : Sort*} {P : ι → State → Prop} {program : Durable State Error α}
    (hprogram : ∀ index, Decides C (P index) program Q F) :
    Decides C (fun state => ∃ index, P index state) program Q F :=
  fun state ⟨index, hpre⟩ => hprogram index state hpre

theorem Decides.ite {condition : Prop} [Decidable condition]
    {program other : Durable State Error α} (hthen : condition → Decides C P program Q F)
    (helse : ¬ condition → Decides C P other Q F) :
    Decides C P (if condition then program else other) Q F :=
  Ends.ite hthen helse

/-- A handler that raises again leaves the decision to the program it guards. -/
theorem Decides.tryExcept {G : State → Prop} {program : Durable State Error α}
    {handler : Error → Durable State Error α} (hprogram : Decides C P program Q G)
    (hhandler : ∀ error, Decides False G (handler error) Q F) :
    Decides C P (program.tryExcept handler) Q F := by
  apply Ends.tryExcept hprogram
  intro error
  apply Ends.assume fun _ hpre => hpre.1
  intro hfailed
  exact Ends.weaken (hhandler error) (fun _ hpre => hpre.2) (fun _ _ hpost => hpost.1.elim)
    fun _ _ hpost => ⟨hfailed, hpost.2⟩

/-- A program that returns was bound to. -/
theorem Decides.of_ok {program : Durable State Error α} (hprogram : Decides C P program Q F)
    {state : State} (hpre : P state) {value : α} (hvalue : program.result state = .ok value) :
    C ∧ Q value (program.final state) :=
  (hprogram state hpre).1 value hvalue

/-- What is decided happens. -/
theorem Decides.exists_ok {program : Durable State Error α} (hprogram : Decides C P program Q F)
    {state : State} (hpre : P state) (hreturns : C) :
    ∃ value, program.result state = .ok value ∧ Q value (program.final state) := by
  cases hvalue : program.result state with
  | ok value => exact ⟨value, rfl, ((hprogram state hpre).1 value hvalue).2⟩
  | error error => exact absurd hreturns ((hprogram state hpre).2 error hvalue).1

end Decides

end Durable

end DataSluice.Lib
