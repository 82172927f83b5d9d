/-
# Effects and the environment that answers them

An imperative program is given here by what it does with a state: it ends with a value
or with an exception, and leaves a state behind in both cases. `Ends P program Q E` is
its logic: from a state with `P`, a program that returns ends with `Q` and one that
raises ends with `E`, through `try` blocks of both kinds.

Whatever a program asks of the outside (a clock, a network, a shared registry) is an
operation with an answer. An `Environment` answers an operation as it likes, knowing all
that happened before, so that a theorem for every environment is a theorem for every
clock, every network and every interference between two operations. What happened is
recorded in the `World`, beside the program's own variables.
-/

import Mathlib.Data.List.Basic

namespace DataSluice.Lib

/-- A program with a state of type `State` and exceptions of type `Error`. -/
def Effect (State Error Value : Type) : Type := State → Except Error Value × State

namespace Effect

variable {State Error : Type} {α β γ : Type}

/-- Return a value. -/
protected def pure (value : α) : Effect State Error α := fun state => (.ok value, state)

/-- Go on where the first program returned. -/
protected def bind (program : Effect State Error α) (next : α → Effect State Error β) :
    Effect State Error β := fun state =>
  match program state with
  | (.ok value, target) => next value target
  | (.error error, target) => (.error error, target)

instance : Monad (Effect State Error) where
  pure := Effect.pure
  bind := Effect.bind

/-- Read the state. -/
def get : Effect State Error State := fun state => (.ok state, state)

/-- Raise an exception. -/
def raise (error : Error) : Effect State Error α := fun state => (.error error, state)

/-- The value of a computation without effects, or its exception. -/
def ofExcept : Except Error α → Effect State Error α
  | .ok value => Effect.pure value
  | .error error => raise error

/-- `try: … except BaseException as error: …` -/
def tryExcept (program : Effect State Error α) (handler : Error → Effect State Error α) :
    Effect State Error α := fun state =>
  match program state with
  | (.ok value, target) => (.ok value, target)
  | (.error error, target) => handler error target

/-- `try: … finally: …` -/
def tryFinally (program : Effect State Error α) (cleanup : Effect State Error Unit) :
    Effect State Error α := fun state =>
  match program state with
  | (result, target) =>
      match cleanup target with
      | (.ok (), last) => (result, last)
      | (.error error, last) => (.error error, last)

/-- The program with its exceptions seen as those of another kind. -/
def mapError {Error' : Type} (f : Error → Error') (program : Effect State Error α) :
    Effect State Error' α := fun state =>
  match program state with
  | (.ok value, target) => (.ok value, target)
  | (.error error, target) => (.error (f error), target)

section Execution

variable (state : State)

@[simp] theorem pure_run (value : α) :
    (pure value : Effect State Error α) state = (.ok value, state) := rfl

@[simp] theorem bind_run (program : Effect State Error α) (next : α → Effect State Error β) :
    (program >>= next) state =
      match program state with
      | (.ok value, target) => next value target
      | (.error error, target) => (.error error, target) := rfl

@[simp] theorem map_run (program : Effect State Error α) (f : α → β) :
    (f <$> program) state =
      match program state with
      | (.ok value, target) => (.ok (f value), target)
      | (.error error, target) => (.error error, target) := rfl

@[simp] theorem raise_run (error : Error) :
    (raise error : Effect State Error α) state = (.error error, state) := rfl

@[simp] theorem ofExcept_run (result : Except Error α) :
    (ofExcept result : Effect State Error α) state = (result, state) := by
  cases result <;> rfl

@[simp] theorem tryExcept_run (program : Effect State Error α)
    (handler : Error → Effect State Error α) :
    program.tryExcept handler state =
      match program state with
      | (.ok value, target) => (.ok value, target)
      | (.error error, target) => handler error target := rfl

end Execution

theorem map_id_run (program : Effect State Error α) : id <$> program = program := by
  funext state
  show Effect.bind program Effect.pure state = program state
  unfold Effect.bind Effect.pure
  cases program state with
  | mk result target => cases result <;> rfl

theorem bind_assoc_run (program : Effect State Error α) (next : α → Effect State Error β)
    (last : β → Effect State Error γ) :
    program >>= next >>= last = program >>= fun value => next value >>= last := by
  funext state
  simp only [bind_run]
  cases program state with
  | mk result target => cases result <;> rfl

instance : LawfulMonad (Effect State Error) :=
  LawfulMonad.mk' _ map_id_run (fun _ _ => rfl) bind_assoc_run

/-- A `finally` clause that returns leaves the result alone. -/
theorem tryFinally_of_ok {program : Effect State Error α} {cleanup : Effect State Error Unit}
    {state target last : State} {result : Except Error α} {done : Unit}
    (hrun : program state = (result, target)) (hlast : cleanup target = (.ok done, last)) :
    program.tryFinally cleanup state = (result, last) := by
  unfold tryFinally
  rw [hrun]
  simp only [hlast]

/-- A `finally` clause that raises replaces the result. -/
theorem tryFinally_of_error {program : Effect State Error α} {cleanup : Effect State Error Unit}
    {state target last : State} {result : Except Error α} {error : Error}
    (hrun : program state = (result, target)) (hlast : cleanup target = (.error error, last)) :
    program.tryFinally cleanup state = (.error error, last) := by
  unfold tryFinally
  rw [hrun]
  simp only [hlast]

/-! ## How a program ends -/

/-- From a state with `P`, a program that returns ends with `Q`, and one that raises with `E`. -/
def Ends (P : State → Prop) (program : Effect State Error α) (Q : α → State → Prop)
    (E : Error → State → Prop) : Prop :=
  ∀ state, P state →
    (∀ value target, program state = (.ok value, target) → Q value target) ∧
    (∀ error target, program state = (.error error, target) → E error target)

variable {P P' : State → Prop} {Q Q' : α → State → Prop} {E E' : Error → State → Prop}

theorem Ends.anything {program : Effect State Error α} :
    Ends P program (fun _ _ => True) (fun _ _ => True) :=
  fun _ _ => ⟨fun _ _ _ => trivial, fun _ _ _ => trivial⟩

theorem Ends.pure {value : α} (hpost : ∀ state, P state → Q value state) :
    Ends P (pure value : Effect State Error α) Q E := by
  intro state hpre
  constructor
  · intro other target hrun
    cases hrun
    exact hpost state hpre
  · intro error target hrun
    cases hrun

theorem Ends.raise {error : Error} (hpost : ∀ state, P state → E error state) :
    Ends P (raise error : Effect State Error α) Q E := by
  intro state hpre
  constructor
  · intro value target hrun
    cases hrun
  · intro other target hrun
    cases hrun
    exact hpost state hpre

/-- What is known of a computation without effects is known of its value or exception. -/
theorem Ends.ofExcept {result : Except Error α}
    (hok : ∀ value, result = .ok value → ∀ state, P state → Q value state)
    (herror : ∀ error, result = .error error → ∀ state, P state → E error state) :
    Ends P (ofExcept result) Q E := by
  cases result with
  | ok value => exact .pure (hok value rfl)
  | error error => exact .raise (herror error rfl)

theorem Ends.get : Ends P (get : Effect State Error State)
    (fun value state => value = state ∧ P state) E := by
  intro state hpre
  constructor
  · intro value target hrun
    cases hrun
    exact ⟨rfl, hpre⟩
  · intro error target hrun
    cases hrun

theorem Ends.bind {R : α → State → Prop} {Q : β → State → Prop} {program : Effect State Error α}
    {next : α → Effect State Error β} (hprogram : Ends P program R E)
    (hnext : ∀ value, Ends (R value) (next value) Q E) : Ends P (program >>= next) Q E := by
  intro state hpre
  obtain ⟨hok, herror⟩ := hprogram state hpre
  rw [bind_run]
  cases hrun : program state with
  | mk result target =>
      cases result with
      | ok value => exact hnext value target (hok value target hrun)
      | error error =>
          constructor
          · intro value last heq
            cases heq
          · intro other last heq
            cases heq
            exact herror error target hrun

theorem Ends.tryExcept {F : Error → State → Prop} {program : Effect State Error α}
    {handler : Error → Effect State Error α} (hprogram : Ends P program Q F)
    (hhandler : ∀ error, Ends (F error) (handler error) Q E) :
    Ends P (program.tryExcept handler) Q E := by
  intro state hpre
  obtain ⟨hok, herror⟩ := hprogram state hpre
  unfold Effect.tryExcept
  cases hrun : program state with
  | mk result target =>
      cases result with
      | error error => exact hhandler error target (herror error target hrun)
      | ok value =>
          constructor
          · intro other last heq
            cases heq
            exact hok value target hrun
          · intro error last heq
            cases heq

theorem Ends.mapError {Error' : Type} {f : Error → Error'} {E : Error' → State → Prop}
    {program : Effect State Error α} (hprogram : Ends P program Q fun error => E (f error)) :
    Ends P (program.mapError f) Q E := by
  intro state hpre
  obtain ⟨hok, herror⟩ := hprogram state hpre
  unfold Effect.mapError
  cases hrun : program state with
  | mk result target =>
      cases result with
      | ok value =>
          constructor
          · intro other last heq
            cases heq
            exact hok value target hrun
          · intro error last heq
            cases heq
      | error error =>
          constructor
          · intro value last heq
            cases heq
          · intro other last heq
            cases heq
            exact herror error target hrun

theorem Ends.tryFinally {R : α → State → Prop} {F : Error → State → Prop}
    {program : Effect State Error α} {cleanup : Effect State Error Unit}
    (hprogram : Ends P program R F)
    (hok : ∀ value, Ends (R value) cleanup (fun _ => Q value) E)
    (herror : ∀ error, Ends (F error) cleanup (fun _ => E error) E) :
    Ends P (program.tryFinally cleanup) Q E := by
  intro state hpre
  obtain ⟨hreturned, hraised⟩ := hprogram state hpre
  cases hrun : program state with
  | mk result target =>
      cases hlast : cleanup target with
      | mk ending last =>
          cases ending with
          | ok done =>
              rw [tryFinally_of_ok hrun hlast]
              constructor
              · intro value final heq
                cases heq
                exact (hok value target (hreturned value target hrun)).1 done last hlast
              · intro error final heq
                cases heq
                exact (herror error target (hraised error target hrun)).1 done last hlast
          | error other =>
              rw [tryFinally_of_error hrun hlast]
              constructor
              · intro value final heq
                cases heq
              · intro error final heq
                cases heq
                cases result with
                | ok value =>
                    exact (hok value target (hreturned value target hrun)).2 other last hlast
                | error first =>
                    exact (herror first target (hraised first target hrun)).2 other last hlast

theorem Ends.weaken {program : Effect State Error α} (hprogram : Ends P program Q E)
    (hpre : ∀ state, P' state → P state) (hok : ∀ value state, Q value state → Q' value state)
    (herror : ∀ error state, E error state → E' error state) : Ends P' program Q' E' := by
  intro state hstate
  obtain ⟨hreturned, hraised⟩ := hprogram state (hpre state hstate)
  exact ⟨fun value target hrun => hok value target (hreturned value target hrun),
    fun error target hrun => herror error target (hraised error target hrun)⟩

/-- What is known of a program in two ways is known together. -/
theorem Ends.and {program : Effect State Error α} (hprogram : Ends P program Q E)
    (hagain : Ends P program Q' E') :
    Ends P program (fun value state => Q value state ∧ Q' value state)
      (fun error state => E error state ∧ E' error state) := by
  intro state hstate
  obtain ⟨hreturned, hraised⟩ := hprogram state hstate
  obtain ⟨hreturned', hraised'⟩ := hagain state hstate
  exact ⟨fun value target hrun => ⟨hreturned value target hrun, hreturned' value target hrun⟩,
    fun error target hrun => ⟨hraised error target hrun, hraised' error target hrun⟩⟩

/-- Two preconditions that are each enough are enough together. -/
theorem Ends.or {program : Effect State Error α} (hprogram : Ends P program Q E)
    (hother : Ends P' program Q E) : Ends (fun state => P state ∨ P' state) program Q E := by
  intro state hstate
  cases hstate with
  | inl hfirst => exact hprogram state hfirst
  | inr hsecond => exact hother state hsecond

/-- A precondition may be used as a fact when it does not depend on the state. -/
theorem Ends.assume {A : Prop} {program : Effect State Error α} (hfact : ∀ state, P state → A)
    (hprogram : A → Ends P program Q E) : Ends P program Q E :=
  fun state hpre => hprogram (hfact state hpre) state hpre

/-- A precondition may say that something exists. -/
theorem Ends.of_exists {ι : Type} {P : ι → State → Prop} {program : Effect State Error α}
    (hprogram : ∀ index, Ends (P index) program Q E) :
    Ends (fun state => ∃ index, P index state) program Q E :=
  fun state ⟨index, hpre⟩ => hprogram index state hpre

/-- The branches of a conditional start where the conditional does. -/
theorem Ends.ite {condition : Prop} [Decidable condition] {program other : Effect State Error α}
    (hthen : condition → Ends P program Q E) (helse : ¬ condition → Ends P other Q E) :
    Ends P (if condition then program else other) Q E := by
  split
  · exact hthen ‹_›
  · exact helse ‹_›

end Effect

/-! ## The environment -/

section Environment

variable {Op : Type}

/-- An operation that happened, with the answer it was given. -/
abbrev Happening (Answer : Op → Type) : Type := Σ op, Answer op

/-- Everything outside the program: it answers an operation knowing what happened before. -/
abbrev Environment (Answer : Op → Type) : Type :=
  List (Happening Answer) → (op : Op) → Answer op

/-- What happened so far, and the variables of the program. -/
structure World (Answer : Op → Type) (Locals : Type) where
  history : List (Happening Answer)
  locals : Locals

variable {Answer : Op → Type} {Locals Error : Type}

/-- Ask the environment, and record the answer. -/
def perform (environment : Environment Answer) (op : Op) :
    Effect (World Answer Locals) Error (Answer op) := fun world =>
  (.ok (environment world.history op),
    { world with history := world.history ++ [⟨op, environment world.history op⟩] })

theorem Ends.perform {environment : Environment Answer} {op : Op}
    {P : World Answer Locals → Prop} {Q : Answer op → World Answer Locals → Prop}
    {E : Error → World Answer Locals → Prop}
    (hpost : ∀ world answer, P world →
      Q answer { world with history := world.history ++ [⟨op, answer⟩] }) :
    Effect.Ends P (perform environment op) Q E := by
  intro world hpre
  constructor
  · intro value target hrun
    cases hrun
    exact hpost world _ hpre
  · intro error target hrun
    cases hrun

/-! ### Operations that raise, and variables -/

section Ask

variable {Reply : Op → Type}

/-- Ask the environment for an operation that returns or raises. -/
def ask (environment : Environment fun op => Except Error (Reply op)) (op : Op) :
    Effect (World (fun op => Except Error (Reply op)) Locals) Error (Reply op) :=
  perform environment op >>= Effect.ofExcept

theorem ask_run (environment : Environment fun op => Except Error (Reply op)) (op : Op)
    (world : World (fun op => Except Error (Reply op)) Locals) :
    ask environment op world = (environment world.history op,
      { world with history := world.history ++ [⟨op, environment world.history op⟩] }) := by
  rw [ask, Effect.bind_run, perform]
  exact Effect.ofExcept_run _ _

variable {environment : Environment fun op => Except Error (Reply op)} {op : Op}
  {P : World (fun op => Except Error (Reply op)) Locals → Prop}
  {Q : Reply op → World (fun op => Except Error (Reply op)) Locals → Prop}
  {E : Error → World (fun op => Except Error (Reply op)) Locals → Prop}

/-- The answer is the one that the environment gives. -/
theorem Ends.ask_answered
    (hreturned : ∀ world value, P world → environment world.history op = .ok value →
      Q value { world with history := world.history ++ [⟨op, .ok value⟩] })
    (hraised : ∀ world error, P world → environment world.history op = .error error →
      E error { world with history := world.history ++ [⟨op, .error error⟩] }) :
    Effect.Ends P (ask environment op) Q E := by
  intro world hpre
  rw [ask_run]
  constructor
  · intro value target hrun
    obtain ⟨hanswer, hworld⟩ := Prod.mk.inj hrun
    rw [hanswer] at hworld
    rw [← hworld]
    exact hreturned world value hpre hanswer
  · intro error target hrun
    obtain ⟨hanswer, hworld⟩ := Prod.mk.inj hrun
    rw [hanswer] at hworld
    rw [← hworld]
    exact hraised world error hpre hanswer

theorem Ends.ask
    (hreturned : ∀ world value, P world →
      Q value { world with history := world.history ++ [⟨op, .ok value⟩] })
    (hraised : ∀ world error, P world →
      E error { world with history := world.history ++ [⟨op, .error error⟩] }) :
    Effect.Ends P (ask environment op) Q E :=
  ask_answered (fun world value hpre _ => hreturned world value hpre)
    fun world error hpre _ => hraised world error hpre

end Ask

/-- Read the variables of the program. -/
def readLocals : Effect (World Answer Locals) Error Locals := fun world => (.ok world.locals, world)

/-- Change the variables of the program. -/
def setLocals (update : Locals → Locals) : Effect (World Answer Locals) Error Unit := fun world =>
  (.ok (), { world with locals := update world.locals })

theorem Ends.readLocals {P : World Answer Locals → Prop}
    {E : Error → World Answer Locals → Prop} :
    Effect.Ends P (readLocals : Effect (World Answer Locals) Error Locals)
      (fun locals world => locals = world.locals ∧ P world) E := by
  intro world hpre
  constructor
  · intro locals target hrun
    cases hrun
    exact ⟨rfl, hpre⟩
  · intro error target hrun
    cases hrun

theorem Ends.setLocals {update : Locals → Locals} {P : World Answer Locals → Prop}
    {Q : Unit → World Answer Locals → Prop} {E : Error → World Answer Locals → Prop}
    (hpost : ∀ world, P world → Q () { world with locals := update world.locals }) :
    Effect.Ends P (setLocals update : Effect (World Answer Locals) Error Unit) Q E := by
  intro world hpre
  constructor
  · intro value target hrun
    cases hrun
    exact hpost world hpre
  · intro error target hrun
    cases hrun

end Environment

end DataSluice.Lib
