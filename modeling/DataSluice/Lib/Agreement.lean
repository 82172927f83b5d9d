/-
# Programs that agree

Two programs over different states agree, for a relation between the states, when from
related states they return the same or raise the same and end in related states. The rules
follow the operators that programs are made of, so that two bodies written apart are
compared operator by operator.

Over a world the relation compares what happened, and the variables as far as they matter.
-/

import DataSluice.Lib.Effect

namespace DataSluice.Lib

namespace Effect

variable {State State' Error α β : Type} {R : State → State' → Prop}

/-- From related states both programs end alike, in related states. -/
def Agree (R : State → State' → Prop) (program : Effect State Error α)
    (other : Effect State' Error α) : Prop :=
  ∀ state state', R state state' →
    (program state).1 = (other state').1 ∧ R (program state).2 (other state').2

theorem Agree.pure (value : α) :
    Agree R (pure value : Effect State Error α) (pure value : Effect State' Error α) :=
  fun _ _ hstate => ⟨rfl, hstate⟩

theorem Agree.raise (error : Error) :
    Agree R (raise error : Effect State Error α) (raise error : Effect State' Error α) :=
  fun _ _ hstate => ⟨rfl, hstate⟩

theorem Agree.ofExcept (result : Except Error α) :
    Agree R (ofExcept result : Effect State Error α) (ofExcept result : Effect State' Error α) := by
  cases result with
  | ok value => exact Agree.pure value
  | error error => exact Agree.raise error

/-- Programs that are put together of agreeing parts agree, since the second part starts from the
related states in which the first one ends. -/
theorem Agree.bind {program : Effect State Error α} {other : Effect State' Error α}
    {next : α → Effect State Error β} {next' : α → Effect State' Error β}
    (hprogram : Agree R program other) (hnext : ∀ value, Agree R (next value) (next' value)) :
    Agree R (program >>= next) (other >>= next') := by
  intro state state' hstate
  obtain ⟨hresult, htarget⟩ := hprogram state state' hstate
  rw [bind_run, bind_run]
  cases hrun : program state with
  | mk result target =>
      cases hrun' : other state' with
      | mk result' target' =>
          rw [hrun, hrun'] at hresult htarget
          cases (show result = result' from hresult)
          cases result with
          | ok value => exact hnext value target target' htarget
          | error error => exact ⟨rfl, htarget⟩

/-- What comes behind a computation without effects is given its value. -/
theorem Agree.ofExcept_bind {result : Except Error α} {next : α → Effect State Error β}
    {next' : α → Effect State' Error β}
    (hnext : ∀ value, result = .ok value → Agree R (next value) (next' value)) :
    Agree R (Effect.ofExcept result >>= next) (Effect.ofExcept result >>= next') := by
  cases result with
  | ok value => exact hnext value rfl
  | error error => exact Agree.raise error

/-- The handlers have to agree on every error that both programs may end with. -/
theorem Agree.tryExcept {program : Effect State Error α} {other : Effect State' Error α}
    {handler : Error → Effect State Error α} {handler' : Error → Effect State' Error α}
    (hprogram : Agree R program other)
    (hhandler : ∀ error, Agree R (handler error) (handler' error)) :
    Agree R (program.tryExcept handler) (other.tryExcept handler') := by
  intro state state' hstate
  obtain ⟨hresult, htarget⟩ := hprogram state state' hstate
  rw [tryExcept_run, tryExcept_run]
  cases hrun : program state with
  | mk result target =>
      cases hrun' : other state' with
      | mk result' target' =>
          rw [hrun, hrun'] at hresult htarget
          cases (show result = result' from hresult)
          cases result with
          | ok value => exact ⟨rfl, htarget⟩
          | error error => exact hhandler error target target' htarget

/-- A cleanup runs behind both ends of its program, so it has to agree in all related states. -/
theorem Agree.tryFinally {program : Effect State Error α} {other : Effect State' Error α}
    {cleanup : Effect State Error Unit} {cleanup' : Effect State' Error Unit}
    (hprogram : Agree R program other) (hcleanup : Agree R cleanup cleanup') :
    Agree R (program.tryFinally cleanup) (other.tryFinally cleanup') := by
  intro state state' hstate
  obtain ⟨hresult, htarget⟩ := hprogram state state' hstate
  cases hrun : program state with
  | mk result target =>
      cases hrun' : other state' with
      | mk result' target' =>
          rw [hrun, hrun'] at hresult htarget
          obtain ⟨hend, hlast⟩ := hcleanup target target' htarget
          cases hclean : cleanup target with
          | mk ending last =>
              cases hclean' : cleanup' target' with
              | mk ending' last' =>
                  rw [hclean, hclean'] at hend hlast
                  cases (show ending = ending' from hend)
                  cases ending with
                  | ok done =>
                      rw [tryFinally_of_ok hrun hclean, tryFinally_of_ok hrun' hclean']
                      exact ⟨hresult, hlast⟩
                  | error error =>
                      rw [tryFinally_of_error hrun hclean, tryFinally_of_error hrun' hclean']
                      exact ⟨rfl, hlast⟩

theorem Agree.ite {condition : Prop} [Decidable condition] {first second : Effect State Error α}
    {first' second' : Effect State' Error α} (hfirst : Agree R first first')
    (hsecond : Agree R second second') :
    Agree R (if condition then first else second) (if condition then first' else second') := by
  split
  · exact hfirst
  · exact hsecond

/-- A program that marks its success, and cleans up behind the mark only, agrees with one that
goes on behind its success. -/
theorem Agree.cleanup_marked {Running : State → State' → Prop}
    {attempt body mark cleanup : Effect State Error Unit} {other : Effect State' Error Unit}
    {handler : Error → Effect State Error Unit} {handler' : Error → Effect State' Error Unit}
    {last : Effect State Error α} {next : Effect State' Error α} (hbody : Agree Running body other)
    (hattempt : attempt = body >>= fun _ => mark)
    (hhandler : ∀ error, Agree Running (handler error) (handler' error))
    (hraises : ∀ error, Ends (fun _ => True) (handler error) (fun _ _ => False) (fun _ _ => True))
    (hkeep : ∀ state state', Running state state' → R state state')
    (hidle : ∀ state state', Running state state' → cleanup state = (.ok (), state))
    (hmarked : ∀ state state', Running state state' → ∃ target, mark state = (.ok (), target) ∧
      ((cleanup >>= fun _ => last) target).1 = (next state').1 ∧
        R ((cleanup >>= fun _ => last) target).2 (next state').2)
    (state : State) (state' : State') (hstate : Running state state') :
    (((attempt.tryExcept handler).tryFinally cleanup >>= fun _ => last) state).1 =
        ((other.tryExcept handler' >>= fun _ => next) state').1 ∧
      R (((attempt.tryExcept handler).tryFinally cleanup >>= fun _ => last) state).2
        ((other.tryExcept handler' >>= fun _ => next) state').2 := by
  subst hattempt
  obtain ⟨hresult, htarget⟩ := hbody state state' hstate
  cases hrun : body state with
  | mk result target =>
      cases hrun' : other state' with
      | mk result' target' =>
          rw [hrun, hrun'] at hresult htarget
          cases (show result = result' from hresult)
          cases result with
          | ok done =>
              obtain ⟨marked, hmark, hlast⟩ := hmarked target target' htarget
              have htry : ((body >>= fun _ => mark).tryExcept handler) state = (.ok (), marked) := by
                simp only [tryExcept_run, bind_run, hrun, hmark]
              have hother : (other.tryExcept handler') state' = (.ok done, target') := by
                simp only [tryExcept_run, hrun']
              have hcleanup : ((body >>= fun _ => mark).tryExcept handler).tryFinally cleanup state =
                  cleanup marked := by
                cases hclean : cleanup marked with
                | mk ending final =>
                    cases ending with
                    | ok done => exact tryFinally_of_ok htry hclean
                    | error error => exact tryFinally_of_error htry hclean
              rw [bind_run, bind_run, hcleanup, hother]
              exact hlast
          | error error =>
              obtain ⟨hraised, hfinal⟩ := hhandler error target target' htarget
              obtain ⟨hnever, -⟩ := hraises error target trivial
              have htry : ((body >>= fun _ => mark).tryExcept handler) state =
                  handler error target := by
                simp only [tryExcept_run, bind_run, hrun]
              have hother : (other.tryExcept handler') state' = handler' error target' := by
                simp only [tryExcept_run, hrun']
              cases hhandle : handler error target with
              | mk result final =>
                  cases hhandle' : handler' error target' with
                  | mk result' final' =>
                      rw [hhandle, hhandle'] at hraised hfinal
                      cases (show result = result' from hraised)
                      cases result with
                      | ok done => exact (hnever done final hhandle).elim
                      | error raised =>
                          have hcleanup := tryFinally_of_ok (htry.trans hhandle)
                            (hidle final final' hfinal)
                          rw [bind_run, bind_run, hcleanup, hother, hhandle']
                          exact ⟨rfl, hkeep final final' hfinal⟩

/-- What is known of how a program ends is known of one that agrees with it. -/
theorem Agree.ends {program : Effect State Error α} {other : Effect State' Error α}
    {P : State → Prop} {Q : α → State → Prop} {E : Error → State → Prop} {P' : State' → Prop}
    {Q' : α → State' → Prop} {E' : Error → State' → Prop} (hagree : Agree R program other)
    (hends : Ends P program Q E)
    (hstart : ∀ state', P' state' → ∃ state, P state ∧ R state state')
    (hok : ∀ value state state', R state state' → Q value state → Q' value state')
    (herror : ∀ error state state', R state state' → E error state → E' error state') :
    Ends P' other Q' E' := by
  intro state' hstate'
  obtain ⟨state, hstate, halike⟩ := hstart state' hstate'
  obtain ⟨hresult, htarget⟩ := hagree state state' halike
  obtain ⟨hreturned, hraised⟩ := hends state hstate
  constructor
  · intro value target' hrun'
    rw [hrun'] at hresult htarget
    exact hok value _ target' htarget (hreturned value _ (Prod.ext hresult rfl))
  · intro error target' hrun'
    rw [hrun'] at hresult htarget
    exact herror error _ target' htarget (hraised error _ (Prod.ext hresult rfl))

/-! ## Programs that keep a property -/

/-- The program ends where it starts, with the property, whether it returns or raises. -/
def Keeps (P : State → Prop) (program : Effect State Error α) : Prop :=
  ∀ state, P state → P (program state).2

/-- The states are the same and have the property. -/
def SameWith (P : State → Prop) (state state' : State) : Prop := state = state' ∧ P state

/-- To keep a property is to agree with oneself where it holds. -/
theorem keeps_iff_agree {P : State → Prop} {program : Effect State Error α} :
    Keeps P program ↔ Agree (SameWith P) program program := by
  constructor
  · rintro hkeeps state _ ⟨rfl, hstate⟩
    exact ⟨rfl, rfl, hkeeps state hstate⟩
  · exact fun hagree state hstate => (hagree state state ⟨rfl, hstate⟩).2.2

/-- To keep a property is to end with it on both ends. -/
theorem Keeps.ends {P : State → Prop} {program : Effect State Error α} (hkeeps : Keeps P program) :
    Ends P program (fun _ => P) (fun _ => P) := by
  intro state hstate
  have htarget := hkeeps state hstate
  constructor
  · intro value target hrun
    rw [hrun] at htarget
    exact htarget
  · intro error target hrun
    rw [hrun] at htarget
    exact htarget

theorem Ends.keeps {P : State → Prop} {program : Effect State Error α}
    (hends : Ends P program (fun _ => P) (fun _ => P)) : Keeps P program := by
  intro state hstate
  obtain ⟨hok, herror⟩ := hends state hstate
  cases hrun : program state with
  | mk result target =>
      cases result with
      | ok value => exact hok value target hrun
      | error error => exact herror error target hrun

theorem Keeps.pure {P : State → Prop} (value : α) :
    Keeps P (pure value : Effect State Error α) := fun _ hstate => hstate

theorem Keeps.raise {P : State → Prop} (error : Error) :
    Keeps P (raise error : Effect State Error α) := fun _ hstate => hstate

/-- What both parts of a program keep, it keeps. -/
theorem Keeps.bind {P : State → Prop} {program : Effect State Error α}
    {next : α → Effect State Error β} (hprogram : Keeps P program)
    (hnext : ∀ value, Keeps P (next value)) : Keeps P (program >>= next) :=
  keeps_iff_agree.mpr ((keeps_iff_agree.mp hprogram).bind fun value =>
    keeps_iff_agree.mp (hnext value))

/-- A handler starts where the program raised, and the property still holds there. -/
theorem Keeps.tryExcept {P : State → Prop} {program : Effect State Error α}
    {handler : Error → Effect State Error α} (hprogram : Keeps P program)
    (hhandler : ∀ error, Keeps P (handler error)) : Keeps P (program.tryExcept handler) :=
  keeps_iff_agree.mpr ((keeps_iff_agree.mp hprogram).tryExcept fun error =>
    keeps_iff_agree.mp (hhandler error))

theorem Keeps.tryFinally {P : State → Prop} {program : Effect State Error α}
    {cleanup : Effect State Error Unit} (hprogram : Keeps P program) (hcleanup : Keeps P cleanup) :
    Keeps P (program.tryFinally cleanup) :=
  keeps_iff_agree.mpr ((keeps_iff_agree.mp hprogram).tryFinally (keeps_iff_agree.mp hcleanup))

/-- The program keeps the property, and raises only where the assumption holds. -/
def Steady (A : Prop) (P : State → Prop) (program : Effect State Error α) : Prop :=
  Ends P program (fun _ => P) (fun _ state => P state ∧ A)

theorem Steady.pure {A : Prop} {P : State → Prop} (value : α) :
    Steady A P (pure value : Effect State Error α) := Ends.pure fun _ => id

/-- A program of two steady parts raises only where one of them does. -/
theorem Steady.bind {A : Prop} {P : State → Prop} {program : Effect State Error α}
    {next : α → Effect State Error β} (hprogram : Steady A P program)
    (hnext : ∀ value, Steady A P (next value)) : Steady A P (program >>= next) :=
  Ends.bind hprogram hnext

theorem Steady.ite {A : Prop} {P : State → Prop} {condition : Prop} [Decidable condition]
    {program other : Effect State Error α} (hthen : Steady A P program)
    (helse : Steady A P other) : Steady A P (if condition then program else other) :=
  Ends.ite (fun _ => hthen) fun _ => helse

end Effect

/-! ## Over a world -/

section World

variable {Op Locals Locals' Error : Type} {Answer : Op → Type} {Reply : Op → Type}
  {alike : Locals → Locals' → Prop}

/-- The same happened, and the variables are alike. -/
structure World.Alike (alike : Locals → Locals' → Prop) (world : World Answer Locals)
    (world' : World Answer Locals') : Prop where
  history : world.history = world'.history
  locals : alike world.locals world'.locals

/-- An environment answers by the history, so it gives related states the same answer to the same
question. -/
theorem Agree.ask (environment : Environment fun op => Except Error (Reply op)) (op : Op) :
    Effect.Agree (World.Alike alike)
      (ask environment op :
        Effect (World (fun op => Except Error (Reply op)) Locals) Error (Reply op))
      (ask environment op) := by
  intro world world' hworld
  rw [ask_run, ask_run, hworld.history]
  exact ⟨rfl, rfl, hworld.locals⟩

/-- What is known of the history that a program leaves is known of one that agrees with it. -/
theorem Agree.ends_history {α : Type} {program : Effect (World Answer Locals) Error α}
    {other : Effect (World Answer Locals') Error α} {P : List (Happening Answer) → Prop}
    {Q : α → List (Happening Answer) → Prop} {E : Error → List (Happening Answer) → Prop}
    (hagree : Effect.Agree (World.Alike alike) program other)
    (halike : ∀ locals', ∃ locals, alike locals locals')
    (hends : Effect.Ends (fun world => P world.history) program
      (fun value world => Q value world.history) fun error world => E error world.history) :
    Effect.Ends (fun world => P world.history) other
      (fun value world => Q value world.history) fun error world => E error world.history := by
  apply Effect.Agree.ends hagree hends
  · intro world' hworld'
    obtain ⟨locals, hlocals⟩ := halike world'.locals
    exact ⟨⟨world'.history, locals⟩, hworld', rfl, hlocals⟩
  · intro value world world' hworld hvalue
    rw [← hworld.history]
    exact hvalue
  · intro error world world' hworld herror
    rw [← hworld.history]
    exact herror

/-- Alike variables have to be alike after the update as well. -/
theorem Agree.setLocals {update : Locals → Locals} {update' : Locals' → Locals'}
    (hupdate : ∀ locals locals', alike locals locals' → alike (update locals) (update' locals')) :
    Effect.Agree (World.Alike alike)
      (setLocals update : Effect (World Answer Locals) Error Unit) (setLocals update') :=
  fun _ _ hworld => ⟨rfl, hworld.history, hupdate _ _ hworld.locals⟩

end World

end DataSluice.Lib
