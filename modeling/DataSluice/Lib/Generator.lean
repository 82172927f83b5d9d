/-
# Generators

A generator is given here by all that a consumer can pull out of it: the values it
yields, in order, and whether it returns or raises after them. The body of a
generator that only depends on what it pulls from another one is then a function
between the two, and laziness is the fact that such a function produces its values
from a prefix of the values it is given.

A generator function runs nothing before its first value is pulled. A check at the top
of its body is therefore an exception in place of all values.
-/

namespace DataSluice.Lib

/-- The values a generator yields, and how it ends. -/
inductive Generator (Error Value : Type)
  | /-- It returns. -/
    stop
  | /-- It raises. -/
    raise (error : Error)
  | /-- It yields a value and goes on. -/
    yield (value : Value) (rest : Generator Error Value)

namespace Generator

variable {Error α β γ : Type}

/-- All values that are yielded. -/
def values : Generator Error α → List α
  | stop => []
  | raise _ => []
  | yield value rest => value :: rest.values

/-- Whether the generator ends with an exception. -/
def fails : Generator Error α → Bool
  | stop => false
  | raise _ => true
  | yield _ rest => rest.fails

/-- Whether the generator raises in place of its first value. -/
def failsAtOnce : Generator Error α → Bool
  | raise _ => true
  | _ => false

/-- The generator over a list. -/
def ofList : List α → Generator Error α
  | [] => stop
  | value :: rest => yield value (ofList rest)

/-- Yield the items of a list, and go on as a generator. -/
def prepend : List α → Generator Error α → Generator Error α
  | [], generator => generator
  | item :: items, generator => yield item (prepend items generator)

/-- Yield what one generator yields, and then what another one does. -/
def append : Generator Error α → Generator Error α → Generator Error α
  | stop, second => second
  | raise error, _ => raise error
  | yield value rest, second => yield value (append rest second)

/-- `for value in values: yield from body(value)` -/
def forEach (body : α → Generator Error β) : Generator Error α → Generator Error β
  | stop => stop
  | raise error => raise error
  | yield value rest => append (body value) (forEach body rest)

@[simp] theorem values_ofList (items : List α) :
    (ofList items : Generator Error α).values = items := by
  induction items with
  | nil => rfl
  | cons item items ih => rw [ofList, values, ih]

/-- A generator fails at once when it fails and yields nothing. -/
theorem failsAtOnce_iff (generator : Generator Error α) :
    generator.failsAtOnce = true ↔ generator.values = [] ∧ generator.fails = true := by
  cases generator with
  | stop => simp [failsAtOnce, fails]
  | raise error => simp [failsAtOnce, values, fails]
  | yield value rest => simp [failsAtOnce, values]

end Generator

end DataSluice.Lib
