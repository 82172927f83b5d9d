/-
# Regular expressions

A backtracking matcher tries the ways to match at a place in a fixed order and takes the first.
`runs` lists all of them in that order: earlier alternatives first, and longer repetitions before
shorter ones. `sub` replaces the matches of a text from left to right. The words of an expression
are what its runs read.
-/

import Mathlib.Data.List.Forall2
import Mathlib.Data.List.Infix

namespace DataSluice.Lib

/-- A regular expression. Only classes of characters are repeated, as often as possible. -/
inductive Regex
  | empty
  | test (accepts : Char → Bool)
  | /-- `\b`, between a character of a word and another one. -/
    boundary (ofWord : Char → Bool)
  | seq (first second : Regex)
  | alt (first second : Regex)
  | repeated (accepts : Char → Bool)
  | group (body : Regex)

namespace Regex

/-- A place in a text: the character in front of it, and the text behind. -/
structure Place where
  before : Option Char
  rest : List Char
  deriving DecidableEq

/-- The place behind so many characters more. -/
def Place.past (place : Place) (word rest : List Char) : Place :=
  ⟨word.getLast?.or place.before, rest⟩

/-- A way to match: the texts of the groups, and the place behind the match. -/
structure Run where
  groups : List (List Char)
  after : Place
  deriving DecidableEq

/-- The places behind a repetition. -/
def repeats (accepts : Char → Bool) (before : Option Char) : List Char → List Place
  | [] => [⟨before, []⟩]
  | character :: rest =>
      if accepts character then repeats accepts (some character) rest ++ [⟨before, character :: rest⟩]
      else [⟨before, character :: rest⟩]

/-- The ways to match at a place. -/
def runs : Regex → Place → List Run
  | empty, place => [⟨[], place⟩]
  | test _, ⟨_, []⟩ => []
  | test accepts, ⟨_, character :: rest⟩ =>
      if accepts character then [⟨[], ⟨some character, rest⟩⟩] else []
  | boundary ofWord, place =>
      if (place.before.any ofWord) != (place.rest.head?.any ofWord) then [⟨[], place⟩] else []
  | seq first second, place =>
      (first.runs place).flatMap fun run =>
        (second.runs run.after).map fun next => ⟨run.groups ++ next.groups, next.after⟩
  | alt first second, place => first.runs place ++ second.runs place
  | repeated accepts, place => (repeats accepts place.before place.rest).map (⟨[], ·⟩)
  | group body, place =>
      (body.runs place).map fun run =>
        ⟨place.rest.take (place.rest.length - run.after.rest.length) :: run.groups, run.after⟩

/-- The match at a place. -/
def matchAt (pattern : Regex) (place : Place) : Option Run := (pattern.runs place).head?

/-- `pattern.sub`, for a pattern that matches no empty text. So many characters of the last match
are still to be skipped. -/
def sub (pattern : Regex) (replacement : List (List Char) → List Char) :
    Option Char → Nat → List Char → List Char
  | _, _, [] => []
  | _, skip + 1, character :: rest => sub pattern replacement (some character) skip rest
  | before, 0, character :: rest =>
      match pattern.matchAt ⟨before, character :: rest⟩ with
      | some run =>
          replacement run.groups ++
            sub pattern replacement (some character) (rest.length - run.after.rest.length) rest
      | none => character :: sub pattern replacement (some character) 0 rest

/-! ## Equations -/

section Equations

variable (place : Place) (before : Option Char) (character : Char) (rest : List Char)

theorem repeats_nil (accepts : Char → Bool) : repeats accepts before [] = [⟨before, []⟩] := rfl

theorem repeats_cons (accepts : Char → Bool) : repeats accepts before (character :: rest) =
    if accepts character then repeats accepts (some character) rest ++ [⟨before, character :: rest⟩]
    else [⟨before, character :: rest⟩] := rfl

theorem runs_empty : empty.runs place = [⟨[], place⟩] := rfl

theorem runs_test_cons (accepts : Char → Bool) : (test accepts).runs ⟨before, character :: rest⟩ =
    if accepts character then [⟨[], ⟨some character, rest⟩⟩] else [] := rfl

theorem runs_boundary (ofWord : Char → Bool) : (boundary ofWord).runs place =
    if (place.before.any ofWord) != (place.rest.head?.any ofWord) then [⟨[], place⟩] else [] := rfl

theorem runs_seq (first second : Regex) : (seq first second).runs place =
    (first.runs place).flatMap fun run =>
      (second.runs run.after).map fun next => ⟨run.groups ++ next.groups, next.after⟩ := rfl

theorem runs_alt (first second : Regex) :
    (alt first second).runs place = first.runs place ++ second.runs place := rfl

theorem runs_repeated (accepts : Char → Bool) : (repeated accepts).runs place =
    (repeats accepts place.before place.rest).map (⟨[], ·⟩) := rfl

theorem runs_group (body : Regex) : (group body).runs place = (body.runs place).map fun run =>
    ⟨place.rest.take (place.rest.length - run.after.rest.length) :: run.groups, run.after⟩ := rfl

theorem matchAt_eq (pattern : Regex) : pattern.matchAt place = (pattern.runs place).head? := rfl

theorem past_eq (word : List Char) : place.past word rest = ⟨word.getLast?.or place.before, rest⟩ := rfl

variable (pattern : Regex) (replacement : List (List Char) → List Char)

theorem sub_skip_cons (skip : Nat) : sub pattern replacement before (skip + 1) (character :: rest) =
    sub pattern replacement (some character) skip rest := rfl

theorem sub_of_none {pattern : Regex} (h : pattern.matchAt ⟨before, character :: rest⟩ = none) :
    sub pattern replacement before 0 (character :: rest) =
      character :: sub pattern replacement (some character) 0 rest := by
  show (match pattern.matchAt ⟨before, character :: rest⟩ with
    | some run => replacement run.groups ++ sub pattern replacement (some character)
        (rest.length - run.after.rest.length) rest
    | none => character :: sub pattern replacement (some character) 0 rest) = _
  rw [h]

theorem sub_of_some {pattern : Regex} {run : Run}
    (h : pattern.matchAt ⟨before, character :: rest⟩ = some run) :
    sub pattern replacement before 0 (character :: rest) =
      replacement run.groups ++ sub pattern replacement (some character)
        (rest.length - run.after.rest.length) rest := by
  show (match pattern.matchAt ⟨before, character :: rest⟩ with
    | some run => replacement run.groups ++ sub pattern replacement (some character)
        (rest.length - run.after.rest.length) rest
    | none => character :: sub pattern replacement (some character) 0 rest) = _
  rw [h]

end Equations

/-! ## Derived forms -/

/-- `…?` -/
def optional (body : Regex) : Regex := alt body empty

/-- `[…]+` -/
def oneOrMore (accepts : Char → Bool) : Regex := seq (test accepts) (repeated accepts)

/-- The letters of a literal. -/
def literal (accepts : Char → Char → Bool) (letters : List Char) : Regex :=
  letters.foldr (fun letter => seq (test (accepts letter))) empty

/-- `…|…` -/
def oneOf : List Regex → Regex
  | [] => test fun _ => false
  | [body] => body
  | body :: bodies => alt body (oneOf bodies)

/-! ## Words -/

/-- The texts that a regular expression reads, edges of words apart. -/
def Word : Regex → List Char → Prop
  | empty, word => word = []
  | test accepts, word => ∃ character, accepts character = true ∧ word = [character]
  | boundary _, word => word = []
  | seq first second, word => ∃ front back, word = front ++ back ∧ first.Word front ∧ second.Word back
  | alt first second, word => first.Word word ∨ second.Word word
  | repeated accepts, word => ∀ character ∈ word, accepts character = true
  | group body, word => body.Word word

/-- Nothing in the expression looks in front of its place. -/
def BoundaryFree : Regex → Prop
  | empty => True
  | test _ => True
  | boundary _ => False
  | seq first second => first.BoundaryFree ∧ second.BoundaryFree
  | alt first second => first.BoundaryFree ∧ second.BoundaryFree
  | repeated _ => True
  | group body => body.BoundaryFree

theorem Place.past_past (place : Place) (front back middle rest : List Char) :
    (place.past front middle).past back rest = place.past (front ++ back) rest := by
  calc (place.past front middle).past back rest
    _ = ⟨back.getLast?.or (front.getLast?.or place.before), rest⟩ := by rw [past_eq, past_eq]
    _ = ⟨(front ++ back).getLast?.or place.before, rest⟩ := by
      rw [List.getLast?_append, Option.or_assoc]
    _ = place.past (front ++ back) rest := rfl

@[simp] theorem Place.past_rest (place : Place) (word rest : List Char) :
    (place.past word rest).rest = rest := rfl

theorem Place.past_cons (before : Option Char) (character : Char) (text word rest : List Char) :
    (Place.mk (some character) text).past word rest =
      (Place.mk before (character :: text)).past (character :: word) rest := by
  rw [past_eq, past_eq, List.getLast?_cons]
  cases word.getLast? <;> rfl

theorem mem_repeats {accepts : Char → Bool} {before : Option Char} {text : List Char}
    {place : Place} : place ∈ repeats accepts before text ↔
      ∃ word, text = word ++ place.rest ∧ (∀ character ∈ word, accepts character = true) ∧
        place = (Place.mk before text).past word place.rest := by
  induction text generalizing before with
  | nil =>
      rw [repeats_nil, List.mem_singleton]
      constructor
      · rintro rfl
        exact ⟨[], rfl, fun _ h => absurd h List.not_mem_nil, rfl⟩
      · rintro ⟨word, hword, -, hplace⟩
        obtain ⟨rfl, hrest⟩ := List.append_eq_nil_iff.mp hword.symm
        rw [hplace, hrest]
        rfl
  | cons character text ih =>
      have hstop : place = ⟨before, character :: text⟩ → ∃ word, character :: text =
          word ++ place.rest ∧ (∀ character ∈ word, accepts character = true) ∧
            place = (Place.mk before (character :: text)).past word place.rest := by
        rintro rfl
        exact ⟨[], rfl, fun _ h => absurd h List.not_mem_nil, rfl⟩
      have hempty : ∀ word, character :: text = word ++ place.rest →
          place = (Place.mk before (character :: text)).past word place.rest →
            word = [] → place = ⟨before, character :: text⟩ := by
        rintro word hword hplace rfl
        rw [hplace, ← List.nil_append place.rest, ← hword]
        rfl
      rw [repeats_cons]
      split
      · next haccepts =>
          rw [List.mem_append, ih, List.mem_singleton]
          constructor
          · rintro (⟨word, htext, hword, hplace⟩ | hplace)
            · refine ⟨character :: word, by rw [List.cons_append, ← htext], ?_, ?_⟩
              · exact List.forall_mem_cons.mpr ⟨haccepts, hword⟩
              · rw [← Place.past_cons before]
                exact hplace
            · exact hstop hplace
          · rintro ⟨word, htext, hword, hplace⟩
            cases word with
            | nil => exact .inr (hempty [] htext hplace rfl)
            | cons first word =>
                rw [List.cons_append, List.cons.injEq] at htext
                obtain ⟨rfl, htext⟩ := htext
                rw [← Place.past_cons before] at hplace
                exact .inl ⟨word, htext, fun _ h => hword _ (List.mem_cons_of_mem _ h), hplace⟩
      · next hrefused =>
          rw [List.mem_singleton]
          constructor
          · exact hstop
          · rintro ⟨word, htext, hword, hplace⟩
            cases word with
            | nil => exact hempty [] htext hplace rfl
            | cons first word =>
                obtain ⟨rfl, -⟩ := List.cons.inj htext
                exact absurd (hword _ List.mem_cons_self) hrefused

/-- What a run reads is a word of the expression. -/
theorem exists_word {pattern : Regex} {place : Place} {run : Run} (h : run ∈ pattern.runs place) :
    ∃ word, place.rest = word ++ run.after.rest ∧ pattern.Word word ∧
      run.after = place.past word run.after.rest := by
  induction pattern generalizing place run with
  | empty =>
      rw [runs_empty, List.mem_singleton] at h
      subst h
      exact ⟨[], rfl, rfl, rfl⟩
  | test accepts =>
      obtain ⟨before, text⟩ := place
      cases text with
      | nil => cases h
      | cons character text =>
          rw [runs_test_cons] at h
          split at h
          · next haccepts =>
              rw [List.mem_singleton] at h
              subst h
              exact ⟨[character], rfl, ⟨character, haccepts, rfl⟩, rfl⟩
          · cases h
  | boundary ofWord =>
      rw [runs_boundary] at h
      split at h
      · rw [List.mem_singleton] at h
        subst h
        exact ⟨[], rfl, rfl, rfl⟩
      · cases h
  | seq first second ihFirst ihSecond =>
      rw [runs_seq, List.mem_flatMap] at h
      obtain ⟨middle, hmiddle, h⟩ := h
      obtain ⟨last, hlast, rfl⟩ := List.mem_map.mp h
      obtain ⟨front, hfront, hfrontWord, hplace⟩ := ihFirst hmiddle
      obtain ⟨back, hback, hbackWord, hafter⟩ := ihSecond hlast
      refine ⟨front ++ back, ?_, ⟨front, back, rfl, hfrontWord, hbackWord⟩, ?_⟩
      · rw [hfront, hback, List.append_assoc]
      · show last.after = _
        rw [hafter, hplace, Place.past_past]
        rfl
  | alt first second ihFirst ihSecond =>
      rw [runs_alt, List.mem_append] at h
      rcases h with h | h
      · obtain ⟨word, hrest, hword, hafter⟩ := ihFirst h
        exact ⟨word, hrest, .inl hword, hafter⟩
      · obtain ⟨word, hrest, hword, hafter⟩ := ihSecond h
        exact ⟨word, hrest, .inr hword, hafter⟩
  | repeated accepts =>
      rw [runs_repeated] at h
      obtain ⟨behind, hbehind, rfl⟩ := List.mem_map.mp h
      obtain ⟨word, hrest, hword, hafter⟩ := mem_repeats.mp hbehind
      exact ⟨word, hrest, hword, hafter⟩
  | group body ih =>
      rw [runs_group] at h
      obtain ⟨inner, hinner, rfl⟩ := List.mem_map.mp h
      exact @ih place inner hinner

/-- Every word of an expression without edges is read where it stands. -/
theorem exists_run {pattern : Regex} (hfree : pattern.BoundaryFree) {place : Place}
    {word rest : List Char} (hword : pattern.Word word) (hrest : place.rest = word ++ rest) :
    ∃ run ∈ pattern.runs place, run.after = place.past word rest := by
  induction pattern generalizing place word rest with
  | empty =>
      obtain rfl : word = [] := hword
      rw [List.nil_append] at hrest
      subst hrest
      exact ⟨⟨[], place⟩, List.mem_singleton_self _, rfl⟩
  | test accepts =>
      obtain ⟨character, haccepts, rfl⟩ := hword
      obtain ⟨before, text⟩ := place
      obtain rfl : text = character :: rest := hrest
      refine ⟨⟨[], ⟨some character, rest⟩⟩, ?_, rfl⟩
      rw [runs_test_cons, if_pos haccepts]
      exact List.mem_singleton_self _
  | boundary ofWord => exact hfree.elim
  | seq first second ihFirst ihSecond =>
      obtain ⟨front, back, rfl, hfront, hback⟩ := hword
      rw [List.append_assoc] at hrest
      obtain ⟨middle, hmiddle, hplace⟩ := ihFirst hfree.1 hfront hrest
      have hbehind : middle.after.rest = back ++ rest := by rw [hplace, Place.past_rest]
      obtain ⟨last, hlast, hafter⟩ := ihSecond hfree.2 hback hbehind
      refine ⟨⟨middle.groups ++ last.groups, last.after⟩, ?_, ?_⟩
      · rw [runs_seq, List.mem_flatMap]
        exact ⟨middle, hmiddle, List.mem_map_of_mem hlast⟩
      · show last.after = _
        rw [hafter, hplace, Place.past_past]
  | alt first second ihFirst ihSecond =>
      rcases hword with hword | hword
      · obtain ⟨run, hrun, hafter⟩ := ihFirst hfree.1 hword hrest
        exact ⟨run, List.mem_append_left _ hrun, hafter⟩
      · obtain ⟨run, hrun, hafter⟩ := ihSecond hfree.2 hword hrest
        exact ⟨run, List.mem_append_right _ hrun, hafter⟩
  | repeated accepts =>
      refine ⟨⟨[], place.past word rest⟩, ?_, rfl⟩
      rw [runs_repeated]
      exact List.mem_map_of_mem (mem_repeats.mpr ⟨word, hrest, hword, rfl⟩)
  | group body ih =>
      obtain ⟨run, hrun, hafter⟩ := ih hfree hword hrest
      exact ⟨⟨_, run.after⟩, List.mem_map_of_mem hrun, hafter⟩

/-- A group holds what it read. -/
theorem mem_runs_group {body : Regex} {place : Place} {run : Run}
    (h : run ∈ (group body).runs place) :
    ∃ word inner, inner ∈ body.runs place ∧ place.rest = word ++ inner.after.rest ∧
      body.Word word ∧ run = ⟨word :: inner.groups, inner.after⟩ := by
  rw [runs_group] at h
  obtain ⟨inner, hinner, rfl⟩ := List.mem_map.mp h
  obtain ⟨word, hrest, hword, -⟩ := exists_word hinner
  refine ⟨word, inner, hinner, hrest, hword, ?_⟩
  rw [hrest, List.length_append, Nat.add_sub_cancel, List.take_left]

/-! ## The first match -/

theorem matchAt_isSome_iff {pattern : Regex} (hfree : pattern.BoundaryFree) (place : Place) :
    (pattern.matchAt place).isSome = true ↔ ∃ word, word <+: place.rest ∧ pattern.Word word := by
  rw [matchAt_eq, List.isSome_head?]
  constructor
  · intro hne
    obtain ⟨run, hrun⟩ := List.exists_mem_of_ne_nil _ hne
    obtain ⟨word, hrest, hword, -⟩ := exists_word hrun
    exact ⟨word, ⟨run.after.rest, hrest.symm⟩, hword⟩
  · rintro ⟨word, ⟨rest, hrest⟩, hword⟩
    obtain ⟨run, hrun, -⟩ := exists_run hfree hword hrest.symm
    exact List.ne_nil_of_mem hrun

theorem mem_of_matchAt {pattern : Regex} {place : Place} {run : Run}
    (h : pattern.matchAt place = some run) : run ∈ pattern.runs place := List.mem_of_head? h

/-- The first match of a sequence ends with a first match of its end. -/
theorem matchAt_seq {first second : Regex} {place : Place} {run : Run}
    (h : (seq first second).matchAt place = some run) :
    ∃ middle last, middle ∈ first.runs place ∧ second.matchAt middle.after = some last ∧
      run = ⟨middle.groups ++ last.groups, last.after⟩ := by
  rw [matchAt_eq, runs_seq] at h
  generalize first.runs place = middles at h ⊢
  induction middles with
  | nil => cases h
  | cons middle middles ih =>
      rw [List.flatMap_cons, List.head?_append] at h
      cases hlast : second.matchAt middle.after with
      | some last =>
          rw [List.head?_map, ← matchAt_eq, hlast] at h
          obtain rfl := Option.some.inj h
          exact ⟨middle, last, List.mem_cons_self, hlast, rfl⟩
      | none =>
          rw [List.head?_map, ← matchAt_eq, hlast] at h
          obtain ⟨middle, last, hmiddle, hlast, hrun⟩ := ih h
          exact ⟨middle, last, List.mem_cons_of_mem _ hmiddle, hlast, hrun⟩

/-- The first matches of its parts make the first match of a sequence. -/
theorem matchAt_seq_of_matchAt {first second : Regex} {place : Place} {middle last : Run}
    (hfirst : first.matchAt place = some middle)
    (hsecond : second.matchAt middle.after = some last) :
    (seq first second).matchAt place = some ⟨middle.groups ++ last.groups, last.after⟩ := by
  obtain ⟨middles, hmiddles⟩ := List.head?_eq_some_iff.mp hfirst
  calc (seq first second).matchAt place
    _ = ((middle :: middles).flatMap fun run =>
          (second.runs run.after).map fun last => ⟨run.groups ++ last.groups, last.after⟩).head? := by
      rw [matchAt_eq, runs_seq, hmiddles]
    _ = ((second.matchAt middle.after).map fun last =>
          ⟨middle.groups ++ last.groups, last.after⟩).or _ := by
      rw [List.flatMap_cons, List.head?_append, List.head?_map, ← matchAt_eq]
    _ = some ⟨middle.groups ++ last.groups, last.after⟩ := by
      rw [hsecond]
      rfl

theorem head_repeats (accepts : Char → Bool) (before : Option Char) (text : List Char) :
    (repeats accepts before text).head? = some
      ((Place.mk before text).past (text.takeWhile accepts) (text.dropWhile accepts)) := by
  induction text generalizing before with
  | nil => rfl
  | cons character text ih =>
      rw [repeats_cons]
      by_cases haccepts : accepts character = true
      · rw [if_pos haccepts, List.head?_append, ih, List.takeWhile_cons, if_pos haccepts,
          List.dropWhile_cons, if_pos haccepts, Place.past_cons before]
        rfl
      · rw [if_neg haccepts, List.takeWhile_cons, if_neg haccepts, List.dropWhile_cons,
          if_neg haccepts]
        rfl

/-- A repetition reads as far as it can. -/
theorem matchAt_repeated (accepts : Char → Bool) (place : Place) :
    (repeated accepts).matchAt place = some ⟨[], place.past (place.rest.takeWhile accepts)
      (place.rest.dropWhile accepts)⟩ := by
  rw [matchAt_eq, runs_repeated, List.head?_map, head_repeats]
  rfl

/-- One or more characters are read as far as they go. -/
theorem stops_of_oneOrMore {accepts : Char → Bool} {place : Place} {run : Run}
    (h : (oneOrMore accepts).matchAt place = some run) :
    ∀ character ∈ run.after.rest.head?, accepts character = false := by
  obtain ⟨middle, last, -, hlast, rfl⟩ := matchAt_seq h
  rw [matchAt_repeated] at hlast
  obtain rfl := Option.some.inj hlast
  intro character hhead
  have hrefused := List.head?_dropWhile_not accepts middle.after.rest
  rw [Place.past_rest, Option.mem_def] at hhead
  rw [hhead] at hrefused
  simpa using hrefused

theorem matchAt_alt (first second : Regex) (place : Place) :
    (alt first second).matchAt place = (first.matchAt place).or (second.matchAt place) := by
  rw [matchAt_eq, runs_alt, List.head?_append]
  rfl

theorem matchAt_test {accepts : Char → Bool} (before : Option Char) {character : Char}
    (rest : List Char) (haccepts : accepts character = true) :
    (test accepts).matchAt ⟨before, character :: rest⟩ = some ⟨[], ⟨some character, rest⟩⟩ := by
  rw [matchAt_eq, runs_test_cons, if_pos haccepts]
  rfl

/-! ## Expressions without groups -/

/-- No group is inside. -/
def GroupFree : Regex → Prop
  | empty => True
  | test _ => True
  | boundary _ => True
  | seq first second => first.GroupFree ∧ second.GroupFree
  | alt first second => first.GroupFree ∧ second.GroupFree
  | repeated _ => True
  | group _ => False

theorem groups_eq_nil {pattern : Regex} (hfree : pattern.GroupFree) {place : Place} {run : Run}
    (h : run ∈ pattern.runs place) : run.groups = [] := by
  induction pattern generalizing place run with
  | empty =>
      rw [runs_empty, List.mem_singleton] at h
      rw [h]
  | test accepts =>
      obtain ⟨before, text⟩ := place
      cases text with
      | nil => cases h
      | cons character text =>
          rw [runs_test_cons] at h
          split at h
          · rw [List.mem_singleton] at h
            rw [h]
          · cases h
  | boundary ofWord =>
      rw [runs_boundary] at h
      split at h
      · rw [List.mem_singleton] at h
        rw [h]
      · cases h
  | seq first second ihFirst ihSecond =>
      rw [runs_seq, List.mem_flatMap] at h
      obtain ⟨middle, hmiddle, h⟩ := h
      obtain ⟨last, hlast, rfl⟩ := List.mem_map.mp h
      show middle.groups ++ last.groups = []
      rw [ihFirst hfree.1 hmiddle, ihSecond hfree.2 hlast]
      rfl
  | alt first second ihFirst ihSecond =>
      rw [runs_alt, List.mem_append] at h
      exact h.elim (ihFirst hfree.1) (ihSecond hfree.2)
  | repeated accepts =>
      rw [runs_repeated] at h
      obtain ⟨behind, -, rfl⟩ := List.mem_map.mp h
      rfl
  | group body => exact hfree.elim

/-! ## Literals and alternatives -/

theorem literal_cons (accepts : Char → Char → Bool) (letter : Char) (letters : List Char) :
    literal accepts (letter :: letters) = seq (test (accepts letter)) (literal accepts letters) := rfl

theorem word_literal {accepts : Char → Char → Bool} {letters word : List Char} :
    (literal accepts letters).Word word ↔
      List.Forall₂ (fun letter character => accepts letter character = true) letters word := by
  induction letters generalizing word with
  | nil =>
      rw [List.forall₂_nil_left_iff]
      exact Iff.rfl
  | cons letter letters ih =>
      rw [literal_cons, List.forall₂_cons_left_iff]
      constructor
      · rintro ⟨front, back, rfl, ⟨character, haccepts, rfl⟩, hback⟩
        exact ⟨character, back, haccepts, ih.mp hback, rfl⟩
      · rintro ⟨character, back, haccepts, hback, rfl⟩
        exact ⟨[character], back, rfl, ⟨character, haccepts, rfl⟩, ih.mpr hback⟩

theorem boundaryFree_literal (accepts : Char → Char → Bool) (letters : List Char) :
    (literal accepts letters).BoundaryFree := by
  induction letters with
  | nil => trivial
  | cons letter letters ih => exact ⟨trivial, ih⟩

theorem groupFree_literal (accepts : Char → Char → Bool) (letters : List Char) :
    (literal accepts letters).GroupFree := by
  induction letters with
  | nil => trivial
  | cons letter letters ih => exact ⟨trivial, ih⟩

theorem word_oneOf {bodies : List Regex} {word : List Char} :
    (oneOf bodies).Word word ↔ ∃ body ∈ bodies, body.Word word := by
  induction bodies with
  | nil =>
      constructor
      · rintro ⟨character, hfalse, -⟩
        cases hfalse
      · rintro ⟨body, hbody, -⟩
        cases hbody
  | cons body bodies ih =>
      rw [List.exists_mem_cons_iff, ← ih]
      cases bodies with
      | nil =>
          refine ⟨.inl, fun h => h.elim id ?_⟩
          rintro ⟨character, hfalse, -⟩
          cases hfalse
      | cons other bodies => exact Iff.rfl

/-! ## Substitution -/

section Sub

variable {pattern : Regex} {replacement : List (List Char) → List Char}

theorem sub_skip (before : Option Char) (word rest : List Char) :
    sub pattern replacement before word.length (word ++ rest) =
      sub pattern replacement (word.getLast?.or before) 0 rest := by
  induction word generalizing before with
  | nil => rfl
  | cons character word ih =>
      rw [List.length_cons, List.cons_append, sub_skip_cons, ih, List.getLast?_cons]
      cases word.getLast? <;> rfl

/-- A match that reads something is replaced. -/
theorem sub_of_match {before : Option Char} {text : List Char} {run : Run}
    (h : pattern.matchAt ⟨before, text⟩ = some run) (hne : ¬pattern.Word []) :
    sub pattern replacement before 0 text =
      replacement run.groups ++ sub pattern replacement run.after.before 0 run.after.rest := by
  obtain ⟨word, hrest, hword, hafter⟩ := exists_word (mem_of_matchAt h)
  cases word with
  | nil => exact absurd hword hne
  | cons character word =>
      obtain rfl : text = character :: (word ++ run.after.rest) := hrest
      have hlength : (word ++ run.after.rest).length - run.after.rest.length = word.length := by
        rw [List.length_append, Nat.add_sub_cancel]
      rw [sub_of_some _ _ _ _ h, hlength, sub_skip, hafter, Place.past_rest, past_eq,
        List.getLast?_cons]
      cases word.getLast? <;> rfl

end Sub

end Regex

end DataSluice.Lib
