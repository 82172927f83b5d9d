/-
# Texts joined by a word

Two texts that are joined by a word can be read back where the word does not occur in them.
In general one joined text may come from several pairs: from one pair, and from those whose
cut is at another occurrence of the word. A word that does not overlap itself has no other
occurrence near a cut, so that another pair has its cut inside one of the two texts.
-/

import Mathlib.Data.List.Infix

namespace DataSluice.Lib

variable {α : Type}

/-- No end of the first word, but the whole of it, starts the second one. -/
def Apart (word other : List α) : Prop :=
  ∀ shift < word.length, 0 < shift → ¬ word.drop shift <+: other

instance [DecidableEq α] (word other : List α) : Decidable (Apart word other) :=
  inferInstanceAs (Decidable (∀ shift < word.length, 0 < shift → ¬ word.drop shift <+: other))

theorem apart_singleton (character : α) (other : List α) : Apart [character] other := by
  intro shift hshift hpos
  rw [List.length_singleton] at hshift
  omega

variable {word other first second third fourth : List α}

/-- Of two words that occur in a text, the one that starts first ends before the other starts,
unless both start at one place. -/
theorem exists_between_of_append_eq (hapart : Apart word other)
    (hlength : word.length ≤ other.length) {start : List α}
    (htext : word ++ second = start ++ (other ++ fourth)) (hstart : start ≠ []) :
    ∃ between, start = word ++ between ∧ second = between ++ (other ++ fourth) := by
  rcases List.append_eq_append_iff.mp htext with ⟨between, rfl, hsecond⟩ | ⟨tail, rfl, htail⟩
  · exact ⟨between, rfl, hsecond⟩
  · cases tail with
    | nil => exact ⟨[], by simp, by simpa using htail.symm⟩
    | cons character tail =>
        have hbegins : character :: tail <+: other := by
          have htext : character :: tail <+: other ++ fourth := ⟨second, htail.symm⟩
          apply List.prefix_of_prefix_length_le htext (List.prefix_append _ _)
          · rw [List.length_append] at hlength
            omega
        have hdrop := hapart start.length
          (by rw [List.length_append, List.length_cons]; omega) (List.length_pos_of_ne_nil hstart)
        rw [List.drop_left] at hdrop
        exact (hdrop hbegins).elim

/-- A text that is joined by a word and by another one of the same length. -/
theorem append_append_eq_cases (hword : Apart word other) (hother : Apart other word)
    (hlength : word.length = other.length)
    (htext : first ++ (word ++ second) = third ++ (other ++ fourth)) :
    (first = third ∧ word = other ∧ second = fourth) ∨
    (∃ between, third = first ++ (word ++ between) ∧ second = between ++ (other ++ fourth)) ∨
    ∃ between, first = third ++ (other ++ between) ∧ fourth = between ++ (word ++ second) := by
  rcases List.append_eq_append_iff.mp htext with ⟨start, rfl, hstart⟩ | ⟨start, rfl, hstart⟩
  · cases start with
    | nil =>
        rw [List.nil_append] at hstart
        obtain ⟨hsame, hrest⟩ := List.append_inj hstart hlength
        exact .inl ⟨(List.append_nil first).symm, hsame, hrest⟩
    | cons character start =>
        obtain ⟨between, hbetween, hsecond⟩ := exists_between_of_append_eq hword hlength.le hstart
          (List.cons_ne_nil _ _)
        exact .inr (.inl ⟨between, by rw [hbetween], hsecond⟩)
  · cases start with
    | nil =>
        rw [List.nil_append] at hstart
        obtain ⟨hsame, hrest⟩ := List.append_inj hstart hlength.symm
        exact .inl ⟨List.append_nil third, hsame.symm, hrest.symm⟩
    | cons character start =>
        obtain ⟨between, hbetween, hfourth⟩ := exists_between_of_append_eq hother hlength.ge hstart
          (List.cons_ne_nil _ _)
        exact .inr (.inr ⟨between, by rw [hbetween], hfourth⟩)

/-- Pairs that join to the same text are equal, or the word occurs in the first text of one and
in the second text of the other. -/
theorem append_word_eq_iff (hword : Apart word word) :
    first ++ (word ++ second) = third ++ (word ++ fourth) ↔
      (first = third ∧ second = fourth) ∨
      (∃ between, third = first ++ (word ++ between) ∧ second = between ++ (word ++ fourth)) ∨
      ∃ between, first = third ++ (word ++ between) ∧ fourth = between ++ (word ++ second) := by
  constructor
  · intro htext
    rcases append_append_eq_cases hword hword rfl htext with ⟨hfirst, -, hsecond⟩ | hbetween
    · exact .inl ⟨hfirst, hsecond⟩
    · exact .inr hbetween
  · rintro (⟨rfl, rfl⟩ | ⟨between, rfl, rfl⟩ | ⟨between, rfl, rfl⟩)
    · rfl
    · simp only [List.append_assoc]
    · simp only [List.append_assoc]

/-- The last occurrence of a character cuts a text in one way. -/
theorem append_cons_inj_of_notMem {character : α} (hsecond : character ∉ second)
    (hfourth : character ∉ fourth)
    (htext : first ++ character :: second = third ++ character :: fourth) :
    first = third ∧ second = fourth := by
  have hsplit : first ++ ([character] ++ second) = third ++ ([character] ++ fourth) := htext
  rcases (append_word_eq_iff (apart_singleton character _)).mp hsplit with
    hsame | ⟨between, -, rfl⟩ | ⟨between, -, rfl⟩
  · exact hsame
  · simp at hsecond
  · simp at hfourth

/-- The first occurrence of a character cuts a text in one way. -/
theorem append_cons_inj_of_notMem_left {character : α} (hfirst : character ∉ first)
    (hthird : character ∉ third)
    (htext : first ++ character :: second = third ++ character :: fourth) :
    first = third ∧ second = fourth := by
  have hsplit : first ++ ([character] ++ second) = third ++ ([character] ++ fourth) := htext
  rcases (append_word_eq_iff (apart_singleton character _)).mp hsplit with
    hsame | ⟨between, rfl, -⟩ | ⟨between, rfl, -⟩
  · exact hsame
  · simp at hthird
  · simp at hfirst

/-! ## Three texts -/

variable {fifth sixth : List α}

/-- Three texts that are joined by two words. -/
def joinedTwice (word other first second third : List α) : List α :=
  first ++ (word ++ (second ++ (other ++ third)))

/-- Neither word occurs where a cut could be put elsewhere: behind the start of the first text,
before the end of the third one, or in the second text so that something of it is left. -/
structure IsRigid (word other first second third : List α) : Prop where
  first : ∀ front back, first = front ++ (word ++ back) → front = []
  second_word : ∀ front back, second = front ++ (word ++ back) → back = []
  second_other : ∀ front back, second = front ++ (other ++ back) → front = []
  third : ∀ front back, third = front ++ (other ++ back) → back = []

/-- The words do not occur in texts that are shorter. -/
theorem isRigid_of_length_lt (hfirst : first.length < word.length)
    (hsecond : second.length < word.length) (hsecond' : second.length < other.length)
    (hthird : third.length < other.length) : IsRigid word other first second third := by
  have hlong : ∀ {text front back word : List α}, text.length < word.length →
      text ≠ front ++ (word ++ back) := by
    intro text front back word hshort htext
    have hlength := congrArg List.length htext
    simp only [List.length_append] at hlength
    omega
  constructor
  · intro front back htext
    exact (hlong hfirst htext).elim
  · intro front back htext
    exact (hlong hsecond htext).elim
  · intro front back htext
    exact (hlong hsecond' htext).elim
  · intro front back htext
    exact (hlong hthird htext).elim

/-- Nonempty texts that join to the same text as rigid ones are the same texts. -/
theorem IsRigid.eq_of_joinedTwice_eq (hrigid : IsRigid word other first second third)
    (hword : Apart word word) (hother : Apart other other) (hapart : Apart word other)
    (hswapped : Apart other word) (hlength : word.length = other.length) (hne : word ≠ other)
    (hfourth : fourth ≠ []) (hfifth : fifth ≠ []) (hsixth : sixth ≠ [])
    (htext : joinedTwice word other first second third =
      joinedTwice word other fourth fifth sixth) :
    first = fourth ∧ second = fifth ∧ third = sixth := by
  rcases (append_word_eq_iff hword).mp htext with
    ⟨hfirst, hrest⟩ | ⟨between, -, hrest⟩ | ⟨between, hfirst, -⟩
  · rcases (append_word_eq_iff hother).mp hrest with
      ⟨hsecond, hthird⟩ | ⟨between, -, hthird⟩ | ⟨between, hsecond, -⟩
    · exact ⟨hfirst, hsecond, hthird⟩
    · exact (hsixth (hrigid.third _ _ hthird)).elim
    · exact (hfifth (hrigid.second_other _ _ hsecond)).elim
  · rcases append_append_eq_cases hswapped hapart hlength.symm hrest with
      ⟨-, hsame, -⟩ | ⟨inside, -, hthird⟩ | ⟨inside, hsecond, hrest⟩
    · exact (hne hsame.symm).elim
    · -- The third text has the other word in front of the last text.
      have hback := hrigid.third (inside ++ (word ++ fifth)) sixth (by rw [hthird]; simp)
      exact (hsixth hback).elim
    · have hinside := hrigid.second_word _ _ hsecond
      rw [hinside] at hrest
      rcases (append_word_eq_iff hother).mp hrest with
        ⟨hnone, -⟩ | ⟨tail, hnone, -⟩ | ⟨tail, -, hthird⟩
      · exact (hfifth hnone).elim
      · exact (hfifth (List.append_eq_nil_iff.mp hnone.symm).1).elim
      · exact (hsixth (hrigid.third _ _ hthird)).elim
  · exact (hfourth (hrigid.first _ _ hfirst)).elim

/-- Rigid texts are those that no other nonempty texts join to. -/
theorem isRigid_iff (hword : Apart word word) (hother : Apart other other)
    (hapart : Apart word other) (hswapped : Apart other word)
    (hlength : word.length = other.length) (hne : word ≠ other) (hfirst : first ≠ [])
    (hsecond : second ≠ []) (hthird : third ≠ []) :
    IsRigid word other first second third ↔
      ∀ fourth fifth sixth, fourth ≠ [] → fifth ≠ [] → sixth ≠ [] →
        joinedTwice word other first second third = joinedTwice word other fourth fifth sixth →
        first = fourth ∧ second = fifth ∧ third = sixth := by
  constructor
  · intro hrigid fourth fifth sixth hfourth hfifth hsixth htext
    exact hrigid.eq_of_joinedTwice_eq hword hother hapart hswapped hlength hne hfourth hfifth
      hsixth htext
  · intro hunique
    have hpos : 0 < other.length := by
      by_contra hzero
      have hempty : other = [] := List.length_eq_zero_iff.mp (by omega)
      have hempty' : word = [] := List.length_eq_zero_iff.mp (by omega)
      exact hne (hempty'.trans hempty.symm)
    constructor
    · intro front back htext
      by_contra hfront
      have hsame := (hunique front (back ++ (word ++ second)) third hfront (by simp [hsecond])
        hthird (by simp [joinedTwice, htext])).1
      have hlengths := congrArg List.length (htext.symm.trans hsame)
      simp only [List.length_append] at hlengths
      omega
    · intro front back htext
      by_contra hback
      have hsame := (hunique (first ++ (word ++ front)) back third (by simp [hfirst]) hback
        hthird (by simp [joinedTwice, htext])).1
      have hlengths := congrArg List.length hsame
      simp only [List.length_append] at hlengths
      omega
    · intro front back htext
      by_contra hfront
      have hsame := (hunique first front (back ++ (other ++ third)) hfirst hfront
        (by simp [hthird]) (by simp [joinedTwice, htext])).2.1
      have hlengths := congrArg List.length (htext.symm.trans hsame)
      simp only [List.length_append] at hlengths
      omega
    · intro front back htext
      by_contra hback
      have hsame := (hunique first (second ++ (other ++ front)) back hfirst (by simp [hsecond])
        hback (by simp [joinedTwice, htext])).2.1
      have hlengths := congrArg List.length hsame
      simp only [List.length_append] at hlengths
      omega

end DataSluice.Lib
