/-
# What structural evidence reveals

Structural evidence of a value is computed from its shape, so two records of one shape have the
same evidence whatever they are called and contain. Along the same recursion every bound of the
projection is read off: the depth is counted down to the last level, a container ends at its
thirty-second entry, and every node but a marker is paid for from the budget.
-/

import DataSluice.Domain.Projection
import DataSluice.Domain.Receipts

namespace DataSluice.Domain

/-! ## Evidence -/

/-- The evidence of a value: what its structural projection says, before it is written as
nested dictionaries. -/
inductive Evidence
  | truncated
  | scalar (type : ScalarType)
  | container (isObject : Bool) (size : Nat) (entries : List Evidence)

namespace Evidence

mutual

/-- The evidence as it is written. -/
def toValue : Evidence → Value
  | truncated => truncationMarker
  | scalar type => .str type.text
  | container isObject size entries =>
      structuralContainer (if isObject then "object" else "array") size (toValues entries)

def toValues : List Evidence → List Value
  | [] => []
  | entry :: entries => toValue entry :: toValues entries

end

mutual

/-- The number of levels; a marker is not one. -/
def levels : Evidence → Nat
  | truncated => 0
  | scalar _ => 1
  | container _ _ entries => levelsOf entries + 1

/-- The number of levels below a container. -/
def levelsOf : List Evidence → Nat
  | [] => 0
  | entry :: entries => max (levels entry) (levelsOf entries)

end

mutual

/-- The number of nodes that are no markers. -/
def nodes : Evidence → Nat
  | truncated => 0
  | scalar _ => 1
  | container _ _ entries => nodesOf entries + 1

def nodesOf : List Evidence → Nat
  | [] => 0
  | entry :: entries => nodes entry + nodesOf entries

end

/-- Every container has at most so many entries, markers among them. -/
inductive WidthAtMost (bound : Nat) : Evidence → Prop
  | truncated : WidthAtMost bound truncated
  | scalar (type : ScalarType) : WidthAtMost bound (scalar type)
  | container (isObject : Bool) (size : Nat) (entries : List Evidence)
      (hlength : entries.length ≤ bound) (hentries : ∀ entry ∈ entries, WidthAtMost bound entry) :
      WidthAtMost bound (container isObject size entries)

/-- What is rendered of two lists is rendered one behind the other. -/
theorem toValues_append (first second : List Evidence) :
    toValues (first ++ second) = toValues first ++ toValues second := by
  induction first with
  | nil => rfl
  | cons entry first ih =>
      rw [List.cons_append, toValues, ih]
      rfl

theorem length_toValues (entries : List Evidence) : (toValues entries).length = entries.length := by
  induction entries with
  | nil => rfl
  | cons entry entries ih => rw [toValues, List.length_cons, ih, List.length_cons]

theorem dropLast_toValues (entries : List Evidence) :
    (toValues entries).dropLast = toValues entries.dropLast := by
  induction entries with
  | nil => rfl
  | cons entry entries ih =>
      cases entries with
      | nil => rfl
      | cons next entries =>
          rw [toValues, toValues, List.dropLast_cons_cons, ← toValues, ih]
          rfl

/-- A list is no deeper than a bound exactly when none of its members is. -/
theorem levelsOf_le_iff {bound : Nat} {entries : List Evidence} :
    levelsOf entries ≤ bound ↔ ∀ entry ∈ entries, levels entry ≤ bound := by
  induction entries with
  | nil => simp [levelsOf]
  | cons entry entries ih => rw [levelsOf, Nat.max_le, ih, List.forall_mem_cons]

/-- The nodes of two lists are counted separately. -/
theorem nodesOf_append (first second : List Evidence) :
    nodesOf (first ++ second) = nodesOf first + nodesOf second := by
  induction first with
  | nil => rw [List.nil_append, nodesOf, Nat.zero_add]
  | cons entry first ih => rw [List.cons_append, nodesOf, ih, nodesOf, Nat.add_assoc]

/-- Leaving out members of a list takes nodes away and adds none. -/
theorem nodesOf_le_of_sublist {first second : List Evidence} (hsublist : first.Sublist second) :
    nodesOf first ≤ nodesOf second := by
  induction hsublist with
  | slnil => exact le_rfl
  | cons entry _ ih => exact ih.trans (Nat.le_add_left _ _)
  | cons_cons entry _ ih => exact Nat.add_le_add_left ih _

end Evidence

/-! ## The evidence of a shape -/

/-- `_mark_truncation` on evidence -/
def markEvidence (sourceSize : Nat) (output : List Evidence) : List Evidence :=
  if sourceSize ≤ output.length then output
  else if output.length = maxMetadataEntries then output.dropLast ++ [.truncated]
  else output ++ [.truncated]

/-- The evidence of a container whose entries were projected. -/
def closeEvidence (isObject : Bool) (size : Nat) (projected : List Evidence × Nat) :
    Evidence × Nat :=
  (.container isObject size (markEvidence size projected.1), projected.2)

mutual

/-- The evidence of a shape, with the nodes that are left. -/
def Shape.evidence (depth budget : Nat) : Shape → Evidence × Nat
  | .scalar type => if isExhausted depth budget then (.truncated, budget)
      else (.scalar type, budget - 1)
  | .array items => if isExhausted depth budget then (.truncated, budget)
      else closeEvidence false items.length
        (Shape.evidenceItems (depth + 1) maxMetadataEntries (budget - 1) items)
  | .object items => if isExhausted depth budget then (.truncated, budget)
      else closeEvidence true items.length
        (Shape.evidenceItems (depth + 1) maxMetadataEntries (budget - 1) items)

def Shape.evidenceItems (depth : Nat) : Nat → Nat → List Shape → List Evidence × Nat
  | 0, budget, _ => ([], budget)
  | _, budget, [] => ([], budget)
  | limit + 1, budget, nested :: items =>
      if budget = 0 then ([], budget)
      else
        let projected := Shape.evidence depth budget nested
        let rest := Shape.evidenceItems depth limit projected.2 items
        (projected.1 :: rest.1, rest.2)

end

/-- The mark that a list was cut off is the same on the evidence and on the values it renders to.
-/
theorem toValues_markEvidence (size : Nat) (output : List Evidence) :
    Evidence.toValues (markEvidence size output) = markItems size (Evidence.toValues output) := by
  rw [markEvidence, markItems, Evidence.length_toValues]
  split
  · rfl
  · split
    · rw [Evidence.toValues_append, Evidence.dropLast_toValues]
      rfl
    · rw [Evidence.toValues_append]
      rfl

section Refinement

variable (redaction : Redaction)

/-- In structural mode a scalar is projected to the name of its type, whatever its value is. -/
theorem projectScalar_structural (depth budget : Nat) (value : Value) (type : ScalarType)
    (htype : structuralScalar value = type.text) :
    projectScalar redaction true depth budget value =
      ((Shape.evidence depth budget (.scalar type)).1.toValue,
        (Shape.evidence depth budget (.scalar type)).2) := by
  rw [projectScalar, Shape.evidence]
  split
  · rfl
  · rw [Evidence.toValue, ← htype]
    rfl

mutual

/-- The structural projection of a value is the evidence of its shape. -/
theorem recordProjection_structural (depth budget : Nat) (value : Value) :
    recordProjection redaction true depth budget value =
      ((Shape.evidence depth budget (shape value)).1.toValue,
        (Shape.evidence depth budget (shape value)).2) := by
  cases value with
  | none | bool _ | int _ | float _ | str _ | other =>
      exact projectScalar_structural redaction depth budget _ _ rfl
  | list items | tuple items =>
      rw [recordProjection, shape, Shape.evidence, length_shapeItems]
      split
      · rfl
      · rw [projectItems_structural, closeSequence, closeEvidence, Evidence.toValue,
          toValues_markEvidence]
        rfl
  | dict entries | proxy entries =>
      rw [recordProjection, shape, Shape.evidence, length_shapeEntries]
      split
      · rfl
      · have hentries := projectEntries_structural (depth + 1) maxMetadataEntries (budget - 1) entries
        rw [closeMapping, closeEvidence, Evidence.toValue, toValues_markEvidence, ← hentries.1,
          ← hentries.2]
        rfl

/-- The items of a list are projected to what their shapes alone decide. The induction is on the
items, with the budget that the earlier ones leave. -/
theorem projectItems_structural (depth limit budget : Nat) (items : List Value) :
    projectItems redaction true depth limit budget items =
      (Evidence.toValues (Shape.evidenceItems depth limit budget (shapeItems items)).1,
        (Shape.evidenceItems depth limit budget (shapeItems items)).2) := by
  cases limit with
  | zero => cases items <;> rfl
  | succ limit =>
      cases items with
      | nil => rfl
      | cons nested items =>
          rw [projectItems, shapeItems, Shape.evidenceItems]
          split
          · rfl
          · simp only [recordProjection_structural, projectItems_structural, Evidence.toValues]

/-- So are the entries of a mapping, whose keys play no part in it. -/
theorem projectEntries_structural (depth limit budget : Nat) (entries : List (Key × Value)) :
    (projectEntries redaction true depth limit budget entries).1.map Prod.snd =
        Evidence.toValues (Shape.evidenceItems depth limit budget (shapeEntries entries)).1 ∧
      (projectEntries redaction true depth limit budget entries).2 =
        (Shape.evidenceItems depth limit budget (shapeEntries entries)).2 := by
  cases limit with
  | zero => cases entries <;> exact ⟨rfl, rfl⟩
  | succ limit =>
      cases entries with
      | nil => exact ⟨rfl, rfl⟩
      | cons entry entries =>
          obtain ⟨name, nested⟩ := entry
          rw [projectEntries, shapeEntries, Shape.evidenceItems]
          split
          · exact ⟨rfl, rfl⟩
          · have hnested := recordProjection_structural depth budget nested
            have hentries := projectEntries_structural depth limit
              (Shape.evidence depth budget (shape nested)).2 entries
            simp only [Bool.not_true, Bool.false_and, Bool.false_eq_true, if_false, hnested,
              List.map_cons, Evidence.toValues]
            exact ⟨congrArg _ hentries.1, hentries.2⟩

end

end Refinement

/-! ## Bounds -/

/-- No more items are kept than the limit says. -/
theorem length_evidenceItems_le (depth limit budget : Nat) (items : List Shape) :
    (Shape.evidenceItems depth limit budget items).1.length ≤ limit := by
  induction items generalizing limit budget with
  | nil => cases limit <;> exact Nat.zero_le _
  | cons nested items ih =>
      cases limit with
      | zero => exact le_rfl
      | succ limit =>
          rw [Shape.evidenceItems]
          split
          · exact Nat.zero_le _
          · exact Nat.succ_le_succ (ih limit _)

/-- A marked list holds the members of the list it was made of, and the mark. -/
theorem mem_markEvidence {size : Nat} {output : List Evidence} {entry : Evidence}
    (hmem : entry ∈ markEvidence size output) : entry ∈ output ∨ entry = .truncated := by
  rw [markEvidence] at hmem
  split at hmem
  · exact .inl hmem
  · split at hmem <;> rcases List.mem_append.mp hmem with hmem | hmem
    · exact .inl (List.mem_of_mem_dropLast hmem)
    · exact .inr (List.mem_singleton.mp hmem)
    · exact .inl hmem
    · exact .inr (List.mem_singleton.mp hmem)

/-- The mark takes the place of the last member of a full list, so that a marked list is not over
the limit either. -/
theorem length_markEvidence_le (size : Nat) {output : List Evidence}
    (hlength : output.length ≤ maxMetadataEntries) :
    (markEvidence size output).length ≤ maxMetadataEntries := by
  rw [markEvidence]
  split
  · exact hlength
  · split
    · next hfull =>
        rw [List.length_append, List.length_dropLast, hfull]
        decide
    · next hroom =>
        rw [List.length_append, List.length_singleton]
        omega

/-- The mark is no node of its own, so a marked list has no more nodes. -/
theorem nodesOf_markEvidence_le (size : Nat) (output : List Evidence) :
    Evidence.nodesOf (markEvidence size output) ≤ Evidence.nodesOf output := by
  have hmarker : Evidence.nodesOf [.truncated] = 0 := rfl
  rw [markEvidence]
  split
  · exact le_rfl
  · split
    · rw [Evidence.nodesOf_append, hmarker]
      exact Evidence.nodesOf_le_of_sublist (List.dropLast_sublist output)
    · rw [Evidence.nodesOf_append, hmarker, Nat.add_zero]

mutual

/-- No evidence goes deeper than the bound leaves levels for. -/
theorem levels_evidence_le (depth budget : Nat) (shape : Shape) :
    (shape.evidence depth budget).1.levels ≤ maxMetadataDepth - depth := by
  have hroom (h : ¬isExhausted depth budget = true) : depth < maxMetadataDepth := by
    by_contra hdeep
    exact h (by rw [isExhausted, decide_eq_true (Nat.le_of_not_lt hdeep), Bool.or_true])
  cases shape with
  | scalar type =>
      rw [Shape.evidence]
      split
      · exact Nat.zero_le _
      · next h => exact Nat.sub_pos_of_lt (hroom h)
  | array items | object items =>
      rw [Shape.evidence]
      split
      · exact Nat.zero_le _
      · next h =>
          have hitems := levels_evidenceItems_le (depth + 1) maxMetadataEntries (budget - 1) items
          rw [closeEvidence, Evidence.levels]
          have hmarked : Evidence.levelsOf (markEvidence items.length (Shape.evidenceItems
              (depth + 1) maxMetadataEntries (budget - 1) items).1) ≤
              maxMetadataDepth - (depth + 1) := by
            rw [Evidence.levelsOf_le_iff]
            intro entry hentry
            rcases mem_markEvidence hentry with hentry | rfl
            · exact Evidence.levelsOf_le_iff.mp hitems entry hentry
            · exact Nat.zero_le _
          have := hroom h
          omega

/-- Items that are projected at some depth reach no deeper than the limit of the whole. -/
theorem levels_evidenceItems_le (depth limit budget : Nat) (items : List Shape) :
    Evidence.levelsOf (Shape.evidenceItems depth limit budget items).1 ≤
      maxMetadataDepth - depth := by
  cases items with
  | nil => cases limit <;> exact Nat.zero_le _
  | cons nested items =>
      cases limit with
      | zero => exact Nat.zero_le _
      | succ limit =>
          rw [Shape.evidenceItems]
          split
          · exact Nat.zero_le _
          · exact Nat.max_le.mpr ⟨levels_evidence_le depth budget nested,
              levels_evidenceItems_le depth limit _ items⟩

end

mutual

/-- Every container ends at its last entry that is kept, or at the marker in its place. -/
theorem widthAtMost_evidence (depth budget : Nat) (shape : Shape) :
    (shape.evidence depth budget).1.WidthAtMost maxMetadataEntries := by
  cases shape with
  | scalar type =>
      rw [Shape.evidence]
      split
      · exact .truncated
      · exact .scalar type
  | array items | object items =>
      rw [Shape.evidence]
      split
      · exact .truncated
      · rw [closeEvidence]
        refine .container _ _ _
          (length_markEvidence_le _ (length_evidenceItems_le _ _ _ items)) ?_
        intro entry hentry
        rcases mem_markEvidence hentry with hentry | rfl
        · exact widthAtMost_evidenceItems (depth + 1) maxMetadataEntries (budget - 1) items entry
            hentry
        · exact .truncated

/-- Nothing inside of a projected list is wider than the limit on entries. -/
theorem widthAtMost_evidenceItems (depth limit budget : Nat) (items : List Shape) :
    ∀ entry ∈ (Shape.evidenceItems depth limit budget items).1,
      entry.WidthAtMost maxMetadataEntries := by
  cases items with
  | nil => cases limit <;> exact fun _ hentry => nomatch hentry
  | cons nested items =>
      cases limit with
      | zero => exact fun _ hentry => nomatch hentry
      | succ limit =>
          rw [Shape.evidenceItems]
          split
          · exact fun _ hentry => nomatch hentry
          · exact List.forall_mem_cons.mpr ⟨widthAtMost_evidence depth budget nested,
              widthAtMost_evidenceItems depth limit _ items⟩

end

mutual

/-- Every node that is no marker was paid for. -/
theorem nodes_evidence_le (depth budget : Nat) (shape : Shape) :
    (shape.evidence depth budget).1.nodes + (shape.evidence depth budget).2 ≤ budget := by
  have hfunds (h : ¬isExhausted depth budget = true) : 0 < budget := by
    by_contra hnone
    exact h (by rw [isExhausted, Nat.eq_zero_of_not_pos hnone]; rfl)
  cases shape with
  | scalar type =>
      rw [Shape.evidence]
      split
      · exact (Nat.zero_add _).le
      · next h =>
          have := hfunds h
          simp only [Evidence.nodes]
          omega
  | array items | object items =>
      rw [Shape.evidence]
      split
      · exact (Nat.zero_add _).le
      · next h =>
          have hitems := nodes_evidenceItems_le (depth + 1) maxMetadataEntries (budget - 1) items
          have hmarked := nodesOf_markEvidence_le items.length
            (Shape.evidenceItems (depth + 1) maxMetadataEntries (budget - 1) items).1
          have := hfunds h
          simp only [closeEvidence, Evidence.nodes]
          omega

/-- The nodes of the projected items and the budget that is left for what follows come to at most
the budget there was. The bound on the whole is this one at its start. -/
theorem nodes_evidenceItems_le (depth limit budget : Nat) (items : List Shape) :
    Evidence.nodesOf (Shape.evidenceItems depth limit budget items).1 +
      (Shape.evidenceItems depth limit budget items).2 ≤ budget := by
  cases items with
  | nil => cases limit <;> exact (Nat.zero_add _).le
  | cons nested items =>
      cases limit with
      | zero => exact (Nat.zero_add _).le
      | succ limit =>
          rw [Shape.evidenceItems]
          split
          · exact (Nat.zero_add _).le
          · have hnested := nodes_evidence_le depth budget nested
            have hitems := nodes_evidenceItems_le depth limit
              (Shape.evidence depth budget nested).2 items
            simp only [Evidence.nodesOf]
            omega

end

end DataSluice.Domain
