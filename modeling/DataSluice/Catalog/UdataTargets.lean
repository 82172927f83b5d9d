/-
# Confirmation targets

A confirmed mutation names what it changes by one text, the target of its confirmation. Some
operations of the uData clients change what several identifiers name together: a badge of a
dataset, a comment of a discussion, an element of a topic, or a list of harvest sources. They
put the identifiers together in different ways. The request paths are made from the
identifiers apart.
-/

import DataSluice.Catalog.MutationPolicy
import DataSluice.Lib.Joined

namespace DataSluice.Catalog.Udata

open DataSluice.Lib DataSluice.Lib.Url DataSluice.Runtime

/-! ## Path segments -/

/-- `_FORBIDDEN_CHARACTERS` -/
def forbiddenCharacters : Text := ['/', '?', '#', '\x22', '\x27']

/-- `safe_segment` -/
def safeSegment (value : Text) : Bool :=
  !value.isEmpty && value != ['.'] && value != ['.', '.'] &&
    !value.any forbiddenCharacters.contains && !value.any fun character => character.toNat < 32

/-- `path_segment`: the identifier, quoted. -/
def pathSegment (value : Text) (operation label : String) : Except Raised Text :=
  if safeSegment value then .ok (quote [] value)
  else
    .error
      { errorClass := .validation
        message := label ++ " identifier for " ++ operation ++
          " must be one URL-safe path segment."
        operation := some operation
        platform := some "udata"
        safeAction := some "Pass a prior typed read identifier." }

/-- `composite_target`: the quoted identifiers, joined with colons. -/
def compositeTarget (identifiers : List Text) : Text := join [':'] (identifiers.map (quote []))

/-- No quoted identifier holds a colon, so a composite target is read back. -/
theorem compositeTarget_injective {identifiers others : List Text} (hids : identifiers ≠ [])
    (hothers : others ≠ []) (htarget : compositeTarget identifiers = compositeTarget others) :
    identifiers = others := by
  have hread : ∀ {ids : List Text}, ids ≠ [] →
      split ':' (compositeTarget ids) = ids.map (quote []) := by
    intro ids hne
    apply split_join
    · exact fun h => hne (List.map_eq_nil_iff.mp h)
    · intro part hpart
      obtain ⟨identifier, -, rfl⟩ := List.mem_map.mp hpart
      exact notMem_quote (.inl rfl) List.not_mem_nil identifier
  have hquoted : identifiers.map (quote []) = others.map (quote []) := by
    calc identifiers.map (quote [])
      _ = split ':' (compositeTarget identifiers) := (hread hids).symm
      _ = split ':' (compositeTarget others) := congrArg (split ':') htarget
      _ = others.map (quote []) := hread hothers
  apply List.map_injective_iff.mpr _ hquoted
  intro first second hsame
  exact quote_injective List.not_mem_nil hsame

/-! ## Operations of two identifiers -/

/-- The path of something that belongs to a member of a collection. -/
def nestedPath (collection kind : String) (operation label : String) (member part : Text) :
    Except Raised Text := do
  let first ← pathSegment member operation label
  let second ← pathSegment part operation label
  return collection.toList ++ (first ++ '/' :: (kind.toList ++ '/' :: (second ++ ['/'])))

theorem nestedPath_of_safe {member part : Text} (hmember : safeSegment member = true)
    (hpart : safeSegment part = true) (collection kind operation label : String) :
    nestedPath collection kind operation label member part =
      .ok (collection.toList ++
        (quote [] member ++ '/' :: (kind.toList ++ '/' :: (quote [] part ++ ['/'])))) := by
  rw [nestedPath, pathSegment, pathSegment, if_pos hmember, if_pos hpart]
  rfl

/-- A slash is not in a quoted identifier, so the path tells which identifiers it is for. -/
theorem nestedPath_injective {first second third fourth : Text} (hfirst : safeSegment first = true)
    (hsecond : safeSegment second = true) (hthird : safeSegment third = true)
    (hfourth : safeSegment fourth = true) {collection kind operation label : String}
    (hpath : nestedPath collection kind operation label first second =
      nestedPath collection kind operation label third fourth) :
    first = third ∧ second = fourth := by
  have hslash : ∀ text, '/' ∉ quote [] text := notMem_quote (.inr rfl) List.not_mem_nil
  rw [nestedPath_of_safe hfirst hsecond, nestedPath_of_safe hthird hfourth] at hpath
  have hinside := List.append_cancel_left (Except.ok.inj hpath)
  obtain ⟨hmember, hrest⟩ :=
    append_cons_inj_of_notMem_left (hslash first) (hslash third) hinside
  have hpart := List.append_cancel_left hrest
  rw [List.cons.injEq] at hpart
  constructor
  · exact quote_injective List.not_mem_nil hmember
  · exact quote_injective List.not_mem_nil (List.append_cancel_right hpart.2)

/-- The operations that change what two identifiers name together. -/
inductive PairOperation
  | deleteBadge
  | editDiscussionComment
  | deleteDiscussionComment
  | topicElementUpdate
  | topicElementDelete

/-- The name of the operation, to which a confirmation is bound. -/
def PairOperation.operation : PairOperation → String
  | .deleteBadge => "udata/api-v1.delete-dataset-badge"
  | .editDiscussionComment => "udata/api-v1.edit-discussion-comment"
  | .deleteDiscussionComment => "udata/api-v1.delete-discussion-comment"
  | .topicElementUpdate => "udata/api-v2.topic-element-update"
  | .topicElementDelete => "udata/api-v2.topic-element-delete"

/-- The mutation is dispatched with `destructive=True`. -/
def PairOperation.destructive : PairOperation → Bool
  | .deleteBadge | .deleteDiscussionComment | .topicElementDelete => true
  | .editDiscussionComment | .topicElementUpdate => false

/-- The path of `delete_badge_request` -/
def deleteBadgePath : Text → Text → Except Raised Text :=
  nestedPath "/api/1/datasets/" "badges" PairOperation.deleteBadge.operation "uData taxonomy"

/-- The path of `edit_discussion_comment_request` -/
def editDiscussionCommentPath : Text → Text → Except Raised Text :=
  nestedPath "/api/1/discussions/" "comments" PairOperation.editDiscussionComment.operation
    "uData discussion"

/-- The path of `delete_discussion_comment_request` -/
def deleteDiscussionCommentPath : Text → Text → Except Raised Text :=
  nestedPath "/api/1/discussions/" "comments" PairOperation.deleteDiscussionComment.operation
    "uData discussion"

/-- `topic_element_request` -/
def topicElementRequest (operation : String) : Text → Text → Except Raised Text :=
  nestedPath "/api/2/topics/" "elements" operation "Topic"

/-- `_target` of the taxonomy services -/
def taxonomyTarget (datasetId : Text) : Option Text → Text
  | none => datasetId
  | some kind => datasetId ++ ':' :: kind

/-- The target of a discussion comment: the two identifiers with a colon between them. -/
def commentTarget (discussionId commentId : Text) : Text := discussionId ++ ':' :: commentId

/-- `_element_target` -/
def elementTarget (topicId elementId : Text) : Text := compositeTarget [topicId, elementId]

/-- The path that the operation sends its request to. -/
def PairOperation.path : PairOperation → Text → Text → Except Raised Text
  | .deleteBadge => deleteBadgePath
  | .editDiscussionComment => editDiscussionCommentPath
  | .deleteDiscussionComment => deleteDiscussionCommentPath
  | .topicElementUpdate => topicElementRequest PairOperation.topicElementUpdate.operation
  | .topicElementDelete => topicElementRequest PairOperation.topicElementDelete.operation

/-- The target that the confirmation of the operation is compared with. -/
def PairOperation.target : PairOperation → Text → Text → Text
  | .deleteBadge => fun datasetId kind => taxonomyTarget datasetId (some kind)
  | .editDiscussionComment | .deleteDiscussionComment => commentTarget
  | .topicElementUpdate | .topicElementDelete => elementTarget

/-- The target is made without quoting the identifiers. -/
def PairOperation.isRaw : PairOperation → Bool
  | .deleteBadge | .editDiscussionComment | .deleteDiscussionComment => true
  | .topicElementUpdate | .topicElementDelete => false

variable {first second third fourth : Text}

theorem PairOperation.path_injective (operation : PairOperation)
    (hfirst : safeSegment first = true) (hsecond : safeSegment second = true)
    (hthird : safeSegment third = true) (hfourth : safeSegment fourth = true)
    (hpath : operation.path first second = operation.path third fourth) :
    first = third ∧ second = fourth := by
  cases operation <;> exact nestedPath_injective hfirst hsecond hthird hfourth hpath

theorem PairOperation.path_of_safe (operation : PairOperation)
    (hfirst : safeSegment first = true) (hsecond : safeSegment second = true) :
    ∃ path, operation.path first second = .ok path := by
  cases operation <;> exact ⟨_, nestedPath_of_safe hfirst hsecond _ _ _ _⟩

/-- The colon between two identifiers can stand elsewhere: one identifier of each pair holds
it, and so has something of the other pair's other identifier. -/
def Shifted (first second third fourth : Text) : Prop :=
  (∃ between, third = first ++ ':' :: between ∧ second = between ++ ':' :: fourth) ∨
    ∃ between, first = third ++ ':' :: between ∧ fourth = between ++ ':' :: second

/-- Two pairs of identifiers have one target exactly when they are one pair, or when the
target is raw and the colon can be shifted. -/
theorem PairOperation.target_eq_iff (operation : PairOperation) :
    operation.target first second = operation.target third fourth ↔
      (first = third ∧ second = fourth) ∨
        (operation.isRaw = true ∧ Shifted first second third fourth) := by
  have hraw : first ++ ':' :: second = third ++ ':' :: fourth ↔
      (first = third ∧ second = fourth) ∨ Shifted first second third fourth :=
    append_word_eq_iff (apart_singleton ':' _)
  have hquoted : compositeTarget [first, second] = compositeTarget [third, fourth] ↔
      first = third ∧ second = fourth := by
    constructor
    · intro htarget
      have hsame := compositeTarget_injective (List.cons_ne_nil _ _) (List.cons_ne_nil _ _) htarget
      simpa using hsame
    · intro hsame
      rw [hsame.1, hsame.2]
  cases operation with
  | deleteBadge => simpa [PairOperation.target, PairOperation.isRaw, taxonomyTarget] using hraw
  | editDiscussionComment =>
      simpa [PairOperation.target, PairOperation.isRaw, commentTarget] using hraw
  | deleteDiscussionComment =>
      simpa [PairOperation.target, PairOperation.isRaw, commentTarget] using hraw
  | topicElementUpdate =>
      simpa [PairOperation.target, PairOperation.isRaw, elementTarget] using hquoted
  | topicElementDelete =>
      simpa [PairOperation.target, PairOperation.isRaw, elementTarget] using hquoted

/-- A shifted pair is another pair. -/
theorem Shifted.ne (hshifted : Shifted first second third fourth) : first ≠ third := by
  intro hsame
  subst hsame
  rcases hshifted with ⟨between, h, -⟩ | ⟨between, h, -⟩ <;>
    simpa using congrArg List.length h

/-! ## Harvest sources -/

/-- The members of `HARVEST_BULK_ACTIONS`. -/
inductive BulkAction
  | deleteSource
  | unscheduleSource
  | runSource
  deriving DecidableEq

/-- The name of an action. -/
def BulkAction.name : BulkAction → Text
  | .deleteSource => "delete-source".toList
  | .unscheduleSource => "unschedule-source".toList
  | .runSource => "run-source".toList

/-- `action in HARVEST_DESTRUCTIVE_BULK_ACTIONS` -/
def BulkAction.destructive : BulkAction → Bool
  | .deleteSource | .unscheduleSource => true
  | .runSource => false

/-- `HARVEST_OPERATION` -/
def harvestOperation : String := "udata/api-v1.harvest-moderation-and-admin-operations"

/-- `HarvestBulkTargets`, with what its constructor checks. -/
structure HarvestBulkTargets where
  sourceIds : List Text
  length_pos : 1 ≤ sourceIds.length
  length_le : sourceIds.length ≤ 64
  ids_ne : ∀ sourceId ∈ sourceIds, sourceId ≠ []
  nodup : sourceIds.Nodup

/-- `bulk_target`; `digest` is the start of the hexadecimal SHA-256 digest of a text. -/
def bulkTarget (digest : Text → Text) (action : BulkAction) (sourceIds : List Text) : Text :=
  action.name ++ ':' :: digest (join ['\n'] sourceIds)

/-- `_source_path` -/
def sourcePath (sourceId : Text) : Except Raised Text := do
  let segment ← pathSegment sourceId harvestOperation "uData harvest source"
  return "/api/1/harvest/source/".toList ++ (segment ++ ['/'])

/-- The path of `delete_source_request` -/
def deleteSourcePath (sourceId : Text) : Except Raised Text := sourcePath sourceId

/-- The path of `unschedule_source_request` -/
def unscheduleSourcePath (sourceId : Text) : Except Raised Text :=
  (· ++ "schedule/".toList) <$> sourcePath sourceId

/-- The path of `run_source_request` -/
def runSourcePath (sourceId : Text) : Except Raised Text :=
  (· ++ "run/".toList) <$> sourcePath sourceId

/-- The path of the request that `_BULK_REQUESTS` has for the action. -/
def BulkAction.path : BulkAction → Text → Except Raised Text
  | .deleteSource => deleteSourcePath
  | .unscheduleSource => unscheduleSourcePath
  | .runSource => runSourcePath

/-- The first letter of an action tells the action. -/
def BulkAction.letter : BulkAction → Char
  | .deleteSource => 'd'
  | .unscheduleSource => 'u'
  | .runSource => 'r'

theorem BulkAction.head_name (action : BulkAction) : action.name.head? = some action.letter := by
  cases action <;> decide

theorem BulkAction.name_injective {action other : BulkAction} {text back : Text}
    (hname : action.name ++ text = other.name ++ back) : action = other := by
  have hhead := congrArg List.head? hname
  rw [List.head?_append, List.head?_append, head_name, head_name, Option.some_or,
    Option.some_or] at hhead
  have hletter := Option.some.inj hhead
  cases action <;> cases other <;> first
    | rfl
    | exact absurd hletter (by decide)

/-- An item with an identifier that is no path segment is settled without a request; any other
item has a path that tells its identifier. -/
theorem BulkAction.exists_path (action : BulkAction) :
    ∃ write : Text → Text, (∀ first second, write first = write second → first = second) ∧
      ∀ sourceId, (action.path sourceId).toOption =
        if safeSegment sourceId then some (write sourceId) else none := by
  have hsource : ∀ sourceId, (sourcePath sourceId).toOption =
      if safeSegment sourceId then
        some ("/api/1/harvest/source/".toList ++ (quote [] sourceId ++ ['/'])) else none := by
    intro sourceId
    rw [sourcePath, pathSegment]
    split <;> rfl
  have hinjective : ∀ (back first second : Text),
      "/api/1/harvest/source/".toList ++ (quote [] first ++ ['/']) ++ back =
        "/api/1/harvest/source/".toList ++ (quote [] second ++ ['/']) ++ back →
      first = second := by
    intro back first second hpath
    have hinside := List.append_cancel_left (List.append_cancel_right hpath)
    exact quote_injective List.not_mem_nil (List.append_cancel_right hinside)
  have hbehind : ∀ (back : Text) (sourceId : Text),
      ((· ++ back) <$> sourcePath sourceId).toOption =
        (sourcePath sourceId).toOption.map (· ++ back) := by
    intro back sourceId
    cases sourcePath sourceId <;> rfl
  cases action with
  | deleteSource =>
      refine ⟨fun sourceId => "/api/1/harvest/source/".toList ++ (quote [] sourceId ++ ['/']),
        ?_, hsource⟩
      intro first second hpath
      exact hinjective [] first second (by rw [List.append_nil, List.append_nil]; exact hpath)
  | unscheduleSource =>
      refine ⟨_, hinjective "schedule/".toList, fun sourceId => ?_⟩
      rw [BulkAction.path, unscheduleSourcePath, hbehind, hsource]
      split <;> rfl
  | runSource =>
      refine ⟨_, hinjective "run/".toList, fun sourceId => ?_⟩
      rw [BulkAction.path, runSourcePath, hbehind, hsource]
      split <;> rfl

/-- The paths of the items of a plan, in order. A run that stops early sends to the first ones. -/
def bulkPaths (action : BulkAction) (sourceIds : List Text) : List Text :=
  sourceIds.filterMap fun sourceId => (action.path sourceId).toOption

/-- Two plans for one action have the same paths exactly when they have the same path
segments. -/
theorem bulkPaths_eq_iff (action : BulkAction) (sourceIds others : List Text) :
    bulkPaths action sourceIds = bulkPaths action others ↔
      sourceIds.filter safeSegment = others.filter safeSegment := by
  obtain ⟨write, hwrite, hpath⟩ := action.exists_path
  have hmap : ∀ ids, bulkPaths action ids = (ids.filter safeSegment).map write := by
    intro ids
    induction ids with
    | nil => rfl
    | cons sourceId ids ih =>
        rw [bulkPaths] at ih ⊢
        rw [List.filterMap_cons, hpath, List.filter_cons, ih]
        cases safeSegment sourceId <;> rfl
  rw [hmap, hmap]
  exact (List.map_injective_iff.mpr hwrite).eq_iff

/-! ## Calls -/

/-- A call of one of the operations, with its identifiers. -/
inductive TargetedCall
  | pair (operation : PairOperation) (first second : Text)
  | runBulk (action : BulkAction) (targets : HarvestBulkTargets)

namespace TargetedCall

/-- The operation that the confirmation is bound to. -/
def operation : TargetedCall → String
  | pair operation _ _ => operation.operation
  | runBulk _ _ => harvestOperation

def destructive : TargetedCall → Bool
  | pair operation _ _ => operation.destructive
  | runBulk action _ => action.destructive

/-- The target that the confirmation is bound to. -/
def target (digest : Text → Text) : TargetedCall → Text
  | pair operation first second => operation.target first second
  | runBulk action targets => bulkTarget digest action targets.sourceIds

/-- The operation accepts the identifiers. -/
def accepted : TargetedCall → Bool
  | pair _ first second => safeSegment first && safeSegment second
  | runBulk _ _ => true

/-- The paths that the call sends its requests to. -/
def paths : TargetedCall → List Text
  | pair operation first second => (operation.path first second).toOption.toList
  | runBulk action targets => bulkPaths action targets.sourceIds

end TargetedCall

theorem PairOperation.operation_injective {operation other : PairOperation}
    (hname : operation.operation = other.operation) : operation = other := by
  cases operation <;> cases other <;> first
    | rfl
    | exact absurd hname (by decide)

theorem PairOperation.operation_ne (operation : PairOperation) :
    operation.operation ≠ harvestOperation := by
  cases operation <;> decide

/-- Two calls that one target stands for although they are not about the same things. -/
inductive Confused (digest : Text → Text) : TargetedCall → TargetedCall → Prop
  | /-- A colon of an identifier is taken for the one between them. -/
    shifted {operation : PairOperation} {first second third fourth : Text}
      (isRaw : operation.isRaw = true) (shifted : Shifted first second third fourth) :
      Confused digest (.pair operation first second) (.pair operation third fourth)
  | /-- A line break of an identifier is taken for the one between them. -/
    regrouped {action : BulkAction} {targets others : HarvestBulkTargets}
      (joined : join ['\n'] targets.sourceIds = join ['\n'] others.sourceIds)
      (segments : targets.sourceIds.filter safeSegment ≠ others.sourceIds.filter safeSegment) :
      Confused digest (.runBulk action targets) (.runBulk action others)
  | /-- Two joined texts have one digest. -/
    collided {action : BulkAction} {targets others : HarvestBulkTargets}
      (joined : join ['\n'] targets.sourceIds ≠ join ['\n'] others.sourceIds)
      (collision : digest (join ['\n'] targets.sourceIds) = digest (join ['\n'] others.sourceIds))
      (segments : targets.sourceIds.filter safeSegment ≠ others.sourceIds.filter safeSegment) :
      Confused digest (.runBulk action targets) (.runBulk action others)

/-- Lists of identifiers without a line break are not regrouped. -/
theorem eq_of_join_eq {targets others : HarvestBulkTargets}
    (htargets : ∀ sourceId ∈ targets.sourceIds, '\n' ∉ sourceId)
    (hothers : ∀ sourceId ∈ others.sourceIds, '\n' ∉ sourceId)
    (hjoined : join ['\n'] targets.sourceIds = join ['\n'] others.sourceIds) :
    targets.sourceIds = others.sourceIds := by
  rw [← split_join (List.ne_nil_of_length_pos targets.length_pos) htargets, hjoined,
    split_join (List.ne_nil_of_length_pos others.length_pos) hothers]

/-- Without line breaks only a collision of the digest confuses two plans. -/
theorem Confused.digest_eq {digest : Text → Text} {action other : BulkAction}
    {targets others : HarvestBulkTargets}
    (hconfused : Confused digest (.runBulk action targets) (.runBulk other others))
    (htargets : ∀ sourceId ∈ targets.sourceIds, '\n' ∉ sourceId)
    (hothers : ∀ sourceId ∈ others.sourceIds, '\n' ∉ sourceId) :
    join ['\n'] targets.sourceIds ≠ join ['\n'] others.sourceIds ∧
      digest (join ['\n'] targets.sourceIds) = digest (join ['\n'] others.sourceIds) := by
  cases hconfused with
  | regrouped hjoined hsegments =>
      rw [eq_of_join_eq htargets hothers hjoined] at hsegments
      exact absurd rfl hsegments
  | collided hjoined hcollision _ => exact ⟨hjoined, hcollision⟩

/-- Confused calls have one target and different paths. -/
theorem Confused.target_eq {digest : Text → Text} {first second : TargetedCall}
    (hconfused : Confused digest first second) : first.target digest = second.target digest := by
  cases hconfused with
  | shifted hraw hshifted => exact PairOperation.target_eq_iff _ |>.mpr (.inr ⟨hraw, hshifted⟩)
  | regrouped hjoined _ =>
      show bulkTarget digest _ _ = bulkTarget digest _ _
      rw [bulkTarget, bulkTarget, hjoined]
  | collided _ hcollision _ =>
      show bulkTarget digest _ _ = bulkTarget digest _ _
      rw [bulkTarget, bulkTarget, hcollision]

theorem Confused.paths_ne {digest : Text → Text} {first second : TargetedCall}
    (hconfused : Confused digest first second) (hfirst : first.accepted = true)
    (hsecond : second.accepted = true) : first.paths ≠ second.paths := by
  intro hsame
  cases hconfused with
  | @shifted operation one two three four _ hshifted =>
      obtain ⟨hone, htwo⟩ := Bool.and_eq_true_iff.mp hfirst
      obtain ⟨hthree, hfour⟩ := Bool.and_eq_true_iff.mp hsecond
      obtain ⟨path, hpath⟩ := operation.path_of_safe hone htwo
      obtain ⟨path', hpath'⟩ := operation.path_of_safe hthree hfour
      rw [TargetedCall.paths, TargetedCall.paths, hpath, hpath'] at hsame
      have hpaths : path = path' := (List.cons.inj hsame).1
      have hpair := operation.path_injective hone htwo hthree hfour
        (by rw [hpath, hpath', hpaths])
      exact hshifted.ne hpair.1
  | regrouped _ hsegments => exact hsegments ((bulkPaths_eq_iff _ _ _).mp hsame)
  | collided _ _ hsegments => exact hsegments ((bulkPaths_eq_iff _ _ _).mp hsame)

/-- Calls of one operation that have one target and are not confused have the same paths. -/
theorem paths_eq_of_not_confused {digest : Text → Text} {first second : TargetedCall}
    (hoperation : first.operation = second.operation)
    (htarget : first.target digest = second.target digest)
    (hconfused : ¬ Confused digest first second) : first.paths = second.paths := by
  cases first with
  | pair operation one two =>
      cases second with
      | pair other three four =>
          obtain rfl := PairOperation.operation_injective hoperation
          rcases operation.target_eq_iff.mp htarget with ⟨rfl, rfl⟩ | ⟨hraw, hshifted⟩
          · rfl
          · exact absurd (.shifted hraw hshifted) hconfused
      | runBulk action targets => exact absurd hoperation operation.operation_ne
  | runBulk action targets =>
      cases second with
      | pair other three four => exact absurd hoperation.symm other.operation_ne
      | runBulk other others =>
          obtain rfl := BulkAction.name_injective htarget
          have hdigest := (List.cons.inj (List.append_cancel_left htarget)).2
          apply (bulkPaths_eq_iff _ _ _).mpr
          by_contra hsegments
          by_cases hjoined : join ['\n'] targets.sourceIds = join ['\n'] others.sourceIds
          · exact hconfused (.regrouped hjoined hsegments)
          · exact hconfused (.collided hjoined hdigest hsegments)

/-- Two calls that an operation accepts and that have one target send their requests to the
same paths exactly when they are not confused. -/
theorem paths_eq_of_target_eq_iff (digest : Text → Text) (first second : TargetedCall)
    (hoperation : first.operation = second.operation) (hfirst : first.accepted = true)
    (hsecond : second.accepted = true) :
    (first.target digest = second.target digest → first.paths = second.paths) ↔
      ¬ Confused digest first second := by
  constructor
  · intro hpaths hconfused
    exact hconfused.paths_ne hfirst hsecond (hpaths hconfused.target_eq)
  · intro hconfused htarget
    exact paths_eq_of_not_confused hoperation htarget hconfused

/-- A list of sources one of which has an identifier with a line break, and the list that its
text is read as. Neither of the parts is a path segment. -/
def brokenLine : HarvestBulkTargets := ⟨[['a'], ['/', '\n', '?']],
  by decide, by decide, by decide, by decide⟩

def brokenLineRead : HarvestBulkTargets := ⟨[['a'], ['/'], ['?']],
  by decide, by decide, by decide, by decide⟩

/-- These two calls have one target and are not confused: both send a request for `a` only. -/
theorem paths_eq_of_target_eq_iff_run_bulk :
    let first := TargetedCall.runBulk .runSource brokenLine
    let second := TargetedCall.runBulk .runSource brokenLineRead
    first.target id = second.target id ∧ ¬ Confused id first second ∧ first.paths = second.paths ∧
      first.paths ≠ [] := by
  have htarget : TargetedCall.target id (.runBulk .runSource brokenLine) =
      TargetedCall.target id (.runBulk .runSource brokenLineRead) := by decide
  have hconfused : ¬ Confused id (.runBulk .runSource brokenLine)
      (.runBulk .runSource brokenLineRead) := by
    intro hconfused
    cases hconfused with
    | regrouped _ hsegments => exact hsegments (by decide)
    | collided hjoined _ _ => exact hjoined (by decide)
  have hpaths := paths_eq_of_target_eq_iff id (.runBulk .runSource brokenLine)
    (.runBulk .runSource brokenLineRead) rfl rfl rfl
  exact ⟨htarget, hconfused, hpaths.mpr hconfused htarget, by decide⟩

/-- The confirmation for the badge `c` of the dataset `a:b` is good for the badge `b:c` of the
dataset `a`. -/
theorem two_badges_have_one_target :
    ¬ ∀ (digest : Text → Text) (first second : TargetedCall),
      first.operation = second.operation → first.accepted = true → second.accepted = true →
        first.target digest = second.target digest → first.paths = second.paths := by
  intro hclaim
  have hpaths := hclaim id (.pair .deleteBadge ['a', ':', 'b'] ['c'])
    (.pair .deleteBadge ['a'] ['b', ':', 'c']) rfl (by decide) (by decide) rfl
  exact absurd hpaths (by decide)

/-- One policy that is accepted for two calls that are not confused lets them send their
requests to the same paths only. -/
theorem paths_eq_of_enforceMutationPolicy {digest : Text → Text} {first second : TargetedCall}
    {policy : Option MutationPolicy}
    (hfirst : enforceMutationPolicy first.operation (first.target digest) policy
      first.destructive = .ok ())
    (hsecond : enforceMutationPolicy second.operation (second.target digest) policy
      second.destructive = .ok ())
    (hconfused : ¬ Confused digest first second) : first.paths = second.paths := by
  obtain ⟨hoperation, htarget⟩ := eq_of_enforceMutationPolicy hfirst hsecond
  exact paths_eq_of_not_confused hoperation htarget hconfused

end DataSluice.Catalog.Udata
