/-
# Contracts and the order of entries

A strict envelope is a dictionary with given keys. What its contract reads of it does not
depend on the order of the entries, so an envelope that is accepted is also accepted when it
comes back from JSON text with its keys sorted.
-/

import DataSluice.Domain.JsonValue

namespace DataSluice.Domain

open DataSluice.Lib DataSluice.Lib.Url

/-! ## Fields -/

/-- The value is a JSON value, and so is each field that is looked up. -/
def JsonFields (fields : List (String × Value)) : Prop :=
  (fields.map Prod.fst).Nodup ∧ ∀ field ∈ fields, IsJson field.2

theorem isJson_dict_iff {fields : List (String × Value)} :
    IsJson (.dict (asMapping fields)) ↔ JsonFields fields := by
  constructor
  · intro hvalue
    generalize hmapping : asMapping fields = entries at hvalue
    cases hvalue with
    | dict others hnodup hothers =>
        have hsame := congrArg textFields hmapping
        rw [textFields_asMapping, textFields_asMapping] at hsame
        rw [hsame]
        exact ⟨hnodup, hothers⟩
  · exact fun hfields => .dict fields hfields.1 hfields.2

theorem JsonFields.fieldOf {fields : List (String × Value)} (hfields : JsonFields fields)
    (name : String) : IsJson (fieldOf fields name) := by
  rw [Domain.fieldOf]
  cases hlookup : fields.lookup name with
  | none => exact .none
  | some value =>
      exact hfields.2 (name, value) ((lookup_eq_some_iff_mem hfields.1 name value).mp hlookup)

theorem JsonFields.sortedFields {fields : List (String × Value)} (hfields : JsonFields fields) :
    JsonFields (sortedFields fields) := by
  have hsorted := isJson_sorted (isJson_dict_iff.mpr hfields)
  rw [sorted_dict] at hsorted
  exact isJson_dict_iff.mp hsorted

theorem fieldOf_sortedFields {fields : List (String × Value)} (hfields : JsonFields fields)
    (name : String) : fieldOf (sortedFields fields) name = sorted (fieldOf fields name) := by
  rw [fieldOf, lookup_sortedFields hfields.1, fieldOf]
  cases fields.lookup name <;> rfl

theorem hasKeys_sortedFields (names : List String) (fields : List (String × Value)) :
    hasKeys names (sortedFields fields) = hasKeys names fields := by
  have hperm := keys_perm_sortedFields fields
  have hfirst : (sortedFields fields).map Prod.fst ⊆ names ↔ fields.map Prod.fst ⊆ names :=
    ⟨fun hsub _ hmem => hsub (hperm.mem_iff.mpr hmem),
      fun hsub _ hmem => hsub (hperm.mem_iff.mp hmem)⟩
  have hsecond : names ⊆ (sortedFields fields).map Prod.fst ↔ names ⊆ fields.map Prod.fst :=
    ⟨fun hsub _ hmem => hperm.mem_iff.mp (hsub hmem),
      fun hsub _ hmem => hperm.mem_iff.mpr (hsub hmem)⟩
  simp only [hasKeys, hfirst, hsecond]

theorem isText_sorted (text : String) (value : Value) :
    (sorted value).isText text = value.isText text := by
  cases value <;> rfl

theorem isOne_sorted (value : Value) : (sorted value).isOne = value.isOne := by
  cases value <;> rfl

/-- Only a dictionary opens, and it opens to its fields. -/
theorem objectDict_eq_ok {contract path : String} {value : Value} (hvalue : IsJson value)
    {data : List (String × Value)}
    (hdata : inContract contract (objectDict path value) = .ok data) :
    value = .dict (asMapping data) ∧ JsonFields data := by
  cases hvalue with
  | dict fields hnodup hfields =>
      have hopen := objectDict_record path fields
      change objectDict path (.dict (asMapping fields)) = .ok fields at hopen
      rw [hopen] at hdata
      cases hdata
      exact ⟨rfl, hnodup, hfields⟩
  | _ => cases hdata

theorem objectDict_sorted (contract path : String) (data : List (String × Value)) :
    inContract contract (objectDict path (sorted (.dict (asMapping data)))) =
      .ok (sortedFields data) := by
  have hopen := objectDict_record path (sortedFields data)
  rw [sorted_dict]
  change objectDict path (.dict (asMapping (sortedFields data))) = _ at hopen
  rw [hopen]
  rfl

/-! ## Freezing -/

theorem exists_freezeJsonItems {path : String} {items : List Value}
    (hitems : ∀ item ∈ items, ∃ frozen, freezeJson path item = .ok frozen) :
    ∃ frozen, freezeJsonItems path items = .ok frozen := by
  induction items with
  | nil => exact ⟨_, rfl⟩
  | cons item items ih =>
      obtain ⟨first, hfirst⟩ := hitems item List.mem_cons_self
      obtain ⟨rest, hrest⟩ := ih fun later hlater =>
        hitems later (List.mem_cons_of_mem item hlater)
      rw [freezeJsonItems, hfirst, hrest]
      exact ⟨_, rfl⟩

theorem exists_freezeJsonObject {path : String} {fields : List (String × Value)}
    (hfields : ∀ field ∈ fields, ∃ frozen,
      freezeJson (path ++ "." ++ field.1) field.2 = .ok frozen) :
    ∃ frozen, freezeJsonObject path (asMapping fields) = .ok frozen := by
  induction fields with
  | nil => exact ⟨_, rfl⟩
  | cons field fields ih =>
      obtain ⟨first, hfirst⟩ := hfields field List.mem_cons_self
      obtain ⟨rest, hrest⟩ := ih fun later hlater =>
        hfields later (List.mem_cons_of_mem field hlater)
      rw [asMapping] at hrest ⊢
      rw [List.map_cons, freezeJsonObject, hfirst, hrest]
      exact ⟨_, rfl⟩

/-- A JSON value can be frozen. -/
theorem exists_freezeJson {value : Value} (hvalue : IsJson value) (path : String) :
    ∃ frozen, freezeJson path value = .ok frozen := by
  induction hvalue generalizing path with
  | none | bool _ | int _ | str _ => exact ⟨_, rfl⟩
  | float value hfinite =>
      rw [freezeJson, if_pos hfinite]
      exact ⟨_, rfl⟩
  | list items _ ih =>
      obtain ⟨frozen, hfrozen⟩ := exists_freezeJsonItems fun item hitem => ih item hitem path
      rw [freezeJson, hfrozen]
      exact ⟨_, rfl⟩
  | dict fields _ _ ih =>
      obtain ⟨frozen, hfrozen⟩ := exists_freezeJsonObject fun field hfield =>
        ih field hfield (path ++ "." ++ field.1)
      rw [freezeJson, hfrozen]
      exact ⟨_, rfl⟩

theorem JsonFields.exists_freeze {fields : List (String × Value)} (hfields : JsonFields fields)
    (path : String) : ∃ frozen, freezeJsonObject path (asMapping fields) = .ok frozen :=
  exists_freezeJsonObject fun field hfield =>
    exists_freezeJson (hfields.2 field hfield) (path ++ "." ++ field.1)

/-- Extensions are frozen when their names are namespaces. -/
theorem JsonFields.exists_freezeExtensions_iff {fields : List (String × Value)}
    (hfields : ∀ field ∈ fields, IsJson field.2) :
    (∃ frozen, freezeExtensions (asMapping fields) = .ok frozen) ↔
      ∀ field ∈ fields, isNamespace field.1 = true := by
  induction fields with
  | nil => exact ⟨fun _ field hnone => absurd hnone List.not_mem_nil, fun _ => ⟨_, rfl⟩⟩
  | cons field fields ih =>
      have hrest := ih fun later hlater => hfields later (List.mem_cons_of_mem field hlater)
      obtain ⟨first, hfirst⟩ :=
        exists_freezeJson (hfields field List.mem_cons_self) ("extensions." ++ field.1)
      rw [asMapping] at hrest ⊢
      rw [List.map_cons, freezeExtensions, List.forall_mem_cons, ← hrest]
      by_cases hname : isNamespace field.1 = true
      · rw [if_pos hname, hfirst]
        constructor
        · rintro ⟨frozen, hfrozen⟩
          obtain ⟨rest, hrest, -⟩ := map_eq_ok hfrozen
          exact ⟨hname, rest, hrest⟩
        · rintro ⟨-, rest, hrest⟩
          rw [hrest]
          exact ⟨_, rfl⟩
      · rw [if_neg hname]
        constructor
        · rintro ⟨frozen, hfrozen⟩
          cases hfrozen
        · rintro ⟨hnamed, -⟩
          exact absurd hnamed hname

theorem JsonFields.exists_freezeExtensions {fields : List (String × Value)}
    (hfields : JsonFields fields) {frozen : List (Key × Value)}
    (hfrozen : freezeExtensions (asMapping fields) = .ok frozen) :
    ∃ frozen, freezeExtensions (asMapping (Domain.sortedFields fields)) = .ok frozen := by
  apply (exists_freezeExtensions_iff hfields.sortedFields.2).mpr
  intro field hfield
  obtain ⟨given, hgiven, rfl⟩ := mem_sortedFields.mp hfield
  exact (exists_freezeExtensions_iff hfields.2).mp ⟨frozen, hfrozen⟩ given hgiven

/-! ## Contracts -/

theorem optionalText_sorted (path : String) (value : Value) :
    optionalText path (sorted value) = optionalText path value := by
  cases value <;> rfl

theorem Digest.fromDict_sorted {value : Value} (hvalue : IsJson value) {digest : Digest}
    (hdigest : fromDict value = .ok digest) : fromDict (sorted value) = .ok digest := by
  rw [fromDict] at hdigest
  cases hopen : inContract "contract" (objectDict "digest" value) with
  | error error =>
      rw [hopen] at hdigest
      cases hdigest
  | ok data =>
      obtain ⟨rfl, hdata⟩ := objectDict_eq_ok hvalue hopen
      rw [hopen] at hdigest
      rw [fromDict, objectDict_sorted]
      simp only [bind, Except.bind, hasKeys_sortedFields, fieldOf_sortedFields hdata] at hdigest ⊢
      split at hdigest
      · cases hdigest
      next hkeys =>
        rw [if_neg hkeys]
        split at hdigest
        next algorithm text halgorithm htext =>
          rw [halgorithm, htext]
          exact hdigest
        · cases hdigest

section Locators

variable {unicode : UnicodeData}

/-- The order of the extensions does not matter to a locator. -/
theorem DirectResourceLocator.exists_new_sorted {uri : String} {format mediaType : Option String}
    {extensions : List (String × Value)} (hextensions : JsonFields extensions)
    {locator : DirectResourceLocator unicode}
    (hlocator : new unicode uri format mediaType (asMapping extensions) = .ok locator) :
    ∃ other, new unicode uri format mediaType (asMapping (sortedFields extensions)) =
      .ok other := by
  unfold new at hlocator
  split at hlocator
  · cases hlocator
  next valid huri =>
    split at hlocator
    · cases hlocator
    next frozen hfrozen =>
      obtain ⟨same, hsame⟩ := hextensions.exists_freezeExtensions hfrozen
      unfold new
      split
      next error herror =>
        rw [huri] at herror
        cases herror
      next =>
        split
        next error herror =>
          rw [hsame] at herror
          cases herror
        next => exact ⟨_, rfl⟩

theorem resourceLocatorFromDict_sorted {data : List (String × Value)} (hdata : JsonFields data)
    {locator : DirectResourceLocator unicode}
    (hlocator : resourceLocatorFromDict unicode data = .ok locator) :
    ∃ same, resourceLocatorFromDict unicode (sortedFields data) = .ok same := by
  simp only [resourceLocatorFromDict, DirectResourceLocator.fromDict, hasKeys_sortedFields,
    fieldOf_sortedFields hdata, isText_sorted, isOne_sorted, optionalText_sorted, bind,
    Except.bind] at hlocator ⊢
  split at hlocator
  next hkind =>
    rw [if_pos hkind]
    split at hlocator
    · cases hlocator
    next hkeys =>
      rw [if_neg hkeys]
      split at hlocator
      next uri format mediaType huri hformat hmedia =>
        simp only [huri, hformat, hmedia, sorted]
        split at hlocator
        · cases hlocator
        next extensions hopen =>
          obtain ⟨hvalue, hextensions⟩ := objectDict_eq_ok (hdata.fieldOf "extensions") hopen
          rw [hvalue, objectDict_sorted]
          exact DirectResourceLocator.exists_new_sorted hextensions hlocator
      · cases hlocator
  next => cases hlocator

end Locators

section Artifacts

variable (stdlib : Stdlib)

theorem mapM_textOf_sorted (items : List Value) :
    (sortedItems items).mapM ArtifactProvenance.textOf =
      items.mapM ArtifactProvenance.textOf := by
  have htext : ∀ value, ArtifactProvenance.textOf (sorted value) =
      ArtifactProvenance.textOf value := by
    intro value
    cases value <;> rfl
  induction items with
  | nil => rfl
  | cons item items ih =>
      rw [sortedItems, List.mapM_cons, htext, ih, List.mapM_cons]

/-- No other field of a provenance is checked against its locator. -/
theorem ArtifactProvenance.exists_new {locator : DirectResourceLocator stdlib.unicode}
    {identity mode : String} {createdAt : DateTime} {transforms : List String}
    {provenance : ArtifactProvenance stdlib.unicode}
    (hprovenance : new stdlib.unicode locator identity createdAt mode transforms =
      .ok provenance) (same : DirectResourceLocator stdlib.unicode) :
    ∃ built, new stdlib.unicode same identity createdAt mode transforms = .ok built := by
  unfold new artifactError at hprovenance ⊢
  split_ifs at hprovenance ⊢
  exact ⟨_, rfl⟩

theorem ArtifactProvenance.fromDict_sorted {value : Value} (hvalue : IsJson value)
    {provenance : ArtifactProvenance stdlib.unicode}
    (hprovenance : fromDict stdlib value = .ok provenance) :
    ∃ same, fromDict stdlib (sorted value) = .ok same := by
  rw [fromDict] at hprovenance
  cases hopen : inContract "contract" (objectDict "provenance" value) with
  | error error =>
      rw [hopen] at hprovenance
      cases hprovenance
  | ok data =>
      obtain ⟨rfl, hdata⟩ := objectDict_eq_ok hvalue hopen
      rw [hopen] at hprovenance
      rw [fromDict, objectDict_sorted]
      simp only [bind, Except.bind, hasKeys_sortedFields,
        fieldOf_sortedFields hdata] at hprovenance ⊢
      split at hprovenance
      · cases hprovenance
      next hkeys =>
        rw [if_neg hkeys]
        split at hprovenance
        next identity created mode items hidentity hcreated hmode hitems =>
          simp only [hidentity, hcreated, hmode, hitems, sorted, mapM_textOf_sorted]
          split at hprovenance
          · cases hprovenance
          next transforms htransforms =>
            split at hprovenance
            · cases hprovenance
            next time htime =>
              split at hprovenance
              · cases hprovenance
              next haware =>
                rw [if_neg haware]
                split at hprovenance
                · cases hprovenance
                next source hopen =>
                  obtain ⟨hsource, hfields⟩ :=
                    objectDict_eq_ok (hdata.fieldOf "source_locator") hopen
                  rw [hsource, objectDict_sorted]
                  dsimp only
                  split at hprovenance
                  · cases hprovenance
                  next locator hlocator =>
                    obtain ⟨same, hsame⟩ := resourceLocatorFromDict_sorted hfields hlocator
                    rw [hsame]
                    exact exists_new stdlib hprovenance same
        · cases hprovenance

theorem Artifact.exists_extensions {uri mediaType : String} {size : Int}
    {contentDigest blobDigest : Digest} {provenance : ArtifactProvenance stdlib.unicode}
    {metadata extensions : List (Key × Value)} {artifact : Artifact stdlib.unicode}
    (hartifact : new stdlib.unicode uri mediaType size contentDigest blobDigest provenance
      metadata extensions = .ok artifact) :
    ∃ frozen, freezeExtensions extensions = .ok frozen := by
  unfold new artifactError at hartifact
  split at hartifact
  · cases hartifact
  split_ifs at hartifact
  split at hartifact
  · cases hartifact
  split at hartifact
  · cases hartifact
  next frozen hfrozen => exact ⟨frozen, hfrozen⟩

/-- An artifact with its metadata and extensions in another order. -/
theorem Artifact.exists_new_sorted {uri mediaType : String} {size : Int}
    {contentDigest blobDigest : Digest} {provenance : ArtifactProvenance stdlib.unicode}
    {metadata extensions : List (String × Value)} (hmetadata : JsonFields metadata)
    (hextensions : JsonFields extensions) {artifact : Artifact stdlib.unicode}
    (hartifact : new stdlib.unicode uri mediaType size contentDigest blobDigest provenance
      (asMapping metadata) (asMapping extensions) = .ok artifact)
    (stored : ArtifactProvenance stdlib.unicode) :
    ∃ same, new stdlib.unicode uri mediaType size contentDigest blobDigest stored
      (asMapping (sortedFields metadata)) (asMapping (sortedFields extensions)) = .ok same := by
  have hkept := new_eq_ok hartifact
  have hpublic := artifact.uri_public
  have hmedia := artifact.mediaType_ne
  have hsize := artifact.size_nonneg
  rw [hkept.1] at hpublic
  rw [hkept.2.1] at hmedia
  rw [hkept.2.2.1] at hsize
  obtain ⟨frozen, hfrozen⟩ := exists_extensions stdlib hartifact
  obtain ⟨sortedMetadata, hsortedMetadata⟩ := hmetadata.sortedFields.exists_freeze "metadata"
  obtain ⟨sortedExtensions, hsortedExtensions⟩ := hextensions.exists_freezeExtensions hfrozen
  exact exists_new_eq_ok contentDigest blobDigest stored hpublic hmedia hsize hsortedMetadata
    hsortedExtensions

/-- An envelope that is accepted is accepted with its entries sorted. -/
theorem Artifact.fromDict_sorted {value : Value} (hvalue : IsJson value)
    {artifact : Artifact stdlib.unicode} (hartifact : fromDict stdlib value = .ok artifact) :
    ∃ same, fromDict stdlib (sorted value) = .ok same := by
  rw [fromDict] at hartifact
  cases hopen : inContract "contract" (objectDict "artifact" value) with
  | error error =>
      rw [hopen] at hartifact
      cases hartifact
  | ok data =>
      obtain ⟨rfl, hdata⟩ := objectDict_eq_ok hvalue hopen
      rw [hopen] at hartifact
      rw [fromDict, objectDict_sorted]
      simp only [bind, Except.bind, hasKeys_sortedFields, fieldOf_sortedFields hdata,
        isText_sorted, isOne_sorted] at hartifact ⊢
      split at hartifact
      · cases hartifact
      next hkeys =>
        rw [if_neg hkeys]
        split at hartifact
        next uri mediaType size huri hmedia hsize =>
          simp only [huri, hmedia, hsize, sorted]
          split at hartifact
          · cases hartifact
          next contentDigest hcontent =>
            rw [Digest.fromDict_sorted (hdata.fieldOf "content_digest") hcontent]
            dsimp only
            split at hartifact
            · cases hartifact
            next blobDigest hblob =>
              rw [Digest.fromDict_sorted (hdata.fieldOf "blob_digest") hblob]
              dsimp only
              split at hartifact
              · cases hartifact
              next provenance hprovenance =>
                obtain ⟨stored, hstored⟩ := ArtifactProvenance.fromDict_sorted stdlib
                  (hdata.fieldOf "provenance") hprovenance
                rw [hstored]
                dsimp only
                split at hartifact
                · cases hartifact
                next metadata hopen =>
                  obtain ⟨hmetadata, hentries⟩ :=
                    objectDict_eq_ok (hdata.fieldOf "metadata") hopen
                  rw [hmetadata, objectDict_sorted]
                  dsimp only
                  split at hartifact
                  · cases hartifact
                  next extensions hopen =>
                    obtain ⟨hextensions, hnamed⟩ :=
                      objectDict_eq_ok (hdata.fieldOf "extensions") hopen
                    rw [hextensions, objectDict_sorted]
                    exact exists_new_sorted stdlib hentries hnamed hartifact stored
        · cases hartifact

end Artifacts

end DataSluice.Domain
